import GrammarCheck.Proofs.Chars.Recovering

/-! # Reads that fail between characters

A read may fail in front of a line, inside it, several times in a row, and at the end. Where it
fails between two characters, the characters that were read before it stay at hand, and the next
read goes on behind them. So a caller who goes on behind every failure meets each failed read once
and gets all characters of the text in order.
-/

namespace GrammarCheck

namespace Results

variable {α β : Type}

def values (results : List (Except IoFailure α)) : List α :=
  results.filterMap Except.toOption

def failures (results : List (Except IoFailure α)) : List IoFailure :=
  results.filterMap fun
    | .ok _ => none
    | .error failure => some failure

@[simp] theorem values_nil : values ([] : List (Except IoFailure α)) = [] := rfl

@[simp] theorem failures_nil : failures ([] : List (Except IoFailure α)) = [] := rfl

@[simp] theorem values_append (front back : List (Except IoFailure α)) :
    values (front ++ back) = values front ++ values back :=
  List.filterMap_append

@[simp] theorem failures_append (front back : List (Except IoFailure α)) :
    failures (front ++ back) = failures front ++ failures back :=
  List.filterMap_append

@[simp] theorem values_map_ok (given : List α) : values (given.map .ok) = given := by
  rw [values, List.filterMap_map]
  exact List.filterMap_some

@[simp] theorem failures_map_ok (given : List α) : failures (given.map .ok) = [] := by
  rw [failures, List.filterMap_map]
  exact List.filterMap_eq_nil_iff.mpr fun _ _ => rfl

@[simp] theorem values_map_error (met : List IoFailure) :
    values (met.map .error : List (Except IoFailure α)) = [] := by
  rw [values, List.filterMap_map]
  exact List.filterMap_eq_nil_iff.mpr fun _ _ => rfl

@[simp] theorem failures_map_error (met : List IoFailure) :
    failures (met.map .error : List (Except IoFailure α)) = met := by
  rw [failures, List.filterMap_map]
  exact List.filterMap_some

end Results

open Results (values failures)

namespace Feed

variable {feed : Feed} {items : List (Except IoFailure Char)}

/-- The characters in UTF-8, with the failed reads that stand between them. -/
def encode (items : List (Except IoFailure Char)) : Feed :=
  items.flatMap fun
    | .ok c => ofBytes (String.utf8EncodeChar c)
    | .error failure => [.error failure]

private theorem values_encode (items : List (Except IoFailure Char)) :
    values (encode items) = utf8Bytes (values items) := by
  induction items with
  | nil => rfl
  | cons item items ih =>
    rw [encode] at ih
    cases item with
    | ok c =>
      rw [encode, List.flatMap_cons, Results.values_append, ih]
      exact congrArg (· ++ utf8Bytes (values items)) (Results.values_map_ok _)
    | error failure => exact ih

private theorem failures_encode (items : List (Except IoFailure Char)) :
    failures (encode items) = failures items := by
  induction items with
  | nil => rfl
  | cons item items ih =>
    rw [encode] at ih
    cases item with
    | ok c =>
      rw [encode, List.flatMap_cons, Results.failures_append, ih]
      exact congrArg (· ++ failures items) (Results.failures_map_ok _)
    | error failure => exact congrArg (failure :: ·) ih

/-- A line of encoded items is the encoding of characters in front of them, up to a line feed, to a
failed read or to the end. -/
private theorem exists_line_encode (items : List (Except IoFailure Char)) :
    ∃ (front : List Char) (failure? : Option IoFailure) (back : List (Except IoFailure Char)),
      items = front.map .ok ++ (failure?.toList.map .error ++ back) ∧
        (encode items).line = ⟨utf8Bytes front, failure?, encode back⟩ := by
  induction items with
  | nil => exact ⟨[], none, [], rfl, rfl⟩
  | cons item items ih =>
    cases item with
    | error failure => exact ⟨[], some failure, items, rfl, rfl⟩
    | ok c =>
      by_cases lineFeed : c = '\n'
      · subst lineFeed
        exact ⟨['\n'], none, items, rfl, rfl⟩
      · obtain ⟨front, failure?, back, split, line⟩ := ih
        have within := Buffered.splitLine?_eq_none (lineFeed_not_mem_utf8EncodeChar lineFeed)
        have bytes : encode (.ok c :: items) = ofBytes (String.utf8EncodeChar c) ++ encode items :=
          rfl
        refine ⟨c :: front, failure?, back, congrArg (_ :: ·) split, ?_⟩
        rw [bytes, Buffered.line_of_splitLine?_none _ within, line]
        rfl

theorem lines_eq_cons (some : feed ≠ []) :
    feed.lines = feed.line.map (fun _ => ()) :: feed.line.rest.lines := by
  cases feed with
  | nil => contradiction
  | cons item feed => rw [lines]

private theorem values_line (feed : Feed) :
    values feed = feed.line.bytes ++ values feed.line.rest := by
  fun_induction line feed with
  | case1 => rfl
  | case2 failure rest => rfl
  | case3 rest => rfl
  | case4 byte rest goesOn further ih => exact congrArg (byte :: ·) ih

private theorem failures_line (feed : Feed) :
    failures feed = feed.line.failure?.toList ++ failures feed.line.rest := by
  fun_induction line feed with
  | case1 => rfl
  | case2 failure rest => rfl
  | case3 rest => rfl
  | case4 byte rest goesOn further ih => exact ih

/-- Every line can be decoded, and there is no mark among its characters. -/
def Plain (feed : Feed) : Prop :=
  ∀ line ∈ feed.lines, ∃ text, line.text? = some text ∧ byteOrderMark ∉ text

private theorem plain_nil : Plain [] := by
  rw [Plain, lines]
  exact List.forall_mem_nil _

namespace Plain

private theorem rest (plain : feed.Plain) : feed.line.rest.Plain := by
  by_cases nonempty : feed = []
  · subst nonempty
    exact plain_nil
  · intro line behind
    exact plain line (lines_eq_cons nonempty ▸ List.mem_cons_of_mem _ behind)

/-- Where each line can be decoded, just the failed reads make it to what is handed. -/
theorem handed (plain : feed.Plain) :
    utf8Bytes (values (feed.lines.flatMap Line.handed)) = values feed ∧
      failures (feed.lines.flatMap Line.handed) = failures feed := by
  induction feed using lines.induct with
  | case1 => simp [lines]
  | case2 item feed ih =>
    have all := lines_eq_cons (List.cons_ne_nil item feed)
    obtain ⟨bytes, met⟩ := ih plain.rest
    obtain ⟨text, decodes, -⟩ := plain _ (all ▸ List.mem_cons_self)
    have encoded := Line.utf8Bytes_of_text? decodes
    rw [values_line, failures_line, all, List.flatMap_cons, Line.handed, decodes, ← bytes, ← met]
    simp [utf8Bytes_append, encoded, Line.map]

theorem decoded_eq (plain : feed.Plain) (started : Bool) :
    decoded started feed.lines = feed.lines.flatMap Line.handed := by
  refine decoded_of_unmarked (fun line listed text decodes marked => ?_) started
  obtain ⟨text', decodes', unmarked⟩ := plain line listed
  obtain rfl := Option.some.inj (decodes'.symm.trans decodes)
  exact unmarked (List.mem_of_head? marked)

end Plain

/-- Failed reads between characters leave lines that can be decoded. -/
theorem plain_encode (unmarked : byteOrderMark ∉ values items) : (encode items).Plain := by
  generalize encoded : encode items = feed
  induction feed using lines.induct generalizing items with
  | case1 => exact plain_nil
  | case2 item feed ih =>
    obtain ⟨front, failure?, back, rfl, line⟩ := exists_line_encode items
    rw [encoded] at line
    simp only [Results.values_append, Results.values_map_ok, List.mem_append, not_or] at unmarked
    have others := ih unmarked.2.2 (congrArg Line.rest line).symm
    intro first listed
    rw [lines_eq_cons (List.cons_ne_nil item feed), List.mem_cons] at listed
    obtain rfl | behind := listed
    · refine ⟨front, ?_, unmarked.1⟩
      rw [line]
      simp [Line.map, Line.text?, fromUTF8?_utf8Bytes]
    · exact others first behind

/-- Of encoded items come their characters and their failures, though a failure comes before the
characters that stand in front of it on its line. -/
theorem decoded_encode (unmarked : byteOrderMark ∉ values items) :
    values (decoded false (encode items).lines) = values items ∧
      failures (decoded false (encode items).lines) = failures items := by
  have plain := plain_encode unmarked
  obtain ⟨bytes, met⟩ := plain.handed
  rw [plain.decoded_eq]
  rw [values_encode] at bytes
  rw [failures_encode] at met
  exact ⟨utf8Bytes_injective bytes, met⟩

end Feed

namespace CharStream

variable {σ τ : Type} [CharStream σ] [CharStream τ]

def after : List Call → σ → σ
  | [], source => source
  | call :: calls, source => after calls (ask call source).state

/-- The calls, each with its answer. -/
def exchanges (calls : List Call) (source : σ) : List (Call × Except IoFailure (Option Char)) :=
  calls.zip (answers calls source)

/-- What was taken, with `none` for the end of the text. -/
def taken (exchanged : List (Call × Except IoFailure (Option Char))) : List (Option Char) :=
  exchanged.filterMap fun
    | (.next, .ok c?) => some c?
    | _ => none

@[simp] theorem taken_next_ok (c? : Option Char)
    (exchanged : List (Call × Except IoFailure (Option Char))) :
    taken ((.next, .ok c?) :: exchanged) = c? :: taken exchanged := rfl

@[simp] theorem taken_peek (answer : Except IoFailure (Option Char))
    (exchanged : List (Call × Except IoFailure (Option Char))) :
    taken ((.peek, answer) :: exchanged) = taken exchanged := rfl

@[simp] theorem taken_error (call : Call) (failure : IoFailure)
    (exchanged : List (Call × Except IoFailure (Option Char))) :
    taken ((call, .error failure) :: exchanged) = taken exchanged := by
  cases call <;> rfl

theorem exchanges_cons (call : Call) (calls : List Call) (source : σ) :
    exchanges (call :: calls) source =
      (call, (ask call source).result) :: exchanges calls (ask call source).state := rfl

/-- Streams that stay in step are in step behind all calls. -/
theorem after_of_alike {related : σ → τ → Prop}
    (alike : ∀ call {left right}, related left right →
      Outcome.Alike related (ask call left) (ask call right))
    (calls : List Call) {left : σ} {right : τ} (start : related left right) :
    related (after calls left) (after calls right) := by
  induction calls generalizing left right with
  | nil => exact start
  | cons call calls ih => exact ih (alike call start).states

namespace Recovers

variable {fails : List Char → Prop} {serves : Nat → σ → List Char → Prop} {failures : Nat}
  {source : σ} {text : List Char}

private theorem served_state (recovers : Recovers fails serves)
    (served : serves failures source text)
    (call : Call) : ∃ fewer left, serves fewer (ask call source).state left := by
  obtain ⟨rest, asked, left⟩ | ⟨failure, fewer, rest, asked, -, -, left⟩ :=
    recovers.asked call served
  · exact ⟨failures, call.leave text, asked ▸ left⟩
  · exact ⟨fewer, text, asked ▸ left⟩

/-- The characters that are taken are those of the text in order, and then there are none. Each call
takes the next one, unless it meets a failed read. -/
theorem taken_eq (recovers : Recovers fails serves) (served : serves failures source text)
    (calls : List Call) :
    taken (exchanges calls source) =
        (List.range (taken (exchanges calls source)).length).map (text[·]?) ∧
      calls.count .next ≤ (taken (exchanges calls source)).length + failures := by
  induction calls generalizing failures source text with
  | nil => exact ⟨rfl, Nat.zero_le _⟩
  | cons call calls ih =>
    rw [exchanges_cons]
    obtain ⟨rest, asked, left⟩ | ⟨failure, fewer, rest, asked, -, less, left⟩ :=
      recovers.asked call served
    · obtain ⟨spelled, enough⟩ := ih left
      rw [asked, Outcome.result_ok, Outcome.state_ok]
      cases call with
      | peek => exact ⟨spelled, by simpa using enough⟩
      | next =>
        have further : taken (exchanges calls rest) =
            (List.range (taken (exchanges calls rest)).length).map (text[· + 1]?) := by
          simpa [Call.leave] using spelled
        refine ⟨?_, ?_⟩
        · rw [taken_next_ok, List.length_cons, List.range_succ_eq_map, List.map_cons, List.map_map,
            ← List.head?_eq_getElem?]
          exact congrArg (text.head? :: ·) further
        · rw [taken_next_ok, List.length_cons, List.count_cons_self]
          omega
    · obtain ⟨spelled, enough⟩ := ih left
      rw [asked, Outcome.result_error, Outcome.state_error, taken_error]
      refine ⟨spelled, ?_⟩
      have once : (call :: calls).count .next ≤ calls.count .next + 1 := by
        rw [List.count_cons]
        split <;> omega
      omega

/-- The character that is shown is the next one to be taken. -/
private theorem taken_behind_shown (recovers : Recovers fails serves)
    (served : serves failures source text) {calls : List Call}
    {front back : List (Call × Except IoFailure (Option Char))} {c? : Option Char}
    (shown : exchanges calls source = front ++ (.peek, .ok c?) :: back) :
    ∀ next? ∈ (taken back).head?, next? = c? := by
  induction calls generalizing failures source text front with
  | nil => cases front <;> contradiction
  | cons call calls ih =>
    rw [exchanges_cons] at shown
    cases front with
    | cons exchange front =>
      obtain ⟨fewer, left, further⟩ := recovers.served_state served call
      exact ih further (List.cons.inj shown).2
    | nil =>
      obtain ⟨here, rfl⟩ := List.cons.inj shown
      obtain ⟨rfl, answered⟩ := Prod.mk.inj here
      obtain ⟨rest, asked, left⟩ | ⟨failure, fewer, rest, asked, -⟩ := recovers.asked .peek served
      · rw [asked] at answered ⊢
        obtain rfl := Except.ok.inj answered
        have spelled := (recovers.taken_eq left calls).1
        intro next? first
        rw [Outcome.state_ok] at first
        cases others : taken (exchanges calls rest) with
        | nil =>
          rw [others] at first
          contradiction
        | cons c? further =>
          rw [others, List.length_cons, List.range_succ_eq_map, List.map_cons] at spelled
          rw [others] at first
          obtain rfl := Option.some.inj first
          exact (List.cons.inj spelled).1.trans List.head?_eq_getElem?.symm
      · rw [asked] at answered
        contradiction

end Recovers

end CharStream

namespace Script

open CharStream (Call after answers)

/-- With the characters and failures of its items a script serves a text. -/
theorem serves_values (items : List (Except IoFailure Char)) :
    Serves (fun _ => True) (failures items).length items (values items) := by
  induction items with
  | nil => exact .finish
  | cons item items ih =>
    cases item with
    | ok c => exact .char c ih
    | error failure => exact .failure failure trivial ih

/-- Each failure is met once, or it is still to come. -/
theorem failures_answers (calls : List Call) (items : List (Except IoFailure Char)) :
    failures (answers calls (mk items)) ++ failures (after calls (mk items)).items =
      failures items := by
  induction calls generalizing items with
  | nil => rfl
  | cons call calls ih =>
    rw [answers, after]
    obtain _ | ⟨failure | c, items⟩ := items
    · cases call <;> exact ih []
    · cases call <;> exact congrArg (failure :: ·) (ih items)
    · cases call with
      | next => exact ih items
      | peek => exact ih (.ok c :: items)

end Script

namespace Utf8Lines

open CharStream (after answers ask exchanges taken)

variable {lines : Utf8Lines} {items : List (Except IoFailure Char)}

/-- The feed can be read, and what is still to be read of it is plain. -/
structure ReadsPlain (lines : Utf8Lines) : Prop where
  positive : 0 < lines.buffer.capacity
  plain : lines.buffer.toFeed.Plain

namespace ReadsPlain

/-- A line that is loaded is taken off the feed. -/
private theorem loadLine (reads : lines.ReadsPlain) : lines.loadLine.state.ReadsPlain := by
  have buffer : lines.loadLine.state.buffer = lines.buffer.readLine.rest := by
    unfold Utf8Lines.loadLine
    dsimp only
    split
    · rfl
    · split <;> rfl
  have line := lines.buffer.map_toFeed_readLine reads.positive
  constructor
  · rw [buffer, Buffered.capacity_readLine]
    exact reads.positive
  · have behind := reads.plain.rest
    rw [← line] at behind
    rwa [buffer]

private theorem fill (reads : lines.ReadsPlain) : lines.fill.state.ReadsPlain := by
  fun_induction Utf8Lines.fill lines with
  | case1 => exact reads
  | case2 => exact reads
  | case3 lines unfinished used failure rest loaded =>
    have behind := reads.loadLine
    rwa [loaded] at behind
  | case4 lines unfinished used rest loaded ih =>
    have behind := reads.loadLine
    rw [loaded] at behind
    exact ih behind

private theorem peek (reads : lines.ReadsPlain) : lines.peek.state.ReadsPlain := by
  have filled := reads.fill
  unfold Utf8Lines.peek
  split <;> next same => rwa [same] at filled

private theorem ask (reads : lines.ReadsPlain) (call : CharStream.Call) :
    (ask call lines).state.ReadsPlain := by
  have shown := reads.peek
  cases call with
  | peek => exact shown
  | next =>
    change lines.next.state.ReadsPlain
    unfold Utf8Lines.next
    split <;> next same =>
      rw [same] at shown
      exact ⟨shown.positive, shown.plain⟩

theorem after (reads : lines.ReadsPlain) (calls : List CharStream.Call) :
    (after calls lines).ReadsPlain := by
  induction calls generalizing lines with
  | nil => exact reads
  | cons call calls ih => exact ih (reads.ask call)

end ReadsPlain

/-- The failures that are still to come are those that are left in a plain feed. -/
theorem Reads.failures_eq (reads : lines.Reads items) (plain : lines.buffer.toFeed.Plain) :
    failures items = failures lines.buffer.toFeed := by
  obtain ⟨front, feed, decodes, rfl⟩ := reads
  rw [decodes.toFeed_eq] at plain ⊢
  rw [Results.failures_append, Results.failures_map_ok, List.nil_append, plain.decoded_eq]
  exact plain.handed.2

/-- Where reads fail between characters, whoever goes on behind the failures takes the text in order
and then finds its end, and is shown each time what comes next. Each failed read is met once, or it
is still ahead. -/
theorem failed_reads_lose_no_character {items : List (Except IoFailure Char)}
    (unmarked : byteOrderMark ∉ values items) {capacity : Nat} (positive : 0 < capacity)
    (calls : List CharStream.Call) :
    let source := ofFeed capacity (Feed.encode items)
    let exchanged := exchanges calls source
    taken exchanged = (List.range (taken exchanged).length).map ((values items)[·]?) ∧
      calls.count .next ≤ (taken exchanged).length + (failures items).length ∧
      (∀ front c? back, exchanged = front ++ (.peek, .ok c?) :: back →
        ∀ next? ∈ (taken back).head?, next? = c?) ∧
      failures (answers calls source) ++ failures (CharStream.after calls source).buffer.toFeed =
        failures items := by
  intro source exchanged
  obtain ⟨text, met⟩ := Feed.decoded_encode unmarked
  have reads : source.Reads (Feed.decoded false (Feed.encode items).lines) :=
    reads_ofFeed _ positive
  have answered := answers_ofFeed (Feed.encode items) positive calls
  generalize Feed.decoded false (Feed.encode items).lines = script at text met reads answered
  have serves := Script.serves_values script
  rw [text, met] at serves
  have recovers := recovers fun _ => True
  obtain ⟨spelled, enough⟩ := recovers.taken_eq ⟨script, reads, serves⟩ calls
  refine ⟨spelled, enough, fun front c? back => recovers.taken_behind_shown ⟨script, reads, serves⟩,
    ?_⟩
  have start : source.ReadsPlain := ⟨positive, Feed.plain_encode unmarked⟩
  have left : (CharStream.after calls source).Reads
      (CharStream.after calls (Script.mk script)).items :=
    CharStream.after_of_alike (fun call {_ _} reads => Reads.ask reads call) calls reads
  rw [← left.failures_eq (start.after calls).plain, answered, Script.failures_answers, met]

/-- Two reads in a row fail within a line, a third one at the end. The failures of the line come
before its characters. -/
theorem taken_behind_three_failures :
    let failure : IoFailure := ⟨.other, "injected failure"⟩
    let items : List (Except IoFailure Char) :=
      [.ok 'a', .error failure, .error failure, .ok 'é', .error failure]
    let calls : List CharStream.Call := [.peek, .next, .peek, .next, .next, .peek, .next, .next]
    let source := ofFeed 2 (Feed.encode items)
    let exchanged := exchanges calls source
    byteOrderMark ∉ values items ∧ 0 < 2 ∧
      (taken exchanged = (List.range (taken exchanged).length).map ((values items)[·]?) ∧
        calls.count .next ≤ (taken exchanged).length + (failures items).length ∧
        (∀ front c? back, exchanged = front ++ (.peek, .ok c?) :: back →
          ∀ next? ∈ (taken back).head?, next? = c?) ∧
        failures (answers calls source) ++
          failures (CharStream.after calls source).buffer.toFeed = failures items) ∧
      answers calls source =
        [.error failure, .ok (some 'a'), .error failure, .error failure, .ok (some 'é'), .ok none,
          .ok none, .ok none] := by
  intro failure items calls source exchanged
  have unmarked : byteOrderMark ∉ values items := by decide
  exact ⟨unmarked, by decide,
    failed_reads_lose_no_character unmarked (show 0 < 2 by decide) calls, by decide +kernel⟩

end Utf8Lines

end GrammarCheck
