import GrammarCheck.Proofs.Lexing.Looking
import GrammarCheck.Proofs.Lexing.Resuming

/-! # Calls that are made again

A call on a lexer that fails is made again until it does not. Over a stream that recovers the
answers then tell of the same tokens as if nothing had failed, if every token can be started over
where a read fails.
-/

namespace GrammarCheck

open Chars CharStream

namespace Lexer

def Answer.failed : Answer → Bool
  | .shown (.error _) | .dropped (.error _) | .listed (some (.error _)) => true
  | _ => false

/-- The kind and the text of the token that the answer tells of. -/
def Answer.word? : Answer → Option (Token.Kind × String)
  | .shown (.ok token) | .listed (some (.ok token)) => some token.word
  | _ => none

section Definitions

variable {σ : Type} [CharStream σ]

/-- Makes a call, and makes it again while it fails, but not more than so many times. -/
def persist (lexer : Lexer σ) (call : Call) : Nat → Answer × Lexer σ
  | 0 => lexer.ask call
  | tries + 1 =>
    if (lexer.ask call).1.failed then (lexer.ask call).2.persist call tries else lexer.ask call

/-- The answers to calls one after the other, each of them made again while it fails. -/
def persistentAnswers (tries : Nat) (lexer : Lexer σ) : List Call → List Answer
  | [] => []
  | call :: calls => (lexer.persist call tries).1 ::
      (lexer.persist call tries).2.persistentAnswers tries calls

end Definitions

variable {σ : Type} [CharStream σ] {fails : List Char → Prop} {serves : Nat → σ → List Char → Prop}

/-- No token was shown, and these tokens follow. -/
structure Waits (fails : List Char → Prop) (serves : Nat → σ → List Char → Prop) (failures : Nat)
    (lexer : Lexer σ) (tokens : Tokens) : Prop where
  lookahead_eq : lexer.lookahead = none
  held : lexer.cursor.released = false
  unfinished : lexer.cursor.spot ≠ .finish
  ahead : ∃ text, serves failures lexer.cursor.source text ∧ tokens.Recoverable fails false text

/-- The lookahead is the first of the tokens but for its place, and the others follow. -/
structure Displays (fails : List Char → Prop) (serves : Nat → σ → List Char → Prop) (failures : Nat)
    (lexer : Lexer σ) (tokens : Tokens) : Prop where
  showing : ∃ token, lexer.lookahead = some token ∧ token.SameWord tokens.first
  held : lexer.cursor.released = false
  behind : tokens.front ≠ [] → ∃ text, lexer.cursor.Faces serves failures text ∧
    tokens.rest.Recoverable fails true text

variable {lexer : Lexer σ} {failures : Nat} {shown : Bool} {text : List Char} {tokens : Tokens}

/-- The first of the tokens becomes the lookahead, or the cursor stays where it can be started
over. -/
private theorem loadToken_of_faces (recovers : Recovers fails serves)
    (faces : lexer.cursor.Faces serves failures text)
    (recoverable : tokens.Recoverable fails shown text) :
    (∃ next, lexer.loadToken = .ok () next ∧ next.Displays fails serves failures tokens) ∨
      ∃ cause fewer cursor c behind, lexer.loadToken = .error (.io cause) { lexer with cursor } ∧
        fewer < failures ∧ cursor.Faces serves fewer (c :: behind) ∧
        tokens.Recoverable fails shown (c :: behind) ∧
        (shown = false → isBlank c = true ∧ tokens.Recoverable fails shown behind) := by
  obtain ⟨token, cursor, read, same, held, further⟩ |
    ⟨cause, fewer, cursor, c, behind, failed, less, facing, again, fresh⟩ :=
    faces.nextToken recovers recoverable
  · left
    refine ⟨_, by rw [loadToken, read], ⟨token, rfl, same⟩, held, fun more => ?_⟩
    obtain ⟨behind, facing, others⟩ := further more
    exact ⟨behind, ⟨facing.held, facing.spot_eq, facing.lineEnded_eq, facing.served⟩, others⟩
  · right
    refine ⟨cause, fewer, cursor, c, behind, ?_, less, facing, again, fresh⟩
    rw [loadToken, failed]

/-- A drop gives way to the next token, or it fails and keeps the lookahead. -/
theorem Displays.drop (recovers : Recovers fails serves)
    (displays : lexer.Displays fails serves failures tokens)
    (running : ∀ token ∈ tokens.front, token.kind ≠ .endOfInput) :
    (∃ next, lexer.drop = .ok () next ∧ next.Displays fails serves failures tokens.rest) ∨
      ∃ cause fewer next, lexer.drop = .error (.io cause) next ∧ fewer < failures ∧
        next.Displays fails serves fewer tokens := by
  obtain ⟨⟨token, lookahead, same⟩, held, behind⟩ := displays
  have kinds : token.kind = tokens.first.kind := congrArg Prod.fst same
  rw [drop_eq, if_neg (by simp [held]), lookahead]
  dsimp only
  obtain ⟨_ | ⟨first, front⟩, finish⟩ := tokens
  · left
    exact ⟨lexer, if_pos kinds, ⟨token, lookahead, same⟩, held, behind⟩
  · rw [if_neg (kinds.trans_ne (running first (List.mem_cons_self ..)))]
    obtain ⟨text, faces, others⟩ := behind (List.cons_ne_nil _ _)
    obtain loaded | ⟨cause, fewer, cursor, c, rest, failed, less, facing, again, -⟩ :=
      loadToken_of_faces recovers faces others
    · exact .inl loaded
    · exact .inr ⟨cause, fewer, _, failed, less, ⟨token, lookahead, same⟩, facing.held,
        fun _ => ⟨_, facing, again⟩⟩

/-- The first drop shows the first token, or it fails and shows none. -/
theorem Waits.drop (recovers : Recovers fails serves)
    (waits : lexer.Waits fails serves failures tokens) :
    (∃ next, lexer.drop = .ok () next ∧ next.Displays fails serves failures tokens) ∨
      ∃ cause fewer next, lexer.drop = .error (.io cause) next ∧ fewer < failures ∧
        next.Waits fails serves fewer tokens := by
  obtain ⟨start, lookahead, finished⟩ := lexer
  obtain ⟨rfl, held, unfinished, text, served, recoverable⟩ := waits
  dsimp only at held unfinished served
  rw [drop_eq, if_neg (by simp [held])]
  dsimp only
  have sound : ∀ behind, text = '\r' :: behind → ¬ fails behind := by
    rintro behind rfl
    exact recoverable.resumable.not_fails rfl List.suffix_rfl
  obtain ⟨cursor, moved, faces⟩ | ⟨cause, fewer, source, failed, may, less, served⟩ :=
    Cursor.move_of_recovers recovers held unfinished served sound
  · rw [moved, Outcome.lift, Outcome.andThen_ok]
    have entered : (Lexer.mk cursor none finished).cursor.Faces serves failures text := faces
    obtain loaded | ⟨cause, fewer, there, c, behind, failed, less, facing, -, fresh⟩ :=
      loadToken_of_faces recovers entered recoverable
    · exact .inl loaded
    · -- The next try moves on first, off the blank.
      obtain ⟨blank, again⟩ := fresh rfl
      have single : c = '\r' → behind.head? ≠ some '\n' := by
        rintro rfl
        exact absurd blank (by decide)
      have served := facing.served
      rw [afterFirst_cons single] at served
      have here : there.spot = .char c := facing.spot_eq
      exact .inr ⟨cause, fewer, _, failed, less, rfl, facing.held, by simp [here], behind, served,
        again⟩
  · rw [failed]
    exact .inr ⟨cause, fewer, _, rfl, less, rfl, by simpa using held, by simpa using unfinished,
      text, served, recoverable⟩

/-- The lexer is as far with the tokens as one that never fails. -/
inductive Abreast (fails : List Char → Prop) (serves : Nat → σ → List Char → Prop) (failures : Nat)
    (left : Lexer σ) (right : Lexer Text) : Prop
  | unread {tokens : Tokens} (waits : left.Waits fails serves failures tokens)
    (unread : right.Unread tokens)
  | shown {tokens : Tokens} (displays : left.Displays fails serves failures tokens)
    (shows : right.Shows tokens)

variable {left : Lexer σ} {right : Lexer Text} {call : Call}

/-- A call tells the same as if nothing had failed, or it fails and can be made again. -/
theorem Abreast.ask (recovers : Recovers fails serves)
    (abreast : left.Abreast fails serves failures right) (driven : call ≠ .next) :
    ((left.ask call).1.failed = false ∧ (left.ask call).1.word? = (right.ask call).1.word? ∧
        (left.ask call).2.Abreast fails serves failures (right.ask call).2) ∨
      (left.ask call).1.failed = true ∧ ∃ fewer < failures,
        (left.ask call).2.Abreast fails serves fewer right := by
  cases abreast with
  | unread waits unread =>
    cases call with
    | next => contradiction
    | drop =>
      obtain ⟨there, dropped', shows, -⟩ := unread.drop
      rw [Lexer.ask, Lexer.ask, dropped']
      obtain ⟨next, dropped, displays⟩ | ⟨cause, fewer, next, failed, less, again⟩ :=
        waits.drop recovers
      · rw [dropped]
        exact .inl ⟨rfl, rfl, .shown displays shows⟩
      · rw [failed]
        exact .inr ⟨rfl, fewer, less, .unread again unread⟩
    | peek =>
      obtain ⟨there, shown, shows, -⟩ := Offers.peek (.inl unread)
      rw [Lexer.ask, Lexer.ask, shown, peek_eq, waits.lookahead_eq]
      dsimp only
      obtain ⟨next, dropped, displays⟩ | ⟨cause, fewer, next, failed, less, again⟩ :=
        waits.drop recovers
      · obtain ⟨token, held, same⟩ := displays.showing
        rw [dropped, Outcome.andThen_ok, held]
        exact .inl ⟨rfl, congrArg some same, .shown displays shows⟩
      · rw [failed]
        exact .inr ⟨rfl, fewer, less, .unread again unread⟩
  | shown displays shows =>
    cases call with
    | next => contradiction
    | drop =>
      obtain ⟨there, dropped', following, -⟩ := shows.drop
      rw [Lexer.ask, Lexer.ask, dropped']
      obtain ⟨next, dropped, further⟩ | ⟨cause, fewer, next, failed, less, again⟩ :=
        displays.drop recovers shows.running
      · rw [dropped]
        exact .inl ⟨rfl, rfl, .shown further following⟩
      · rw [failed]
        exact .inr ⟨rfl, fewer, less, .shown again shows⟩
    | peek =>
      obtain ⟨token, held, same⟩ := displays.showing
      rw [Lexer.ask, Lexer.ask, peek_of_held held, peek_of_held shows.lookahead_eq]
      exact .inl ⟨rfl, congrArg some same, .shown displays shows⟩

/-- A call that is made again as often as a read may fail tells the same as if nothing had
failed. -/
theorem Abreast.persist (recovers : Recovers fails serves) (driven : call ≠ .next) {tries : Nat}
    (abreast : left.Abreast fails serves failures right) (enough : failures ≤ tries) :
    (left.persist call tries).1.failed = false ∧
      (left.persist call tries).1.word? = (right.ask call).1.word? ∧
      ∃ fewer ≤ tries,
        (left.persist call tries).2.Abreast fails serves fewer (right.ask call).2 := by
  induction tries generalizing left failures with
  | zero =>
    obtain ⟨succeeded, same, behind⟩ | ⟨-, fewer, less, -⟩ := abreast.ask recovers driven
    · exact ⟨succeeded, same, failures, enough, behind⟩
    · omega
  | succ tries ih =>
    rw [Lexer.persist]
    obtain ⟨succeeded, same, behind⟩ | ⟨failed, fewer, less, again⟩ := abreast.ask recovers driven
    · rw [if_neg (by simp [succeeded])]
      exact ⟨succeeded, same, failures, enough, behind⟩
    · rw [if_pos failed]
      obtain ⟨succeeded, same, fewer, bound, behind⟩ := ih again (by omega)
      exact ⟨succeeded, same, fewer, Nat.le_succ_of_le bound, behind⟩

theorem Abreast.persistentAnswers (recovers : Recovers fails serves) {tries : Nat}
    (abreast : left.Abreast fails serves failures right) (enough : failures ≤ tries)
    {calls : List Call} (driven : .next ∉ calls) :
    (∀ answer ∈ left.persistentAnswers tries calls, answer.failed = false) ∧
      (left.persistentAnswers tries calls).map Answer.word? =
        (right.answers calls).map Answer.word? := by
  induction calls generalizing left right failures with
  | nil => exact ⟨List.forall_mem_nil _, rfl⟩
  | cons call calls ih =>
    obtain ⟨first, others⟩ := List.ne_and_not_mem_of_not_mem_cons driven
    obtain ⟨succeeded, same, fewer, bound, behind⟩ := abreast.persist recovers first.symm enough
    obtain ⟨successes, words⟩ := ih behind bound others
    refine ⟨List.forall_mem_cons.mpr ⟨succeeded, successes⟩, ?_⟩
    rw [Lexer.persistentAnswers, answers, List.map_cons, List.map_cons, same, words]

/-- Over a source that serves a text, but fails now and then and loses no character, looks and drops
that are made again while they fail show the kinds and texts that they would show over the text
itself, if every token can be started over where a read fails. So reads may fail in front of the
text, behind blanks and, once a token was shown, behind the first character of a token or a
comment. -/
theorem repeated_calls_show_the_same_words (recovers : Recovers fails serves) {source : σ}
    {text : List Char} {failures tries : Nat} (served : serves failures source text)
    (resumable : Resumable fails false text) (enough : failures ≤ tries) (name : String)
    (line column : Nat) {calls : List Call} (driven : .next ∉ calls) :
    let repeated := (start source name line column).persistentAnswers tries calls
    let answers := (start (Text.mk text) name line column).answers calls
    (∀ answer ∈ repeated, answer.failed = false) ∧
      repeated.map Answer.word? = answers.map Answer.word? := by
  intro repeated answers
  have serves : SteadyStream.Serves (Text.mk text) text := rfl
  obtain ⟨tokens, lexed, unread⟩ := exists_unread_start serves name line column
  have unfinished : (start source name line column).cursor.spot ≠ .finish := nofun
  have recoverable : tokens.Recoverable fails false text := ⟨resumable, .of_lexed lexed⟩
  exact Abreast.persistentAnswers recovers
    (.unread ⟨rfl, rfl, unfinished, text, served, recoverable⟩ unread) enough driven

/-- The first read fails, and so does the one behind the first character of the second word. -/
theorem word_is_started_over_behind_its_first_character :
    let failure : IoFailure := ⟨.other, "injected failure"⟩
    let source := Utf8Lines.ofFeed 8192 (Feed.failingAt "x abc".toUTF8.data.toList 3 2 failure)
    let text := ['x', ' ', 'a', 'b', 'c']
    let fails (rest : List Char) : Prop := rest = text ∨ rest = ['b', 'c']
    let calls := [Call.peek, .drop, .peek, .drop, .peek]
    let repeated := (start source "g" 0 0).persistentAnswers 2 calls
    let answers := (start (Text.mk text) "g" 0 0).answers calls
    Resumable fails false text ∧ .next ∉ calls ∧
      (∀ answer ∈ repeated, answer.failed = false) ∧
      repeated.map Answer.word? = answers.map Answer.word? := by
  intro failure source text fails calls repeated answers
  have items : Feed.decoded false
      (Feed.lines (Feed.failingAt "x abc".toUTF8.data.toList 3 2 failure)) =
        [.error failure, .ok 'x', .ok ' ', .ok 'a', .error failure, .ok 'b', .ok 'c'] := by
    decide +kernel
  have reads := Utf8Lines.reads_ofFeed
    (Feed.failingAt "x abc".toUTF8.data.toList 3 2 failure) (show 0 < 8192 by decide)
  rw [items] at reads
  have serves : Script.Serves fails 2
      [.error failure, .ok 'x', .ok ' ', .ok 'a', .error failure, .ok 'b', .ok 'c'] text :=
    .failure failure (.inl rfl) (.char 'x' (.char ' ' (.char 'a'
      (.failure failure (.inr rfl) (.char 'b' (.char 'c' .finish))))))
  have word : Token.Kind.identifier.Spells ['x'] [' ', 'a', 'b', 'c'] :=
    ⟨⟨'x', [], rfl, by decide, nofun⟩, by rintro _ ⟨⟩; rfl⟩
  have letters : ∀ c ∈ ['b', 'c'], Chars.isWordRest c = true :=
    List.forall_mem_cons.mpr ⟨by decide, List.forall_mem_singleton.mpr (by decide)⟩
  have second : Token.Kind.identifier.Spells ['a', 'b', 'c'] [] :=
    ⟨⟨'a', ['b', 'c'], rfl, by decide, letters⟩, nofun⟩
  have whole : Whole fails false [] [' ', 'a', 'b', 'c'] := by
    rintro back suffix failed
    obtain rfl := List.suffix_nil.mp suffix
    obtain same | same := failed <;> exact absurd same (by decide)
  have wholeSecond : Whole fails true ['b', 'c'] [] := by
    rintro back suffix failed
    rw [List.append_nil] at failed
    obtain same | same := failed
    · obtain rfl := same
      exact absurd suffix.length_le (by decide)
    · exact ⟨rfl, same⟩
  have resumable : Resumable fails false text :=
    .token (.nil _) word whole
      (.token (.blank (by decide) (.nil _)) second wholeSecond (.finish (.nil _)))
  have driven : .next ∉ calls := by decide
  exact ⟨resumable, driven, repeated_calls_show_the_same_words (Utf8Lines.recovers fails)
    ⟨_, reads, serves⟩ resumable le_rfl "g" 0 0 driven⟩

/-- A word that was read further than that is started over in the middle, though the source loses no
character of it. -/
theorem word_is_started_over_in_the_middle :
    let failure : IoFailure := ⟨.other, "injected failure"⟩
    let source := Utf8Lines.ofFeed 8192 (Feed.failingAt "x abc".toUTF8.data.toList 4 2 failure)
    let calls := [Call.peek, .drop, .peek]
    let repeated := (start source "g" 0 0).persistentAnswers 2 calls
    let answers := (start (Text.ofString "x abc") "g" 0 0).answers calls
    CharStream.answers (List.replicate 8 .next) source =
        [.error failure, .ok (some 'x'), .ok (some ' '), .ok (some 'a'), .ok (some 'b'),
          .error failure, .ok (some 'c'), .ok none] ∧
      (∀ answer ∈ repeated, answer.failed = false) ∧
      repeated.map Answer.word? = [some (.identifier, "x"), none, some (.identifier, "bc")] ∧
      answers.map Answer.word? = [some (.identifier, "x"), none, some (.identifier, "abc")] := by
  decide +kernel

end Lexer

end GrammarCheck
