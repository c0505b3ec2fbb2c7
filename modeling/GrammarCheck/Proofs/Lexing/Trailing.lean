import GrammarCheck.Proofs.Chars.Trailing
import GrammarCheck.Proofs.Lexing.Keeping

/-! # Lexers over streams that stop short

Where one stream trails another, a cursor and a lexer over the first go along with those over the
second, up to the read that fails.
-/

namespace GrammarCheck

open Outcome (Mirrors)

variable {σ τ α : Type}

namespace Cursor

/-- The cursors differ in nothing but their streams, and these are related. -/
inductive Alike (sources : σ → τ → Prop) : Cursor σ → Cursor τ → Prop
  | mk {source : σ} {source' : τ} (related : sources source source') (released : Bool)
    (name : String) (line column : Nat) (spot : Spot) (lineEnded : Bool) (history : List Event) :
    Alike sources ⟨source, released, name, line, column, spot, lineEnded, history⟩
      ⟨source', released, name, line, column, spot, lineEnded, history⟩

variable {sources : σ → τ → Prop} {left : Cursor σ} {right : Cursor τ}

namespace Alike

theorem note (alike : Alike sources left right) (event : Event) :
    Alike sources (left.note event) (right.note event) := by
  cases alike with
  | mk related => exact .mk related ..

private theorem withSource (alike : Alike sources left right) {source : σ} {source' : τ}
    (related : sources source source') :
    Alike sources { left with source } { right with source := source' } := by
  cases alike with
  | mk => exact .mk related ..

theorem source (alike : Alike sources left right) : sources left.source right.source := by
  cases alike with
  | mk related => exact related

private theorem released_eq (alike : Alike sources left right) :
    left.released = right.released := by
  cases alike
  rfl

theorem spot_eq (alike : Alike sources left right) : left.spot = right.spot := by
  cases alike
  rfl

theorem lineEnded_eq (alike : Alike sources left right) : left.lineEnded = right.lineEnded := by
  cases alike
  rfl

private theorem char?_eq (alike : Alike sources left right) : left.char? = right.char? := by
  rw [char?, char?, alike.spot_eq]

private theorem tokenHere_eq (alike : Alike sources left right) (kind : Token.Kind)
    (text : String) :
    left.tokenHere kind text = right.tokenHere kind text := by
  cases alike
  rfl

theorem count (alike : Alike sources left right) : Alike sources left.count right.count := by
  cases alike with
  | mk related released name line column spot lineEnded history =>
    cases lineEnded with
    | true => exact .mk related ..
    | false => exact .mk related ..

end Alike

end Cursor

section Keeping

def Cursor.Over (P : σ → Prop) (cursor : Cursor σ) : Prop :=
  P cursor.source

def Lexer.Over (P : σ → Prop) (lexer : Lexer σ) : Prop :=
  P lexer.cursor.source

/-- The reads of a stream keep the property. -/
structure CharStream.Keeps [CharStream σ] (P : σ → Prop) : Prop where
  next {source : σ} : P source → P (CharStream.next source).state
  peek {source : σ} : P source → P (CharStream.peek source).state

namespace CharStream.Keeps

variable [CharStream σ] {P : σ → Prop} (keeps : CharStream.Keeps P) {cursor : Cursor σ}

include keeps

private theorem ofPairLineFeed {c : Char} {source : σ} (holds : P source) :
    P (Cursor.pairLineFeed c source).state := by
  rw [Cursor.pairLineFeed_eq]
  split
  · refine Outcome.holds_andThen (keeps.peek holds) fun next? rest holds => ?_
    split
    · rw [Outcome.state_map]
      exact keeps.next holds
    · exact holds
  · exact holds

private theorem ofEnter {c? : Option Char} (holds : cursor.Over P) :
    (cursor.enter c?).state.Over P := by
  cases c? with
  | none => exact holds
  | some c =>
    refine Outcome.holds_andThen ?_ fun () next holds => ?_
    · rw [Outcome.state_lift]
      exact keeps.ofPairLineFeed holds
    · rw [Outcome.state_ok]
      split <;> exact holds

theorem ofMove (holds : cursor.Over P) : cursor.move.state.Over P := by
  rw [Cursor.move_eq]
  split
  · exact holds
  split
  · exact holds
  refine Outcome.holds_andThen ?_ fun c? next => keeps.ofEnter
  rw [Outcome.state_lift]
  exact keeps.next holds

theorem reads : Cursor.Keeps (Cursor.Over P) where
  move holds := keeps.ofMove holds
  note _ holds := holds

end CharStream.Keeps

end Keeping

section Trailing

variable [CharStream σ] [CharStream τ] {sources : σ → τ → Prop} {past : IoFailure → τ → Prop}

/-- The failure is one of a read, and the stream is past its place. -/
def Failure.Past (past : IoFailure → τ → Prop) (failure : Failure) (source : τ) : Prop :=
  ∃ cause, failure = .io cause ∧ past cause source

namespace CharStream.Trails

variable (trails : CharStream.Trails sources past)

include trails

theorem keeps (failure : Failure) : CharStream.Keeps (failure.Past past) where
  next := by
    rintro source ⟨cause, rfl, holds⟩
    exact ⟨cause, rfl, trails.past_next holds⟩
  peek := by
    rintro source ⟨cause, rfl, holds⟩
    exact ⟨cause, rfl, trails.past_peek holds⟩

private theorem pairLineFeed {source : σ} {source' : τ} (related : sources source source')
    (c : Char) :
    Mirrors (fun failure _ later => past failure later) Eq sources Eq
      (Cursor.pairLineFeed c source) (Cursor.pairLineFeed c source') := by
  rw [Cursor.pairLineFeed_eq, Cursor.pairLineFeed_eq]
  split
  · refine (trails.peek related).andThen id ?_ ?_
    · rintro next? _ left right rfl related
      split
      · exact (trails.next related).map fun _ => rfl
      · exact .ok rfl related
    · intro failure left right next? holds
      split
      · rw [Outcome.state_map]
        exact trails.past_next holds
      · exact holds
  · exact .ok rfl related

end CharStream.Trails

namespace Cursor

/-- What operations of two cursors have in common, one of which trails the other. -/
def Agree (sources : σ → τ → Prop) (past : IoFailure → τ → Prop)
    (left : Outcome Failure (Cursor σ) α) (right : Outcome Failure (Cursor τ) α) : Prop :=
  Mirrors (fun failure _ later => later.Over (failure.Past past)) Eq (Alike sources) Eq left right

namespace Alike

variable {left : Cursor σ} {right : Cursor τ}

omit [CharStream σ] [CharStream τ] in
/-- A read of the streams, put back into the cursors. -/
theorem ofRead {first : Outcome IoFailure σ α} {second : Outcome IoFailure τ α} {put : σ → Cursor σ}
    {put' : τ → Cursor τ}
    (mirrors : Mirrors (fun failure _ later => past failure later) Eq sources Eq first second)
    (source_put : ∀ source, (put' source).source = source)
    (puts : ∀ {source source'}, sources source source' →
      Alike sources (put source) (put' source')) :
    Agree sources past (first.lift .io put) (second.lift .io put') := by
  refine mirrors.lift (fun holds => ⟨_, rfl, ?_⟩) (fun same => congrArg _ same) puts
  rwa [source_put]

variable (trails : CharStream.Trails sources past)

include trails

/-- One part of an operation after the other. -/
theorem andThen {β : Type} {first : Outcome Failure (Cursor σ) α}
    {second : Outcome Failure (Cursor τ) α} {further : α → Cursor σ → Outcome Failure (Cursor σ) β}
    {further' : α → Cursor τ → Outcome Failure (Cursor τ) β}
    (agree : Agree sources past first second)
    (each : ∀ value {left right}, first = .ok value left → Alike sources left right →
      Agree sources past (further value left) (further' value right))
    (lasting : ∀ {P : τ → Prop}, CharStream.Keeps P → ∀ value {right}, right.Over P →
      (further' value right).state.Over P) :
    Agree sources past (first.andThen further) (second.andThen further') := by
  cases agree with
  | ok same alike =>
    subst same
    exact each _ rfl alike
  | error same alike => exact .error same alike
  | halt stopped =>
    exact .halt (Outcome.holds_andThen stopped fun value _ => lasting (trails.keeps _) value)

theorem enter (alike : Alike sources left right) (c? : Option Char) :
    Agree sources past (left.enter c?) (right.enter c?) := by
  cases alike with
  | mk related =>
  cases c? with
  | none => exact .ok rfl (.mk related ..)
  | some c =>
    refine andThen trails (ofRead (trails.pairLineFeed related c) (fun _ => rfl) ?_) ?_ ?_
    · exact fun related => .mk related ..
    · intro () left right _ alike
      rw [alike.lineEnded_eq]
      cases alike with
      | mk related =>
        split <;> exact .ok rfl (.mk related ..)
    · intro P keeps () right holds
      rw [Outcome.state_ok]
      split <;> exact holds

theorem move (alike : Alike sources left right) : Agree sources past left.move right.move := by
  rw [move_eq, move_eq, alike.released_eq, alike.spot_eq]
  split
  · exact .error rfl alike
  split
  · exact .ok rfl alike
  have read := ofRead (trails.next alike.source) (fun _ => rfl) alike.count.withSource
  refine andThen trails read ?_ ?_
  · exact fun c? _ _ _ alike => alike.enter trails c?
  · exact fun keeps c? _ => keeps.ofEnter

theorem scanWhile (alike : Alike sources left right) (keep : Char → Bool → Bool) (text : String) :
    Agree sources past (left.scanWhile keep text) (right.scanWhile keep text) := by
  induction bound : left.charsLeft using Nat.strongRecOn generalizing left right text with
  | ind length ih =>
  subst bound
  by_cases on : ∃ c, left.spot = .char c
  · obtain ⟨c, here⟩ := on
    rw [scanWhile_char here, scanWhile_char (alike.spot_eq ▸ here), alike.lineEnded_eq]
    split
    · refine andThen trails (alike.move trails) ?_ fun keeps _ _ => keeps.reads.reading.scanWhile _ _
      exact fun c? _ _ moved alike => ih _ (charsLeft_move_lt here moved) alike _ rfl
    · exact .ok rfl alike
  · have off : ∀ c, left.spot ≠ .char c := not_exists.mp on
    rw [scanWhile_of_ne off, scanWhile_of_ne (alike.spot_eq ▸ off)]
    exact .ok rfl alike

theorem skipGap (alike : Alike sources left right) :
    Agree sources past left.skipGap right.skipGap := by
  induction bound : left.charsLeft using Nat.strongRecOn generalizing left right with
  | ind length ih =>
  subst bound
  by_cases on : ∃ c, left.spot = .char c
  · obtain ⟨c, here⟩ := on
    rw [skipGap_char here, skipGap_char (alike.spot_eq ▸ here), alike.lineEnded_eq]
    split
    · refine andThen trails (alike.move trails) ?_ fun keeps _ _ => keeps.reads.reading.skipGap
      exact fun c? _ _ moved alike => ih _ (charsLeft_move_lt here moved) alike rfl
    · next solid =>
      split
      · refine andThen trails (alike.scanWhile trails withinLine "") ?_
          fun keeps _ _ => keeps.reads.reading.skipGap
        rw [← alike.lineEnded_eq] at solid
        exact fun text _ _ scanned alike =>
          ih _ (charsLeft_scanWhile_lt here (withinLine_of_solid solid) scanned) alike rfl
      · exact .ok rfl alike
  · have off : ∀ c, left.spot ≠ .char c := not_exists.mp on
    rw [skipGap_of_ne off, skipGap_of_ne (alike.spot_eq ▸ off)]
    exact .ok rfl alike

theorem endLiteral (alike : Alike sources left right) (quote : Char) (text : String)
    {stop : Cursor σ} {stop' : Cursor τ} (ended : Alike sources stop stop') :
    Agree sources past (left.endLiteral quote text stop) (right.endLiteral quote text stop') := by
  rw [Cursor.endLiteral, Cursor.endLiteral, ended.char?_eq, alike.tokenHere_eq, alike.tokenHere_eq]
  split
  · exact (ended.move trails).map fun _ => rfl
  · exact .ok rfl ended

theorem readLiteral (alike : Alike sources left right) (quote : Char) :
    Agree sources past (left.readLiteral quote) (right.readLiteral quote) := by
  rw [readLiteral_eq, readLiteral_eq]
  refine andThen trails (alike.move trails) (fun _ _ _ _ within => ?_) fun keeps _ _ holds => ?_
  · refine andThen trails (within.scanWhile trails _ _) (fun text _ _ _ => ?_) ?_
    · exact alike.endLiteral trails quote text
    · exact fun keeps text _ => keeps.reads.reading.endLiteral quote right text
  · exact Outcome.holds_andThen (keeps.reads.reading.scanWhile _ _ holds) fun text _ =>
      keeps.reads.reading.endLiteral quote right text

theorem readToken (alike : Alike sources left right) :
    Agree sources past left.readToken right.readToken := by
  rw [Cursor.readToken, Cursor.readToken, alike.spot_eq]
  split
  · split
    · rw [readWord, readWord]
      refine (alike.scanWhile trails _ _).map fun same => ?_
      rw [same, alike.tokenHere_eq]
    split
    · exact alike.readLiteral trails _
    · rw [readSymbol, readSymbol]
      exact (alike.move trails).map fun _ => alike.tokenHere_eq _ _
  · exact .ok (alike.tokenHere_eq _ _) alike
  · exact .ok (alike.tokenHere_eq _ _) alike

theorem nextToken (alike : Alike sources left right) :
    Agree sources past left.nextToken right.nextToken := by
  rw [nextToken_eq, nextToken_eq]
  refine andThen trails (alike.skipGap trails) ?_ fun keeps _ _ => keeps.reads.reading.readToken
  exact fun _ _ _ _ alike => alike.readToken trails

end Alike

end Cursor

namespace Lexer

structure Alike (sources : σ → τ → Prop) (left : Lexer σ) (right : Lexer τ) : Prop where
  cursor : left.cursor.Alike sources right.cursor
  lookahead_eq : left.lookahead = right.lookahead

def Agree (sources : σ → τ → Prop) (past : IoFailure → τ → Prop)
    (left : Outcome Failure (Lexer σ) α) (right : Outcome Failure (Lexer τ) α) : Prop :=
  Mirrors (fun failure _ later => later.Over (failure.Past past)) Eq (Alike sources) Eq left right

namespace Alike

variable {left : Lexer σ} {right : Lexer τ}

omit [CharStream σ] [CharStream τ] in
theorem note (alike : Alike sources left right) (event : Event) :
    Alike sources (left.note event) (right.note event) :=
  ⟨alike.cursor.note event, alike.lookahead_eq⟩

omit [CharStream σ] [CharStream τ] in
/-- What the cursors do, put back into the lexers. -/
theorem ofCursor {first : Outcome Failure (Cursor σ) α} {second : Outcome Failure (Cursor τ) α}
    {lookahead : Option Token} {finished finished' : Bool}
    (agree : Cursor.Agree sources past first second) :
    Agree sources past (first.lift id fun cursor => ⟨cursor, lookahead, finished⟩)
      (second.lift id fun cursor => ⟨cursor, lookahead, finished'⟩) :=
  Mirrors.lift agree id id fun cursor => ⟨cursor, rfl⟩

variable (trails : CharStream.Trails sources past)

include trails

theorem loadToken (alike : Alike sources left right) :
    Agree sources past left.loadToken right.loadToken := by
  rw [loadToken_eq, loadToken_eq, alike.lookahead_eq]
  refine (ofCursor (alike.cursor.nextToken trails)).andThen id ?_ fun _ stopped => stopped
  rintro token _ left right rfl alike
  exact .ok rfl ⟨alike.cursor.note _, rfl⟩

theorem drop (alike : Alike sources left right) : Agree sources past left.drop right.drop := by
  rw [drop_eq, drop_eq, alike.cursor.released_eq, alike.lookahead_eq]
  split
  · exact .error rfl alike
  split
  · refine (ofCursor (alike.cursor.move trails)).andThen id ?_ ?_
    · exact fun _ alike => alike.loadToken trails
    · exact fun _ stopped => (trails.keeps _).reads.reading.loadToken stopped
  · split
    · exact .ok rfl alike
    · exact alike.loadToken trails

theorem peek (alike : Alike sources left right) : Agree sources past left.peek right.peek := by
  rw [peek_eq, peek_eq, alike.lookahead_eq]
  split
  · exact .ok rfl alike
  · refine (alike.drop trails).andThen id (fun {_ _ left right} _ alike => ?_) ?_
    · rw [alike.lookahead_eq]
      split
      · exact .ok rfl alike
      · exact .error rfl alike
    · intro failure left right _ stopped
      split <;> exact stopped

end Alike

end Lexer

end Trailing

end GrammarCheck
