import GrammarCheck.Proofs.Lexing.Joining
import GrammarCheck.Proofs.Lexing.Looking

/-! # How far a lexer reads ahead

To find the end of a token a lexer reads the logical character behind it, and no more. So what its
stream has handed out is told by the lookahead: the text through that token and one logical
character further, or the whole text once the end is the lookahead, or nothing as long as there is
no lookahead.
-/

namespace GrammarCheck

namespace Chars

/-- The first logical character of a text, as it is written. -/
def first : List Char → List Char
  | [] => []
  | '\r' :: '\n' :: _ => ['\r', '\n']
  | c :: _ => [c]

private theorem first_append_afterFirst (text : List Char) :
    first text ++ afterFirst text = text := by
  fun_cases first text with
  | case1 => rfl
  | case2 rest => rfl
  | case3 c rest single =>
    have alone : c = '\r' → rest.head? ≠ some '\n' := by
      rintro rfl feed
      obtain ⟨rest, rfl⟩ := List.head?_eq_some_iff.mp feed
      exact single _ rfl rfl
    rw [afterFirst_cons alone]
    rfl

end Chars

open Chars SteadyStream

/-- What a text that starts at `start` has handed out once this is the lookahead. -/
inductive HandedOut (start : Position) (text : List Char) : Option Token → List Char → Prop
  | nothing : HandedOut start text none []
  | oneBehind {before behind : List Char} {token : Token}
    (split : text = before ++ (token.text.toList ++ behind))
    (place : token.position = start.after before)
    (spells : token.kind.Spells token.text.toList behind) :
    HandedOut start text (some token) (before ++ (token.text.toList ++ first behind))
  | all {token : Token} (ended : token.kind = .endOfInput) :
    HandedOut start text (some token) text

namespace Lexer

inductive Use where
  | ask (call : Call)
  | release
  deriving DecidableEq, Repr

variable {σ : Type} {lexer : Lexer σ} {start : Position} {text : List Char}

section Uses

variable [CharStream σ]

/-- The lexer that a use leaves, whether the use failed or not. -/
def use (lexer : Lexer σ) : Use → Lexer σ
  | .ask call => (lexer.ask call).2
  | .release => lexer.release

def useEach (lexer : Lexer σ) : List Use → Lexer σ
  | [] => lexer
  | use :: uses => (lexer.use use).useEach uses

/-- Every operation of a lexer keeps the property. -/
structure Lasts (I : Lexer σ → Prop) : Prop where
  peek {lexer : Lexer σ} (holds : I lexer) : I lexer.peek.state
  drop {lexer : Lexer σ} (holds : I lexer) : I lexer.drop.state
  finish {lexer : Lexer σ} (holds : I lexer) : I { lexer with finished := true }
  release {lexer : Lexer σ} (holds : I lexer) : I lexer.release

namespace Lasts

variable {I : Lexer σ → Prop} (lasts : Lasts I)

include lasts

/-- To list the next token is to look at it and to drop it. -/
theorem next (holds : I lexer) : I lexer.next.2 := by
  have shown := lasts.peek holds
  rw [Lexer.next]
  split
  · exact holds
  cases peeked : lexer.peek with
  | error failure rest =>
    rw [peeked] at shown
    exact lasts.finish shown
  | ok token rest =>
    rw [peeked] at shown
    dsimp only
    split
    · exact lasts.finish shown
    have behind := lasts.drop shown
    rw [Outcome.state_ok] at behind
    cases dropped : rest.drop with
    | error failure last =>
      rw [dropped] at behind
      exact lasts.finish behind
    | ok _ last =>
      rw [dropped] at behind
      exact behind

theorem useEach (holds : I lexer) (uses : List Use) : I (lexer.useEach uses) := by
  induction uses generalizing lexer with
  | nil => exact holds
  | cons use uses ih =>
    apply ih
    cases use with
    | release => exact lasts.release holds
    | ask call =>
      cases call with
      | peek => exact lasts.peek holds
      | drop => exact lasts.drop holds
      | next => exact lasts.next holds

end Lasts

end Uses

/-- A stream that is let go is left as it was. -/
theorem source_release (lexer : Lexer σ) : lexer.release.cursor.source = lexer.cursor.source := by
  change lexer.cursor.release.source = _
  rw [Cursor.release]
  split <;> rfl

variable [CharStream σ] [SteadyStream σ]

/-- How far the lexer has come in the text. A lexer that has let go of the text goes no further. -/
inductive ReadsAhead (start : Position) (text : List Char) (lexer : Lexer σ) : Prop
  | unread (lookahead : lexer.lookahead = none) (spot : lexer.cursor.spot = .start)
    (lineEnded : lexer.cursor.lineEnded = true)
    (place : ⟨lexer.cursor.name, lexer.cursor.line + 1, 1⟩ = start)
    (serves : Serves lexer.cursor.source text)
  | shown {before behind : List Char} {token : Token} (lookahead : lexer.lookahead = some token)
    (split : text = before ++ (token.text.toList ++ behind))
    (place : token.position = start.after before)
    (spells : token.kind.Spells token.text.toList behind)
    (serves : Serves lexer.cursor.source (afterFirst behind))
    (stands : lexer.cursor.released = false →
      lexer.cursor.StandsAt ((start.after before).right token.text.toList.length) behind)
  | ended {token : Token} (lookahead : lexer.lookahead = some token)
    (ended : token.kind = .endOfInput) (serves : Serves lexer.cursor.source [])

namespace ReadsAhead

/-- What is not handed out is still to be had. -/
theorem exists_handedOut (reads : lexer.ReadsAhead start text) : ∃ taken rest,
    text = taken ++ rest ∧ Serves lexer.cursor.source rest ∧
      HandedOut start text lexer.lookahead taken := by
  cases reads with
  | unread lookahead _ _ _ serves =>
    rw [lookahead]
    exact ⟨[], text, rfl, serves, .nothing⟩
  | @shown before behind token lookahead split place spells serves _ =>
    rw [lookahead]
    refine ⟨_, _, ?_, serves, .oneBehind split place spells⟩
    rw [List.append_assoc, List.append_assoc, first_append_afterFirst, split]
  | ended lookahead ended serves =>
    rw [lookahead]
    exact ⟨text, [], (List.append_nil text).symm, serves, .all ended⟩

/-- A token that is loaded is read one logical character further. -/
theorem of_loadToken {place : Position} {read ahead : List Char} (split : text = read ++ ahead)
    (counted : ∀ gap, place.after gap = start.after (read ++ gap))
    (stands : lexer.cursor.StandsAt place ahead) : lexer.loadToken.state.ReadsAhead start text := by
  rw [loadToken]
  obtain ⟨next, -, loaded, there⟩ | ⟨gap, lexeme, behind, kind, next, rfl, -, spells, loaded, there⟩ :=
    stands.nextToken
  · rw [loaded]
    exact .ended rfl rfl there.serves
  · rw [loaded]
    rw [counted] at there ⊢
    have spelled : (String.ofList lexeme).toList = lexeme := String.toList_ofList
    have split : text = (read ++ gap) ++ ((String.ofList lexeme).toList ++ behind) := by
      rw [split, spelled, List.append_assoc]
    refine .shown rfl split rfl ?_ there.serves fun _ => ?_
    · rwa [spelled]
    · rw [spelled]
      exact there.note _

theorem drop (reads : lexer.ReadsAhead start text) :
    lexer.drop.state.ReadsAhead start text := by
  rw [Lexer.drop]
  split
  · exact reads
  next held =>
  have held : lexer.cursor.released = false := Bool.eq_false_iff.mpr held
  cases reads with
  | unread lookahead spot lineEnded place serves =>
    obtain ⟨next, moved, there⟩ :=
      Cursor.move_of_serves held (by simp [spot]) serves
    rw [Cursor.position_count_of_lineEnded lineEnded, place] at there
    rw [lookahead]
    dsimp only
    rw [moved]
    exact of_loadToken (List.nil_append text).symm (fun _ => rfl) there
  | @shown before behind token lookahead split place spells serves stands =>
    have running : token.kind ≠ .endOfInput := fun ended => by
      rw [ended] at spells
      exact spells
    rw [lookahead]
    dsimp only
    rw [if_neg running]
    rw [← List.append_assoc] at split
    refine of_loadToken split (fun gap => ?_) (stands held)
    have apart : (token.text.toList ++ gap).head? ≠ some '\n' := by
      obtain ⟨c, body, whole, solid, -⟩ := firstLexeme_of_spells spells
      rw [whole]
      rintro ⟨⟩
      exact absurd solid (by decide)
    rw [List.append_assoc, Position.after_gap_lexeme _ apart (not_isLineEnd_of_spells spells)]
  | ended lookahead ended serves =>
    rw [lookahead]
    dsimp only
    rw [if_pos ended]
    exact .ended lookahead ended serves

theorem peek (reads : lexer.ReadsAhead start text) :
    lexer.peek.state.ReadsAhead start text := by
  rw [peek_eq]
  split
  · exact reads
  · refine Outcome.holds_andThen reads.drop fun _ next reads => ?_
    split <;> exact reads

/-- Nothing but the lookahead and the place of the cursor says how far a lexer has come. What it has
noted makes no difference, nor does letting go of the text. -/
theorem of_same_place {next : Lexer σ} {released : Bool} {history : List Event}
    (reads : lexer.ReadsAhead start text) (shown : next.lookahead = lexer.lookahead)
    (cursor : next.cursor = { lexer.cursor with released, history })
    (kept : released = false → lexer.cursor.released = false) : next.ReadsAhead start text := by
  cases reads with
  | unread lookahead spot lineEnded place serves =>
    exact .unread (shown ▸ lookahead) (cursor ▸ spot) (cursor ▸ lineEnded) (cursor ▸ place)
      (cursor ▸ serves)
  | shown lookahead split place spells serves stands =>
    refine .shown (shown ▸ lookahead) split place spells (cursor ▸ serves) fun held => ?_
    rw [cursor] at held ⊢
    have there := stands (kept held)
    exact ⟨held, there.position_eq, there.spot_eq, there.lineEnded_eq, there.serves⟩
  | ended lookahead ended serves => exact .ended (shown ▸ lookahead) ended (cursor ▸ serves)

theorem note (reads : lexer.ReadsAhead start text) (event : Event) :
    (lexer.note event).ReadsAhead start text :=
  reads.of_same_place rfl rfl id

private theorem finish (reads : lexer.ReadsAhead start text) :
    ReadsAhead start text { lexer with finished := true } :=
  reads.of_same_place rfl rfl id

theorem release (reads : lexer.ReadsAhead start text) :
    lexer.release.ReadsAhead start text := by
  rw [Lexer.release, Cursor.release]
  split
  · exact reads
  · exact reads.of_same_place rfl rfl (by simp)

theorem lasts : Lasts fun lexer : Lexer σ => lexer.ReadsAhead start text :=
  ⟨peek, drop, finish, release⟩

end ReadsAhead

/-- A lexer that has read nothing is in front of the text. -/
theorem readsAhead_start {source : σ} (serves : Serves source text) (name : String)
    (line column : Nat) :
    (Lexer.start source name line column).ReadsAhead ⟨name, line + 1, 1⟩ text :=
  .unread rfl rfl rfl rfl serves

omit [SteadyStream σ] in
/-- Without a lookahead a lexer that has let go of the text is left as it is. -/
private theorem lasts_released :
    Lasts fun lexer : Lexer σ => lexer.cursor.released = true ∧ lexer.lookahead = none where
  peek {lexer} holds := by
    have same : lexer.peek = .error .closed lexer := by
      rw [Lexer.peek, holds.2, Lexer.drop, if_pos holds.1]
    rwa [same]
  drop {lexer} holds := by rwa [Lexer.drop, if_pos holds.1]
  finish holds := holds
  release {lexer} holds := by rwa [Lexer.release, Cursor.release, if_pos holds.1]

omit [SteadyStream σ] in
/-- There is a lookahead from the first token on. -/
private theorem lasts_lookahead :
    Lasts fun lexer : Lexer σ => ∃ token, lexer.lookahead = some token where
  peek {lexer} holds := by
    obtain ⟨token, held⟩ := holds
    rw [peek_of_held held]
    exact ⟨token, held⟩
  drop {lexer} holds := by
    obtain ⟨token, held⟩ := holds
    exact exists_lookahead_drop held
  finish holds := holds
  release holds := holds

/-- A lexer has a lookahead unless it is asked for no token, or lets go of the text before. -/
theorem lookahead_useEach_start {source : σ} (serves : Serves source text) (name : String)
    (line column : Nat) (uses : List Use) :
    ((Lexer.start source name line column).useEach uses).lookahead = none ↔
      ∀ call, uses.head? ≠ some (.ask call) := by
  cases uses with
  | nil => exact ⟨fun _ _ => nofun, fun _ => rfl⟩
  | cons use uses =>
    cases use with
    | release =>
      have begun : (Lexer.start source name line column).release.cursor.released = true ∧
          (Lexer.start source name line column).release.lookahead = none := ⟨rfl, rfl⟩
      exact ⟨fun _ _ => nofun, fun _ => (lasts_released.useEach begun uses).2⟩
    | ask call =>
      obtain ⟨tokens, -, unread⟩ := exists_unread_start serves name line column
      obtain ⟨showing, shown, -⟩ := Offers.peek (.inl unread)
      have first := exists_lookahead_of_first rfl shown call
      obtain ⟨token, held⟩ := lasts_lookahead.useEach first uses
      constructor
      · intro none
        rw [useEach, use, held] at none
        contradiction
      · exact fun other => absurd rfl (other call)

end Lexer

end GrammarCheck
