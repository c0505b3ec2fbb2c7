import GrammarCheck.Proofs.Checking.TextCheck
import Mathlib.Data.List.Infix

/-! # Groups open at once

The goals of a check hold the end of every group that its tokens opened and did not close. So it
gives up exactly at the first token that opens one group more than the limit, as long as all tokens
up to that one fit, and it has reported nothing by then.
-/

namespace GrammarCheck

open Goal

namespace Token.Kind

def opensGroup (kind : Token.Kind) : Bool :=
  kind.opens?.isSome

def closesGroup : Token.Kind → Bool
  | closing _ => true
  | _ => false

end Token.Kind

/-- The kinds are a prefix of a text, the last of them opens a group, and with it `depth` groups are
open: so many more were opened than closed. -/
structure Opens (depth : Nat) (kinds : List Token.Kind) : Prop where
  viable : Viable kinds
  opening : ∃ bracket, kinds.getLast? = some (.opening bracket)
  balance : kinds.countP Token.Kind.opensGroup = kinds.countP Token.Kind.closesGroup + depth

/-- The token `found` is the first of the tokens to open a group with which `depth` are open. -/
def FirstToOpen (depth : Nat) (tokens : List Token) (found : Token) : Prop :=
  ∃ before after, tokens = before ++ found :: after ∧
    Opens depth ((before ++ [found]).map Token.kind) ∧
    ∀ front, front <+: before → ¬ Opens depth (front.map Token.kind)

/-- A goal that wants one of several kinds wants no bracket. -/
def Goal.Unbracketed : Goal → Prop
  | oneOf kinds => ∀ kind ∈ kinds, kind.opensGroup = false ∧ kind.closesGroup = false
  | _ => True

namespace Goal

variable {token : Token} {goal : Goal} {goals pushed : List Goal}

private theorem Expands.unbracketed (expands : goal.Expands token pushed) :
    ∀ other ∈ pushed, other.Unbracketed := by
  cases expands <;> simp [Unbracketed, Token.Kind.opensGroup, Token.Kind.closesGroup,
    Token.Kind.opens?]

private theorem unbracketed_factorGoals {kind : Token.Kind} :
    ∀ other ∈ kind.factorGoals, other.Unbracketed := by
  obtain atom | ⟨bracket, group⟩ := kind.factorGoals_cases
  · simp [atom]
  · simp [group, Unbracketed]

private theorem Takes.unbracketed (takes : goal.Takes token pushed) :
    ∀ other ∈ pushed, other.Unbracketed := by
  cases takes with
  | oneOf _ | groupEnd _ => exact List.forall_mem_nil _
  | productions _ | alternatives _ => simp [Unbracketed]
  | factors _ =>
    exact List.forall_mem_append.mpr ⟨unbracketed_factorGoals, by simp [Unbracketed]⟩
  | factor _ => exact unbracketed_factorGoals

/-- A token that starts a factor opens the groups that the goals behind it are to close. -/
private theorem openGroups_factorGoals (kind : Token.Kind) :
    openGroups kind.factorGoals = if kind.opensGroup then 1 else 0 := by
  cases opens : kind.opens? with
  | none => rw [Token.Kind.factorGoals_of_atom opens, Token.Kind.opensGroup, opens]; rfl
  | some bracket => rw [Token.Kind.factorGoals_of_opens opens, Token.Kind.opensGroup, opens]; rfl

private theorem closesGroup_of_factorKinds {kind : Token.Kind}
    (starts : kind ∈ Token.Kind.factorKinds) :
    kind.closesGroup = false := by
  cases kind with
  | closing bracket => cases bracket <;> exact absurd starts (by decide)
  | _ => rfl

/-- The ends of groups among the goals change with the brackets that the goals take. -/
private theorem Takes.balance (takes : goal.Takes token pushed) (plain : goal.Unbracketed) :
    openGroups pushed + (if token.kind.closesGroup then 1 else 0) =
      openGroups [goal] + (if token.kind.opensGroup then 1 else 0) := by
  cases takes with
  | oneOf fits =>
    obtain ⟨opens, closes⟩ := plain _ fits
    rw [opens, closes]
    rfl
  | productions fits | alternatives fits =>
    rw [fits]
    rfl
  | factors fits =>
    rw [openGroups_append, openGroups_factorGoals, closesGroup_of_factorKinds fits]
    exact Nat.add_comm ..
  | factor fits =>
    rw [openGroups_factorGoals, closesGroup_of_factorKinds fits]
    exact Nat.add_comm ..
  | groupEnd fits =>
    rw [fits]
    rfl

/-- Only a token that opens a group can open one too many, and it opens no more than one. -/
private theorem Takes.opening_of_full (takes : goal.Takes token pushed) {room : Nat}
    (full : ¬ openGroups pushed ≤ room) :
    (∃ bracket, token.kind = .opening bracket) ∧ room = 0 ∧ openGroups [goal] = 0 := by
  have factor (beyond : ¬ openGroups token.kind.factorGoals ≤ room) :
      (∃ bracket, token.kind = .opening bracket) ∧ room = 0 := by
    cases opens : token.kind.opens? with
    | none =>
      rw [Token.Kind.factorGoals_of_atom opens] at beyond
      exact absurd (Nat.zero_le _) beyond
    | some bracket =>
      rw [Token.Kind.factorGoals_of_opens opens] at beyond
      have empty : ¬ 1 ≤ room := beyond
      exact ⟨⟨bracket, Token.Kind.eq_opening_of_opens opens⟩, by omega⟩
  cases takes with
  | oneOf _ | productions _ | alternatives _ | groupEnd _ => exact absurd (Nat.zero_le _) full
  | factors _ =>
    rw [openGroups_append] at full
    obtain ⟨opening, empty⟩ := factor full
    exact ⟨opening, empty, rfl⟩
  | factor _ =>
    obtain ⟨opening, empty⟩ := factor full
    exact ⟨opening, empty, rfl⟩

end Goal

namespace Course

variable {goals target : List Goal} {ahead : Token} {taken front : List Token}

/-- With the goals left over as many groups are open as were at first, and those that the tokens
taken opened, but for those that they closed. -/
theorem balance (course : Course ahead goals taken target)
    (plain : ∀ goal ∈ goals, goal.Unbracketed) :
    openGroups target + (taken.map Token.kind).countP Token.Kind.closesGroup =
      openGroups goals + (taken.map Token.kind).countP Token.Kind.opensGroup := by
  induction course with
  | done _ => rfl
  | @expand goal goals pushed target taken expands _ ih =>
    obtain ⟨_, others⟩ := List.forall_mem_cons.mp plain
    have same := ih (List.forall_mem_append.mpr ⟨expands.unbracketed, others⟩)
    obtain ⟨closed, closed'⟩ := expands.openGroups_eq
    rw [openGroups_append] at same
    rw [openGroups_cons]
    omega
  | @take token goal goals pushed target taken takes _ _ ih =>
    obtain ⟨here, others⟩ := List.forall_mem_cons.mp plain
    have same := ih (List.forall_mem_append.mpr ⟨takes.unbracketed, others⟩)
    have first := takes.balance here
    rw [openGroups_append] at same
    rw [openGroups_cons, List.map_cons, List.countP_cons, List.countP_cons]
    omega

/-- A course never has more groups open than the limit. -/
theorem openGroups_le (course : Course ahead goals taken target)
    (within : openGroups goals ≤ nestingLimit) : openGroups target ≤ nestingLimit := by
  induction course with
  | done _ => exact within
  | @expand goal goals pushed target taken expands _ ih =>
    apply ih
    rw [openGroups_append, expands.openGroups_eq.1, Nat.zero_add]
    exact openGroups_le_cons.trans within
  | @take token goal goals pushed target taken takes room _ ih =>
    apply ih
    have behind : openGroups goals ≤ nestingLimit := openGroups_le_cons.trans within
    rw [openGroups_append]
    omega

/-- A course comes through the goals that it has behind the first of its tokens. -/
private theorem exists_of_append {back : List Token}
    (course : Course ahead goals (front ++ back) target) :
    ∃ middle, Course (back.headD ahead) goals front middle := by
  generalize whole : front ++ back = taken at course
  induction course generalizing front with
  | done goals =>
    obtain ⟨rfl, -⟩ := List.append_eq_nil_iff.mp whole
    exact ⟨_, .done goals⟩
  | @expand goal goals pushed target taken expands _ ih =>
    obtain ⟨middle, course⟩ := ih whole
    have next : taken.headD ahead = front.headD (back.headD ahead) := by
      rw [← whole]
      cases front <;> rfl
    exact ⟨middle, .expand (next ▸ expands) course⟩
  | @take token goal goals pushed target taken takes room _ ih =>
    cases front with
    | nil => exact ⟨_, .done _⟩
    | cons first front =>
      obtain ⟨rfl, rfl⟩ := List.cons.inj whole
      obtain ⟨middle, course⟩ := ih rfl
      exact ⟨middle, .take takes room course⟩

/-- No part of the tokens taken from the start opens a group beyond the limit. -/
theorem not_opens (course : Course ahead [.productions] taken target) (leading : front <+: taken) :
    ¬ Opens (nestingLimit + 1) (front.map Token.kind) := by
  intro opens
  obtain ⟨back, rfl⟩ := leading
  obtain ⟨middle, course⟩ := course.exists_of_append
  have within := course.openGroups_le (Nat.zero_le _)
  have same := course.balance (List.forall_mem_singleton.mpr trivial)
  have start : openGroups [.productions] = 0 := rfl
  have balance := opens.balance
  omega

/-- Where the goals are full, the token ahead opens the group that is one too many. -/
private theorem opens_of_full {goal : Goal} {pushed : List Goal}
    (course : Course ahead [.productions] taken (goal :: goals))
    (inner : ∀ other ∈ goals, other.Inner) (takes : goal.Takes ahead pushed)
    (full : ¬ openGroups pushed ≤ nestingLimit - openGroups goals) :
    Opens (nestingLimit + 1) ((taken ++ [ahead]).map Token.kind) where
  viable := by
    rw [List.map_append]
    exact course.viable_of_mem_firsts inner takes.mem_firsts
  opening := by
    obtain ⟨⟨bracket, opening⟩, -⟩ := takes.opening_of_full full
    exact ⟨bracket, by rw [List.map_append, List.map_singleton, List.getLast?_concat, opening]⟩
  balance := by
    obtain ⟨⟨bracket, opening⟩, noRoom, own⟩ := takes.opening_of_full full
    have within := course.openGroups_le (Nat.zero_le _)
    have same := course.balance (List.forall_mem_singleton.mpr trivial)
    rw [openGroups_cons] at within same
    have start : openGroups [.productions] = 0 := rfl
    have opened : [ahead.kind].countP Token.Kind.opensGroup = 1 := by rw [opening]; rfl
    have closed : [ahead.kind].countP Token.Kind.closesGroup = 0 := by rw [opening]; rfl
    rw [List.map_append, List.map_singleton, List.countP_append, List.countP_append]
    omega

theorem firstToOpen {goal : Goal} {pushed : List Goal} {tokens after : List Token}
    (course : Course ahead [.productions] taken (goal :: goals))
    (split : tokens = taken ++ ahead :: after) (inner : ∀ other ∈ goals, other.Inner)
    (takes : goal.Takes ahead pushed)
    (full : ¬ openGroups pushed ≤ nestingLimit - openGroups goals) :
    FirstToOpen (nestingLimit + 1) tokens ahead :=
  ⟨taken, after, split, course.opens_of_full inner takes full, fun _ => course.not_opens⟩

end Course

/-- Only one token is the first. -/
theorem FirstToOpen.unique {depth : Nat} {tokens : List Token} {found found' : Token}
    (first : FirstToOpen depth tokens found) (first' : FirstToOpen depth tokens found') :
    found = found' := by
  obtain ⟨before, after, split, opens, fewer⟩ := first
  obtain ⟨before', after', split', opens', fewer'⟩ := first'
  have leading : before ++ [found] <+: tokens := ⟨after, split ▸ (List.append_cons ..).symm⟩
  have leading' : before' ++ [found'] <+: tokens := ⟨after', split' ▸ (List.append_cons ..).symm⟩
  obtain shorter | longer := List.prefix_or_prefix_of_prefix leading leading'
  · obtain same | inside := List.prefix_concat_iff.mp shorter
    · exact List.singleton_inj.mp (List.append_inj' same rfl).2
    · exact absurd opens (fewer' _ inside)
  · obtain same | inside := List.prefix_concat_iff.mp longer
    · exact (List.singleton_inj.mp (List.append_inj' same rfl).2).symm
    · exact absurd opens' (fewer _ inside)

namespace Tokens.CheckEnds

variable {ρ : Type} [Receiver ρ] {receiver : ρ} {tokens : Tokens} {taken : List Token}

/-- A group that is one too many ends the check before its first report. -/
private theorem of_firstToOpen (ends : tokens.CheckEnds receiver taken) {found : Token}
    (first : FirstToOpen (nestingLimit + 1) tokens.toList found) :
    ∃ checker, tokens.check receiver =
      .error (.nestingTooDeep found.position nestingLimit) checker ∧
      checker.receiver = receiver ∧ checker.reportCount = 0 := by
  have ⟨before, later, whole, opens, _⟩ := first
  have leading : before ++ [found] <+: tokens.toList :=
    ⟨later, whole ▸ (List.append_cons ..).symm⟩
  cases ends with
  | @passes last split ended course passed =>
    rw [split] at leading
    obtain same | inside := List.prefix_concat_iff.mp leading
    · obtain ⟨bracket, opening⟩ := opens.opening
      rw [same, List.map_append, List.map_singleton, List.getLast?_concat, ended] at opening
      exact absurd (Option.some.inj opening) nofun
    · exact absurd opens (course.not_opens inside)
  | tooDeep split course inner takes full failed =>
    obtain rfl := first.unique (course.firstToOpen split inner takes full)
    exact failed
  | @misplaced other after target expected split course misplaced reports =>
    have through : taken ++ [other] <+: tokens.toList :=
      ⟨after, split ▸ (List.append_cons ..).symm⟩
    have apart (back : List Token) : before ++ [found] ≠ taken ++ [other] ++ back := by
      intro same
      have viable := opens.viable
      rw [same, List.map_append, List.map_append] at viable
      exact misplaced.not_viable viable.of_append
    obtain shorter | ⟨back, longer⟩ := List.prefix_or_prefix_of_prefix leading through
    · obtain same | inside := List.prefix_concat_iff.mp shorter
      · exact absurd (by rw [same, List.append_nil]) (apart [])
      · exact absurd opens (course.not_opens inside)
    · exact absurd longer.symm (apart back)

example : (Tokens.check ⟨⟨⟨"s", 1, 1⟩, .identifier, "S"⟩ :: ⟨⟨"s", 1, 3⟩, .assign, "="⟩ ::
    (List.range 257).map fun n => ⟨⟨"s", 1, n + 5⟩, .opening .paren, "("⟩, ⟨"s", 1, 262⟩⟩
    ({} : Discard)).result = .error (.nestingTooDeep ⟨"s", 1, 261⟩ 256) := by
  decide +kernel

private theorem exists_firstToOpen (ends : tokens.CheckEnds receiver taken) {place : Position}
    {limit : Nat} (failed : (tokens.check receiver).result = .error (.nestingTooDeep place limit))
    (silent : (tokens.check receiver).state.reportCount = 0) :
    limit = nestingLimit ∧
      ∃ found, FirstToOpen (nestingLimit + 1) tokens.toList found ∧ found.position = place := by
  cases ends with
  | passes _ _ _ passed =>
    obtain ⟨checker, passed, -⟩ := passed
    rw [passed] at failed
    contradiction
  | @tooDeep found _ _ _ _ split course inner takes full ended =>
    obtain ⟨checker, ended, -⟩ := ended
    rw [ended] at failed
    obtain ⟨rfl, rfl⟩ := Failure.nestingTooDeep.inj (Except.error.inj failed)
    exact ⟨rfl, found, course.firstToOpen split inner takes full, rfl⟩
  | misplaced _ _ _ reports => exact absurd silent (Nat.ne_of_gt reports.reportCount_pos)

end Tokens.CheckEnds

/-- The first token behind which one group more than the limit is open, while all tokens up to it
are a prefix of some text, ends a check before anything is reported. Else no check fails so
before its first report. -/
theorem nesting_limit_is_exact {ρ : Type} [Receiver ρ] (text name : String) (receiver : ρ) :
    ∃ tokens : List Token, (Lexer.start (Text.ofString text) name 0 0).toList.1 = tokens.map .ok ∧
      (∀ found, FirstToOpen 257 tokens found →
        (check (Text.ofString text) name receiver).result =
            .error (.nestingTooDeep found.position 256) ∧
          (check (Text.ofString text) name receiver).state.reportCount = 0 ∧
          (check (Text.ofString text) name receiver).state.receiver = receiver) ∧
      ∀ position limit, (check (Text.ofString text) name receiver).result =
          .error (.nestingTooDeep position limit) →
        (check (Text.ofString text) name receiver).state.reportCount = 0 →
        limit = 256 ∧ ∃ found, FirstToOpen 257 tokens found ∧ found.position = position := by
  obtain ⟨tokens, lexed, listed, alike⟩ :=
    exists_check_counts_alike (Text.serves_ofString text) name receiver
  obtain ⟨taken, ends⟩ := Tokens.exists_checkEnds lexed receiver
  refine ⟨tokens.toList, listed, ?_⟩
  rw [alike.result_eq, alike.states.1, alike.states.2]
  constructor
  · intro found first
    obtain ⟨checker, failed, untouched, silent⟩ := ends.of_firstToOpen first
    rw [failed]
    exact ⟨rfl, silent, untouched⟩
  · intro position limit
    exact ends.exists_firstToOpen

end GrammarCheck
