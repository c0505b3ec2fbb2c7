import GrammarCheck.Token

/-! # Goals

What a check still has to find, in the grammar of grammars:

  Text        = { Production } EndOfInput .
  Production  = Identifier "=" Expression "." .
  Expression  = Term { "|" Term } .
  Term        = Factor { Factor } .
  Factor      = Identifier | Literal
              | "(" Expression ")" | "[" Expression "]" | "{" Expression "}" .

A goal is a nonterminal, what is left of one, or a kind that must come next. A check keeps a list
of goals, the next one first; to expand a goal replaces it by those of its right-hand side.
-/

namespace GrammarCheck

/-- Something that is to come next. -/
inductive Goal where
  /-- One token of one of the kinds. -/
  | oneOf (kinds : List Token.Kind)
  /-- Any number of productions. -/
  | productions
  /-- The production that starts with `first` has taken a token. -/
  | progress (first : Token)
  | production
  /-- A production after its name. -/
  | definition
  | expression
  /-- The alternatives after the first term. -/
  | alternatives
  | term
  /-- The factors after the first. -/
  | factors
  | factor
  /-- The end of a group. -/
  | groupEnd (bracket : Bracket)
  deriving DecidableEq, Repr

/-- The nonterminals of the grammar of grammars. -/
inductive Nonterminal where
  | text
  | production
  | expression
  | term
  | factor
  deriving DecidableEq, Repr

/-- A check for a nonterminal starts with these goals. -/
def Nonterminal.goals : Nonterminal → List Goal
  | text => [.productions, .oneOf [.endOfInput]]
  | production => [.production]
  | expression => [.expression]
  | term => [.term]
  | factor => [.factor]

namespace Goal

/-- A bound on the steps that a goal takes without dropping a token. -/
def weight : Goal → Nat
  | oneOf _ | productions | progress _ | alternatives | factors | factor | groupEnd _ => 1
  | term => 3
  | expression => 5
  | definition => 8
  | production => 10

def totalWeight : List Goal → Nat
  | [] => 0
  | goal :: goals => goal.weight + totalWeight goals

/-- A group that is open counts as long as its end is a goal. -/
def openGroups : List Goal → Nat
  | [] => 0
  | groupEnd _ :: goals => openGroups goals + 1
  | _ :: goals => openGroups goals

@[simp] theorem totalWeight_nil : totalWeight [] = 0 := rfl

@[simp] theorem totalWeight_cons (goal : Goal) (goals : List Goal) :
    totalWeight (goal :: goals) = goal.weight + totalWeight goals := rfl

@[simp] theorem totalWeight_append (front back : List Goal) :
    totalWeight (front ++ back) = totalWeight front + totalWeight back := by
  induction front with
  | nil => simp
  | cons goal front ih => simp [ih, Nat.add_assoc]

end Goal

end GrammarCheck
