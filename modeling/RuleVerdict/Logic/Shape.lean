import RuleVerdict.Logic.Token

/-!
# The shape of a token list

A token list is well formed when it is an expression: atoms joined by `and` and `or`, each of
which may stand behind `not`, with brackets around expressions. `not` binds tightest and `or`
loosest. The check runs over the tokens once, with a stack of truth values and a stack of
connectives that wait for their right operand, and computes the value of the expression on the
way. Adjacent tokens are compared as they come, so the first token that cannot stand where it
stands is the one reported.

* `evaluate`: the value of an expression under an assignment, or what is wrong with the tokens.
* `checkShape`: whether the tokens are an expression at all, whatever the atoms are worth.
-/

namespace RuleVerdict.Logic

/-- What waits on the stack of connectives. -/
inductive Pending where
  | or
  | and
  | not
  | opening
  deriving DecidableEq

namespace Pending

/-- A connective is applied before one that binds less tightly is put on the stack. -/
def precedence : Pending → Nat
  | .opening => 0
  | .or => 1
  | .and => 2
  | .not => 3

/-- How the connective is written. -/
def word : Pending → String
  | .or => "or"
  | .and => "and"
  | .not => "not"
  | .opening => "("

end Pending

/-- What can be wrong with the shape of a token list. -/
inductive ShapeError where
  | unexpected (token : Token) (position : Nat)
  | missingOperand
  | unclosed
  | unopened (position : Nat)
  | underflow (connective : Pending)
  | leftover (count : Nat)
  | unassigned (id : AtomId)
  deriving DecidableEq

/-- The wording of a shape error. -/
def ShapeError.message : ShapeError → String
  | .unexpected token position =>
    "unexpected `" ++ token.word ++ "` at position " ++ Text.numeral position
  | .missingOperand => "expression ends where an operand is expected"
  | .unclosed => "unmatched `(`"
  | .unopened position => "unmatched `)` at position " ++ Text.numeral position
  | .underflow connective => "operand stack underflow at `" ++ connective.word ++ "`"
  | .leftover count => "expression leaves " ++ Text.numeral count ++ " operands"
  | .unassigned id => "no value for atom " ++ id.text

/-- The two stacks, topmost entry first, and whether the next token has to begin an operand. -/
structure Stacks where
  operands : List Bool
  pending : List Pending
  wantsOperand : Bool
  deriving DecidableEq

namespace Stacks

/-- The stacks before the first token. -/
def start : Stacks := ⟨[], [], true⟩

/-- Applies a connective to the topmost operands. -/
def apply (connective : Pending) (operands : List Bool) : Except ShapeError (List Bool) :=
  match connective, operands with
  | .not, a :: rest => .ok ((!a) :: rest)
  | .and, b :: a :: rest => .ok ((a && b) :: rest)
  | .or, b :: a :: rest => .ok ((a || b) :: rest)
  | .opening, _ => .error .unclosed
  | c, _ => .error (.underflow c)

/-- Applies the waiting connectives that bind at least as tightly as the given precedence, down to
the innermost open bracket. -/
def reduce (precedence : Nat) :
    List Pending → List Bool → Except ShapeError (List Pending × List Bool)
  | [], operands => .ok ([], operands)
  | c :: cs, operands =>
    if c = .opening ∨ c.precedence < precedence then .ok (c :: cs, operands)
    else
      match apply c operands with
      | .error e => .error e
      | .ok operands => reduce precedence cs operands

/-- Applies the waiting connectives of the innermost open bracket and removes the bracket. -/
def close (position : Nat) :
    List Pending → List Bool → Except ShapeError (List Pending × List Bool)
  | [], _ => .error (.unopened position)
  | .opening :: cs, operands => .ok (cs, operands)
  | c :: cs, operands =>
    match apply c operands with
    | .error e => .error e
    | .ok operands => close position cs operands

/-- Takes the next token. -/
def step (truth : AtomId → Option Bool) (position : Nat) (t : Token) (s : Stacks) :
    Except ShapeError Stacks :=
  match t with
  | .id n =>
    if s.wantsOperand then
      match truth n with
      | some b => .ok ⟨b :: s.operands, s.pending, false⟩
      | none => .error (.unassigned n)
    else .error (.unexpected t position)
  | .not =>
    if s.wantsOperand then .ok ⟨s.operands, .not :: s.pending, true⟩
    else .error (.unexpected t position)
  | .opening =>
    if s.wantsOperand then .ok ⟨s.operands, .opening :: s.pending, true⟩
    else .error (.unexpected t position)
  | .and =>
    if s.wantsOperand then .error (.unexpected t position)
    else
      match reduce Pending.and.precedence s.pending s.operands with
      | .error e => .error e
      | .ok (pending, operands) => .ok ⟨operands, .and :: pending, true⟩
  | .or =>
    if s.wantsOperand then .error (.unexpected t position)
    else
      match reduce Pending.or.precedence s.pending s.operands with
      | .error e => .error e
      | .ok (pending, operands) => .ok ⟨operands, .or :: pending, true⟩
  | .closing =>
    if s.wantsOperand then .error (.unexpected t position)
    else
      match close position s.pending s.operands with
      | .error e => .error e
      | .ok (pending, operands) => .ok ⟨operands, pending, false⟩

/-- Takes tokens, the first of which has the given position. -/
def run (truth : AtomId → Option Bool) (position : Nat) :
    List Token → Stacks → Except ShapeError Stacks
  | [], s => .ok s
  | t :: ts, s =>
    match step truth position t s with
    | .error e => .error e
    | .ok s => run truth (position + 1) ts s

/-- Applies all that still waits after the last token. -/
def drain : List Pending → List Bool → Except ShapeError Bool
  | [], [b] => .ok b
  | [], operands => .error (.leftover operands.length)
  | c :: cs, operands =>
    match apply c operands with
    | .error e => .error e
    | .ok operands => drain cs operands

/-- The value that the stacks hold after the last token. -/
def finish (s : Stacks) : Except ShapeError Bool :=
  if s.wantsOperand then .error .missingOperand else drain s.pending s.operands

end Stacks

/-- The value of the expression that the tokens write, under an assignment of truth values. -/
def evaluate (truth : AtomId → Option Bool) (ts : List Token) : Except ShapeError Bool :=
  match Stacks.run truth 0 ts .start with
  | .error e => .error e
  | .ok s => s.finish

/-- Whether the tokens write an expression. No truth value matters, so all atoms count as true. -/
def checkShape (ts : List Token) : Except ShapeError Unit :=
  (evaluate (fun _ => some true) ts).map fun _ => ()

end RuleVerdict.Logic
