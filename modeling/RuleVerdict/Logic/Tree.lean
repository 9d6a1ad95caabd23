import RuleVerdict.Logic.Segment
import RuleVerdict.Logic.Nesting
import RuleVerdict.Logic.Layout

/-!
# Reading a logic text into a tree

The words of a logic text are read from the outside in. Words inside one pair of brackets are read
as what is inside. Otherwise an `or` outside brackets makes a disjunction, else an `and` a
conjunction, else a leading `not` a negation, and what is left has to be a single atom id. Only
the depth of the words is limited beforehand; that they are tokens is not assumed.

* `length_lt_of_decompose`: each part is shorter than the whole, so the reading comes to an end.
* `build_eq`: the reading follows the decomposition.
-/

namespace RuleVerdict.Logic

/-- How a word list is put together, with the word lists of its parts. -/
inductive Decomposition where
  | brackets (inner : List String)
  | disjunction (parts : List (List String))
  | conjunction (parts : List (List String))
  | negation (rest : List String)
  | atom (id : AtomId)
  deriving DecidableEq

/-- The word lists that are read next. -/
def Decomposition.parts : Decomposition → List (List String)
  | .brackets inner => [inner]
  | .disjunction parts => parts
  | .conjunction parts => parts
  | .negation rest => [rest]
  | .atom _ => []

/-- The id that a single word writes; a plus sign may stand before the digits. -/
def atomOfWord? (w : String) : Option AtomId :=
  match w.toList with
  | '+' :: ds => AtomId.ofDigits? ds
  | ds => AtomId.ofDigits? ds

/-- Takes a word list without an `and` or `or` outside brackets apart. -/
def decomposeUnary : List String → Except TreeError Decomposition
  | [] => .error .emptyOperand
  | w :: ws =>
    if w = "not" then .ok (.negation ws)
    else if ws = [] then
      match atomOfWord? w with
      | some id => .ok (.atom id)
      | none => .error (.notAnId w)
    else .error (.unsplittable (w :: ws))

/-- Takes the words of some segments apart. -/
def decomposeSegments (ws : List String) : List Segment → Except TreeError Decomposition
  | [.group inner] => .ok (.brackets inner)
  | segs =>
    match operands? "or" segs with
    | some parts => .ok (.disjunction parts)
    | none =>
      match operands? "and" segs with
      | some parts => .ok (.conjunction parts)
      | none => decomposeUnary ws

/-- Takes a word list apart. -/
def decompose (ws : List String) : Except TreeError Decomposition :=
  if ws = [] then .error .emptyOperand
  else
    match segments ws with
    | .error e => .error e
    | .ok segs => decomposeSegments ws segs

theorem length_lt_of_decomposeUnary {ws : List String} {d : Decomposition}
    (h : decomposeUnary ws = .ok d) {p : List String} (hp : p ∈ d.parts) :
    p.length < ws.length := by
  cases ws with
  | nil => cases h
  | cons w ws =>
    rw [decomposeUnary] at h
    split at h
    · cases h
      simp only [Decomposition.parts, List.mem_singleton] at hp
      subst hp
      simp
    · split at h
      · split at h
        · cases h; cases hp
        · cases h
      · cases h

theorem length_lt_of_decomposeSegments {ws : List String} {segs : List Segment}
    (hs : segs.flatMap Segment.words = ws) {d : Decomposition}
    (h : decomposeSegments ws segs = .ok d) {p : List String} (hp : p ∈ d.parts) :
    p.length < ws.length := by
  unfold decomposeSegments at h
  split at h
  · cases h
    simp only [Decomposition.parts, List.mem_singleton] at hp
    subst hp hs
    simp only [List.flatMap_cons, List.flatMap_nil, List.append_nil, Segment.words,
      List.length_append, List.length_cons, List.length_nil]
    omega
  · split at h
    · next parts hparts => cases h; exact hs ▸ length_lt_of_mem_operands? hparts hp
    · split at h
      · next parts hparts => cases h; exact hs ▸ length_lt_of_mem_operands? hparts hp
      · exact length_lt_of_decomposeUnary h hp

/-- Each part is shorter than the whole. -/
theorem length_lt_of_decompose {ws : List String} {d : Decomposition}
    (h : decompose ws = .ok d) {p : List String} (hp : p ∈ d.parts) :
    p.length < ws.length := by
  unfold decompose at h
  split at h
  · cases h
  · split at h
    · cases h
    · next segs hsegs =>
      exact length_lt_of_decomposeSegments (flatMap_words_segments hsegs) h hp

/-- Reads a word list into a formula. -/
def build (ws : List String) : Except TreeError Formula :=
  match _h : decompose ws with
  | .error e => .error e
  | .ok (.brackets inner) => build inner
  | .ok (.disjunction parts) =>
    (parts.attach.mapM fun p => build p.1).map (.disjunction (Text.join ' ' ws))
  | .ok (.conjunction parts) =>
    (parts.attach.mapM fun p => build p.1).map (.conjunction (Text.join ' ' ws))
  | .ok (.negation rest) => (build rest).map (.negation (Text.join ' ' ws))
  | .ok (.atom id) => .ok (.atom id)
termination_by ws.length
decreasing_by
  · exact length_lt_of_decompose _h (by simp [Decomposition.parts])
  · exact length_lt_of_decompose _h (by simpa [Decomposition.parts] using p.2)
  · exact length_lt_of_decompose _h (by simpa [Decomposition.parts] using p.2)
  · exact length_lt_of_decompose _h (by simp [Decomposition.parts])

/-- The reading follows the decomposition. -/
theorem build_eq (ws : List String) :
    build ws =
      match decompose ws with
      | .error e => .error e
      | .ok (.brackets inner) => build inner
      | .ok (.disjunction parts) => (parts.mapM build).map (.disjunction (Text.join ' ' ws))
      | .ok (.conjunction parts) => (parts.mapM build).map (.conjunction (Text.join ' ' ws))
      | .ok (.negation rest) => (build rest).map (.negation (Text.join ' ' ws))
      | .ok (.atom id) => .ok (.atom id) := by
  rw [build]
  split <;> simp_all [List.mapM_subtype, List.unattach_attach]

/-- A formula with the logic text it was read from. Its nodes are listed once and for all. -/
structure Tree where
  logic : String
  root : Formula
  nodes : Array Node := root.nodes.toArray
  nodes_eq : nodes = root.nodes.toArray := by rfl

/-- Reads a logic text in normal layout into a tree. -/
def Tree.build (logic : String) : Except TreeError Tree :=
  if nestingLimit < nesting (words logic) then .error .tooDeep
  else (Logic.build (words logic)).map fun f => { logic := logic, root := f }

/-- The wording of a tree error. -/
def TreeError.message : TreeError → String
  | .tooDeep => "nesting deeper than " ++ Text.numeral nestingLimit ++ " levels"
  | .emptyOperand => "empty sub-expression"
  | .unopened => "unmatched ')'"
  | .unclosed => "unmatched '('"
  | .notAnId w => "'" ++ w ++ "' is not an atom id"
  | .unsplittable ws => "cannot split '" ++ Text.join ' ' ws ++ "'"

end RuleVerdict.Logic
