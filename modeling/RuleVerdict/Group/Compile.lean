import RuleVerdict.Group.Basic
import RuleVerdict.TreeCache

/-!
# Compiling groups

A definition is checked in a fixed order, and the first fault is reported: ids are assigned,
operators resolved, and, unless the logic is blank, its words, its shape and its references are
checked before its tree is built. An atom without an id gets the next number after the largest one
written in the group.

* `compileWith_fst`: with an empty cache the result is that of compiling without a cache.
-/

namespace RuleVerdict

open Logic

/-! ## Ids -/

/-- The next id; the largest one is followed by itself. -/
def AtomId.next (id : AtomId) : AtomId :=
  if id.toNat < AtomId.greatest then UInt32.ofNat (id.toNat + 1) else id

/-- The largest id that is written in some definitions, or zero. -/
def largestId (defs : List AtomDefinition) : AtomId :=
  (defs.filterMap AtomDefinition.id).foldl (fun m id => if m < id then id else m) 0

/-- Assigns ids from `next` on to the definitions without one; `seen` are the ids used before. -/
def assignFrom (next : AtomId) (seen : List AtomId) :
    List AtomDefinition → Except CompileError (List AtomId)
  | [] => .ok []
  | d :: ds =>
    let id := d.id.getD next
    let next := if d.id.isSome then next else next.next
    if seen.contains id then .error (.duplicateAtomId id)
    else (assignFrom next (id :: seen) ds).map (id :: ·)

/-- The ids of some definitions: those that are written, and else the numbers after the largest of
these. -/
def assignIds (defs : List AtomDefinition) : Except CompileError (List AtomId) :=
  assignFrom (largestId defs).next [] defs

/-! ## Atoms -/

/-- The atom with an id and the parts of a definition, if there is such an operator. -/
def AtomDefinition.resolve (d : AtomDefinition) (id : AtomId) : Except CompileError Atom :=
  match Operator.ofSpelling? d.op with
  | some op => .ok { id := id, key := d.key, op := op, literal := d.literal, message := d.message }
  | none => .error (.unknownOperator id d.op)

/-- The atoms with the given ids. -/
def resolveAll : List AtomDefinition → List AtomId → Except CompileError (List Atom)
  | d :: ds, id :: ids =>
    match d.resolve id with
    | .error e => .error e
    | .ok a => (resolveAll ds ids).map (a :: ·)
  | _, _ => .ok []

/-! ## Logic -/

/-- Checks that the tokens refer to the given ids only. -/
def checkReferences (ids : List AtomId) : List Token → Except CompileError Unit
  | [] => .ok ()
  | t :: ts =>
    match t.id? with
    | none => checkReferences ids ts
    | some id => if ids.contains id then checkReferences ids ts else .error (.undefinedAtom id)

/-- Checks the words, the shape and the references of a logic in normal layout. -/
def checkLogic (ids : List AtomId) (logic : String) : Except CompileError Unit :=
  match tokenize logic with
  | .error w => .error (.invalidToken w)
  | .ok ts =>
    match checkShape ts with
    | .error e => .error (.malformedLogic logic (.shape e))
    | .ok () => checkReferences ids ts

/-! ## Groups -/

namespace GroupDefinition

/-- Checks all of a definition but its tree, and gives the group without it. -/
def check (d : GroupDefinition) : Except CompileError Group :=
  match assignIds d.rules with
  | .error e => .error e
  | .ok ids =>
    match resolveAll d.rules ids with
    | .error e => .error e
    | .ok atoms =>
      let logic := normalize d.logic
      let group : Group := ⟨d.name, d.message.getD "", d.value, d.blame, atoms, logic, none⟩
      if logic = "" then .ok group
      else
        match checkLogic ids logic with
        | .error e => .error e
        | .ok () => .ok group

/-- Compiles a definition with the trees of a cache, and keeps the tree that had to be built. -/
def compileWith (d : GroupDefinition) (c : TreeCache) : Except CompileError Group × TreeCache :=
  match d.check with
  | .error e => (.error e, c)
  | .ok g =>
    if g.logic = "" then (.ok g, c)
    else
      match c.getOrBuild g.logic with
      | (.error e, c) => (.error e, c)
      | (.ok t, c) => (.ok { g with tree := some t }, c)

/-- Compiles a definition. -/
def compile (d : GroupDefinition) : Except CompileError Group :=
  match d.check with
  | .error e => .error e
  | .ok g =>
    if g.logic = "" then .ok g
    else
      match buildTree g.logic with
      | .error e => .error e
      | .ok t => .ok { g with tree := some t }

theorem compileWith_fst (d : GroupDefinition) : (d.compileWith .empty).1 = d.compile := by
  unfold compileWith compile
  split
  · rfl
  · split
    · rfl
    · next g _ _ =>
      have h : TreeCache.empty.get? g.logic = none := by simp [TreeCache.get?, TreeCache.empty]
      simp only [TreeCache.getOrBuild, h]
      cases buildTree g.logic <;> rfl

end GroupDefinition

end RuleVerdict
