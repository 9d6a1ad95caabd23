import Mathlib.Algebra.Group.Int.Defs
import RuleVerdict.Definition.Scalar
import RuleVerdict.Proofs.Record.LastWrite

/-!
# Walking a document

A record that is made from a JSON value is looked into as the value itself would be: a path is
walked member by member, one name after the other, and what stands at the end of the walk is what
the record shows. The record has forgotten the nulls and the items of arrays, and a path is cut at
its dots before it is walked, so neither of them can be reached, nor a member with a dot in its
name.

* `lookup_ofJsonWith`: the entry under a path is the one of the value at the end of the walk.
* `walk_prune`: what cannot be reached does not matter to a walk.
* `found_ofJson`: what a record from JSON shows under a path.
-/

namespace RuleVerdict

/-! ## Numbers as they are written -/

namespace JsonNumber

/-- A number written as an integer: no point, no exponent and no minus before zero. -/
def IsIntegral (n : JsonNumber) : Prop :=
  n.fraction = none ∧ n.exponent = none ∧ ¬(n.negative = true ∧ Text.ofDigits n.whole = 0)

instance decidableIsIntegral (n : JsonNumber) : Decidable n.IsIntegral :=
  inferInstanceAs (Decidable (_ ∧ _))

/-- The digits before the point with their sign. -/
def signed (n : JsonNumber) : Int :=
  if n.negative then -(Text.ofDigits n.whole : Int) else Text.ofDigits n.whole

/-- What a record shows of a number: an integer where one is written that fits in 64 bits, and
else the binary number that the reader takes it for, if there is one. -/
def shown (R : JsonReader) (n : JsonNumber) : Option Value × Field :=
  if n.IsIntegral ∧ -2 ^ 63 ≤ n.signed ∧ n.signed < 2 ^ 63 then
    (some (.int (Int64.ofInt n.signed)), .number (.ofInt n.signed))
  else
    match R.number? n with
    | none => (none, .absent)
    | some x => (some (.float x), .number x)

theorem toInt?_of_isIntegral {n : JsonNumber} (h : n.IsIntegral) : n.toInt? = some n.signed := by
  obtain ⟨hFraction, hExponent, hZero⟩ := h
  unfold toInt? signed
  simp only [hFraction, hExponent, Option.isSome_none, Bool.or_false, Bool.false_eq_true, if_false]
  split
  · next hNegative =>
    have hMagnitude : Text.ofDigits n.whole ≠ 0 := fun hMagnitude => hZero ⟨hNegative, hMagnitude⟩
    rw [if_neg hMagnitude]
  · rfl

theorem toInt?_of_not_isIntegral {n : JsonNumber} (h : ¬n.IsIntegral) : n.toInt? = none := by
  unfold toInt?
  split
  · rfl
  · next hPlain =>
    simp only [Bool.or_eq_true, not_or, Option.not_isSome_iff_eq_none] at hPlain
    have hZero : n.negative = true ∧ Text.ofDigits n.whole = 0 := by
      by_contra hOther
      exact h ⟨hPlain.1, hPlain.2, hOther⟩
    simp only [hZero.1, hZero.2, if_true]

theorem int64?_eq (i : Int) :
    int64? i = if -2 ^ 63 ≤ i ∧ i < 2 ^ 63 then some (Int64.ofInt i) else none := by
  have hRange :
      (-9223372036854775808 ≤ i ∧ i ≤ 9223372036854775807) ↔ -2 ^ 63 ≤ i ∧ i < 2 ^ 63 := by
    omega
  rw [int64?, if_congr hRange rfl rfl]

/-- The integer that is kept for a number. -/
theorem toInt?_bind_int64? (n : JsonNumber) :
    n.toInt?.bind int64? =
      if n.IsIntegral ∧ -2 ^ 63 ≤ n.signed ∧ n.signed < 2 ^ 63 then some (Int64.ofInt n.signed)
      else none := by
  by_cases h : n.IsIntegral
  · simp only [toInt?_of_isIntegral h, Option.bind_some, int64?_eq, h, true_and]
  · simp only [toInt?_of_not_isIntegral h, Option.bind_none, h, false_and, if_false]

end JsonNumber

namespace Json

/-! ## Walks -/

/-- The member of an object with the given name; the last one counts. -/
def memberNamed? (name : String) : Json → Option Json
  | .object ms => (ms.reverse.find? fun m => m.1 == some name).map (·.2)
  | _ => none

/-- The value at the end of a path: one member after the other. -/
def walk : List String → Json → Option Json
  | [], j => some j
  | name :: rest, j => (memberNamed? name j).bind (walk rest)

/-- What a record shows of the value at the end of a walk, if there is one. -/
def shown (R : JsonReader) : Option Json → Option Value × Field
  | none | some .null | some (.text none) => (none, .absent)
  | some (.array _) | some (.object _) => (none, .unsupported)
  | some (.bool b) => (some (.bool b), .bool b)
  | some (.text (some s)) => (some (.text s), .text s)
  | some (.number n) => n.shown R

/-- A member whose name has a dot in it. -/
def hasDottedName (m : Option String × Json) : Bool := m.1.any fun name => name.toList.contains '.'

mutual

/-- The value without what no path leads to: members with a dot in their name, items of arrays. -/
def prune : Json → Json
  | .array _ => .array []
  | .object ms => .object (pruneMembers ms)
  | j => j

/-- The members without those that have a dot in their name, each without what no path leads to. -/
def pruneMembers : List (Option String × Json) → List (Option String × Json)
  | [] => []
  | (name, v) :: ms =>
    if hasDottedName (name, v) then pruneMembers ms else (name, prune v) :: pruneMembers ms

end

theorem memberNamed?_cons (name : String) (m : Option String × Json)
    (ms : List (Option String × Json)) :
    memberNamed? name (.object (m :: ms)) =
      (memberNamed? name (.object ms)).or (if m.1 = some name then some m.2 else none) := by
  simp only [memberNamed?, List.reverse_cons, List.find?_append, Option.map_or]
  by_cases h : m.1 = some name <;> simp [h]

theorem isSome_memberNamed? (name : String) (ms : List (Option String × Json)) :
    (memberNamed? name (.object ms)).isSome = ms.any fun m => m.1 == some name := by
  rw [memberNamed?, Option.isSome_map, Bool.eq_iff_iff, List.find?_isSome, List.any_eq_true]
  simp only [List.mem_reverse]

theorem memberNamed?_eq_none {name : String} {ms : List (Option String × Json)}
    (h : (ms.any fun m => m.1 == some name) = false) : memberNamed? name (.object ms) = none := by
  rw [← Option.not_isSome_iff_eq_none, isSome_memberNamed?, h]
  decide

theorem walk_of_ne_object {j : Json} (h : ∀ ms, j ≠ .object ms) {path : List String}
    (hNe : path ≠ []) : walk path j = none := by
  cases path with
  | nil => exact absurd rfl hNe
  | cons name rest =>
    have hMember : memberNamed? name j = none := by
      cases j with
      | object ms => exact absurd rfl (h ms)
      | _ => rfl
    rw [walk, hMember, Option.bind_none]

end Json

/-! ## The entries of a document -/

namespace Record

open Json

variable (R : JsonReader)

/-- Under a name stands the entry of the member with that name. -/
theorem entryAt_ofMembersWith (name : String) (ms : List (Option String × Json)) :
    entryAt name (Entry.ofMembersWith R ms) =
      (memberNamed? name (.object ms)).bind (Entry.ofJsonWith? R) := by
  induction ms with
  | nil => rfl
  | cons m ms ih =>
    obtain ⟨other, v⟩ := m
    rw [memberNamed?_cons]
    cases other with
    | none => simp [Entry.ofMembersWith, ih]
    | some other =>
      rw [Entry.ofMembersWith]
      by_cases hName : other = name
      · subst hName
        split
        · next hLater =>
          rw [← isSome_memberNamed?] at hLater
          rw [ih, Option.or_of_isSome hLater]
        · next hLast =>
          have hNone := memberNamed?_eq_none (Bool.eq_false_iff.mpr hLast)
          rw [hNone, Option.bind_none] at ih
          rw [hNone, Option.none_or, if_pos rfl, Option.bind_some]
          cases hEntry : Entry.ofJsonWith? R v with
          | none => exact ih
          | some e => rw [entryAt, if_pos rfl]
      · have hOther : ¬some other = some name := fun h => hName (Option.some.inj h)
        rw [if_neg hOther, Option.or_none, ← ih]
        split
        · rfl
        · cases hEntry : Entry.ofJsonWith? R v with
          | none => rfl
          | some e => rw [entryAt, if_neg hName]

/-- The entries of a record are those below the entry of the value it is made from. -/
theorem members_ofJsonWith (j : Json) :
    (ofJsonWith R j).members = membersOf (Entry.ofJsonWith? R j) := by
  cases j with
  | number n =>
    rw [Entry.ofJsonWith?]
    cases Value.ofNumberWith? R n <;> rfl
  | text s => cases s <;> rfl
  | _ => rfl

/-- Under a path stands the entry of the value that the path leads to. -/
theorem lookup_ofJsonWith {path : List String} (hNe : path ≠ []) (j : Json) :
    lookup path (ofJsonWith R j).members = (walk path j).bind (Entry.ofJsonWith? R) := by
  induction path generalizing j with
  | nil => exact absurd rfl hNe
  | cons name rest ih =>
    by_cases hObject : ∃ ms, j = .object ms
    · obtain ⟨ms, rfl⟩ := hObject
      rw [ofJsonWith, walk, Option.bind_assoc]
      by_cases hRest : rest = []
      · subst hRest
        rw [lookup, entryAt_ofMembersWith]
        rfl
      · rw [lookup_cons hRest, entryAt_ofMembersWith]
        cases memberNamed? name (.object ms) with
        | none => exact lookup_nil_members rest
        | some v => rw [Option.bind_some, Option.bind_some, ← members_ofJsonWith, ih hRest]
    · have hNone : ofJsonWith R j = empty := by
        cases j with
        | object ms => exact absurd ⟨ms, rfl⟩ hObject
        | _ => rfl
      rw [hNone, walk_of_ne_object (fun ms h => hObject ⟨ms, h⟩) hNe]
      exact lookup_nil_members (name :: rest)

/-! ## What is shown -/

/-- What a record shows of the entry under a path. -/
def showing : Option Entry → Option Value × Field
  | none => (none, .absent)
  | some (.value v) => (some v, v.field)
  | some _ => (none, .unsupported)

theorem found_eq_showing (r : Record) (path : String) :
    r.found path = showing (lookup (segments path) r.members) := by
  unfold found get? field
  rcases lookup (segments path) r.members with _ | _ | _ | _ <;> rfl

theorem showing_ofNumberWith? (n : JsonNumber) :
    showing ((Value.ofNumberWith? R n).map .value) = n.shown R := by
  rw [Value.ofNumberWith?, n.toInt?_bind_int64?, JsonNumber.shown]
  by_cases hInteger : n.IsIntegral ∧ -2 ^ 63 ≤ n.signed ∧ n.signed < 2 ^ 63
  · have hSame : (Int64.ofInt n.signed).toInt = n.signed :=
      Int64.toInt_ofInt_of_le hInteger.2.1 hInteger.2.2
    simp only [if_pos hInteger, Option.map_some, showing, Value.field, hSame]
  · simp only [if_neg hInteger]
    cases R.number? n <;> rfl

theorem showing_bind_ofJsonWith? (reached : Option Json) :
    showing (reached.bind (Entry.ofJsonWith? R)) = shown R reached := by
  cases reached with
  | none => rfl
  | some j =>
    cases j with
    | number n => exact showing_ofNumberWith? R n
    | text s => cases s <;> rfl
    | _ => rfl

/-! ## What no path leads to -/

theorem memberNamed?_prune {name : String} (h : '.' ∉ name.toList) (j : Json) :
    memberNamed? name j.prune = (memberNamed? name j).map prune := by
  cases j with
  | object ms =>
    rw [prune]
    induction ms with
    | nil => rfl
    | cons m ms ih =>
      obtain ⟨other, v⟩ := m
      rw [pruneMembers, memberNamed?_cons]
      split
      · next hDotted =>
        have hOther : other ≠ some name := by
          rintro rfl
          exact h (by simpa [hasDottedName] using hDotted)
        rw [if_neg hOther, Option.or_none, ih]
      · rw [memberNamed?_cons, ih, Option.map_or, apply_ite (Option.map prune)]
        rfl
  | _ => rfl

/-- A walk leads to the same value, less what no path leads to. -/
theorem walk_prune {path : List String} (h : ∀ name ∈ path, '.' ∉ name.toList) (j : Json) :
    walk path j.prune = (walk path j).map prune := by
  induction path generalizing j with
  | nil => rfl
  | cons name rest ih =>
    obtain ⟨hName, hRest⟩ := List.forall_mem_cons.mp h
    rw [walk, walk, memberNamed?_prune hName, Option.bind_map, Option.map_bind]
    congr 1
    funext v
    exact ih hRest v

theorem shown_map_prune (reached : Option Json) :
    shown R (reached.map prune) = shown R reached := by
  rcases reached with _ | j
  · rfl
  · cases j <;> rfl

theorem not_dotted_of_mem_segments {path name : String} (h : name ∈ segments path) :
    '.' ∉ name.toList := by
  obtain ⟨piece, hPiece, rfl⟩ := List.mem_map.mp h
  rw [String.toList_ofList]
  exact Text.not_mem_of_mem_pieces hPiece

/-- **Looking a path up is walking the document.** With any reader, a record from a JSON value
shows under a path what stands at the end of the walk along its names. The members that have a dot
in their name and the items of arrays, wherever they are in the document, make no difference to any
path. -/
theorem found_ofJson (j : Json) (path : String) :
    (ofJsonWith R j).found path = shown R (walk (segments path) j) ∧
      (ofJsonWith R j.prune).found path = (ofJsonWith R j).found path := by
  have hFound : ∀ j, (ofJsonWith R j).found path = shown R (walk (segments path) j) := by
    intro j
    rw [found_eq_showing, lookup_ofJsonWith R (segments_ne_nil path), showing_bind_ofJsonWith?]
  have hPrune : walk (segments path) j.prune = (walk (segments path) j).map prune :=
    walk_prune (fun _ h => not_dotted_of_mem_segments h) j
  refine ⟨hFound j, ?_⟩
  rw [hFound, hFound, hPrune, shown_map_prune]

/-- The path leads to the null below `a`, past the member whose name is the whole path. -/
example :
    let document := Json.object [(some "a.b", .bool true), (some "a", .object [(some "b", .null)])]
    (ofJson document).found "a.b" = (none, .absent) := by
  decide

end Record

end RuleVerdict
