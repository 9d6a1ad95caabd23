import RuleVerdict.Definition.Decode
import RuleVerdict.Group.Compile
import RuleVerdict.Proofs.Atom.Operators
import RuleVerdict.Proofs.Binary64.ReadBack
import RuleVerdict.Proofs.Json.Readers
import RuleVerdict.Proofs.Record.JsonWalk

/-!
# Literals and fields written alike

A scalar of JSON is decoded in two ways: as a literal all kinds of value are tried on it one after
the other, in a record its own kind decides. Both lead to the same value, for every number, text
and truth value and however it is written, so that what a rule is written for is what its atom
finds: it is equal to its literal, and neither below nor above it.

* `Entry.ofJsonWith?_of_isScalar`: a field is decoded as a literal is.
* `Value.isSome_ofJsonWith?_iff`: the scalars that are values at all.
* `literal_fits_same_field`: from the texts of rule and record to what the atom says.
-/

namespace RuleVerdict

open Text Json

/-! ## Decoding a scalar -/

namespace Json

/-- A scalar that is a value: a number that is an integer of 64 bits or that the reader takes for a
binary number, a text without half of a surrogate pair, or a truth value. -/
inductive IsValue (R : JsonReader) : Json → Prop
  | bool (b : Bool) : IsValue R (.bool b)
  | integer {n : JsonNumber} {i : Int64} (h : n.toInt?.bind RuleVerdict.int64? = some i) :
      IsValue R (.number n)
  | number {n : JsonNumber} {x : Binary64} (h : R.number? n = some x) : IsValue R (.number n)
  | text (s : String) : IsValue R (.text (some s))

end Json

variable {R : JsonReader} {v : Json}

/-- A field is decoded as a literal is. -/
theorem Entry.ofJsonWith?_of_isScalar (h : v.IsScalar) :
    Entry.ofJsonWith? R v = (Value.ofJsonWith? R v).map .value := by
  cases h with
  | bool b => rfl
  | number n => rw [Entry.ofJsonWith?, Value.ofJsonWith?_number]
  | text s => cases s <;> rfl

/-- A literal is null or a value. -/
theorem orNull_ofJsonWith?_of_isScalar (h : v.IsScalar) :
    orNull (Value.ofJsonWith? R) v = (Value.ofJsonWith? R v).map some := by
  cases h <;> rfl

/-- The scalars that are values at all. -/
theorem Value.isSome_ofJsonWith?_iff (h : v.IsScalar) :
    (ofJsonWith? R v).isSome = true ↔ v.IsValue R := by
  cases h with
  | bool b => exact iff_of_true rfl (.bool b)
  | text s =>
    cases s with
    | none =>
      rw [ofJsonWith?_text]
      exact iff_of_false nofun nofun
    | some s => exact iff_of_true rfl (.text s)
  | number n =>
    rw [ofJsonWith?_number, ofNumberWith?]
    cases hInt : n.toInt?.bind int64? with
    | some i => exact iff_of_true rfl (.integer hInt)
    | none =>
      rw [Option.isSome_map]
      constructor
      · intro hNumber
        obtain ⟨x, hx⟩ := Option.isSome_iff_exists.mp hNumber
        exact .number hx
      · rintro (_ | hInteger | hNumber | _)
        · rw [hInt] at hInteger
          cases hInteger
        · rw [hNumber]
          rfl

/-- A binary number from JSON is finite. -/
theorem Value.isFinite_of_ofJsonWith? (hR : R.Lawful) {x : Binary64}
    (h : ofJsonWith? R v = some (.float x)) : x.isFinite = true := by
  cases v with
  | number n =>
    rw [ofJsonWith?_number, ofNumberWith?] at h
    split at h
    · cases h
    · obtain ⟨y, hy, hSame⟩ := Option.map_eq_some_iff.mp h
      cases hSame
      exact hR.finite n x hy
  | text s =>
    obtain ⟨t, -, hSame⟩ := Option.map_eq_some_iff.mp h
    cases hSame
  | _ => cases h

/-- A value from JSON can be compared with itself. -/
theorem Value.ofFields_self (hR : R.Lawful) {a : Value} (h : ofJsonWith? R v = some a) :
    Standing.ofFields a.field a.field = .same := by
  have hNumber : ∀ x : Binary64, x.isFinite = true → ¬(Field.number x).IsNaN := by
    rintro x hx ⟨y, hy, hNaN⟩
    obtain rfl := Field.number.inj hy
    rw [Binary64.isNaN_of_isFinite hx] at hNaN
    cases hNaN
  cases a with
  | int i =>
    exact Standing.ofFields_self (.inr (.number _)) (hNumber _ (Binary64.isFinite_ofInt i))
  | float x =>
    exact Standing.ofFields_self (.inr (.number x)) (hNumber x (isFinite_of_ofJsonWith? hR h))
  | bool b => exact Standing.ofFields_self (.inr (.bool b)) nofun
  | text s => exact Standing.ofTexts_self s

/-! ## Records and atoms -/

theorem Record.segments_of_not_mem {key : String} (h : '.' ∉ key.toList) :
    segments key = [key] := by
  rw [segments, split, pieces_of_not_mem h, List.map_singleton, String.ofList_toList]

/-- A record with one scalar under a name. -/
theorem Record.lookup_single {key : String} (hDots : '.' ∉ key.toList) (h : v.IsScalar) :
    lookup (segments key) (ofJsonWith R (.object [(some key, v)])).members =
      (Value.ofJsonWith? R v).map .value := by
  have hMember : memberNamed? key (.object [(some key, v)]) = some v := by
    simp [memberNamed?]
  rw [segments_of_not_mem hDots, lookup, ofJsonWith, entryAt_ofMembersWith, hMember,
    Option.bind_some, Entry.ofJsonWith?_of_isScalar h]

/-- An atom from the members that give its operator, its path and its literal. -/
theorem AtomDefinition.ofJsonWith?_members (op key : String) (h : v.IsScalar) :
    ofJsonWith? R (.object [(some "op", .text (some op)), (some "key", .text (some key)),
      (some "val", v)]) =
        (Value.ofJsonWith? R v).map fun a => ⟨op, key, some a, none, ""⟩ := by
  have hFields : fields? fieldNames (.object [(some "op", .text (some op)),
      (some "key", .text (some key)), (some "val", v)]) =
        some [some (.text (some op)), some (.text (some key)), some v, none, none] := by
    simp [fields?, fieldNames, member?]
  unfold ofJsonWith?
  rw [hFields]
  have hLiteral : Json.optional none (orNull (Value.ofJsonWith? R)) (some v) =
      (Value.ofJsonWith? R v).map some := orNull_ofJsonWith?_of_isScalar h
  dsimp only
  rw [hLiteral]
  cases Value.ofJsonWith? R v <;> rfl

/-! ## From text -/

/-- The members of the text of an atom. -/
theorem JsonReader.Lawful.read?_atomText (hR : R.Lawful)
    {opText keyText scalarText op key : String}
    (hOp : R.read? opText = some (.text (some op)))
    (hKey : R.read? keyText = some (.text (some key)))
    (hScalar : R.read? scalarText = some v) (h : v.IsScalar) :
    R.read? (objectText [("\"op\"", opText), ("\"key\"", keyText), ("\"val\"", scalarText)]) =
      some (.object [(some "op", .text (some op)), (some "key", .text (some key)),
        (some "val", v)]) := by
  have hOpName : R.read? "\"op\"" = some (.text (some "op")) := hR.written _ (.text "op")
  have hKeyName : R.read? "\"key\"" = some (.text (some "key")) := hR.written _ (.text "key")
  have hLiteralName : R.read? "\"val\"" = some (.text (some "val")) := hR.written _ (.text "val")
  exact hR.object _ _ <|
    .cons ⟨hOpName, hOp, .text _⟩ <| .cons ⟨hKeyName, hKey, .text _⟩ <|
      .cons ⟨hLiteralName, hScalar, h⟩ .nil

/-- **A literal fits the field that is written like it.** With any reader, a scalar is the same
value in the text of a record and in the text of an atom, or none in both. The atom that compares
with it finds a field in the record that is equal to its literal, and neither below nor above it. -/
theorem literal_fits_same_field (hR : R.Lawful) {opText keyText scalarText op key : String}
    {c : Comparison} (hOp : R.read? opText = some (.text (some op)))
    (hComparison : Operator.ofSpelling? op = some (.compare c))
    (hKey : R.read? keyText = some (.text (some key))) (hDots : '.' ∉ key.toList)
    (hScalar : R.read? scalarText = some v) (h : v.IsScalar) :
    ∃ document, R.read? (objectText [(keyText, scalarText)]) = some document ∧
      (Record.ofJsonWith R document).get? key = Value.parseWith? R scalarText ∧
      ((Value.parseWith? R scalarText).isSome = true ↔ v.IsValue R) ∧
      AtomDefinition.parseWith? R
        (objectText [("\"op\"", opText), ("\"key\"", keyText), ("\"val\"", scalarText)]) =
          (Value.parseWith? R scalarText).map (fun a => ⟨op, key, some a, none, ""⟩) ∧
      ∀ a, Value.parseWith? R scalarText = some a → ∀ id, ∃ atom,
        AtomDefinition.resolve ⟨op, key, some a, none, ""⟩ id = .ok atom ∧
          (atom.judge (Record.ofJsonWith R document) = true ↔ c = .eq ∨ c = .ge ∨ c = .le) := by
  have hParse : Value.parseWith? R scalarText = Value.ofJsonWith? R v := by
    rw [Value.parseWith?, hScalar, Option.bind_some]
  have hLookup := Record.lookup_single (R := R) hDots h
  rw [hParse]
  refine ⟨.object [(some key, v)], hR.object _ _ (.cons ⟨hKey, hScalar, h⟩ .nil), ?_,
    Value.isSome_ofJsonWith?_iff h, ?_, fun a ha id => ?_⟩
  · rw [Record.get?, hLookup]
    cases Value.ofJsonWith? R v <;> rfl
  · rw [AtomDefinition.parseWith?, hR.read?_atomText hOp hKey hScalar h, Option.bind_some,
      AtomDefinition.ofJsonWith?_members op key h]
  · have hField : (Record.ofJsonWith R (.object [(some key, v)])).field key = a.field := by
      rw [Record.field, hLookup, ha]
      rfl
    have hResolve : AtomDefinition.resolve ⟨op, key, some a, none, ""⟩ id =
        .ok ⟨id, key, .compare c, some a, "", _, rfl⟩ := by
      simp only [AtomDefinition.resolve, hComparison]
    refine ⟨_, hResolve, ?_⟩
    rw [Atom.judge_eq, hField, Matcher.fits_compare, Standing.toLiteral, Value.ofFields_self hR ha]
    cases c <;> decide

/-- The negative zero is written like an integer and is none, in a rule as in a record. -/
theorem literal_fits_same_field_negative_zero :
    ∃ document, JsonReader.standard.read? (objectText [("\"\\u006b\"", " -0 ")]) = some document ∧
      (Record.ofJsonWith .standard document).get? "k" = some (.float (.ofMagnitude true 0)) ∧
      ∃ atom, AtomDefinition.resolve ⟨">=", "k", some (.float (.ofMagnitude true 0)), none, ""⟩ 1 =
        .ok atom ∧ atom.judge (Record.ofJsonWith .standard document) = true := by
  have hOp : JsonReader.standard.read? "\">=\"" = some (.text (some ">=")) := by rfl
  have hComparison : Operator.ofSpelling? ">=" = some (.compare .ge) := by decide +kernel
  have hKey : JsonReader.standard.read? "\"\\u006b\"" = some (.text (some "k")) := by rfl
  have hNumber : JsonReader.standard.read? " -0 " = some (.number ⟨true, ['0'], none, none⟩) := by
    rfl
  have hValue : Value.parseWith? .standard " -0 " = some (.float (.ofMagnitude true 0)) := by
    decide +kernel
  obtain ⟨document, hDocument, hFound, -, -, hAtom⟩ :=
    literal_fits_same_field JsonReader.lawful_standard hOp hComparison hKey (by decide) hNumber
      (.number _)
  rw [hValue] at hFound
  obtain ⟨atom, hResolve, hJudge⟩ := hAtom _ hValue 1
  exact ⟨document, hDocument, hFound, atom, hResolve, hJudge.mpr (.inr (.inl rfl))⟩

end RuleVerdict
