import RuleVerdict.Definition.Decode
import RuleVerdict.Definition.Encode
import RuleVerdict.Proofs.Json.Readers

/-!
# Definitions that are written out and read back

A definition may be spelled in many ways: fields left out or unknown, an array instead of an
object, null for what is missing, digits and escapes of all kinds. It is written in one way only,
and read from there it is the same definition again, as far as the reader finds its binary numbers
again. The argument goes field by field: what a decoder can yield at all is written as a JSON value
from which it yields the same.

* `Survives`, `Faithful`: what is kept of one value, and of the values that a decoder yields.
* `fields?_ofFields`: every field that is written is found in its place.
* `CollectionDefinition.isReadBack`: a definition whose binary numbers are kept, with any reader.
* `definitions_read_back`: atoms, groups, collections and values, where every number is kept.
-/

namespace RuleVerdict

open Json

namespace Json

variable {α : Type} {decode : Json → Option α} {encode : α → Json} {kept : α → Prop}

/-- The value is written as JSON from which it is decoded again. -/
structure Survives (decode : Json → Option α) (encode : α → Json) (a : α) : Prop where
  writable : (encode a).Writable
  decodes : decode (encode a) = some a

/-- Whatever is decoded survives, if there is nothing in it that is not kept. -/
def Faithful (decode : Json → Option α) (encode : α → Json) (kept : α → Prop) : Prop :=
  ∀ v a, decode v = some a → kept a → Survives decode encode a

theorem survives_ofString (s : String) : Survives text? ofString s := ⟨.text s, rfl⟩

theorem faithful_text : Faithful text? ofString fun _ => True := fun _ s _ _ => survives_ofString s

theorem survives_none : Survives (orNull decode) (ofOption encode) none := ⟨.null, rfl⟩

/-- What null stands for is nothing else, so a value that is there is not written as null. -/
theorem Faithful.orNull (h : Faithful decode encode kept) (hNull : decode .null = none) :
    Faithful (orNull decode) (ofOption encode) fun o => ∀ a, o = some a → kept a := by
  intro v a hDecode hKept
  cases a with
  | none => exact survives_none
  | some a =>
    have hv : decode v = some a := by
      unfold Json.orNull at hDecode
      split at hDecode
      · cases hDecode
      · obtain ⟨b, hb, hEq⟩ := Option.map_eq_some_iff.mp hDecode
        cases hEq
        exact hb
    obtain ⟨hWritable, hSame⟩ := h v a hv (hKept a rfl)
    refine ⟨hWritable, ?_⟩
    have hNe : encode a ≠ .null := by
      intro hEncode
      rw [hEncode, hNull] at hSame
      cases hSame
    unfold Json.orNull ofOption
    split
    · next hEncode => exact absurd hEncode hNe
    · rw [hSame]
      rfl

theorem Faithful.list (h : Faithful decode encode kept) :
    Faithful (list? decode) (fun as => .array (as.map encode)) fun as => ∀ a ∈ as, kept a := by
  intro v as hDecode hKept
  cases v with
  | array vs =>
    have hSurvive : ∀ a ∈ as, Survives decode encode a := by
      induction vs generalizing as with
      | nil =>
        cases hDecode
        nofun
      | cons v vs ih =>
        simp only [list?, List.mapM_cons, Option.bind_eq_bind, Option.bind_eq_some_iff] at hDecode
        obtain ⟨b, hb, bs, hbs, hEq⟩ := hDecode
        cases hEq
        obtain ⟨hHead, hTail⟩ := List.forall_mem_cons.mp hKept
        exact List.forall_mem_cons.mpr ⟨h v b hb hHead, ih bs hTail hbs⟩
    clear hDecode hKept
    constructor
    · refine .array fun w hw => ?_
      obtain ⟨a, ha, rfl⟩ := List.mem_map.mp hw
      exact (hSurvive a ha).writable
    · induction as with
      | nil => rfl
      | cons a as ih =>
        obtain ⟨ha, has⟩ := List.forall_mem_cons.mp hSurvive
        have hRest := ih has
        simp only [list?] at hRest ⊢
        rw [List.map_cons, List.mapM_cons, ha.decodes, hRest]
        rfl
  | _ => cases hDecode

/-! ## Fields -/

theorem Faithful.required (h : Faithful decode encode kept) {field : Option Json} {a : α}
    (hField : required decode field = some a) (hKept : kept a) : Survives decode encode a := by
  obtain ⟨v, -, hv⟩ := Option.bind_eq_some_iff.mp hField
  exact h v a hv hKept

theorem Faithful.optional (h : Faithful decode encode kept) {default : α}
    (hDefault : Survives decode encode default) {field : Option Json} {a : α}
    (hField : optional default decode field = some a) (hKept : kept a) :
    Survives decode encode a := by
  cases field with
  | none =>
    cases hField
    exact hDefault
  | some v => exact h v a hField hKept

/-- Of members with distinct names each is the only one of its name. -/
theorem member?_zip {names : List String} (hNames : names.Nodup) {vs : List Json} {n : String}
    {v : Json} (hMem : (n, v) ∈ names.zip vs) :
    member? n ((names.map some).zip vs) = some (some v) := by
  suffices h : ((names.map some).zip vs).filter (fun m => m.1 == some n) = [(some n, v)] by
    rw [member?, h]
  induction names generalizing vs with
  | nil => cases hMem
  | cons m names ih =>
    obtain ⟨hm, hRest⟩ := List.nodup_cons.mp hNames
    cases vs with
    | nil => cases hMem
    | cons w vs =>
      rw [List.map_cons, List.zip_cons_cons, List.filter_cons]
      rcases List.mem_cons.mp hMem with hHead | hTail
      · cases hHead
        have hNone : ((names.map some).zip vs).filter (fun m => m.1 == some n) = [] := by
          refine List.filter_eq_nil_iff.mpr fun p hp hSame => hm ?_
          obtain ⟨k, hk, hEq⟩ := List.mem_map.mp (List.of_mem_zip hp).1
          have hSome : some k = some n := by rw [hEq]; exact beq_iff_eq.mp hSame
          cases hSome
          exact hk
        rw [hNone]
        simp
      · have hNe : m ≠ n := by
          rintro rfl
          exact hm (List.of_mem_zip hTail).1
        have hDrop : ((some m, w).1 == some n) = false := by simpa using hNe
        rw [hDrop]
        exact ih hRest hTail

theorem mapM_of_zip {names : List String} {vs : List Json} {f : String → Option (Option Json)}
    (hLength : vs.length = names.length)
    (hEach : ∀ n v, (n, v) ∈ names.zip vs → f n = some (some v)) :
    names.mapM f = some (vs.map some) := by
  induction names generalizing vs with
  | nil =>
    cases List.length_eq_zero_iff.mp hLength
    rfl
  | cons n names ih =>
    cases vs with
    | nil => cases hLength
    | cons v vs =>
      have hRest := ih (by simpa using hLength)
        fun m w hm => hEach m w (List.mem_cons_of_mem _ hm)
      rw [List.mapM_cons, hEach n v List.mem_cons_self, hRest]
      rfl

/-- Every field that is written is found in its place. -/
theorem fields?_ofFields {names : List String} (hNames : names.Nodup) {vs : List Json}
    (hLength : vs.length = names.length) :
    (ofFields names vs).fields? names = some (vs.map some) := by
  have hAll : ((names.map some).zip vs).all (fun m => m.1.isSome) = true := by
    refine List.all_eq_true.mpr fun m hm => ?_
    obtain ⟨n, -, hn⟩ := List.mem_map.mp (List.of_mem_zip hm).1
    rw [← hn]
    rfl
  rw [ofFields, fields?, if_pos hAll]
  exact mapM_of_zip hLength fun n v hMem => member?_zip hNames hMem

theorem writable_ofFields (names : List String) {vs : List Json} (h : ∀ v ∈ vs, v.Writable) :
    (ofFields names vs).Writable := by
  refine .object (fun m hm => ?_) fun m hm => h m.2 (List.of_mem_zip hm).2
  obtain ⟨n, -, hn⟩ := List.mem_map.mp (List.of_mem_zip hm).1
  rw [← hn]
  rfl

end Json

/-! ## Scalars -/

variable {R : JsonReader}

/-- A binary number in a value is found again. -/
def Value.KeptBy (R : JsonReader) (a : Value) : Prop := ∀ x, a = .float x → R.Keeps x

instance Value.decidableKeptBy : (a : Value) → Decidable (a.KeptBy R)
  | .float x =>
    decidable_of_iff (R.Keeps x) ⟨fun h _ hx => Value.float.inj hx ▸ h, fun h => h x rfl⟩
  | .int _ | .bool _ | .text _ => isTrue nofun

theorem Value.survives_int (i : Int64) : Survives (ofJsonWith? R) toJson (.int i) :=
  ⟨.number (JsonNumber.valid_integer _), ofJsonWith?_toJson_int R i⟩

/-- A binary number is written with a point or an exponent, so it is not taken for an integer. -/
theorem Value.survives_float {x : Binary64} (hx : x.isFinite = true) (hKept : R.Keeps x) :
    Survives (ofJsonWith? R) toJson (.float x) := by
  have hJson : toJson (.float x) = .number (.ofBinary64 x) := if_pos hx
  constructor
  · rw [hJson]
    exact .number (JsonNumber.valid_ofBinary64 hx)
  · rw [hJson, ofJsonWith?_number, ofNumberWith?, JsonNumber.toInt?_ofBinary64, hKept hx]
    rfl

theorem Value.faithful (hR : R.Lawful) : Faithful (ofJsonWith? R) toJson (KeptBy R) := by
  intro v a h hKept
  cases v with
  | bool b =>
    cases h
    exact ⟨.bool b, rfl⟩
  | number n =>
    simp only [ofJsonWith?_number, ofNumberWith?] at h
    split at h
    · cases h
      exact survives_int _
    · obtain ⟨x, hx, rfl⟩ := Option.map_eq_some_iff.mp h
      exact survives_float (hR.finite n x hx) (hKept x rfl)
  | text s =>
    obtain ⟨s, -, rfl⟩ := Option.map_eq_some_iff.mp h
    exact ⟨.text s, rfl⟩
  | _ => cases h

theorem AtomId.faithful : Faithful ofJson? toJson fun _ => True := by
  intro _ id _ _
  refine ⟨.number (JsonNumber.valid_natural _), ?_⟩
  rw [toJson, ofJson?, JsonNumber.toInt?_natural]
  exact ofNat?_toNat id

theorem BlameMode.survives (m : BlameMode) : Survives ofJson? toJson m :=
  ⟨.text m.name, ofName?_name m⟩

/-! ## Records of fields -/

theorem AtomDefinition.nodup_fieldNames : fieldNames.Nodup := by decide

theorem GroupDefinition.nodup_fieldNames : fieldNames.Nodup := by decide

theorem CollectionDefinition.nodup_fieldNames : fieldNames.Nodup := by decide

/-- All binary numbers in an atom are found again. -/
def AtomDefinition.KeptBy (R : JsonReader) (d : AtomDefinition) : Prop :=
  ∀ a ∈ d.literal, a.KeptBy R

/-- All binary numbers in a group are found again. -/
structure GroupDefinition.KeptBy (R : JsonReader) (d : GroupDefinition) : Prop where
  rules : ∀ r ∈ d.rules, r.KeptBy R
  value : ∀ a ∈ d.value, a.KeptBy R

/-- All binary numbers in a collection are found again. -/
def CollectionDefinition.KeptBy (R : JsonReader) (d : CollectionDefinition) : Prop :=
  ∀ g ∈ d.groups, g.KeptBy R

instance AtomDefinition.decidableKeptBy (d : AtomDefinition) : Decidable (d.KeptBy R) :=
  inferInstanceAs (Decidable (∀ a ∈ d.literal, a.KeptBy R))

instance GroupDefinition.decidableKeptBy (d : GroupDefinition) : Decidable (d.KeptBy R) :=
  decidable_of_iff ((∀ r ∈ d.rules, r.KeptBy R) ∧ ∀ a ∈ d.value, a.KeptBy R)
    ⟨fun h => ⟨h.1, h.2⟩, fun h => ⟨h.rules, h.value⟩⟩

instance CollectionDefinition.decidableKeptBy (d : CollectionDefinition) : Decidable (d.KeptBy R) :=
  inferInstanceAs (Decidable (∀ g ∈ d.groups, g.KeptBy R))

theorem AtomDefinition.faithful (hR : R.Lawful) :
    Faithful (ofJsonWith? R) toJson (KeptBy R) := by
  intro v d h hKept
  unfold ofJsonWith? at h
  split at h
  · simp only [Option.bind_eq_bind, Option.bind_eq_some_iff] at h
    obtain ⟨op, hOp, key, hKey, literal, hLiteral, id, hId, message, hMessage, hEq⟩ := h
    cases hEq
    have hOp := faithful_text.required hOp trivial
    have hKey := faithful_text.required hKey trivial
    have hLiteral := ((Value.faithful hR).orNull rfl).optional survives_none hLiteral hKept
    have hId := (AtomId.faithful.orNull rfl).optional survives_none hId fun _ _ => trivial
    have hMessage := faithful_text.optional (survives_ofString "") hMessage trivial
    constructor
    · apply writable_ofFields
      simp only [List.forall_mem_cons]
      exact ⟨hOp.writable, hKey.writable, hLiteral.writable, hId.writable, hMessage.writable,
        nofun⟩
    · rw [toJson, ofJsonWith?, fields?_ofFields nodup_fieldNames rfl]
      simp only [List.map_cons, List.map_nil, required, Json.optional, Option.bind_some,
        hOp.decodes, hKey.decodes, hLiteral.decodes, hId.decodes, hMessage.decodes]
      rfl
  · cases h

theorem GroupDefinition.faithful (hR : R.Lawful) :
    Faithful (ofJsonWith? R) toJson (KeptBy R) := by
  intro v d h hKept
  unfold ofJsonWith? at h
  split at h
  · simp only [Option.bind_eq_bind, Option.bind_eq_some_iff] at h
    obtain ⟨rules, hRules, logic, hLogic, name, hName, message, hMessage, value, hValue, blame,
      hBlame, hEq⟩ := h
    cases hEq
    have hRules := (AtomDefinition.faithful hR).list.required hRules hKept.rules
    have hLogic := faithful_text.optional (survives_ofString "") hLogic trivial
    have hName := (faithful_text.orNull rfl).optional survives_none hName fun _ _ => trivial
    have hMessage := (faithful_text.orNull rfl).optional survives_none hMessage fun _ _ => trivial
    have hValue := ((Value.faithful hR).orNull rfl).optional survives_none hValue hKept.value
    have hBlame := BlameMode.survives blame
    constructor
    · apply writable_ofFields
      simp only [List.forall_mem_cons]
      exact ⟨hRules.writable, hLogic.writable, hName.writable, hMessage.writable, hValue.writable,
        hBlame.writable, nofun⟩
    · rw [toJson, ofJsonWith?, fields?_ofFields nodup_fieldNames rfl]
      simp only [List.map_cons, List.map_nil, required, Json.optional, Option.bind_some,
        hRules.decodes, hLogic.decodes, hName.decodes, hMessage.decodes, hValue.decodes,
        hBlame.decodes]
      rfl
  · cases h

theorem CollectionDefinition.faithful (hR : R.Lawful) :
    Faithful (ofJsonWith? R) toJson (KeptBy R) := by
  intro v d h hKept
  unfold ofJsonWith? at h
  split at h
  · simp only [Option.bind_eq_bind, Option.bind_eq_some_iff] at h
    obtain ⟨name, hName, message, hMessage, groups, hGroups, hEq⟩ := h
    cases hEq
    have hName := faithful_text.optional (survives_ofString "") hName trivial
    have hMessage := faithful_text.optional (survives_ofString "") hMessage trivial
    have hGroups := (GroupDefinition.faithful hR).list.required hGroups hKept
    constructor
    · apply writable_ofFields
      simp only [List.forall_mem_cons]
      exact ⟨hName.writable, hMessage.writable, hGroups.writable, nofun⟩
    · rw [toJson, ofJsonWith?, fields?_ofFields nodup_fieldNames rfl]
      simp only [List.map_cons, List.map_nil, required, Json.optional, Option.bind_some,
        hName.decodes, hMessage.decodes, hGroups.decodes]
      rfl
  · cases h

/-! ## Texts -/

/-- The text that is written reads as the same again, and writing that once more gives the same
text. -/
structure IsReadBack {α : Type} (parse? : String → Option α) (encode : α → Json) (a : α) :
    Prop where
  same : parse? (encode a).render = some a
  stable : ∀ b, parse? (encode a).render = some b → (encode b).render = (encode a).render

/-- What a text reads as is read again from the text that is written of it. -/
def ReadBack {α : Type} (parse? : String → Option α) (encode : α → Json) : Prop :=
  ∀ s a, parse? s = some a → IsReadBack parse? encode a

theorem Json.Faithful.isReadBack {α : Type} {decode : Json → Option α} {encode : α → Json}
    {kept : α → Prop} (h : Faithful decode encode kept) (hR : R.Lawful) {s : String} {a : α}
    (hParse : (R.read? s).bind decode = some a) (hKept : kept a) :
    IsReadBack (fun s => (R.read? s).bind decode) encode a := by
  obtain ⟨v, -, hv⟩ := Option.bind_eq_some_iff.mp hParse
  obtain ⟨hWritable, hDecodes⟩ := h v a hv hKept
  have hSame : (R.read? (encode a).render).bind decode = some a := by
    rw [hR.written _ hWritable]
    exact hDecodes
  refine ⟨hSame, fun b hb => ?_⟩
  cases hb.symm.trans hSame
  rfl

variable {s : String}

theorem Value.isReadBack (hR : R.Lawful) {a : Value} (h : parseWith? R s = some a)
    (hKept : a.KeptBy R) : IsReadBack (parseWith? R) toJson a :=
  (faithful hR).isReadBack hR h hKept

theorem AtomDefinition.isReadBack (hR : R.Lawful) {d : AtomDefinition}
    (h : parseWith? R s = some d) (hKept : d.KeptBy R) : IsReadBack (parseWith? R) toJson d :=
  (faithful hR).isReadBack hR h hKept

theorem GroupDefinition.isReadBack (hR : R.Lawful) {d : GroupDefinition}
    (h : parseWith? R s = some d) (hKept : d.KeptBy R) : IsReadBack (parseWith? R) toJson d :=
  (faithful hR).isReadBack hR h hKept

theorem CollectionDefinition.isReadBack (hR : R.Lawful) {d : CollectionDefinition}
    (h : parseWith? R s = some d) (hKept : d.KeptBy R) : IsReadBack (parseWith? R) toJson d :=
  (faithful hR).isReadBack hR h hKept

/-- **Definitions survive being written out and read back.** Let the reader find every binary number
again from the text that is written of it. Then, however an atom, a group, a collection or a value
is spelled, the text that is written of it reads as the same one. -/
theorem definitions_read_back (hR : R.Lawful) (hNumbers : R.RoundTrips) :
    ReadBack (AtomDefinition.parseWith? R) AtomDefinition.toJson ∧
      ReadBack (GroupDefinition.parseWith? R) GroupDefinition.toJson ∧
      ReadBack (CollectionDefinition.parseWith? R) CollectionDefinition.toJson ∧
      ReadBack (Value.parseWith? R) Value.toJson := by
  have hValue : ∀ a : Value, a.KeptBy R := fun _ x _ => hNumbers x
  have hAtom : ∀ d : AtomDefinition, d.KeptBy R := fun _ a _ => hValue a
  have hGroup : ∀ d : GroupDefinition, d.KeptBy R := fun _ =>
    ⟨fun r _ => hAtom r, fun a _ => hValue a⟩
  exact ⟨fun _ d h => d.isReadBack hR h (hAtom d), fun _ d h => d.isReadBack hR h (hGroup d),
    fun _ d h => d.isReadBack hR h fun g _ => hGroup g, fun _ a h => a.isReadBack hR h (hValue a)⟩

/-- An unknown field, fields left out, an atom as an array, an escaped name, an integer that is
too large, the negative zero and a blame mode as an object. The standard reader reads the same
from both texts. -/
theorem oddly_spelled_collection_read_back :
    let text := "\x7b\"note\":[1],\"groups\":[\x7b\"rules\":[" ++
      "[\"ge\",\"\\u0061ge\",18446744073709551615,null]," ++
      "\x7b\"val\":-0,\"op\":\"eq\",\"key\":\"\\n\"\x7d]," ++
      "\"value\":1.0,\"blame_mode\":\x7b\"exhaustive\":null\x7d\x7d]\x7d"
    JsonReader.nearest.Lawful ∧ JsonReader.nearest.RoundTrips ∧
      ∃ d, CollectionDefinition.parseWith? .nearest text = some d ∧
        CollectionDefinition.parseWith? .nearest d.toJson.render = some d ∧
        CollectionDefinition.parse? text = some d ∧
        CollectionDefinition.parse? d.toJson.render = some d := by
  intro text
  have hAll : (CollectionDefinition.parseWith? .nearest text).isSome = true ∧
      CollectionDefinition.parse? text = CollectionDefinition.parseWith? .nearest text ∧
      ∀ d ∈ CollectionDefinition.parse? text, d.KeptBy .standard := by
    decide +kernel
  obtain ⟨hSome, hSame, hKept⟩ := hAll
  obtain ⟨d, hd⟩ := Option.isSome_iff_exists.mp hSome
  have hText := hSame.trans hd
  have hBack := definitions_read_back JsonReader.lawful_nearest JsonReader.roundTrips_nearest
  have hStandard := CollectionDefinition.isReadBack JsonReader.lawful_standard hText (hKept d hText)
  exact ⟨JsonReader.lawful_nearest, JsonReader.roundTrips_nearest, d, hd,
    (hBack.2.2.1 text d hd).same, hText, hStandard.same⟩

end RuleVerdict
