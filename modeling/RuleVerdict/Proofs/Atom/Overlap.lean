import RuleVerdict.Proofs.Atom.Membership

/-!
# Lists that overlap

Looking for a common item reads the literal of the atom and the value in a record as lists, the
first when the rule is compiled and the second when it is judged. Both readings are of the text that
the value is written with, so the two can change places.

* `mem_listItems_iff`: the items of a text, said of the text alone.
* `render_field`, `literalText_eq_written`: the text of a value, where it stands in a record and
  where it stands in a rule.
* `intersects_iff_common_item`: what overlaps, that it does not matter which side is the literal,
  and that a text in a list overlaps with it.
-/

namespace RuleVerdict

open Text

namespace Matcher

/-! ## Items of a text -/

/-- Being what is left, without the blanks around it, of a stretch of the text that has no comma in
it and reaches from a comma, or the beginning, to a comma, or the end. -/
def IsItem (s item : String) : Prop := ∃ p, IsPiece ',' s.toList p ∧ Trims p item.toList

theorem mem_listItems_iff {s item : String} : item ∈ listItems s ↔ IsItem s item := by
  rw [listItems, List.mem_map]
  apply exists_congr
  intro p
  rw [mem_pieces_iff, ← trim_eq_iff, ← String.toList_inj, String.toList_ofList]

/-- No text is an empty list. -/
theorem exists_isItem (s : String) : ∃ item, IsItem s item := by
  obtain ⟨p, ps, hPieces⟩ := List.exists_cons_of_ne_nil (pieces_ne_nil ',' s.toList)
  have hPiece : p ∈ pieces ',' s.toList := by
    rw [hPieces]
    exact List.mem_cons_self
  refine ⟨String.ofList (trim p), p, mem_pieces_iff.mp hPiece, ?_⟩
  rw [String.toList_ofList]
  exact trims_trim p

/-- An item is an item of itself. -/
theorem IsItem.self {s item : String} (h : IsItem s item) : IsItem item item := by
  obtain ⟨p, hPiece, before, behind, rfl, -, -, hBare⟩ := h
  have hComma : ',' ∉ item.toList := by
    intro hMem
    apply not_mem_of_mem_pieces (mem_pieces_iff.mpr hPiece)
    exact List.mem_append_right _ (List.mem_append_left _ hMem)
  refine ⟨item.toList, .whole hComma, [], [], ?_, nofun, nofun, hBare⟩
  rw [List.nil_append, List.append_nil]

end Matcher

namespace Value

/-! ## The text of a value -/

/-- The text that a value is written with: a text is its own, an integer has the one of its binary
number. -/
def written : Value → String
  | .int i => (Binary64.ofInt i.toInt).render
  | .float x => x.render
  | .bool b => truth b
  | .text s => s

theorem render_field (v : Value) : v.field.render = some v.written := by cases v <;> rfl

theorem literalText_eq_written (v : Value) : v.literalText = v.written := by
  rw [literalText, render_field]
  rfl

end Value

namespace Atom

open Matcher

variable {R : LiteralReader} (a : Atom R) (v w : Value)

/-- Whether a value has an item in common with a literal. -/
def intersects : Bool := ((a.against v).under .intersect).fits w.field

/-- Whether a value is in the list that is a literal. -/
def isListed : Bool := ((a.against v).under .isIn).fits w.field

theorem intersects_iff :
    a.intersects v w = true ↔ ∃ item, IsItem v.written item ∧ IsItem w.written item := by
  rw [intersects, fits_against_under, fits_intersect_iff, literalItems, v.literalText_eq_written,
    w.render_field]
  constructor
  · rintro ⟨s, hs, item, hField, hLiteral⟩
    obtain rfl := Option.some.inj hs
    exact ⟨item, mem_listItems_iff.mp hLiteral, mem_listItems_iff.mp hField⟩
  · rintro ⟨item, hLiteral, hField⟩
    exact ⟨w.written, rfl, item, mem_listItems_iff.mpr hField, mem_listItems_iff.mpr hLiteral⟩

theorem isListed_text_iff (s : String) : a.isListed v (.text s) = true ↔ IsItem v.written s := by
  rw [isListed, fits_against_under, fits_isIn_iff, literalItems, v.literalText_eq_written,
    ← mem_listItems_iff, ← List.contains_iff_mem]
  exact and_iff_right (.inl ⟨s, rfl⟩)

/-- **Overlap of lists.** A value overlaps with a literal if some text is an item of both. So the
two may change places, values that are written alike overlap, and so does every text that is in the
list with the list. -/
theorem intersects_iff_common_item :
    (a.intersects v w = true ↔ ∃ item, IsItem v.written item ∧ IsItem w.written item) ∧
      a.intersects v w = a.intersects w v ∧
      (v.written = w.written → a.intersects v w = true) ∧
      ∀ s, a.isListed v (.text s) = true → a.intersects v (.text s) = true := by
  refine ⟨a.intersects_iff v w, ?_, ?_, ?_⟩
  · rw [Bool.eq_iff_iff, intersects_iff, intersects_iff]
    exact exists_congr fun item => and_comm
  · intro hSame
    obtain ⟨item, hItem⟩ := exists_isItem v.written
    rw [intersects_iff]
    exact ⟨item, hItem, hSame ▸ hItem⟩
  · intro s hListed
    rw [isListed_text_iff] at hListed
    rw [intersects_iff]
    exact ⟨s, hListed, hListed.self⟩

/-- A number overlaps with a list of texts, on either side, and so does a text in it. -/
theorem intersects_number_and_list :
    let a : Atom := ⟨1, "f", .intersect, none, "", _, rfl⟩
    let list := Value.text "x ,\t21,"
    a.intersects list (.int 21) = true ∧ a.intersects (.int 21) list = true ∧
      a.intersects (.int 21) (.text "21") = true ∧ a.intersects list (.text "x") = true := by
  intro a list
  have hNumber := intersects_iff_common_item a list (.int 21)
  have hAlike := intersects_iff_common_item a (.int 21) (.text "21")
  have hFits : a.intersects list (.int 21) = true := by decide +kernel
  exact ⟨hFits, hNumber.2.1.symm.trans hFits, hAlike.2.2.1 (by decide +kernel),
    hNumber.2.2.2 "x" (by decide +kernel)⟩

end Atom

end RuleVerdict
