import RuleVerdict.Interval
import RuleVerdict.Proofs.Text.Delimiters

/-!
# How intervals are written

The form of an interval, apart from how it is read: brackets, two bounds around a comma, padding
around the bounds, and nothing else. A bound is the text of a number or nothing at all. A text is
read as an interval exactly if it has this form once the blanks around it are gone. This is so for
every reader of numbers that takes them off the front of a text and stops where a delimiter comes.

* `NumberReader.Lawful`, `lawful_readNumber`: what is asked of a reader of numbers.
* `writesPadded_of_readBound`, `WritesPadded.readBound`: a bound is what is read for one.
* `read?_eq_some_iff`: the texts of intervals.
-/

namespace RuleVerdict.Interval

open Text

/-! ## The form -/

section Form

variable (number? : NumberReader)

/-- Spaces and tabs. -/
def IsPad (cs : List Char) : Prop := ∀ c ∈ cs, isPadding c = true

/-- The text of a bound: nothing, or a number from its first to its last character. -/
inductive WritesBound : List Char → Option Binary64 → Prop
  | missing : WritesBound [] none
  | number {cs : List Char} {x : Binary64} (h : number? cs = some (x, [])) :
      WritesBound cs (some x)

/-- The bracket before the lower bound. -/
def opening (closed : Bool) : Char := if closed then '[' else '('

/-- The bracket behind the upper bound. -/
def closing (closed : Bool) : Char := if closed then ']' else ')'

/-- A bound with padding on both sides. -/
def WritesPadded (cs : List Char) (bound : Option Binary64) : Prop :=
  ∃ before number behind, cs = before ++ (number ++ behind) ∧ IsPad before ∧ IsPad behind ∧
    WritesBound number? number bound

/-- The text of an interval. -/
def Writes (cs : List Char) (i : Interval) : Prop :=
  ∃ lower upper,
    cs = opening i.lowerClosed :: (lower ++ ',' :: (upper ++ [closing i.upperClosed])) ∧
      WritesPadded number? lower i.lower ∧ WritesPadded number? upper i.upper

/-- What is asked of a reader of numbers: it takes a number off the front of a text, and the number
ends where a delimiter comes. -/
structure NumberReader.Lawful : Prop where
  nothing : number? [] = none
  suffix {cs rest : List Char} {x : Binary64} (h : number? cs = some (x, rest)) : rest <:+ cs
  stops {tail : List Char} (h : Delimited tail) : StopsBefore tail number?

end Form

/-! ## Numbers -/

variable {tail : List Char}

theorem afterWord?_cons (w : Char) (ws : List Char) (c : Char) (cs : List Char) :
    afterWord? (w :: ws) (c :: cs) =
      if Binary64.asciiLower c = w then afterWord? ws cs else none := by
  simp only [afterWord?, List.length_cons, List.take_succ_cons, List.map_cons, List.cons.injEq,
    List.drop_succ_cons]
  by_cases hw : Binary64.asciiLower c = w
  · simp only [hw, true_and, if_true]
  · simp only [hw, false_and, if_false]

/-- The words in numbers have no delimiter in them. -/
theorem afterWord?_append {word : List Char}
    (hWord : ∀ d ∈ delimiters, Binary64.asciiLower d ∉ word) (h : Delimited tail)
    (cs : List Char) : afterWord? word (cs ++ tail) = (afterWord? word cs).map (· ++ tail) := by
  induction word generalizing cs with
  | nil => rfl
  | cons w ws ih =>
    have hRest := ih fun d hd hMem => hWord d hd (List.mem_cons_of_mem w hMem)
    cases cs with
    | nil =>
      cases tail with
      | nil => rfl
      | cons d ds =>
        have hNe : Binary64.asciiLower d ≠ w := by
          rintro rfl
          exact hWord d (h d ds rfl) List.mem_cons_self
        rw [List.nil_append, afterWord?_cons, if_neg hNe]
        rfl
    | cons c cs =>
      rw [List.cons_append, afterWord?_cons, afterWord?_cons, hRest, apply_ite (Option.map _)]
      rfl

theorem stopsBefore_readUnsigned (h : Delimited tail) (neg : Bool) :
    StopsBefore tail (readUnsigned neg) := by
  intro cs
  unfold readUnsigned
  rw [afterWord?_append (forall_mem_delimiters (by decide)) h]
  cases afterWord? ['i', 'n', 'f'] cs with
  | none => exact (Text.stopsBefore_readUnsigned h neg).map Binary64.ofDecimal cs
  | some rest =>
    rw [Option.map_some]
    dsimp only
    rw [afterWord?_append (forall_mem_delimiters (by decide)) h]
    cases afterWord? ['i', 'n', 'i', 't', 'y'] rest <;> rfl

theorem readNumber_eq (cs : List Char) :
    readNumber cs =
      match afterWord? ['n', 'a', 'n'] cs with
      | some rest => some (.nan, rest)
      | none => readUnsigned (splitSign cs).1 (splitSign cs).2 := by
  unfold readNumber
  cases afterWord? ['n', 'a', 'n'] cs with
  | some rest => rfl
  | none =>
    dsimp only
    split
    · rfl
    · rfl
    · next hMinus hPlus => rw [splitSign_of_unsigned hMinus hPlus]

/-- A number ends where a delimiter comes. -/
theorem stopsBefore_readNumber (h : Delimited tail) : StopsBefore tail readNumber := by
  intro cs
  rw [readNumber_eq, readNumber_eq, afterWord?_append (forall_mem_delimiters (by decide)) h]
  cases afterWord? ['n', 'a', 'n'] cs with
  | none =>
    rw [splitSign_append h]
    exact stopsBefore_readUnsigned h _ _
  | some rest => rfl

theorem suffix_of_afterWord? {word cs rest : List Char} (h : afterWord? word cs = some rest) :
    rest <:+ cs := by
  unfold afterWord? at h
  split at h
  · exact Option.some.inj h ▸ List.drop_suffix ..
  · cases h

theorem suffix_of_readUnsigned {neg : Bool} {cs rest : List Char} {x : Binary64}
    (h : readUnsigned neg cs = some (x, rest)) : rest <:+ cs := by
  unfold readUnsigned at h
  split at h
  · next behind hInf =>
    obtain ⟨-, rfl⟩ := Prod.mk.inj (Option.some.inj h)
    have hBehind := suffix_of_afterWord? hInf
    cases hLong : afterWord? ['i', 'n', 'i', 't', 'y'] behind with
    | none => exact hBehind
    | some last => exact (suffix_of_afterWord? hLong).trans hBehind
  · obtain ⟨⟨d, last⟩, hRead, hEq⟩ := Option.map_eq_some_iff.mp h
    obtain ⟨-, rfl⟩ := Prod.mk.inj hEq
    exact Text.suffix_of_readUnsigned hRead

theorem suffix_of_readNumber {cs rest : List Char} {x : Binary64}
    (h : readNumber cs = some (x, rest)) : rest <:+ cs := by
  rw [readNumber_eq] at h
  split at h
  · next behind hNan =>
    obtain ⟨-, rfl⟩ := Prod.mk.inj (Option.some.inj h)
    exact suffix_of_afterWord? hNan
  · exact (suffix_of_readUnsigned h).trans (splitSign_suffix cs)

theorem lawful_readNumber : NumberReader.Lawful readNumber :=
  ⟨rfl, suffix_of_readNumber, stopsBefore_readNumber⟩

variable {number? : NumberReader}

/-- A number does not begin with a delimiter. -/
theorem NumberReader.Lawful.of_delimited (hNumber : Lawful number?) (h : Delimited tail) :
    number? tail = none := by
  have hStops := hNumber.stops h []
  rwa [hNumber.nothing] at hStops

/-- The text of a number that is followed by a delimiter. -/
theorem NumberReader.Lawful.exists_text (hNumber : Lawful number?) {cs rest : List Char}
    {x : Binary64} (h : number? cs = some (x, rest)) (hRest : Delimited rest) :
    ∃ number, cs = number ++ rest ∧ number? number = some (x, []) := by
  obtain ⟨number, rfl⟩ := hNumber.suffix h
  refine ⟨number, rfl, ?_⟩
  rw [hNumber.stops hRest] at h
  obtain ⟨⟨y, last⟩, hRead, hEq⟩ := Option.map_eq_some_iff.mp h
  obtain ⟨rfl, hLast⟩ := Prod.mk.inj hEq
  have hNil : last = [] := List.append_left_eq_self.mp hLast
  rw [hRead, hNil]

/-! ## Reading -/

theorem mem_delimiters_of_isPadding {c : Char} (h : isPadding c = true) : c ∈ delimiters := by
  simp only [isPadding, Bool.or_eq_true, decide_eq_true_eq] at h
  rcases h with rfl | rfl <;> decide

/-- What comes behind the padding. -/
theorem dropWhile_eq_cons_iff {cs rest : List Char} {c : Char} :
    cs.dropWhile isPadding = c :: rest ↔
      ∃ pad, IsPad pad ∧ isPadding c = false ∧ cs = pad ++ c :: rest := by
  constructor
  · intro h
    refine ⟨cs.takeWhile isPadding, fun _ hc => ?_, ?_, ?_⟩
    · exact List.all_eq_true.mp List.all_takeWhile _ hc
    · have hHead := List.head?_dropWhile_not isPadding cs
      rwa [h] at hHead
    · rw [← h, List.takeWhile_append_dropWhile]
  · rintro ⟨pad, hPad, hc, rfl⟩
    rw [List.dropWhile_append_of_pos hPad, List.dropWhile_cons_of_neg (by simp [hc])]

theorem IsPad.delimited_append {pad : List Char} (h : IsPad pad) {c : Char}
    (hc : c ∈ delimiters) (cs : List Char) : Delimited (pad ++ c :: cs) := by
  cases pad with
  | nil => exact delimited_cons hc cs
  | cons p ps => exact delimited_cons (mem_delimiters_of_isPadding (h p List.mem_cons_self)) _

section Bound

variable {ending : Char → Bool} {cs rest text : List Char} {c : Char} {bound : Option Binary64}

theorem readBound_missing (hDrop : cs.dropWhile isPadding = c :: rest) (hEnds : ending c = true) :
    readBound number? ending cs = some (none, c, rest) := by
  unfold readBound
  rw [hDrop]
  exact if_pos hEnds

theorem readBound_number {d : Char} {ds behind : List Char} {x : Binary64}
    (hDrop : cs.dropWhile isPadding = d :: ds) (hOther : ending d = false)
    (hRead : number? (d :: ds) = some (x, behind))
    (hBehind : behind.dropWhile isPadding = c :: rest) (hEnds : ending c = true) :
    readBound number? ending cs = some (some x, c, rest) := by
  simp [readBound, hDrop, hOther, hRead, hBehind, hEnds]

variable (hNumber : NumberReader.Lawful number?)
  (hEnding : ∀ c, ending c = true → c ∈ delimiters ∧ isPadding c = false)

include hNumber hEnding

/-- What is read for a bound stands there as one, with padding around it. -/
theorem writesPadded_of_readBound (h : readBound number? ending cs = some (bound, c, rest)) :
    ∃ text, WritesPadded number? text bound ∧ ending c = true ∧ cs = text ++ c :: rest := by
  unfold readBound at h
  split at h
  · cases h
  · next d ds hDrop =>
    obtain ⟨before, hBefore, -, rfl⟩ := dropWhile_eq_cons_iff.mp hDrop
    split at h
    · next hEnds =>
      cases h
      exact ⟨before, ⟨before, [], [], by simp, hBefore, nofun, .missing⟩, hEnds, rfl⟩
    · split at h
      · cases h
      · next x after hRead =>
        split at h
        · cases h
        · next e es hDrop' =>
          obtain ⟨behind, hBehind, -, rfl⟩ := dropWhile_eq_cons_iff.mp hDrop'
          split at h
          · next hEnds =>
            cases h
            obtain ⟨number, hText, hAlone⟩ :=
              hNumber.exists_text hRead (hBehind.delimited_append (hEnding c hEnds).1 rest)
            refine ⟨_, ⟨before, number, behind, rfl, hBefore, hBehind, .number hAlone⟩, hEnds, ?_⟩
            rw [hText, List.append_assoc, List.append_assoc]
          · cases h

/-- A bound with padding around it is read up to the character that ends it. -/
theorem WritesPadded.readBound (h : WritesPadded number? text bound) (hEnds : ending c = true)
    (rest : List Char) :
    Interval.readBound number? ending (text ++ c :: rest) = some (bound, c, rest) := by
  obtain ⟨before, number, behind, rfl, hBefore, hBehind, hBound⟩ := h
  obtain ⟨hDelimiter, hNoPad⟩ := hEnding c hEnds
  have hRest : (behind ++ c :: rest).dropWhile isPadding = c :: rest :=
    dropWhile_eq_cons_iff.mpr ⟨behind, hBehind, hNoPad, rfl⟩
  rw [List.append_assoc, List.append_assoc]
  cases hBound with
  | missing =>
    apply readBound_missing _ hEnds
    rw [List.dropWhile_append_of_pos hBefore]
    exact hRest
  | @number _ x hRead =>
    obtain ⟨d, ds, rfl⟩ : ∃ d ds, number = d :: ds := by
      cases number with
      | nil =>
        rw [hNumber.nothing] at hRead
        cases hRead
      | cons d ds => exact ⟨d, ds, rfl⟩
    -- A number begins with something that neither is padding nor ends a bound.
    have hHead : d ∉ delimiters := by
      intro hd
      rw [hNumber.of_delimited (delimited_cons hd ds)] at hRead
      cases hRead
    have hAll : number? (d :: (ds ++ (behind ++ c :: rest))) =
        some (x, behind ++ c :: rest) := by
      rw [← List.cons_append, hNumber.stops (hBehind.delimited_append hDelimiter rest), hRead]
      rfl
    refine readBound_number (dropWhile_eq_cons_iff.mpr ⟨before, hBefore, ?_, rfl⟩) ?_ hAll hRest
      hEnds
    · exact Bool.eq_false_iff.mpr fun h => hHead (mem_delimiters_of_isPadding h)
    · exact Bool.eq_false_iff.mpr fun h => hHead (hEnding d h).1

end Bound

/-- Whether a character is a bracket behind the upper bound. -/
def isClosing (c : Char) : Bool := c = ']' || c = ')'

theorem comma_ends {c : Char} (h : decide (c = ',') = true) :
    c ∈ delimiters ∧ isPadding c = false := by
  obtain rfl := of_decide_eq_true h
  decide

theorem closing_of_isClosing {c : Char} (h : isClosing c = true) :
    closing (decide (c = ']')) = c := by
  simp only [isClosing, Bool.or_eq_true, decide_eq_true_eq] at h
  rcases h with rfl | rfl <;> decide

theorem isClosing_closing (closed : Bool) :
    isClosing (closing closed) = true ∧ decide (closing closed = ']') = closed := by
  cases closed <;> decide

theorem closing_ends {c : Char} (h : isClosing c = true) :
    c ∈ delimiters ∧ isPadding c = false := by
  rw [← closing_of_isClosing h]
  cases decide (c = ']') <;> decide

theorem opening_inj {closed closed' : Bool} :
    opening closed = opening closed' ↔ closed = closed' := by
  cases closed <;> cases closed' <;> decide

/-- Behind the opening bracket. -/
theorem writes_opening_iff {closed : Bool} {cs : List Char} {i : Interval} :
    Writes number? (opening closed :: cs) i ↔
      i.lowerClosed = closed ∧
        ∃ lower upper, cs = lower ++ ',' :: (upper ++ [closing i.upperClosed]) ∧
          WritesPadded number? lower i.lower ∧ WritesPadded number? upper i.upper := by
  simp only [Writes, List.cons.injEq, opening_inj, eq_comm (a := closed), and_assoc,
    exists_and_left]

theorem readBounds_of_bounds {closed : Bool} {cs rest : List Char} {lower upper : Option Binary64}
    {c : Char} (hLower : readBound number? (fun c => decide (c = ',')) cs = some (lower, ',', rest))
    (hUpper : readBound number? isClosing rest = some (upper, c, [])) :
    readBounds number? closed cs = some ⟨lower, closed, upper, c = ']'⟩ := by
  unfold isClosing at hUpper
  simp only [readBounds, hLower, hUpper]

theorem readBounds_eq_some_iff (hNumber : NumberReader.Lawful number?) {closed : Bool}
    {cs : List Char} {i : Interval} :
    readBounds number? closed cs = some i ↔ Writes number? (opening closed :: cs) i := by
  rw [writes_opening_iff]
  constructor
  · intro h
    unfold readBounds at h
    split at h
    · cases h
    · next lower c behind hLower =>
      obtain ⟨lowerText, hLowerText, hComma, rfl⟩ :=
        writesPadded_of_readBound hNumber (fun _ => comma_ends) hLower
      obtain rfl := of_decide_eq_true hComma
      split at h
      · next upper c hUpper =>
        replace hUpper : readBound number? isClosing behind = some (upper, c, []) := hUpper
        obtain ⟨upperText, hUpperText, hClosing, rfl⟩ :=
          writesPadded_of_readBound hNumber (fun _ => closing_ends) hUpper
        cases h
        exact ⟨rfl, lowerText, upperText, by rw [closing_of_isClosing hClosing], hLowerText,
          hUpperText⟩
      · cases h
  · obtain ⟨lower, lowerClosed, upper, upperClosed⟩ := i
    rintro ⟨rfl, lowerText, upperText, rfl, hLowerText, hUpperText⟩
    obtain ⟨hClosing, hClosed⟩ := isClosing_closing upperClosed
    have hLower := hLowerText.readBound hNumber (fun _ => comma_ends) (decide_eq_true rfl)
      (upperText ++ [closing upperClosed])
    have hUpper := hUpperText.readBound hNumber (fun _ => closing_ends) hClosing []
    rw [readBounds_of_bounds hLower hUpper, hClosed]

/-- The texts that are read as an interval are those that write it, but for blanks around them. -/
theorem read?_eq_some_iff (hNumber : NumberReader.Lawful number?) {s : String} {i : Interval} :
    read? number? s = some i ↔ Writes number? (trim s.toList) i := by
  unfold read?
  split
  · next cs hText => exact hText ▸ readBounds_eq_some_iff hNumber
  · next cs hText => exact hText ▸ readBounds_eq_some_iff hNumber
  · next hSquare hRound =>
    refine iff_of_false nofun ?_
    rintro ⟨lower, upper, hText, -, -⟩
    cases hClosed : i.lowerClosed with
    | true => exact hSquare _ (by rw [hText, hClosed]; rfl)
    | false => exact hRound _ (by rw [hText, hClosed]; rfl)

end RuleVerdict.Interval
