import Mathlib
import SpaceMigration.Text.Lowercase

/-!
# Lower case is final

A text in lower case has no capitals, and a text without capitals is its own lower-case form. So
writing a text in lower case twice is no different from doing it once (`lowercase_lowercase`).

What a character becomes can depend on its neighbours and can be two characters, but every
character that it can become is no capital: neither form of the sigma is one, nor are the two
characters of the dotted `İ`, nor is anything in the table. For the table this is a fact about its
rows: the codes that a row leads to keep clear of the codes that a row starts from
(`CaseRow.avoids`), either because the two runs lie apart, or because one consists of odd codes and
the other of even ones, as where capitals and small letters alternate.

## Main definitions

* `isCapital` — the characters that have another lower-case form

## Main results

* `not_isCapital_of_mem_lowerAfter` — there are no capitals in lower case
* `lowerAfter_of_no_capitals` — a text without capitals stays as it is
* `lowercase_lowercase` — lower case is final
-/

namespace SpaceMigration.Text

/-! ### Rows of the table -/

/-- The runs of the characters that have another lower-case form: the capital letters of ASCII, the
dotted capital, and the table. -/
def capitalRows : List CaseRow :=
  ⟨0x41, 0x5A, 1, 0x61⟩ :: ⟨0x130, 0x130, 1, 0x69⟩ :: caseRows

/-- Whether the character with this code has another lower-case form. -/
def isCapitalCode (code : Nat) : Bool :=
  capitalRows.any (·.covers code)

/-- Whether the character has another lower-case form. -/
def isCapital (c : Char) : Bool :=
  isCapitalCode c.toNat

namespace CaseRow

variable {r s : CaseRow} {code : Nat}

/-- The last code that the row leads to. -/
def lastImage (r : CaseRow) : Nat :=
  r.image + (r.last - r.first)

/-- Whether the codes that the one row leads to keep clear of those that the other starts from: they
lie apart, or they differ in parity. The comparisons are those that are computed on numerals. -/
def avoids (r s : CaseRow) : Bool :=
  r.lastImage.blt s.first || s.last.blt r.image ||
    s.step == 2 && (r.step == 2 || r.first == r.last) && r.image % 2 != s.first % 2

theorem covers_iff : r.covers code = true ↔
    r.first ≤ code ∧ code ≤ r.last ∧ (code - r.first) % r.step = 0 := by
  simp [covers, and_assoc]

theorem avoids_iff : r.avoids s = true ↔ r.lastImage < s.first ∨ s.last < r.image ∨
    s.step = 2 ∧ (r.step = 2 ∨ r.first = r.last) ∧ r.image % 2 ≠ s.first % 2 := by
  simp [avoids, Nat.blt_eq, or_assoc, and_assoc]

theorem lower_le_lastImage (h : r.covers code = true) : r.lower code ≤ r.lastImage := by
  obtain ⟨-, hlast, -⟩ := covers_iff.1 h
  rw [lower, lastImage]
  omega

theorem not_covers_lower (h : r.avoids s = true) (hcode : r.covers code = true) :
    ¬ s.covers (r.lower code) = true := by
  have himage := lower_le_lastImage hcode
  obtain ⟨hfirst, hlast, hstep⟩ := covers_iff.1 hcode
  rw [covers_iff]
  rintro ⟨hfirst', hlast', hstep'⟩
  rw [lower] at *
  obtain happart | happart | ⟨htwo, hruns, hparity⟩ := avoids_iff.1 h
  · omega
  · omega
  · rw [htwo] at hstep'
    -- The code that the row leads to has the parity of the first one.
    have heven : (code - r.first) % 2 = 0 := by
      obtain htwo | hone := hruns
      · rwa [htwo] at hstep
      · omega
    omega

end CaseRow

/-- The codes of the table lie beyond ASCII, and it leads to codes of characters. -/
theorem caseRows_valid : ∀ r ∈ caseRows, 0x80 ≤ r.first ∧
    (r.lastImage < 0xD800 ∨ 0xDFFF < r.image ∧ r.lastImage < 0x110000) := by
  decide +kernel

/-- No row of the table leads to a capital. -/
theorem caseRows_avoid {r s : CaseRow} (hr : r ∈ caseRows) (hs : s ∈ capitalRows) :
    r.avoids s = true := by
  have hall : (caseRows.all fun r => capitalRows.all r.avoids) = true := by
    decide +kernel
  exact List.all_eq_true.1 (List.all_eq_true.1 hall r hr) s hs

theorem isCapitalCode_iff {code : Nat} : isCapitalCode code = true ↔
    0x41 ≤ code ∧ code ≤ 0x5A ∨ code = 0x130 ∨ ∃ row ∈ caseRows, row.covers code = true := by
  rw [isCapitalCode, capitalRows, List.any_cons, List.any_cons, Bool.or_eq_true, Bool.or_eq_true,
    CaseRow.covers_iff, CaseRow.covers_iff, List.any_eq_true]
  refine or_congr ?_ (or_congr ?_ Iff.rfl)
  · simp [Nat.mod_one]
  · simp [Nat.mod_one]
    omega

/-! ### Characters -/

variable {c d : Char} {before after text : List Char}

theorem isUpper_iff : c.isUpper = true ↔ 0x41 ≤ c.toNat ∧ c.toNat ≤ 0x5A := by
  simp [Char.isUpper, UInt32.le_iff_toNat_le, ← Char.toNat_val]

/-- Among the characters of ASCII the capitals are its capital letters. -/
theorem isCapital_of_ascii (h : c.toNat < 0x80) : isCapital c = c.isUpper := by
  rw [Bool.eq_iff_iff, isCapital, isCapitalCode_iff, isUpper_iff]
  refine or_iff_left ?_
  rintro (hdotted | ⟨row, hrow, hcovers⟩)
  · omega
  · have hbeyond := (caseRows_valid row hrow).1
    have hfirst := (CaseRow.covers_iff.1 hcovers).1
    omega

theorem toNat_toLower_lt (h : c.toNat < 0x80) : c.toLower.toNat < 0x80 := by
  by_cases hupper : c.isUpper = true
  · have hletter := isUpper_iff.1 hupper
    rw [Char.toLower_eq_of_isUpper hupper, Char.toNat_ofNat]
    split <;> omega
  · rwa [Char.toLower_eq_of_not_isUpper hupper]

/-- What a row of the table makes of a character is no capital. -/
theorem not_isCapital_ofNat_lower {row : CaseRow} (hrow : row ∈ caseRows) {code : Nat}
    (h : row.covers code = true) : isCapital (Char.ofNat (row.lower code)) = false := by
  have hvalid : (row.lower code).isValidChar := by
    have hlast := CaseRow.lower_le_lastImage h
    have himage : row.image ≤ row.lower code := Nat.le_add_right _ _
    obtain hlow | hhigh := (caseRows_valid row hrow).2
    · exact .inl (by omega)
    · exact .inr (by omega)
  rw [isCapital, Char.toNat_ofNat, if_pos hvalid, isCapitalCode, List.any_eq_false]
  exact fun capitals hcapitals => CaseRow.not_covers_lower (caseRows_avoid hrow hcapitals) h

/-- The lower-case form of a character with a single one is no capital. -/
theorem not_isCapital_lowerLetter (h : c ≠ 'İ') : isCapital (lowerLetter c) = false := by
  rw [lowerLetter]
  split
  · next hascii => rw [isCapital_of_ascii (toNat_toLower_lt hascii), Char.isUpper_toLower_eq_false]
  · next hbeyond =>
    split
    · next hnone =>
      rw [Bool.eq_false_iff, Ne, isCapital, isCapitalCode_iff]
      rintro (hletter | hdotted | ⟨row, hrow, hcovers⟩)
      · omega
      · exact h (Char.toNat_inj.1 hdotted)
      · exact List.find?_eq_none.1 hnone row hrow hcovers
    · next row hsome =>
      have hcovers : row.covers c.toNat = true := by simpa using List.find?_some hsome
      exact not_isCapital_ofNat_lower (List.mem_of_find?_eq_some hsome) hcovers

theorem lowerLetter_of_not_isCapital (h : isCapital c = false) : lowerLetter c = c := by
  rw [lowerLetter]
  split
  · next hascii =>
    rw [isCapital_of_ascii hascii] at h
    exact Char.toLower_eq_of_not_isUpper (by simp [h])
  · split
    · rfl
    · next row hsome =>
      have hcovers : row.covers c.toNat = true := by simpa using List.find?_some hsome
      rw [Bool.eq_false_iff, Ne, isCapital, isCapitalCode_iff] at h
      exact absurd (.inr (.inr ⟨row, List.mem_of_find?_eq_some hsome, hcovers⟩)) h

/-- Nothing that a character can become is a capital. -/
theorem not_isCapital_of_mem_lowerChar (h : d ∈ lowerChar before c after) :
    isCapital d = false := by
  have hforms : ([0x3C3, 0x3C2, 0x69, 0x307].all fun code => !isCapitalCode code) = true := by
    decide +kernel
  simp only [List.all_cons, List.all_nil, Bool.and_true, Bool.and_eq_true,
    Bool.not_eq_true'] at hforms
  obtain ⟨hsigma, hfinal, hi, hdot⟩ := hforms
  rw [lowerChar] at h
  split at h
  · split at h
    · rw [List.mem_singleton.1 h]
      exact hfinal
    · rw [List.mem_singleton.1 h]
      exact hsigma
  · split at h
    · rw [List.mem_pair] at h
      obtain rfl | rfl := h
      · exact hi
      · exact hdot
    · next hdotted =>
      rw [List.mem_singleton.1 h]
      exact not_isCapital_lowerLetter hdotted

/-- A character that is no capital stays as it is between any neighbours. -/
theorem lowerChar_of_not_isCapital (h : isCapital c = false) : lowerChar before c after = [c] := by
  have hsigma : c ≠ 'Σ' := by
    rintro rfl
    have hcapital : isCapitalCode 0x3A3 = true := by decide +kernel
    exact Bool.noConfusion (hcapital.symm.trans h)
  have hdotted : c ≠ 'İ' := by
    rintro rfl
    have hcapital : isCapitalCode 0x130 = true := by decide +kernel
    exact Bool.noConfusion (hcapital.symm.trans h)
  rw [lowerChar, if_neg hsigma, if_neg hdotted, lowerLetter_of_not_isCapital h]

/-! ### Texts -/

theorem not_isCapital_of_mem_lowerAfter (h : d ∈ lowerAfter before text) :
    isCapital d = false := by
  induction text generalizing before with
  | nil => cases h
  | cons c rest ih =>
    rw [lowerAfter, List.mem_append] at h
    obtain h | h := h
    · exact not_isCapital_of_mem_lowerChar h
    · exact ih h

theorem lowerAfter_of_no_capitals (h : ∀ c ∈ text, isCapital c = false) :
    lowerAfter before text = text := by
  induction text generalizing before with
  | nil => rfl
  | cons c rest ih =>
    obtain ⟨hc, hrest⟩ := List.forall_mem_cons.1 h
    rw [lowerAfter, lowerChar_of_not_isCapital hc, ih hrest, List.singleton_append]

/-- The texts in lower case are those without capitals. -/
theorem lowercase_eq_self_iff (text : String) :
    lowercase text = text ↔ ∀ c ∈ text.toList, isCapital c = false := by
  constructor
  · intro h c hc
    rw [← h, lowercase, String.toList_ofList] at hc
    exact not_isCapital_of_mem_lowerAfter hc
  · intro h
    rw [lowercase, lowerAfter_of_no_capitals h, String.ofList_toList]

/-- **Lower case is final.** -/
@[simp]
theorem lowercase_lowercase (text : String) : lowercase (lowercase text) = lowercase text := by
  rw [lowercase_eq_self_iff, lowercase, String.toList_ofList]
  exact fun _ => not_isCapital_of_mem_lowerAfter

end SpaceMigration.Text
