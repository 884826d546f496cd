import SpaceMigration.Proofs.Digits
import SpaceMigration.Time.Rfc3339

/-!
# Times are read as they were written

A time is stored in the fixed-width format of RFC 3339, and the strict reader gives it back, leap
seconds and fractions included. The format has four digits for the year, so the round trip is for
the years from 0 to 9999 (`HasPlainYear`); any other year is written with a sign and not read back.

The lenient reader takes signed years as well, and reads every time back.

## Main results

* `readStrict_toOffsetText`, `readStrict_toOffsetText_eq_none`, `readLenient_toText`
-/

namespace SpaceMigration.Timestamp

/-! ### Numbers of fixed width -/

theorem padded_digits (width n : Nat) : ∀ c ∈ padded width n, c.isDigit = true := by
  intro c hc
  rcases List.mem_append.1 hc with hc | hc
  · rw [List.eq_of_mem_replicate hc]
    rfl
  · exact isDigit_of_mem_toDigits_ten hc

theorem length_padded {width n : Nat} (hwidth : 0 < width) (hn : n < Nat.pow 10 width) :
    (padded width n).length = width := by
  have hlength := (Nat.length_toDigits_le_iff (by decide) hwidth).2 hn
  rw [padded, List.length_append, List.length_replicate]
  omega

theorem ofDigitChars_padded (width n : Nat) : Nat.ofDigitChars 10 (padded width n) 0 = n := by
  rw [padded, Nat.ofDigitChars_append, Nat.ofDigitChars_replicate_zero, Nat.mul_zero,
    Nat.ofDigitChars_ten_toDigits]

/-- Digits are read as far as they go, if there are neither too few nor too many of them. -/
theorem readDigits_append {least most : Nat} {ds rest : List Char}
    (hds : ∀ c ∈ ds, c.isDigit = true) (hleast : least ≤ ds.length) (hmost : ds.length ≤ most)
    (hrest : ds.length = most ∨ ∀ c ∈ rest.head?, c.isDigit = false) :
    readDigits least most (ds ++ rest) = some (Nat.ofDigitChars 10 ds 0, rest) := by
  have htake : ((ds ++ rest).take most).takeWhile Char.isDigit = ds := by
    rw [List.take_append, List.take_of_length_le hmost]
    refine takeWhile_isDigit_append hds fun c hc => ?_
    rcases hrest with hlength | hhead
    · simp [hlength] at hc
    · rw [List.head?_take] at hc
      split at hc
      · cases hc
      · exact hhead c hc
  rw [readDigits, htake, if_neg (Nat.not_lt.2 hleast), foldl_digits_eq]
  simp

theorem readDigits_padded {width n : Nat} (hwidth : 0 < width) (hn : n < Nat.pow 10 width)
    (rest : List Char) :
    readDigits width width (padded width n ++ rest) = some (n, rest) := by
  have hlength := length_padded hwidth hn
  rw [readDigits_append (padded_digits width n) (by omega) (by omega) (.inl hlength),
    ofDigitChars_padded]

/-! ### Fractions -/

theorem readFraction_padded {width n : Nat} (hwidth : 0 < width) (hnine : width ≤ 9)
    (hn : n < Nat.pow 10 width) {rest : List Char} (hrest : ∀ c ∈ rest.head?, c.isDigit = false) :
    readFraction ('.' :: (padded width n ++ rest)) = some (n * Nat.pow 10 (9 - width), rest) := by
  have hlength := length_padded hwidth hn
  have hread : readDigits 1 9 (padded width n ++ rest) = some (n, rest) := by
    rw [readDigits_append (padded_digits width n) (by omega) (by omega) (.inr hrest),
      ofDigitChars_padded]
  have hdrop : rest.dropWhile Char.isDigit = rest :=
    @dropWhile_isDigit_append [] rest (by simp) hrest
  rw [readFraction, hread]
  simp [hlength, hdrop]

/-- The fraction of a second is read, whichever of its four widths it has, up to the sign or letter
of the offset. -/
theorem readFraction_renderFraction {nanos : Nat} (h : nanos < nanosPerSecond) {c : Char}
    (hdigit : c.isDigit = false) (hdot : c ≠ '.') (rest : List Char) :
    readFraction (renderFraction nanos ++ c :: rest) = some (nanos, c :: rest) := by
  have hrest : ∀ d ∈ (c :: rest).head?, d.isDigit = false := by
    rintro d ⟨⟩
    exact hdigit
  rw [nanosPerSecond] at h
  rw [renderFraction]
  split
  · next hzero =>
    subst hzero
    rw [List.nil_append, readFraction]
    simp [hdot]
  split
  · next hmillis =>
    have hbound : nanos / 1000000 < 1000 := by omega
    have hscale : nanos / 1000000 * Nat.pow 10 (9 - 3) = nanos := by
      change nanos / 1000000 * 1000000 = nanos
      omega
    rw [List.cons_append, readFraction_padded (by decide) (by decide) hbound hrest, hscale]
  split
  · next hmicros =>
    have hbound : nanos / 1000 < 1000000 := by omega
    have hscale : nanos / 1000 * Nat.pow 10 (9 - 6) = nanos := by
      change nanos / 1000 * 1000 = nanos
      omega
    rw [List.cons_append, readFraction_padded (by decide) (by decide) hbound hrest, hscale]
  · have hscale : nanos * Nat.pow 10 (9 - 9) = nanos := Nat.mul_one nanos
    rw [List.cons_append, readFraction_padded (by decide) (by decide) h hrest, hscale]

/-! ### Whole timestamps -/

/-- The year is written with four digits. -/
def HasPlainYear (t : Timestamp) : Prop :=
  0 ≤ t.date.year ∧ t.date.year ≤ 9999

/-- The second and the nanoseconds as they are written: a leap second is the second 60. -/
def writtenSecond (t : Timestamp) : Nat × Nat :=
  if t.nanos < nanosPerSecond then (t.second, t.nanos)
  else (t.second + 1, t.nanos - nanosPerSecond)

theorem isTime_bounds (t : Timestamp) : t.hour < 24 ∧ t.minute < 60 ∧ t.second < 60 ∧
    (t.nanos < nanosPerSecond ∨ t.second = 59 ∧ t.nanos < 2 * nanosPerSecond) := by
  have h := t.valid
  simp only [isTime, Bool.and_eq_true, Bool.or_eq_true, decide_eq_true_eq, beq_iff_eq] at h
  exact ⟨h.1.1.1, h.1.1.2, h.1.2, h.2⟩

theorem writtenSecond_bounds (t : Timestamp) :
    t.writtenSecond.1 < 100 ∧ t.writtenSecond.2 < nanosPerSecond := by
  obtain ⟨-, -, hsecond, hnanos⟩ := t.isTime_bounds
  rw [writtenSecond]
  split <;> simp only <;> omega

/-- A local time without an offset is the timestamp with its parts. -/
theorem ofLocal?_zero (t : Timestamp) :
    ofLocal? t.date t.hour t.minute t.second t.nanos 0 = some t := by
  obtain ⟨hhour, hminute, -, -⟩ := t.isTime_bounds
  have hnonneg : ¬ ((t.hour * 60 + t.minute : Nat) : Int) - 0 < 0 := by omega
  have hday : ((t.hour * 60 + t.minute : Nat) : Int) - 0 < 1440 := by omega
  have hminutes : ((((t.hour * 60 + t.minute : Nat) : Int) - 0) % 1440).toNat =
      t.hour * 60 + t.minute := by omega
  have hhours : (t.hour * 60 + t.minute) / 60 = t.hour := by omega
  have hrest : (t.hour * 60 + t.minute) % 60 = t.minute := by omega
  rw [ofLocal?]
  simp only [if_neg hnonneg, if_pos hday, hminutes, hhours, hrest]
  exact dif_pos t.valid

theorem ofWritten?_writtenSecond (t : Timestamp) :
    ofWritten? t.date.year t.date.month t.date.day t.hour t.minute t.writtenSecond.1
      t.writtenSecond.2 0 = some t := by
  obtain ⟨hhour, hminute, hsecond, hnanos⟩ := t.isTime_bounds
  have hrange : (23 < t.hour || 59 < t.minute) = false := by simp; omega
  rw [ofWritten?, t.date.ofParts?_self, writtenSecond]
  simp only [Option.bind_eq_bind, Option.bind_some, hrange, Bool.false_eq_true, ↓reduceIte]
  split
  · next hlt =>
    rw [if_neg (show t.second ≠ 60 by omega)]
    exact t.ofLocal?_zero
  · next hge =>
    have hlast : t.second = 59 := by omega
    have hnanos : t.nanos - nanosPerSecond + nanosPerSecond = t.nanos := by omega
    rw [if_pos (show t.second + 1 = 60 by omega), hnanos, ← hlast]
    exact t.ofLocal?_zero

theorem date_bounds (date : Date) : date.month < 13 ∧ date.day < 32 := by
  have h := date.valid
  simp only [Date.isDay, Bool.and_eq_true, decide_eq_true_eq] at h
  obtain ⟨⟨-, hfirst⟩, hlast⟩ := h
  rw [daysInMonth] at hlast
  split at hlast
  · split at hlast <;> omega
  split at hlast
  · next hmonth =>
    simp at hmonth
    omega
  split at hlast
  · next hmonth =>
    simp at hmonth
    omega
  · omega

theorem renderLocal_eq (t : Timestamp) :
    t.renderLocal = renderYear t.date.year ++ '-' :: (padded 2 t.date.month ++
      '-' :: (padded 2 t.date.day ++ 'T' :: (padded 2 t.hour ++ ':' :: (padded 2 t.minute ++
        ':' :: (padded 2 t.writtenSecond.1 ++ renderFraction t.writtenSecond.2))))) := by
  simp [renderLocal, writtenSecond]

/-- **A stored time is read as the time.** -/
theorem readStrict_toOffsetText {t : Timestamp} (h : t.HasPlainYear) :
    readStrict t.toOffsetText = some t := by
  obtain ⟨hhour, hminute, -, -⟩ := t.isTime_bounds
  obtain ⟨hsecond, hnanos⟩ := t.writtenSecond_bounds
  obtain ⟨hmonth, hday⟩ := date_bounds t.date
  have hyear : t.date.year.toNat < Nat.pow 10 4 := by
    have hlast := h.2
    change t.date.year.toNat < 10000
    omega
  have htwo {n : Nat} (hn : n < 100) (rest : List Char) :
      readDigits 2 2 (padded 2 n ++ rest) = some (n, rest) :=
    readDigits_padded (by decide) hn rest
  have hsigned : ((t.date.year.toNat : Nat) : Int) = t.date.year := Int.toNat_of_nonneg h.1
  have hplain : renderYear t.date.year = padded 4 t.date.year.toNat := if_pos h
  have hfraction (rest : List Char) := readFraction_renderFraction hnanos
    (show '+'.isDigit = false from rfl) (by decide) rest
  have hoffset : readOffset (readChar ':') ['+', '0', '0', ':', '0', '0'] = some (0, []) := rfl
  rw [readStrict, toOffsetText, String.toList_ofList, renderLocal_eq, hplain]
  simp only [List.append_assoc, List.cons_append, readDigits_padded (by decide) hyear,
    htwo (Nat.lt_trans hmonth (by decide)), htwo (Nat.lt_trans hday (by decide)),
    htwo (Nat.lt_trans hhour (by decide)), htwo (Nat.lt_trans hminute (by decide)), htwo hsecond,
    hfraction, hoffset, readChar, readSeparator, Option.bind_eq_bind, Option.bind_some, decide_true,
    Bool.true_or, ↓reduceIte, List.isEmpty_nil, hsigned]
  exact t.ofWritten?_writtenSecond

/-- **A year that is written with a sign is not read back**: the fixed-width format begins with a
digit. -/
theorem readStrict_toOffsetText_eq_none {t : Timestamp} (h : ¬ t.HasPlainYear) :
    readStrict t.toOffsetText = none := by
  have hsign : ∃ sign rest, renderYear t.date.year = sign :: rest ∧ sign.isDigit = false := by
    rw [renderYear, if_neg (show ¬ (0 ≤ t.date.year ∧ t.date.year ≤ 9999) from h)]
    split
    · exact ⟨'-', _, rfl, rfl⟩
    · exact ⟨'+', _, rfl, rfl⟩
  obtain ⟨sign, rest, hyear, hdigit⟩ := hsign
  have hread (text : List Char) : readDigits 4 4 (sign :: text) = none := by
    rw [readDigits, List.take_succ_cons, List.takeWhile_cons_of_neg (by simp [hdigit])]
    rfl
  rw [readStrict, toOffsetText, String.toList_ofList, renderLocal_eq, hyear]
  simp only [List.cons_append, hread, Option.bind_eq_bind, Option.bind_none]

/-! ### The lenient format -/

theorem padded_ne_nil (width n : Nat) : padded width n ≠ [] := by
  rw [padded]
  exact List.append_ne_nil_of_right_ne_nil _ Nat.toDigits_ne_nil

theorem not_isWhiteSpace_of_isDigit {c : Char} (h : c.isDigit = true) :
    Text.isWhiteSpace c = false := by
  have hrange : 48 ≤ c.toNat ∧ c.toNat ≤ 57 := by
    simpa [Char.isDigit, UInt32.le_iff_toNat_le] using h
  simp only [Text.isWhiteSpace, Bool.or_eq_false_iff, Bool.and_eq_false_iff, beq_eq_false_iff_ne,
    decide_eq_false_iff_not, ne_eq]
  omega

/-- Before digits there is no white space to skip. -/
theorem skipSpace_padded (width n : Nat) (rest : List Char) :
    skipSpace (padded width n ++ rest) = padded width n ++ rest := by
  obtain ⟨d, ds, hds⟩ := List.exists_cons_of_ne_nil (padded_ne_nil width n)
  have hdigit : d.isDigit = true := padded_digits width n d (by simp [hds])
  rw [hds, List.cons_append, skipSpace,
    List.dropWhile_cons_of_neg (by simp [not_isWhiteSpace_of_isDigit hdigit])]

theorem readShort_padded {n : Nat} (hn : n < 100) (rest : List Char) :
    readShort (padded 2 n ++ rest) = some (n, rest) := by
  have hlength : (padded 2 n).length = 2 := length_padded (by decide) hn
  rw [readShort, skipSpace_padded, readDigits_append (padded_digits 2 n) (by omega) (by omega)
    (.inl hlength), ofDigitChars_padded]

/-- The digits of a year are read up to the dash behind them. -/
theorem readDigits_padded_dash {width n most : Nat} (hmost : (padded width n).length ≤ most)
    (rest : List Char) :
    readDigits 1 most (padded width n ++ '-' :: rest) = some (n, '-' :: rest) := by
  have hpos : 0 < (padded width n).length := List.length_pos_iff.2 (padded_ne_nil width n)
  have hrest : ∀ c ∈ ('-' :: rest).head?, c.isDigit = false := by
    rintro c ⟨⟩
    rfl
  rw [readDigits_append (padded_digits width n) hpos hmost (.inr hrest), ofDigitChars_padded]

/-- A year is read, with or without its sign. -/
theorem readYear_renderYear (year : Int) (rest : List Char) :
    readYear (renderYear year ++ '-' :: rest) = some (year, '-' :: rest) := by
  have hlength : (padded 4 year.natAbs).length ≤ (padded 4 year.natAbs ++ '-' :: rest).length := by
    rw [List.length_append]
    omega
  have hsigned := readDigits_padded_dash hlength rest
  rw [renderYear]
  split
  · next hplain =>
    have hbound : year.toNat < Nat.pow 10 4 := by
      change year.toNat < 10000
      omega
    have hlength : (padded 4 year.toNat).length = 4 := length_padded (by decide) hbound
    have hread := readDigits_padded_dash (Nat.le_of_eq hlength) rest
    have hnot (sign : Char) (hsign : sign.isDigit = false) (text : List Char) :
        padded 4 year.toNat ++ '-' :: rest ≠ sign :: text := by
      obtain ⟨d, ds, hds⟩ := List.exists_cons_of_ne_nil (padded_ne_nil 4 year.toNat)
      have hdigit : d.isDigit = true := padded_digits 4 year.toNat d (by simp [hds])
      rw [hds]
      rintro ⟨⟩
      rw [hsign] at hdigit
      cases hdigit
    rw [readYear, skipSpace_padded]
    split
    · next text htext => exact absurd htext (hnot '-' rfl text)
    · next text htext => exact absurd htext (hnot '+' rfl text)
    · have hyear : (year.toNat : Int) = year := Int.toNat_of_nonneg hplain.1
      rw [hread, Option.map_some]
      simp only [hyear]
  · split
    · next hnegative =>
      have hyear : -(year.natAbs : Int) = year := by omega
      change (readDigits 1 (padded 4 year.natAbs ++ '-' :: rest).length
        (padded 4 year.natAbs ++ '-' :: rest)).map _ = _
      rw [hsigned, Option.map_some]
      simp only [hyear]
    · next hpositive =>
      have hyear : (year.natAbs : Int) = year := by omega
      change (readDigits 1 (padded 4 year.natAbs ++ '-' :: rest).length
        (padded 4 year.natAbs ++ '-' :: rest)).map _ = _
      rw [hsigned, Option.map_some]
      simp only [hyear]

/-- **Every time that was written leniently is read as the time.** -/
theorem readLenient_toText (t : Timestamp) : readLenient t.toText = some t := by
  obtain ⟨hhour, hminute, -, -⟩ := t.isTime_bounds
  obtain ⟨hsecond, hnanos⟩ := t.writtenSecond_bounds
  obtain ⟨hmonth, hday⟩ := date_bounds t.date
  have hfraction (rest : List Char) := readFraction_renderFraction hnanos
    (show 'Z'.isDigit = false from rfl) (by decide) rest
  have hdash (rest : List Char) : skipSpace ('-' :: rest) = '-' :: rest := rfl
  have hcolon (rest : List Char) : skipSpace (':' :: rest) = ':' :: rest := rfl
  have hzone : readZone (skipSpace ['Z']) = some (0, []) := rfl
  have hend : (skipSpace []).isEmpty = true := rfl
  rw [readLenient, toText, String.toList_ofList, renderLocal_eq]
  simp only [List.append_assoc, List.cons_append, readYear_renderYear,
    readShort_padded (Nat.lt_trans hmonth (by decide)),
    readShort_padded (Nat.lt_trans hday (by decide)),
    readShort_padded (Nat.lt_trans hhour (by decide)),
    readShort_padded (Nat.lt_trans hminute (by decide)), readShort_padded hsecond, hfraction,
    hdash, hcolon, hzone, hend, readChar, readSeparator, Option.bind_eq_bind, Option.bind_some,
    decide_true, Bool.true_or, ↓reduceIte]
  exact t.ofWritten?_writtenSecond

end SpaceMigration.Timestamp
