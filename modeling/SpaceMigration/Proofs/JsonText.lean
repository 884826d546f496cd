import SpaceMigration.Json.Parser
import SpaceMigration.Json.Printer
import SpaceMigration.Proofs.Digits

/-!
# JSON is read as it was written

The reader of JSON gives back the value whose compact text it reads. This is true of *plain* values,
`Value.Plain`: those built of texts, natural numbers and truth values. Everything the library writes
is plain. Excluded are numbers kept as literals and strings that denote no text, which occur in
foreign texts only.

The readers return the rest of a text, so every statement is about a text followed by any rest; the
one condition on the rest is that it does not go on with a number (`EndsNumber`).

## Main results

* `readString_quoted` — a string literal is read as its text
* `Value.Plain.parse?_compact` — the compact text of a plain value is read as the value
-/

namespace SpaceMigration.Json

/-! ### Strings

A character is written as itself, as an escape of one letter, or as an escaped unit. -/

theorem unit?_hexDigit :
    ∀ n < 0x20, unit? '0' '0' (hexDigit (n / 16)) (hexDigit (n % 16)) = some n := by
  decide

theorem readLiteral_short {c d : Char} (h : shortEscape? c = some d) (hu : c ≠ 'u')
    (tail : List Char) :
    readLiteral ('\\' :: c :: tail) = (readLiteral tail).map (·.cons d) := by
  rw [readLiteral]
  · simp [h]
  · simp [hu]
  · simp [hu]

theorem readLiteral_plain {c : Char} (hq : c ≠ '"') (hb : c ≠ '\\') (hc : 0x20 ≤ c.toNat)
    (tail : List Char) : readLiteral (c :: tail) = (readLiteral tail).map (·.cons c) := by
  rw [readLiteral]
  · simp [hb, Nat.not_lt.2 hc]
  · simpa using hq
  · simp [hb]
  · simp [hb]
  · simp [hb]

theorem readLiteral_badUnit {a b c d : Char} (h : unit? a b c d = none) (tail : List Char) :
    readLiteral ('\\' :: 'u' :: a :: b :: c :: d :: tail) = none := by
  unfold readLiteral
  split
  · next heq => cases heq
  · next heq => cases heq
  · next heq => cases heq; simp [h]
  · next heq => cases heq; simp [h]
  · next _ hu heq => cases heq; exact (hu _ _ _ _ _ rfl rfl).elim
  · next heq => cases heq; simp

theorem readLiteral_unit {a b c d : Char} {unit : Nat} (h : unit? a b c d = some unit)
    (hl : isLeading unit = false) (ht : isTrailing unit = false) (tail : List Char) :
    readLiteral ('\\' :: 'u' :: a :: b :: c :: d :: tail) =
      (readLiteral tail).map (·.cons (Char.ofNat unit)) := by
  by_cases hnext : ∃ e f g h rest, tail = '\\' :: 'u' :: e :: f :: g :: h :: rest
  · obtain ⟨e, f, g, i, rest, rfl⟩ := hnext
    rw [readLiteral, h]
    cases hunit : unit? e f g i with
    | none => simp [readLiteral_badUnit hunit]
    | some next => simp [hl, ht]
  · rw [readLiteral, h]
    · simp [hl, ht]
    · rintro e f g i rest rfl
      exact hnext ⟨e, f, g, i, rest, rfl⟩

theorem readLiteral_escape (c : Char) (tail : List Char) :
    readLiteral (escape c ++ tail) = (readLiteral tail).map (·.cons c) := by
  unfold escape
  split
  · subst c; exact readLiteral_short rfl (by decide) tail
  split
  · subst c; exact readLiteral_short rfl (by decide) tail
  split
  · subst c; exact readLiteral_short rfl (by decide) tail
  split
  · subst c; exact readLiteral_short rfl (by decide) tail
  split
  · subst c; exact readLiteral_short rfl (by decide) tail
  split
  · subst c; exact readLiteral_short rfl (by decide) tail
  split
  · subst c; exact readLiteral_short rfl (by decide) tail
  split
  · next hc =>
    have hunit := readLiteral_unit (unit?_hexDigit c.toNat hc) (by simp [isLeading]; omega)
      (by simp [isTrailing]; omega) tail
    rwa [Char.ofNat_toNat] at hunit
  · next hq hb _ _ _ _ _ hc => exact readLiteral_plain hq hb (Nat.le_of_not_lt hc) tail

theorem readLiteral_flatMap_escape (cs rest : List Char) :
    readLiteral (cs.flatMap escape ++ '"' :: rest) = some (some cs, rest) := by
  induction cs with
  | nil => simp [readLiteral]
  | cons c cs ih => simp [readLiteral_escape, ih, Literal.cons]

theorem readString_quoted (s : String) (rest : List Char) :
    readString (s.toList.flatMap escape ++ '"' :: rest) = some (some s, rest) := by
  rw [readString, readLiteral_flatMap_escape]
  simp

/-! ### Numbers -/

/-- What may follow a number: nothing that would go on with it. -/
def EndsNumber (rest : List Char) : Prop :=
  ∀ c ∈ rest.head?, c.isDigit = false ∧ c ≠ '.' ∧ c ≠ 'e' ∧ c ≠ 'E'

theorem exists_digits_eq_cons (n : Nat) : ∃ c cs, digits n = c :: cs ∧ c.isDigit = true := by
  obtain ⟨c, cs, hcs⟩ := List.exists_cons_of_ne_nil (Nat.toDigits_ne_nil (n := n) (b := 10))
  exact ⟨c, cs, hcs, isDigit_of_mem_toDigits_ten (n := n) (by simp [hcs])⟩

theorem readMagnitude_digits (n : Nat) {rest : List Char} (hrest : EndsNumber rest) :
    readMagnitude (digits n ++ rest) = some (digits n, [], rest) := by
  have hdigits : ∀ c ∈ digits n, c.isDigit = true := fun c => isDigit_of_mem_toDigits_ten
  have hspan : spanDigits (digits n ++ rest) = (digits n, rest) := by
    have hhead : ∀ c ∈ rest.head?, c.isDigit = false := fun c hc => (hrest c hc).1
    rw [spanDigits, takeWhile_isDigit_append hdigits hhead, dropWhile_isDigit_append hdigits hhead]
  have hwhole : (digits n).isEmpty = false := by simp [digits]
  have hzero : ¬ ((digits n).head? = some '0' ∧ (digits n).length ≠ 1) := by
    rintro ⟨hhead, hlength⟩
    by_cases hn : n = 0
    · subst hn
      exact hlength rfl
    · exact head?_toDigits_ne_zero hn hhead
  have hfraction : readFraction rest = some ([], rest) := by
    cases rest with
    | nil => rfl
    | cons c rest =>
      obtain ⟨-, hpoint, -⟩ := hrest c rfl
      rw [readFraction]
      simpa using hpoint
  have hexponent : readExponent rest = some ([], rest) := by
    cases rest with
    | nil => rfl
    | cons c rest =>
      obtain ⟨-, -, he, hE⟩ := hrest c rfl
      simp [readExponent, he, hE]
  rw [readMagnitude, hspan]
  simp [hwhole, hzero, hfraction, hexponent]

theorem readNumber_digits (n : Nat) {rest : List Char} (hrest : EndsNumber rest) :
    readNumber (digits n ++ rest) = some (.natural n, rest) := by
  have hread := readMagnitude_digits n hrest
  have hvalue : numberOf (digits n) = n := by
    rw [numberOf, foldl_digits_eq]
    exact Nat.ofDigitChars_ten_toDigits
  rw [readNumber]
  · simp [hread, hvalue]
  · intro text htext
    have hmem : '-' ∈ digits n := by
      cases hds : digits n with
      | nil => simp [digits] at hds
      | cons c ds =>
        rw [hds] at htext
        cases htext
        simp
    exact absurd (isDigit_of_mem_toDigits_ten hmem) (by decide)

/-! ### Values -/

/-- A value built of texts, natural numbers and truth values. -/
inductive Value.Plain : Value → Prop
  | null : Plain .null
  | bool (b : Bool) : Plain (.bool b)
  | natural (n : Nat) : Plain (.natural n)
  | text (s : String) : Plain (.text s)
  | array {items : List Value} (h : ∀ v ∈ items, Plain v) : Plain (.array items)
  | record {entries : List (String × Value)} (h : ∀ e ∈ entries, Plain e.2) :
      Plain (.record entries)

/-- The text is the beginning of a value: no blank, and no bracket that closes. -/
def StartsValue (text : List Char) : Prop :=
  ∃ c rest, text = c :: rest ∧ isBlank c = false ∧ c ≠ ']'

theorem StartsValue.skipBlanks {text : List Char} (h : StartsValue text) :
    skipBlanks text = text := by
  obtain ⟨c, rest, rfl, hblank, -⟩ := h
  simp [Json.skipBlanks, hblank]

theorem StartsValue.append {text : List Char} (h : StartsValue text) (rest : List Char) :
    StartsValue (text ++ rest) := by
  obtain ⟨c, cs, rfl, hc⟩ := h
  exact ⟨c, cs ++ rest, rfl, hc⟩

theorem not_isBlank_of_isDigit {c : Char} (h : c.isDigit = true) : isBlank c = false := by
  have hne (d : Char) (hd : d.isDigit = false) : (c == d) = false := by
    rw [beq_eq_false_iff_ne]
    rintro rfl
    simp [h] at hd
  simp [isBlank, hne ' ' rfl, hne '\n' rfl, hne '\t' rfl, hne '\r' rfl]

theorem Value.Plain.startsValue {v : Value} (h : v.Plain) : StartsValue v.render := by
  cases h with
  | null => exact ⟨_, _, rfl, rfl, by decide⟩
  | bool b => cases b <;> exact ⟨_, _, rfl, rfl, by decide⟩
  | natural n =>
    obtain ⟨c, cs, hcs, hc⟩ := exists_digits_eq_cons n
    refine ⟨c, cs, hcs, not_isBlank_of_isDigit hc, ?_⟩
    rintro rfl
    cases hc
  | text s => exact ⟨_, _, rfl, rfl, by decide⟩
  | array h => exact ⟨_, _, rfl, rfl, by decide⟩
  | record h => exact ⟨_, _, rfl, rfl, by decide⟩

theorem readValue_digits (n fuel : Nat) {rest : List Char} (hrest : EndsNumber rest) :
    readValue (fuel + 1) (digits n ++ rest) = some (.natural n, rest) := by
  have hskip : skipBlanks (digits n ++ rest) = digits n ++ rest :=
    ((Value.Plain.natural n).startsValue.append rest).skipBlanks
  have hnot (d : Char) (hd : d.isDigit = false) (text : List Char) :
      digits n ++ rest ≠ d :: text := by
    obtain ⟨c, cs, hcs, hc⟩ := exists_digits_eq_cons n
    rw [hcs]
    intro heq
    cases heq
    simp [hc] at hd
  rw [readValue, hskip]
  split
  · next heq => exact absurd heq (hnot 'n' rfl _)
  · next heq => exact absurd heq (hnot 't' rfl _)
  · next heq => exact absurd heq (hnot 'f' rfl _)
  · next heq => exact absurd heq (hnot '"' rfl _)
  · next heq => exact absurd heq (hnot '[' rfl _)
  · next heq => exact absurd heq (hnot '{' rfl _)
  · exact readNumber_digits n hrest

/-- What may follow an item or an entry: a comma or the bracket that closes. -/
theorem endsNumber_cons {c : Char} (h : c = ',' ∨ c = ']' ∨ c = '}') (rest : List Char) :
    EndsNumber (c :: rest) := by
  rintro d ⟨⟩
  rcases h with rfl | rfl | rfl <;> decide

/-- The value is read from its compact text, whatever follows, with one unit of fuel for each of its
characters. -/
structure Value.ReadsBack (v : Value) : Prop where
  starts : StartsValue v.render
  read (fuel : Nat) (rest : List Char) : EndsNumber rest → v.render.length ≤ fuel →
    readValue fuel (v.render ++ rest) = some (v, rest)

theorem StartsValue.length_pos {text : List Char} (h : StartsValue text) : 0 < text.length := by
  obtain ⟨c, cs, rfl, -⟩ := h
  simp

theorem readItems_renderItems {v : Value} {items : List Value}
    (hitems : ∀ w ∈ v :: items, w.ReadsBack) (fuel : Nat) (rest : List Char)
    (hfuel : (renderItems (v :: items)).length < fuel) :
    readItems fuel (renderItems (v :: items) ++ ']' :: rest) = some (v :: items, rest) := by
  obtain ⟨fuel, rfl⟩ : ∃ k, fuel = k + 1 := ⟨fuel - 1, by omega⟩
  induction items generalizing v fuel with
  | nil =>
    rw [renderItems] at hfuel ⊢
    rw [readItems, (hitems v (by simp)).read fuel _ (endsNumber_cons (by simp) _) (by omega)]
    rfl
  | cons w items ih =>
    obtain ⟨hv, hitems⟩ := List.forall_mem_cons.1 hitems
    have hlength := hv.starts.length_pos
    rw [renderItems, List.length_append, List.length_cons] at hfuel
    obtain ⟨fuel, rfl⟩ : ∃ k, fuel = k + 1 := ⟨fuel - 1, by omega⟩
    rw [renderItems, List.append_assoc, List.cons_append, readItems,
      hv.read (fuel + 1) _ (endsNumber_cons (by simp) _) (by omega)]
    change (readItems (fuel + 1) (renderItems (w :: items) ++ ']' :: rest)).map _ = _
    rw [ih hitems fuel (by omega)]
    rfl

/-- How an object goes on after an entry. -/
def entriesAfter (fuel : Nat) (entry : Option String × Value) (text : List Char) :
    Option (List (Option String × Value) × List Char) :=
  match skipBlanks text with
  | '}' :: rest => some ([entry], rest)
  | ',' :: rest => (readEntries fuel rest).map fun (entries, rest) => (entry :: entries, rest)
  | _ => none

theorem readEntries_key (fuel : Nat) (key : String) {v : Value} {text rest : List Char}
    (h : readValue fuel text = some (v, rest)) :
    readEntries (fuel + 1) (literal (some key) ++ ':' :: text) =
      entriesAfter fuel (some key, v) rest := by
  have hkey : literal (some key) ++ ':' :: text =
      '"' :: (key.toList.flatMap escape ++ '"' :: ':' :: text) := by
    simp [literal, quoted]
  have hquote (rest : List Char) : skipBlanks ('"' :: rest) = '"' :: rest := rfl
  have hcolon (rest : List Char) : skipBlanks (':' :: rest) = ':' :: rest := rfl
  rw [hkey, readEntries, hquote]
  simp only [readString_quoted, hcolon, h]
  rfl

/-- An object's entries with texts for keys. -/
def renderRecord (entries : List (String × Value)) : List Char :=
  renderEntries (entries.map fun (key, v) => (some key, v))

theorem readEntries_renderRecord {e : String × Value} {entries : List (String × Value)}
    (hentries : ∀ e' ∈ e :: entries, e'.2.ReadsBack) (fuel : Nat) (rest : List Char)
    (hfuel : (renderRecord (e :: entries)).length < fuel) :
    readEntries fuel (renderRecord (e :: entries) ++ '}' :: rest) =
      some ((e :: entries).map fun (key, v) => (some key, v), rest) := by
  obtain ⟨fuel, rfl⟩ : ∃ k, fuel = k + 1 := ⟨fuel - 1, by omega⟩
  induction entries generalizing e fuel with
  | nil =>
    rw [renderRecord, List.map_cons, List.map_nil, renderEntries, List.length_append,
      List.length_cons] at hfuel
    have hread : readValue fuel (e.2.render ++ '}' :: rest) = some (e.2, '}' :: rest) :=
      (hentries e (by simp)).read fuel _ (endsNumber_cons (by simp) _) (by omega)
    rw [renderRecord, List.map_cons, List.map_nil, renderEntries, List.append_assoc,
      List.cons_append, readEntries_key fuel e.1 hread]
    rfl
  | cons e' entries ih =>
    obtain ⟨he, hentries⟩ := List.forall_mem_cons.1 hentries
    have hlength := he.starts.length_pos
    rw [renderRecord, List.map_cons, List.map_cons, renderEntries] at hfuel ⊢
    change (literal (some e.1) ++ ':' :: e.2.render ++
      ',' :: renderRecord (e' :: entries)).length < fuel + 1 at hfuel
    simp only [List.length_append, List.length_cons] at hfuel
    obtain ⟨fuel, rfl⟩ : ∃ k, fuel = k + 1 := ⟨fuel - 1, by omega⟩
    have hread : readValue (fuel + 1)
        (e.2.render ++ ',' :: (renderRecord (e' :: entries) ++ '}' :: rest)) = some (e.2, _) :=
      he.read (fuel + 1) _ (endsNumber_cons (by simp) _) (by omega)
    change readEntries (fuel + 2) (literal (some e.1) ++ ':' :: e.2.render ++
      ',' :: renderRecord (e' :: entries) ++ '}' :: rest) = _
    rw [List.append_assoc, List.append_assoc, List.cons_append, List.cons_append,
      readEntries_key (fuel + 1) e.1 hread]
    change (readEntries (fuel + 1) (renderRecord (e' :: entries) ++ '}' :: rest)).map _ = _
    rw [ih hentries fuel (by omega)]
    rfl

theorem startsValue_renderItems {v : Value} (hv : v.ReadsBack) (items : List Value) :
    StartsValue (renderItems (v :: items)) := by
  cases items with
  | nil => exact hv.starts
  | cons w items => exact hv.starts.append _

theorem readValue_array (fuel : Nat) {text : List Char} (h : StartsValue text) :
    readValue (fuel + 1) ('[' :: text) =
      (readItems fuel text).map fun (items, rest) => (.array items, rest) := by
  have hopen : skipBlanks ('[' :: text) = '[' :: text := rfl
  have hskip := h.skipBlanks
  obtain ⟨c, rest, rfl, -, hc⟩ := h
  rw [readValue, hopen]
  simp only [hskip]
  split
  · next heq => cases heq; exact absurd rfl hc
  · rfl

theorem readValue_record (fuel : Nat) (key : String) (text : List Char) :
    readValue (fuel + 1) ('{' :: (literal (some key) ++ text)) =
      (readEntries fuel (literal (some key) ++ text)).map fun (entries, rest) =>
        (.object entries, rest) :=
  rfl

theorem exists_renderRecord_eq (e : String × Value) (entries : List (String × Value)) :
    ∃ text, renderRecord (e :: entries) = literal (some e.1) ++ text := by
  cases entries with
  | nil => exact ⟨_, rfl⟩
  | cons e' entries => exact ⟨_, List.append_assoc _ _ _⟩

/-- No text of a value is empty, so there is fuel to read it. -/
theorem Value.Plain.readsBack_of {v : Value} (h : v.Plain)
    (hread : ∀ fuel rest, EndsNumber rest → v.render.length ≤ fuel + 1 →
      readValue (fuel + 1) (v.render ++ rest) = some (v, rest)) : v.ReadsBack := by
  refine ⟨h.startsValue, ?_⟩
  intro fuel rest hrest hfuel
  have hlength := h.startsValue.length_pos
  obtain ⟨fuel, rfl⟩ : ∃ k, fuel = k + 1 := ⟨fuel - 1, by omega⟩
  exact hread fuel rest hrest hfuel

theorem Value.Plain.readsBack {v : Value} (h : v.Plain) : v.ReadsBack := by
  induction h with
  | null => exact Plain.null.readsBack_of fun _ _ _ _ => rfl
  | bool b =>
    refine (Plain.bool b).readsBack_of fun _ _ _ _ => ?_
    cases b <;> rfl
  | natural n =>
    exact (Plain.natural n).readsBack_of fun fuel _ hrest _ => readValue_digits n fuel hrest
  | text s =>
    refine (Plain.text s).readsBack_of ?_
    intro fuel rest _ _
    have hliteral : (Value.text s).render ++ rest =
        '"' :: (s.toList.flatMap escape ++ '"' :: rest) := by
      simp [Value.text, render, literal, quoted]
    have hquote (rest : List Char) : skipBlanks ('"' :: rest) = '"' :: rest := rfl
    rw [hliteral, readValue, hquote]
    simp only [readString_quoted]
    rfl
  | @array items h ih =>
    refine (Plain.array h).readsBack_of ?_
    intro fuel rest _ hfuel
    cases items with
    | nil => rfl
    | cons v items =>
      rw [render, List.length_cons, List.length_append, List.length_singleton] at hfuel
      rw [render, List.cons_append, List.append_assoc, List.singleton_append,
        readValue_array fuel ((startsValue_renderItems (ih v (by simp)) items).append _),
        readItems_renderItems ih fuel rest (by omega)]
      rfl
  | @record entries h ih =>
    refine (Plain.record h).readsBack_of ?_
    intro fuel rest _ hfuel
    cases entries with
    | nil => rfl
    | cons e entries =>
      have hrender : (Value.record (e :: entries)).render =
          '{' :: (renderRecord (e :: entries) ++ ['}']) := rfl
      obtain ⟨text, htext⟩ := exists_renderRecord_eq e entries
      rw [hrender, List.length_cons, List.length_append, List.length_singleton] at hfuel
      have hread := readEntries_renderRecord ih fuel rest (by omega)
      rw [hrender, List.cons_append, List.append_assoc, List.singleton_append]
      rw [htext, List.append_assoc] at hread ⊢
      rw [readValue_record, hread]
      rfl

/-- **A plain value is read back from its compact text.** -/
theorem Value.Plain.parse?_compact {v : Value} (h : v.Plain) : Value.parse? v.compact = some v := by
  have hread := h.readsBack.read (2 * v.render.length + 2) [] (by simp [EndsNumber]) (by omega)
  rw [List.append_nil] at hread
  rw [parse?, compact, String.length_ofList, String.toList_ofList, hread]
  rfl

end SpaceMigration.Json
