import SpaceMigration.Reference

/-!
# Names below a root

A document is named below a root by two children: its space and its identifier in the space. A dot
inside a name is escaped by a backslash, but a backslash is not, so a name that ends in a backslash
makes the separator behind it look escaped. This is the only way in which two names can share a
reference (`child_child_eq_iff`): the names read the same dots differently.

## Main definitions

* `EntityReference.Ambiguous` — two names of documents that read one reference differently

## Main results

* `EntityReference.child_child_eq_iff` — when two documents have one reference
-/

namespace SpaceMigration

namespace Text

/-- The text with its dots escaped. -/
def escapeDots (text : List Char) : List Char :=
  replaceChar '.' ['\\', '.'] text

@[simp] theorem escapeDots_nil : escapeDots [] = [] := rfl

theorem escapeDots_dot (text : List Char) :
    escapeDots ('.' :: text) = '\\' :: '.' :: escapeDots text := rfl

theorem escapeDots_cons {c : Char} (h : c ≠ '.') (text : List Char) :
    escapeDots (c :: text) = c :: escapeDots text := by
  simp [escapeDots, replaceChar, h]

theorem escapeDots_backslash : escapeDots ['\\'] = ['\\'] := rfl

theorem escapeDots_append (text more : List Char) :
    escapeDots (text ++ more) = escapeDots text ++ escapeDots more :=
  List.flatMap_append

/-- Every dot of an escaped text is the escape of a dot. -/
theorem exists_of_escapeDots_eq {text before after : List Char}
    (h : escapeDots text = before ++ '.' :: after) :
    ∃ front back, text = front ++ '.' :: back ∧ before = escapeDots front ++ ['\\'] ∧
      after = escapeDots back := by
  induction text generalizing before with
  | nil => simp at h
  | cons c rest ih =>
    by_cases hc : c = '.'
    · subst hc
      rw [escapeDots_dot] at h
      -- The dot that is looked for is the one just escaped, or one of the rest.
      rcases before with _ | ⟨b, _ | ⟨b', before⟩⟩
      · simp at h
      · obtain ⟨rfl, rfl⟩ : '\\' = b ∧ escapeDots rest = after := by simpa using h
        exact ⟨[], rest, rfl, rfl, rfl⟩
      · simp only [List.cons_append, List.cons.injEq] at h
        obtain ⟨rfl, rfl, h⟩ := h
        obtain ⟨front, back, rfl, rfl, hafter⟩ := ih h
        exact ⟨'.' :: front, back, rfl, rfl, hafter⟩
    · rw [escapeDots_cons hc] at h
      rcases before with _ | ⟨b, before⟩
      · simp [hc] at h
      · rw [List.cons_append, List.cons.injEq] at h
        obtain ⟨rfl, h⟩ := h
        obtain ⟨front, back, rfl, rfl, hafter⟩ := ih h
        exact ⟨c :: front, back, rfl, by rw [escapeDots_cons hc]; rfl, hafter⟩

theorem escapeDots_ne_dot_cons (text rest : List Char) : escapeDots text ≠ '.' :: rest := by
  intro h
  obtain ⟨front, back, -, hbefore, -⟩ := @exists_of_escapeDots_eq text [] rest h
  simp at hbefore

theorem escapeDots_injective {text text' : List Char} (h : escapeDots text = escapeDots text') :
    text = text' := by
  induction text generalizing text' with
  | nil =>
    cases text' with
    | nil => rfl
    | cons c rest => by_cases hc : c = '.' <;> simp [hc, escapeDots_dot, escapeDots_cons] at h
  | cons c rest ih =>
    cases text' with
    | nil => by_cases hc : c = '.' <;> simp [hc, escapeDots_dot, escapeDots_cons] at h
    | cons c' rest' =>
      by_cases hc : c = '.' <;> by_cases hc' : c' = '.'
      · subst hc hc'
        rw [escapeDots_dot, escapeDots_dot] at h
        rw [ih (by simpa using h)]
      · subst hc
        rw [escapeDots_dot, escapeDots_cons hc', List.cons.injEq] at h
        exact absurd h.2.symm (escapeDots_ne_dot_cons _ _)
      · subst hc'
        rw [escapeDots_dot, escapeDots_cons hc, List.cons.injEq] at h
        exact absurd h.2 (escapeDots_ne_dot_cons _ _)
      · rw [escapeDots_cons hc, escapeDots_cons hc', List.cons.injEq] at h
        rw [h.1, ih h.2]

/-- Two escaped texts with a dot between them, whose first parts have different lengths: the first
part of each ends in a backslash, in front of the dot that separates the parts of the other. -/
theorem exists_of_separated_eq {key id key' id' between : List Char}
    (hkey : escapeDots key' = escapeDots key ++ '.' :: between)
    (hid : escapeDots id = between ++ '.' :: escapeDots id') :
    ∃ before middle, key = before ++ ['\\'] ∧ id = middle ++ '.' :: id' ∧
      key' = before ++ '.' :: (middle ++ ['\\']) := by
  obtain ⟨before, back, rfl, hbefore, rfl⟩ := exists_of_escapeDots_eq hkey
  obtain ⟨middle, after, rfl, hmiddle, hafter⟩ := exists_of_escapeDots_eq hid
  rw [← escapeDots_backslash, ← escapeDots_append] at hbefore hmiddle
  refine ⟨before, middle, escapeDots_injective hbefore, ?_, ?_⟩
  · rw [escapeDots_injective hafter]
  · rw [escapeDots_injective hmiddle]

end Text

namespace EntityReference

open Text (escapeDots escapeDots_append escapeDots_dot escapeDots_backslash escapeDots_injective
  exists_of_separated_eq)

/-- Two names of documents, each a space key and an identifier, that differ in what they read as the
separator: the first dot behind `before` separates the first name and is part of the second key. -/
def Ambiguous (a b : String × String) : Prop :=
  ∃ before middle id : String,
    a = (before ++ "\\", middle ++ "." ++ id) ∧ b = (before ++ "." ++ middle ++ "\\", id)

theorem child_child_path (root : EntityReference) (key id : String) :
    ((root.child key).child id).path.toList =
      root.path.toList ++ '.' :: (escapeDots key.toList ++ '.' :: escapeDots id.toList) := by
  simp [child, segment, escapeDots]

theorem child_child_eq_iff_escaped {root : EntityReference} {key id key' id' : String} :
    (root.child key).child id = (root.child key').child id' ↔
      escapeDots key.toList ++ '.' :: escapeDots id.toList =
        escapeDots key'.toList ++ '.' :: escapeDots id'.toList := by
  have hpath : (root.child key).child id = (root.child key').child id' ↔
      ((root.child key).child id).path.toList = ((root.child key').child id').path.toList := by
    rw [String.toList_inj]
    exact ⟨congrArg path, congrArg mk⟩
  rw [hpath, child_child_path, child_child_path, List.append_cancel_left_eq, List.cons.injEq]
  exact and_iff_right rfl

theorem Ambiguous.child_child_eq {key id key' id' : String}
    (h : Ambiguous (key, id) (key', id')) (root : EntityReference) :
    (root.child key).child id = (root.child key').child id' := by
  obtain ⟨before, middle, last, ha, hb⟩ := h
  obtain ⟨rfl, rfl⟩ := Prod.mk.inj ha
  obtain ⟨rfl, rfl⟩ := Prod.mk.inj hb
  rw [child_child_eq_iff_escaped]
  simp [escapeDots_append, escapeDots_dot, escapeDots_backslash]

/-- Of two names that are escaped alike, the one with the shorter key is the first of an ambiguous
pair, unless the names are the same. -/
theorem eq_or_ambiguous {key id key' id' : String} {between : List Char}
    (hkey : escapeDots key'.toList = escapeDots key.toList ++ between)
    (hid : '.' :: escapeDots id.toList = between ++ '.' :: escapeDots id'.toList) :
    (key, id) = (key', id') ∨ Ambiguous (key, id) (key', id') := by
  cases between with
  | nil =>
    rw [List.append_nil] at hkey
    rw [List.nil_append, List.cons.injEq] at hid
    have hsame : key' = key := String.toList_injective (escapeDots_injective hkey)
    have hsame' : id = id' := String.toList_injective (escapeDots_injective hid.2)
    exact .inl (by rw [hsame, hsame'])
  | cons c between =>
    rw [List.cons_append, List.cons.injEq] at hid
    obtain ⟨rfl, hid⟩ := hid
    obtain ⟨before, middle, h, h', h''⟩ := exists_of_separated_eq hkey hid
    refine .inr ⟨String.ofList before, String.ofList middle, id', ?_, ?_⟩
    · rw [Prod.mk.injEq, ← String.toList_inj, ← String.toList_inj, h, h']
      simp
    · rw [Prod.mk.injEq, ← String.toList_inj, h'']
      simp

/-- **Two documents below one root have one reference exactly if their names are the same or
ambiguous.** -/
theorem child_child_eq_iff (root : EntityReference) (key id key' id' : String) :
    (root.child key).child id = (root.child key').child id' ↔
      (key, id) = (key', id') ∨ Ambiguous (key, id) (key', id') ∨
        Ambiguous (key', id') (key, id) := by
  constructor
  · intro h
    rw [child_child_eq_iff_escaped, List.append_eq_append_iff] at h
    obtain ⟨between, hkey, hid⟩ | ⟨between, hkey, hid⟩ := h
    · exact (eq_or_ambiguous hkey hid).imp_right .inl
    · exact (eq_or_ambiguous hkey hid).imp Eq.symm .inr
  · rintro (h | h | h)
    · obtain ⟨rfl, rfl⟩ := Prod.mk.inj h
      rfl
    · exact h.child_child_eq root
    · exact (h.child_child_eq root).symm

theorem Ambiguous.ne {a b : String × String} (h : Ambiguous a b) : a ≠ b := by
  obtain ⟨before, middle, id, rfl, rfl⟩ := h
  intro hsame
  have hlength := congrArg String.length (Prod.mk.inj hsame).1
  simp only [String.length_append] at hlength
  have hdot : ".".length = 1 := rfl
  omega

/-- The first key of an ambiguous pair ends in a backslash. -/
theorem not_ambiguous_of_getLast? {a b : String × String}
    (h : a.1.toList.getLast? ≠ some '\\') : ¬ Ambiguous a b := by
  rintro ⟨before, middle, id, rfl, -⟩
  simp at h

end EntityReference

end SpaceMigration
