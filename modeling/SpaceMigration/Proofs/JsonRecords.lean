import SpaceMigration.Json.Record
import SpaceMigration.Proofs.JsonText

/-!
# Records are read as they are laid out

Typed values are laid out as plain JSON values and read field by field. The lemmas of this module
carry a round trip from the parts of a layout to the whole: lists and maps from their elements, and
objects from their fields (`Value.fields?_record`), whose lookups then compute.
-/

namespace SpaceMigration

namespace Json

/-- An object is read as its known fields if each of them occurs once; its other fields are
ignored, whatever they hold. -/
theorem Value.fields?_record_known {names : List String} {entries : List (String × Value)}
    (h : ((entries.filter fun entry => names.contains entry.1).map Prod.fst).Nodup) :
    (Value.record entries).fields? names =
      some ⟨false, entries.filter fun entry => names.contains entry.1⟩ := by
  have htexts (entries : List (String × Value)) :
      (entries.map fun e => (some e.1, e.2)).mapM textKey = some entries := by
    induction entries with
    | nil => rfl
    | cons e entries ih =>
      rw [List.map_cons, List.mapM_cons, ih]
      rfl
  rw [Value.record, Value.fields?]
  change ((entries.map fun e => (some e.1, e.2)).mapM textKey).bind _ = _
  rw [htexts, Option.bind_some, if_pos h]

/-- An object with some of the fields of a record, each once, is read as these fields. -/
theorem Value.fields?_record_of_sublist {names : List String} {entries : List (String × Value)}
    (h : (entries.map Prod.fst).Sublist names) (hnodup : names.Nodup) :
    (Value.record entries).fields? names = some ⟨false, entries⟩ := by
  have hknown : (entries.filter fun entry => names.contains entry.1) = entries := by
    refine List.filter_eq_self.2 ?_
    intro e he
    rw [List.contains_iff_mem]
    exact h.subset (List.mem_map_of_mem he)
  rw [fields?_record_known]
  · rw [hknown]
  · rw [hknown]
    exact h.nodup hnodup

/-- An object with the fields of a record, each once, is read as these fields. -/
theorem Value.fields?_record {names : List String} {entries : List (String × Value)}
    (h : entries.map Prod.fst = names) (hnodup : names.Nodup) :
    (Value.record entries).fields? names = some ⟨false, entries⟩ :=
  fields?_record_of_sublist (h ▸ List.Sublist.refl _) hnodup

/-- A list is read element by element. -/
theorem mapM_eq_some_iff {α β : Type} {read : α → Option β} {as : List α} {bs : List β} :
    as.mapM read = some bs ↔ as.map read = bs.map some := by
  induction as generalizing bs with
  | nil => cases bs <;> simp
  | cons a as ih =>
    rw [List.mapM_cons]
    cases bs with
    | nil => cases read a <;> cases as.mapM read <;> simp
    | cons b bs =>
      rw [List.map_cons, List.map_cons, List.cons.injEq, ← ih]
      cases read a <;> cases as.mapM read <;> simp

/-- A list is read as it is laid out when its elements are. -/
theorem mapM_map_eq_some {α β : Type} {layout : α → β} {read : β → Option α}
    (h : ∀ a, read (layout a) = some a) (as : List α) : (as.map layout).mapM read = some as := by
  rw [mapM_eq_some_iff, List.map_map]
  exact List.map_congr_left fun a _ => h a

theorem Value.asList_map {α : Type} {layout : α → Value} {read : Value → Option α}
    (h : ∀ a, read (layout a) = some a) (as : List α) :
    (Value.array (as.map layout)).asList read = some as :=
  mapM_map_eq_some h as

@[simp] theorem Value.asText_text (s : String) : (Value.text s).asText = some s := rfl

@[simp] theorem Value.asOption_text? (s : Option String) :
    (Value.text? s).asOption (·.asText) = some s := by
  cases s <;> rfl

theorem Value.asOption_of_ne_null {α : Type} (read : Value → Option α) {v : Value}
    (h : v ≠ .null) : v.asOption read = (read v).map some := by
  cases v with
  | null => exact absurd rfl h
  | _ => rfl

/-- An optional value is read as it is laid out when its values are, and none of them as null. -/
theorem Value.asOption_getD {α : Type} {layout : α → Value} {read : Value → Option α}
    (h : ∀ a, read (layout a) = some a) (hnull : ∀ a, layout a ≠ .null) (a : Option α) :
    ((a.map layout).getD .null).asOption read = some a := by
  cases a with
  | none => rfl
  | some a =>
    rw [Option.map_some, Option.getD_some, asOption_of_ne_null read (hnull a), h, Option.map_some]

theorem Value.Plain.getD {α : Type} {layout : α → Value} (h : ∀ a, (layout a).Plain)
    (a : Option α) : ((a.map layout).getD .null).Plain := by
  cases a with
  | none => exact .null
  | some a => exact h a

/-- **A value is read from its compact text** as it is read from its layout. -/
theorem Value.Plain.read_compact {α : Type} {v : Value} (h : v.Plain) (read : Value → Option α) :
    (Value.parse? v.compact).bind read = read v := by
  rw [h.parse?_compact, Option.bind_some]

theorem Value.Plain.text? (s : Option String) : (Value.text? s).Plain := by
  cases s with
  | none => exact .null
  | some s => exact .text s

theorem Value.Plain.map {α : Type} {layout : α → Value} (h : ∀ a, (layout a).Plain)
    (as : List α) : (Value.array (as.map layout)).Plain := by
  refine .array ?_
  intro v hv
  obtain ⟨a, -, rfl⟩ := List.mem_map.1 hv
  exact h a

theorem Value.Plain.entries {α : Type} {layout : α → Value} (h : ∀ a, (layout a).Plain)
    (entries : List (String × α)) :
    (Value.record (entries.map fun entry => (entry.1, layout entry.2))).Plain := by
  refine .record ?_
  intro e he
  obtain ⟨entry, -, rfl⟩ := List.mem_map.1 he
  exact h entry.2

end Json

/-- **A map is read as it is laid out** when its values are. -/
theorem Json.Value.asMap_record {β : Type} {layout : β → Value} {read : Value → Option β}
    (h : ∀ b, read (layout b) = some b) (map : StringMap β) :
    (Value.record (map.entries.map fun entry => (entry.1, layout entry.2))).asMap read =
      some map := by
  let readEntry (entry : Option String × Value) : Option (String × β) := do
    let e ← textKey entry
    return (e.1, ← read e.2)
  have hentry (entry : String × β) : readEntry (some entry.1, layout entry.2) = some entry := by
    simp [readEntry, textKey, h]
  have hentries := mapM_map_eq_some hentry map.entries
  rw [Value.record, List.map_map, Value.asMap]
  change ((map.entries.map fun entry => (some entry.1, layout entry.2)).mapM readEntry).bind _ = _
  rw [hentries]
  exact congrArg some (StringMap.ofList_entries map)

end SpaceMigration
