import SpaceMigration.Proofs.EnabledFamilies
import SpaceMigration.Proofs.SavedDocuments

/-!
# The converters of the extensions do not fail

A converter may fail, and then its document is not migrated. The converters of the extensions make
no use of that: each of them maps the parameters and the body of every occurrence. So a registry of
extensions, whichever they are, converts every macro of every document, and a run with it saves a
document for each one that a space lists.

## Main definitions

* `Converter.Total`, `Registry.Total` — no conversion fails

## Main results

* `Registry.total_ofExtensions` — a registry of extensions is total
* `Export.exists_migrated` — with a total registry, each listed document is migrated
-/

namespace SpaceMigration

/-! ### Total converters -/

/-- The converter makes a replacement of every occurrence. -/
def Converter.Total (c : Converter) : Prop :=
  ∀ o, ∃ replacement, c.replace o = .ok replacement

/-- The registry converts every occurrence, or leaves it as it is. -/
def Registry.Total (registry : Registry) : Prop :=
  ∀ o, ∃ conversion, registry.convert o = .ok conversion

theorem Converter.total_of_maps {c : Converter} (hparameters : ∀ o, ∃ p, c.mapParameters o = .ok p)
    (hbody : ∀ o, ∃ body, c.mapBody o = .ok body) : c.Total := by
  intro o
  obtain ⟨parameters, hparameters⟩ := hparameters o
  obtain ⟨body, hbody⟩ := hbody o
  exact ⟨⟨c.targetId o, parameters, body⟩, by rw [replace, hparameters, hbody]⟩

theorem Converter.total_taskList (marker : String) : (taskList marker).Total :=
  total_of_maps (fun _ => ⟨_, rfl⟩) fun _ => ⟨_, rfl⟩

theorem Converter.total_code : code.Total :=
  total_of_maps (fun _ => ⟨_, rfl⟩) fun _ => ⟨_, rfl⟩

theorem Converter.total_panel : panel.Total :=
  total_of_maps (fun _ => ⟨_, rfl⟩) fun _ => ⟨_, rfl⟩

theorem Converter.total_rename (table : Renaming) : (rename table).Total :=
  total_of_maps (fun _ => ⟨_, rfl⟩) fun _ => ⟨_, rfl⟩

theorem Converter.total_ofMacro (marker id : String) : (ofMacro marker id).Total := by
  unfold ofMacro
  split
  · exact total_taskList marker
  · split
    · exact total_code
    · split
      · exact total_rename tocRenaming
      · exact total_panel

/-! ### Total registries -/

namespace Registry

theorem total_of_converters {registry : Registry}
    (h : ∀ id c, registry.get? id = some c → c.Total) : registry.Total := by
  intro o
  rw [convert]
  cases hget : registry.get? o.id with
  | none => exact ⟨_, rfl⟩
  | some c =>
    obtain ⟨replacement, hreplace⟩ := h o.id c hget o
    dsimp only
    split
    · exact ⟨.replaced replacement, by rw [hreplace]; rfl⟩
    · exact ⟨.unchanged, rfl⟩

/-- **A registry of extensions converts every macro**, whichever extensions are enabled and whatever
the marker of task lists is. -/
theorem total_ofExtensions (ids : List String) (marker : String) :
    (ofExtensions ids marker).Total := by
  refine total_of_converters ?_
  intro id c hget
  rw [((get?_ofExtensions_iff c).1 hget).2]
  exact Converter.total_ofMacro marker id

variable {registry : Registry}

/-- A registry that is total has no infrastructure errors to stop a run with. -/
theorem Total.not_isInfrastructure (h : registry.Total) (o : Occurrence) (e : MigrationError)
    (he : registry.convert o = .error e) : e.isInfrastructure = false := by
  obtain ⟨conversion, hconvert⟩ := h o
  cases hconvert.symm.trans he

/-- Every block of content has a text in the target. -/
theorem Total.rendered?_ne_none (h : registry.Total) (block : ContentBlock) :
    block.rendered? registry ≠ none := by
  cases block with
  | text content => exact Option.some_ne_none content
  | call o =>
    obtain ⟨conversion, hconvert⟩ := h o
    rw [ContentBlock.rendered?_call, hconvert]
    cases conversion <;> exact Option.some_ne_none _

/-- Every document has a content in the target. -/
theorem Total.exists_rendered (h : registry.Total) (d : SourceDocument) :
    ∃ content, d.rendered? registry = some content := by
  refine Option.ne_none_iff_exists'.1 ?_
  rw [Ne, SourceDocument.rendered?_eq_none_iff]
  rintro ⟨block, -, hblock⟩
  exact h.rendered?_ne_none block hblock

end Registry

/-! ### Migrated documents -/

variable {registry : Registry}

/-- A document that a space lists is migrated, under the child of the target that its identifier
names. -/
theorem ExportSpace.exists_migrated (htotal : registry.Total) {space : ExportSpace}
    {d : SourceDocument} (h : d ∈ space.documents) (target : EntityReference) (spaceKey : String) :
    ∃ document, space.migrated? registry target spaceKey d.id = some document ∧
      document.reference = target.child d.id := by
  have hfound : (space.documents.find? fun other => other.id == d.id).isSome := by
    rw [List.find?_isSome]
    exact ⟨d, h, beq_self_eq_true d.id⟩
  obtain ⟨first, hfirst⟩ := Option.isSome_iff_exists.1 hfound
  obtain ⟨content, hcontent⟩ := htotal.exists_rendered first
  rw [migrated?, hfirst]
  simp [hcontent]

/-- **Each listed document is migrated.** -/
theorem Export.exists_migrated (htotal : registry.Total) {source : Export}
    {spaceKey documentId : String} (h : documentId ∈ source.documentIds spaceKey)
    (target : EntityReference) :
    ∃ space document, source.get? spaceKey = some space ∧
      space.migrated? registry target spaceKey documentId = some document ∧
      document.reference = target.child documentId := by
  rw [documentIds] at h
  cases hspace : source.get? spaceKey with
  | none =>
    rw [hspace] at h
    cases h
  | some space =>
    rw [hspace] at h
    obtain ⟨d, hd, rfl⟩ := List.mem_map.1 h
    obtain ⟨document, hdocument⟩ := ExportSpace.exists_migrated htotal hd target spaceKey
    exact ⟨space, document, rfl, hdocument⟩

end SpaceMigration
