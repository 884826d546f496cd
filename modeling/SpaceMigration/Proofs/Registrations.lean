import Mathlib.Data.List.Induction
import SpaceMigration.Distinct
import SpaceMigration.Macro.Families

/-!
# The last registration counts

Every registry is made by registering converters one after another, so what it does is a matter of
the list of those registrations. Of the converters that were registered for an identifier the last
one counts (`Registry.LastFor`), and what was registered for other identifiers does not.

What a single converter makes of an occurrence is said case by case (`Converter.Converts`): it may
decline, and it is asked for the parameters before it is asked for the body.

## Main definitions

* `Registry.registered` — the registry of a list of registrations
* `Registry.LastFor` — the converter that was registered last for an identifier
* `Converter.Converts` — the result of offering an occurrence to a converter

## Main results

* `Registry.get?_registered_iff` — the converters of a registry
* `Registry.last_registration_counts` — what a registry reports, lists and converts
-/

namespace SpaceMigration

/-- What comes of offering an occurrence to a converter. -/
inductive Converter.Converts (c : Converter) (o : Occurrence) :
    Except MigrationError Conversion → Prop where
  | declined (haccepts : c.accepts o = false) : Converts c o (.ok .unchanged)
  | parametersFail {e : MigrationError} (haccepts : c.accepts o = true)
      (hparameters : c.mapParameters o = .error e) : Converts c o (.error e)
  | bodyFails {parameters : Parameters} {e : MigrationError} (haccepts : c.accepts o = true)
      (hparameters : c.mapParameters o = .ok parameters) (hbody : c.mapBody o = .error e) :
      Converts c o (.error e)
  | replaced {parameters : Parameters} {body : String} (haccepts : c.accepts o = true)
      (hparameters : c.mapParameters o = .ok parameters) (hbody : c.mapBody o = .ok body) :
      Converts c o (.ok (.replaced ⟨c.targetId o, parameters, body⟩))

namespace Registry

/-- The registry in which converters were registered one after another. -/
def registered (calls : List (String × Converter)) : Registry :=
  calls.foldl (fun registry call => (registry.register call.1 call.2).2) .empty

/-- The registry of extensions is the one in which their converters were registered. -/
example (ids : List String) (marker : String) :
    ofExtensions ids marker = registered (ids.flatMap fun id =>
      ((Extension.ofId? id).map (·.converters marker)).getD []) :=
  rfl

/-- The converter was registered for the identifier, and no other one was after it. -/
def LastFor (calls : List (String × Converter)) (id : String) (c : Converter) : Prop :=
  ∃ before after, calls = before ++ (id, c) :: after ∧ id ∉ after.map Prod.fst

variable {calls : List (String × Converter)} {id : String}

/-- One more registration decides for its own identifier and leaves the others as they are. -/
theorem get?_registered_append_singleton (calls : List (String × Converter))
    (last : String × Converter) (id : String) :
    (registered (calls ++ [last])).get? id =
      if id = last.1 then some last.2 else (registered calls).get? id := by
  rw [registered, List.foldl_append]
  exact StringMap.get?_insert _ _ _ _

/-- **The converters of a registry** are those that were registered last. -/
theorem get?_registered_iff {c : Converter} :
    (registered calls).get? id = some c ↔ LastFor calls id c :=
  StringMap.get?_ofList_eq_some_iff_last

/-- The identifiers of a registry are those that something was registered for. -/
theorem mem_keys_registered_iff : id ∈ (registered calls).keys ↔ id ∈ calls.map Prod.fst :=
  StringMap.mem_keys_ofList_iff calls id

theorem isSome_get?_registered_iff :
    ((registered calls).get? id).isSome = true ↔ id ∈ calls.map Prod.fst := by
  rw [Option.isSome_iff_exists, ← StringMap.mem_keys_iff, mem_keys_registered_iff]

/-- There are as many identifiers in a registry as were registered, without repeats. -/
theorem size_registered (calls : List (String × Converter)) :
    (registered calls).size = (calls.map Prod.fst).eraseDups.length := by
  have hperm : (registered calls).keys.Perm (calls.map Prod.fst).eraseDups :=
    perm_eraseDups (StringMap.nodup_keys _) fun _ => mem_keys_registered_iff
  rw [← hperm.length_eq, StringMap.keys, List.length_map, StringMap.size]

/-! ### Conversions -/

theorem convert_of_get?_eq_none {registry : Registry} {o : Occurrence}
    (h : registry.get? o.id = none) : registry.convert o = .ok .unchanged := by
  rw [convert, h]

/-- An occurrence is offered to the converter that is bound to its identifier. -/
theorem converts_of_get? {registry : Registry} {o : Occurrence} {c : Converter}
    (h : registry.get? o.id = some c) : c.Converts o (registry.convert o) := by
  rw [convert, h]
  simp only
  cases haccepts : c.accepts o with
  | false =>
    rw [if_neg Bool.false_ne_true]
    exact .declined haccepts
  | true =>
    rw [if_pos rfl, Converter.replace]
    cases hparameters : c.mapParameters o with
    | error e => exact .parametersFail haccepts hparameters
    | ok parameters =>
      cases hbody : c.mapBody o with
      | error e => exact .bodyFails haccepts hparameters hbody
      | ok body => exact .replaced haccepts hparameters hbody

/-- Of all registrations only those for the identifier of the occurrence matter. -/
theorem convert_registered_filter (calls : List (String × Converter)) (o : Occurrence) :
    (registered (calls.filter fun call => call.1 = o.id)).convert o =
      (registered calls).convert o := by
  have hlookup : (registered (calls.filter fun call => call.1 = o.id)).get? o.id =
      (registered calls).get? o.id := by
    induction calls using List.reverseRecOn with
    | nil => rfl
    | append_singleton calls last ih =>
      rw [get?_registered_append_singleton, List.filter_append]
      by_cases hid : last.1 = o.id
      · rw [List.filter_cons_of_pos (by simpa using hid), List.filter_nil,
          get?_registered_append_singleton, if_pos hid.symm, if_pos hid.symm]
      · rw [List.filter_cons_of_neg (by simpa using hid), List.filter_nil, List.append_nil, ih,
          if_neg (Ne.symm hid)]
  rw [convert, convert, hlookup]

/-- **The last registration counts.** After converters were registered in any order and any number
of times, a registration reports that it replaces a converter exactly if its identifier was
registered before, and then it is the last one registered for it; the registry has as many
identifiers as were registered, without repeats, and lists them in strictly increasing order. An
occurrence is left unchanged if nothing was registered for exactly its identifier, and otherwise its
result is that of the converter registered last; registrations for other identifiers make no
difference. -/
theorem last_registration_counts (calls : List (String × Converter)) (id : String) (c : Converter)
    (o : Occurrence) :
    let registry := registered calls
    ((registry.register id c).1.isSome = true ↔ id ∈ calls.map Prod.fst) ∧
    (∀ previous, (registry.register id c).1 = some previous ↔ LastFor calls id previous) ∧
    registry.size = (calls.map Prod.fst).eraseDups.length ∧
    (registry.keys.Pairwise fun a b => a < b) ∧
    (∀ id, id ∈ registry.keys ↔ id ∈ calls.map Prod.fst) ∧
    (o.id ∉ calls.map Prod.fst → registry.convert o = .ok .unchanged) ∧
    (∀ last, LastFor calls o.id last → last.Converts o (registry.convert o)) ∧
    (registered (calls.filter fun call => call.1 = o.id)).convert o = registry.convert o := by
  intro registry
  refine ⟨isSome_get?_registered_iff, fun _ => get?_registered_iff, size_registered calls,
    StringMap.keys_ordered registry, fun _ => mem_keys_registered_iff, ?_, ?_,
    convert_registered_filter calls o⟩
  · intro hnever
    refine convert_of_get?_eq_none (Option.not_isSome_iff_eq_none.1 ?_)
    rwa [isSome_get?_registered_iff]
  · intro last hlast
    exact converts_of_get? (get?_registered_iff.2 hlast)

end Registry

end SpaceMigration
