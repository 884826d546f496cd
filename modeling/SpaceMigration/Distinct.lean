/-!
# Keeping first occurrences

`distinctBy key xs` keeps the first element of each key, in order. It is what a list of labels or of
selected spaces means when some are repeated.
-/

namespace SpaceMigration

variable {α β : Type} [DecidableEq β]

/-- The list with an element appended, unless its key is there already. -/
def appendNew (key : α → β) (xs : List α) (x : α) : List α :=
  if key x ∈ xs.map key then xs else xs ++ [x]

/-- The first element of each key, in order. -/
def distinctBy (key : α → β) (xs : List α) : List α :=
  xs.foldl (appendNew key) []

theorem nodup_appendNew (key : α → β) {xs : List α} (h : (xs.map key).Nodup) (x : α) :
    ((appendNew key xs x).map key).Nodup := by
  unfold appendNew
  split
  · exact h
  · next hx =>
    rw [List.map_append, List.nodup_append]
    refine ⟨h, by simp, fun a ha b hb => ?_⟩
    obtain rfl := List.mem_singleton.1 hb
    exact fun heq => hx (heq ▸ ha)

theorem nodup_foldl_appendNew (key : α → β) (xs : List α) {kept : List α}
    (h : (kept.map key).Nodup) : ((xs.foldl (appendNew key) kept).map key).Nodup := by
  induction xs generalizing kept with
  | nil => exact h
  | cons x rest ih => exact ih (nodup_appendNew key h x)

theorem nodup_distinctBy (key : α → β) (xs : List α) : ((distinctBy key xs).map key).Nodup :=
  nodup_foldl_appendNew key xs .nil

theorem map_foldl_appendNew (key : α → β) (xs kept : List α) :
    (xs.foldl (appendNew key) kept).map key = (xs.map key).foldl (appendNew id) (kept.map key) := by
  have hstep (kept : List α) (x : α) :
      (appendNew key kept x).map key = appendNew id (kept.map key) (key x) := by
    simp only [appendNew, List.map_id, id]
    split
    · rfl
    · rw [List.map_append, List.map_cons, List.map_nil]
  induction xs generalizing kept with
  | nil => rfl
  | cons x rest ih => rw [List.foldl_cons, ih, List.map_cons, List.foldl_cons, hstep]

theorem distinctBy_append_singleton (key : α → β) (xs : List α) (x : α) :
    distinctBy key (xs ++ [x]) = appendNew key (distinctBy key xs) x := by
  rw [distinctBy, List.foldl_append]
  rfl

/-- The kept element of a key is the first one. -/
theorem find?_distinctBy (key : α → β) (xs : List α) (k : β) :
    (distinctBy key xs).find? (fun x => key x = k) = xs.find? fun x => key x = k := by
  have hfoldl (kept : List α) : (xs.foldl (appendNew key) kept).find? (fun x => key x = k) =
      (kept ++ xs).find? fun x => key x = k := by
    induction xs generalizing kept with
    | nil => rw [List.foldl_nil, List.append_nil]
    | cons x rest ih =>
      rw [List.foldl_cons, ih, appendNew]
      split
      · next hold =>
        -- If `x` has the key, then so has an element that is kept in front of it.
        obtain ⟨y, hy, hkey⟩ := List.mem_map.1 hold
        by_cases hx : key x = k
        · have hsome : (kept.find? fun x => key x = k).isSome := by
            rw [List.find?_isSome]
            exact ⟨y, hy, by simpa using hkey.trans hx⟩
          obtain ⟨z, hz⟩ := Option.isSome_iff_exists.1 hsome
          rw [List.find?_append, List.find?_append, hz, Option.some_or, Option.some_or]
        · rw [List.find?_append, List.find?_append, List.find?_cons_of_neg (by simpa using hx)]
      · rw [List.append_assoc, List.singleton_append]
  exact hfoldl []

/-- Elements of different keys are all kept. -/
theorem distinctBy_of_nodup (key : α → β) {xs : List α} (h : (xs.map key).Nodup) :
    distinctBy key xs = xs := by
  have hfoldl (kept : List α) (hkept : ((kept ++ xs).map key).Nodup) :
      xs.foldl (appendNew key) kept = kept ++ xs := by
    clear h
    induction xs generalizing kept with
    | nil => rw [List.foldl_nil, List.append_nil]
    | cons x rest ih =>
      have hnew : key x ∉ kept.map key := by
        rw [List.map_append, List.map_cons] at hkept
        intro hold
        exact (List.nodup_append.1 hkept).2.2 (key x) hold (key x) (List.mem_cons_self ..) rfl
      rw [List.foldl_cons, appendNew, if_neg hnew, ih, List.append_assoc, List.singleton_append]
      rwa [List.append_assoc, List.singleton_append]
  exact hfoldl [] h

/-! ### Without keys

The distinct elements of a list are its first occurrences, as the library has them. -/

theorem foldl_appendNew_id {α : Type} [DecidableEq α] (xs kept : List α) :
    xs.foldl (appendNew id) kept = kept ++ (xs.filter fun x => x ∉ kept).eraseDups := by
  induction xs generalizing kept with
  | nil => simp
  | cons x rest ih =>
    have hstep : appendNew id kept x = if x ∈ kept then kept else kept ++ [x] := by
      simp [appendNew]
    rw [List.foldl_cons, ih, hstep]
    by_cases hx : x ∈ kept
    · rw [if_pos hx, List.filter_cons_of_neg (by simpa using hx)]
    · have hfilter : (rest.filter fun y => y ∉ kept ++ [x]) =
          (rest.filter fun y => y ∉ kept).filter fun y => !y == x := by
        rw [List.filter_filter]
        refine List.filter_congr ?_
        intro y _
        by_cases hy : y = x <;> simp [hy]
      rw [if_neg hx, List.filter_cons_of_pos (by simpa using hx), List.eraseDups_cons, hfilter,
        List.append_assoc, List.singleton_append]

/-- Keeping the first occurrence of each element drops repeats. -/
theorem distinctBy_id_eq_eraseDups {α : Type} [DecidableEq α] (xs : List α) :
    distinctBy id xs = xs.eraseDups := by
  rw [distinctBy, foldl_appendNew_id, List.nil_append, List.filter_eq_self.2 (by simp)]

/-- The keys of the elements that are kept are the distinct keys. -/
theorem map_distinctBy (key : α → β) (xs : List α) :
    (distinctBy key xs).map key = (xs.map key).eraseDups := by
  rw [distinctBy, map_foldl_appendNew, ← distinctBy_id_eq_eraseDups]
  rfl

theorem nodup_eraseDups {α : Type} [DecidableEq α] (xs : List α) : xs.eraseDups.Nodup := by
  rw [← distinctBy_id_eq_eraseDups]
  simpa using nodup_distinctBy id xs

/-- A list without repeats is, up to order, the list of distinct elements of any list with the same
elements. -/
theorem perm_eraseDups {α : Type} [DecidableEq α] {xs ys : List α} (h : xs.Nodup)
    (hmem : ∀ x, x ∈ xs ↔ x ∈ ys) : xs.Perm ys.eraseDups :=
  (List.perm_ext_iff_of_nodup h (nodup_eraseDups ys)).2 fun x =>
    (hmem x).trans List.mem_eraseDups.symm

/-- A list without repeats is left as it is. -/
theorem eraseDups_of_nodup {α : Type} [DecidableEq α] {xs : List α} (h : xs.Nodup) :
    xs.eraseDups = xs := by
  rw [← distinctBy_id_eq_eraseDups, distinctBy_of_nodup id (by simpa using h)]

end SpaceMigration
