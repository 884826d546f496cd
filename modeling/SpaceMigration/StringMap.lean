/-!
# Maps from strings, in key order

A finite map is the list of its entries in strictly increasing order of their keys. Strings are
compared by code point, which is also the order of their UTF-8 bytes. The order is part of the
type, so a map has one representation: two maps that answer every lookup alike are equal
(`StringMap.ext_get?`).

## API

* `get?`, `contains`, `keys`, `size` read a map.
* `insert` replaces the value of a key that is present; `erase` removes a key; `ofList` inserts from
  left to right, so the last entry of a repeated key wins.
-/

namespace SpaceMigration

/-- A finite map whose entries stand in strictly increasing order of their keys. -/
structure StringMap (β : Type) where
  entries : List (String × β)
  ordered : entries.Pairwise fun a b => a.1 < b.1

namespace StringMap

variable {β : Type}

/-- The value of the first entry with the key. -/
def lookup (key : String) : List (String × β) → Option β
  | [] => none
  | entry :: rest => if entry.1 = key then some entry.2 else lookup key rest

/-- The entry list with the value of a key set. -/
def insertEntry (key : String) (value : β) : List (String × β) → List (String × β)
  | [] => [(key, value)]
  | entry :: rest =>
    if key < entry.1 then (key, value) :: entry :: rest
    else if key = entry.1 then (key, value) :: rest
    else entry :: insertEntry key value rest

theorem mem_insertEntry {key : String} {value : β} {entries : List (String × β)}
    {entry : String × β} (h : entry ∈ insertEntry key value entries) :
    entry = (key, value) ∨ entry ∈ entries := by
  induction entries with
  | nil => simpa [insertEntry] using h
  | cons head rest ih =>
    simp only [insertEntry] at h
    split at h
    · simpa using h
    · split at h
      · rcases List.mem_cons.1 h with h | h
        · exact .inl h
        · exact .inr (List.mem_cons_of_mem _ h)
      · rcases List.mem_cons.1 h with h | h
        · exact .inr (h ▸ List.mem_cons_self ..)
        · exact (ih h).imp id (List.mem_cons_of_mem _)

theorem insertEntry_ordered (key : String) (value : β) {entries : List (String × β)}
    (h : entries.Pairwise fun a b => a.1 < b.1) :
    (insertEntry key value entries).Pairwise fun a b => a.1 < b.1 := by
  induction entries with
  | nil => simp [insertEntry]
  | cons head rest ih =>
    obtain ⟨hhead, hrest⟩ := List.pairwise_cons.1 h
    simp only [insertEntry]
    split
    · next hlt =>
      refine List.pairwise_cons.2 ⟨fun b hb => ?_, h⟩
      rcases List.mem_cons.1 hb with rfl | hb
      · exact hlt
      · exact String.lt_trans hlt (hhead b hb)
    · next hge =>
      split
      · next heq => exact List.pairwise_cons.2 ⟨fun b hb => heq ▸ hhead b hb, hrest⟩
      · next hne =>
        refine List.pairwise_cons.2 ⟨fun b hb => ?_, ih hrest⟩
        rcases mem_insertEntry hb with rfl | hb
        · show head.1 < key
          exact Decidable.byContradiction fun hn => hne (String.le_antisymm hn hge)
        · exact hhead b hb

/-! ### Operations -/

/-- The map without entries. -/
def empty : StringMap β := ⟨[], .nil⟩

instance : Inhabited (StringMap β) := ⟨empty⟩

instance : EmptyCollection (StringMap β) := ⟨empty⟩

/-- The value of a key. -/
def get? (map : StringMap β) (key : String) : Option β :=
  lookup key map.entries

/-- Whether the key has a value. -/
def contains (map : StringMap β) (key : String) : Bool :=
  (map.get? key).isSome

/-- The keys in increasing order. -/
def keys (map : StringMap β) : List String :=
  map.entries.map Prod.fst

/-- The number of keys. -/
def size (map : StringMap β) : Nat :=
  map.entries.length

/-- The map with the value of a key set, whether or not it had one. -/
def insert (map : StringMap β) (key : String) (value : β) : StringMap β :=
  ⟨insertEntry key value map.entries, insertEntry_ordered key value map.ordered⟩

/-- The map without the key. -/
def erase (map : StringMap β) (key : String) : StringMap β :=
  ⟨map.entries.filter fun entry => entry.1 ≠ key, map.ordered.filter _⟩

/-- The map of a list of entries; of a repeated key the last entry wins. -/
def ofList (entries : List (String × β)) : StringMap β :=
  entries.foldl (fun map entry => map.insert entry.1 entry.2) empty

/-! ### Lookups -/

theorem lookup_insertEntry (key : String) (value : β) (k : String) (entries : List (String × β)) :
    lookup k (insertEntry key value entries) =
      if k = key then some value else lookup k entries := by
  induction entries with
  | nil => simp [insertEntry, lookup, eq_comm]
  | cons head rest ih => simp only [insertEntry]; grind [lookup]

theorem lookup_filter_ne (key k : String) (entries : List (String × β)) :
    lookup k (entries.filter fun entry => entry.1 ≠ key) =
      if k = key then none else lookup k entries := by
  induction entries with
  | nil => simp [lookup]
  | cons head rest ih => rw [List.filter_cons]; grind [lookup]

theorem lookup_eq_some_of_mem {entries : List (String × β)}
    (h : entries.Pairwise fun a b => a.1 < b.1) {entry : String × β} (he : entry ∈ entries) :
    lookup entry.1 entries = some entry.2 := by
  induction entries with
  | nil => simp at he
  | cons head rest ih =>
    obtain ⟨hhead, hrest⟩ := List.pairwise_cons.1 h
    rw [lookup]
    rcases List.mem_cons.1 he with rfl | he
    · simp
    · rw [if_neg fun heq : head.1 = entry.1 => String.lt_irrefl _ (heq ▸ hhead entry he)]
      exact ih hrest he

theorem mem_of_lookup_eq_some {entries : List (String × β)} {key : String} {value : β}
    (h : lookup key entries = some value) : (key, value) ∈ entries := by
  induction entries with
  | nil => simp [lookup] at h
  | cons head rest ih =>
    rw [lookup] at h
    split at h
    · next heq => obtain rfl := Option.some.inj h; subst heq; exact List.mem_cons_self ..
    · exact List.mem_cons_of_mem _ (ih h)

@[simp] theorem get?_empty (key : String) : (empty : StringMap β).get? key = none := rfl

theorem get?_insert (map : StringMap β) (key : String) (value : β) (k : String) :
    (map.insert key value).get? k = if k = key then some value else map.get? k :=
  lookup_insertEntry key value k map.entries

theorem get?_erase (map : StringMap β) (key k : String) :
    (map.erase key).get? k = if k = key then none else map.get? k :=
  lookup_filter_ne key k map.entries

/-- An entry is in the map exactly when its key has its value. -/
theorem mem_entries_iff (map : StringMap β) (key : String) (value : β) :
    (key, value) ∈ map.entries ↔ map.get? key = some value :=
  ⟨lookup_eq_some_of_mem map.ordered, mem_of_lookup_eq_some⟩

theorem mem_keys_iff (map : StringMap β) (key : String) :
    key ∈ map.keys ↔ ∃ value, map.get? key = some value := by
  simp only [keys, List.mem_map, Prod.exists, exists_and_right, exists_eq_right, mem_entries_iff]

theorem keys_ordered (map : StringMap β) : map.keys.Pairwise fun a b => a < b := by
  rw [keys, List.pairwise_map]
  exact map.ordered

/-- The keys in front of an entry are smaller than its key, those behind it are greater. -/
theorem lt_of_entries_eq_append {map : StringMap β} {front back : List (String × β)}
    {entry : String × β} (h : map.entries = front ++ entry :: back) :
    (∀ smaller ∈ front, smaller.1 < entry.1) ∧ ∀ greater ∈ back, entry.1 < greater.1 := by
  have hordered := map.ordered
  rw [h, List.pairwise_append, List.pairwise_cons] at hordered
  obtain ⟨-, ⟨hback, -⟩, hfront⟩ := hordered
  exact ⟨fun smaller hsmaller => hfront smaller hsmaller entry (List.mem_cons_self ..), hback⟩

theorem nodup_keys (map : StringMap β) : map.keys.Nodup :=
  map.keys_ordered.imp String.ne_of_lt

/-- Maps with the same lookups have the same entries: a strictly ordered list is fixed by its
members. -/
theorem ext_get? {a b : StringMap β} (h : ∀ key, a.get? key = b.get? key) : a = b := by
  have hmem : ∀ entry, entry ∈ a.entries ↔ entry ∈ b.entries := fun ⟨key, value⟩ => by
    rw [mem_entries_iff, mem_entries_iff, h]
  have hasymm : ∀ x y : String × β, x.1 < y.1 → y.1 < x.1 → x = y := fun x y hxy hyx =>
    absurd hyx (String.lt_asymm hxy)
  have hnodup : ∀ {l : List (String × β)}, (l.Pairwise fun a b => a.1 < b.1) → l.Nodup :=
    fun hl => List.Pairwise.imp (fun hlt => ne_of_apply_ne Prod.fst fun heq =>
      String.lt_irrefl _ (heq ▸ hlt)) hl
  have heq : a.entries = b.entries :=
    ((List.perm_ext_iff_of_nodup (hnodup a.ordered) (hnodup b.ordered)).2 hmem).eq_of_pairwise
      (fun x y _ _ => hasymm x y) a.ordered b.ordered
  cases a; cases b; cases heq; rfl

/-! ### Maps of lists -/

theorem lookup_append (key : String) (front back : List (String × β)) :
    lookup key (front ++ back) = (lookup key front).or (lookup key back) := by
  induction front with
  | nil => rfl
  | cons entry rest ih =>
    rw [List.cons_append, lookup, lookup, ih]
    split <;> rfl

theorem get?_foldl_insert (entries : List (String × β)) (map : StringMap β) (key : String) :
    (entries.foldl (fun map entry => map.insert entry.1 entry.2) map).get? key =
      (lookup key entries.reverse).or (map.get? key) := by
  induction entries generalizing map with
  | nil => rfl
  | cons entry rest ih =>
    rw [List.foldl_cons, ih, get?_insert, List.reverse_cons, lookup_append, lookup, lookup,
      Option.or_assoc]
    simp only [eq_comm]
    split <;> rfl

/-- The last entry of a key wins. -/
theorem get?_ofList (entries : List (String × β)) (key : String) :
    (ofList entries).get? key = lookup key entries.reverse := by
  rw [ofList, get?_foldl_insert, get?_empty, Option.or_none]

/-- A lookup finds the first entry with its key. -/
theorem lookup_eq_some_iff {entries : List (String × β)} {key : String} {value : β} :
    lookup key entries = some value ↔
      ∃ before after, entries = before ++ (key, value) :: after ∧ key ∉ before.map Prod.fst := by
  constructor
  · intro h
    induction entries with
    | nil => cases h
    | cons entry rest ih =>
      rw [lookup] at h
      split at h
      · next hkey =>
        obtain rfl := Option.some.inj h
        exact ⟨[], rest, by rw [← hkey, List.nil_append], List.not_mem_nil⟩
      · next hkey =>
        obtain ⟨before, after, rfl, hbefore⟩ := ih h
        refine ⟨entry :: before, after, rfl, ?_⟩
        rw [List.map_cons, List.mem_cons, not_or]
        exact ⟨fun heq => hkey heq.symm, hbefore⟩
  · rintro ⟨before, after, rfl, hbefore⟩
    induction before with
    | nil => exact if_pos rfl
    | cons entry rest ih =>
      rw [List.map_cons, List.mem_cons, not_or] at hbefore
      rw [List.cons_append, lookup, if_neg fun heq => hbefore.1 heq.symm, ih hbefore.2]

/-- What a list of entries binds to a key stands in the last entry with the key. -/
theorem get?_ofList_eq_some_iff_last {entries : List (String × β)} {key : String} {value : β} :
    (ofList entries).get? key = some value ↔
      ∃ before after, entries = before ++ (key, value) :: after ∧ key ∉ after.map Prod.fst := by
  rw [get?_ofList, lookup_eq_some_iff]
  constructor
  · rintro ⟨before, after, hsplit, hbefore⟩
    refine ⟨after.reverse, before.reverse, ?_, by simpa using hbefore⟩
    rw [← List.reverse_reverse entries, hsplit]
    simp
  · rintro ⟨before, after, rfl, hafter⟩
    exact ⟨after.reverse, before.reverse, by simp, by simpa using hafter⟩

/-- What a list of entries binds to a key is one of its entries. -/
theorem mem_of_get?_ofList {entries : List (String × β)} {key : String} {value : β}
    (h : (ofList entries).get? key = some value) : (key, value) ∈ entries := by
  rw [get?_ofList] at h
  exact List.mem_reverse.1 (mem_of_lookup_eq_some h)

theorem keys_ofList_subset (entries : List (String × β)) :
    (ofList entries).keys ⊆ entries.map Prod.fst := by
  intro key hkey
  obtain ⟨value, hvalue⟩ := (mem_keys_iff ..).1 hkey
  exact List.mem_map_of_mem (mem_of_get?_ofList hvalue)

theorem exists_lookup_of_mem {entries : List (String × β)} {entry : String × β}
    (h : entry ∈ entries) : ∃ value, lookup entry.1 entries = some value := by
  induction entries with
  | nil => cases h
  | cons head rest ih =>
    rw [lookup]
    split
    · exact ⟨_, rfl⟩
    · next hne =>
      rcases List.mem_cons.1 h with rfl | h
      · exact absurd rfl hne
      · exact ih h

theorem lookup_eq_none_iff {entries : List (String × β)} {key : String} :
    lookup key entries = none ↔ key ∉ entries.map Prod.fst := by
  constructor
  · intro h hkey
    obtain ⟨entry, hentry, rfl⟩ := List.mem_map.1 hkey
    obtain ⟨value, hvalue⟩ := exists_lookup_of_mem hentry
    rw [hvalue] at h
    cases h
  · intro h
    refine Option.eq_none_iff_forall_ne_some.2 fun value hvalue => h ?_
    exact List.mem_map_of_mem (mem_of_lookup_eq_some hvalue)

/-- The keys of the map of a list are those of the list. -/
theorem mem_keys_ofList_iff (entries : List (String × β)) (key : String) :
    key ∈ (ofList entries).keys ↔ key ∈ entries.map Prod.fst := by
  refine ⟨fun h => keys_ofList_subset entries h, ?_⟩
  intro h
  obtain ⟨entry, hentry, rfl⟩ := List.mem_map.1 h
  rw [mem_keys_iff, get?_ofList]
  exact exists_lookup_of_mem (List.mem_reverse.2 hentry)

/-- Where each key has one value, the entries of a list are those of its map. -/
theorem get?_ofList_eq_some_iff {entries : List (String × β)}
    (h : ∀ {key v w}, (key, v) ∈ entries → (key, w) ∈ entries → v = w) (key : String) (value : β) :
    (ofList entries).get? key = some value ↔ (key, value) ∈ entries := by
  constructor
  · exact mem_of_get?_ofList
  · intro hmem
    obtain ⟨other, hother⟩ := exists_lookup_of_mem (List.mem_reverse.2 hmem)
    rw [← get?_ofList] at hother
    rw [hother, h hmem (mem_of_get?_ofList hother)]

theorem ofList_entries (map : StringMap β) : ofList map.entries = map := by
  have hunique : ∀ {key v w}, (key, v) ∈ map.entries → (key, w) ∈ map.entries → v = w := by
    intro key v w hv hw
    rw [mem_entries_iff] at hv hw
    exact Option.some.inj (hv.symm.trans hw)
  refine ext_get? fun key => Option.ext fun value => ?_
  rw [get?_ofList_eq_some_iff hunique, mem_entries_iff]

end StringMap

end SpaceMigration
