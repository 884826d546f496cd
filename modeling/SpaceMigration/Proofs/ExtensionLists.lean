import Mathlib.Data.List.Forall2
import SpaceMigration.Config
import SpaceMigration.Proofs.Words

/-!
# Lists of extension identifiers

A list of extension identifiers is written with commas between the items. White space around an item
does not belong to it, and a segment of nothing but white space is no item at all, so the same list
can be written in many ways (`Written`). All of them are read as the list, and nothing else is: the
segments of a text write exactly the list that is read from it
(`Config.parseExtensionIds_eq_ok_iff`).

A text is refused if it writes the list without items, which is the case exactly if all its segments
are blank.

## Main definitions

* `IsExtensionId` — what an item can be
* `Written` — the segments that write a list

## Main results

* `Config.parseExtensionIds_eq_ok_iff`, `Config.parseExtensionIds_eq_error_iff` — what is read from
  a text
* `Config.parseExtensionIds_reads_written` — the two directions of the format
-/

namespace SpaceMigration

/-! ### Segments of a text -/

namespace Text

theorem segments_eq_splitOn (separator : Char) (text : List Char) :
    segments separator text = text.splitOn separator := by
  rw [List.splitOn_eq_splitOnP]
  induction text with
  | nil => rfl
  | cons c rest ih =>
    obtain ⟨segment, more, hsplit⟩ :=
      List.exists_cons_of_ne_nil (List.splitOnP_ne_nil (· == separator) rest)
    rw [segments, List.splitOnP_cons_eq_if_modifyHead, ih, hsplit]
    simp

theorem notMem_of_mem_segments {separator : Char} {text segment : List Char}
    (h : segment ∈ segments separator text) : separator ∉ segment := by
  fun_induction segments separator text generalizing segment with
  | case1 => simp_all
  | case2 rest ih =>
    obtain rfl | h := List.mem_cons.1 h
    · exact List.not_mem_nil
    · exact ih h
  | case3 c rest hc hnone => exact absurd hnone (segments_ne_nil separator rest)
  | case4 c rest hc first more hsplit ih =>
    rw [hsplit] at ih
    obtain rfl | h := List.mem_cons.1 h
    · rw [List.mem_cons, not_or]
      exact ⟨Ne.symm hc, ih List.mem_cons_self⟩
    · exact ih (List.mem_cons_of_mem _ h)

theorem comma_notMem_of_isBlank {text : List Char} (h : isBlank text = true) : ',' ∉ text := by
  intro hcomma
  have hwhite := List.all_eq_true.1 h _ hcomma
  simp [isWhiteSpace] at hwhite

end Text

/-! ### Written lists -/

/-- What an item of a list can be: it is not empty, has no comma, and no white space at its ends. -/
structure IsExtensionId (id : String) : Prop where
  ne_empty : id ≠ ""
  noComma : ',' ∉ id.toList
  head : ∀ c, id.toList.head? = some c → Text.isWhiteSpace c = false
  last : ∀ c, id.toList.getLast? = some c → Text.isWhiteSpace c = false

/-- The segments write the list: each item stands in a segment of its own between white space, and
there may be blank segments everywhere. -/
inductive Written : List (List Char) → List String → Prop
  | nil : Written [] []
  | blank {segment : List Char} {segments : List (List Char)} {ids : List String}
      (h : Text.isBlank segment = true) (hrest : Written segments ids) :
      Written (segment :: segments) ids
  | item {before after : List Char} {id : String} {segments : List (List Char)} {ids : List String}
      (hbefore : Text.isBlank before = true) (hafter : Text.isBlank after = true)
      (hrest : Written segments ids) :
      Written ((before ++ (id.toList ++ after)) :: segments) (id :: ids)

theorem IsExtensionId.trimmed {id : String} (h : IsExtensionId id) {before after : List Char}
    (hbefore : Text.isBlank before = true) (hafter : Text.isBlank after = true) :
    Text.Trimmed (before ++ (id.toList ++ after)) id.toList :=
  ⟨⟨before, after, hbefore, hafter, rfl⟩, h.head, h.last⟩

/-- A segment with an item in it is not blank. -/
theorem IsExtensionId.not_isBlank {id : String} (h : IsExtensionId id) {before after : List Char}
    (hbefore : Text.isBlank before = true) (hafter : Text.isBlank after = true) :
    ¬ Text.isBlank (before ++ (id.toList ++ after)) = true := by
  rw [← Text.trim_eq_nil_iff, ← (h.trimmed hbefore hafter).eq_trim]
  simpa using h.ne_empty

namespace Written

variable {segments : List (List Char)} {ids : List String}

/-- Items without white space write a list. -/
theorem of_items (ids : List String) : Written (ids.map String.toList) ids := by
  induction ids with
  | nil => exact .nil
  | cons id ids ih =>
    have hitem : Written (([] ++ (id.toList ++ [])) :: ids.map String.toList) (id :: ids) :=
      .item rfl rfl ih
    rwa [List.nil_append, List.append_nil] at hitem

theorem ne_nil (h : Written segments ids) (hids : ids ≠ []) : segments ≠ [] := by
  cases h with
  | nil => exact absurd rfl hids
  | blank => exact List.cons_ne_nil _ _
  | item => exact List.cons_ne_nil _ _

/-- Segments that write items have no commas. -/
theorem noComma (h : Written segments ids) (hids : ∀ id ∈ ids, IsExtensionId id) :
    ∀ segment ∈ segments, ',' ∉ segment := by
  induction h with
  | nil => simp
  | blank h _ ih => exact List.forall_mem_cons.2 ⟨Text.comma_notMem_of_isBlank h, ih hids⟩
  | item hbefore hafter _ ih =>
    obtain ⟨hid, hrest⟩ := List.forall_mem_cons.1 hids
    refine List.forall_mem_cons.2 ⟨?_, ih hrest⟩
    simp [Text.comma_notMem_of_isBlank hbefore, Text.comma_notMem_of_isBlank hafter, hid.noComma]

/-- What segments write are their cores, blank segments left out. -/
theorem forall₂_trimmed (h : Written segments ids) (hids : ∀ id ∈ ids, IsExtensionId id) :
    List.Forall₂ (fun segment id => Text.Trimmed segment id.toList)
      (segments.filter fun segment => !Text.isBlank segment) ids := by
  induction h with
  | nil => exact .nil
  | blank h _ ih =>
    rw [List.filter_cons_of_neg (by simp [h])]
    exact ih hids
  | @item before after id segments ids hbefore hafter _ ih =>
    obtain ⟨hid, hrest⟩ := List.forall_mem_cons.1 hids
    rw [List.filter_cons_of_pos (by simpa using hid.not_isBlank hbefore hafter)]
    exact .cons (hid.trimmed hbefore hafter) (ih hrest)

end Written

/-! ### Reading a list -/

namespace Config

/-- The items that are read from segments. -/
def idsOf (segments : List (List Char)) : List String :=
  ((segments.map Text.trim).filter fun segment => !segment.isEmpty).map String.ofList

theorem splitExtensionIds_eq (raw : String) :
    splitExtensionIds raw = idsOf (raw.toList.splitOn ',') := by
  rw [← Text.segments_eq_splitOn]
  rfl

theorem idsOf_cons (segment : List Char) (segments : List (List Char)) :
    idsOf (segment :: segments) =
      if Text.isBlank segment then idsOf segments
      else String.ofList (Text.trim segment) :: idsOf segments := by
  have hempty : (Text.trim segment).isEmpty = Text.isBlank segment := by
    rw [Bool.eq_iff_iff, List.isEmpty_iff, Text.trim_eq_nil_iff]
  rw [idsOf, List.map_cons, List.filter_cons, hempty]
  cases Text.isBlank segment <;> rfl

/-- Segments write what is read from them. -/
theorem written_idsOf (segments : List (List Char)) : Written segments (idsOf segments) := by
  induction segments with
  | nil => exact .nil
  | cons segment segments ih =>
    rw [idsOf_cons]
    split
    · next hblank => exact .blank hblank ih
    · obtain ⟨before, after, hbefore, hafter, hsegment⟩ := (Text.trimmed_trim segment).split
      have hitem : Written ((before ++ ((String.ofList (Text.trim segment)).toList ++ after)) ::
          segments) (String.ofList (Text.trim segment) :: idsOf segments) :=
        .item hbefore hafter ih
      rwa [String.toList_ofList, ← hsegment] at hitem

/-- What is read from segments without commas are items. -/
theorem isExtensionId_of_mem_idsOf {segments : List (List Char)}
    (hsegments : ∀ segment ∈ segments, ',' ∉ segment) :
    ∀ id ∈ idsOf segments, IsExtensionId id := by
  induction segments with
  | nil => simp [idsOf]
  | cons segment segments ih =>
    obtain ⟨hsegment, hrest⟩ := List.forall_mem_cons.1 hsegments
    rw [idsOf_cons]
    split
    · exact ih hrest
    · next hsolid =>
      obtain ⟨⟨before, after, -, -, hsplit⟩, hhead, hlast⟩ := Text.trimmed_trim segment
      refine List.forall_mem_cons.2 ⟨⟨?_, ?_, ?_, ?_⟩, ih hrest⟩
      · rw [Ne, ← String.toList_inj, String.toList_ofList]
        exact fun hnil => hsolid ((Text.trim_eq_nil_iff segment).1 hnil)
      · rw [String.toList_ofList]
        intro hcomma
        rw [hsplit] at hsegment
        exact hsegment (List.mem_append_right _ (List.mem_append_left _ hcomma))
      · rwa [String.toList_ofList]
      · rwa [String.toList_ofList]

/-- The list that segments write is the one that is read from them. -/
theorem idsOf_of_written {segments : List (List Char)} {ids : List String}
    (h : Written segments ids) (hids : ∀ id ∈ ids, IsExtensionId id) : idsOf segments = ids := by
  induction h with
  | nil => rfl
  | blank h _ ih => rw [idsOf_cons, if_pos h, ih hids]
  | @item before after id segments ids hbefore hafter _ ih =>
    obtain ⟨hid, hrest⟩ := List.forall_mem_cons.1 hids
    rw [idsOf_cons, if_neg (hid.not_isBlank hbefore hafter),
      ← (hid.trimmed hbefore hafter).eq_trim, String.ofList_toList, ih hrest]

theorem idsOf_eq_nil_iff (segments : List (List Char)) :
    idsOf segments = [] ↔ ∀ segment ∈ segments, Text.isBlank segment = true := by
  induction segments with
  | nil => simp [idsOf]
  | cons segment segments ih =>
    rw [idsOf_cons, List.forall_mem_cons]
    split
    · next hblank => rw [ih, and_iff_right hblank]
    · next hsolid => simp [hsolid]

theorem parseExtensionIds_eq (raw : String) :
    parseExtensionIds raw = if idsOf (raw.toList.splitOn ',') = [] then
      .error ⟨.config, "migration.extension_ids is empty"⟩
    else .ok (idsOf (raw.toList.splitOn ',')) := by
  simp only [parseExtensionIds, splitExtensionIds_eq, List.isEmpty_iff]

/-- A text is refused exactly if all its segments are blank. -/
theorem parseExtensionIds_eq_error_iff (raw : String) (e : MigrationError) :
    parseExtensionIds raw = .error e ↔
      e = ⟨.config, "migration.extension_ids is empty"⟩ ∧
        ∀ segment ∈ raw.toList.splitOn ',', Text.isBlank segment = true := by
  rw [parseExtensionIds_eq, ← idsOf_eq_nil_iff]
  split
  · next hnone => simp [hnone, eq_comm]
  · next hsome => simp [hsome]

/-- What is read from a text is the list that its segments write. -/
theorem parseExtensionIds_eq_ok_iff (raw : String) (ids : List String) :
    parseExtensionIds raw = .ok ids ↔
      ids ≠ [] ∧ (∀ id ∈ ids, IsExtensionId id) ∧ Written (raw.toList.splitOn ',') ids := by
  have hitems : ∀ id ∈ idsOf (raw.toList.splitOn ','), IsExtensionId id := by
    refine isExtensionId_of_mem_idsOf ?_
    rw [← Text.segments_eq_splitOn]
    exact fun segment => Text.notMem_of_mem_segments
  rw [parseExtensionIds_eq]
  constructor
  · split
    · rintro ⟨⟩
    · rintro ⟨⟩
      exact ⟨‹_›, hitems, written_idsOf _⟩
  · rintro ⟨hne, hids, hwritten⟩
    rw [idsOf_of_written hwritten hids, if_neg hne]

/-- A list is read from every text that writes it. -/
theorem parseExtensionIds_of_written {segments : List (List Char)} {ids : List String}
    (hne : ids ≠ []) (hids : ∀ id ∈ ids, IsExtensionId id) (h : Written segments ids) :
    parseExtensionIds (String.ofList ([','].intercalate segments)) = .ok ids := by
  rw [parseExtensionIds_eq_ok_iff, String.toList_ofList,
    List.splitOn_intercalate ',' (h.noComma hids) (h.ne_nil hne)]
  exact ⟨hne, hids, h⟩

/-- **Lists of extensions are read as they are written.** A text is refused exactly if all its
segments are blank. From any other the cores of the segments that are not blank are read, in order,
and these are items. A list of items is read from every text that writes it, and the list that was
read from a text is read again when it is written with nothing but commas. -/
theorem parseExtensionIds_reads_written :
    (∀ raw : String,
      ((∃ e, parseExtensionIds raw = .error e) ↔
        ∀ segment ∈ raw.toList.splitOn ',', Text.isBlank segment = true) ∧
      (∀ e, parseExtensionIds raw = .error e →
        e = ⟨.config, "migration.extension_ids is empty"⟩) ∧
      ((∃ segment ∈ raw.toList.splitOn ',', Text.isBlank segment = false) →
        ∃ ids, parseExtensionIds raw = .ok ids ∧
          List.Forall₂ (fun segment id => Text.Trimmed segment id.toList)
            ((raw.toList.splitOn ',').filter fun segment => !Text.isBlank segment) ids ∧
          ∀ id ∈ ids, IsExtensionId id)) ∧
    (∀ ids segments, ids ≠ [] → (∀ id ∈ ids, IsExtensionId id) → Written segments ids →
      parseExtensionIds (String.ofList ([','].intercalate segments)) = .ok ids) ∧
    ∀ raw ids, parseExtensionIds raw = .ok ids →
      parseExtensionIds (",".intercalate ids) = .ok ids := by
  refine ⟨fun raw => ⟨?_, ?_, ?_⟩, fun ids segments hne hids h =>
    parseExtensionIds_of_written hne hids h, ?_⟩
  · simp [parseExtensionIds_eq_error_iff]
  · exact fun e h => ((parseExtensionIds_eq_error_iff raw e).1 h).1
  · rintro ⟨segment, hsegment, hsolid⟩
    cases hread : parseExtensionIds raw with
    | error e =>
      have hblank := ((parseExtensionIds_eq_error_iff raw e).1 hread).2 segment hsegment
      rw [hsolid] at hblank
      cases hblank
    | ok ids =>
      obtain ⟨-, hids, hwritten⟩ := (parseExtensionIds_eq_ok_iff raw ids).1 hread
      exact ⟨ids, rfl, hwritten.forall₂_trimmed hids, hids⟩
  · intro raw ids h
    obtain ⟨hne, hids, -⟩ := (parseExtensionIds_eq_ok_iff raw ids).1 h
    have hjoin : ",".intercalate ids =
        String.ofList ([','].intercalate (ids.map String.toList)) :=
      String.toList_inj.1 (by simp)
    rw [hjoin]
    exact parseExtensionIds_of_written hne hids (.of_items ids)

/-- Two items, with white space around the first, a blank segment between them, and a comma behind
the last. -/
theorem parseExtensionIds_reads_spaced_list :
    let ids := ["macro-a", "macro-b"]
    let segments := ["\u3000macro-a\t".toList, " ".toList, "macro-b".toList, []]
    ids ≠ [] ∧ (∀ id ∈ ids, IsExtensionId id) ∧ Written segments ids ∧
      (∃ segment ∈ segments, Text.isBlank segment = false) ∧
      parseExtensionIds "\u3000macro-a\t, ,macro-b," = .ok ids ∧
      parseExtensionIds "macro-a,macro-b" = .ok ids := by
  intro ids segments
  have hids : ∀ id ∈ ids, IsExtensionId id := by
    refine List.forall_mem_cons.2 ⟨?_, List.forall_mem_singleton.2 ?_⟩
    · exact ⟨by decide, by decide, by rintro _ ⟨⟩; rfl, by rintro _ ⟨⟩; rfl⟩
    · exact ⟨by decide, by decide, by rintro _ ⟨⟩; rfl, by rintro _ ⟨⟩; rfl⟩
  have hsegments : segments = [['\u3000'] ++ ("macro-a".toList ++ ['\t']), [' '],
      [] ++ ("macro-b".toList ++ []), []] := by decide
  have hwritten : Written segments ids := by
    rw [hsegments]
    exact .item rfl rfl (.blank rfl (.item rfl rfl (.blank rfl .nil)))
  obtain ⟨-, hread, hjoined⟩ := parseExtensionIds_reads_written
  have hspaced := hread ids segments (by decide) hids hwritten
  exact ⟨by decide, hids, hwritten, by decide, hspaced, hjoined _ _ hspaced⟩

end Config

end SpaceMigration
