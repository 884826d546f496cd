import Mathlib.Data.List.DropRight
import SpaceMigration.Proofs.Patterns
import SpaceMigration.Text.WhiteSpace

/-!
# Lines, words and the ends of a text

What `lines`, `trim` and `words` find in a text, said without the way in which they go through it.

* The lines end before the line feeds (`Lines`). A carriage return before a line feed belongs to the
  line break, any other one to its line.
* The trimmed text is what stands between white space at both ends, and has none at its own
  (`Trimmed`); there is only one such text.
* The words are the segments between white space that are not empty, so they split at any white
  space (`words_append_cons`), and joined by single spaces they can be told apart again
  (`splitOn_intercalate_words`).

## Main results

* `lines_iff` — the lines
* `trimmed_iff` — trimming
* `words_eq_filter_splitOnP` — the words
* `words_trim` — trimming loses no word
-/

namespace SpaceMigration.Text

/-! ### Lines -/

/-- The lines of a text. Text behind the last line feed is a line too, unless it is empty. -/
inductive Lines : List Char → List (List Char) → Prop
  | nil : Lines [] []
  | last {line : List Char} (hne : line ≠ []) (h : '\n' ∉ line) : Lines line [line]
  | feed {line rest : List Char} {more : List (List Char)} (h : '\n' ∉ line)
      (hend : line.getLast? ≠ some '\r') (hrest : Lines rest more) :
      Lines (line ++ '\n' :: rest) (line :: more)
  | returnFeed {line rest : List Char} {more : List (List Char)} (h : '\n' ∉ line)
      (hrest : Lines rest more) : Lines (line ++ '\r' :: '\n' :: rest) (line :: more)

/-- A character at which no line break begins belongs to the first line. -/
theorem lines_cons {c : Char} {rest : List Char} (hfeed : c ≠ '\n')
    (hreturn : c = '\r' → rest.head? ≠ some '\n') :
    lines (c :: rest) = match lines rest with
      | [] => [[c]]
      | line :: more => (c :: line) :: more := by
  rw [lines.eq_def]
  split
  · next heq => cases heq
  · next heq => exact absurd (List.cons.inj heq).1 hfeed
  · next heq =>
    obtain ⟨hc, hrest⟩ := List.cons.inj heq
    exact absurd (hrest ▸ rfl) (hreturn hc)
  · next heq =>
    obtain ⟨rfl, rfl⟩ := List.cons.inj heq
    rfl

/-- A text that goes on behind its first character has no line break there. -/
theorem head?_append_ne_feed {line : List Char} {c : Char} (h : '\n' ∉ line) (hne : line ≠ [])
    (rest : List Char) : (line ++ c :: rest).head? ≠ some '\n' := by
  obtain ⟨d, more, rfl⟩ := List.exists_cons_of_ne_nil hne
  intro hhead
  obtain rfl : d = '\n' := by simpa using hhead
  simp at h

theorem lines_append_feed {line : List Char} (h : '\n' ∉ line) (hend : line.getLast? ≠ some '\r')
    (rest : List Char) : lines (line ++ '\n' :: rest) = line :: lines rest := by
  induction line with
  | nil => rw [List.nil_append, lines]
  | cons c line ih =>
    obtain ⟨hc, hline⟩ := List.ne_and_not_mem_of_not_mem_cons h
    -- A carriage return directly before the line feed would be the end of the line.
    have hreturn : c = '\r' → (line ++ '\n' :: rest).head? ≠ some '\n' := by
      rintro rfl
      refine head?_append_ne_feed hline ?_ rest
      rintro rfl
      exact hend rfl
    have hlineEnd : line.getLast? ≠ some '\r' := by
      intro hlast
      rw [List.getLast?_cons, hlast] at hend
      exact hend rfl
    rw [List.cons_append, lines_cons hc.symm hreturn, ih hline hlineEnd]

theorem lines_append_returnFeed {line : List Char} (h : '\n' ∉ line) (rest : List Char) :
    lines (line ++ '\r' :: '\n' :: rest) = line :: lines rest := by
  induction line with
  | nil => rw [List.nil_append, lines]
  | cons c line ih =>
    obtain ⟨hc, hline⟩ := List.ne_and_not_mem_of_not_mem_cons h
    have hreturn : c = '\r' → (line ++ '\r' :: '\n' :: rest).head? ≠ some '\n' := by
      by_cases hne : line = []
      · simp [hne]
      · exact fun _ => head?_append_ne_feed hline hne _
    rw [List.cons_append, lines_cons hc.symm hreturn, ih hline]

theorem lines_of_notMem {line : List Char} (hne : line ≠ []) (h : '\n' ∉ line) :
    lines line = [line] := by
  induction line with
  | nil => exact absurd rfl hne
  | cons c line ih =>
    obtain ⟨hc, hline⟩ := List.ne_and_not_mem_of_not_mem_cons h
    have hreturn : c = '\r' → line.head? ≠ some '\n' :=
      fun _ hhead => hline (List.mem_of_head? hhead)
    rw [lines_cons hc.symm hreturn]
    by_cases hnil : line = []
    · rw [hnil, lines]
    · rw [ih hnil hline]

/-- Joined by line feeds, lines can be told apart. -/
theorem lines_intercalate {texts : List (List Char)}
    (h : ∀ text ∈ texts, text ≠ [] ∧ '\n' ∉ text ∧ text.getLast? ≠ some '\r') :
    lines (['\n'].intercalate texts) = texts := by
  induction texts with
  | nil => rfl
  | cons text rest ih =>
    obtain ⟨⟨hne, hfeed, hend⟩, hrest⟩ := List.forall_mem_cons.1 h
    cases rest with
    | nil => rw [List.intercalate_singleton, lines_of_notMem hne hfeed]
    | cons next rest =>
      rw [List.intercalate_cons_cons, List.append_assoc, List.singleton_append,
        lines_append_feed hfeed hend, ih hrest]

theorem lines_lines (text : List Char) : Lines text (lines text) := by
  by_cases hfeed : '\n' ∈ text
  · obtain ⟨line, rest, htext, hline⟩ := List.eq_append_cons_of_mem hfeed
    have hrest := lines_lines rest
    by_cases hend : line.getLast? = some '\r'
    · obtain ⟨front, rfl⟩ := List.getLast?_eq_some_iff.1 hend
      have hfront : '\n' ∉ front := fun hmem => hline (List.mem_append_left _ hmem)
      rw [htext, List.append_assoc, List.singleton_append, lines_append_returnFeed hfront]
      exact .returnFeed hfront hrest
    · rw [htext, lines_append_feed hline hend]
      exact .feed hline hend hrest
  · by_cases hne : text = []
    · rw [hne]
      exact .nil
    · rw [lines_of_notMem hne hfeed]
      exact .last hne hfeed
termination_by text.length
decreasing_by
  simp [htext]
  omega

/-- There is one list of lines, and `lines` finds it. -/
theorem lines_iff (text : List Char) (found : List (List Char)) :
    Lines text found ↔ found = lines text := by
  constructor
  · intro h
    induction h with
    | nil => rfl
    | last hne h => exact (lines_of_notMem hne h).symm
    | feed h hend _ ih => rw [lines_append_feed h hend, ih]
    | returnFeed h _ ih => rw [lines_append_returnFeed h, ih]
  · rintro rfl
    exact lines_lines text

/-! ### Trimming -/

/-- The core of a text: what stands between white space at both ends, and has none at its own. -/
structure Trimmed (text core : List Char) : Prop where
  split : ∃ before after, isBlank before = true ∧ isBlank after = true ∧
    text = before ++ (core ++ after)
  head : ∀ c, core.head? = some c → isWhiteSpace c = false
  last : ∀ c, core.getLast? = some c → isWhiteSpace c = false

theorem trim_eq_rdropWhile (text : List Char) :
    trim text = (text.dropWhile isWhiteSpace).rdropWhile isWhiteSpace :=
  rfl

theorem not_isWhiteSpace_of_getLast?_rdropWhile {text : List Char} {c : Char}
    (hc : (text.rdropWhile isWhiteSpace).getLast? = some c) : isWhiteSpace c = false := by
  have hne : text.rdropWhile isWhiteSpace ≠ [] := by
    intro hnil
    simp [hnil] at hc
  rw [List.getLast?_eq_some_getLast hne] at hc
  obtain rfl := Option.some.inj hc
  simpa using List.rdropWhile_last_not isWhiteSpace text hne

theorem isBlank_rtakeWhile (text : List Char) : isBlank (text.rtakeWhile isWhiteSpace) = true :=
  List.all_eq_true.2 fun _ hc => List.mem_rtakeWhile_imp hc

theorem trimmed_trim (text : List Char) : Trimmed text (trim text) := by
  rw [trim_eq_rdropWhile]
  have hstart := List.rdropWhile_prefix isWhiteSpace (text.dropWhile isWhiteSpace)
  refine ⟨⟨text.takeWhile isWhiteSpace, (text.dropWhile isWhiteSpace).rtakeWhile isWhiteSpace,
    List.all_takeWhile, isBlank_rtakeWhile _, ?_⟩, ?_, ?_⟩
  · rw [List.rdropWhile_append_rtakeWhile, List.takeWhile_append_dropWhile]
  · intro c hc
    have hfirst := List.head?_dropWhile_not isWhiteSpace text
    obtain ⟨rest, hrest⟩ := List.head?_eq_some_iff.1 hc
    obtain ⟨more, hmore⟩ := hstart
    rw [← hmore, hrest] at hfirst
    simpa using hfirst
  · exact fun c => not_isWhiteSpace_of_getLast?_rdropWhile

theorem Trimmed.eq_trim {text core : List Char} (h : Trimmed text core) : core = trim text := by
  obtain ⟨⟨before, after, hbefore, hafter, rfl⟩, hhead, hlast⟩ := h
  have hstart : (before ++ (core ++ after)).dropWhile isWhiteSpace =
      (core ++ after).dropWhile isWhiteSpace :=
    List.dropWhile_append_of_pos (List.all_eq_true.1 hbefore)
  rw [trim, hstart]
  cases core with
  | nil => rw [List.nil_append, List.dropWhile_eq_nil_iff.2 (List.all_eq_true.1 hafter)]; rfl
  | cons c rest =>
    have hc : ¬ isWhiteSpace c = true := by simp [hhead c rfl]
    have hend : ((c :: rest).reverse).dropWhile isWhiteSpace = (c :: rest).reverse := by
      cases hreverse : (c :: rest).reverse with
      | nil => rfl
      | cons d more =>
        have hd : (c :: rest).getLast? = some d := by
          rw [← List.head?_reverse, hreverse, List.head?_cons]
        exact List.dropWhile_cons_of_neg (by simp [hlast d hd])
    rw [List.cons_append, List.dropWhile_cons_of_neg hc, ← List.cons_append, List.reverse_append,
      List.dropWhile_append_of_pos, hend, List.reverse_reverse]
    intro d hd
    exact List.all_eq_true.1 hafter d (List.mem_reverse.1 hd)

/-- There is one core, and `trim` finds it. -/
theorem trimmed_iff (text core : List Char) : Trimmed text core ↔ core = trim text := by
  constructor
  · exact Trimmed.eq_trim
  · rintro rfl
    exact trimmed_trim text

/-! ### Words -/

/-- The words are the segments between white space that are not empty. -/
theorem words_eq_filter_splitOnP (text : List Char) :
    words text = (text.splitOnP isWhiteSpace).filter (!·.isEmpty) := by
  fun_induction words text with
  | case1 => simp
  | case2 c rest hc ih => simp [List.splitOnP_cons_eq_if_modifyHead, hc, ih]
  | case3 c hc => simp [List.splitOnP_cons_eq_if_modifyHead, hc]
  | case4 c hc d rest hd ih =>
    simp [List.splitOnP_cons_eq_if_modifyHead, hc, hd, ih]
  | case5 c hc d rest hd hnone ih =>
    -- The text behind the character has a word, since its first character is not white space.
    obtain ⟨segment, segments, hsplit⟩ :=
      List.exists_cons_of_ne_nil (List.splitOnP_ne_nil isWhiteSpace rest)
    simp [List.splitOnP_cons_eq_if_modifyHead, hd, hsplit, hnone] at ih
  | case6 c hc d rest hd word more hwords ih =>
    obtain ⟨segment, segments, hsplit⟩ :=
      List.exists_cons_of_ne_nil (List.splitOnP_ne_nil isWhiteSpace rest)
    rw [hwords] at ih
    simp [List.splitOnP_cons_eq_if_modifyHead, hd, hsplit] at ih
    simp [List.splitOnP_cons_eq_if_modifyHead, hc, hd, hsplit, hwords, ih]

/-- Words split at white space. -/
theorem words_append_cons {c : Char} (hc : isWhiteSpace c = true) (before after : List Char) :
    words (before ++ c :: after) = words before ++ words after := by
  simp only [words_eq_filter_splitOnP, List.splitOnP_append_cons before after hc,
    List.filter_append]

/-- A text has no words exactly if it is blank. -/
theorem words_eq_nil_iff (text : List Char) : words text = [] ↔ isBlank text = true := by
  fun_induction words text <;> simp_all [isBlank]

theorem words_append_of_isBlank {text blank : List Char} (h : isBlank blank = true) :
    words (text ++ blank) = words text := by
  cases blank with
  | nil => rw [List.append_nil]
  | cons c rest =>
    obtain ⟨hc, hrest⟩ : isWhiteSpace c = true ∧ isBlank rest = true := by simpa [isBlank] using h
    rw [words_append_cons hc, (words_eq_nil_iff rest).2 hrest, List.append_nil]

theorem words_append_of_isBlank_left {text blank : List Char} (h : isBlank blank = true) :
    words (blank ++ text) = words text := by
  induction blank with
  | nil => rfl
  | cons c rest ih =>
    obtain ⟨hc, hrest⟩ : isWhiteSpace c = true ∧ isBlank rest = true := by simpa [isBlank] using h
    rw [List.cons_append, ← List.nil_append (c :: _), words_append_cons hc, ih hrest]
    rfl

/-- A character in front of a text takes no word from it. -/
theorem length_words_le_length_words_cons (c : Char) (text : List Char) :
    (words text).length ≤ (words (c :: text)).length := by
  rw [words.eq_def (c :: text)]
  dsimp only
  split
  · exact Nat.le_refl _
  · split
    · exact Nat.zero_le _
    · split
      · exact Nat.le_succ _
      · split
        · next hnone => simp [hnone]
        · next hsome => simp [hsome]

/-- Trimming loses no word. -/
theorem words_trim (text : List Char) : words (trim text) = words text := by
  obtain ⟨⟨before, after, hbefore, hafter, htext⟩, -, -⟩ := trimmed_trim text
  conv_rhs => rw [htext, words_append_of_isBlank_left hbefore, words_append_of_isBlank hafter]

/-- A blank text is one of which trimming leaves nothing. -/
theorem trim_eq_nil_iff (text : List Char) : trim text = [] ↔ isBlank text = true := by
  rw [← words_eq_nil_iff, ← words_trim, words_eq_nil_iff, isBlank]
  constructor
  · intro h
    rw [h, List.all_nil]
  · intro h
    cases htrim : trim text with
    | nil => rfl
    | cons c rest =>
      rw [htrim, List.all_cons, Bool.and_eq_true] at h
      have hplain := (trimmed_trim text).head c (by rw [htrim, List.head?_cons])
      rw [hplain] at h
      exact Bool.noConfusion h.1

/-- Words with single spaces between them are the words of the joined text. -/
theorem words_intercalate {found : List (List Char)}
    (h : ∀ word ∈ found, word ≠ [] ∧ ∀ c ∈ word, isWhiteSpace c = false) :
    words ([' '].intercalate found) = found := by
  have hword : ∀ word ∈ found, words word = [word] := by
    intro word hmem
    obtain ⟨hne, hplain⟩ := h word hmem
    rw [words_eq_filter_splitOnP, List.splitOnP_eq_singleton hplain]
    simp [hne]
  induction found with
  | nil => rfl
  | cons word rest ih =>
    obtain ⟨hfirst, hrest⟩ := List.forall_mem_cons.1 hword
    cases rest with
    | nil => rw [List.intercalate_singleton, hfirst]
    | cons next rest =>
      rw [List.intercalate_cons_cons, List.append_assoc, List.singleton_append,
        words_append_cons (by decide), hfirst, ih (List.forall_mem_cons.1 h).2 hrest,
        List.singleton_append]

/-- Words with single spaces between them can be told apart. -/
theorem splitOn_intercalate_words {text : List Char} (h : words text ≠ []) :
    ([' '].intercalate (words text)).splitOn ' ' = words text := by
  refine List.splitOn_intercalate ' ' ?_ h
  intro word hword hspace
  have hplain := not_isWhiteSpace_of_mem_words hword hspace
  simp [isWhiteSpace] at hplain

/-- A pattern without white space occurs in a text exactly if it occurs in a word. -/
theorem infix_iff_exists_mem_words {pattern : List Char} (hne : pattern ≠ [])
    (hplain : ∀ c ∈ pattern, isWhiteSpace c = false) (text : List Char) :
    pattern <:+: text ↔ ∃ word ∈ words text, pattern <:+: word := by
  rw [infix_iff_exists_mem_splitOnP hplain, words_eq_filter_splitOnP]
  constructor
  · rintro ⟨segment, hsegment, hoccurs⟩
    have hsegmentNe : segment ≠ [] := by
      rintro rfl
      exact hne (List.infix_nil.1 hoccurs)
    exact ⟨segment, by simp [hsegment, hsegmentNe], hoccurs⟩
  · rintro ⟨word, hword, hoccurs⟩
    exact ⟨word, (List.mem_filter.1 hword).1, hoccurs⟩

end SpaceMigration.Text
