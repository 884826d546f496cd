/-!
# White space, blank text and words

The characters with the Unicode property `White_Space`, and the three readings of a text that
depend on them: its trimmed form, whether it is blank, and its words.

Texts are lists of characters here. `words` is total on every list, drops every white-space
character, and never yields an empty word (`ne_nil_of_mem_words`, `not_isWhiteSpace_of_mem_words`).
-/

namespace SpaceMigration.Text

/-- The Unicode property `White_Space`: 25 characters. The information separators `U+001C`–`U+001F`,
the zero-width space `U+200B` and the byte-order mark `U+FEFF` do not have it. -/
def isWhiteSpace (c : Char) : Bool :=
  let n := c.toNat
  (9 ≤ n && n ≤ 13) || n == 0x20 || n == 0x85 || n == 0xA0 || n == 0x1680 ||
    (0x2000 ≤ n && n ≤ 0x200A) || n == 0x2028 || n == 0x2029 || n == 0x202F || n == 0x205F ||
    n == 0x3000

/-- The text without the white space at its two ends. -/
def trim (text : List Char) : List Char :=
  ((text.dropWhile isWhiteSpace).reverse.dropWhile isWhiteSpace).reverse

/-- A blank text holds nothing but white space. -/
def isBlank (text : List Char) : Bool :=
  text.all isWhiteSpace

/-- The maximal runs of characters that are not white space, in order. -/
def words : List Char → List (List Char)
  | [] => []
  | c :: rest =>
    if isWhiteSpace c then words rest
    else match rest with
      | [] => [[c]]
      | d :: _ =>
        if isWhiteSpace d then [c] :: words rest
        else match words rest with
          | [] => [[c]]
          | word :: more => (c :: word) :: more

/-! ### Words -/

theorem ne_nil_of_mem_words {text word : List Char} (h : word ∈ words text) : word ≠ [] := by
  fun_induction words text generalizing word <;> simp_all
  all_goals rcases h with rfl | h <;> simp_all

theorem not_isWhiteSpace_of_mem_words {text word : List Char} (h : word ∈ words text) {c : Char}
    (hc : c ∈ word) : isWhiteSpace c = false := by
  fun_induction words text generalizing word with
  | case1 => simp at h
  | case2 c rest hc' ih => exact ih h hc
  | case3 c hc' => simp_all
  | case4 b d rest hb hd ih => grind
  | case5 => simp_all
  | case6 b d rest hb hd word' more heq ih => grind

end SpaceMigration.Text
