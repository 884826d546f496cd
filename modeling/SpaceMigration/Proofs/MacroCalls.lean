import Mathlib.Data.List.Basic
import SpaceMigration.Macro.Call

/-!
# What the text of a macro call says

A macro call is read from left to right. Behind the braces stands the identifier, up to the first
space, slash or brace; behind each space a name, up to the equals sign, and a quoted value, up to
the first quote that is not escaped; and behind the parameters the closing form. Nothing has to be
searched from the right: a body may hold any text, its own closing tag included, because the
identifier is known when the body is reached.

Values and bodies are arbitrary in this reading. Identifiers and names are not: they are written as
they are, so one that holds a character of the call's own syntax can run into what follows. That
does not matter to a reader who knows them.

## Main results

* `quoted_inj`, `parameters_inj`, `closing_inj` — the pieces of a call can be told apart
* `call_determined_by_text` — the text of a call determines the call
-/

namespace SpaceMigration.MacroCall

/-- A name without the characters that can follow a name in a call. -/
def Plain (name : String) : Prop :=
  ∀ c ∈ [' ', '=', '"', '/', '}'], c ∉ name.toList

instance (name : String) : Decidable (Plain name) :=
  List.decidableBAll (fun c => c ∉ name.toList) _

/-- A name ends at the first character that neither name holds. -/
theorem name_inj {name name' rest rest' : List Char} {c c' : Char} (hc : c ∉ name')
    (hc' : c' ∉ name) (h : name ++ c :: rest = name' ++ c' :: rest') :
    name = name' ∧ c :: rest = c' :: rest' := by
  rcases List.append_eq_append_iff.1 h with ⟨more, rfl, hmore⟩ | ⟨more, rfl, hmore⟩
  · cases more with
    | nil => exact ⟨(List.append_nil _).symm, hmore⟩
    | cons d more =>
      obtain ⟨rfl, -⟩ := List.cons.inj hmore
      simp at hc
  · cases more with
    | nil => exact ⟨List.append_nil _, hmore.symm⟩
    | cons d more =>
      obtain ⟨rfl, -⟩ := List.cons.inj hmore
      simp at hc'

/-! ### Quoted values -/

theorem escape_special {c : Char} (h : c = '"' ∨ c = '\\') : escape c = ['\\', c] := by
  rcases h with rfl | rfl <;> rfl

theorem escape_other {c : Char} (h : ¬ (c = '"' ∨ c = '\\')) : escape c = [c] := by
  simpa [escape] using h

theorem escape_append_ne_quote (c : Char) (rest rest' : List Char) :
    escape c ++ rest ≠ '"' :: rest' := by
  by_cases hc : c = '"' ∨ c = '\\'
  · simp [escape_special hc]
  · rw [escape_other hc]
    rintro ⟨⟩
    simp at hc

/-- The first character of an escape tells whether there is a second one. -/
theorem escape_append_inj {c c' : Char} {rest rest' : List Char}
    (h : escape c ++ rest = escape c' ++ rest') : c = c' ∧ rest = rest' := by
  by_cases hc : c = '"' ∨ c = '\\' <;> by_cases hc' : c' = '"' ∨ c' = '\\'
  · simpa [escape_special hc, escape_special hc'] using h
  · rw [escape_special hc, escape_other hc'] at h
    obtain ⟨rfl, -⟩ := List.cons.inj h
    simp at hc'
  · rw [escape_other hc, escape_special hc'] at h
    obtain ⟨rfl, -⟩ := List.cons.inj h
    simp at hc
  · simpa [escape_other hc, escape_other hc'] using h

/-- **A quoted value ends at its closing quote**, whatever the value and whatever follows. -/
theorem quoted_inj {value value' rest rest' : List Char}
    (h : value.flatMap escape ++ '"' :: rest = value'.flatMap escape ++ '"' :: rest') :
    value = value' ∧ rest = rest' := by
  induction value generalizing value' with
  | nil =>
    cases value' with
    | nil => simpa using h
    | cons c' more' =>
      rw [List.flatMap_nil, List.nil_append, List.flatMap_cons, List.append_assoc] at h
      exact absurd h.symm (escape_append_ne_quote c' _ _)
  | cons c more ih =>
    cases value' with
    | nil =>
      rw [List.flatMap_nil, List.nil_append, List.flatMap_cons, List.append_assoc] at h
      exact absurd h (escape_append_ne_quote c _ _)
    | cons c' more' =>
      rw [List.flatMap_cons, List.flatMap_cons, List.append_assoc, List.append_assoc] at h
      obtain ⟨rfl, hmore⟩ := escape_append_inj h
      obtain ⟨rfl, hrest⟩ := ih hmore
      exact ⟨rfl, hrest⟩

/-! ### Parameters -/

/-- The parameters of a call, in order. -/
def parametersText (entries : List (String × String)) : List Char :=
  entries.flatMap fun entry => parameter entry.1 entry.2

theorem parametersText_cons_append (entry : String × String) (entries : List (String × String))
    (rest : List Char) :
    parametersText (entry :: entries) ++ rest =
      ' ' :: (entry.1.toList ++ '=' :: '"' :: (entry.2.toList.flatMap escape ++
        '"' :: (parametersText entries ++ rest))) := by
  simp [parametersText, parameter]

/-- Parameters whose names are known determine their values, and where they end. -/
theorem parameters_inj_of_names {entries entries' : List (String × String)}
    {rest rest' : List Char} (hnames : entries.map Prod.fst = entries'.map Prod.fst)
    (h : parametersText entries ++ rest = parametersText entries' ++ rest') :
    entries = entries' ∧ rest = rest' := by
  induction entries generalizing entries' with
  | nil =>
    obtain rfl := List.map_eq_nil_iff.1 hnames.symm
    exact ⟨rfl, h⟩
  | cons entry more ih =>
    obtain ⟨entry', more', rfl, hname, hmore⟩ := List.map_eq_cons_iff.1 hnames.symm
    rw [parametersText_cons_append, parametersText_cons_append, hname] at h
    obtain ⟨hvalue, hend⟩ := quoted_inj (by simpa using h)
    obtain ⟨rfl, hrest⟩ := ih hmore.symm hend
    exact ⟨by rw [Prod.ext hname.symm (String.toList_inj.1 hvalue)], hrest⟩

/-- **Plain parameters determine their names too**, if no space follows them. -/
theorem parameters_inj {entries entries' : List (String × String)} {rest rest' : List Char}
    (hplain : ∀ entry ∈ entries, Plain entry.1) (hplain' : ∀ entry ∈ entries', Plain entry.1)
    (hrest : rest.head? ≠ some ' ') (hrest' : rest'.head? ≠ some ' ')
    (h : parametersText entries ++ rest = parametersText entries' ++ rest') :
    entries = entries' ∧ rest = rest' := by
  induction entries generalizing entries' with
  | nil =>
    cases entries' with
    | nil => exact ⟨rfl, h⟩
    | cons entry' more' =>
      rw [parametersText_cons_append] at h
      exact absurd (congrArg List.head? h) hrest
  | cons entry more ih =>
    cases entries' with
    | nil =>
      rw [parametersText_cons_append] at h
      exact absurd (congrArg List.head? h.symm) hrest'
    | cons entry' more' =>
      obtain ⟨hentry, hmore⟩ := List.forall_mem_cons.1 hplain
      obtain ⟨hother, hmore'⟩ := List.forall_mem_cons.1 hplain'
      rw [parametersText_cons_append, parametersText_cons_append, List.cons_inj_right] at h
      obtain ⟨hname, htail⟩ := name_inj (hother '=' (by simp)) (hentry '=' (by simp)) h
      obtain ⟨hvalue, hend⟩ := quoted_inj (by simpa using htail)
      obtain ⟨rfl, hrest⟩ := ih hmore hmore' hend
      exact ⟨by rw [Prod.ext (String.toList_inj.1 hname) (String.toList_inj.1 hvalue)], hrest⟩

/-! ### Whole calls -/

/-- The end of a call, behind its parameters. -/
def closing (id body : String) : List Char :=
  if body.isEmpty then ['/', '}', '}']
  else '}' :: '}' :: (body.toList ++ '{' :: '{' :: '/' :: (id.toList ++ ['}', '}']))

theorem toList_format (id : String) (parameters : Parameters) (body : String) :
    (format id parameters body).toList =
      '{' :: '{' :: (id.toList ++ (parametersText parameters.entries ++ closing id body)) := by
  rw [format, closing]
  by_cases hbody : body.isEmpty <;> simp [hbody, parametersText]

/-- The closing form of a known identifier determines the body, whatever the body holds. -/
theorem closing_inj {id body body' : String} (h : closing id body = closing id body') :
    body = body' := by
  by_cases hbody : body.isEmpty <;> by_cases hbody' : body'.isEmpty
  · rw [String.isEmpty_iff.1 hbody, String.isEmpty_iff.1 hbody']
  · simp [closing, hbody, hbody'] at h
  · simp [closing, hbody, hbody'] at h
  · simpa [closing, hbody, hbody', String.toList_inj] using h

/-- The character behind the identifier of a call is none of a plain name. -/
theorem exists_cons_of_tail (id body : String) (entries : List (String × String)) :
    ∃ c ∈ [' ', '/', '}'], ∃ rest, parametersText entries ++ closing id body = c :: rest := by
  cases entries with
  | nil =>
    by_cases hbody : body.isEmpty
    · exact ⟨'/', by simp, _, by rw [closing, if_pos hbody]; rfl⟩
    · exact ⟨'}', by simp, _, by rw [closing, if_neg hbody]; rfl⟩
  | cons entry more => exact ⟨' ', by simp, _, parametersText_cons_append entry more _⟩

theorem head?_closing_ne_space (id body : String) : (closing id body).head? ≠ some ' ' := by
  rw [closing]
  split <;> simp

/-- **The text of a macro call determines the call.** Plain identifiers and plain parameter names
are read off the text along with the values and the body, which may be anything. If the identifier
and the parameter names are known, they need not be plain: the text determines all values and the
body. -/
theorem call_determined_by_text :
    (∀ (id id' : String) (parameters parameters' : Parameters) (body body' : String),
      Plain id → Plain id' → (∀ name ∈ parameters.keys, Plain name) →
      (∀ name ∈ parameters'.keys, Plain name) →
      format id parameters body = format id' parameters' body' →
      id = id' ∧ parameters = parameters' ∧ body = body') ∧
    ∀ (id : String) (parameters parameters' : Parameters) (body body' : String),
      parameters.keys = parameters'.keys →
      format id parameters body = format id parameters' body' →
      parameters = parameters' ∧ body = body' := by
  constructor
  · rintro id id' ⟨entries, ordered⟩ ⟨entries', ordered'⟩ body body' hid hid' hnames hnames' h
    have htext := congrArg String.toList h
    rw [toList_format, toList_format, List.cons_inj_right, List.cons_inj_right] at htext
    obtain ⟨c, hc, rest, hrest⟩ := exists_cons_of_tail id body entries
    obtain ⟨c', hc', rest', hrest'⟩ := exists_cons_of_tail id' body' entries'
    have hends : [' ', '/', '}'] ⊆ [' ', '=', '"', '/', '}'] := by decide
    dsimp only at htext
    rw [hrest, hrest'] at htext
    obtain ⟨hsame, htail⟩ := name_inj (hid' c (hends hc)) (hid c' (hends hc')) htext
    rw [← hrest, ← hrest'] at htail
    obtain rfl := String.toList_inj.1 hsame
    obtain ⟨rfl, hclosing⟩ := parameters_inj (List.forall_mem_map.1 hnames)
      (List.forall_mem_map.1 hnames') (head?_closing_ne_space id body)
      (head?_closing_ne_space id body') htail
    exact ⟨rfl, rfl, closing_inj hclosing⟩
  · rintro id ⟨entries, ordered⟩ ⟨entries', ordered'⟩ body body' hnames h
    have htext := congrArg String.toList h
    rw [toList_format, toList_format, List.cons_inj_right, List.cons_inj_right,
      List.append_cancel_left_eq] at htext
    obtain ⟨rfl, hclosing⟩ := parameters_inj_of_names hnames htext
    exact ⟨rfl, closing_inj hclosing⟩

/-- The order in which parameters are given leaves no trace in a call, neither of plain ones in a
call whose body imitates its end, nor of odd ones in a call whose identifier and names imitate its
syntax. -/
theorem call_determined_by_text_in_two_orders :
    let body := "\x7b\x7b/info\x7d\x7d"
    let plain : Parameters := .ofList [("title", "say \"hi\""), ("depth", "\\")]
    let plain' : Parameters := .ofList [("depth", "\\"), ("title", "say \"hi\"")]
    let odd : Parameters := .ofList [("a=\"b\" c", "1"), ("/\x7d\x7d", "2")]
    let odd' : Parameters := .ofList [("/\x7d\x7d", "2"), ("a=\"b\" c", "1")]
    (Plain "info" ∧ (∀ name ∈ plain.keys, Plain name) ∧ (∀ name ∈ plain'.keys, Plain name) ∧
        format "info" plain body = format "info" plain' body ∧ plain = plain') ∧
      odd.keys = odd'.keys ∧ format "x y" odd body = format "x y" odd' body ∧ odd = odd' := by
  intro body plain plain' odd odd'
  have hid : Plain "info" := by decide
  have hplain : ∀ name ∈ plain.keys, Plain name := by decide
  have hplain' : ∀ name ∈ plain'.keys, Plain name := by decide
  have hsame : format "info" plain body = format "info" plain' body := by decide
  have hkeys : odd.keys = odd'.keys := by decide
  have hsame' : format "x y" odd body = format "x y" odd' body := by decide
  obtain ⟨-, hparameters, -⟩ :=
    call_determined_by_text.1 _ _ _ _ _ _ hid hid hplain hplain' hsame
  obtain ⟨hodd, -⟩ := call_determined_by_text.2 _ _ _ _ _ hkeys hsame'
  exact ⟨⟨hid, hplain, hplain', hsame, hparameters⟩, hkeys, hsame', hodd⟩

end SpaceMigration.MacroCall
