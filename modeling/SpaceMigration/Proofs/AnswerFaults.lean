import Mathlib.Data.List.Basic
import SpaceMigration.Proofs.Answers

/-!
# What is wrong with an answer

An answer is complete if its keys are distinct and are the asked ones. An answer that is not has a
first fault, and that is what its refusal names: the first entry whose key is not asked or was
mapped before, and if there is none, the first asked key without an entry. The entries are looked at
before the question is, so an entry too many hides a key that is missing.

Nothing is assumed of the question. It may ask a key twice if it was not made by
`SpaceQuestion.new`, which keeps the first selection of each key.

## Main definitions

* `SpaceQuestion.FirstFault` — the fault that a refusal names, without the set that the check builds

## Main results

* `SpaceQuestion.fault?_eq_some_iff` — the check finds the first fault
* `distinctBy_eq_filterMap` — the spaces that a question asks
* `SpaceQuestion.accepts_complete_answers` — questions, their answers and their default answers
-/

namespace SpaceMigration

/-! ### The spaces that are asked -/

/-- What is kept, without the loop: the first element of each key, in the order of the keys. -/
theorem distinctBy_eq_filterMap {α β : Type} [DecidableEq β] (key : α → β) (xs : List α) :
    distinctBy key xs =
      (xs.map key).eraseDups.filterMap fun k => xs.find? fun x => key x = k := by
  have hself (x : α) (hx : x ∈ distinctBy key xs) : xs.find? (fun y => key y = key x) = some x := by
    obtain ⟨before, after, hsplit⟩ := List.append_of_mem hx
    have hnodup := nodup_distinctBy key xs
    rw [hsplit, List.map_append, List.map_cons, List.nodup_append] at hnodup
    rw [← find?_distinctBy, hsplit, List.find?_eq_some_iff_append]
    refine ⟨by simp, before, after, rfl, ?_⟩
    intro y hy
    simpa using hnodup.2.2 (key y) (List.mem_map_of_mem hy) (key x) (List.mem_cons_self ..)
  calc distinctBy key xs
      = (distinctBy key xs).filterMap some := List.filterMap_some.symm
    _ = (distinctBy key xs).filterMap fun x => xs.find? fun y => key y = key x :=
        List.filterMap_congr fun x hx => (hself x hx).symm
    _ = ((distinctBy key xs).map key).filterMap fun k => xs.find? fun x => key x = k :=
        by rw [List.filterMap_map]; rfl
    _ = (xs.map key).eraseDups.filterMap fun k => xs.find? fun x => key x = k := by
        rw [map_distinctBy]

namespace SpaceQuestion

theorem spaces_new (spaces : List SpaceSelection) :
    (new spaces).spaces = (spaces.map (·.key)).eraseDups.filterMap fun key =>
      spaces.find? fun space => space.key = key :=
  distinctBy_eq_filterMap SpaceSelection.key spaces

/-- The spaces that are asked are asked again. -/
theorem new_new (spaces : List SpaceSelection) : new (new spaces).spaces = new spaces :=
  congrArg mk (distinctBy_of_nodup _ (nodup_distinctBy SpaceSelection.key spaces))

/-- The default answer to distinct keys is complete. -/
theorem check_defaultAnswer {question : SpaceQuestion} (h : question.keys.Nodup)
    (root : EntityReference) : question.check (question.defaultAnswer root) = .ok () := by
  rw [check_eq_ok_iff, keys_defaultAnswer]
  exact ⟨h, fun _ => .rfl⟩

theorem isSome_targetFor?_iff (answer : SpaceAnswer) (key : String) :
    (answer.targetFor? key).isSome = true ↔ key ∈ answer.keys := by
  simp [SpaceAnswer.targetFor?, SpaceAnswer.keys]

/-! ### The first fault -/

/-- The first fault of an answer, by the asked keys and the keys that it maps. In front of an entry
too many every entry is right; and only where no entry is too many does a missing key count. -/
inductive FirstFault (asked answered : List String) : AnswerFault → Prop where
  | notSelected {before after : List String} {key : String}
      (hsplit : answered = before ++ key :: after) (hnodup : before.Nodup)
      (hbefore : ∀ earlier ∈ before, earlier ∈ asked) (hkey : key ∉ asked) :
      FirstFault asked answered (.notSelected key)
  | answeredTwice {before after : List String} {key : String}
      (hsplit : answered = before ++ key :: after) (hnodup : before.Nodup)
      (hbefore : ∀ earlier ∈ before, earlier ∈ asked) (hkey : key ∈ before) :
      FirstFault asked answered (.answeredTwice key)
  | unanswered {before after : List String} {key : String}
      (hnodup : answered.Nodup) (hanswered : ∀ key ∈ answered, key ∈ asked)
      (hsplit : asked = before ++ key :: after)
      (hbefore : ∀ earlier ∈ before, earlier ∈ answered) (hkey : key ∉ answered) :
      FirstFault asked answered (.unanswered key)

/-- Entries without fault are passed over, and their keys are remembered. -/
theorem findExcess_append {asked answered before : List String}
    (h : findExcess asked answered before = none) (rest : List String) :
    findExcess asked answered (before ++ rest) =
      findExcess asked (before.reverse ++ answered) rest := by
  induction before generalizing answered with
  | nil => rfl
  | cons key before ih =>
    rw [findExcess] at h
    split at h
    · cases h
    split at h
    · cases h
    next hasked hanswered =>
      rw [List.cons_append, findExcess, if_neg hasked, if_neg hanswered, ih h,
        List.reverse_cons, List.append_assoc, List.singleton_append]

/-- The entry that is found to be too many is the first one. -/
theorem exists_of_findExcess {asked answered keys : List String} {fault : AnswerFault}
    (h : findExcess asked answered keys = some fault) :
    ∃ before key after, keys = before ++ key :: after ∧
      findExcess asked answered before = none ∧
      (key ∉ asked ∧ fault = .notSelected key ∨
        (key ∈ before ∨ key ∈ answered) ∧ fault = .answeredTwice key) := by
  induction keys generalizing answered with
  | nil => cases h
  | cons key rest ih =>
    rw [findExcess] at h
    split at h
    · next hasked =>
      exact ⟨[], key, rest, rfl, rfl, .inl ⟨hasked, (Option.some.inj h).symm⟩⟩
    split at h
    · next hanswered =>
      exact ⟨[], key, rest, rfl, rfl, .inr ⟨.inr hanswered, (Option.some.inj h).symm⟩⟩
    next hasked hanswered =>
      obtain ⟨before, later, after, hsplit, hbefore, hfault⟩ := ih h
      refine ⟨key :: before, later, after, by rw [hsplit, List.cons_append], ?_, ?_⟩
      · rw [findExcess, if_neg hasked, if_neg hanswered, hbefore]
      · refine hfault.imp_right (And.imp_left ?_)
        rintro (hlater | hlater)
        · exact .inl (List.mem_cons_of_mem _ hlater)
        · rcases List.mem_cons.1 hlater with rfl | hlater
          · exact .inl (List.mem_cons_self ..)
          · exact .inr hlater

theorem FirstFault.findExcess_or_findMissing {asked answered : List String} {fault : AnswerFault}
    (h : FirstFault asked answered fault) :
    (findExcess asked [] answered).or (findMissing asked answered) = some fault := by
  have hnone {before : List String} (hnodup : before.Nodup)
      (hbefore : ∀ earlier ∈ before, earlier ∈ asked) : findExcess asked [] before = none :=
    (findExcess_eq_none_iff asked [] before).2
      ⟨hnodup, fun key hkey => ⟨hbefore key hkey, List.not_mem_nil⟩⟩
  cases h with
  | notSelected hsplit hnodup hbefore hkey =>
    rw [hsplit, findExcess_append (hnone hnodup hbefore), findExcess, if_pos hkey, Option.some_or]
  | answeredTwice hsplit hnodup hbefore hkey =>
    rw [hsplit, findExcess_append (hnone hnodup hbefore), findExcess,
      if_neg (not_not_intro (hbefore _ hkey)), if_pos (by simpa using hkey), Option.some_or]
  | unanswered hnodup hanswered hsplit hbefore hkey =>
    rw [hnone hnodup hanswered, Option.none_or, findMissing, Option.map_eq_some_iff]
    refine ⟨_, List.find?_eq_some_iff_append.2 ⟨by simpa using hkey, _, _, hsplit, ?_⟩, rfl⟩
    intro earlier hearlier
    simpa using hbefore earlier hearlier

/-- **The check finds the first fault**, and nothing else. -/
theorem fault?_eq_some_iff (question : SpaceQuestion) (answer : SpaceAnswer)
    (fault : AnswerFault) :
    question.fault? answer = some fault ↔ FirstFault question.keys answer.keys fault := by
  refine ⟨?_, FirstFault.findExcess_or_findMissing⟩
  rw [fault?, Option.or_eq_some_iff]
  rintro (hexcess | ⟨hexcess, hmissing⟩)
  · obtain ⟨before, key, after, hsplit, hnone, hfault⟩ := exists_of_findExcess hexcess
    obtain ⟨hnodup, hbefore⟩ := (findExcess_eq_none_iff ..).1 hnone
    have hasked (earlier : String) (h : earlier ∈ before) : earlier ∈ question.keys :=
      (hbefore earlier h).1
    obtain ⟨hkey, rfl⟩ | ⟨hkey, rfl⟩ := hfault
    · exact .notSelected hsplit hnodup hasked hkey
    · exact .answeredTwice hsplit hnodup hasked (hkey.resolve_right List.not_mem_nil)
  · obtain ⟨hnodup, hanswered⟩ := (findExcess_eq_none_iff ..).1 hexcess
    obtain ⟨key, hfind, rfl⟩ := Option.map_eq_some_iff.1 hmissing
    obtain ⟨hkey, before, after, hsplit, hbefore⟩ := List.find?_eq_some_iff_append.1 hfind
    refine .unanswered hnodup (fun key h => (hanswered key h).1) hsplit ?_ (by simpa using hkey)
    intro earlier hearlier
    simpa using hbefore earlier hearlier

/-- An entry too many hides the key that is missing. -/
example : fault? (new [⟨"ENG", "Engineering"⟩]) ⟨[(⟨"HR", "People"⟩, ⟨"Docs.HR"⟩)]⟩ =
    some (.notSelected "HR") := by
  decide

/-- A refusal names the first fault. -/
theorem check_eq_error_iff (question : SpaceQuestion) (answer : SpaceAnswer) (e : MigrationError) :
    question.check answer = .error e ↔
      ∃ fault, FirstFault question.keys answer.keys fault ∧ e = fault.toError := by
  simp only [← fault?_eq_some_iff]
  rw [check]
  cases question.fault? answer with
  | none => simp
  | some fault => simp [eq_comm]

/-- **Exactly the complete answers are accepted.** An answer is accepted if its keys are distinct
and are the asked ones, and refused for its first fault otherwise; an accepted answer has a target
for the asked keys and no others. A new question asks the first selection of each key, in the order
of the selections, and asking what it asks is the same question; its default answer is accepted. -/
theorem accepts_complete_answers (question : SpaceQuestion) (answer : SpaceAnswer)
    (spaces : List SpaceSelection) (root : EntityReference) :
    (question.check answer = .ok () ↔
      answer.keys.Nodup ∧ ∀ key, key ∈ answer.keys ↔ key ∈ question.keys) ∧
    (∀ e, question.check answer = .error e ↔
      ∃ fault, FirstFault question.keys answer.keys fault ∧ e = fault.toError) ∧
    (question.check answer = .ok () →
      ∀ key, (answer.targetFor? key).isSome = true ↔ key ∈ question.keys) ∧
    ((new spaces).spaces = (spaces.map (·.key)).eraseDups.filterMap fun key =>
      spaces.find? fun space => space.key = key) ∧
    new (new spaces).spaces = new spaces ∧
    (new spaces).check ((new spaces).defaultAnswer root) = .ok () := by
  refine ⟨question.check_eq_ok_iff answer, question.check_eq_error_iff answer, ?_,
    spaces_new spaces, new_new spaces, check_defaultAnswer (nodup_keys_new spaces) root⟩
  intro haccepted key
  rw [isSome_targetFor?_iff]
  exact ((question.check_eq_ok_iff answer).1 haccepted).2 key

end SpaceQuestion

end SpaceMigration
