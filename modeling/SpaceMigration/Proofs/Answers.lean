import SpaceMigration.Job.Run

/-!
# The answer of a job

A job takes the first answer that maps exactly the asked keys, each once, and refuses every other
one. So the answer with which it runs, accepted or default, always has the asked keys, which are the
distinct keys of the selected spaces (`MigrationJob.AnswerFits.keys_perm`).

## Main definitions

* `MigrationJob.offered` — a job to which answers have been offered in turn
* `MigrationJob.AnswerFits` — the invariant: an answer that the job has is one that its question
  accepts

## Main results

* `SpaceQuestion.check_eq_ok_iff` — which answers a question accepts
* `MigrationJob.answerFits_offered` — whatever answers are offered, the job has a fitting one or
  none
-/

namespace SpaceMigration

/-! ### Questions -/

namespace SpaceQuestion

theorem keys_new (spaces : List SpaceSelection) :
    (new spaces).keys = (spaces.map (·.key)).eraseDups :=
  map_distinctBy SpaceSelection.key spaces

theorem nodup_keys_new (spaces : List SpaceSelection) : (new spaces).keys.Nodup :=
  nodup_distinctBy SpaceSelection.key spaces

theorem keys_defaultAnswer (question : SpaceQuestion) (root : EntityReference) :
    (question.defaultAnswer root).keys = question.keys := by
  simp [defaultAnswer, SpaceAnswer.keys, keys]

/-- No entry is in excess if the keys are asked, new, and distinct. -/
theorem findExcess_eq_none_iff (asked answered keys : List String) :
    findExcess asked answered keys = none ↔
      keys.Nodup ∧ ∀ key ∈ keys, key ∈ asked ∧ key ∉ answered := by
  induction keys generalizing answered with
  | nil => simp [findExcess]
  | cons key rest ih =>
    rw [findExcess]
    by_cases hasked : key ∈ asked
    · by_cases hanswered : key ∈ answered
      · simp [hasked, hanswered]
      · simp only [hasked, hanswered, not_true_eq_false, if_false, ih]
        grind
    · simp [hasked]

theorem findMissing_eq_none_iff (asked answered : List String) :
    findMissing asked answered = none ↔ ∀ key ∈ asked, key ∈ answered := by
  simp [findMissing]

/-- **A question accepts the complete answers**: those whose keys are distinct and are the asked
ones. -/
theorem check_eq_ok_iff (question : SpaceQuestion) (answer : SpaceAnswer) :
    question.check answer = .ok () ↔
      answer.keys.Nodup ∧ ∀ key, key ∈ answer.keys ↔ key ∈ question.keys := by
  have hfault : question.check answer = .ok () ↔ question.fault? answer = none := by
    rw [check]
    cases question.fault? answer <;> simp
  rw [hfault, fault?, Option.or_eq_none_iff, findExcess_eq_none_iff, findMissing_eq_none_iff]
  constructor
  · rintro ⟨⟨hnodup, hasked⟩, hanswered⟩
    exact ⟨hnodup, fun key => ⟨fun hkey => (hasked key hkey).1, hanswered key⟩⟩
  · rintro ⟨hnodup, hsame⟩
    refine ⟨⟨hnodup, fun key hkey => ⟨(hsame key).1 hkey, by simp⟩⟩, ?_⟩
    exact fun key hkey => (hsame key).2 hkey

end SpaceQuestion

/-! ### Offering answers -/

namespace MigrationJob

/-- The job after an answer has been offered to it: a refused answer leaves it as it is. -/
def offer (job : MigrationJob) (answer : SpaceAnswer) : MigrationJob :=
  (job.answerQuestion answer).toOption.getD job

/-- The job after answers have been offered to it in turn. -/
def offered (job : MigrationJob) (answers : List SpaceAnswer) : MigrationJob :=
  answers.foldl offer job

theorem offered_cons (job : MigrationJob) (answer : SpaceAnswer) (rest : List SpaceAnswer) :
    job.offered (answer :: rest) = (job.offer answer).offered rest :=
  rfl

theorem offer_of_eq_ok {job next : MigrationJob} {answer : SpaceAnswer}
    (h : job.answerQuestion answer = .ok next) : job.offer answer = next := by
  rw [offer, h]
  rfl

theorem offer_of_eq_error {job : MigrationJob} {answer : SpaceAnswer} {e : MigrationError}
    (h : job.answerQuestion answer = .error e) : job.offer answer = job := by
  rw [offer, h]
  rfl

/-- What an offer can do: the job takes an answer if it has none and the answer is complete, and is
left as it is otherwise. -/
theorem offer_cases (job : MigrationJob) (answer : SpaceAnswer) :
    (job.answer = none ∧ job.question.check answer = .ok () ∧
        job.offer answer = { job with answer := some answer }) ∨
      job.offer answer = job := by
  rw [offer, answerQuestion]
  by_cases hanswer : job.answer.isSome
  · exact .inr (by simp [hanswer, Except.toOption])
  · rw [if_neg hanswer]
    cases hcheck : job.question.check answer with
    | ok _ => exact .inl ⟨by simpa using hanswer, rfl, rfl⟩
    | error e => exact .inr rfl

/-- An answer that the job has is one that its question accepts. -/
def AnswerFits (job : MigrationJob) : Prop :=
  ∀ answer, job.answer = some answer → job.question.check answer = .ok ()

theorem answerFits_new (id : String) (request : MigrationRequest) :
    (new id request).AnswerFits := by
  rintro answer ⟨⟩

theorem AnswerFits.offer {job : MigrationJob} (h : job.AnswerFits) (answer : SpaceAnswer) :
    (job.offer answer).AnswerFits := by
  rcases job.offer_cases answer with ⟨-, hcheck, hoffer⟩ | hoffer
  · rw [hoffer]
    rintro _ ⟨⟩
    exact hcheck
  · rwa [hoffer]

theorem AnswerFits.offered {job : MigrationJob} (h : job.AnswerFits) (answers : List SpaceAnswer) :
    (job.offered answers).AnswerFits := by
  induction answers generalizing job with
  | nil => exact h
  | cons answer rest ih => exact ih (h.offer answer)

/-- Whatever answers are offered to a new job, it has a fitting one or none. -/
theorem answerFits_offered (id : String) (request : MigrationRequest)
    (answers : List SpaceAnswer) : ((new id request).offered answers).AnswerFits :=
  (answerFits_new id request).offered answers

/-- How many spaces are migrated at once does not matter to the answer. -/
theorem AnswerFits.withParallelism {job : MigrationJob} (h : job.AnswerFits) (spaces : Nat) :
    (job.withParallelism spaces).AnswerFits :=
  h

/-- An accepted answer has no key twice. -/
theorem AnswerFits.nodup_keys {job : MigrationJob} (h : job.AnswerFits) :
    (job.answer.getD .empty).keys.Nodup := by
  cases hanswer : job.answer with
  | none => exact List.nodup_nil
  | some answer => exact ((SpaceQuestion.check_eq_ok_iff _ _).1 (h answer hanswer)).1

/-- **The answer of a run has the distinct requested keys**, each once. -/
theorem AnswerFits.keys_perm {job : MigrationJob} (h : job.AnswerFits) :
    job.effectiveAnswer.keys.Perm (job.request.spaces.map (·.key)).eraseDups := by
  rw [← SpaceQuestion.keys_new, effectiveAnswer]
  cases hanswer : job.answer with
  | none =>
    rw [Option.getD_none, SpaceQuestion.keys_defaultAnswer]
    exact .refl _
  | some answer =>
    obtain ⟨hnodup, hsame⟩ := (SpaceQuestion.check_eq_ok_iff _ _).1 (h answer hanswer)
    exact (List.perm_ext_iff_of_nodup hnodup (SpaceQuestion.nodup_keys_new _)).2 hsame

end MigrationJob

end SpaceMigration
