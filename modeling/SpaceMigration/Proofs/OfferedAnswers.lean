import SpaceMigration.Proofs.AnsweredSpaces
import SpaceMigration.Proofs.Stretches

/-!
# Offered answers and the run after them

A job is offered answers and then runs. The first answer that its question accepts is the one, and
what was refused before it or comes after it leaves no trace: neither in the job nor in the run,
which lists the spaces of that answer, and saves under its targets. A job that is offered no such
answer runs with its default answer.

## Main definitions

* `MigrationJob.responses` — what the offers return, and the answer of the job after each
* `SpaceAnswer.Governs` — the calls migrate the spaces of the answer, under its targets

## Main results

* `MigrationJob.exists_first_accepted` — the offers to a job without an answer
* `RunTranscript.governed` — a run is governed by its answer
* `MigrationJob.run_uses_first_accepted_answer` — the offers and the run after them
-/

namespace SpaceMigration

/-! ### Offers in turn -/

/-- The error of an offer to a job that has an answer. -/
def alreadyAnswered : MigrationError :=
  ⟨.invalidState, "space question already answered"⟩

/-- What the offers return from the first accepted answer on, and the answer of the job after
each. -/
def settledResponses : List SpaceAnswer → List (Except MigrationError Unit × Option SpaceAnswer)
  | [] => []
  | accepted :: later =>
    (.ok (), some accepted) :: later.map fun _ => (.error alreadyAnswered, some accepted)

namespace MigrationJob

/-- What the offers return, and the answer of the job after each. -/
def responses (job : MigrationJob) :
    List SpaceAnswer → List (Except MigrationError Unit × Option SpaceAnswer)
  | [] => []
  | answer :: rest =>
    ((job.answerQuestion answer).map fun _ => (), (job.offer answer).answer) ::
      (job.offer answer).responses rest

variable (job : MigrationJob)

theorem answerQuestion_of_answered (h : job.answer.isSome = true) (answer : SpaceAnswer) :
    job.answerQuestion answer = .error alreadyAnswered :=
  if_pos h

theorem answerQuestion_of_open (h : job.answer = none) (answer : SpaceAnswer) :
    job.answerQuestion answer =
      (job.question.check answer).map fun _ => { job with answer := some answer } :=
  if_neg (by simp [h])

/-- A job that has an answer refuses every other one, and is left as it is. -/
theorem offers_of_answered {accepted : SpaceAnswer} (h : job.answer = some accepted)
    (answers : List SpaceAnswer) :
    job.responses answers = answers.map (fun _ => (.error alreadyAnswered, some accepted)) ∧
      job.offered answers = job := by
  induction answers with
  | nil => exact ⟨rfl, rfl⟩
  | cons answer rest ih =>
    have hrefused := job.answerQuestion_of_answered (by rw [h]; rfl) answer
    rw [responses, offered_cons, offer_of_eq_error hrefused, hrefused, h, ih.1, ih.2]
    exact ⟨rfl, rfl⟩

/-- **The first accepted answer is the one.** Before it every offer returns the error of its own
answer, and the job stays without an answer; from it on the job has this answer, and every offer is
refused. -/
theorem exists_first_accepted (h : job.answer = none) (answers : List SpaceAnswer) :
    ∃ refused rest, answers = refused ++ rest ∧
      (∀ answer ∈ refused, job.question.check answer ≠ .ok ()) ∧
      (∀ accepted ∈ rest.head?, job.question.check accepted = .ok ()) ∧
      job.responses answers = refused.map (fun answer => (job.question.check answer, none)) ++
        settledResponses rest ∧
      job.offered answers = { job with answer := rest.head? } := by
  induction answers with
  | nil =>
    refine ⟨[], [], rfl, by simp, by simp, rfl, ?_⟩
    rw [List.head?_nil, ← h]
    rfl
  | cons answer rest ih =>
    have hresult := job.answerQuestion_of_open h answer
    cases hcheck : job.question.check answer with
    | ok _ =>
      rw [hcheck] at hresult
      have hoffer : job.offer answer = { job with answer := some answer } := offer_of_eq_ok hresult
      obtain ⟨hlater, hjob⟩ := offers_of_answered { job with answer := some answer } rfl rest
      refine ⟨[], answer :: rest, rfl, by simp, by simpa using hcheck, ?_, ?_⟩
      · rw [responses, hoffer, hresult, hlater]
        rfl
      · rw [offered_cons, hoffer, hjob, List.head?_cons]
    | error e =>
      rw [hcheck] at hresult
      have hoffer : job.offer answer = job := offer_of_eq_error hresult
      obtain ⟨refused, later, rfl, hrefused, haccepted, hresponses, hjob⟩ := ih
      refine ⟨answer :: refused, later, rfl, ?_, haccepted, ?_, ?_⟩
      · exact List.forall_mem_cons.2 ⟨by simp [hcheck], hrefused⟩
      · rw [responses, hoffer, hresult, hresponses, List.map_cons, hcheck, h]
        rfl
      · rw [offered_cons, hoffer, hjob]

end MigrationJob

/-! ### The run after the offers -/

/-- The calls migrate the spaces of the answer: they list the first of them, in order, and what they
save is loaded from one of them and goes under its target. -/
structure SpaceAnswer.Governs (answer : SpaceAnswer) (calls : List Call) : Prop where
  listed : calls.filterMap Call.listed? <+: answer.keys
  loaded : ∀ document ∈ calls.filterMap Call.loaded?, document.1 ∈ answer.keys
  saved : ∀ d ∈ calls.filterMap Call.savedDocument?, ∃ entry ∈ answer.entries,
    ∃ documentId document content, .load entry.1.key documentId (.ok document) ∈ calls ∧
      d = document.migrated entry.1.key entry.2 content

section

variable {entries : List (SpaceSelection × EntityReference)} {calls : List Call} {p p' : Progress}

theorem DocumentsTranscript.listed_eq_nil {jobId spaceKey : String} {target : EntityReference}
    {documentIds : List String} {r : Except MigrationError (Nat × Nat)}
    (h : DocumentsTranscript jobId spaceKey target documentIds calls p r p') :
    calls.filterMap Call.listed? = [] := by
  have hdocument {documentId : String} {calls more : List Call} {r : Except MigrationError Tally}
      (h : DocumentTranscript spaceKey target documentId calls r)
      (hmore : more.filterMap Call.listed? = []) :
      (.check false :: (calls ++ more)).filterMap Call.listed? = [] := by
    rw [List.filterMap_cons_none rfl, List.filterMap_append, h.visits.listed, hmore]
    rfl
  induction h with
  | nil => rfl
  | cancelled => rfl
  | aborted p h he => exact h.visits.listed
  | migrated now h _ ih => exact hdocument h ih
  | failed now h he _ ih => exact hdocument h ih

theorem SpaceTranscript.listed_prefix {jobId : String} {space : SpaceSelection}
    {target : EntityReference} {r : Except MigrationError Unit}
    (h : SpaceTranscript jobId space target calls p r p') :
    calls.filterMap Call.listed? <+: [space.key] := by
  have hlist {documentIds : List String} {calls : List Call}
      (h : calls.filterMap Call.listed? = []) :
      (.check false :: .list space.key (.ok documentIds) :: calls).filterMap Call.listed? <+:
        [space.key] := by
    have hone : space.key :: calls.filterMap Call.listed? = [space.key] := by rw [h]
    exact hone ▸ List.prefix_rfl
  cases h with
  | cancelled => exact List.nil_prefix
  | aborted p he => exact List.prefix_rfl
  | notListed p now he => exact List.prefix_rfl
  | interrupted h => exact hlist h.listed_eq_nil
  | finished now h => exact hlist h.listed_eq_nil

theorem SpacesTranscript.listed_prefix {jobId : String} {r : Except MigrationError Unit}
    (h : SpacesTranscript jobId entries calls p r p') :
    calls.filterMap Call.listed? <+: entries.map fun entry => entry.1.key := by
  induction h with
  | nil => exact List.nil_prefix
  | stopped h => exact h.listed_prefix.trans (List.prefix_append _ _)
  | next h _ ih =>
    obtain ⟨documents, hvisits⟩ := h.visits
    rw [List.filterMap_append, hvisits.listed, List.map_cons]
    exact (List.prefix_append_right_inj _).2 ih

theorem Stretch.loaded_mem (h : Stretch entries calls) {spaceKey documentId : String}
    {result : Except MigrationError SourceDocument}
    (hc : .load spaceKey documentId result ∈ calls) :
    spaceKey ∈ entries.map fun entry => entry.1.key := by
  cases h with
  | nil => simp at hc
  | list => simp at hc
  | document hentry h =>
    obtain ⟨loaded, rest, rfl, hgoes, -⟩ := h.exists_load
    rcases List.mem_cons.1 hc with hload | hc
    · cases hload
      exact List.mem_map_of_mem hentry
    · cases hgoes _ hc

theorem Stretch.saved_of_mem (h : Stretch entries calls) {d : TargetDocument}
    {result : Except MigrationError Unit} (hc : .save d result ∈ calls) :
    ∃ entry ∈ entries, ∃ documentId document content,
      .load entry.1.key documentId (.ok document) ∈ calls ∧
        d = document.migrated entry.1.key entry.2 content := by
  cases h with
  | nil => simp at hc
  | list => simp at hc
  | @document entry documentId calls r hentry h =>
    obtain ⟨loaded, rest, rfl, -, hsaved⟩ := h.exists_load
    have hmem : d ∈ rest.filterMap Call.savedDocument? := by
      refine List.mem_filterMap.2 ⟨_, (List.mem_cons.1 hc).resolve_left (by simp), rfl⟩
    obtain hnone | ⟨document, content, rfl, hone⟩ := hsaved
    · simp [hnone] at hmem
    · rw [hone, List.mem_singleton] at hmem
      exact ⟨entry, hentry, documentId, document, content, List.mem_cons_self, hmem⟩

/-- **A run is governed by its answer.** -/
theorem RunTranscript.governed {job : MigrationJob} {snapshot : JobSnapshot}
    (h : RunTranscript job calls snapshot) : job.effectiveAnswer.Governs calls where
  listed := by
    cases h with
    | cancelled => exact List.nil_prefix
    | aborted startedAt opened now finishedAt h => exact h.listed_prefix
    | finished startedAt opened now finishedAt h => exact h.listed_prefix
  loaded := by
    intro document hdocument
    obtain ⟨call, hc, hloaded⟩ := List.mem_filterMap.1 hdocument
    cases call with
    | load spaceKey documentId result =>
      cases hloaded
      obtain ⟨b, hb⟩ | ⟨stretch, hstretch, hmem, -⟩ := h.paced.exists_stretch hc
      · cases hb
      · exact hstretch.loaded_mem hmem
    | _ => cases hloaded
  saved := by
    intro d hd
    obtain ⟨call, hc, hsaved⟩ := List.mem_filterMap.1 hd
    cases call with
    | save d' result =>
      cases hsaved
      obtain ⟨b, hb⟩ | ⟨stretch, hstretch, hmem, hsub⟩ := h.paced.exists_stretch hc
      · cases hb
      · obtain ⟨entry, hentry, documentId, document, content, hload, hd⟩ :=
          hstretch.saved_of_mem hmem
        exact ⟨entry, hentry, documentId, document, content, hsub hload, hd⟩
    | _ => cases hsaved

end

/-- **A run uses the first accepted answer, and no other.** Offer answers to a new job and run it,
over any host. Before the first accepted answer each offer returns the error of its own answer and
leaves the job without one; the accepted answer stays the answer of the job whatever is offered
after it, which is all refused. A run that is not cancelled at its start keeps this answer in its
snapshot and is governed by it, or by the default answer if there is none; a run that succeeds lists
all its spaces. -/
theorem MigrationJob.run_uses_first_accepted_answer {σ : Type} (id : String)
    (request : MigrationRequest) (answers : List SpaceAnswer) (host : Host (StateM σ)) (world : σ) :
    let question := SpaceQuestion.new request.spaces
    let job := (new id request).offered answers
    let ((snapshot, calls), _) := ((job.run host.observed).run []).run world
    ∃ refused rest, answers = refused ++ rest ∧
      (∀ answer ∈ refused, question.check answer ≠ .ok ()) ∧
      (∀ accepted ∈ rest.head?, question.check accepted = .ok ()) ∧
      (new id request).responses answers =
        refused.map (fun answer => (question.check answer, none)) ++ settledResponses rest ∧
      job.answer = rest.head? ∧
      (calls = [.check true] ∧ snapshot.answer = rest.head?.getD .empty ∨
        snapshot.answer = rest.head?.getD (question.defaultAnswer request.targetRoot) ∧
          snapshot.answer.Governs calls ∧
          (snapshot.state = .finishedSuccess →
            calls.filterMap Call.listed? = snapshot.answer.keys)) := by
  intro question job
  have h : RunTranscript job _ _ := (job.observed_transcript host (world, ())).1
  change RunTranscript job (((job.run host.observed).run []).run world).1.2
    (((job.run host.observed).run []).run world).1.1 at h
  generalize ((job.run host.observed).run []).run world = outcome at h ⊢
  obtain ⟨⟨snapshot, calls⟩, world'⟩ := outcome
  change RunTranscript job calls snapshot at h
  obtain ⟨refused, rest, hsplit, hrefused, haccepted, hresponses, hjob⟩ :=
    (new id request).exists_first_accepted rfl answers
  have hanswer : job.answer = rest.head? := congrArg MigrationJob.answer hjob
  have heffective : job.effectiveAnswer =
      rest.head?.getD (question.defaultAnswer request.targetRoot) :=
    congrArg effectiveAnswer hjob
  refine ⟨refused, rest, hsplit, hrefused, haccepted, hresponses, hanswer, ?_⟩
  rcases h.answer_cases with ⟨hcalls, hempty, -⟩ | ⟨hused, -⟩
  · exact .inl ⟨hcalls, hanswer ▸ hempty⟩
  · refine .inr ⟨hused.trans heffective, hused ▸ h.governed, ?_⟩
    intro hs
    obtain ⟨-, -, documents, hvisits⟩ := h.of_success hs
    exact hvisits.listed

end SpaceMigration
