import SpaceMigration.Proofs.DocumentOrder
import SpaceMigration.Proofs.Ending
import SpaceMigration.Proofs.Stretches
import SpaceMigration.Proofs.TurnPrograms

/-!
# Steady runs

The surroundings of a job are steady when they give the same answer whenever they are asked the same
question, and take every document that they are handed. A steady run that nothing stops has no
history: what it saves and what it counts for a space follow from the answers alone, whatever other
spaces do meanwhile. In which order this happens follows from the turns of the spaces, and from the
number of documents of each of them (`documentOrder`, `endOrder`).

`SteadySource` holds these answers as values. Of an error it keeps that there is one, since a run
that is not stopped by an error does nothing with it but write it down.

## Main definitions

* `SteadySource` — the answers of steady surroundings
* `SteadySource.turnsLeft`, `SteadySource.Fits` — what is left of a space on its way, and what it
  has come to know so far

## Main results

* `StepTranscript.of_steady`, `TurnsTranscript.of_steady` — one turn, and all of them
* `TurnsRun.of_steady` — the saves and the results of a steady run
-/

namespace SpaceMigration

/-! ### Steady answers -/

/-- What a job is handed when it lists, loads and converts: nothing where there is an error. -/
structure SteadySource where
  /-- The identifiers of the documents of a space. -/
  list : (spaceKey : String) → Option (List String)
  /-- A document of a space. -/
  load : (spaceKey documentId : String) → Option SourceDocument
  /-- What becomes of a macro. -/
  convert : Occurrence → Option Conversion

/-- The call was answered as the source says, or was a save that was taken. -/
def Call.AnsweredBy (source : SteadySource) : Call → Prop
  | .check _ => True
  | .list spaceKey result => result.toOption = source.list spaceKey
  | .load spaceKey documentId result => result.toOption = source.load spaceKey documentId
  | .convert o result => result.toOption = source.convert o
  | .save _ result => result = .ok ()

namespace SteadySource

variable (source : SteadySource)

/-- The text of a block in the target, unless it is a macro that fails. -/
def text? : ContentBlock → Option String
  | .text content => some content
  | .call o => (source.convert o).map fun
    | .replaced replacement => replacement.toCall
    | .unchanged => o.toCall

/-- The content of a document in the target: the texts of its blocks, unless one has none. -/
def content? (blocks : List ContentBlock) : Option String :=
  (blocks.mapM source.text?).map String.join

/-- Whether a document of a space loads and converts. -/
def migrates (spaceKey documentId : String) : Bool :=
  ((source.load spaceKey documentId).bind fun document =>
    source.content? document.content).isSome

/-- What is saved for a document of a space, unless it does not load or does not convert. -/
def saved? (spaceKey : String) (target : EntityReference) (documentId : String) :
    Option TargetDocument := do
  let document ← source.load spaceKey documentId
  let content ← source.content? document.content
  return document.migrated spaceKey target content

/-- The documents of a space. A space that cannot be listed has none. -/
def documentIds (spaceKey : String) : List String :=
  (source.list spaceKey).getD []

/-- The result of a space. A space that cannot be listed has none. -/
def result? (space : SpaceSelection) (target : EntityReference) : Option SpaceResult :=
  (source.list space.key).map fun documentIds => {
    space := space
    target := target
    documentsMigrated := documentIds.countP (source.migrates space.key)
    documentsFailed := documentIds.countP fun documentId => !source.migrates space.key documentId }

theorem space_of_result? {source : SteadySource} {space : SpaceSelection}
    {target : EntityReference} {result : SpaceResult}
    (h : source.result? space target = some result) : result.space = space := by
  obtain ⟨documentIds, -, rfl⟩ := Option.map_eq_some_iff.1 h
  rfl

theorem content?_nil : source.content? [] = some "" := by
  simp [content?]

theorem content?_cons (block : ContentBlock) (rest : List ContentBlock) :
    source.content? (block :: rest) =
      (source.text? block).bind fun text => (source.content? rest).map (text ++ ·) := by
  rw [content?, content?, List.mapM_cons]
  cases source.text? block with
  | none => rfl
  | some text =>
    cases rest.mapM source.text? with
    | none => rfl
    | some texts => simp [String.join_cons]

theorem saved?_of_load {spaceKey documentId : String} {document : SourceDocument}
    (h : source.load spaceKey documentId = some document) (target : EntityReference) :
    source.saved? spaceKey target documentId =
      (source.content? document.content).map (document.migrated spaceKey target) := by
  rw [saved?, h]
  cases hcontent : source.content? document.content <;> simp [hcontent]

theorem isSome_saved? (spaceKey : String) (target : EntityReference) (documentId : String) :
    (source.saved? spaceKey target documentId).isSome = source.migrates spaceKey documentId := by
  rw [migrates]
  cases hload : source.load spaceKey documentId with
  | none => simp [saved?, hload]
  | some document => simp [source.saved?_of_load hload]

end SteadySource


theorem filterMap_cons_toList {α β : Type} (f : α → Option β) (x : α) (xs : List α) :
    (x :: xs).filterMap f = (f x).toList ++ xs.filterMap f := by
  cases h : f x <;> simp [h]

/-! ### One document -/

section

variable {source : SteadySource} {calls : List Call}

/-- The blocks of a document convert to its content, or fail when there is none. -/
theorem BlocksTranscript.content {blocks : List ContentBlock}
    {r : Except MigrationError (String × Tally)} (h : BlocksTranscript blocks calls r)
    (hcalls : ∀ call ∈ calls, call.AnsweredBy source) :
    r.toOption.map (·.1) = source.content? blocks := by
  have hcons (text : String) (count : Tally → Tally) (r : Except MigrationError (String × Tally)) :
      (r.map fun tail => (text ++ tail.1, count tail.2)).toOption.map (·.1) =
        (r.toOption.map (·.1)).map (text ++ ·) := by
    cases r <;> rfl
  induction h with
  | nil => rw [source.content?_nil]; rfl
  | text content _ ih =>
    rw [source.content?_cons, SteadySource.text?, Option.bind_some, ← ih hcalls]
    exact hcons content id _
  | failed o e =>
    have hconvert : none = source.convert o := hcalls _ List.mem_cons_self
    rw [source.content?_cons, SteadySource.text?, ← hconvert]
    rfl
  | replaced o replacement _ ih =>
    obtain ⟨hconvert, hcalls⟩ := List.forall_mem_cons.1 hcalls
    have hconvert : some (.replaced replacement) = source.convert o := hconvert
    rw [source.content?_cons, SteadySource.text?, ← hconvert, ← ih hcalls]
    exact hcons replacement.toCall (fun tally => { tally with replaced := tally.replaced + 1 }) _
  | kept o _ ih =>
    obtain ⟨hconvert, hcalls⟩ := List.forall_mem_cons.1 hcalls
    have hconvert : some .unchanged = source.convert o := hconvert
    rw [source.content?_cons, SteadySource.text?, ← hconvert, ← ih hcalls]
    exact hcons o.toCall (fun tally => { tally with kept := tally.kept + 1 }) _

/-- A document is migrated if and only if there is something to save for it, and that is saved. -/
theorem DocumentTranscript.of_steady {spaceKey documentId : String} {target : EntityReference}
    {r : Except MigrationError Tally} (h : DocumentTranscript spaceKey target documentId calls r)
    (hcalls : ∀ call ∈ calls, call.AnsweredBy source) :
    calls.filterMap Call.savedDocument? = (source.saved? spaceKey target documentId).toList ∧
      source.migrates spaceKey documentId = r.toOption.isSome := by
  rw [← source.isSome_saved? spaceKey target]
  cases h with
  | notLoaded e =>
    have hload : none = source.load spaceKey documentId := hcalls _ List.mem_cons_self
    have hnone : source.saved? spaceKey target documentId = none := by
      rw [SteadySource.saved?, ← hload]
      rfl
    rw [hnone]
    exact ⟨rfl, rfl⟩
  | @notConverted document calls e h =>
    obtain ⟨hload, hcalls⟩ := List.forall_mem_cons.1 hcalls
    have hload : some document = source.load spaceKey documentId := hload
    have hcontent : none = source.content? document.content := h.content hcalls
    rw [source.saved?_of_load hload.symm, ← hcontent, List.filterMap_cons_none rfl, h.saves]
    exact ⟨rfl, rfl⟩
  | @saved document calls content tally h result =>
    obtain ⟨hload, hcalls⟩ := List.forall_mem_cons.1 hcalls
    obtain ⟨hblocks, hsave⟩ := List.forall_mem_append.1 hcalls
    have hload : some document = source.load spaceKey documentId := hload
    have hcontent : some content = source.content? document.content := h.content hblocks
    obtain rfl : result = .ok () := hsave _ List.mem_cons_self
    rw [source.saved?_of_load hload.symm, ← hcontent, List.filterMap_cons_none rfl,
      List.filterMap_append, h.saves]
    exact ⟨rfl, rfl⟩

end

/-! ### A space on its way -/

namespace SteadySource

variable (source : SteadySource)

/-- What is saved for a document of an entry of the answer. -/
def savedFor? (document : (SpaceSelection × EntityReference) × String) : Option TargetDocument :=
  source.saved? document.1.1.key document.1.2 document.2

/-- The result of an entry of the answer. -/
def resultFor? (entry : SpaceSelection × EntityReference) : Option SpaceResult :=
  source.result? entry.1 entry.2

/-- The turns that are left of a space, if nothing stops it. -/
def turnsLeft (task : SpaceTask) :
    SpaceTurn (SpaceSelection × EntityReference) ×
      List (SpaceTurn (SpaceSelection × EntityReference)) :=
  let works : SpaceTurn (SpaceSelection × EntityReference) := ⟨task.entry, .works, false⟩
  let settles (position : Position) : SpaceTurn (SpaceSelection × EntityReference) :=
    ⟨task.entry, .settles position.documentId, position.rest.isEmpty⟩
  match task.stage with
  | .toEnter => spaceTurns (task.entry, source.documentIds task.space.key)
  | .toList =>
    (⟨task.entry, .lists, (source.documentIds task.space.key).isEmpty⟩,
      documentTurns task.entry (source.documentIds task.space.key))
  | .toCheck position =>
    (works, works :: settles position :: documentTurns task.entry position.rest)
  | .toLoad position => (works, settles position :: documentTurns task.entry position.rest)
  | .toSave position _ => (settles position, documentTurns task.entry position.rest)

/-- The documents in front of the position are counted as the source says, and those from there on
are the others of the space. -/
def FitsAt (spaceKey : String) (position : Position) : Prop :=
  ∃ done, source.list spaceKey = some (done ++ position.documentId :: position.rest) ∧
    position.migrated = done.countP (source.migrates spaceKey) ∧
    position.failed = done.countP fun documentId => !source.migrates spaceKey documentId

/-- What the space has come to know so far is as the source says, and does not stop it. -/
def Fits (task : SpaceTask) : Prop :=
  match task.stage with
  | .toEnter | .toList => True
  | .toCheck position | .toLoad position => source.FitsAt task.space.key position
  | .toSave position loaded =>
    source.FitsAt task.space.key position ∧
      ¬ (Call.load task.space.key position.documentId loaded).Stops ∧
      (Call.load task.space.key position.documentId loaded).AnsweredBy source

end SteadySource

/-! ### One turn -/

section

variable {source : SteadySource} {jobId : String} {space : SpaceSelection}
  {target : EntityReference} {stage : Stage} {calls : List Call} {events : List LogEvent}
  {results : List SpaceResult}

/-- Going on behind the documents that are done. -/
theorem NextTranscript.of_steady {documentIds : List String} {next : Option Stage}
    (done : List String) (h : NextTranscript space target (done.countP (source.migrates space.key))
      (done.countP fun documentId => !source.migrates space.key documentId) documentIds events
      results next) (hlist : source.list space.key = some (done ++ documentIds)) :
    (next.map (SpaceTask.mk space target)).map source.turnsLeft =
        stepsLeft? (documentTurns (space, target) documentIds) ∧
      (∀ later, next = some later → source.Fits ⟨space, target, later⟩) ∧
      results = ((if documentIds.isEmpty then some (space, target) else none).bind
        source.resultFor?).toList := by
  cases h with
  | ends stamp =>
    rw [List.append_nil] at hlist
    refine ⟨rfl, by rintro _ ⟨⟩, ?_⟩
    simp [SteadySource.resultFor?, SteadySource.result?, hlist]
  | goesOn documentId rest =>
    refine ⟨rfl, ?_, rfl⟩
    rintro _ ⟨⟩
    exact ⟨done, hlist, rfl, rfl⟩

/-- **One turn of a steady space that nothing stops** is the next one that was left of it. -/
theorem StepTranscript.of_steady {r : Except MigrationError (Option Stage)}
    (h : StepTranscript jobId space target stage calls events results r)
    (hgoes : ∀ call ∈ calls, ¬ call.Stops) (hcalls : ∀ call ∈ calls, call.AnsweredBy source)
    (hfits : source.Fits ⟨space, target, stage⟩) :
    let left := source.turnsLeft ⟨space, target, stage⟩
    ∃ next, r = .ok next ∧
      (next.map (SpaceTask.mk space target)).map source.turnsLeft = stepsLeft? left.2 ∧
      (∀ later, next = some later → source.Fits ⟨space, target, later⟩) ∧
      calls.filterMap Call.savedDocument? = (left.1.document?.bind source.savedFor?).toList ∧
      results = (left.1.ended?.bind source.resultFor?).toList := by
  intro left
  cases h with
  | cancelled | stopped => exact absurd (.inl rfl) (hgoes _ List.mem_cons_self)
  | listAborted he => exact absurd (.inr ⟨_, rfl, he⟩) (hgoes _ List.mem_cons_self)
  | loadAborted position he => exact absurd (.inr ⟨_, rfl, he⟩) (hgoes _ List.mem_cons_self)
  | entered => exact ⟨_, rfl, rfl, by rintro _ ⟨⟩; trivial, rfl, rfl⟩
  | notListed stamp he =>
    have hlist : none = source.list space.key := hcalls _ List.mem_cons_self
    refine ⟨none, rfl, ?_, by rintro _ ⟨⟩, rfl, ?_⟩
    · simp [left, SteadySource.turnsLeft, SteadySource.documentIds, ← hlist, documentTurns,
        stepsLeft?]
    · simp [left, SteadySource.turnsLeft, SteadySource.documentIds, ← hlist, SpaceTurn.ended?,
        SteadySource.resultFor?, SteadySource.result?, SpaceTask.entry]
  | @listed documentIds events results next h =>
    have hlist : some documentIds = source.list space.key := hcalls _ List.mem_cons_self
    have hids : source.documentIds space.key = documentIds := by
      rw [SteadySource.documentIds, ← hlist]
      rfl
    obtain ⟨hleft, hnext, hresults⟩ := h.of_steady [] hlist.symm
    refine ⟨next, rfl, ?_, hnext, rfl, ?_⟩
    · simp only [left, SteadySource.turnsLeft, hids]
      exact hleft
    · simp only [left, SteadySource.turnsLeft, hids]
      exact hresults
  | checked position => exact ⟨_, rfl, rfl, by rintro _ ⟨⟩; exact hfits, rfl, rfl⟩
  | loaded position loaded h =>
    refine ⟨_, rfl, rfl, ?_, rfl, rfl⟩
    rintro _ ⟨⟩
    exact ⟨hfits, hgoes _ List.mem_cons_self, hcalls _ List.mem_cons_self⟩
  | saveAborted h he =>
    obtain ⟨-, hload, -⟩ := hfits
    have hstop : StopsAt jobId _ _ := h.stopsAt
    rw [stopping?_error, if_pos he] at hstop
    obtain ⟨before, last, hsplit, -, hlast⟩ := hstop
    have hmem : last ∈ before ++ [last] := by simp
    rw [← hsplit] at hmem
    obtain rfl | hmem := List.mem_cons.1 hmem
    · exact absurd hlast.stops hload
    · exact absurd hlast.stops (hgoes last hmem)
  | @settled position loaded calls outcome events results next stamp h hplain hnext =>
    obtain ⟨⟨done, hlist, hmigrated, hfailed⟩, -, hload⟩ := hfits
    obtain ⟨hsaved, hmigrates⟩ := h.of_steady (List.forall_mem_cons.2 ⟨hload, hcalls⟩)
    -- The document that is through with the turn is one more of those that are done.
    have hcounts : position.count outcome.toOption.isSome =
        ((done ++ [position.documentId]).countP (source.migrates space.key),
          (done ++ [position.documentId]).countP fun documentId =>
            !source.migrates space.key documentId) := by
      rw [← hmigrates, Position.count, List.countP_append, List.countP_append, ← hmigrated,
        ← hfailed, List.countP_singleton, List.countP_singleton]
      cases source.migrates space.key position.documentId <;> rfl
    rw [hcounts] at hnext
    obtain ⟨hleft, hfits', hresults⟩ :=
      hnext.of_steady (done ++ [position.documentId]) (by rw [hlist]; simp)
    refine ⟨next, rfl, hleft, hfits', ?_, hresults⟩
    rw [List.filterMap_cons_none rfl] at hsaved
    exact hsaved

end

/-! ### All turns -/

namespace SteadySource

variable (source : SteadySource)

/-- The part of a run is the turn, in its place among the turns that are left of a space. -/
def Makes (jobId : String) (turn : SpaceTurn (SpaceSelection × EntityReference))
    (part : SpacePart) : Prop :=
  ∃ task next, source.Fits task ∧ (source.turnsLeft task).1 = turn ∧
    task.Steps jobId part (.ok next) ∧ (∀ call ∈ part.calls, ¬ call.Stops) ∧
    ∀ call ∈ part.calls, call.AnsweredBy source

theorem Makes.saved {source : SteadySource} {jobId : String}
    {turn : SpaceTurn (SpaceSelection × EntityReference)} {part : SpacePart}
    (h : source.Makes jobId turn part) :
    part.calls.filterMap Call.savedDocument? =
      (turn.document?.bind source.savedFor?).toList := by
  obtain ⟨task, next, hfits, rfl, hsteps, hgoes, hcalls⟩ := h
  obtain ⟨-, -, -, -, hsaved, -⟩ := hsteps.transcript.of_steady hgoes hcalls hfits
  exact hsaved

theorem Makes.results {source : SteadySource} {jobId : String}
    {turn : SpaceTurn (SpaceSelection × EntityReference)} {part : SpacePart}
    (h : source.Makes jobId turn part) :
    part.results = (turn.ended?.bind source.resultFor?).toList := by
  obtain ⟨task, next, hfits, rfl, hsteps, hgoes, hcalls⟩ := h
  obtain ⟨-, -, -, -, -, hresults⟩ := hsteps.transcript.of_steady hgoes hcalls hfits
  exact hresults

end SteadySource

/-- What the turns of a list bring one by one, they bring together. -/
theorem flatMap_eq_of_forall₂ {α β γ : Type} {R : α → β → Prop} {f : α → List γ}
    {g : β → List γ} {xs : List α} {ys : List β} (h : List.Forall₂ R xs ys)
    (heq : ∀ x, ∀ y ∈ ys, R x y → g y = f x) : ys.flatMap g = xs.flatMap f := by
  induction h with
  | nil => rfl
  | cons hxy _ ih =>
    rw [List.flatMap_cons, List.flatMap_cons, heq _ _ List.mem_cons_self hxy,
      ih fun x y hy => heq x y (List.mem_cons_of_mem _ hy)]

section

variable {source : SteadySource} {jobId : String} {room : Nat} {turns : List Nat}
  {tasks : List SpaceTask} {parts : List SpacePart} {r : Except MigrationError Unit}

/-- **All turns of steady spaces that nothing stops** are those that were left of them. -/
theorem TurnsTranscript.of_steady (h : TurnsTranscript jobId room turns tasks parts r)
    (hgoes : ∀ call ∈ parts.flatMap (·.calls), ¬ call.Stops)
    (hcalls : ∀ call ∈ parts.flatMap (·.calls), call.AnsweredBy source)
    (hfits : ∀ task ∈ tasks, source.Fits task) :
    r = .ok () ∧ List.Forall₂ (source.Makes jobId)
      (weave room turns (tasks.map source.turnsLeft)) parts := by
  induction h with
  | done turns =>
    rw [List.map_nil, weave_eq_nil]
    exact ⟨rfl, .nil⟩
  | @stopped turns tasks part e turn hturn h =>
    rw [List.flatMap_singleton] at hgoes hcalls
    have htask := hfits _ (Turn.task_mem hturn)
    obtain ⟨_, ⟨⟩, -⟩ := h.transcript.of_steady hgoes hcalls htask
  | @next turns tasks part next parts r turn hturn h _ ih =>
    rw [List.flatMap_cons] at hgoes hcalls
    obtain ⟨hgoesNow, hgoes⟩ := List.forall_mem_append.1 hgoes
    obtain ⟨hcallsNow, hcalls⟩ := List.forall_mem_append.1 hcalls
    have htask := hfits _ (Turn.task_mem hturn)
    obtain ⟨_, ⟨⟩, hleft, hnext, -⟩ := h.transcript.of_steady hgoesNow hcallsNow htask
    have hfits' : ∀ task ∈ turn.leave (next.map turn.task.goOn), source.Fits task := by
      intro task htask
      obtain hsome | hother := turn.mem_leave.1 htask
      · obtain ⟨later, rfl, rfl⟩ := Option.map_eq_some_iff.1 hsome
        exact hnext later rfl
      · exact hfits task (Turn.mem_of_mem_others hturn hother)
    obtain ⟨hr, hrest⟩ := ih hgoes hcalls hfits'
    have horder : weave room turns (tasks.map source.turnsLeft) =
        (source.turnsLeft turn.task).1 :: weave room turns.tail
          ((turn.leave (next.map turn.task.goOn)).map source.turnsLeft) := by
      have hmapped := Turn.of?_map source.turnsLeft room turns tasks
      rw [hturn] at hmapped
      rw [weave_of_turn hmapped, ← Turn.leave_map]
      exact congrArg (fun next => _ :: weave room turns.tail ((turn.map _).leave next)) hleft.symm
    rw [horder]
    exact ⟨hr, .cons ⟨turn.task, next, htask, rfl, h, hgoesNow, hcallsNow⟩ hrest⟩

end

/-! ### Whole runs -/

/-- The spaces of the answer of a job, each with its documents. -/
def MigrationJob.spaces (job : MigrationJob) (documentIds : String → List String) :
    List ((SpaceSelection × EntityReference) × List String) :=
  job.effectiveAnswer.entries.map fun entry => (entry, documentIds entry.1.key)

theorem MigrationJob.map_fst_spaces (job : MigrationJob) (documentIds : String → List String) :
    (job.spaces documentIds).map (·.1) = job.effectiveAnswer.entries := by
  rw [spaces, List.map_map]
  exact List.map_id _

/-- The turns of a steady run that nothing stops. -/
theorem TurnsTranscript.turnOrder_of_steady {source : SteadySource} {job : MigrationJob}
    {turns : List Nat} {parts : List SpacePart} {r : Except MigrationError Unit}
    (h : TurnsTranscript job.id job.maxParallelSpaces turns
      (job.effectiveAnswer.entries.map .entering) parts r)
    (hgoes : ∀ call ∈ parts.flatMap (·.calls), ¬ call.Stops)
    (hcalls : ∀ call ∈ parts.flatMap (·.calls), call.AnsweredBy source) :
    r = .ok () ∧ List.Forall₂ (source.Makes job.id)
      (turnOrder job.maxParallelSpaces turns (job.spaces source.documentIds)) parts := by
  have hfits : ∀ task ∈ job.effectiveAnswer.entries.map SpaceTask.entering,
      source.Fits task := by
    intro task htask
    obtain ⟨entry, -, rfl⟩ := List.mem_map.1 htask
    trivial
  have hspaces : (job.effectiveAnswer.entries.map SpaceTask.entering).map source.turnsLeft =
      (job.spaces source.documentIds).map spaceTurns := by
    simp only [MigrationJob.spaces, List.map_map]
    rfl
  have hall := h.of_steady hgoes hcalls hfits
  rwa [hspaces] at hall

/-- **A steady run that nothing stops** comes to its end, and the answers of its source determine
what it saves and what it counts, in an order that its turns determine. -/
theorem TurnsRun.of_steady {source : SteadySource} {job : MigrationJob} {turns : List Nat}
    {calls : List Call} {snapshot : JobSnapshot} (h : TurnsRun job turns calls snapshot)
    (hgoes : ∀ call ∈ calls, ¬ call.Stops) (hcalls : ∀ call ∈ calls, call.AnsweredBy source) :
    let spaces := job.spaces source.documentIds
    snapshot.state = .finishedSuccess ∧ snapshot.answer = job.effectiveAnswer ∧
      calls.filterMap Call.savedDocument? =
        (documentOrder job.maxParallelSpaces turns spaces).filterMap source.savedFor? ∧
      snapshot.results =
        (endOrder job.maxParallelSpaces turns spaces).filterMap source.resultFor? := by
  intro spaces
  cases h with
  | cancelled => exact absurd (.inl rfl) (hgoes (.check true) (by simp))
  | @ended parts outcome startedAt opened now finishedAt h =>
    obtain ⟨rfl, hmade⟩ := h.turnOrder_of_steady (List.forall_mem_cons.1 hgoes).2
      (List.forall_mem_cons.1 hcalls).2
    refine ⟨rfl, rfl, ?_, ?_⟩
    · rw [List.filterMap_cons_none rfl, List.filterMap_flatMap, documentOrder,
        List.filterMap_filterMap, List.filterMap_eq_flatMap_toList]
      exact flatMap_eq_of_forall₂ hmade fun _ _ _ h => h.saved
    · rw [endOrder, List.filterMap_filterMap, List.filterMap_eq_flatMap_toList]
      exact flatMap_eq_of_forall₂ hmade fun _ _ _ h => h.results

end SpaceMigration
