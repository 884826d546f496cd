import Mathlib.Data.List.Chain
import SpaceMigration.Proofs.Launches

/-!
# Histories of launches

The program is launched again and again on one database, which has no rows at first. Each launch has
arguments, configuration and export of its own. An account of one audit document follows the
launches: its row is there as soon as one of them has created it, and executed as soon as one of
them has migrated for it. No two launches migrate for the same document, and a launch that is told
to migrate for a document that was not created, or has had its run, fails and leaves every row as it
is.

## Main definitions

* `Launch.Creates`, `Launch.Saves` — what a launch has done for an audit document
* `History` — launches on one database, one after another
* `Account` — what the row of an audit document says about the launches so far

## Main results

* `Account.snoc` — a launch keeps the account
* `audit_document_runs_once` — at most one run saves for an audit document, in every history
-/

namespace SpaceMigration

variable {document : EntityReference} {store store' : Store}

theorem Store.isExecuted_congr
    (h : store'.audit.get? document.path = store.audit.get? document.path) :
    store'.isExecuted document = store.isExecuted document := by
  rw [isExecuted, isExecuted, h]

theorem Store.withAuditRow_of_exists_row (h : ∃ row, store.audit.get? document.path = some row) :
    store.withAuditRow document = store := by
  have hcontains : store.audit.contains document.path = true := Option.isSome_iff_exists.2 h
  rw [withAuditRow, if_pos hcontains]

theorem Store.isExecuted_withAuditRow (store : Store) (document : EntityReference) :
    (store.withAuditRow document).isExecuted document = store.isExecuted document := by
  rw [isExecuted, isExecuted, get?_withAuditRow, if_pos rfl]
  cases store.audit.get? document.path <;> rfl

namespace CommandLine

namespace Launch

/-- The launch is told to migrate for the audit document. -/
def Runs (document : EntityReference) (l : Launch) : Prop :=
  ∃ options, l.command? = some (.run options) ∧ options.auditDocument = document.path

/-- The launch is told to create the audit document, and has changed the database. -/
def Creates (database : String) (document : EntityReference) (l : Launch) : Prop :=
  l.command? = some (.initAudit document.path) ∧ l.after database ≠ l.before database

/-- The launch is told to migrate for the audit document, and has changed the database. -/
def Saves (database : String) (document : EntityReference) (l : Launch) : Prop :=
  l.Runs document ∧ l.after database ≠ l.before database

end Launch

/-- Launches on one database, each of which finds the rows that the one before has left. The first
one finds none. -/
structure History (database : String) (launches : List Launch) : Prop where
  uses : ∀ l ∈ launches, l.Uses database
  first : ∀ l ∈ launches.head?, l.before database = .ok .empty
  linked : launches.IsChain fun l next => next.before database = l.after database

/-- The row of the audit document after the launches says what they have done for it, and at most
one of them has saved for it. -/
structure Account (database : String) (document : EntityReference) (launches : List Launch)
    (store : Store) : Prop where
  created : store.audit.get? document.path ≠ none ↔ ∃ l ∈ launches, l.Creates database document
  executed : store.isExecuted document = true ↔ ∃ l ∈ launches, l.Saves database document
  once : launches.Pairwise fun l l' =>
    ¬ (l.Saves database document ∧ l'.Saves database document)

variable {database : String} {document : EntityReference} {launches : List Launch} {l : Launch}
  {store store' : Store}

/-! ### One more launch -/

theorem Account.nil (database : String) (document : EntityReference) :
    Account database document [] .empty where
  created := by simp [Store.empty]
  executed := by simp [Store.empty, Store.isExecuted]
  once := .nil

/-- What a launch has to do to the row of the document to keep the account. -/
theorem Account.snoc_of (h : Account database document launches store)
    (hcreated : store'.audit.get? document.path ≠ none ↔
      store.audit.get? document.path ≠ none ∨ l.Creates database document)
    (hexecuted : store'.isExecuted document = true ↔
      store.isExecuted document = true ∨ l.Saves database document)
    (hwaited : l.Saves database document → store.isExecuted document = false) :
    Account database document (launches ++ [l]) store' where
  created := by
    rw [hcreated, h.created]
    simp [or_and_right, exists_or]
  executed := by
    rw [hexecuted, h.executed]
    simp [or_and_right, exists_or]
  once := by
    rw [List.pairwise_append]
    refine ⟨h.once, List.pairwise_singleton _ l, ?_⟩
    rintro l' hmem l'' hlast ⟨hsaved, hsaves⟩
    obtain rfl := List.mem_singleton.1 hlast
    have hdone := h.executed.2 ⟨l', hmem, hsaved⟩
    rw [hwaited hsaves] at hdone
    cases hdone

/-- A launch that is not one for the document, or changes no rows, leaves its row alone. -/
theorem Account.snoc_of_get?_eq (h : Account database document launches store)
    (hrow : store'.audit.get? document.path = store.audit.get? document.path)
    (hcreates : ¬ l.Creates database document) (hsaves : ¬ l.Saves database document) :
    Account database document (launches ++ [l]) store' :=
  h.snoc_of (by rw [hrow]; simp [hcreates]) (by rw [Store.isExecuted_congr hrow]; simp [hsaves])
    fun h => absurd h hsaves

/-- Rows that have changed are seen to have changed. -/
theorem Launch.after_ne_before (hbefore : l.before database = .ok store)
    (hafter : l.after database = .ok store') (hne : store' ≠ store) :
    l.after database ≠ l.before database := by
  rw [hbefore, hafter]
  exact fun hsame => hne (Except.ok.inj hsame)

/-- A launch that creates an audit document keeps the account of every document. -/
theorem Account.snoc_created (h : Account database document launches store) {created : String}
    (hcommand : l.command? = some (.initAudit created)) (hbefore : l.before database = .ok store)
    (hafter : l.after database = .ok (store.withAuditRow ⟨created⟩)) :
    Account database document (launches ++ [l]) (store.withAuditRow ⟨created⟩) := by
  have hsaves : ¬ l.Saves database document := by
    rintro ⟨⟨options, hrun, -⟩, -⟩
    cases hcommand.symm.trans hrun
  by_cases hsame : document.path = created
  · obtain rfl : document = ⟨created⟩ := congrArg EntityReference.mk hsame
    cases hold : store.audit.get? created with
    | some row =>
      have hstore : store.withAuditRow ⟨created⟩ = store :=
        Store.withAuditRow_of_exists_row ⟨row, hold⟩
      refine h.snoc_of_get?_eq (by rw [hstore]) ?_ hsaves
      rintro ⟨-, hrows⟩
      rw [hbefore, hafter, hstore] at hrows
      exact hrows rfl
    | none =>
      have hrow : (store.withAuditRow ⟨created⟩).audit.get? created = some .unexecuted := by
        rw [Store.get?_withAuditRow, hold, Option.none_or, if_pos rfl]
      have hcreates : l.Creates database ⟨created⟩ := by
        refine ⟨hcommand, Launch.after_ne_before hbefore hafter ?_⟩
        intro hstore
        rw [hstore, hold] at hrow
        cases hrow
      exact h.snoc_of (by simp [hrow, hcreates])
        (by rw [Store.isExecuted_withAuditRow]; simp [hsaves]) fun h => absurd h hsaves
  · refine h.snoc_of_get?_eq ?_ ?_ hsaves
    · rw [Store.get?_withAuditRow, if_neg hsame, Option.or_none]
    · rintro ⟨hcreate, -⟩
      cases hcommand.symm.trans hcreate
      exact hsame rfl

/-- A launch that executes the record of an audit document keeps the account of every document. -/
theorem Account.snoc_executed (h : Account database document launches store)
    {options : RunOptions} (hcommand : l.command? = some (.run options))
    (hexecutes : store.Executes ⟨options.auditDocument⟩ store')
    (hbefore : l.before database = .ok store) (hafter : l.after database = .ok store') :
    Account database document (launches ++ [l]) store' := by
  have hcreates : ¬ l.Creates database document := by
    rintro ⟨hcreate, -⟩
    cases hcommand.symm.trans hcreate
  by_cases hsame : document.path = options.auditDocument
  · obtain rfl : document = ⟨options.auditDocument⟩ := congrArg EntityReference.mk hsame
    obtain ⟨old, hold⟩ := hexecutes.waits.exists_row
    obtain ⟨row, hrow, hexecuted⟩ := hexecutes.exists_row
    have hwaited := hexecutes.waits.isExecuted
    have hdone : store'.isExecuted ⟨options.auditDocument⟩ = true := by
      rw [Store.isExecuted, hrow, Option.any_some, hexecuted]
    have hsaves : l.Saves database ⟨options.auditDocument⟩ := by
      refine ⟨⟨options, hcommand, rfl⟩, Launch.after_ne_before hbefore hafter ?_⟩
      intro hstore
      rw [hstore, hwaited] at hdone
      cases hdone
    exact h.snoc_of (by simp [hrow, hold]) (by simp [hdone, hsaves]) fun _ => hwaited
  · refine h.snoc_of_get?_eq (hexecutes.get?_of_ne hsame) hcreates ?_
    rintro ⟨⟨options', hrun, hnamed⟩, -⟩
    cases hcommand.symm.trans hrun
    exact hsame hnamed.symm

/-- **A launch keeps the account.** -/
theorem Account.snoc (h : Account database document launches store)
    (hbefore : l.before database = .ok store) (hafter : l.after database = .ok store')
    (heffect : RowEffect l.command? l.outcome.1 store store') :
    Account database document (launches ++ [l]) store' := by
  cases heffect with
  | nothing =>
    have hsame := hafter.trans hbefore.symm
    exact h.snoc_of_get?_eq rfl (fun h => h.2 hsame) fun h => h.2 hsame
  | created created hcommand => exact h.snoc_created hcommand hbefore hafter
  | executed options hcommand hexecutes => exact h.snoc_executed hcommand hexecutes hbefore hafter

/-! ### Whole histories -/

/-- The rows of the database after the launches. -/
def rowsAfter (database : String) (launches : List Launch) : Except MigrationError Store :=
  (launches.getLast?.map (·.after database)).getD (.ok .empty)

theorem rowsAfter_concat (database : String) (launches : List Launch) (l : Launch) :
    rowsAfter database (launches ++ [l]) = l.after database := by
  rw [rowsAfter, List.getLast?_concat]
  rfl

theorem History.of_append {later : List Launch} (h : History database (launches ++ later)) :
    History database launches where
  uses l hl := h.uses l (List.mem_append_left later hl)
  first l hl := h.first l (by
    cases launches with
    | nil => cases hl
    | cons => exact hl)
  linked := h.linked.left_of_append

/-- A launch of a history finds the rows that the launches before it have left. -/
theorem History.before_eq {later : List Launch} (h : History database (launches ++ l :: later)) :
    l.before database = rowsAfter database launches := by
  rw [rowsAfter]
  cases hlast : launches.getLast? with
  | none =>
    rw [List.getLast?_eq_none_iff] at hlast
    subst hlast
    exact h.first l rfl
  | some last => exact (List.isChain_append.1 h.linked).2.2 last hlast l rfl

/-- **Every history has an account of every audit document.** -/
theorem History.account (h : History database launches) (document : EntityReference) :
    ∃ store, rowsAfter database launches = .ok store ∧
      Account database document launches store := by
  -- The last launch is looked at first: it starts from what the others have left.
  induction launches using List.reverseRecOn with
  | nil => exact ⟨.empty, rfl, .nil database document⟩
  | append_singleton launches l ih =>
    obtain ⟨store, hrows, haccount⟩ := ih h.of_append
    have hbefore : l.before database = .ok store := h.before_eq.trans hrows
    have huses := h.uses l (List.mem_append_right _ (List.mem_singleton_self l))
    obtain ⟨store', hafter, heffect⟩ := Launch.rowEffect huses hbefore
    exact ⟨store', (rowsAfter_concat database launches l).trans hafter,
      haccount.snoc hbefore hafter heffect⟩

/-- A run for a document that does not wait is in vain. -/
theorem RowEffect.in_vain (heffect : RowEffect l.command? l.outcome.1 store store')
    (hruns : l.Runs document) (hidle : ¬ store.Waits document) :
    l.outcome.1.code ≠ 0 ∧ store' = store := by
  obtain ⟨options, hcommand, hnamed⟩ := hruns
  cases heffect with
  | nothing h => exact ⟨h options hcommand, rfl⟩
  | created created hcreate => cases hcommand.symm.trans hcreate
  | executed options' hrun hexecutes =>
    cases hcommand.symm.trans hrun
    obtain rfl : document = ⟨options.auditDocument⟩ := congrArg EntityReference.mk hnamed.symm
    exact absurd hexecutes.waits hidle

/-- **An audit document has one run.** In every history of launches on a database without rows, no
two launches save for the same audit document. Before each launch, the document has a row exactly if
an earlier launch has created it, and the row is executed exactly if an earlier launch has saved for
it. A launch told to run for a document without a row, or with an executed one, fails and leaves all
rows as they are. -/
theorem audit_document_runs_once (h : History database launches) (document : EntityReference) :
    (launches.Pairwise fun l l' =>
      ¬ (l.Saves database document ∧ l'.Saves database document)) ∧
    ∀ earlier l later, launches = earlier ++ l :: later →
      ∃ store, l.before database = .ok store ∧
        (store.audit.get? document.path ≠ none ↔ ∃ l' ∈ earlier, l'.Creates database document) ∧
        (store.isExecuted document = true ↔ ∃ l' ∈ earlier, l'.Saves database document) ∧
        (store.audit.get? document.path = none ∨ store.isExecuted document = true →
          l.Runs document → l.outcome.1.code ≠ 0 ∧ l.after database = .ok store) := by
  obtain ⟨_, -, haccount⟩ := h.account document
  refine ⟨haccount.once, ?_⟩
  rintro earlier l later rfl
  obtain ⟨store, hrows, haccount⟩ := h.of_append.account document
  have hbefore : l.before database = .ok store := h.before_eq.trans hrows
  refine ⟨store, hbefore, haccount.created, haccount.executed, ?_⟩
  intro hstate hruns
  have hidle : ¬ store.Waits document := by
    intro hwaits
    obtain hmissing | hexecuted := hstate
    · obtain ⟨row, hrow⟩ := hwaits.exists_row
      cases hmissing.symm.trans hrow
    · cases hwaits.isExecuted.symm.trans hexecuted
  have huses := h.uses l (List.mem_append_right _ List.mem_cons_self)
  obtain ⟨store', hafter, heffect⟩ := Launch.rowEffect huses hbefore
  obtain ⟨hfailed, rfl⟩ := heffect.in_vain hruns hidle
  exact ⟨hfailed, hafter⟩

/-- Two launches on an empty directory, the second one where the first has left off: the run names
another audit document than the one that was created. -/
theorem run_in_vain_without_audit_document :
    let creation : Launch :=
      ⟨["--db", "sqlite://wiki.db", "init-audit", "audits/first"], .empty, .epoch, "1"⟩
    let run : Launch :=
      ⟨["--db", "sqlite://wiki.db", "run", "--export", "export.json",
        "--audit-doc", "audits/second"], creation.outcome.2, .epoch, "2"⟩
    History "wiki.db" [creation, run] ∧ run.Runs ⟨"audits/second"⟩ ∧ run.outcome.1.code ≠ 0 ∧
      run.after "wiki.db" = run.before "wiki.db" := by
  intro creation run
  have hcreation : Invocation.parse creation.arguments =
      .ok ⟨defaultConfigPath, some "sqlite://wiki.db", .initAudit "audits/first"⟩ := rfl
  have hrun : Invocation.parse run.arguments = .ok ⟨defaultConfigPath, some "sqlite://wiki.db",
      .run ⟨"export.json", "audits/second", [], none⟩⟩ := rfl
  have hurl (location : StoreLocation) (h : StoreLocation.parse "sqlite://wiki.db" = .ok location) :
      Directory.Holds "wiki.db" location := by
    cases Directory.parse_wiki.symm.trans h
    rintro path ⟨⟩
    exact Directory.leads_wiki
  have hhistory : History "wiki.db" [creation, run] := by
    refine ⟨?_, ?_, ?_⟩
    · simp only [List.forall_mem_cons]
      exact ⟨.of_databaseUrl hcreation rfl hurl, .of_databaseUrl hrun rfl hurl, by simp⟩
    · rintro l ⟨⟩
      rfl
    · exact List.isChain_pair.2 rfl
  have hruns : run.Runs ⟨"audits/second"⟩ := ⟨_, run.command?_eq_some hrun, rfl⟩
  obtain ⟨store, hbefore, hcreated, -, hvain⟩ :=
    (audit_document_runs_once hhistory ⟨"audits/second"⟩).2 [creation] run [] rfl
  have hmissing : store.audit.get? "audits/second" = none := by
    by_contra hrow
    obtain ⟨l, hl, hcommand, -⟩ := hcreated.1 hrow
    obtain rfl := List.mem_singleton.1 hl
    rw [Launch.command?_eq_some hcreation] at hcommand
    exact absurd hcommand (by decide)
  obtain ⟨hfailed, hafter⟩ := hvain (.inl hmissing) hruns
  exact ⟨hhistory, hruns, hfailed, hafter.trans hbefore.symm⟩

end CommandLine

end SpaceMigration
