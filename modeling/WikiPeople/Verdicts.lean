import WikiPeople.Wire

/-! Which work the service gives up for good, over whole runs and down to what its workers
heard on the wire. -/

namespace WikiPeople

open Relational Transition Raising

/-- Every row is an old one, of which no more is said than before, or a new one. -/
structure RowsTraced (store after : Store) : Prop where
  origin : ∀ row ∈ after.work.rows,
    (∃ old ∈ store.work.rows, row.id = old.id ∧ row.toIdentity = old.toIdentity ∧
      row.isPermanent = old.isPermanent) ∨
    (store.work.next ≤ row.id ∧ row.isPermanent = false)
  next : store.work.next ≤ after.work.next

section Traced

variable {store middle after : Store} {now : Time}

theorem RowsTraced.of_work (work : after.work = store.work) : RowsTraced store after where
  origin := by
    rw [work]
    exact fun row present => Or.inl ⟨row, present, rfl, rfl, rfl⟩
  next := by rw [work]

theorem RowsTraced.trans (left : RowsTraced store middle) (right : RowsTraced middle after) :
    RowsTraced store after where
  origin := by
    intro row member
    rcases right.origin row member with ⟨old, present, number, identity, said⟩ | ⟨fresh, unsaid⟩
    · rcases left.origin old present with ⟨first, there, before, same, told⟩ | ⟨fresh, unsaid⟩
      · exact Or.inl ⟨first, there, number.trans before, identity.trans same, said.trans told⟩
      · exact Or.inr ⟨number ▸ fresh, said.trans unsaid⟩
    · exact Or.inr ⟨left.next.trans fresh, unsaid⟩
  next := left.next.trans right.next

theorem RowsTraced.update {condition : WorkItem → Bool} {change : Change WorkItem}
    (silent : ∀ row, (change.apply row).isPermanent = row.isPermanent) :
    RowsTraced store (store.updateWork condition change) where
  origin := by
    intro row member
    obtain ⟨old, present, rfl⟩ := mem_updateWork.mp member
    refine Or.inl ⟨old, present, ?_⟩
    cases applies : condition old with
    | true =>
        rw [changed_of applies]
        exact ⟨change.number_apply old, change.key_apply old, silent old⟩
    | false =>
        rw [changed_not applies]
        exact ⟨rfl, rfl, rfl⟩
  next := le_refl _

theorem RowsTraced.insert {key : Identity} {priority : Int} {grown : SerialTable WorkItem}
    (added : store.work.insert? (newWork key priority now) = some grown) :
    RowsTraced store { store with work := grown } where
  origin := by
    intro row member
    rcases (SerialTable.mem_insert? added).mp member with old | rfl
    · exact Or.inl ⟨row, old, rfl, rfl, rfl⟩
    · exact Or.inr ⟨le_refl _, rfl⟩
  next := by
    rw [SerialTable.insert?_next added]
    exact Nat.le_succ _

theorem RowsTraced.fewer (rows : ∀ row ∈ after.work.rows, row ∈ store.work.rows)
    (next : after.work.next = store.work.next) : RowsTraced store after where
  origin := fun row member => Or.inl ⟨row, rows row member, rfl, rfl, rfl⟩
  next := next.ge

theorem traced_supersedeOlder (store : Store) (key : Identity) (now : Time) :
    RowsTraced store (supersedeOlder store key now) :=
  .update fun _ => rfl

theorem traced_enqueue (store : Store) (key : Identity) (priority : Int)
    (allowCachedResult : Bool) (now : Time) :
    RowsTraced store (enqueue store key priority allowCachedResult now) := by
  have outcome := enqueue_outcome store key priority allowCachedResult now
  generalize enqueue store key priority allowCachedResult now = after at outcome ⊢
  cases outcome with
  | cached refuses stored => exact .of_work rfl
  | overtaken missing newer => exact .of_work rfl
  | inserted uncached missing newest grown added =>
      exact (RowsTraced.insert added).trans (traced_supersedeOlder _ key now)
  | boosted uncached item found live =>
      have raised : RowsTraced store
          (store.updateWork (fun row => row.id = item.id) (boosted item priority now)) :=
        .update fun _ => rfl
      exact raised.trans (traced_supersedeOlder _ key now)
  | left uncached item found ended => exact traced_supersedeOlder store key now

theorem Demanded.traced (demanded : Demanded now store after) : RowsTraced store after := by
  induction demanded with
  | unchanged => exact .of_work rfl
  | enqueued _ key priority allowCachedResult ih => exact ih.trans (traced_enqueue _ _ _ _ _)
  | revived _ workId priority ih => exact ih.trans (.update fun _ => rfl)

theorem traced_perform {settings : Settings} {lease : WorkLease} {operation : Operation}
    (silent : operation.isFail = false) :
    RowsTraced store (perform settings lease now store operation) := by
  cases operation with
  | supersede reason => exact .update fun _ => rfl
  | enqueueCurrent page => exact traced_enqueue _ _ _ _ _
  | saveResult values => exact .of_work (saveResult_work store values)
  | complete => exact .fewer (fun row member => (SerialTable.mem_delete.mp member).1) rfl
  | registerActiveWiki =>
      apply RowsTraced.of_work
      simp only [perform]
      rw [register_frame]
  | fail code message permanent => cases silent

end Traced

/-- A job in this phase is about to report that it gives its item up for good. -/
def Phase.Condemns (phase : Phase) : Prop :=
  ∃ todo code message, phase = .performing todo ∧ .fail code message true ∈ todo

section Phases

variable {lease : WorkLease} {page : PageMetadata} {operation : Operation}
  {todo : List Operation} {raised : Exn}

theorem failure_condemns (condemns : (Phase.performing [failure raised]).Condemns) :
    raised.isPermanentData = true := by
  obtain ⟨todo, code, message, same, member⟩ := condemns
  cases same
  cases raised with
  | known kind text =>
      cases kind with
      | permanentData => rfl
      | responseTooLarge => rfl
      | _ => cases List.mem_singleton.mp member
  | unexpected text => cases List.mem_singleton.mp member

theorem refusing_condemns {refusals : List Operation}
    (refused : refusing lease page = some refusals) : ¬ (Phase.performing refusals).Condemns := by
  rintro ⟨todo, code, message, same, member⟩
  cases same
  unfold refusing at refused
  split at refused
  · cases refused
    cases List.mem_singleton.mp member
  · split at refused
    · cases refused
      cases List.mem_singleton.mp member
    · split at refused
      · cases refused
        rcases List.mem_cons.mp member with first | second
        · cases first
        · cases List.mem_singleton.mp second
      · cases refused

theorem afterPage_condemns {answer : Except Exn PageMetadata}
    (condemns : (afterPage lease answer).Condemns) : Condemns answer := by
  cases answer with
  | error raised => exact ⟨raised, rfl, failure_condemns condemns⟩
  | ok page =>
      simp only [afterPage] at condemns
      split at condemns
      · rename_i refusals refused
        exact absurd condemns (refusing_condemns refused)
      · obtain ⟨todo, code, message, same, _⟩ := condemns
        cases same

theorem afterAttribution_condemns {computedAt : Time} {answer : Except Exn Attributed}
    (condemns : (afterAttribution lease page computedAt answer).Condemns) : Condemns answer := by
  cases answer with
  | error raised => exact ⟨raised, rfl, failure_condemns condemns⟩
  | ok attributed =>
      obtain ⟨todo, code, message, same, member⟩ := condemns
      cases same
      simp [storing] at member

theorem afterFailure_condemns {message : String} :
    ¬ (afterFailure operation message).Condemns := by
  intro condemns
  unfold afterFailure at condemns
  split at condemns
  · obtain ⟨todo, code, text, same, _⟩ := condemns
    cases same
  · cases failure_condemns condemns

theorem Phase.Condemns.tail (condemns : (Phase.performing todo).Condemns) :
    (Phase.performing (operation :: todo)).Condemns := by
  obtain ⟨rest, code, message, same, member⟩ := condemns
  cases same
  exact ⟨_, code, message, rfl, List.mem_cons_of_mem operation member⟩

end Phases

/-- What was given up, or is about to be, was for a good reason; and a job's number stands for
the item it took. -/
structure Founded (good : String → Int → Prop) (system : System) : Prop where
  rows : ∀ row ∈ system.store.work.rows, row.isPermanent = true → good row.wiki row.pageId
  issued : ∀ (index : Nat) (job : Job), system.jobs[index]? = some job →
    job.lease.id < system.store.work.next
  owned : ∀ (index : Nat) (job : Job), system.jobs[index]? = some job →
    ∀ row ∈ system.store.work.rows, row.id = job.lease.id →
      row.toIdentity = job.lease.toIdentity
  reports : ∀ (index : Nat) (job : Job), system.jobs[index]? = some job →
    job.phase.Condemns → good job.lease.wiki job.lease.pageId

/-- Where the answer to a job gives it up for good, there is good reason to. -/
def FoundedAnswer (good : String → Int → Prop) (before : System) (event : Event) : Prop :=
  (∀ index answer job, event = .getPage index answer → before.jobs[index]? = some job →
    Condemns answer → good job.lease.wiki job.lease.pageId) ∧
  ∀ index answer job page, event = .attributePage index answer →
    before.jobs[index]? = some job → job.phase = .attributing page → Condemns answer →
      good job.lease.wiki job.lease.pageId

section Founded

variable {good : String → Int → Prop} {system before after : System} {store : Store}
  {runtime : Runtime} {event : Event}

theorem Founded.traced (founded : Founded good system) (traced : RowsTraced system.store store)
    (now : Time) : Founded good { system with store := store, now := now } where
  rows := by
    intro row member permanent
    rcases traced.origin row member with ⟨old, present, _, identity, said⟩ | ⟨_, unsaid⟩
    · rw [congrArg (fun key : Identity => key.wiki) identity,
        congrArg (fun key : Identity => key.pageId) identity]
      exact founded.rows old present (said ▸ permanent)
    · rw [unsaid] at permanent
      cases permanent
  issued := fun index job present => (founded.issued index job present).trans_le traced.next
  owned := by
    intro index job present row member same
    rcases traced.origin row member with ⟨old, there, number, identity, _⟩ | ⟨fresh, _⟩
    · exact identity.trans (founded.owned index job present old there (number ▸ same))
    · exact absurd (founded.issued index job present) (by omega)
  reports := founded.reports

theorem Founded.phase (founded : Founded good system) {index : Nat} {job : Job} {phase : Phase}
    (present : system.jobs[index]? = some job)
    (reason : phase.Condemns → good job.lease.wiki job.lease.pageId) :
    Founded good { system with jobs := system.jobs.set index { job with phase := phase } } where
  rows := founded.rows
  issued := by
    intro place other found
    rcases (getElem?_replaced present).mp found with ⟨_, rfl⟩ | ⟨_, old⟩
    · exact founded.issued index job present
    · exact founded.issued place other old
  owned := by
    intro place other found
    rcases (getElem?_replaced present).mp found with ⟨_, rfl⟩ | ⟨_, old⟩
    · exact founded.owned index job present
    · exact founded.owned place other old
  reports := by
    intro place other found
    rcases (getElem?_replaced present).mp found with ⟨_, rfl⟩ | ⟨_, old⟩
    · exact reason
    · exact founded.reports place other old

theorem Founded.claimed (founded : Founded good system) {workerId : String} {pick : Nat}
    {leaseSeconds : Int} {lease : WorkLease}
    (taken : claim system.store workerId leaseSeconds pick system.now = some (lease, store))
    (settings : Settings) :
    Founded good { system with
      store := store, jobs := system.jobs ++ [newJob settings workerId system.now lease] } := by
  obtain ⟨item, present, _, rfl, rfl⟩ := claim_taken taken
  have traced : RowsTraced system.store (system.store.updateWork (fun row => row.id = item.id)
      (leasing workerId leaseSeconds system.now)) := .update fun _ => rfl
  have kept := founded.traced traced system.now
  refine ⟨kept.rows, ?_, ?_, ?_⟩
  · intro index job found
    rcases getElem?_appended.mp found with old | ⟨_, rfl⟩
    · exact kept.issued index job old
    · exact system.store.work.below item present
  · intro index job found row member same
    rcases getElem?_appended.mp found with old | ⟨_, rfl⟩
    · exact kept.owned index job old row member same
    · rcases traced.origin row member with ⟨first, there, number, identity, _⟩ | ⟨fresh, _⟩
      · rw [identity]
        exact congrArg WorkItem.toIdentity
          (SerialTable.row_of_number there present (number.symm.trans same))
      · have issued : item.id < system.store.work.next := system.store.work.below item present
        exact absurd (fresh.trans_eq same) (Nat.not_le.mpr issued)
  · intro index job found condemns
    rcases getElem?_appended.mp found with old | ⟨_, rfl⟩
    · exact kept.reports index job old condemns
    · obtain ⟨todo, code, message, same, _⟩ := condemns
      cases same

theorem Founded.failed (founded : Founded good system) {index : Nat} {job : Job}
    (present : system.jobs[index]? = some job) {code message : String} {permanent : Bool}
    (reason : permanent = true → good job.lease.wiki job.lease.pageId) (maxAttempts : Int) :
    Founded good { system with
      store := fail system.store job.lease code message maxAttempts permanent system.now } := by
  have origin : ∀ row ∈ (fail system.store job.lease code message maxAttempts permanent
      system.now).work.rows, ∃ old ∈ system.store.work.rows, row.id = old.id ∧
        row.toIdentity = old.toIdentity ∧
        (row.isPermanent = true → old.isPermanent = true ∨
          (old.id = job.lease.id ∧ permanent = true)) := by
    intro row member
    rcases mem_updateWork_id.mp member with ⟨old, _⟩ | ⟨old, there, mine, rfl⟩
    · exact ⟨row, old, rfl, rfl, Or.inl⟩
    · exact ⟨old, there, rfl, rfl, fun said => Or.inr ⟨mine, said⟩⟩
  refine ⟨?_, founded.issued, ?_, founded.reports⟩
  · intro row member said
    obtain ⟨old, there, _, identity, before⟩ := origin row member
    rw [congrArg (fun key : Identity => key.wiki) identity,
      congrArg (fun key : Identity => key.pageId) identity]
    rcases before said with already | ⟨mine, lasting⟩
    · exact founded.rows old there already
    · have own := founded.owned index job present old there mine
      rw [congrArg (fun key : Identity => key.wiki) own,
        congrArg (fun key : Identity => key.pageId) own]
      exact reason lasting
  · intro place other found row member same
    obtain ⟨old, there, number, identity, _⟩ := origin row member
    exact identity.trans (founded.owned place other found old there (number ▸ same))

theorem founded_step (founded : Founded good before) (stepped : Stepped runtime before event after)
    (answered : FoundedAnswer good before event) : Founded good after := by
  cases stepped with
  | ticked elapsed => exact founded.traced (.of_work rfl) _
  | demanded event store idle changes => exact founded.traced changes.traced _
  | claimed workerId pick lease store free taken => exact founded.claimed taken runtime.settings
  | advanced event index job phase quiet present moved =>
      refine founded.phase present ?_
      rcases moved with ⟨answer, rfl, _, rfl⟩ | ⟨page, answer, rfl, attributing, rfl⟩ |
        ⟨operation, todo, message, _, _, rfl⟩ | ⟨_, _, rfl⟩
      · intro condemns
        exact answered.1 index answer job rfl present (afterPage_condemns condemns)
      · intro condemns
        exact answered.2 index answer job page rfl present attributing
          (afterAttribution_condemns condemns)
      · intro condemns
        exact absurd condemns afterFailure_condemns
      · rintro ⟨todo, code, message, same, _⟩
        cases same
  | performed index job operation todo present next =>
      have waiting := founded.reports index job present
      rw [next] at waiting
      have later : (Phase.performing todo).Condemns → good job.lease.wiki job.lease.pageId :=
        fun condemns => waiting condemns.tail
      cases reports : operation.isFail with
      | false => exact (founded.traced (traced_perform reports) before.now).phase present later
      | true =>
          cases operation with
          | fail code message permanent =>
              have reason : permanent = true → good job.lease.wiki job.lease.pageId := by
                rintro rfl
                exact waiting ⟨_, code, message, rfl, List.mem_cons_self⟩
              exact (founded.failed present reason runtime.settings.workerMaxAttempts).phase
                present later
          | _ => cases reports
  | cleaned queueDays supersededResultDays chosen store removed =>
      have cleaned := cleanup_cleaned removed
      exact founded.traced (.fewer cleaned.work cleaned.next) _
  | listed event store idle work results activeWikis => exact founded.traced (.of_work work) _

end Founded

section Unavailable

variable {runtime : Runtime} {store : Store} {request : Request} {now : Time}

theorem refusal_client {response : Response}
    (refused : refusal runtime request = some response) : response.status ≠ 503 := by
  simp only [refusal] at refused
  split at refused
  · cases refused
    simp
  · split at refused
    · cases refused
      simp [httpException]
    · split at refused
      · cases refused
        simp [httpException]
      · cases refused

theorem conditional_available {cacheControl : String} {extra : List (String × String)}
    {payload : Json} : (conditional runtime request cacheControl extra payload).status ≠ 503 := by
  unfold conditional
  dsimp only
  split
  · simp
  · simp

theorem respond_unavailable {version : Version}
    (answered : (respond runtime version store request now).1.status = 503) :
    ∃ work, deadWork runtime.settings store (request.key runtime.settings.algorithmVersion) now =
      some work := by
  cases version with
  | v1 =>
      simp only [respond, pageAttribution] at answered
      split at answered
      · rename_i response refused
        exact absurd answered (refusal_client refused)
      · split at answered
        · exact absurd answered conditional_available
        · split at answered
          · rename_i work dead
            exact ⟨work, dead⟩
          · cases answered
  | v2 =>
      simp only [respond, pageAttributionByFreshness] at answered
      split at answered
      · rename_i response refused
        exact absurd answered (refusal_client refused)
      · split at answered
        · exact absurd answered conditional_available
        · split at answered
          · rename_i work dead
            exact ⟨work, dead⟩
          · cases answered

end Unavailable

/-- The answers of an event are what a worker makes of what it hears on one of these wires. -/
def HeardOn (interpreter : Interpreter) (settings : Settings) (wires : JobWire → Prop)
    (before : System) : Event → Prop
  | .getPage index answer => ∀ job, before.jobs[index]? = some job →
      ∃ wire, wires wire ∧ answer = wire.getPage job.lease.wiki job.lease.pageId
  | .attributePage index answer => ∀ job page, before.jobs[index]? = some job →
      job.phase = .attributing page →
      ∃ wire upstream, wires wire ∧ wire.Answers settings job.lease upstream ∧
        answer = attributePage interpreter settings upstream job.lease page
  | _ => True

/-- Work is given up for good only on word from MediaWiki, and readers are told that a page is
unavailable only on such word or while the last attempt at it is young. -/
structure GivenUpOnWord (runtime : Runtime) (wires : JobWire → Prop) (system : System) : Prop where
  permanent : ∀ item ∈ system.store.work.rows, item.isPermanent = true →
    ∃ wire, wires wire ∧ wire.Denies item.wiki item.pageId
  unavailable : ∀ version request now,
    (respond runtime version system.store request now).1.status = 503 →
      (∃ wire, wires wire ∧ wire.Denies request.wiki request.pageId) ∨
      ∃ item ∈ system.store.work.rows,
        item.toIdentity = request.key runtime.settings.algorithmVersion ∧ item.state = .dead ∧
          now < item.updatedAt + seconds runtime.settings.deadRetrySeconds

theorem heard_founded {interpreter : Interpreter} {settings : Settings} {wires : JobWire → Prop}
    {before : System} {event : Event} (heard : HeardOn interpreter settings wires before event) :
    FoundedAnswer (fun wiki pageId => ∃ wire, wires wire ∧ wire.Denies wiki pageId) before
      event := by
  constructor
  · rintro index answer job rfl present condemns
    obtain ⟨wire, known, rfl⟩ := heard job present
    exact ⟨wire, known, getPage_denied.mp condemns⟩
  · rintro index answer job page rfl present attributing condemns
    obtain ⟨wire, upstream, known, answers, rfl⟩ := heard job page present attributing
    cases covered : language wire.languages job.lease.wiki with
    | none => exact ⟨wire, known, Or.inl covered⟩
    | some code =>
        exact absurd condemns (Only.not_condemns (only_attributePage answers covered page))

/-- Whatever MediaWiki, its REST interface and WikiWho answer in a run of the service, and
wherever its workers crash, no work is given up for good but on word from MediaWiki. -/
theorem given_up_on_word_only (runtime : Runtime) (interpreter : Interpreter) (start : Time)
    (wires : JobWire → Prop) (system : System)
    (reached : (service runtime start).ReachableWhere
      (HeardOn interpreter runtime.settings wires) system) :
    GivenUpOnWord runtime wires system := by
  have founded : Founded (fun wiki pageId => ∃ wire, wires wire ∧ wire.Denies wiki pageId)
      system := by
    refine Machine.invariant (Founded _) ?_ ?_ reached
    · refine ⟨?_, ?_, ?_, ?_⟩
      · intro row member
        cases member
      · intro index job present
        cases present
      · intro index job present
        cases present
      · intro index job present
        cases present
    · intro before event after founded heard taken
      exact founded_step founded (step_stepped taken) (heard_founded heard)
  refine ⟨founded.rows, ?_⟩
  intro version request now answered
  obtain ⟨work, dead⟩ := respond_unavailable answered
  obtain ⟨found, still⟩ := Option.filter_eq_some_iff.mp dead
  obtain ⟨present, own⟩ := getWork_eq_some.mp found
  simp only [revivable, Bool.and_eq_true, decide_eq_true_eq, Bool.not_eq_true',
    Bool.and_eq_false_iff, Bool.not_eq_false', decide_eq_false_iff_not, not_le] at still
  obtain ⟨state, lasting | young⟩ := still
  · have said := founded.rows work present lasting
    rw [congrArg (fun key : Identity => key.wiki) own,
      congrArg (fun key : Identity => key.pageId) own] at said
    exact Or.inl said
  · exact Or.inr ⟨work, present, own, state, young⟩

def hearsDeletion (before : System) : Event → Bool
  | .getPage _ (.error raised) =>
      raised = noPage "frwiki" 1 &&
        before.jobs.all (fun job => job.lease.wiki = "frwiki" && job.lease.pageId = 1)
  | .getPage _ (.ok _) => false
  | .attributePage _ _ => false
  | _ => true

theorem heard_deletion {before : System} {event : Event}
    (guarded : hearsDeletion before event = true) :
    HeardOn plainInterpreter fromEnv (fun wire => wire = deletedWire) before event := by
  cases event with
  | getPage index answer =>
      intro job present
      cases answer with
      | ok page => cases guarded
      | error raised =>
          rw [hearsDeletion, Bool.and_eq_true, decide_eq_true_eq, List.all_eq_true] at guarded
          have own := guarded.2 job (List.mem_of_getElem? present)
          rw [Bool.and_eq_true, decide_eq_true_eq, decide_eq_true_eq] at own
          rw [guarded.1, own.1, own.2]
          exact ⟨deletedWire, rfl, rfl⟩
  | attributePage index answer => cases guarded
  | _ => trivial

/-- A reader asked for the page before it was deleted. -/
theorem given_up_on_word_only_deleted :
    ∃ system, (service plainRuntime 0).ReachableWhere
        (HeardOn plainInterpreter fromEnv (fun wire => wire = deletedWire)) system ∧
      (∃ item ∈ system.store.work.rows, item.isPermanent = true) ∧
      GivenUpOnWord plainRuntime (fun wire => wire = deletedWire) system := by
  have ran : ∃ system, (service plainRuntime 0).ReachableChecked hearsDeletion system ∧
      (system.store.work.rows.any fun item => item.isPermanent) = true :=
    Machine.exists_of_runWhere
      [.request .v2 (articleRequest 10), .claim "w" 0,
        .getPage 0 (.error (noPage "frwiki" 1)), .perform 0] (by decide)
  obtain ⟨system, reached, lasting⟩ := ran
  have heard := reached.mono fun _ _ => heard_deletion
  exact ⟨system, heard, List.any_eq_true.mp lasting,
    given_up_on_word_only plainRuntime plainInterpreter 0 (fun wire => wire = deletedWire) system
      heard⟩

end WikiPeople
