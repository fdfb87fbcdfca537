import WikiPeople.Library.Measure
import WikiPeople.Outcomes
import WikiPeople.Liveness

/-! Workers left alone with the queue: while nobody edits the pages and nothing is demanded, the
calls of `run_once` that find work come to an end, and what was demanded is answered. -/

namespace WikiPeople

open Relational Transition

/-- One call of `run_once`, by any worker. -/
structure WorkerCall where
  upstream : Upstream
  workerId : String
  pick : Nat
  clock : Nat → Time

def WorkerCall.run (interpreter : Interpreter) (settings : Settings) (call : WorkerCall)
    (store : Store) : Bool × Store :=
  runOnce interpreter settings call.upstream store call.workerId call.pick call.clock

/-- The queue as such calls change it, one after the other; a call that finds no lease is none. -/
def draining (interpreter : Interpreter) (settings : Settings) (start : Store) :
    Machine Store WorkerCall where
  initial := start
  step := fun store call =>
    let (found, after) := call.run interpreter settings store
    if found then some after else none

/-- Nobody edits: whenever MediaWiki answers about a page, it answers the same, and about the
page that it was asked about. Any call upstream may still raise. -/
def Unedited (current : String → Int → PageMetadata) (call : WorkerCall) : Prop :=
  ∀ wiki pageId page, call.upstream.getPage wiki pageId = .ok page →
    page = current wiki pageId ∧ page.pageId = pageId

/-- How often an item may still be claimed after so many claims. -/
def allowance (settings : Settings) (attempts : Nat) : Nat :=
  max 1 (settings.workerMaxAttempts - attempts).toNat

/-- The claims that an item may cost. One of another revision than the current may bring in
an item of the current one. -/
def itemWork (settings : Settings) (current : String → Int → PageMetadata) (item : WorkItem) :
    Nat :=
  if item.live then
    allowance settings item.attempts +
      if item.revisionId = (current item.wiki item.pageId).revisionId then 0
      else allowance settings 0
  else 0

def workLeft (settings : Settings) (current : String → Int → PageMetadata) (store : Store) :
    Nat :=
  weigh (itemWork settings current) store.work

def WorkerCall.leased (settings : Settings) (call : WorkerCall) (item : WorkItem) : WorkItem :=
  (leasing call.workerId settings.workerLeaseSeconds (call.clock 0)).apply item

def WorkerCall.claimed (settings : Settings) (call : WorkerCall) (store : Store)
    (item : WorkItem) : Store :=
  store.updateWork (fun row => row.id = item.id)
    (leasing call.workerId settings.workerLeaseSeconds (call.clock 0))

inductive CallOutcome (interpreter : Interpreter) (settings : Settings) (call : WorkerCall)
    (store : Store) (item : WorkItem) : Store → Prop
  | failed (raised : Exn)
      (raises : processed interpreter settings call.upstream (leaseOf item)
        (call.claimed settings store item) call.clock = .error raised) :
      CallOutcome interpreter settings call store item
        (perform settings (leaseOf item) (call.clock 1) (call.claimed settings store item)
          (failure raised))
  | refused (page : PageMetadata)
      (reported : call.upstream.getPage item.wiki item.pageId = .ok page)
      (odd : page.pageNamespace ≠ 0 ∨ page.isRedirect = true) (reason : String) :
      CallOutcome interpreter settings call store item
        (supersede (call.claimed settings store item) item.id reason (call.clock 1))
  | overtaken (page : PageMetadata)
      (reported : call.upstream.getPage item.wiki item.pageId = .ok page)
      (other : page.revisionId ≠ item.revisionId) :
      CallOutcome interpreter settings call store item
        (enqueue (supersede (call.claimed settings store item) item.id
            (overtakenRevision (leaseOf item) page) (call.clock 1))
          (currentKey (leaseOf item) page) item.priority false (call.clock 2))
  | stored (page : PageMetadata) (attributed : Attributed)
      (reported : call.upstream.getPage item.wiki item.pageId = .ok page)
      (same : page.revisionId = item.revisionId) :
      CallOutcome interpreter settings call store item
        (registerActiveWiki (complete (saveResult (call.claimed settings store item)
            (resultValues (leaseOf item) page attributed (call.clock 1))) item.id)
          item.wiki (call.clock 2)).2

section Call

variable {interpreter : Interpreter} {settings : Settings} {call : WorkerCall}
  {store after : Store} {current : String → Int → PageMetadata} {item : WorkItem}

theorem draining_step {start : Store}
    (taken : (draining interpreter settings start).step store call = some after) :
    ∃ item ∈ store.work.rows, claimable (call.clock 0) item = true ∧
      CallOutcome interpreter settings call store item after := by
  simp only [draining, WorkerCall.run, runOnce] at taken
  cases lookup : claim store call.workerId settings.workerLeaseSeconds call.pick
      (call.clock 0) with
  | none => simp [lookup] at taken
  | some claim =>
      obtain ⟨lease, claimed⟩ := claim
      obtain ⟨item, present, due, rfl, rfl⟩ := claim_taken lookup
      refine ⟨item, present, due, ?_⟩
      simp only [lookup] at taken
      rw [← processed] at taken
      cases done : processed interpreter settings call.upstream (leaseOf item)
          (call.claimed settings store item) call.clock with
      | error raised =>
          rw [WorkerCall.claimed] at done
          simp only [done] at taken
          cases taken
          exact .failed raised done
      | ok stored =>
          rw [WorkerCall.claimed] at done
          simp only [done] at taken
          cases taken
          unfold processed process at done
          split at done
          · cases done
          · rename_i page reported
            split at done
            · rename_i off
              cases done
              exact .refused page reported (Or.inl off) _
            · split at done
              · rename_i redirect
                cases done
                exact .refused page reported (Or.inr redirect) _
              · split at done
                · rename_i other
                  cases done
                  exact .overtaken page reported other
                · rename_i same
                  split at done
                  · cases done
                  · rename_i attributed answered
                    cases done
                    exact .stored page attributed reported (not_not.mp same)

theorem live_of_claimable {now : Time} (due : claimable now item = true) : item.live = true := by
  rw [live_iff]
  simp only [claimable, Bool.or_eq_true, Bool.and_eq_true, decide_eq_true_eq] at due
  exact due.imp And.left And.left

theorem claimed_mem (present : item ∈ store.work.rows) :
    call.leased settings item ∈ (call.claimed settings store item).work.rows :=
  mem_updateWork_id.mpr (Or.inr ⟨item, present, rfl, rfl⟩)

theorem allowance_pos (settings : Settings) (attempts : Nat) :
    0 < allowance settings attempts := by
  rw [allowance]
  omega

theorem itemWork_live (settings : Settings) (current : String → Int → PageMetadata)
    (live : item.live = true) : 0 < itemWork settings current item := by
  rw [itemWork, if_pos live]
  exact Nat.add_pos_left (allowance_pos settings _) _

theorem itemWork_ended (ended : item.live = false) : itemWork settings current item = 0 := by
  rw [itemWork, ended]
  rfl

theorem workLeft_eq_zero :
    workLeft settings current store = 0 ↔ ∀ item ∈ store.work.rows, item.live = false := by
  rw [workLeft, weigh_eq_zero]
  refine forall₂_congr (fun item _ => ⟨fun weightless => ?_, itemWork_ended⟩)
  by_contra live
  rw [Bool.not_eq_false] at live
  exact absurd weightless (Nat.ne_of_gt (itemWork_live settings current live))

theorem workLeft_reported (present : item ∈ store.work.rows) (change : Change WorkItem) :
    workLeft settings current
        ((call.claimed settings store item).updateWork (fun row => row.id = item.id) change) +
        itemWork settings current item =
      workLeft settings current store +
        itemWork settings current (change.apply (call.leased settings item)) := by
  have claim : workLeft settings current (call.claimed settings store item) +
      itemWork settings current item =
        workLeft settings current store + itemWork settings current (call.leased settings item) :=
    weigh_update _ _ present
  have report : workLeft settings current
        ((call.claimed settings store item).updateWork (fun row => row.id = item.id) change) +
      itemWork settings current (call.leased settings item) =
        workLeft settings current (call.claimed settings store item) +
          itemWork settings current (change.apply (call.leased settings item)) :=
    weigh_update _ _ (claimed_mem present)
  omega

theorem workLeft_completed (present : item ∈ store.work.rows) :
    workLeft settings current (complete (call.claimed settings store item) item.id) +
        itemWork settings current item = workLeft settings current store := by
  have claim : workLeft settings current (call.claimed settings store item) +
      itemWork settings current item =
        workLeft settings current store + itemWork settings current (call.leased settings item) :=
    weigh_update _ _ present
  have gone : workLeft settings current (complete (call.claimed settings store item) item.id) +
      itemWork settings current (call.leased settings item) =
        workLeft settings current (call.claimed settings store item) :=
    weigh_delete _ (claimed_mem present)
  omega

theorem workLeft_supersedeOlder (store : Store) (key : Identity) (now : Time) :
    workLeft settings current (supersedeOlder store key now) ≤ workLeft settings current store := by
  refine weigh_update_le (fun row _ => ?_)
  cases older : olderPending key row with
  | true =>
      rw [changed_of older, itemWork_ended rfl]
      exact Nat.zero_le _
  | false => rw [changed_not older]

theorem workLeft_enqueue (store : Store) {key : Identity} (priority : Int)
    (allowCachedResult : Bool) (now : Time)
    (asked : key.revisionId = (current key.wiki key.pageId).revisionId) :
    workLeft settings current (enqueue store key priority allowCachedResult now) ≤
      workLeft settings current store + allowance settings 0 := by
  have outcome := enqueue_outcome store key priority allowCachedResult now
  generalize enqueue store key priority allowCachedResult now = after at outcome ⊢
  cases outcome with
  | cached refuses stored => exact Nat.le_add_right _ _
  | overtaken missing newer => exact Nat.le_add_right _ _
  | inserted uncached missing newest grown added =>
      refine (workLeft_supersedeOlder _ key now).trans (Nat.le_of_eq ?_)
      have cost : itemWork settings current ((newWork key priority now).make store.work.next) =
          allowance settings 0 := by
        rw [itemWork, if_pos (show WorkItem.live _ = true from rfl)]
        exact Nat.add_eq_left.mpr (if_pos asked)
      rw [workLeft, workLeft, weigh_insert _ added, cost]
  | boosted uncached waiting found live =>
      refine (workLeft_supersedeOlder _ key now).trans ((weigh_update_le ?_).trans
        (Nat.le_add_right _ _))
      intro row present
      rw [SerialTable.changed]
      split
      · exact Nat.le_refl _
      · exact Nat.le_refl _
  | left uncached stopped found ended =>
      exact (workLeft_supersedeOlder _ key now).trans (Nat.le_add_right _ _)

theorem itemWork_failed {code message : String} {permanent : Bool} {delay : Int} {now : Time}
    (live : item.live = true) :
    itemWork settings current ((failed code message
        (permanent || settings.workerMaxAttempts ≤ ((item.attempts + 1 : Nat) : Int)) permanent
        delay now).apply (call.leased settings item)) < itemWork settings current item := by
  cases dead :
      permanent || decide (settings.workerMaxAttempts ≤ ((item.attempts + 1 : Nat) : Int)) with
  | true =>
      rw [itemWork_ended rfl]
      exact itemWork_live settings current live
  | false =>
      rw [Bool.or_eq_false_iff, decide_eq_false_iff_not] at dead
      have fewer : allowance settings (item.attempts + 1) < allowance settings item.attempts := by
        simp only [allowance]
        omega
      rw [itemWork, itemWork, if_pos (show WorkItem.live _ = true from rfl), if_pos live]
      exact Nat.add_lt_add_right fewer _

theorem workLeft_failed (present : item ∈ store.work.rows) (live : item.live = true)
    (code message : String) (permanent : Bool) :
    workLeft settings current (fail (call.claimed settings store item) (leaseOf item) code message
        settings.workerMaxAttempts permanent (call.clock 1)) <
      workLeft settings current store := by
  have balance := @workLeft_reported settings call store current item present
    (failed code message
      (permanent || settings.workerMaxAttempts ≤ ((item.attempts + 1 : Nat) : Int))
      permanent (retryDelay (item.attempts + 1)) (call.clock 1))
  have cheaper := @itemWork_failed settings call current item code message permanent
    (retryDelay (item.attempts + 1)) (call.clock 1) live
  change workLeft settings current (fail _ (leaseOf item) _ _ _ _ _) + _ = _ at balance
  omega

theorem workLeft_supersede (present : item ∈ store.work.rows) (reason : String) :
    workLeft settings current (supersede (call.claimed settings store item) item.id reason
        (call.clock 1)) + itemWork settings current item = workLeft settings current store := by
  have balance := @workLeft_reported settings call store current item present
    (refused reason (call.clock 1))
  have weightless : itemWork settings current
      ((refused reason (call.clock 1)).apply (call.leased settings item)) = 0 := itemWork_ended rfl
  rwa [weightless, Nat.add_zero] at balance

/-- Every call that finds work leaves less of it. -/
theorem workLeft_outcome (unedited : Unedited current call) (present : item ∈ store.work.rows)
    (live : item.live = true)
    (outcome : CallOutcome interpreter settings call store item after) :
    workLeft settings current after < workLeft settings current store := by
  have needed := itemWork_live settings current live
  cases outcome with
  | failed raised raises =>
      cases raised with
      | known kind message => exact workLeft_failed present live _ _ _
      | unexpected message => exact workLeft_failed present live _ _ _
  | refused page reported odd reason =>
      have balance := @workLeft_supersede settings call store current item present reason
      omega
  | overtaken page reported other =>
      obtain ⟨rfl, same⟩ := unedited _ _ _ reported
      have balance := @workLeft_supersede settings call store current item present
        (overtakenRevision (leaseOf item) (current item.wiki item.pageId))
      have asked : (currentKey (leaseOf item) (current item.wiki item.pageId)).revisionId =
          (current item.wiki (current item.wiki item.pageId).pageId).revisionId := by
        rw [same]
        rfl
      have queued := @workLeft_enqueue settings current
        (supersede (call.claimed settings store item) item.id
          (overtakenRevision (leaseOf item) (current item.wiki item.pageId)) (call.clock 1))
        _ item.priority false (call.clock 2) asked
      have cost : itemWork settings current item =
          allowance settings item.attempts + allowance settings 0 := by
        rw [itemWork, if_pos live, if_neg (Ne.symm other)]
      have claims := allowance_pos settings item.attempts
      omega
  | stored page attributed reported same =>
      have balance := @workLeft_completed settings call store current item present
      rw [register_frame, workLeft, complete, saveResult_work]
      change workLeft settings current (complete _ _) < _
      omega

end Call

def Expiring (store : Store) : Prop :=
  ∀ row ∈ store.work.rows, row.state = .leased → ∃ expiry, row.leaseUntil = some expiry

section Expiring

variable {runtime : Runtime} {start : Time} {before after : System} {event : Event}
  {store left : Store}

theorem Expiring.fewer (expiring : Expiring store)
    (fewer : ∀ row ∈ left.work.rows, row ∈ store.work.rows) : Expiring left :=
  fun row member => expiring row (fewer row member)

theorem Expiring.demanded (expiring : Expiring store) (demanded : RowsDemanded store left) :
    Expiring left := by
  intro row member leased
  rcases demanded.origin row member with ⟨old, present, kept⟩ | fresh
  · have before : old.state = .leased := by
      rcases kept.change with ⟨same, _⟩ | ⟨_, ended, _⟩ | ⟨_, revived, _⟩
      · exact same ▸ leased
      · rw [leased] at ended
        cases ended
      · rw [leased] at revived
        rcases revived with wrong | wrong <;> cases wrong
    rw [kept.expiry]
    exact expiring old present before
  · have state := fresh.state
    rw [leased] at state
    rcases state with wrong | wrong <;> cases wrong

theorem Expiring.claim (expiring : Expiring store) (workId : Nat) (workerId : String)
    (leaseSeconds : Int) (now : Time) :
    Expiring (store.updateWork (fun row => row.id = workId)
      (leasing workerId leaseSeconds now)) := by
  intro row member leased
  rcases mem_updateWork_id.mp member with ⟨present, _⟩ | ⟨old, _, _, rfl⟩
  · exact expiring row present leased
  · exact ⟨_, rfl⟩

theorem Expiring.perform (expiring : Expiring store) (settings : Settings) (lease : WorkLease)
    (now : Time) (operation : Operation) :
    Expiring (perform settings lease now store operation) := by
  cases outcome : operation.isOutcome with
  | false => exact expiring.demanded (rows_perform outcome)
  | true =>
      intro row member leased
      rcases mem_outcome outcome member with ⟨present, _⟩ | ⟨old, _, _, reported⟩
      · exact expiring row present leased
      · exact absurd leased reported.ended

theorem expiring_reached {system : System}
    (reached : (service runtime start).Reachable system) : Expiring system.store := by
  refine Machine.invariant (fun system : System => Expiring system.store) ?_ ?_ reached
  · intro row member
    cases member
  · intro before event after expiring _ moved
    cases step_stepped moved with
    | ticked elapsed => exact expiring
    | demanded event store idle changes => exact expiring.demanded changes.rows
    | claimed workerId pick lease store free taken =>
        obtain ⟨item, _, _, _, rfl⟩ := claim_taken taken
        exact expiring.claim _ _ _ _
    | advanced event index job phase quiet present moved => exact expiring
    | performed index job operation todo present next => exact expiring.perform _ _ _ _
    | cleaned queueDays supersededResultDays chosen store removed =>
        exact expiring.fewer (cleanup_cleaned removed).work
    | listed event store idle work results activeWikis =>
        exact expiring.demanded (rows_of_work work)

theorem Expiring.outcome {interpreter : Interpreter} {settings : Settings} {call : WorkerCall}
    {item : WorkItem} (expiring : Expiring store)
    (outcome : CallOutcome interpreter settings call store item left) : Expiring left := by
  have claimed : Expiring (call.claimed settings store item) := expiring.claim _ _ _ _
  cases outcome with
  | failed raised raises => exact claimed.perform _ _ _ _
  | refused page reported odd reason =>
      exact claimed.perform settings (leaseOf item) _ (.supersede reason)
  | overtaken page reported other =>
      exact (claimed.perform settings (leaseOf item) _ (.supersede _)).demanded
        (rows_enqueue _ _ _ _ _)
  | stored page attributed reported same =>
      have saved := claimed.perform settings (leaseOf item) (call.clock 1)
        (.saveResult (resultValues (leaseOf item) page attributed (call.clock 1)))
      have completed := saved.perform settings (leaseOf item) (call.clock 1) .complete
      exact completed.perform settings (leaseOf item) (call.clock 2) .registerActiveWiki

theorem claim_eq_none {workerId : String} {leaseSeconds : Int} {pick : Nat} {now : Time} :
    claim store workerId leaseSeconds pick now = none ↔
      ∀ item ∈ store.work.rows, claimable now item = false := by
  rw [claim, Option.map_eq_none_iff, List.getElem?_eq_none_iff]
  constructor
  · intro past item present
    by_contra due
    rw [Bool.not_eq_false] at due
    have eligible : item ∈ store.work.rows.filter (claimable now) :=
      List.mem_filter.mpr ⟨present, due⟩
    cases best : largest claimOrder (store.work.rows.filter (claimable now)) with
    | none =>
        rw [largest_eq_none.mp best] at eligible
        cases eligible
    | some first =>
        have candidate : first ∈ claimCandidates store now := by
          rw [claimCandidates, List.mem_filter, List.all_eq_true]
          exact ⟨largest_mem best, fun other member => decide_eq_true (le_largest best member)⟩
        have some_ := List.length_pos_of_mem candidate
        exact absurd (Nat.mod_lt pick some_) (Nat.not_lt.mpr past)
  · intro idle
    have nothing : store.work.rows.filter (claimable now) = [] :=
      List.filter_eq_nil_iff.mpr (fun item present => by simp [idle item present])
    rw [claimCandidates, nothing]
    exact Nat.zero_le _

theorem due_of_live (expiring : Expiring store) {item : WorkItem} (present : item ∈ store.work.rows)
    (live : item.live = true) : ∃ now, claimable now item = true := by
  rcases (live_iff item).mp live with pending | leased
  · exact ⟨item.availableAt, by simp [claimable, pending]⟩
  · obtain ⟨expiry, ends⟩ := expiring item present leased
    refine ⟨expiry + 1, ?_⟩
    simp [claimable, leased, ends]

theorem draining_idle {interpreter : Interpreter} {settings : Settings} {first : Store}
    {call : WorkerCall} :
    (draining interpreter settings first).step store call = none ↔
      ∀ item ∈ store.work.rows, claimable (call.clock 0) item = false := by
  rw [← @claim_eq_none store call.workerId settings.workerLeaseSeconds call.pick]
  cases found : claim store call.workerId settings.workerLeaseSeconds call.pick (call.clock 0) with
  | none => simp [draining, WorkerCall.run, runOnce, found]
  | some claim =>
      obtain ⟨lease, claimed⟩ := claim
      simp only [draining, WorkerCall.run, runOnce, found]
      split <;> simp

end Expiring

/-- While nobody edits, the calls of `run_once` that find work are no more than the work that was
left before them, and they can only come to an end where the queue is empty. -/
theorem workers_drain_queue (runtime : Runtime) (interpreter : Interpreter) (start : Time)
    (system : System) (reached : (service runtime start).Reachable system)
    (current : String → Int → PageMetadata) (calls : List WorkerCall) (after : Store)
    (unedited : ∀ call ∈ calls, Unedited current call)
    (ran : (draining interpreter runtime.settings system.store).run system.store calls =
      some after) :
    calls.length + workLeft runtime.settings current after ≤
        workLeft runtime.settings current system.store ∧
      ((∀ call, (draining interpreter runtime.settings system.store).step after call = none) ↔
        ∀ item ∈ after.work.rows, item.live = false) := by
  have expiring : Expiring after := by
    refine Machine.run_keeps Expiring ?_ unedited (expiring_reached reached) ran
    intro before call next _ expiring taken
    obtain ⟨item, _, _, outcome⟩ := draining_step taken
    exact expiring.outcome outcome
  constructor
  · refine Machine.length_le_rank (fun _ => True) (workLeft runtime.settings current) ?_ ?_
      unedited trivial ran
    · intro before call next _ _ _
      trivial
    · intro before call next still _ taken
      obtain ⟨item, present, due, outcome⟩ := draining_step taken
      exact workLeft_outcome still present (live_of_claimable due) outcome
  · constructor
    · intro stuck item present
      by_contra live
      rw [Bool.not_eq_false] at live
      obtain ⟨now, due⟩ := due_of_live expiring present live
      have idle := draining_idle.mp (stuck ⟨ownUpstream, "", 0, fun _ => now⟩) item present
      rw [due] at idle
      cases idle
    · intro ended call
      refine draining_idle.mpr (fun item present => ?_)
      by_contra due
      rw [Bool.not_eq_false] at due
      have live := live_of_claimable due
      rw [ended item present] at live
      cases live

def articleAt (pageId : Int) : PageMetadata := { articlePage 10 with pageId := pageId }

def articleCall : WorkerCall where
  upstream := { ownUpstream with getPage := fun _ pageId => .ok (articleAt pageId) }
  workerId := "a"
  pick := 0
  clock := fun _ => 0

theorem articleCall_unedited : Unedited (fun _ => articleAt) articleCall := by
  intro wiki pageId page reported
  cases reported
  exact ⟨rfl, rfl⟩

/-- One demand, and the call that answers it. -/
theorem workers_drain_queue_article :
    ∃ system, (service plainRuntime 0).Reachable system ∧ ∃ after,
      (draining plainInterpreter fromEnv system.store).run system.store [articleCall] =
        some after ∧
      (1 + workLeft fromEnv (fun _ => articleAt) after ≤
          workLeft fromEnv (fun _ => articleAt) system.store ∧
        ((∀ call, (draining plainInterpreter fromEnv system.store).step after call = none) ↔
          ∀ item ∈ after.work.rows, item.live = false)) := by
  let system : System := ⟨enqueue .empty (articleKey 10) 100 false 0, 0, []⟩
  have reached : (service plainRuntime 0).Reachable system :=
    Machine.Reachable.next .initial (show (service plainRuntime 0).step _
      (.enqueue (articleKey 10) 100 false) = some system from rfl)
  obtain ⟨after, ran⟩ : ∃ after, (draining plainInterpreter fromEnv system.store).run system.store
      [articleCall] = some after := Option.isSome_iff_exists.mp (by decide +kernel)
  refine ⟨system, reached, after, ran, workers_drain_queue plainRuntime plainInterpreter 0 system
    reached (fun _ => articleAt) [articleCall] after ?_ ran⟩
  exact fun call member => List.mem_singleton.mp member ▸ articleCall_unedited

/-! What becomes of the pages in the queue meanwhile. -/

def currentIdentity (current : String → Int → PageMetadata) (page : PageKey) : Identity :=
  { page with revisionId := (current page.wiki page.pageId).revisionId }

/-- The current revision of the page has a result or is waiting for one, or other work of the
page will bring it in. -/
def Underway (current : String → Int → PageMetadata) (page : PageKey) (store : Store) : Prop :=
  (getResult store (currentIdentity current page)).isSome = true ∨
    store.LiveAt (currentIdentity current page) ∨
    (getWork store (currentIdentity current page) = none ∧ store.LivePage page)

def GivenUp (page : PageKey) (store : Store) : Prop :=
  ∃ item ∈ store.work.rows, item.toPageKey = page ∧ item.state = .dead

/-- Whatever MediaWiki, CentralAuth and WikiWho are asked about the page, they answer. -/
def Answering (interpreter : Interpreter) (settings : Settings) (page : PageKey)
    (call : WorkerCall) : Prop :=
  ∀ lease : WorkLease, lease.toPageKey = page →
    ∃ metadata attributed, call.upstream.getPage page.wiki page.pageId = .ok metadata ∧
      attributePage interpreter settings call.upstream lease metadata = .ok attributed

section Pages

variable {interpreter : Interpreter} {settings : Settings} {call : WorkerCall}
  {store after : Store} {current : String → Int → PageMetadata} {item : WorkItem} {page : PageKey}

theorem Underway.kept (underway : Underway current page store)
    (results : ∀ key, (getResult store key).isSome = true → (getResult after key).isSome = true)
    (missing : ∀ key, key.toPageKey = page → getWork store key = none → getWork after key = none)
    (rows : ∀ row ∈ store.work.rows, row.toPageKey = page → row.live = true →
      ∃ left ∈ after.work.rows, left.toIdentity = row.toIdentity ∧ left.live = true) :
    Underway current page after := by
  rcases underway with stored | ⟨row, present, same, live⟩ | ⟨none_, row, present, same, live⟩
  · exact Or.inl (results _ stored)
  · obtain ⟨left, member, equal, still⟩ :=
      rows row present (congrArg Identity.toPageKey same) live
    exact Or.inr (Or.inl ⟨left, member, equal.trans same, still⟩)
  · obtain ⟨left, member, equal, still⟩ := rows row present same live
    exact Or.inr (Or.inr ⟨missing _ rfl none_, left, member,
      (congrArg Identity.toPageKey equal).trans same, still⟩)

theorem Underway.frame (underway : Underway current page store)
    (results : ∀ key, (getResult store key).isSome = true → (getResult after key).isSome = true)
    (rows : ∀ row : WorkItem, row.toPageKey = page →
      (row ∈ after.work.rows ↔ row ∈ store.work.rows)) : Underway current page after := by
  refine underway.kept results ?_ ?_
  · intro key ofKey none_
    refine getWork_eq_none.mpr (fun other member equal => ?_)
    have ofPage : other.toPageKey = page := (congrArg Identity.toPageKey equal).trans ofKey
    exact getWork_eq_none.mp none_ other ((rows other ofPage).mp member) equal
  · intro row present ofPage live
    exact ⟨row, (rows row ofPage).mpr present, rfl, live⟩

theorem updateWork_others {change : Change WorkItem} (present : item ∈ store.work.rows)
    (other : item.toPageKey ≠ page) (row : WorkItem) (ofPage : row.toPageKey = page) :
    row ∈ (store.updateWork (fun row => row.id = item.id) change).work.rows ↔
      row ∈ store.work.rows := by
  rw [mem_updateWork_id]
  constructor
  · rintro (⟨old, _⟩ | ⟨old, member, number, rfl⟩)
    · exact old
    · have same := SerialTable.row_of_number member present number
      have key : (change.apply old).toIdentity = old.toIdentity := change.key_apply old
      rw [← ofPage, show (change.apply old).toPageKey = old.toPageKey from
        congrArg Identity.toPageKey key, same] at other
      exact absurd rfl other
  · intro member
    refine Or.inl ⟨member, fun number => ?_⟩
    rw [← SerialTable.row_of_number member present number] at other
    exact other ofPage

theorem supersedeOlder_others {key : Identity} {now : Time} (other : key.toPageKey ≠ page)
    (row : WorkItem) (ofPage : row.toPageKey = page) :
    row ∈ (supersedeOlder store key now).work.rows ↔ row ∈ store.work.rows := by
  have skipped : ∀ row : WorkItem, row.toPageKey = page → olderPending key row = false := by
    intro row ofPage
    simp [olderPending, ofPage, Ne.symm other]
  constructor
  · intro member
    obtain ⟨old, present, rfl⟩ := mem_updateWork.mp member
    have same : old.toPageKey = page := by
      rw [← ofPage, ← obsoleted_identity key now old]
    rwa [changed_not (skipped old same)]
  · intro present
    exact updateWork_keeps present (skipped row ofPage)

theorem enqueue_others {key : Identity} {priority : Int} {allowCachedResult : Bool} {now : Time}
    (other : key.toPageKey ≠ page) (row : WorkItem) (ofPage : row.toPageKey = page) :
    row ∈ (enqueue store key priority allowCachedResult now).work.rows ↔
      row ∈ store.work.rows := by
  have outcome := enqueue_outcome store key priority allowCachedResult now
  generalize enqueue store key priority allowCachedResult now = after at outcome ⊢
  cases outcome with
  | cached refuses stored => exact Iff.rfl
  | overtaken missing newer => exact Iff.rfl
  | inserted uncached missing newest grown added =>
      rw [supersedeOlder_others other row ofPage]
      refine (SerialTable.mem_insert? added).trans (or_iff_left ?_)
      rintro rfl
      exact other ofPage
  | boosted uncached waiting found live =>
      obtain ⟨present, same⟩ := getWork_eq_some.mp found
      have elsewhere : waiting.toPageKey ≠ page := by
        rw [← same] at other
        exact other
      rw [supersedeOlder_others other row ofPage, updateWork_others present elsewhere row ofPage]
  | left uncached stopped found ended => exact supersedeOlder_others other row ofPage

theorem reported_others (present : item ∈ store.work.rows) (other : item.toPageKey ≠ page)
    (change : Change WorkItem) (row : WorkItem) (ofPage : row.toPageKey = page) :
    row ∈ ((call.claimed settings store item).updateWork (fun row => row.id = item.id)
      change).work.rows ↔ row ∈ store.work.rows := by
  have claimed : row ∈ (call.claimed settings store item).work.rows ↔ row ∈ store.work.rows :=
    updateWork_others present other row ofPage
  rw [← claimed]
  exact updateWork_others (claimed_mem present) other row ofPage

theorem getWork_reported {key : Identity} (change : Change WorkItem) :
    getWork ((call.claimed settings store item).updateWork (fun row => row.id = item.id)
      change) key = none ↔ getWork store key = none := by
  rw [getWork, getWork, Store.updateWork, SerialTable.find_update, Option.map_eq_none_iff,
    WorkerCall.claimed, Store.updateWork, SerialTable.find_update, Option.map_eq_none_iff]

theorem reported_keeps {change : Change WorkItem} {row : WorkItem}
    (present : row ∈ store.work.rows) (other : row.id ≠ item.id) :
    row ∈ ((call.claimed settings store item).updateWork (fun row => row.id = item.id)
      change).work.rows :=
  mem_updateWork_id.mpr (Or.inl ⟨mem_updateWork_id.mpr (Or.inl ⟨present, other⟩), other⟩)

theorem reported_mem (present : item ∈ store.work.rows) (change : Change WorkItem) :
    change.apply (call.leased settings item) ∈
      ((call.claimed settings store item).updateWork (fun row => row.id = item.id)
        change).work.rows :=
  mem_updateWork_id.mpr (Or.inr ⟨_, claimed_mem present, rfl, rfl⟩)

theorem Underway.failed (underway : Underway current page store) (present : item ∈ store.work.rows)
    (code message : String) (permanent : Bool) :
    Underway current page (fail (call.claimed settings store item) (leaseOf item) code message
        settings.workerMaxAttempts permanent (call.clock 1)) ∨
      item.toPageKey = page ∧ GivenUp page (fail (call.claimed settings store item) (leaseOf item)
        code message settings.workerMaxAttempts permanent (call.clock 1)) := by
  by_cases mine : item.toPageKey = page
  · let isDead :=
      permanent || decide (settings.workerMaxAttempts ≤ ((item.attempts + 1 : Nat) : Int))
    let left := (WikiPeople.failed code message isDead permanent (retryDelay (item.attempts + 1))
      (call.clock 1)).apply (call.leased settings item)
    have member : left ∈ (fail (call.claimed settings store item) (leaseOf item) code message
        settings.workerMaxAttempts permanent (call.clock 1)).work.rows := reported_mem present _
    have state : left.state = if isDead then .dead else .pending := rfl
    cases dead : isDead with
    | true => exact Or.inr ⟨mine, left, member, mine, by rw [state, dead]; rfl⟩
    | false =>
        refine Or.inl (underway.kept (fun key stored => stored)
          (fun key _ none_ => (getWork_reported _).mpr none_) ?_)
        intro row there _ live
        by_cases same : row.id = item.id
        · rw [SerialTable.row_of_number there present same]
          exact ⟨left, member, rfl, (live_iff left).mpr (Or.inl (by rw [state, dead]; rfl))⟩
        · exact ⟨row, reported_keeps there same, rfl, live⟩
  · exact Or.inl (underway.frame (fun key stored => stored) (reported_others present mine _))

theorem underway_enqueue {priority : Int} {now : Time}
    (open_ : (getResult store (currentIdentity current page)).isSome = true ∨
      store.LiveAt (currentIdentity current page) ∨
      getWork store (currentIdentity current page) = none) :
    Underway current page
      (enqueue store (currentIdentity current page) priority false now) := by
  have outcome := enqueue_outcome store (currentIdentity current page) priority false now
  generalize enqueue store (currentIdentity current page) priority false now = after at outcome ⊢
  cases outcome with
  | cached refuses stored => exact Or.inl stored
  | overtaken missing newer =>
      exact Or.inr (Or.inr ⟨missing, livePage_of_spared (spared_of_liveAbove newer)⟩)
  | inserted uncached missing newest grown added =>
      exact Or.inr (Or.inl ((liveAt_supersedeOlder _ _ now).mpr (liveAt_insert added)))
  | boosted uncached waiting found live =>
      obtain ⟨present, same⟩ := getWork_eq_some.mp found
      refine Or.inr (Or.inl ((liveAt_supersedeOlder _ _ now).mpr ?_))
      exact (live_updateWork (fun _ => rfl) (fun identity => identity = _)).mpr
        ⟨waiting, present, same, live⟩
  | left uncached stopped found ended =>
      obtain ⟨present, same⟩ := getWork_eq_some.mp found
      rcases open_ with stored | ⟨row, there, equal, live⟩ | none_
      · exact Or.inl stored
      · have one := SerialTable.row_of_key there present (equal.trans same.symm)
        rw [one, ended] at live
        cases live
      · rw [none_] at found
        cases found

theorem getResult_save {values : ResultValues} {key : Identity}
    (known : (getResult store key).isSome = true ∨ values.toIdentity = key) :
    (getResult (saveResult store values) key).isSome = true := by
  have saved : ∀ row : AttributionResult, row.toIdentity = key →
      row ∈ (saveResult store values).results.rows →
      (getResult (saveResult store values) key).isSome = true := by
    intro row same member
    rw [getResult, Table.find_eq_some.mpr ⟨member, same⟩]
    rfl
  by_cases mine : values.toIdentity = key
  · exact saved _ mine (mem_saveResult.mpr (Or.inr rfl))
  · obtain ⟨row, found⟩ := Option.isSome_iff_exists.mp (known.resolve_right mine)
    obtain ⟨present, same⟩ := Table.find_eq_some.mp found
    refine saved row same (mem_saveResult.mpr (Or.inl ⟨present, ?_⟩))
    exact fun equal => mine (equal.symm.trans same)

/-- What a call makes of a page that is an article, whichever item it claimed. -/
theorem underway_outcome (unedited : Unedited current call)
    (article : (current page.wiki page.pageId).pageNamespace = 0)
    (direct : (current page.wiki page.pageId).isRedirect = false)
    (underway : Underway current page store) (present : item ∈ store.work.rows)
    (outcome : CallOutcome interpreter settings call store item after) :
    Underway current page after ∨
      item.toPageKey = page ∧ GivenUp page after ∧
        ∃ raised, processed interpreter settings call.upstream (leaseOf item)
          (call.claimed settings store item) call.clock = .error raised := by
  cases outcome with
  | failed raised raises =>
      have given : ∀ code message permanent, Underway current page (fail _ _ _ _ _ _ _) ∨ _ :=
        fun code message permanent => @Underway.failed settings call store current item page
          underway present code message permanent
      cases raised with
      | known kind message =>
          exact (given _ _ _).imp_right (fun up => ⟨up.1, up.2, _, raises⟩)
      | unexpected message =>
          exact (given _ _ _).imp_right (fun up => ⟨up.1, up.2, _, raises⟩)
  | refused answer reported odd reason =>
      have other : item.toPageKey ≠ page := by
        rintro rfl
        obtain ⟨rfl, -⟩ := unedited _ _ _ reported
        rcases odd with off | redirect
        · exact off article
        · rw [direct] at redirect
          cases redirect
      exact Or.inl (underway.frame (fun key stored => stored) (reported_others present other _))
  | overtaken answer reported other =>
      obtain ⟨rfl, asked⟩ := unedited _ _ _ reported
      have samePage : (currentKey (leaseOf item) (current item.wiki item.pageId)).toPageKey =
          item.toPageKey := by
        simp [currentKey, leaseOf, asked]
      by_cases mine : item.toPageKey = page
      · subst mine
        have key : currentKey (leaseOf item) (current item.wiki item.pageId) =
            currentIdentity current item.toPageKey := identity_eq samePage rfl
        rw [key]
        refine Or.inl (underway_enqueue ?_)
        refine underway.imp id (Or.imp ?_ (fun waiting => (getWork_reported _).mpr waiting.1))
        rintro ⟨row, there, same, live⟩
        refine ⟨row, reported_keeps there (fun number => ?_), same, live⟩
        rw [SerialTable.row_of_number there present number] at same
        exact other (congrArg Identity.revisionId same).symm
      · refine Or.inl (underway.frame ?_ ?_)
        · intro key stored
          rw [enqueue_frame]
          exact stored
        · intro row ofPage
          rw [enqueue_others (fun equal => mine (samePage.symm.trans equal)) row ofPage]
          exact reported_others present mine _ row ofPage
  | stored answer attributed reported same =>
      obtain ⟨rfl, -⟩ := unedited _ _ _ reported
      rw [register_frame]
      refine Or.inl ?_
      by_cases mine : item.toPageKey = page
      · subst mine
        refine Or.inl (getResult_save (Or.inr ?_))
        exact identity_eq rfl same.symm
      · refine underway.frame (fun key known => getResult_save (Or.inl known)) ?_
        intro row ofPage
        have claimed : row ∈ (call.claimed settings store item).work.rows ↔
            row ∈ store.work.rows := updateWork_others present mine row ofPage
        refine SerialTable.mem_delete.trans ?_
        rw [saveResult_work, claimed]
        refine and_iff_left_of_imp (fun there => decide_eq_false (fun number => ?_))
        rw [SerialTable.row_of_number there present number] at ofPage
        exact mine ofPage

theorem givenUp_outcome (given : GivenUp page store) (present : item ∈ store.work.rows)
    (live : item.live = true)
    (outcome : CallOutcome interpreter settings call store item after) : GivenUp page after := by
  obtain ⟨row, there, ofPage, dead⟩ := given
  have ended : row.live = false := by simp [WorkItem.live, dead]
  have other : row.id ≠ item.id := by
    intro number
    rw [SerialTable.row_of_number there present number, live] at ended
    cases ended
  have claimed : row ∈ (call.claimed settings store item).work.rows :=
    mem_updateWork_id.mpr (Or.inl ⟨there, other⟩)
  refine ⟨row, ?_, ofPage, dead⟩
  cases outcome with
  | failed raised raises =>
      cases raised with
      | known kind message => exact reported_keeps there other
      | unexpected message => exact reported_keeps there other
  | refused answer reported odd reason => exact reported_keeps there other
  | overtaken answer reported _ => exact enqueue_keeps (reported_keeps there other) ended _ _ _
  | stored answer attributed reported same =>
      rw [register_frame]
      refine SerialTable.mem_delete.mpr ⟨?_, decide_eq_false other⟩
      rw [saveResult_work]
      exact claimed

theorem Answering.processed (answering : Answering interpreter settings page call)
    (mine : item.toPageKey = page) {claimed : Store} {clock : Nat → Time} {raised : Exn} :
    processed interpreter settings call.upstream (leaseOf item) claimed clock ≠ .error raised := by
  subst mine
  obtain ⟨metadata, attributed, reported, answered⟩ := answering (leaseOf item) rfl
  intro raises
  unfold WikiPeople.processed process at raises
  change call.upstream.getPage (leaseOf item).wiki (leaseOf item).pageId = _ at reported
  rw [reported] at raises
  dsimp only at raises
  rw [answered] at raises
  split at raises
  · cases raises
  · split at raises
    · cases raises
    · split at raises <;> cases raises

end Pages

/-- What is in the queue when workers are left alone with it is dealt with by the time the
queue is empty. A page that is an article has a result for its current revision then, or one
of its items was given up; and a result where upstream answers about the page throughout. -/
theorem drained_queue_serves (runtime : Runtime) (interpreter : Interpreter) (store : Store)
    (current : String → Int → PageMetadata) (page : PageKey) (calls : List WorkerCall)
    (after : Store) (unedited : ∀ call ∈ calls, Unedited current call)
    (article : (current page.wiki page.pageId).pageNamespace = 0)
    (direct : (current page.wiki page.pageId).isRedirect = false)
    (queued : store.LivePage page)
    (open_ : ∀ item, getWork store (currentIdentity current page) = some item → item.live = true)
    (ran : (draining interpreter runtime.settings store).run store calls = some after)
    (drained : ∀ item ∈ after.work.rows, item.live = false) :
    ((getResult after (currentIdentity current page)).isSome = true ∨ GivenUp page after) ∧
      ((∀ call ∈ calls, Answering interpreter runtime.settings page call) →
        (getResult after (currentIdentity current page)).isSome = true) := by
  have start : Underway current page store := by
    cases found : getWork store (currentIdentity current page) with
    | none => exact Or.inr (Or.inr ⟨found, queued⟩)
    | some item =>
        obtain ⟨present, same⟩ := getWork_eq_some.mp found
        exact Or.inr (Or.inl ⟨item, present, same, open_ item found⟩)
  have ends : Underway current page after →
      (getResult after (currentIdentity current page)).isSome = true := by
    rintro (stored | ⟨row, there, _, live⟩ | ⟨_, row, there, _, live⟩)
    · exact stored
    · rw [drained row there] at live
      cases live
    · rw [drained row there] at live
      cases live
  constructor
  · have kept : Underway current page after ∨ GivenUp page after := by
      refine Machine.run_keeps (fun store => Underway current page store ∨ GivenUp page store)
        ?_ unedited (Or.inl start) ran
      intro before call next still holds taken
      obtain ⟨item, present, due, outcome⟩ := draining_step taken
      rcases holds with underway | given
      · exact (underway_outcome still article direct underway present outcome).imp_right
          (fun up => up.2.1)
      · exact Or.inr (givenUp_outcome given present (live_of_claimable due) outcome)
    exact kept.imp_left ends
  · intro answering
    have both : ∀ call ∈ calls, Unedited current call ∧
        Answering interpreter runtime.settings page call :=
      fun call member => ⟨unedited call member, answering call member⟩
    refine ends (Machine.run_keeps (Underway current page) ?_ both start ran)
    intro before call next still underway taken
    obtain ⟨item, present, due, outcome⟩ := draining_step taken
    rcases underway_outcome still.1 article direct underway present outcome with
      kept | ⟨mine, _, raised, raises⟩
    · exact kept
    · exact absurd raises (still.2.processed mine)

/-- A reader asked for revision 9 of an article whose revision 10 is current. -/
theorem drained_queue_serves_article :
    let store := enqueue .empty (articleKey 9) 100 false 0
    ∃ after, (draining plainInterpreter fromEnv store).run store [articleCall, articleCall] =
        some after ∧
      ((getResult after (articleKey 10)).isSome = true ∨
          GivenUp (articleKey 10).toPageKey after) ∧
        ((∀ call ∈ [articleCall, articleCall],
            Answering plainInterpreter fromEnv (articleKey 10).toPageKey call) →
          (getResult after (articleKey 10)).isSome = true) := by
  intro store
  have ends : ((draining plainInterpreter fromEnv store).run store [articleCall, articleCall]).any
      (fun after => after.work.rows.all (fun item => !item.live)) = true := by decide +kernel
  obtain ⟨after, ran, idle⟩ := (Option.any_eq_true _ _).mp ends
  refine ⟨after, ran, drained_queue_serves plainRuntime plainInterpreter store (fun _ => articleAt)
    (articleKey 9).toPageKey [articleCall, articleCall] after ?_ rfl rfl (by decide) ?_ ran ?_⟩
  · exact fun call member => by
      simp only [List.mem_cons, List.not_mem_nil, or_false, or_self] at member
      exact member ▸ articleCall_unedited
  · have missing : getWork store (articleKey 10) = none := by decide
    intro item found
    cases missing.symm.trans found
  · intro item member
    simpa using List.all_eq_true.mp idle item member

end WikiPeople
