import WikiPeople.Jobs

/-! When the queue holds work for a page: what an `enqueue`, a pending answer and a refused
revision leave pending or leased. -/

namespace WikiPeople

open Relational Transition

instance (store : Store) (page : PageKey) : Decidable (store.LivePage page) :=
  inferInstanceAs (Decidable (∃ item ∈ store.work.rows, item.toPageKey = page ∧ item.live = true))

instance (store : Store) (key : Identity) : Decidable (store.LiveAt key) :=
  inferInstanceAs (Decidable (∃ item ∈ store.work.rows, item.toIdentity = key ∧ item.live = true))

instance (store : Store) (key : Identity) : Decidable (store.LiveAbove key) :=
  inferInstanceAs (Decidable (∃ item ∈ store.work.rows, item.toPageKey = key.toPageKey ∧
    key.revisionId < item.revisionId ∧ item.live = true))

/-- Some live item of the page is leased or of no older revision, so that obsoleting the
older pending work of `key` spares it. -/
def Store.Spared (store : Store) (key : Identity) : Prop :=
  ∃ item ∈ store.work.rows, item.toPageKey = key.toPageKey ∧ item.live = true ∧
    (item.state = .leased ∨ key.revisionId ≤ item.revisionId)

theorem spared_iff {store : Store} {key : Identity} :
    store.Spared key ↔ ∃ item ∈ store.work.rows, item.toPageKey = key.toPageKey ∧
      item.live = true ∧ olderPending key item = false := by
  refine exists_congr fun item => and_congr_right fun _ => and_congr_right fun page =>
    and_congr_right fun live => ?_
  rw [live_iff] at live
  rcases live with pending | leased
  · simp [olderPending, page, pending]
  · simp [olderPending, leased]

theorem spared_of_liveAbove {store : Store} {key : Identity} (above : store.LiveAbove key) :
    store.Spared key := by
  obtain ⟨item, present, page, newer, live⟩ := above
  exact ⟨item, present, page, live, Or.inr (Int.le_of_lt newer)⟩

theorem livePage_of_spared {store : Store} {key : Identity} (spared : store.Spared key) :
    store.LivePage key.toPageKey := by
  obtain ⟨item, present, page, live, _⟩ := spared
  exact ⟨item, present, page, live⟩

theorem livePage_of_liveAt {store : Store} {key : Identity} (live : store.LiveAt key) :
    store.LivePage key.toPageKey := by
  obtain ⟨item, present, same, live⟩ := live
  exact ⟨item, present, congrArg Identity.toPageKey same, live⟩

theorem spared_of_liveAt {store : Store} {key : Identity} (live : store.LiveAt key) :
    store.Spared key := by
  obtain ⟨item, present, same, live⟩ := live
  refine ⟨item, present, congrArg Identity.toPageKey same, live, Or.inr ?_⟩
  exact le_of_eq (congrArg Identity.revisionId same).symm

theorem livePage_supersedeOlder {store : Store} {key : Identity} {now : Time} :
    (supersedeOlder store key now).LivePage key.toPageKey ↔ store.Spared key := by
  rw [spared_iff]
  exact live_supersedeOlder store key now (fun identity => identity.toPageKey = key.toPageKey)

theorem liveAt_supersedeOlder (store : Store) (key : Identity) (now : Time) :
    (supersedeOlder store key now).LiveAt key ↔ store.LiveAt key := by
  apply (live_supersedeOlder store key now (fun identity => identity = key)).trans
  refine exists_congr fun item => and_congr_right fun _ => and_congr_right fun same => ?_
  rw [olderPending_same key item same]
  exact and_iff_left rfl

theorem liveAbove_supersedeOlder {store : Store} {key : Identity} {now : Time} :
    (supersedeOlder store key now).LiveAbove key ↔ store.LiveAbove key := by
  have shape := live_supersedeOlder store key now
    (fun identity =>
      identity.toPageKey = key.toPageKey ∧ key.revisionId < identity.revisionId)
  simp only [and_assoc] at shape
  refine shape.trans (exists_congr fun item => and_congr_right fun _ => and_congr_right fun _ =>
    and_congr_right fun newer => and_iff_left ?_)
  simp [olderPending, Int.not_lt.mpr (Int.le_of_lt newer)]

theorem live_updateWork {store : Store} {condition : WorkItem → Bool} {change : Change WorkItem}
    (kept : ∀ item, (change.apply item).state = item.state) (wanted : Identity → Prop) :
    (∃ item ∈ (store.updateWork condition change).work.rows,
        wanted item.toIdentity ∧ item.live = true) ↔
      ∃ item ∈ store.work.rows, wanted item.toIdentity ∧ item.live = true := by
  have same : ∀ item, (SerialTable.changed condition change item).live = item.live := by
    intro item
    unfold SerialTable.changed
    split
    · unfold WorkItem.live
      rw [kept]
    · rfl
  constructor
  · intro live
    rcases live with ⟨row, member, matching, live⟩
    rcases mem_updateWork.mp member with ⟨old, present, rfl⟩
    have identity := SerialTable.key_changed condition change old
    rw [work_key, work_key] at identity
    rw [identity] at matching
    rw [same] at live
    exact ⟨old, present, matching, live⟩
  · intro live
    rcases live with ⟨old, present, matching, live⟩
    have identity := SerialTable.key_changed condition change old
    rw [work_key, work_key] at identity
    refine ⟨_, mem_updateWork.mpr ⟨old, present, rfl⟩, ?_, ?_⟩
    · rw [identity]
      exact matching
    · rw [same]
      exact live

theorem not_declined {store : Store} {key : Identity} {allowCachedResult : Bool}
    (uncached : allowCachedResult = true ∨ getResult store key = none) :
    declined store key allowCachedResult = false := by
  rcases uncached with allowed | absent
  · simp [declined, allowed]
  · simp [declined, absent]

theorem declined_cached {store : Store} {key : Identity} {allowCachedResult : Bool}
    (refuses : allowCachedResult = false) (stored : (getResult store key).isSome = true) :
    declined store key allowCachedResult = true := by
  simp [declined, refuses, stored]

section Enqueue

variable (store : Store) (key : Identity) (priority : Int) (allowCachedResult : Bool)
  (now : Time)

theorem liveAt_insert {store : Store} {key : Identity} {priority : Int} {now : Time}
    {grown : SerialTable WorkItem}
    (added : store.work.insert? (newWork key priority now) = some grown) :
    Store.LiveAt { store with work := grown } key :=
  ⟨_, (SerialTable.mem_insert? added).mpr (Or.inr rfl), rfl, rfl⟩

theorem liveAt_enqueue :
    (enqueue store key priority allowCachedResult now).LiveAt key ↔
      store.LiveAt key ∨ (declined store key allowCachedResult = false ∧
        getWork store key = none ∧ ¬ store.LiveAbove key) := by
  have outcome := enqueue_outcome store key priority allowCachedResult now
  generalize enqueue store key priority allowCachedResult now = after at outcome ⊢
  cases outcome with
  | cached refuses stored =>
      simp [declined_cached refuses stored]
  | overtaken missing newer => simp [newer]
  | inserted uncached missing newest grown added =>
      have live := (liveAt_supersedeOlder _ key now).mpr (liveAt_insert added)
      exact iff_of_true live (Or.inr ⟨not_declined uncached, missing, newest⟩)
  | boosted uncached item found live =>
      obtain ⟨present, same⟩ := getWork_eq_some.mp found
      have before : store.LiveAt key := ⟨item, present, same, live⟩
      refine iff_of_true ((liveAt_supersedeOlder _ key now).mpr ?_) (Or.inl before)
      exact (live_updateWork (fun _ => rfl) (fun identity => identity = key)).mpr before
  | left uncached item found ended =>
      simp [liveAt_supersedeOlder, found]

theorem liveAbove_insert {store : Store} {key : Identity} {priority : Int} {now : Time}
    {grown : SerialTable WorkItem}
    (added : store.work.insert? (newWork key priority now) = some grown) :
    Store.LiveAbove { store with work := grown } key ↔ store.LiveAbove key := by
  constructor
  · rintro ⟨row, member, page, newer, live⟩
    rcases (SerialTable.mem_insert? added).mp member with old | new
    · exact ⟨row, old, page, newer, live⟩
    · subst new
      exact absurd newer (lt_irrefl _)
  · rintro ⟨row, member, rest⟩
    exact ⟨row, (SerialTable.mem_insert? added).mpr (Or.inl member), rest⟩

theorem liveAbove_enqueue :
    (enqueue store key priority allowCachedResult now).LiveAbove key ↔ store.LiveAbove key := by
  have outcome := enqueue_outcome store key priority allowCachedResult now
  generalize enqueue store key priority allowCachedResult now = after at outcome ⊢
  cases outcome with
  | cached refuses stored => rfl
  | overtaken missing newer => rfl
  | inserted uncached missing newest grown added =>
      exact liveAbove_supersedeOlder.trans (liveAbove_insert added)
  | boosted uncached item found live =>
      have shape := @live_updateWork store (fun row => row.id = item.id)
        (boosted item priority now) (fun _ => rfl) (fun identity =>
          identity.toPageKey = key.toPageKey ∧ key.revisionId < identity.revisionId)
      simp only [and_assoc] at shape
      exact liveAbove_supersedeOlder.trans shape
  | left uncached item found ended => exact liveAbove_supersedeOlder

theorem livePage_enqueue :
    (enqueue store key priority allowCachedResult now).LivePage key.toPageKey ↔
      if declined store key allowCachedResult then store.LivePage key.toPageKey
      else getWork store key = none ∨ store.Spared key := by
  have outcome := enqueue_outcome store key priority allowCachedResult now
  generalize enqueue store key priority allowCachedResult now = after at outcome ⊢
  cases outcome with
  | cached refuses stored =>
      rw [if_pos (declined_cached refuses stored)]
  | overtaken missing newer =>
      have live := livePage_of_spared (spared_of_liveAbove newer)
      split
      · rfl
      · exact iff_of_true live (Or.inl missing)
  | inserted uncached missing newest grown added =>
      rw [not_declined uncached, if_neg Bool.false_ne_true]
      have live := (liveAt_supersedeOlder _ key now).mpr (liveAt_insert added)
      exact iff_of_true (livePage_of_liveAt live) (Or.inl missing)
  | boosted uncached item found live =>
      rw [not_declined uncached, if_neg Bool.false_ne_true]
      obtain ⟨present, same⟩ := getWork_eq_some.mp found
      have before : store.LiveAt key := ⟨item, present, same, live⟩
      refine iff_of_true (livePage_of_liveAt ((liveAt_supersedeOlder _ key now).mpr ?_))
        (Or.inr (spared_of_liveAt before))
      exact (live_updateWork (fun _ => rfl) (fun identity => identity = key)).mpr before
  | left uncached item found ended =>
      rw [not_declined uncached, if_neg Bool.false_ne_true]
      rw [livePage_supersedeOlder, found]
      simp only [reduceCtorEq, false_or]

end Enqueue

/-- Enqueueing a page that has live work keeps some exactly when the call returns before it
writes, when no item has the requested revision, or when the work is spared. -/
theorem enqueue_keeps_live_iff (store : Store) (key : Identity) (priority : Int)
    (allowCachedResult : Bool) (now : Time) (before : store.LivePage key.toPageKey) :
    (enqueue store key priority allowCachedResult now).LivePage key.toPageKey ↔
      declined store key allowCachedResult = true ∨ getWork store key = none ∨
        store.Spared key := by
  rw [livePage_enqueue]
  split
  · rename_i returned
    exact iff_of_true before (Or.inl returned)
  · rename_i continued
    exact (or_iff_right continued).symm

def redirectAnswer : PageMetadata := { articlePage 10 with isRedirect := true }

theorem enqueue_keeps_live_pending :
    (enqueue (enqueue .empty (articleKey 5) 10 false 0) (articleKey 9) 10 false 0).LivePage
      (articleKey 9).toPageKey :=
  (enqueue_keeps_live_iff (enqueue .empty (articleKey 5) 10 false 0) (articleKey 9) 10 false 0
    (by decide)).mpr (Or.inr (Or.inl (by decide)))

/-- Revision 10 was refused while the page was a redirect, and revision 5 is pending. A
reader of revision 10 then obsoletes revision 5 for an item nobody will lease. -/
theorem enqueue_ends_last_live :
    ¬ ∀ (runtime : Runtime) (start : Time) (system : System),
        (service runtime start).Reachable system →
          ∀ (key : Identity) (priority : Int) (allowCachedResult : Bool),
            system.store.LivePage key.toPageKey →
              (enqueue system.store key priority allowCachedResult system.now).LivePage
                key.toPageKey := by
  intro claimed
  have lost : ∃ system, (service plainRuntime 0).Reachable system ∧
      (system.store.LivePage (articleKey 10).toPageKey ∧
        ¬ (enqueue system.store (articleKey 10) 100 false system.now).LivePage
          (articleKey 10).toPageKey) :=
    Machine.exists_of_run
      [.enqueue (articleKey 10) 10 true, .claim "w" 0,
        .getPage 0 (.ok redirectAnswer), .perform 0, .enqueue (articleKey 5) 100 false]
      (by decide)
  obtain ⟨system, reached, before, after⟩ := lost
  exact after (claimed plainRuntime 0 system reached (articleKey 10) 100 false before)

/-! A pending answer. -/

theorem conditional_status (runtime : Runtime) (request : Request) (cacheControl : String)
    (extra : List (String × String)) (payload : Json) :
    (conditional runtime request cacheControl extra payload).status ≠ 202 := by
  simp only [conditional]
  split <;> simp

theorem refresh_without_result {settings : Settings} {store : Store} {key : Identity}
    {now : Time} (absent : getLatestResult store key.toPageKey = none) :
    refresh settings store key now =
      enqueue (reviveDead settings store key now) key demand true now := by
  have still : getLatestResult (reviveDead settings store key now) key.toPageKey = none := by
    rw [latest_eq_none, reviveDead_results]
    exact latest_eq_none.mp absent
  simp [refresh, enqueueIfStale, still]

/-- Both versions answer 202 only after they revived and enqueued the requested revision. -/
theorem respond_accepted {runtime : Runtime} {version : Version} {store : Store}
    {request : Request} {now : Time}
    (answered : (respond runtime version store request now).1.status = 202) :
    let key := request.key runtime.settings.algorithmVersion
    let revived := reviveDead runtime.settings store key now
    deadWork runtime.settings store key now = none ∧
      ∃ allowCachedResult, declined revived key allowCachedResult = false ∧
        (respond runtime version store request now).2 =
          enqueue revived key demand allowCachedResult now := by
  cases version with
  | v1 =>
      simp only [respond, pageAttribution] at answered ⊢
      split at answered
      · rename_i response refused
        have failed := refusal_status refused
        change response.status = 202 at answered
        omega
      · split at answered
        · exact absurd answered (conditional_status _ _ _ _ _)
        · rename_i absent
          split at answered
          · cases answered
          · rename_i alive
            refine ⟨alive, false, ?_, rfl⟩
            simp only [declined, getResult, reviveDead_results] at absent ⊢
            rw [absent]
            rfl
  | v2 =>
      simp only [respond, pageAttributionByFreshness] at answered ⊢
      split at answered
      · rename_i response refused
        have failed := refusal_status refused
        change response.status = 202 at answered
        omega
      · split at answered
        · exact absurd answered (conditional_status _ _ _ _ _)
        · rename_i absent
          split at answered
          · cases answered
          · rename_i alive
            refine ⟨alive, true, rfl, ?_⟩
            exact refresh_without_result absent

theorem revived_cases {settings : Settings} {store : Store} {key : Identity} {now : Time}
    (alive : deadWork settings store key now = none) :
    (reviveDead settings store key now).LiveAt key ∧
        (∀ item, getWork store key = some item → item.state ≠ .superseded) ∨
      reviveDead settings store key now = store ∧
        (getWork store key = none ∨
          ∃ item, getWork store key = some item ∧ item.state = .superseded) := by
  cases found : getWork store key with
  | none =>
      refine Or.inr ⟨?_, Or.inl rfl⟩
      simp [reviveDead, found]
  | some item =>
      obtain ⟨present, same⟩ := getWork_eq_some.mp found
      have only : ∀ other, some item = some other → other.state = item.state := by
        intro other equal
        cases equal
        rfl
      cases state : item.state with
      | superseded =>
          refine Or.inr ⟨?_, Or.inr ⟨item, rfl, state⟩⟩
          simp [reviveDead, found, state]
      | dead =>
          have retry : revivable settings item now = true := by
            simpa [deadWork, found, state] using alive
          refine Or.inl ⟨?_, ?_⟩
          · simp only [reviveDead, found, state, retry, decide_true, Bool.and_self, if_true]
            refine ⟨_, mem_updateWork.mpr ⟨item, present, changed_of ?_⟩, same, rfl⟩
            simp [state]
          · intro other equal
            rw [only other equal, state]
            decide
      | pending =>
          refine Or.inl ⟨?_, ?_⟩
          · have kept : reviveDead settings store key now = store := by
              simp [reviveDead, found, state]
            rw [kept]
            exact ⟨item, present, same, (live_iff item).mpr (Or.inl state)⟩
          · intro other equal
            rw [only other equal, state]
            decide
      | leased =>
          refine Or.inl ⟨?_, ?_⟩
          · have kept : reviveDead settings store key now = store := by
              simp [reviveDead, found, state]
            rw [kept]
            exact ⟨item, present, same, (live_iff item).mpr (Or.inr state)⟩
          · intro other equal
            rw [only other equal, state]
            decide

/-- A pending answer leaves work for the page exactly when the item of the requested
revision is not superseded, or other work of the page is spared. -/
theorem pending_live_iff (runtime : Runtime) (version : Version) (store : Store)
    (request : Request) (now : Time)
    (answered : (respond runtime version store request now).1.status = 202) :
    (respond runtime version store request now).2.LivePage
        (request.key runtime.settings.algorithmVersion).toPageKey ↔
      (∀ item, getWork store (request.key runtime.settings.algorithmVersion) = some item →
          item.state ≠ .superseded) ∨
        store.Spared (request.key runtime.settings.algorithmVersion) := by
  obtain ⟨alive, allowCachedResult, continued, queued⟩ := respond_accepted answered
  rw [queued, livePage_enqueue, continued]
  simp only [Bool.false_eq_true, if_false]
  rcases revived_cases alive with ⟨live, usable⟩ | ⟨same, missing | ⟨item, found, superseded⟩⟩
  · exact iff_of_true (Or.inr (spared_of_liveAt live)) (Or.inl usable)
  · rw [same]
    refine iff_of_true (Or.inl missing) (Or.inl ?_)
    intro item found
    rw [missing] at found
    cases found
  · rw [same, found]
    have refused : ¬ ∀ other, some item = some other → other.state ≠ .superseded :=
      fun usable => usable item rfl superseded
    simp only [reduceCtorEq, false_or, refused]

theorem pending_live_first_request :
    (respond plainRuntime .v2 .empty (articleRequest 10) 0).2.LivePage
      (articleKey 10).toPageKey :=
  (pending_live_iff plainRuntime .v2 .empty (articleRequest 10) 0 (by decide)).mpr
    (Or.inl (fun item found => by cases found))

/-- A worker refused revision 10 while the page was a redirect. Readers of that revision
are told to wait for an item that stays superseded. -/
theorem pending_without_live_work :
    ¬ ∀ (runtime : Runtime) (start : Time) (system : System),
        (service runtime start).Reachable system →
          ∀ (version : Version) (request : Request),
            (respond runtime version system.store request system.now).1.status = 202 →
              (respond runtime version system.store request system.now).2.LivePage
                (request.key runtime.settings.algorithmVersion).toPageKey := by
  intro claimed
  have unanswered : ∃ system, (service plainRuntime 0).Reachable system ∧
      ((respond plainRuntime .v2 system.store (articleRequest 10) system.now).1.status = 202 ∧
        ¬ (respond plainRuntime .v2 system.store (articleRequest 10) system.now).2.LivePage
          (articleKey 10).toPageKey) :=
    Machine.exists_of_run
      [.request .v2 (articleRequest 10), .claim "w" 0, .getPage 0 (.ok redirectAnswer),
        .perform 0]
      (by decide)
  obtain ⟨system, reached, accepted, lost⟩ := unanswered
  exact lost (claimed plainRuntime 0 system reached .v2 (articleRequest 10) accepted)

/-! A refused revision. -/

/-- Somebody will compute the page, or its newest result is still young. -/
def NotLost (settings : Settings) (store : Store) (key : Identity) (instant : Time) : Prop :=
  store.LiveAt key ∨ store.LiveAbove key ∨
    (getLatestResult store key.toPageKey).any (fun result => isFresh settings result instant) =
      true

instance (settings : Settings) (store : Store) (key : Identity) (instant : Time) :
    Decidable (NotLost settings store key instant) :=
  inferInstanceAs (Decidable (_ ∨ _ ∨ _))

theorem liveAt_or_liveAbove {store : Store} {key : Identity} :
    store.LiveAt key ∨ store.LiveAbove key ↔
      ∃ item ∈ store.work.rows, (item.toPageKey = key.toPageKey ∧
        key.revisionId ≤ item.revisionId) ∧ item.live = true := by
  constructor
  · rintro (⟨item, present, same, live⟩ | ⟨item, present, page, newer, live⟩)
    · subst same
      exact ⟨item, present, ⟨rfl, le_refl _⟩, live⟩
    · exact ⟨item, present, ⟨page, le_of_lt newer⟩, live⟩
  · rintro ⟨item, present, ⟨page, notOlder⟩, live⟩
    rcases lt_or_eq_of_le notOlder with newer | same
    · exact Or.inr ⟨item, present, page, newer, live⟩
    · exact Or.inl ⟨item, present, identity_eq page same.symm, live⟩

theorem live_supersede (store : Store) (workId : Nat) (reason : String) (now : Time)
    (wanted : Identity → Prop) :
    (∃ item ∈ (supersede store workId reason now).work.rows,
        wanted item.toIdentity ∧ item.live = true) ↔
      ∃ item ∈ store.work.rows, item.id ≠ workId ∧ wanted item.toIdentity ∧
        item.live = true := by
  constructor
  · intro live
    rcases live with ⟨row, member, matching, live⟩
    rcases mem_updateWork.mp member with ⟨old, present, rfl⟩
    by_cases mine : old.id = workId
    · rw [changed_of (by simp [mine])] at live
      cases live
    · rw [changed_not (by simp [mine])] at matching live
      exact ⟨old, present, mine, matching, live⟩
  · intro live
    rcases live with ⟨old, present, other, matching, live⟩
    exact ⟨old, mem_updateWork.mpr ⟨old, present, changed_not (by simp [other])⟩, matching, live⟩

theorem getWork_supersede {store : Store} {workId : Nat} {reason : String} {now : Time}
    {key : Identity} :
    getWork (supersede store workId reason now) key = none ↔ getWork store key = none := by
  simp only [getWork, supersede, Store.updateWork]
  rw [SerialTable.find_update, Option.map_eq_none_iff]

/-- The page survives the refusal of an overtaken revision: other work covers the current
revision, the current revision is known to neither table, or a result is still young. -/
def Recoverable (settings : Settings) (store : Store) (workId : Nat) (key : Identity)
    (instant : Time) : Prop :=
  (∃ item ∈ store.work.rows, item.id ≠ workId ∧ (item.toPageKey = key.toPageKey ∧
      key.revisionId ≤ item.revisionId) ∧ item.live = true) ∨
    (getWork store key = none ∧ getResult store key = none) ∨
    (getLatestResult store key.toPageKey).any (fun result => isFresh settings result instant) =
      true

theorem requeue_notLost_iff (settings : Settings) (store : Store) (workId : Nat)
    (reason : String) (key : Identity) (priority : Int) (refusedAt queuedAt instant : Time) :
    NotLost settings
        (enqueue (supersede store workId reason refusedAt) key priority false queuedAt) key
        instant ↔
      Recoverable settings store workId key instant := by
  have live := liveAt_or_liveAbove.trans
    (live_supersede store workId reason refusedAt (fun identity =>
      identity.toPageKey = key.toPageKey ∧ key.revisionId ≤ identity.revisionId))
  have results : (enqueue (supersede store workId reason refusedAt) key priority false
      queuedAt).results = store.results := by
    rw [enqueue_frame]
    rfl
  have fresh : getLatestResult (enqueue (supersede store workId reason refusedAt) key priority
      false queuedAt) key.toPageKey = getLatestResult store key.toPageKey := by
    simp only [getLatestResult, pageResults, results]
  have unknown : declined (supersede store workId reason refusedAt) key false = false ↔
      getResult store key = none := by
    simp [declined, getResult, supersede]
  rw [NotLost, Recoverable, liveAt_enqueue, liveAbove_enqueue, fresh, getWork_supersede, unknown,
    ← live]
  tauto

/-- `process` refuses a lease of an overtaken revision without losing the page exactly when
the page is recoverable. -/
theorem process_notLost_iff (settings : Settings) (store : Store) (lease : WorkLease)
    (page : PageMetadata) (attribution : PageMetadata → Except Exn Attributed)
    (clock : Nat → Time) (instant : Time) (article : page.pageNamespace = 0)
    (direct : page.isRedirect = false) (overtaken : page.revisionId ≠ lease.revisionId) :
    ∃ after, process store lease (.ok page) attribution clock = .ok after ∧
      (NotLost settings after (currentKey lease page) instant ↔
        Recoverable settings store lease.id (currentKey lease page) instant) := by
  refine ⟨_, ?_, requeue_notLost_iff settings store lease.id (overtakenRevision lease page)
    (currentKey lease page) lease.priority (clock 0) (clock 1) instant⟩
  simp [process, article, direct, overtaken]

theorem process_notLost_current :
    NotLost fromEnv
      (enqueue (supersede (enqueue .empty (articleKey 9) 10 false 0) 0
        "Révision demandée 9, révision courante 10" 0) (articleKey 10) 10 false 0)
      (articleKey 10) 0 := by
  obtain ⟨after, processed, notLost⟩ := process_notLost_iff fromEnv
    (enqueue .empty (articleKey 9) 10 false 0)
    { toIdentity := articleKey 9, id := 0, priority := 10, attempts := 1 } (articlePage 10)
    (fun _ => .error (.unexpected "")) (fun _ => 0) 0 rfl rfl (by decide)
  cases processed
  exact notLost.mpr (Or.inr (Or.inl (by decide)))

/-- A lagging replica once answered revision 9, so revision 10 was refused and revision 9
queued. When the current revision is 10 again, its item is superseded and stays so. -/
theorem process_loses_page :
    ¬ ∀ (runtime : Runtime) (start : Time) (system : System),
        (service runtime start).Reachable system →
          ∀ job ∈ system.jobs, job.phase = .fetching →
            ∀ (page : PageMetadata) (attribution : PageMetadata → Except Exn Attributed)
              (clock : Nat → Time) (after : Store),
              page.pageNamespace = 0 → page.isRedirect = false →
                page.pageId = job.lease.pageId → page.revisionId ≠ job.lease.revisionId →
                  process system.store job.lease (.ok page) attribution clock = .ok after →
                    NotLost runtime.settings after (currentKey job.lease page) (clock 1) := by
  intro claimed
  have lagging : ∃ system, (service plainRuntime 0).Reachable system ∧
      ∃ job ∈ system.jobs, job.phase = .fetching ∧ job.lease.pageId = 1 ∧
        job.lease.revisionId = 9 ∧
          ¬ NotLost fromEnv
            (enqueue (supersede system.store job.lease.id
              (overtakenRevision job.lease (articlePage 10)) system.now)
              (currentKey job.lease (articlePage 10)) job.lease.priority false system.now)
            (currentKey job.lease (articlePage 10)) system.now :=
    Machine.exists_of_run
      [.enqueue (articleKey 10) 100 false, .claim "w" 0, .getPage 0 (.ok (articlePage 9)),
        .perform 0, .perform 0, .claim "w" 0]
      (by decide)
  obtain ⟨system, reached, job, present, fetching, page, revision, lost⟩ := lagging
  refine lost (claimed plainRuntime 0 system reached job present fetching (articlePage 10)
    (fun _ => .error (.unexpected "")) (fun _ => system.now) _ rfl rfl page.symm ?_ ?_)
  · rw [revision]
    decide
  · simp [process, articlePage, revision]

end WikiPeople
