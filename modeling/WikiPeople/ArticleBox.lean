import WikiPeople.Sentence

/-! The box of an article over time: the request with its retries and the placeholder with its
timer run side by side, and the rendering waits for both. Times are milliseconds since
`addArticleSummary` was called. -/

namespace WikiPeople

open Transition

def requestTimeoutMs : Nat := 8000

def pendingRetryDelaysMs : List Nat := [3000, 10000]

def pendingSettleMs : Nat := 2500

inductive DisplayState where
  | loading
  | vague
  | final
  deriving DecidableEq, Repr

def countDisplayState (elapsedMs : Nat) (data : Option ContributionData) : DisplayState :=
  if data.isSome then .final
  else if elapsedMs < pendingSettleMs then .loading
  else .vague

/-- What an element with the id of the summary says. Only `loading` is marked `aria-busy`. -/
inductive Box where
  | loading
  | vague
  | final (summary : Summary)
  deriving DecidableEq, Repr

/-- `settlePendingSummary`, told about every element: it changes the one that was built to wait. -/
def settlePendingSummary : Box → Box
  | .loading => .vague
  | box => box

/-- The record that the request writes and the placeholder reads. -/
structure Outcome where
  done : Bool
  data : Option ContributionData
  failed : Bool

/-- Where `contributionData` stands: `timer` is when the abort or the next attempt is due. -/
inductive RequestTask where
  | fetching (attempt timer : Nat)
  | waiting (attempt timer : Nat)
  | settled (time : Nat)
  deriving DecidableEq, Repr

inductive PlaceholderTask where
  | waiting (timer : Nat)
  | exited (time : Nat)
  deriving DecidableEq, Repr

/-- A page view whose session cache is empty. `answers` are the outcomes of the attempts so
far, and `finished` is when `addArticleSummary` returned. -/
structure ArticleView where
  now : Nat
  answers : List (Option Response)
  request : RequestTask
  outcome : Outcome
  placeholder : PlaceholderTask
  boxes : List Box
  finished : Option Nat

inductive ArticleEvent where
  | elapse (duration : Nat)
  | answer (response : Option Response)
  | abort
  | retry
  | wake
  | render

section Definitions

variable (browser : Browser) (place : Bool)

/-- One pass of the loop of `runCountPlaceholder`. -/
def runCountPlaceholder (view : ArticleView) : ArticleView :=
  if view.outcome.done then { view with placeholder := .exited view.now }
  else if countDisplayState view.now none = .loading then
    { view with placeholder := .waiting (view.now + (pendingSettleMs - view.now)) }
  else
    { view with
      boxes := view.boxes.map settlePendingSummary, placeholder := .exited view.now }

/-- `addArticleSummary` up to its first wait, on a page without a box. `place` tells whether
`insertBelowSubtitle` finds where to put one. -/
def startArticleSummary : ArticleView :=
  let sent : ArticleView :=
    { now := 0
      answers := []
      request := .fetching 0 requestTimeoutMs
      outcome := { done := false, data := none, failed := false }
      placeholder := .exited 0
      boxes := []
      finished := none }
  if place then runCountPlaceholder { sent with boxes := [.loading] } else sent

def readAttempt (response : Option Response) : Except String (Option ContributionData) :=
  (fetchJson response).bind (readAnswer browser)

/-- The record after the request settled with this value or error. -/
def Outcome.settledWith : Except String (Option ContributionData) → Outcome
  | .error _ => { done := true, data := none, failed := true }
  | .ok data => { done := true, data := data, failed := false }

/-- `loadContributionData` when an attempt is answered: a pending answer waits for the next
attempt while a delay is left, and everything else settles the request. -/
def receive (view : ArticleView) (attempt : Nat) (response : Option Response) : ArticleView :=
  let heard := { view with answers := view.answers ++ [response] }
  match readAttempt browser response, pendingRetryDelaysMs[attempt]? with
  | .ok none, some delay => { heard with request := .waiting (attempt + 1) (view.now + delay) }
  | result, _ =>
      { heard with request := .settled view.now, outcome := Outcome.settledWith result }

/-- The rendering once both tasks are over. `removeArticleSummary` and `replaceWith` act on
the first box of the page; a raising `buildArticleSummary` leaves the page as it is. -/
def showOutcome (outcome : Outcome) (boxes : List Box) : List Box :=
  if outcome.failed then boxes.tail
  else
    match outcome.data.map (buildArticleSummary browser) with
    | none => boxes
    | some (.error _) => boxes
    | some (.ok none) => boxes.tail
    | some (.ok (some summary)) =>
        match boxes with
        | [] => if place then [.final summary] else []
        | _ :: others => .final summary :: others

def RequestTask.timer? : RequestTask → Option Nat
  | .fetching _ timer => some timer
  | .waiting _ timer => some timer
  | .settled _ => none

def PlaceholderTask.timer? : PlaceholderTask → Option Nat
  | .waiting timer => some timer
  | .exited _ => none

def ArticleView.Resumable (view : ArticleView) : Prop :=
  view.request.timer? = none ∧ view.placeholder.timer? = none ∧ view.finished = none

instance (view : ArticleView) : Decidable view.Resumable :=
  inferInstanceAs (Decidable (_ ∧ _ ∧ _))

/-- No timer is due before `time`. -/
def ArticleView.Quiet (view : ArticleView) (time : Nat) : Prop :=
  (∀ timer ∈ view.request.timer?, time ≤ timer) ∧
    ∀ timer ∈ view.placeholder.timer?, time ≤ timer

instance (view : ArticleView) (time : Nat) : Decidable (view.Quiet time) :=
  inferInstanceAs (Decidable (_ ∧ _))

/-- What can happen next. Timers fire when they are due and the rendering follows at once;
an answer may come at any time until its request is aborted. -/
def ArticleView.step (view : ArticleView) : ArticleEvent → Option ArticleView
  | .elapse duration =>
      if view.Quiet (view.now + duration) ∧ ¬ view.Resumable then
        some { view with now := view.now + duration }
      else none
  | .answer response =>
      match view.request with
      | .fetching attempt _ => some (receive browser view attempt response)
      | _ => none
  | .abort =>
      match view.request with
      | .fetching attempt timer =>
          if timer ≤ view.now then some (receive browser view attempt none) else none
      | _ => none
  | .retry =>
      match view.request with
      | .waiting attempt timer =>
          if timer ≤ view.now then
            some { view with request := .fetching attempt (view.now + requestTimeoutMs) }
          else none
      | _ => none
  | .wake =>
      match view.placeholder with
      | .waiting timer => if timer ≤ view.now then some (runCountPlaceholder view) else none
      | .exited _ => none
  | .render =>
      if view.Resumable then
        some
          { view with
            boxes := showOutcome browser place view.outcome view.boxes
            finished := some view.now }
      else none

def articleView : Machine ArticleView ArticleEvent where
  initial := startArticleSummary place
  step := ArticleView.step browser place

end Definitions

section Answers

variable {browser : Browser}

def heard (answers : List (Option Response)) (attempt : Nat) : Option Response :=
  answers[attempt]?.join

theorem heard_last (earlier : List (Option Response)) (last : Option Response) :
    heard (earlier ++ [last]) earlier.length = last := by
  simp [heard]

def AllPending (browser : Browser) (answers : List (Option Response)) : Prop :=
  ∀ answer ∈ answers, readAttempt browser answer = .ok none

theorem heard_pending {earlier : List (Option Response)} {last : Option Response}
    (pending : AllPending browser earlier) (attempt : Nat) (inside : attempt < earlier.length) :
    readAttempt browser (heard (earlier ++ [last]) attempt) = .ok none := by
  have present : (earlier ++ [last])[attempt]? = some earlier[attempt] := by
    rw [List.getElem?_append_left inside, List.getElem?_eq_getElem inside]
  rw [heard, present]
  exact pending earlier[attempt] (List.getElem_mem inside)

theorem loadFrom_pending {fetch : Nat → Option Response} (attempts retries : Nat) (first : Nat)
    (pending : ∀ attempt < attempts, readAttempt browser (fetch (first + attempt)) = .ok none) :
    loadFrom browser fetch first (attempts + retries) =
      loadFrom browser fetch (first + attempts) retries := by
  induction attempts generalizing first with
  | zero => simp
  | succ attempts ih =>
      have now : (fetchJson (fetch first)).bind (readAnswer browser) = .ok none :=
        pending 0 (Nat.succ_pos attempts)
      have later := ih (first + 1) fun attempt inside => by
        have next := pending (attempt + 1) (Nat.succ_lt_succ inside)
        rwa [← Nat.add_assoc, Nat.add_right_comm] at next
      calc
        loadFrom browser fetch first (attempts + 1 + retries) =
            loadFrom browser fetch (first + 1) (attempts + retries) := by
          rw [Nat.add_right_comm, loadFrom, now]
        _ = loadFrom browser fetch (first + (attempts + 1)) retries := by
          rw [later, Nat.add_assoc, Nat.add_comm 1]

theorem loadContributionData_last {earlier : List (Option Response)} {last : Option Response}
    {retries : Nat} (pending : AllPending browser earlier) (inside : earlier.length ≤ retries)
    (decides : readAttempt browser last = .ok none → earlier.length = retries) :
    loadContributionData browser (heard (earlier ++ [last])) retries =
      readAttempt browser last := by
  obtain ⟨left, rfl⟩ := Nat.exists_eq_add_of_le inside
  have handed : loadFrom browser (heard (earlier ++ [last])) 0 (earlier.length + left) =
      loadFrom browser (heard (earlier ++ [last])) (0 + earlier.length) left :=
    loadFrom_pending earlier.length left 0 (by simpa using heard_pending pending)
  rw [loadContributionData, handed, Nat.zero_add]
  cases left with
  | zero => rw [loadFrom, heard_last, readAttempt]
  | succ left =>
      rw [loadFrom, heard_last, ← readAttempt]
      split
      · rename_i waiting
        have exhausted := decides waiting
        omega
      · rfl

end Answers

section Invariant

variable (browser : Browser) (place : Bool) (view : ArticleView)

/-- When an attempt starts at the earliest: the delays before it. -/
def earliest : Nat → Nat
  | 0 => 0
  | attempt + 1 => earliest attempt + (pendingRetryDelaysMs[attempt]?).getD 0

/-- What the request loads, as the attempts heard so far tell it. -/
def ArticleView.loaded : Except String (Option ContributionData) :=
  loadContributionData browser (heard view.answers) pendingRetryDelaysMs.length

/-- Every attempt before this one was pending, and nothing is decided. -/
structure ArticleView.Awaits (attempt : Nat) : Prop where
  asked : view.answers.length = attempt
  inside : attempt ≤ pendingRetryDelaysMs.length
  pending : AllPending browser view.answers
  undecided : view.outcome = { done := false, data := none, failed := false }

inductive ArticleView.RequestSound : Prop
  | fetching (attempt timer : Nat) (stands : view.request = .fetching attempt timer)
      (awaits : view.Awaits browser attempt) (after : earliest attempt ≤ view.now)
      (before : view.now ≤ timer)
      (bound : timer ≤ earliest attempt + requestTimeoutMs * (attempt + 1))
  | waiting (attempt timer : Nat) (stands : view.request = .waiting attempt timer)
      (awaits : view.Awaits browser attempt) (after : earliest attempt ≤ timer)
      (before : view.now ≤ timer) (bound : timer ≤ earliest attempt + requestTimeoutMs * attempt)
  | settled (time : Nat) (stands : view.request = .settled time) (past : time ≤ view.now)
      (earlier : List (Option Response)) (last : Option Response)
      (answers : view.answers = earlier ++ [last]) (pending : AllPending browser earlier)
      (loaded : view.loaded browser = readAttempt browser last)
      (outcome : view.outcome = Outcome.settledWith (view.loaded browser))
      (waited : view.loaded browser = .ok none → earliest pendingRetryDelaysMs.length ≤ time)
      (bound : time ≤ earliest pendingRetryDelaysMs.length +
        requestTimeoutMs * (pendingRetryDelaysMs.length + 1))

/-- What the page shows before the rendering, once the placeholder is over: its own wording,
unless the answer was there by the time it looked. -/
def ArticleView.Held (boxes : List Box) : Prop :=
  if place then
    boxes = [.vague] ∨
      (boxes = [.loading] ∧ ∃ time ≤ pendingSettleMs, view.request = .settled time)
  else boxes = []

/-- When the placeholder exits: at its timer, or at once where it has no place. -/
def exitTime : Nat :=
  if place then pendingSettleMs else 0

inductive ArticleView.PageSound : Prop
  | waiting (stands : view.placeholder = .waiting pendingSettleMs) (early : view.now ≤
      pendingSettleMs) (placed : place = true) (boxes : view.boxes = [.loading])
      (unrendered : view.finished = none)
  | exited (stands : view.placeholder = .exited (exitTime place)) (past : exitTime place ≤ view.now)
      (held : view.Held place view.boxes) (unrendered : view.finished = none)
      (followed : ∀ time, view.request = .settled time → view.now = max time (exitTime place))
  | rendered (stands : view.placeholder = .exited (exitTime place)) (settled : Nat)
      (ended : view.request = .settled settled)
      (rendered : view.finished = some (max settled (exitTime place))) (before : List Box)
      (held : view.Held place before)
      (shown : view.boxes = showOutcome browser place view.outcome before)

structure ArticleView.Sound : Prop where
  request : view.RequestSound browser
  page : view.PageSound browser place

end Invariant

section Steps

variable {browser : Browser} {place : Bool} {view : ArticleView}

theorem awaits_kept {after : ArticleView} {attempt : Nat} (awaits : view.Awaits browser attempt)
    (answers : after.answers = view.answers) (outcome : after.outcome = view.outcome) :
    after.Awaits browser attempt :=
  ⟨answers ▸ awaits.asked, awaits.inside, answers ▸ awaits.pending,
    outcome.trans awaits.undecided⟩

theorem sound_start : (startArticleSummary place).Sound browser place := by
  have awaits : ∀ started : ArticleView, started.answers = [] →
      started.outcome = { done := false, data := none, failed := false } →
      started.Awaits browser 0 := by
    intro started unasked undecided
    refine ⟨by rw [unasked]; rfl, Nat.zero_le _, ?_, undecided⟩
    rw [unasked]
    intro answer member
    cases member
  cases place with
  | true =>
      refine ⟨.fetching 0 requestTimeoutMs rfl (awaits _ rfl rfl) (Nat.le_refl 0) (Nat.zero_le _)
        (by decide), .waiting rfl (Nat.zero_le _) rfl rfl rfl⟩
  | false =>
      refine ⟨.fetching 0 requestTimeoutMs rfl (awaits _ rfl rfl) (Nat.le_refl 0) (Nat.zero_le _)
        (by decide), .exited rfl (Nat.le_refl 0) rfl rfl ?_⟩
      intro time settled
      cases settled

theorem earliest_mono {attempt later : Nat} (order : attempt ≤ later) :
    earliest attempt ≤ earliest later :=
  monotone_nat_of_le_succ (fun _ => Nat.le_add_right _ _) order

theorem receive_page (attempt : Nat) (response : Option Response) :
    (receive browser view attempt response).now = view.now ∧
      (receive browser view attempt response).placeholder = view.placeholder ∧
      (receive browser view attempt response).boxes = view.boxes ∧
      (receive browser view attempt response).finished = view.finished := by
  unfold receive
  split <;> exact ⟨rfl, rfl, rfl, rfl⟩

theorem held_unsettled {boxes : List Box} (held : view.Held place boxes)
    (running : ∀ time, view.request ≠ .settled time) (after : ArticleView) :
    after.Held place boxes := by
  cases place with
  | true =>
      rcases held with vague | ⟨_, time, _, settled⟩
      · exact Or.inl vague
      · exact absurd settled (running time)
  | false => exact held

theorem pageSound_request {after : ArticleView} (sound : view.PageSound browser place)
    (running : ∀ time, view.request ≠ .settled time) (now : after.now = view.now)
    (placeholder : after.placeholder = view.placeholder) (boxes : after.boxes = view.boxes)
    (finished : after.finished = view.finished)
    (settles : ∀ time, after.request = .settled time → time = view.now) :
    after.PageSound browser place := by
  cases sound with
  | waiting stands early placed shown unrendered =>
      exact .waiting (placeholder.trans stands) (now ▸ early) placed (boxes.trans shown)
        (finished.trans unrendered)
  | exited stands past held unrendered followed =>
      refine .exited (placeholder.trans stands) (now ▸ past) ?_ (finished.trans unrendered) ?_
      · rw [boxes]
        exact held_unsettled held running after
      · intro time settled
        rw [now, settles time settled, max_eq_left past]
  | rendered stands settled ended rendered before held shown =>
      exact absurd ended (running settled)

theorem requestSound_receive {attempt timer : Nat} {response : Option Response}
    (awaits : view.Awaits browser attempt) (after : earliest attempt ≤ view.now)
    (before : view.now ≤ timer)
    (bound : timer ≤ earliest attempt + requestTimeoutMs * (attempt + 1)) :
    (receive browser view attempt response).RequestSound browser := by
  unfold receive
  split
  · rename_i delay waits left
    obtain ⟨short, _⟩ := List.getElem?_eq_some_iff.mp left
    have next : earliest (attempt + 1) = earliest attempt + delay := by
      rw [earliest, left, Option.getD_some]
    refine .waiting (attempt + 1) (view.now + delay) rfl ⟨?_, short, ?_, awaits.undecided⟩ ?_
      (Nat.le_add_right _ _) ?_
    · simp [awaits.asked]
    · intro answer member
      rcases List.mem_append.mp member with earlier | last
      · exact awaits.pending answer earlier
      · rw [List.mem_singleton.mp last]
        exact waits
    · omega
    · simp only [next]
      omega
  · rename_i decided
    have decides : readAttempt browser response = .ok none →
        view.answers.length = pendingRetryDelaysMs.length := by
      intro waits
      by_contra short
      have inside : attempt < pendingRetryDelaysMs.length := by
        have asked := awaits.asked
        have most := awaits.inside
        omega
      exact decided _ waits (List.getElem?_eq_getElem inside)
    have loaded := loadContributionData_last awaits.pending
      (awaits.asked.trans_le awaits.inside) decides
    have last := earliest_mono awaits.inside
    have most := awaits.inside
    refine .settled view.now rfl (Nat.le_refl _) view.answers response rfl awaits.pending loaded
      (by rw [ArticleView.loaded, loaded]) ?_ ?_
    · intro waits
      have last : attempt = pendingRetryDelaysMs.length :=
        awaits.asked.symm.trans (decides (loaded.symm.trans waits))
      rw [← last]
      exact after
    · have attempts : requestTimeoutMs * (attempt + 1) ≤
          requestTimeoutMs * (pendingRetryDelaysMs.length + 1) :=
        Nat.mul_le_mul_left _ (Nat.succ_le_succ most)
      omega

theorem receive_settles {attempt time : Nat} {response : Option Response}
    (settled : (receive browser view attempt response).request = .settled time) :
    time = view.now := by
  unfold receive at settled
  split at settled
  · cases settled
  · cases settled
    rfl

theorem sound_receive {attempt timer : Nat} {response : Option Response}
    (sound : view.Sound browser place) (stands : view.request = .fetching attempt timer) :
    (receive browser view attempt response).Sound browser place := by
  have running : ∀ time, view.request ≠ .settled time := by
    intro time settled
    cases stands.symm.trans settled
  obtain ⟨now, placeholder, boxes, finished⟩ := @receive_page browser view attempt response
  refine ⟨?_, pageSound_request sound.page running now placeholder boxes finished
    (fun time => receive_settles)⟩
  cases sound.request with
  | fetching other timer' same awaits after before bound =>
      cases stands.symm.trans same
      exact requestSound_receive awaits after before bound
  | waiting other timer' same => cases stands.symm.trans same
  | settled time same => cases stands.symm.trans same

theorem sound_elapse {duration : Nat} (sound : view.Sound browser place)
    (quiet : view.Quiet (view.now + duration)) (busy : ¬ view.Resumable) :
    ArticleView.Sound browser place { view with now := view.now + duration } := by
  obtain ⟨requestQuiet, placeholderQuiet⟩ := quiet
  constructor
  · cases sound.request with
    | fetching attempt timer stands awaits after before bound =>
        have due := requestQuiet timer (by simp [stands, RequestTask.timer?])
        exact .fetching attempt timer stands (awaits_kept awaits rfl rfl)
          (Nat.le_add_right_of_le after) due bound
    | waiting attempt timer stands awaits after before bound =>
        have due := requestQuiet timer (by simp [stands, RequestTask.timer?])
        exact .waiting attempt timer stands (awaits_kept awaits rfl rfl) after due bound
    | settled time stands past earlier last answers pending loaded outcome waited bound =>
        exact .settled time stands (Nat.le_add_right_of_le past) earlier last answers pending
          loaded outcome waited bound
  · cases sound.page with
    | waiting stands early placed boxes unrendered =>
        have due := placeholderQuiet pendingSettleMs (by simp [stands, PlaceholderTask.timer?])
        exact .waiting stands due placed boxes unrendered
    | exited stands past held unrendered followed =>
        refine .exited stands (Nat.le_add_right_of_le past) held unrendered ?_
        intro time settled
        refine absurd ⟨?_, ?_, unrendered⟩ busy
        · rw [show view.request = .settled time from settled]
          rfl
        · rw [stands]
          rfl
    | rendered stands settled ended rendered before held shown =>
        exact .rendered stands settled ended rendered before held shown

theorem sound_retry {attempt timer : Nat} (sound : view.Sound browser place)
    (stands : view.request = .waiting attempt timer) (due : timer ≤ view.now) :
    ArticleView.Sound browser place
      { view with request := .fetching attempt (view.now + requestTimeoutMs) } := by
  have running : ∀ time, view.request ≠ .settled time := by
    intro time settled
    cases stands.symm.trans settled
  refine ⟨?_, pageSound_request sound.page running rfl rfl rfl rfl ?_⟩
  · cases sound.request with
    | fetching other timer' same => cases stands.symm.trans same
    | waiting other timer' same awaits after before bound =>
        cases stands.symm.trans same
        refine .fetching attempt _ rfl (awaits_kept awaits rfl rfl)
          (Nat.le_trans after due) (Nat.le_add_right _ _) ?_
        have fired : view.now = timer := Nat.le_antisymm before due
        rw [fired, Nat.mul_succ, ← Nat.add_assoc]
        exact Nat.add_le_add_right bound requestTimeoutMs
    | settled time same => cases stands.symm.trans same
  · intro time settled
    cases settled

theorem requestSound_page (sound : view.RequestSound browser) (placeholder : PlaceholderTask)
    (boxes : List Box) (finished : Option Nat) :
    ArticleView.RequestSound browser
      { view with placeholder := placeholder, boxes := boxes, finished := finished } := by
  cases sound with
  | fetching attempt timer stands awaits after before bound =>
      exact .fetching attempt timer stands (awaits_kept awaits rfl rfl) after before
        bound
  | waiting attempt timer stands awaits after before bound =>
      exact .waiting attempt timer stands (awaits_kept awaits rfl rfl) after before
        bound
  | settled time stands past earlier last answers pending loaded outcome waited bound =>
      exact .settled time stands past earlier last answers pending loaded outcome waited bound

theorem done_settled (sound : view.RequestSound browser) (done : view.outcome.done = true) :
    ∃ time ≤ view.now, view.request = .settled time := by
  cases sound with
  | fetching attempt timer stands awaits after before bound =>
      rw [awaits.undecided] at done
      cases done
  | waiting attempt timer stands awaits after before bound =>
      rw [awaits.undecided] at done
      cases done
  | settled time stands past => exact ⟨time, past, stands⟩

theorem settledWith_done (result : Except String (Option ContributionData)) :
    (Outcome.settledWith result).done = true := by
  cases result <;> rfl

theorem settled_done {time : Nat} (sound : view.RequestSound browser)
    (settled : view.request = .settled time) : view.outcome.done = true ∧ time ≤ view.now := by
  cases sound with
  | fetching attempt timer stands => cases stands.symm.trans settled
  | waiting attempt timer stands => cases stands.symm.trans settled
  | settled time stands past earlier last answers pending loaded outcome =>
      cases stands.symm.trans settled
      rw [outcome]
      exact ⟨settledWith_done _, past⟩

theorem sound_wake {timer : Nat} (sound : view.Sound browser place)
    (stands : view.placeholder = .waiting timer) (due : timer ≤ view.now) :
    (runCountPlaceholder view).Sound browser place := by
  cases sound.page with
  | exited same => cases stands.symm.trans same
  | rendered same => cases stands.symm.trans same
  | waiting same early placed boxes unrendered =>
      cases stands.symm.trans same
      subst placed
      have now : view.now = pendingSettleMs := Nat.le_antisymm early due
      have exits : PlaceholderTask.exited view.now = .exited (exitTime true) := by
        rw [now]
        rfl
      unfold runCountPlaceholder
      by_cases done : view.outcome.done = true
      · obtain ⟨time, past, settled⟩ := done_settled sound.request done
        rw [if_pos done]
        refine ⟨requestSound_page sound.request _ view.boxes view.finished,
          .exited exits due ?_ unrendered ?_⟩
        · exact Or.inr ⟨boxes, time, now ▸ past, settled⟩
        · intro other same
          cases settled.symm.trans same
          exact now.trans (max_eq_right (now ▸ past)).symm
      · have late : ¬ countDisplayState view.now none = .loading := by
          rw [now]
          decide
        rw [if_neg done, if_neg late]
        refine ⟨requestSound_page sound.request _ _ view.finished,
          .exited exits due ?_ unrendered ?_⟩
        · refine Or.inl ?_
          rw [boxes]
          rfl
        · intro time settled
          exact absurd (settled_done sound.request settled).1 done

theorem timer_none {request : RequestTask} (ended : request.timer? = none) :
    ∃ time, request = .settled time := by
  cases request with
  | fetching attempt timer => cases ended
  | waiting attempt timer => cases ended
  | settled time => exact ⟨time, rfl⟩

theorem sound_render (sound : view.Sound browser place) (resumable : view.Resumable) :
    ArticleView.Sound browser place
      { view with
        boxes := showOutcome browser place view.outcome view.boxes
        finished := some view.now } := by
  obtain ⟨ended, left, unrendered⟩ := resumable
  refine ⟨requestSound_page sound.request view.placeholder _ _, ?_⟩
  cases sound.page with
  | waiting stands =>
      rw [stands] at left
      cases left
  | rendered stands settled ended rendered => cases unrendered.symm.trans rendered
  | exited stands past held unrendered followed =>
      obtain ⟨time, settled⟩ := timer_none ended
      exact .rendered stands time settled (congrArg some (followed time settled)) view.boxes held
        rfl

theorem sound_step {event : ArticleEvent} {after : ArticleView} (sound : view.Sound browser place)
    (taken : view.step browser place event = some after) : after.Sound browser place := by
  cases event with
  | elapse duration =>
      simp only [ArticleView.step] at taken
      split at taken
      · rename_i passes
        cases taken
        exact sound_elapse sound passes.1 passes.2
      · cases taken
  | answer response =>
      simp only [ArticleView.step] at taken
      split at taken
      · rename_i attempt timer stands
        cases taken
        exact sound_receive sound stands
      · cases taken
  | abort =>
      simp only [ArticleView.step] at taken
      split at taken
      · rename_i attempt timer stands
        split at taken
        · cases taken
          exact sound_receive sound stands
        · cases taken
      · cases taken
  | retry =>
      simp only [ArticleView.step] at taken
      split at taken
      · rename_i attempt timer stands
        split at taken
        · rename_i due
          cases taken
          exact sound_retry sound stands due
        · cases taken
      · cases taken
  | wake =>
      simp only [ArticleView.step] at taken
      split at taken
      · rename_i timer stands
        split at taken
        · rename_i due
          cases taken
          exact sound_wake sound stands due
        · cases taken
      · cases taken
  | render =>
      simp only [ArticleView.step] at taken
      split at taken
      · rename_i resumable
        cases taken
        exact sound_render sound resumable
      · cases taken

theorem sound_reached (reached : (articleView browser place).Reachable view) :
    view.Sound browser place :=
  Machine.invariant (ArticleView.Sound browser place) sound_start
    (fun _ _ _ sound _ taken => sound_step sound taken) reached

end Steps

section Endings

variable {browser : Browser} {place : Bool} {view : ArticleView}

structure ArticleView.EndsHonestly (browser : Browser) (view : ArticleView) : Prop where
  failed : ∀ error, view.loaded browser = .error error → view.boxes = []
  uncounted : ∀ data, view.loaded browser = .ok (some data) → data.humanCount < 1 →
    view.boxes = []
  pending : AllPending browser view.answers → view.boxes = [.vague]
  written : ∀ data, view.loaded browser = .ok (some data) → 1 ≤ data.humanCount →
    ∃ summary, buildArticleSummary browser data = .ok (some summary) ∧
      view.boxes = [.final summary]
  idle : .loading ∉ view.boxes
  single : view.boxes.length ≤ 1

theorem buildArticleSummary_empty {data : ContributionData} :
    buildArticleSummary browser data = .ok none ↔ data.humanCount < 1 := by
  unfold buildArticleSummary
  split
  · rename_i nobody
    exact iff_of_true rfl nobody
  · rename_i some_
    refine iff_of_false ?_ some_
    intro built
    cases links : data.topEditors.mapM (createEditorLink browser (namedByEditCount data)) with
    | error raised =>
        rw [links] at built
        cases built
    | ok editors =>
        rw [links] at built
        cases built

/-- A settled request loaded nothing exactly where every attempt was pending. -/
theorem loaded_pending_iff {time : Nat} (reached : (articleView browser place).Reachable view)
    (settled : view.request = .settled time) :
    view.loaded browser = .ok none ↔ AllPending browser view.answers := by
  cases (sound_reached reached).request with
  | fetching attempt timer stands => cases stands.symm.trans settled
  | waiting attempt timer stands => cases stands.symm.trans settled
  | settled time stands past earlier last answers pending loaded =>
      rw [loaded, answers]
      constructor
      · intro waits answer member
        rcases List.mem_append.mp member with before | final
        · exact pending answer before
        · rw [List.mem_singleton.mp final]
          exact waits
      · intro all
        exact all last (List.mem_append_right earlier (List.mem_singleton_self last))

theorem showOutcome_settled {before : List Box}
    (single : ∃ box, before = [box]) (result : Except String (Option ContributionData)) :
    showOutcome browser place (Outcome.settledWith result) before =
      match result with
      | .error _ => []
      | .ok none => before
      | .ok (some data) =>
          match buildArticleSummary browser data with
          | .error _ => before
          | .ok none => []
          | .ok (some summary) => [.final summary] := by
  obtain ⟨box, rfl⟩ := single
  rcases result with error | data | data
  · rfl
  · rfl
  · simp only [showOutcome, Outcome.settledWith, Option.map_some]
    rcases buildArticleSummary browser data with error | shown | shown <;> rfl

def endBoxes (browser : Browser) : Except String (Option ContributionData) → List Box
  | .error _ => []
  | .ok none => [.vague]
  | .ok (some data) =>
      match buildArticleSummary browser data with
      | .ok (some summary) => [.final summary]
      | _ => []

theorem endBoxes_shape {result : Except String (Option ContributionData)} :
    endBoxes browser result = [] ∨ endBoxes browser result = [.vague] ∨
      ∃ summary, endBoxes browser result = [.final summary] := by
  unfold endBoxes
  split
  · exact Or.inl rfl
  · exact Or.inr (Or.inl rfl)
  · split
    · rename_i summary _
      exact Or.inr (Or.inr ⟨summary, rfl⟩)
    · exact Or.inl rfl

/-- The placeholder's timer is shorter than the retries: a request that found every attempt
pending settles after the wording did. -/
theorem rendered_boxes (reached : (articleView browser true).Reachable view)
    (returned : view.finished.isSome)
    (builds : ∀ data, view.loaded browser = .ok (some data) →
      ∃ shown, buildArticleSummary browser data = .ok shown) :
    (∃ time, view.request = .settled time) ∧
      view.boxes = endBoxes browser (view.loaded browser) := by
  have sound := sound_reached reached
  cases sound.page with
  | waiting stands early placed boxes unrendered =>
      rw [unrendered] at returned
      cases returned
  | exited stands past held unrendered =>
      rw [unrendered] at returned
      cases returned
  | rendered stands time ended rendered before held shown =>
      refine ⟨⟨time, ended⟩, ?_⟩
      cases sound.request with
      | fetching attempt timer same => cases same.symm.trans ended
      | waiting attempt timer same => cases same.symm.trans ended
      | settled time same past earlier last answers pending loaded outcome waited =>
          cases same.symm.trans ended
          have single : ∃ box, before = [box] := by
            rcases held with vague | ⟨loading, _⟩
            · exact ⟨.vague, vague⟩
            · exact ⟨.loading, loading⟩
          have vague : view.loaded browser = .ok none → before = [.vague] := by
            intro waits
            rcases held with vague | ⟨_, moment, soon, settled⟩
            · exact vague
            · cases ended.symm.trans settled
              exact absurd (Nat.le_trans (waited waits) soon) (by decide)
          rw [shown, outcome, showOutcome_settled single]
          rcases result : view.loaded browser with error | data | data
          · rfl
          · exact vague result
          · obtain ⟨summary, built⟩ := builds data result
            simp only [endBoxes, built]
            cases summary <;> rfl

theorem box_ends_honestly (browser : Browser) (view : ArticleView)
    (reached : (articleView browser true).Reachable view) (returned : view.finished.isSome)
    (builds : ∀ data, view.loaded browser = .ok (some data) →
      ∃ shown, buildArticleSummary browser data = .ok shown) :
    view.EndsHonestly browser := by
  obtain ⟨⟨time, settled⟩, boxes⟩ := rendered_boxes reached returned builds
  constructor
  · intro error failed
    rw [boxes, failed]
    rfl
  · intro data ready nobody
    rw [boxes, ready, endBoxes, buildArticleSummary_empty.mpr nobody]
  · intro pending
    rw [boxes, (loaded_pending_iff reached settled).mpr pending]
    rfl
  · intro data ready counted
    obtain ⟨shown, built⟩ := builds data ready
    cases shown with
    | none => exact absurd (buildArticleSummary_empty.mp built) (not_lt.mpr counted)
    | some summary =>
        refine ⟨summary, built, ?_⟩
        rw [boxes, ready, endBoxes, built]
  · rw [boxes]
    rcases endBoxes_shape with shape | shape | ⟨summary, shape⟩ <;> rw [shape] <;> simp
  · rw [boxes]
    rcases endBoxes_shape with shape | shape | ⟨summary, shape⟩ <;> rw [shape] <;> simp

theorem toOption_isSome {α : Type} {result : Except String α} :
    result.toOption.isSome ↔ ∃ value, result = .ok value := by
  cases result <;> simp [Except.toOption]

def answered (body : Json) : Option Response :=
  some { status := 200, headers := [], body := some body }

def pendingAnswer : Option Response :=
  answered (.obj [("status", .str "pending")])

def readyAnswer : Option Response :=
  answered (.obj [("status", .str "ready"), ("distinct_contributors", .int 3),
    ("contributors", .arr [])])

/-- Two pending answers and a ready one: the box is loading, vague and final in turn. -/
theorem box_ends_honestly_retried :
    ∃ view, (articleView plainBrowser true).Reachable view ∧ view.finished.isSome ∧
      view.EndsHonestly plainBrowser := by
  have ran : ∃ view, (articleView plainBrowser true).Reachable view ∧
      (view.finished = some 13500 ∧ (articleSummary plainBrowser (heard view.answers)
        pendingRetryDelaysMs.length).toOption.isSome) :=
    Machine.exists_of_run
      [.elapse 300, .answer pendingAnswer, .elapse 2200, .wake, .elapse 800, .retry,
        .answer pendingAnswer, .elapse 10000, .retry, .elapse 200, .answer readyAnswer, .render]
      (by decide +kernel)
  obtain ⟨view, reached, returned, built⟩ := ran
  have finished : view.finished.isSome := by
    rw [returned]
    rfl
  refine ⟨view, reached, finished, box_ends_honestly plainBrowser view reached finished ?_⟩
  intro data ready
  rw [articleSummary, ← ArticleView.loaded, ready] at built
  exact toOption_isSome.mp built

end Endings

section Progress

variable {browser : Browser} {place : Bool} {view : ArticleView}

/-- Every attempt that is not answered is aborted, so a view returns within 37 seconds. -/
theorem unreturned_early (reached : (articleView browser place).Reachable view)
    (unreturned : view.finished = none) :
    view.now ≤ earliest pendingRetryDelaysMs.length +
      requestTimeoutMs * (pendingRetryDelaysMs.length + 1) := by
  have sound := sound_reached reached
  cases sound.request with
  | fetching attempt timer stands awaits after before bound =>
      have delays := earliest_mono awaits.inside
      have attempts := Nat.mul_le_mul_left requestTimeoutMs (Nat.succ_le_succ awaits.inside)
      exact before.trans (bound.trans (Nat.add_le_add delays attempts))
  | waiting attempt timer stands awaits after before bound =>
      have delays := earliest_mono awaits.inside
      have attempts := Nat.mul_le_mul_left requestTimeoutMs (Nat.le_succ_of_le awaits.inside)
      exact before.trans (bound.trans (Nat.add_le_add delays attempts))
  | settled time stands past earlier last answers pending loaded outcome waited bound =>
      cases sound.page with
      | waiting _ early => exact early.trans (by decide)
      | exited _ _ _ _ followed =>
          rw [followed time stands]
          refine max_le bound ?_
          cases place <;> decide
      | rendered _ _ _ rendered => cases unreturned.symm.trans rendered

/-- No view is stuck: a timer fires, the rendering follows, or time passes. -/
theorem view_continues :
    ∃ event, (view.step browser place event).isSome ∧ event ≠ .elapse 0 := by
  by_cases resumable : view.Resumable
  · exact ⟨.render, by simp [ArticleView.step, resumable], by simp⟩
  by_cases quiet : view.Quiet (view.now + 1)
  · exact ⟨.elapse 1, by simp [ArticleView.step, quiet, resumable], by simp⟩
  rcases not_and_or.mp quiet with busy | busy
  · cases stands : view.request with
    | settled time => simp [stands, RequestTask.timer?] at busy
    | fetching attempt timer =>
        have due : timer ≤ view.now := by
          simpa [stands, RequestTask.timer?, Nat.lt_succ_iff] using busy
        exact ⟨.abort, by simp [ArticleView.step, stands, due], by simp⟩
    | waiting attempt timer =>
        have due : timer ≤ view.now := by
          simpa [stands, RequestTask.timer?, Nat.lt_succ_iff] using busy
        exact ⟨.retry, by simp [ArticleView.step, stands, due], by simp⟩
  · cases stands : view.placeholder with
    | exited time => simp [stands, PlaceholderTask.timer?] at busy
    | waiting timer =>
        have due : timer ≤ view.now := by
          simpa [stands, PlaceholderTask.timer?, Nat.lt_succ_iff] using busy
        exact ⟨.wake, by simp [ArticleView.step, stands, due], by simp⟩

end Progress

section Prompt

variable {browser : Browser} {place : Bool} {view : ArticleView}

theorem ArticleView.Sound.outcome_settled (sound : view.Sound browser place) {time : Nat}
    (settled : view.request = .settled time) :
    view.outcome = Outcome.settledWith (view.loaded browser) := by
  cases sound.request with
  | fetching attempt timer stands => cases stands.symm.trans settled
  | waiting attempt timer stands => cases stands.symm.trans settled
  | settled _ _ _ _ _ _ _ _ outcome => exact outcome

/-- The placeholder was over by this time, and the rendering followed then: since, the page shows
what the request settled with, in place of what the placeholder held. -/
structure ArticleView.Prompt (browser : Browser) (place : Bool) (view : ArticleView)
    (time : Nat) : Prop where
  yielded : ∃ exit ≤ time, view.placeholder = .exited exit
  rendered : view.finished = some time
  shown : ∃ before, view.Held place before ∧
    view.boxes = showOutcome browser place (Outcome.settledWith (view.loaded browser)) before

theorem prompt_iff (browser : Browser) (place : Bool) (view : ArticleView) (time : Nat)
    (reached : (articleView browser place).Reachable view)
    (settled : view.request = .settled time) (later : time < view.now ∨ view.finished.isSome) :
    view.Prompt browser place time ↔ place = false ∨ pendingSettleMs ≤ time := by
  have exits : exitTime place ≤ time ↔ place = false ∨ pendingSettleMs ≤ time := by
    cases place <;> simp [exitTime]
  rw [← exits]
  have sound := sound_reached reached
  cases sound.page with
  | waiting stands early placed boxes unrendered =>
      subst placed
      have before : time < pendingSettleMs := by
        rcases later with passed | returned
        · exact Nat.lt_of_lt_of_le passed early
        · rw [unrendered] at returned
          cases returned
      refine iff_of_false ?_ (Nat.not_le_of_lt before)
      intro prompt
      cases unrendered.symm.trans prompt.rendered
  | exited stands past held unrendered followed =>
      have before : time < exitTime place := by
        rcases later with passed | returned
        · rw [followed time settled] at passed
          exact (lt_max_iff.mp passed).resolve_left (lt_irrefl time)
        · rw [unrendered] at returned
          cases returned
      refine iff_of_false ?_ (Nat.not_le_of_lt before)
      intro prompt
      cases unrendered.symm.trans prompt.rendered
  | rendered stands moment ended rendered before held shown =>
      cases ended.symm.trans settled
      constructor
      · intro prompt
        obtain ⟨exit, soon, exited⟩ := prompt.yielded
        cases stands.symm.trans exited
        exact soon
      · intro soon
        refine ⟨⟨exitTime place, soon, stands⟩, ?_, before, held, ?_⟩
        · rw [rendered, max_eq_left soon]
        · rw [shown, sound.outcome_settled settled]

/-- An answer slower than the placeholder's timer is shown when it comes. -/
theorem prompt_iff_slow :
    ∃ view, (articleView plainBrowser true).Reachable view ∧ view.request = .settled 2600 ∧
      view.Prompt plainBrowser true 2600 := by
  have ran : ∃ view, (articleView plainBrowser true).Reachable view ∧
      (view.request = .settled 2600 ∧ view.finished.isSome) :=
    Machine.exists_of_run
      [.elapse 2500, .wake, .elapse 100, .answer readyAnswer, .render] (by decide +kernel)
  obtain ⟨view, reached, settled, returned⟩ := ran
  exact ⟨view, reached, settled,
    (prompt_iff plainBrowser true view 2600 reached settled (Or.inr returned)).mpr
      (Or.inr (by decide))⟩

/-- The answer is there after 300 ms, and the reader sees it after 2500. -/
theorem fast_answer_held_back :
    ¬ ∀ view time, (articleView plainBrowser true).Reachable view →
        view.request = .settled time → (time < view.now ∨ view.finished.isSome) →
          view.Prompt plainBrowser true time := by
  intro claimed
  have ran : ∃ view, (articleView plainBrowser true).Reachable view ∧
      (view.request = .settled 300 ∧ view.finished = some pendingSettleMs) :=
    Machine.exists_of_run
      [.elapse 300, .answer readyAnswer, .elapse 2200, .wake, .render] (by decide +kernel)
  obtain ⟨view, reached, settled, returned⟩ := ran
  have finished : view.finished.isSome := by
    rw [returned]
    rfl
  have shown := (claimed view 300 reached settled (Or.inr finished)).rendered
  cases returned.symm.trans shown

end Prompt

end WikiPeople
