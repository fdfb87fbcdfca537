import WikiPeople.Library.Turns
import WikiPeople.QueueEntries
import WikiPeople.Fallback
import WikiPeople.RequestLines
import WikiPeople.Liveness

/-! Prewarming: the articles that the newest published rankings name are queued, wiki by wiki. -/

namespace WikiPeople

open Relational

/-- A date as its number of days from 1970-01-01. -/
abbrev Day := Int

/-- `date.min`. -/
def dateMin : Day := -719162

def daysBefore (count : Nat) (today : Day) : List Day :=
  (List.range' 1 count).map (fun offset => today - (offset : Int))

def previousDays (days : Int) (today : Day) : Except Exn (List Day) :=
  if today - days < dateMin then .error (.unexpected "OverflowError")
  else .ok (daysBefore days.toNat today)

/-- What `top_pages` answers about a day: the titles, or `none` before they are published. -/
abbrev TopPages := Day → Except Exn (Option (List String))

structure Loaded where
  titles : List String
  days : List Day

/-- The loop over the days; `titles` is a set. -/
def loadDays (topPages : TopPages) (targetDays : Nat) : Loaded → List Day → Except Exn Loaded
  | loaded, [] => .ok loaded
  | loaded, day :: older =>
      match topPages day with
      | .error raised => .error raised
      | .ok none => loadDays topPages targetDays loaded older
      | .ok (some articles) =>
          let next : Loaded := ⟨articles ∪ loaded.titles, loaded.days ++ [day]⟩
          if next.days.length = targetDays then .ok next
          else loadDays topPages targetDays next older

def targetDays (days : Int) : Int := max 1 days

def lookbackDays (days : Int) : Int := max 14 (targetDays days * 3)

def noRanking : Exn :=
  .known .retryableUpstream "Aucun classement Pageviews récent disponible"

def collectRecentTopTitles (topPages : TopPages) (days : Int) (today : Day) :
    Except Exn Loaded := do
  let asked ← previousDays (lookbackDays days) today
  let loaded ← loadDays topPages (targetDays days).toNat ⟨[], []⟩ asked
  if loaded.days.isEmpty then .error noRanking else .ok loaded

def sortedTexts (texts : List String) : List String :=
  texts.mergeSort (fun first second => first ≤ second)

/-- The wikis with a result and the pinned ones, or the one asked for. -/
def prewarmTargets (languages : List String) (store : Store) (prewarmWikis : List String)
    (explicit : Option String) : List String :=
  match presentText explicit with
  | some wiki => [wiki]
  | none =>
      sortedTexts ((activeWikis store ++ prewarmWikis).dedup.filter (isCapable languages))

/-- The turn of one wiki: what the Pageviews service and MediaWiki answer in it, and when each
page is passed on. -/
structure PrewarmTurn where
  wiki : String
  topPages : TopPages
  wire : Wire
  today : Day
  clock : Nat → Time

section Turn

variable (languages : List String) (settings : Settings)

def prewarmPriority : Int := 50

def pageIdentity (wiki : String) (page : PageMetadata) : Identity :=
  { wiki := wiki, pageId := page.pageId, algorithmVersion := settings.algorithmVersion
    revisionId := page.revisionId }

/-- The loop of `prewarm_wiki` over the pages, with the number of the page. -/
def queuePopular (turn : PrewarmTurn) : Nat → Store → List PageMetadata → Nat × Store
  | _, store, [] => (0, store)
  | index, store, page :: todo =>
      if page.pageNamespace ≠ 0 then queuePopular turn (index + 1) store todo
      else
        let (queued, next) := enqueueIfStale store (pageIdentity settings turn.wiki page)
          prewarmPriority settings.pageFreshnessSeconds (turn.clock index)
        let (count, after) := queuePopular turn (index + 1) next todo
        ((if queued then count + 1 else count), after)

def popularPages (days : Int) (turn : PrewarmTurn) : Except Exn (List PageMetadata) := do
  let loaded ← collectRecentTopTitles turn.topPages days turn.today
  (turn.wire.resolveTitles languages turn.wiki (sortedTexts loaded.titles)).outcome

def prewarmWiki (days : Int) (store : Store) (turn : PrewarmTurn) : Except Exn Nat × Store :=
  match popularPages languages days turn with
  | .error raised => (.error raised, store)
  | .ok pages =>
      let (queued, after) := queuePopular settings turn 0 store pages
      (.ok queued, after)

/-- `except WikiPeopleError`. -/
def Exn.isKnown : Exn → Bool
  | .known _ _ => true
  | .unexpected _ => false

/-- The loop of `main`. -/
def prewarmJob (days : Int) (store : Store) (turns : List PrewarmTurn) :
    Turns.Round Store PrewarmTurn Exn :=
  Turns.run (prewarmWiki languages settings (max 1 days)) Exn.isKnown (.start store) turns

end Turn

/-! Which days are loaded. -/

section Days

variable {topPages : TopPages}

def isPublished (topPages : TopPages) (day : Day) : Bool :=
  match topPages day with
  | .ok (some _) => true
  | _ => false

def Ranks (topPages : TopPages) (day : Day) (title : String) : Prop :=
  ∃ articles, topPages day = .ok (some articles) ∧ title ∈ articles

/-- What the newest published days among those asked about list, so many days at most. -/
structure Newest (topPages : TopPages) (wanted : Nat) (asked : List Day) (loaded : Loaded) :
    Prop where
  days : loaded.days = (asked.filter (isPublished topPages)).take wanted
  titles : ∀ title, title ∈ loaded.titles ↔ ∃ day ∈ loaded.days, Ranks topPages day title
  once : loaded.titles.Nodup

/-- The days before this one were asked about, all answered, and too few were published. -/
structure ReachesDay (topPages : TopPages) (wanted : Nat) (asked newer : List Day) (day : Day) :
    Prop where
  older : ∃ older, asked = newer ++ day :: older
  missing : newer.countP (isPublished topPages) < wanted

/-- The day is the first of those reached about which the service fails. -/
structure FailsAt (topPages : TopPages) (wanted : Nat) (asked newer : List Day) (day : Day)
    (raised : Exn) : Prop extends ReachesDay topPages wanted asked newer day where
  answered : ∀ other ∈ newer, (topPages other).isOk = true
  raises : topPages day = .error raised

/-- What the loop makes of the days that are left, where some are still wanted. -/
inductive DaysOutcome (topPages : TopPages) (wanted : Nat) (loaded : Loaded) (rest : List Day) :
    Except Exn Loaded → Prop
  | loaded (result : Loaded)
      (days : result.days = loaded.days ++ (rest.filter (isPublished topPages)).take wanted)
      (titles : ∀ title, title ∈ result.titles ↔ title ∈ loaded.titles ∨
        ∃ day ∈ (rest.filter (isPublished topPages)).take wanted, Ranks topPages day title)
      (once : loaded.titles.Nodup → result.titles.Nodup)
      (answered : ∀ newer day, ReachesDay topPages wanted rest newer day →
        (topPages day).isOk = true) :
      DaysOutcome topPages wanted loaded rest (.ok result)
  | failed (newer : List Day) (day : Day) (raised : Exn)
      (fails : FailsAt topPages wanted rest newer day raised) :
      DaysOutcome topPages wanted loaded rest (.error raised)

theorem ReachesDay.cons {wanted : Nat} {first day : Day} {rest newer : List Day}
    (reaches : ReachesDay topPages wanted (first :: rest) newer day) :
    (newer = [] ∧ day = first) ∨ ∃ later, newer = first :: later ∧
      ReachesDay topPages (wanted - if isPublished topPages first then 1 else 0) rest later
        day := by
  obtain ⟨⟨older, split⟩, missing⟩ := reaches
  cases newer with
  | nil => exact Or.inl ⟨rfl, (List.cons.inj split).1.symm⟩
  | cons next later =>
      rw [List.cons_append] at split
      obtain ⟨rfl, behind⟩ := List.cons.inj split
      refine Or.inr ⟨later, rfl, ⟨older, behind⟩, ?_⟩
      rw [List.countP_cons] at missing
      omega

theorem FailsAt.cons {wanted : Nat} {first day : Day} {rest newer : List Day} {raised : Exn}
    (fails : FailsAt topPages (wanted - if isPublished topPages first then 1 else 0) rest newer day
      raised) (answered : (topPages first).isOk = true) :
    FailsAt topPages wanted (first :: rest) (first :: newer) day raised := by
  obtain ⟨⟨⟨older, split⟩, missing⟩, others, raises⟩ := fails
  refine ⟨⟨⟨older, ?_⟩, ?_⟩, List.forall_mem_cons.mpr ⟨answered, others⟩, raises⟩
  · rw [split]
    rfl
  · rw [List.countP_cons]
    omega

theorem isPublished_some {day : Day} {articles : List String}
    (answer : topPages day = .ok (some articles)) : isPublished topPages day = true := by
  rw [isPublished, answer]

theorem lists_some {day : Day} {articles : List String} {title : String}
    (answer : topPages day = .ok (some articles)) :
    Ranks topPages day title ↔ title ∈ articles := by
  simp [Ranks, answer]

theorem DaysOutcome.skip {wanted : Nat} {loaded : Loaded} {first : Day} {rest : List Day}
    {outcome : Except Exn Loaded} (answer : topPages first = .ok none)
    (later : DaysOutcome topPages wanted loaded rest outcome) :
    DaysOutcome topPages wanted loaded (first :: rest) outcome := by
  have answered : (topPages first).isOk = true := by rw [answer]; rfl
  have unpublished : isPublished topPages first = false := by rw [isPublished, answer]
  have same : wanted - (if isPublished topPages first then 1 else 0) = wanted := by
    rw [unpublished]
    rfl
  have skipped : (first :: rest).filter (isPublished topPages) =
      rest.filter (isPublished topPages) :=
    List.filter_cons_of_neg (Bool.not_eq_true _ ▸ unpublished)
  cases later with
  | loaded result days titles once others =>
      rw [← skipped] at days titles
      refine .loaded result days titles once ?_
      intro newer day reaches
      rcases reaches.cons with ⟨_, rfl⟩ | ⟨older, rfl, reached⟩
      · exact answered
      · rw [same] at reached
        exact others older day reached
  | failed newer day raised fails =>
      rw [← same] at fails
      exact .failed (first :: newer) day raised (fails.cons answered)

section Published

variable {wanted : Nat} {loaded : Loaded} {first : Day} {rest : List Day} {articles : List String}
  (answer : topPages first = .ok (some articles))
include answer

theorem filter_published : (first :: rest).filter (isPublished topPages) =
    first :: rest.filter (isPublished topPages) :=
  List.filter_cons_of_pos (isPublished_some answer)

theorem mem_titles (title : String) : title ∈ articles ∪ loaded.titles ↔
    title ∈ loaded.titles ∨ Ranks topPages first title := by
  rw [List.mem_union_iff, lists_some answer, or_comm]

theorem DaysOutcome.last :
    DaysOutcome topPages 1 loaded (first :: rest)
      (.ok ⟨articles ∪ loaded.titles, loaded.days ++ [first]⟩) := by
  refine .loaded _ (by rw [filter_published answer]; rfl) ?_ (fun distinct => distinct.union _) ?_
  · intro title
    rw [filter_published answer, mem_titles answer]
    simp
  · intro newer day reaches
    rcases reaches.cons with ⟨_, rfl⟩ | ⟨older, rfl, reached⟩
    · rw [answer]
      rfl
    · have missing := reached.missing
      rw [isPublished_some answer] at missing
      exact absurd missing (Nat.not_lt_zero _)

theorem DaysOutcome.take {outcome : Except Exn Loaded} (needed : 0 < wanted)
    (later : DaysOutcome topPages (wanted - 1)
      ⟨articles ∪ loaded.titles, loaded.days ++ [first]⟩ rest outcome) :
    DaysOutcome topPages wanted loaded (first :: rest) outcome := by
  have answered : (topPages first).isOk = true := by rw [answer]; rfl
  have fewer : wanted - (if isPublished topPages first then 1 else 0) = wanted - 1 := by
    rw [isPublished_some answer]
    rfl
  have taken : ∀ days : List Day, (first :: days).take wanted =
      first :: days.take (wanted - 1) := fun _ => List.take_cons needed
  cases later with
  | loaded result days titles once others =>
      refine .loaded result ?_ ?_ (fun distinct => once (distinct.union _)) ?_
      · rw [days, filter_published answer, taken, List.append_assoc]
        rfl
      · intro title
        rw [titles, mem_titles answer, filter_published answer, taken, List.exists_mem_cons_iff,
          or_assoc]
      · intro newer day reaches
        rcases reaches.cons with ⟨_, rfl⟩ | ⟨older, rfl, reached⟩
        · exact answered
        · rw [fewer] at reached
          exact others older day reached
  | failed newer day raised fails =>
      rw [← fewer] at fails
      exact .failed (first :: newer) day raised (fails.cons answered)

end Published

theorem loadDays_outcome {targetDays wanted : Nat} (loaded : Loaded) (rest : List Day)
    (short : loaded.days.length + wanted = targetDays) (needed : 0 < wanted) :
    DaysOutcome topPages wanted loaded rest (loadDays topPages targetDays loaded rest) := by
  induction rest generalizing loaded wanted with
  | nil =>
      refine .loaded loaded (by simp) (by simp) id ?_
      rintro newer day ⟨⟨older, split⟩, _⟩
      simp at split
  | cons first rest ih =>
      rw [loadDays]
      cases answer : topPages first with
      | error raised =>
          exact .failed [] first raised ⟨⟨⟨rest, rfl⟩, needed⟩, by simp, answer⟩
      | ok published =>
          cases published with
          | none => exact .skip answer (ih loaded short needed)
          | some articles =>
              dsimp only
              split
              · rename_i full
                have last : wanted = 1 := by
                  rw [List.length_append, List.length_singleton] at full
                  omega
                subst last
                exact .last answer
              · rename_i more
                rw [List.length_append, List.length_singleton] at more
                refine .take answer needed (ih _ ?_ (by omega))
                rw [List.length_append, List.length_singleton]
                omega

def askedDays (days : Int) (today : Day) : List Day := daysBefore (lookbackDays days).toNat today

/-- What comes of the search for the newest rankings, with what must have been answered. -/
inductive CollectOutcome (topPages : TopPages) (days : Int) (today : Day) : Except Exn Loaded → Prop
  | loaded (result : Loaded) (filled : result.days ≠ [])
      (newest : Newest topPages (targetDays days).toNat (askedDays days today) result)
      (answered : ∀ newer day,
        ReachesDay topPages (targetDays days).toNat (askedDays days today) newer day →
          (topPages day).isOk = true) : CollectOutcome topPages days today (.ok result)
  | unpublished (none_ : ∀ day ∈ askedDays days today, topPages day = .ok none) :
      CollectOutcome topPages days today (.error noRanking)
  | failed (newer : List Day) (day : Day) (raised : Exn)
      (fails : FailsAt topPages (targetDays days).toNat (askedDays days today) newer day raised) :
      CollectOutcome topPages days today (.error raised)
  | unrepresentable (early : today - lookbackDays days < dateMin) :
      CollectOutcome topPages days today (.error (.unexpected "OverflowError"))

/-- The titles are those of the newest published rankings. -/
theorem newest_days_collected (topPages : TopPages) (days : Int) (today : Day) :
    CollectOutcome topPages days today (collectRecentTopTitles topPages days today) := by
  have wanted : 0 < (targetDays days).toNat := by
    rw [targetDays]
    omega
  have outcome := @loadDays_outcome topPages (targetDays days).toNat (targetDays days).toNat
    ⟨[], []⟩ (askedDays days today) (Nat.zero_add _) wanted
  rw [collectRecentTopTitles, previousDays]
  split
  · rename_i early
    exact .unrepresentable early
  · change CollectOutcome _ _ _ (loadDays topPages _ ⟨[], []⟩ (askedDays days today) >>= _)
    generalize loadDays topPages (targetDays days).toNat ⟨[], []⟩ (askedDays days today) =
      loading at outcome ⊢
    cases outcome with
    | failed newer day raised fails => exact .failed newer day raised fails
    | loaded result newest titles once answered =>
        rw [List.nil_append] at newest
        change CollectOutcome _ _ _ (if result.days.isEmpty then _ else _)
        split
        · rename_i empty
          rw [List.isEmpty_iff.mp empty, eq_comm, List.take_eq_nil_iff] at newest
          have nothing := newest.resolve_left (Nat.ne_of_gt wanted)
          have unpublished : ∀ day ∈ askedDays days today, isPublished topPages day = false :=
            fun day member => Bool.not_eq_true _ ▸ List.filter_eq_nil_iff.mp nothing day member
          refine .unpublished (fun day member => ?_)
          obtain ⟨newer, older, split⟩ := List.append_of_mem member
          have answer := answered newer day ⟨⟨older, split⟩, ?_⟩
          · have none_ := unpublished day member
            rw [isPublished] at none_
            cases published : topPages day with
            | error raised =>
                rw [published] at answer
                cases answer
            | ok articles =>
                cases articles with
                | none => rfl
                | some articles =>
                    rw [published] at none_
                    cases none_
          · rw [List.countP_eq_zero.mpr ?_]
            · exact wanted
            · intro other before
              rw [unpublished other (split ▸ List.mem_append_left _ before)]
              exact Bool.false_ne_true
        · rename_i filled
          refine .loaded result (fun empty => filled (by rw [empty]; rfl)) ⟨newest, ?_, ?_⟩
            answered
          · intro title
            rw [titles, newest]
            simp
          · exact once List.nodup_nil

end Days

/-! Every wiki is prewarmed as it would be alone. -/

/-- Two stores that a call of `enqueue_if_stale` about the page cannot tell apart. -/
structure SamePage (page : PageKey) (first second : Store) : Prop where
  latest : getLatestResult first page = getLatestResult second page
  entries : ∀ key : Identity, key.toPageKey = page → first.entries key = second.entries key

def AlikeIn (wiki : String) (first second : Store) : Prop :=
  ∀ page : PageKey, page.wiki = wiki → SamePage page first second

section Alike

variable {settings : Settings} {wiki : String} {page : PageKey}
  {first second third store : Store} {key : Identity} {priority freshness : Int} {now : Time}

theorem SamePage.refl (page : PageKey) (store : Store) : SamePage page store store :=
  ⟨rfl, fun _ _ => rfl⟩

theorem SamePage.symm (same : SamePage page first second) : SamePage page second first :=
  ⟨same.latest.symm, fun key inside => (same.entries key inside).symm⟩

theorem SamePage.trans (left : SamePage page first second) (right : SamePage page second third) :
    SamePage page first third where
  latest := left.latest.trans right.latest
  entries := fun key inside => (left.entries key inside).trans (right.entries key inside)

theorem any_live (store : Store) (key : Identity) :
    (getWork store key).any WorkItem.live = (store.entries key).any WorkItem.live := by
  rw [Store.entries, Option.any_map]
  rfl

theorem getLatestResult_enqueue (store : Store) (key : Identity) (priority : Int) (now : Time)
    (page : PageKey) :
    getLatestResult (enqueue store key priority true now) page = getLatestResult store page := by
  rw [enqueue_frame]
  rfl

theorem SamePage.enqueue (same : SamePage key.toPageKey first second) :
    SamePage key.toPageKey (enqueue first key priority true now)
      (enqueue second key priority true now) where
  latest := by
    rw [getLatestResult_enqueue, getLatestResult_enqueue]
    exact same.latest
  entries := by
    intro other inside
    rw [entries_enqueue, entries_enqueue]
    exact Entries.demand_congr same.entries inside

theorem SamePage.enqueueIfStale (same : SamePage key.toPageKey first second) :
    (enqueueIfStale first key priority freshness now).1 =
        (enqueueIfStale second key priority freshness now).1 ∧
      SamePage key.toPageKey (enqueueIfStale first key priority freshness now).2
        (enqueueIfStale second key priority freshness now).2 := by
  have queued := @SamePage.enqueue first second key priority now same
  rw [WikiPeople.enqueueIfStale, WikiPeople.enqueueIfStale, same.latest]
  dsimp only
  split
  · exact ⟨rfl, same⟩
  · refine ⟨?_, queued⟩
    rw [any_live, any_live, queued.entries key rfl]

theorem samePage_enqueueIfStale (elsewhere : key.toPageKey ≠ page) :
    SamePage page (enqueueIfStale store key priority freshness now).2 store := by
  rcases enqueueIfStale_store store key priority freshness now with same | same
  · rw [same]
    exact SamePage.refl page store
  · rw [same]
    refine ⟨getLatestResult_enqueue store key priority now page, ?_⟩
    intro other inside
    rw [entries_enqueue]
    exact Entries.demand_others (Entries.keyed_entries store)
      (fun equal => elsewhere (equal.symm.trans inside))

theorem AlikeIn.refl (wiki : String) (store : Store) : AlikeIn wiki store store :=
  fun page _ => SamePage.refl page store

theorem AlikeIn.trans (left : AlikeIn wiki first second) (right : AlikeIn wiki second third) :
    AlikeIn wiki first third :=
  fun page inside => (left page inside).trans (right page inside)

theorem AlikeIn.enqueueIfStale (alike : AlikeIn wiki first second) (inside : key.wiki = wiki) :
    (enqueueIfStale first key priority freshness now).1 =
        (enqueueIfStale second key priority freshness now).1 ∧
      AlikeIn wiki (enqueueIfStale first key priority freshness now).2
        (enqueueIfStale second key priority freshness now).2 := by
  have own := @SamePage.enqueueIfStale first second key priority freshness now
    (alike key.toPageKey inside)
  refine ⟨own.1, fun page member => ?_⟩
  by_cases same : key.toPageKey = page
  · subst same
    exact own.2
  · exact ((samePage_enqueueIfStale same).trans (alike page member)).trans
      (samePage_enqueueIfStale same).symm

theorem alikeIn_enqueueIfStale (elsewhere : key.wiki ≠ wiki) :
    AlikeIn wiki (enqueueIfStale store key priority freshness now).2 store :=
  fun _ member => samePage_enqueueIfStale (fun same =>
    elsewhere ((congrArg PageKey.wiki same).trans member))

variable {turn : PrewarmTurn} {languages : List String} {days : Int}

theorem AlikeIn.queuePopular (alike : AlikeIn turn.wiki first second) (index : Nat)
    (pages : List PageMetadata) :
    (queuePopular settings turn index first pages).1 =
        (queuePopular settings turn index second pages).1 ∧
      AlikeIn turn.wiki (queuePopular settings turn index first pages).2
        (queuePopular settings turn index second pages).2 := by
  induction pages generalizing index first second with
  | nil => exact ⟨rfl, alike⟩
  | cons page todo ih =>
      simp only [WikiPeople.queuePopular]
      split
      · exact ih alike (index + 1)
      · have step := @AlikeIn.enqueueIfStale turn.wiki first second
          (pageIdentity settings turn.wiki page) prewarmPriority settings.pageFreshnessSeconds
          (turn.clock index) alike rfl
        obtain ⟨counts, after⟩ := ih step.2 (index + 1)
        exact ⟨by rw [step.1, counts], after⟩

theorem alikeIn_queuePopular (elsewhere : turn.wiki ≠ wiki) (index : Nat) (store : Store)
    (pages : List PageMetadata) :
    AlikeIn wiki (queuePopular settings turn index store pages).2 store := by
  induction pages generalizing index store with
  | nil => exact AlikeIn.refl wiki store
  | cons page todo ih =>
      simp only [WikiPeople.queuePopular]
      split
      · exact ih (index + 1) store
      · exact (ih (index + 1) _).trans (alikeIn_enqueueIfStale elsewhere)

theorem prewarm_separate :
    Turns.Separate AlikeIn PrewarmTurn.wiki (prewarmWiki languages settings days) where
  refl := AlikeIn.refl
  trans := AlikeIn.trans
  own := by
    intro turn first second alike
    rw [prewarmWiki, prewarmWiki]
    cases popularPages languages days turn with
    | error raised => exact ⟨rfl, alike⟩
    | ok pages =>
        obtain ⟨counts, after⟩ := @AlikeIn.queuePopular settings first second turn alike 0 pages
        exact ⟨congrArg Except.ok counts, after⟩
  others := by
    intro turn other store elsewhere
    rw [prewarmWiki]
    cases popularPages languages days turn with
    | error raised => exact AlikeIn.refl other store
    | ok pages => exact alikeIn_queuePopular elsewhere 0 store pages

theorem queuePopular_frame (index : Nat) (store : Store) (pages : List PageMetadata) :
    (queuePopular settings turn index store pages).2 =
      { store with work := (queuePopular settings turn index store pages).2.work } := by
  induction pages generalizing index store with
  | nil => rfl
  | cons page todo ih =>
      simp only [WikiPeople.queuePopular]
      split
      · exact ih (index + 1) store
      · rw [ih]
        rcases enqueueIfStale_store store (pageIdentity settings turn.wiki page) prewarmPriority
            settings.pageFreshnessSeconds (turn.clock index) with same | same
        · rw [same]
        · rw [same, enqueue_frame]

theorem prewarmTargets_nodup (languages : List String) (store : Store)
    (prewarmWikis : List String) (explicit : Option String) :
    (prewarmTargets languages store prewarmWikis explicit).Nodup := by
  rw [prewarmTargets]
  split
  · exact List.nodup_singleton _
  · exact (List.mergeSort_perm _ _).nodup_iff.mpr ((List.nodup_dedup _).filter _)

end Alike

section Job

variable {languages : List String} {settings : Settings} {prewarmWikis : List String}
  {explicit : Option String} {days : Int} {store : Store} {turns : List PrewarmTurn}

theorem targets_distinct (targets : turns.map PrewarmTurn.wiki =
      prewarmTargets languages store prewarmWikis explicit) :
    turns.Pairwise (fun first second => first.wiki ≠ second.wiki) := by
  have nodup := prewarmTargets_nodup languages store prewarmWikis explicit
  rw [← targets] at nodup
  exact List.pairwise_map.mp nodup

theorem started_alike : ∀ turn ∈ turns, AlikeIn turn.wiki
    (Turns.Round.start store : Turns.Round Store PrewarmTurn Exn).state store :=
  fun turn _ => AlikeIn.refl turn.wiki store

theorem prewarmJob_escaped
    (distinct : turns.Pairwise (fun first second => first.wiki ≠ second.wiki)) :
    (prewarmJob languages settings days store turns).escaped = none ↔
      ∀ turn ∈ turns, Turns.escapes Exn.isKnown
        (prewarmWiki languages settings (max 1 days) store turn).1 = false :=
  prewarm_separate.run_escaped distinct rfl started_alike

theorem prewarmJob_own
    (distinct : turns.Pairwise (fun first second => first.wiki ≠ second.wiki))
    (returned : (prewarmJob languages settings days store turns).escaped = none) :
    ∀ turn ∈ turns, AlikeIn turn.wiki (prewarmJob languages settings days store turns).state
      (prewarmWiki languages settings (max 1 days) store turn).2 :=
  prewarm_separate.run_own distinct rfl started_alike ((prewarmJob_escaped distinct).mp returned)

theorem prewarmWiki_frame (state : Store) (turn : PrewarmTurn)
    (kept : state = { store with work := state.work }) :
    (prewarmWiki languages settings days state turn).2 =
      { store with work := (prewarmWiki languages settings days state turn).2.work } := by
  rw [prewarmWiki]
  cases popularPages languages days turn with
  | error raised => exact kept
  | ok pages =>
      dsimp only
      rw [queuePopular_frame, kept]

end Job

/-- What a whole run of the job comes to, where each turn has an outcome and a store alone. -/
structure PrewarmedAlone (alone : PrewarmTurn → Except Exn Nat × Store) (store : Store)
    (turns : List PrewarmTurn) (ended : Turns.Round Store PrewarmTurn Exn) : Prop where
  ends : ended.escaped = none ↔ ∀ turn ∈ turns, Turns.escapes Exn.isKnown (alone turn).1 = false
  taken : ended.escaped = none → ended.taken = turns
  total : ended.escaped = none →
    ended.total = (turns.map (fun turn => Turns.counted (alone turn).1)).sum
  own : ended.escaped = none → ∀ turn ∈ turns, AlikeIn turn.wiki ended.state (alone turn).2
  others : ∀ wiki, (∀ turn ∈ turns, turn.wiki ≠ wiki) → AlikeIn wiki ended.state store
  queue : ended.state = { store with work := ended.state.work }

/-- The job does for each wiki what it would do for it alone, whatever the others answer, as
long as none of them raises what the loop does not expect; and only the queue changes. -/
theorem prewarmed_as_alone (languages : List String) (settings : Settings)
    (prewarmWikis : List String) (explicit : Option String) (days : Int) (store : Store)
    (turns : List PrewarmTurn)
    (targets : turns.map PrewarmTurn.wiki =
      prewarmTargets languages store prewarmWikis explicit) :
    PrewarmedAlone (prewarmWiki languages settings (max 1 days) store) store turns
      (prewarmJob languages settings days store turns) := by
  have distinct := targets_distinct targets
  have ends := @prewarmJob_escaped languages settings days store turns distinct
  refine ⟨ends, fun returned => ?_, fun returned => ?_, prewarmJob_own distinct,
    fun wiki others => ?_, ?_⟩
  · exact (prewarm_separate.run_taken distinct rfl started_alike (ends.mp returned)).1
  · exact (prewarm_separate.run_taken distinct rfl started_alike (ends.mp returned)).2.trans
      (Nat.zero_add _)
  · exact prewarm_separate.run_others others (.start store)
  · exact @Turns.run_keeps _ _ _ _ Exn.isKnown (.start store)
      (fun state => state = { store with work := state.work }) prewarmWiki_frame turns rfl

/-- Two wikis have results, and the rankings of one are not to be had. -/
def turnOf (wiki : String) (topPages : TopPages) : PrewarmTurn where
  wiki := wiki
  topPages := topPages
  wire :=
    { spell := fun _ => ""
      readText := fun _ => none
      transport := fun _ _ => .ok (.obj [("query", .obj [("pages", .arr [.obj
        [("pageid", .int 1), ("title", .str "A"), ("ns", .int 0),
          ("revisions", .arr [.obj [("revid", .int 10)]])]])])]) }
  today := 20000
  clock := fun _ => 0

def twoTargets : List PrewarmTurn :=
  [turnOf "dewiki" (fun _ => .error (.known .retryableUpstream "Pageviews indisponible : 503")),
    turnOf "frwiki" (fun day => .ok (if day = 19998 then some ["A"] else none))]

theorem twoTargets_wikis : twoTargets.map PrewarmTurn.wiki =
    prewarmTargets defaultWikiwhoLanguages .empty ["dewiki", "frwiki"] none := by
  have chosen : (activeWikis Store.empty ++ ["dewiki", "frwiki"]).dedup.filter
      (isCapable defaultWikiwhoLanguages) = ["dewiki", "frwiki"] := by decide +kernel
  have ordered : sortedTexts ["dewiki", "frwiki"] = ["dewiki", "frwiki"] :=
    List.mergeSort_of_pairwise (by decide)
  change ["dewiki", "frwiki"] = sortedTexts _
  rw [chosen, ordered]

theorem prewarmed_as_alone_dewiki_fails :
    PrewarmedAlone (prewarmWiki defaultWikiwhoLanguages fromEnv (max 1 7) .empty) .empty twoTargets
      (prewarmJob defaultWikiwhoLanguages fromEnv 7 .empty twoTargets) :=
  prewarmed_as_alone defaultWikiwhoLanguages fromEnv ["dewiki", "frwiki"] none 7 .empty twoTargets
    twoTargets_wikis

/-! What a turn leaves in the queue for each popular page. -/

/-- The newest result of the page is fresh, or live work for the revision or a later one is
queued, or the item of the revision had ended before: `enqueue` does not revive it. -/
def Warm (settings : Settings) (before after : Store) (key : Identity) (now : Time) : Prop :=
  (getLatestResult before key.toPageKey).any
      (fun latest => now - seconds settings.pageFreshnessSeconds ≤ latest.computedAt) = true ∨
    after.LiveAt key ∨ after.LiveAbove key ∨
    ∃ item, before.entries key = some item ∧ item.live = false

section Coverage

variable {settings : Settings} {turn : PrewarmTurn} {key : Identity} {now : Time}
  {before after left right : Store} {page : PageMetadata}

theorem liveAt_entries : before.LiveAt key ↔
    ∃ item, before.entries key = some item ∧ item.live = true := by
  constructor
  · rintro ⟨row, present, same, live⟩
    exact ⟨row.unnumbered, entries_eq_some.mpr ⟨row, present, same, rfl⟩, live⟩
  · rintro ⟨item, found, live⟩
    obtain ⟨row, present, same, rfl⟩ := entries_eq_some.mp found
    exact ⟨row, present, same, live⟩

theorem Warm.congr (warm : Warm settings before after key now)
    (earlier : SamePage key.toPageKey before left) (later : SamePage key.toPageKey after right) :
    Warm settings left right key now := by
  rw [Warm, ← earlier.latest, ← earlier.entries key rfl, liveAt_entries,
    ← entries_overtaken, ← later.entries key rfl,
    ← Entries.overtaken_congr later.entries, entries_overtaken, ← liveAt_entries]
  exact warm

theorem warm_enqueueIfStale (store : Store) (key : Identity) (now : Time) :
    Warm settings store
      (enqueueIfStale store key prewarmPriority settings.pageFreshnessSeconds now).2 key now := by
  rw [enqueueIfStale_eq]
  split
  · rename_i fresh
    exact Or.inl fresh
  · refine Or.inr ?_
    rw [liveAt_enqueue, liveAbove_enqueue]
    by_cases newer : store.LiveAbove key
    · exact Or.inr (Or.inl newer)
    · cases found : getWork store key with
      | none => exact Or.inl (Or.inr ⟨rfl, rfl, newer⟩)
      | some item =>
          obtain ⟨present, same⟩ := getWork_eq_some.mp found
          cases live : item.live with
          | true => exact Or.inl (Or.inl ⟨item, present, same, live⟩)
          | false =>
              exact Or.inr (Or.inr ⟨item.unnumbered,
                entries_eq_some.mpr ⟨item, present, same, rfl⟩, live⟩)

theorem pageIdentity_ne {wiki : String} {other : PageMetadata}
    (apart : other.pageId ≠ page.pageId) :
    (pageIdentity settings wiki other).toPageKey ≠ (pageIdentity settings wiki page).toPageKey :=
  fun same => apart (congrArg PageKey.pageId same)

theorem samePage_queuePopular (index : Nat) (store : Store) (pages : List PageMetadata)
    (others : ∀ other ∈ pages, other.pageNamespace = 0 → other.pageId ≠ page.pageId) :
    SamePage (pageIdentity settings turn.wiki page).toPageKey
      (queuePopular settings turn index store pages).2 store := by
  induction pages generalizing index store with
  | nil => exact SamePage.refl _ store
  | cons first todo ih =>
      obtain ⟨apart, others⟩ := List.forall_mem_cons.mp others
      simp only [queuePopular]
      split
      · exact ih (index + 1) store others
      · rename_i article
        exact (ih (index + 1) _ others).trans
          (samePage_enqueueIfStale (pageIdentity_ne (apart (not_not.mp article))))

/-- An article that MediaWiki names once is warm after the turn. -/
theorem queuePopular_warm (start index : Nat) (store : Store) (pages : List PageMetadata)
    (found : pages[index]? = some page) (article : page.pageNamespace = 0)
    (once : ∀ place other, pages[place]? = some other → other.pageNamespace = 0 →
      other.pageId = page.pageId → place = index) :
    Warm settings store (queuePopular settings turn start store pages).2
      (pageIdentity settings turn.wiki page) (turn.clock (start + index)) := by
  induction pages generalizing start index store with
  | nil => simp at found
  | cons first todo ih =>
      simp only [queuePopular]
      cases index with
      | zero =>
          obtain rfl : first = page := by simpa using found
          rw [if_neg (not_not.mpr article)]
          have others : ∀ other ∈ todo, other.pageNamespace = 0 → other.pageId ≠ first.pageId := by
            intro other member main same
            obtain ⟨place, there⟩ := List.mem_iff_getElem?.mp member
            exact absurd (once (place + 1) other (by simpa using there) main same)
              (Nat.succ_ne_zero place)
          exact (warm_enqueueIfStale store _ _).congr (SamePage.refl _ store)
            (samePage_queuePopular (start + 1) _ todo others).symm
      | succ index =>
          have there : todo[index]? = some page := by simpa using found
          have later : ∀ place other, todo[place]? = some other → other.pageNamespace = 0 →
              other.pageId = page.pageId → place = index := by
            intro place other member main same
            exact Nat.succ.inj (once (place + 1) other (by simpa using member) main same)
          have moment : start + (index + 1) = start + 1 + index := by omega
          rw [moment]
          split
          · exact ih (start + 1) index store there later
          · rename_i main
            have apart : first.pageId ≠ page.pageId := fun same =>
              absurd (once 0 first rfl (not_not.mp main) same) (Nat.succ_ne_zero index).symm
            exact (ih (start + 1) index _ there later).congr
              (samePage_enqueueIfStale (pageIdentity_ne apart)) (SamePage.refl _ _)

end Coverage

/-- After the job, every popular article of a wiki whose turn went through is fresh, or queued
at the revision that MediaWiki names or a later one, or its item had ended before. -/
theorem prewarmed_pages_warm (languages : List String) (settings : Settings)
    (prewarmWikis : List String) (explicit : Option String) (days : Int) (store : Store)
    (turns : List PrewarmTurn)
    (targets : turns.map PrewarmTurn.wiki =
      prewarmTargets languages store prewarmWikis explicit)
    (returned : (prewarmJob languages settings days store turns).escaped = none)
    (turn : PrewarmTurn) (taken : turn ∈ turns) (pages : List PageMetadata)
    (resolved : popularPages languages (max 1 days) turn = .ok pages)
    (index : Nat) (page : PageMetadata) (found : pages[index]? = some page)
    (article : page.pageNamespace = 0)
    (once : ∀ place other, pages[place]? = some other → other.pageNamespace = 0 →
      other.pageId = page.pageId → place = index) :
    Warm settings store (prewarmJob languages settings days store turns).state
      (pageIdentity settings turn.wiki page) (turn.clock index) := by
  have own := prewarmJob_own (targets_distinct targets) returned turn taken
    (pageIdentity settings turn.wiki page).toPageKey rfl
  have alone : (prewarmWiki languages settings (max 1 days) store turn).2 =
      (queuePopular settings turn 0 store pages).2 := by
    rw [prewarmWiki, resolved]
  rw [alone] at own
  have warm := @queuePopular_warm settings turn page 0 index store pages found article once
  rw [Nat.zero_add] at warm
  exact warm.congr (SamePage.refl _ store) own.symm

/-- The ranking of frwiki names the article "A". -/
theorem prewarmed_pages_warm_frwiki :
    Warm fromEnv .empty (prewarmJob defaultWikiwhoLanguages fromEnv 7 .empty twoTargets).state
      (pageIdentity fromEnv "frwiki" ⟨1, 10, "A", 0, false⟩) 0 := by
  refine prewarmed_pages_warm defaultWikiwhoLanguages fromEnv ["dewiki", "frwiki"] none 7 .empty
    twoTargets twoTargets_wikis (by decide +kernel)
    (turnOf "frwiki" (fun day => .ok (if day = 19998 then some ["A"] else none)))
    (List.mem_cons_of_mem _ List.mem_cons_self) [⟨1, 10, "A", 0, false⟩] (by decide +kernel) 0
    ⟨1, 10, "A", 0, false⟩ rfl rfl ?_
  intro place other there _ _
  cases place with
  | zero => rfl
  | succ place => simp at there

end WikiPeople
