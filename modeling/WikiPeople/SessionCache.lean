import WikiPeople.Library.JsonText
import WikiPeople.Sentence

/-! The session cache of the gadget: one storage for three kinds of answers, over a whole
session of one tab. Times are what `Date.now()` reads, in milliseconds. -/

namespace WikiPeople

open Relational Transition

/-- A text without a colon, such as the name of a database or the code of a language. -/
structure KeyPart where
  text : String
  plain : ':' ∉ text.toList
  deriving DecidableEq

inductive CacheUse where
  | attribution (wiki : KeyPart) (articleId : Nat)
  | configuration (wiki : KeyPart) (page : String)
  | content (wiki : KeyPart) (title : String) (language : KeyPart)
  deriving DecidableEq

def cacheVersion : String := "v2"

def keyPrefix : String := "wikipeople:"

def CacheUse.key : CacheUse → String
  | .attribution wiki articleId =>
      keyPrefix ++ cacheVersion ++ ":" ++ wiki.text ++ ":" ++ toString articleId
  | .configuration wiki page =>
      keyPrefix ++ "config:" ++ cacheVersion ++ ":" ++ wiki.text ++ ":" ++ page
  | .content wiki title language =>
      keyPrefix ++ "content:" ++ cacheVersion ++ ":" ++ wiki.text ++ ":" ++ title ++ ":" ++
        language.text

def clientCacheMaxAgeMs : Int := 5 * 60 * 1000
def configCacheMaxAgeMs : Int := 24 * 60 * 60 * 1000
def contentCacheMaxAgeMs : Int := 24 * 60 * 60 * 1000

def CacheUse.maxAgeMs : CacheUse → Int
  | .attribution _ _ => clientCacheMaxAgeMs
  | .configuration _ _ => configCacheMaxAgeMs
  | .content _ _ _ => contentCacheMaxAgeMs

/-- The storage of a tab. A value is `none` where it is no JSON. -/
abbrev Storage := Dict String (Option Json)

def removeItem (storage : Storage) (key : String) : Storage :=
  storage.delete (fun entry => entry.1 = key)

/-- `value || null` keeps the value: an array and an object always are something. -/
def isTruthy : Json → Bool
  | .arr _ => true
  | .obj _ => true
  | value => value.truthy

/-- `readable` is whether the storage lets itself be read at all. -/
def readCache (storage : Storage) (readable : Bool) (key : String) (maxAgeMs now : Int) :
    Option Json × Storage :=
  if !readable then (none, storage)
  else
    match (storage.find key).map Prod.snd with
    | none => (none, storage)
    | some none => (none, storage)
    | some (some cached) =>
        match asNumber (cached.field "storedAt") with
        | none => (none, removeItem storage key)
        | some storedAt =>
            if maxAgeMs < now - storedAt then (none, removeItem storage key)
            else ((cached.field "data").filter isTruthy, storage)

def stamped (data : Json) (storedAt : Int) : Json :=
  .obj [("data", data), ("storedAt", .int storedAt)]

/-- `writable` is whether the storage has the room and takes the value. -/
def writeCache (storage : Storage) (writable : Bool) (key : String) (data : Json) (now : Int) :
    Storage :=
  if writable then storage.put (key, some (stamped data now)) else storage

/-- One tab. `awaiting` is what the gadget has asked the network for. -/
structure Tab where
  now : Int
  storage : Storage
  awaiting : Option CacheUse

/-- `ask` is where the gadget needs an answer and `answer` where the network gave it one to
keep. A page may be left before that, and other scripts have keys of their own. -/
inductive TabEvent where
  | elapse (duration : Nat)
  | ask (use : CacheUse) (readable : Bool)
  | answer (data : Json) (writable : Bool)
  | leave
  | foreign (key : String) (value : Option (Option Json))

def Tab.step (tab : Tab) : TabEvent → Option Tab
  | .elapse duration => some { tab with now := tab.now + duration }
  | .ask use readable =>
      if tab.awaiting.isSome then none
      else
        let (hit, storage) :=
          readCache tab.storage readable use.key use.maxAgeMs tab.now
        some { tab with
          storage := storage, awaiting := if hit.isSome then none else some use }
  | .answer data writable =>
      match tab.awaiting with
      | none => none
      | some use =>
          if data.isObject then
            some { tab with
              storage := writeCache tab.storage writable use.key data tab.now
              awaiting := none }
          else none
  | .leave => some { tab with awaiting := none }
  | .foreign key value =>
      if keyPrefix.toList.isPrefixOf key.toList then none
      else
        some { tab with
          storage :=
            match value with
            | none => removeItem tab.storage key
            | some text => tab.storage.put (key, text) }

/-- What `fetch` resolved with at a moment, or the empty object of a failed request, and whether
the storage took it. The HTTP cache of the browser lies behind `fetch`. -/
structure Heard where
  use : CacheUse
  data : Json
  time : Int
  kept : Bool

structure Used where
  use : CacheUse
  data : Json
  time : Int

structure TabLog where
  heard : List Heard
  used : List Used

def TabLog.observe (log : TabLog) (tab : Tab) : TabEvent → TabLog
  | .ask use readable =>
      match (readCache tab.storage readable use.key use.maxAgeMs tab.now).1 with
      | none => log
      | some data => { log with used := log.used ++ [⟨use, data, tab.now⟩] }
  | .answer data writable =>
      match tab.awaiting with
      | none => log
      | some use =>
          { heard := log.heard ++ [⟨use, data, tab.now, writable⟩]
            used := log.used ++ [⟨use, data, tab.now⟩] }
  | _ => log

/-- A session of a tab whose storage the gadget has not used before. -/
def browsing (storage : Storage) (start : Int) : Machine (Tab × TabLog) TabEvent :=
  Machine.withHistory ⟨⟨start, storage, none⟩, Tab.step⟩ ⟨[], []⟩
    (fun log tab event _ => log.observe tab event)

def lastKept (heard : List Heard) (use : CacheUse) : Option Heard :=
  (heard.filter (fun answer => answer.use = use && answer.kept)).getLast?

section Keys

theorem colon_split {first second left right : List Char} (plain : ':' ∉ first)
    (other : ':' ∉ second) (same : first ++ ':' :: left = second ++ ':' :: right) :
    first = second ∧ left = right := by
  induction first generalizing second with
  | nil =>
      cases second with
      | nil => exact ⟨rfl, (List.cons.inj same).2⟩
      | cons char rest => exact absurd ((List.cons.inj same).1 ▸ List.mem_cons_self) other
  | cons char rest ih =>
      cases second with
      | nil => exact absurd ((List.cons.inj same).1 ▸ List.mem_cons_self) plain
      | cons next others =>
          obtain ⟨equal, tail⟩ := List.cons.inj same
          obtain ⟨whole, after⟩ := ih (fun member => plain (List.mem_cons_of_mem _ member))
            (fun member => other (List.mem_cons_of_mem _ member)) tail
          exact ⟨by rw [equal, whole], after⟩

theorem KeyPart.ext {first second : KeyPart} (same : first.text.toList = second.text.toList) :
    first = second := by
  cases first
  cases second
  cases String.toList_inj.mp same
  rfl

theorem key_injective : Function.Injective CacheUse.key := by
  intro first second same
  have chars := congrArg String.toList same
  cases first with
  | attribution wiki articleId =>
      cases second with
      | attribution other otherId =>
          have parts : wiki.text.toList ++ ':' :: Nat.toDigits 10 articleId =
              other.text.toList ++ ':' :: Nat.toDigits 10 otherId := by
            simpa [CacheUse.key, keyPrefix, cacheVersion] using chars
          obtain ⟨name, number⟩ := colon_split wiki.plain other.plain parts
          rw [KeyPart.ext name, Json.toDigits_injective number]
      | configuration other page => simp [CacheUse.key, keyPrefix, cacheVersion] at chars
      | content other title language => simp [CacheUse.key, keyPrefix, cacheVersion] at chars
  | configuration wiki page =>
      cases second with
      | attribution other otherId => simp [CacheUse.key, keyPrefix, cacheVersion] at chars
      | configuration other otherPage =>
          have parts : wiki.text.toList ++ ':' :: page.toList =
              other.text.toList ++ ':' :: otherPage.toList := by
            simpa [CacheUse.key, keyPrefix, cacheVersion] using chars
          obtain ⟨name, title⟩ := colon_split wiki.plain other.plain parts
          rw [KeyPart.ext name, String.toList_inj.mp title]
      | content other title language => simp [CacheUse.key, keyPrefix, cacheVersion] at chars
  | content wiki title language =>
      cases second with
      | attribution other otherId => simp [CacheUse.key, keyPrefix, cacheVersion] at chars
      | configuration other page => simp [CacheUse.key, keyPrefix, cacheVersion] at chars
      | content other otherTitle otherLanguage =>
          have parts : wiki.text.toList ++ ':' :: (title.toList ++ ':' :: language.text.toList) =
              other.text.toList ++ ':' :: (otherTitle.toList ++ ':' ::
                otherLanguage.text.toList) := by
            simpa [CacheUse.key, keyPrefix, cacheVersion] using chars
          obtain ⟨name, rest⟩ := colon_split wiki.plain other.plain parts
          -- The title may have colons, so the code of the language is split off from behind.
          have reversed : language.text.toList.reverse ++ ':' :: title.toList.reverse =
              otherLanguage.text.toList.reverse ++ ':' :: otherTitle.toList.reverse := by
            simpa using congrArg List.reverse rest
          obtain ⟨code, whole⟩ := colon_split (by simpa using language.plain)
            (by simpa using otherLanguage.plain) reversed
          rw [KeyPart.ext name, String.toList_inj.mp (List.reverse_injective whole),
            KeyPart.ext (List.reverse_injective code)]

theorem key_prefix (use : CacheUse) : keyPrefix.toList.isPrefixOf use.key.toList = true := by
  rw [List.isPrefixOf_iff_prefix]
  cases use with
  | attribution wiki articleId => simp [CacheUse.key, keyPrefix]
  | configuration wiki page => simp [CacheUse.key, keyPrefix]
  | content wiki title language => simp [CacheUse.key, keyPrefix]

end Keys

section Storage

variable {storage : Storage} {key other : String} {data : Json} {now storedAt maxAgeMs : Int}

theorem find_removeItem : (removeItem storage key).find other =
    if other = key then none else storage.find other := Table.find_delete_entry

theorem readCache_stamped (object : data.isObject = true)
    (stored : storage.find key = some (key, some (stamped data storedAt))) :
    readCache storage true key maxAgeMs now =
      if maxAgeMs < now - storedAt then (none, removeItem storage key)
      else (some data, storage) := by
  have truthy : isTruthy data = true := by
    cases data with
    | obj fields => rfl
    | _ => cases object
  have date : asNumber ((stamped data storedAt).field "storedAt") = some (storedAt : Rat) := rfl
  have inside : (stamped data storedAt).field "data" = some data := rfl
  simp only [readCache, stored, Option.map_some, date, inside, Bool.not_true,
    Bool.false_eq_true, if_false, Option.filter_some, truthy, if_true]
  by_cases old : maxAgeMs < now - storedAt
  · rw [if_pos old, if_pos (by exact_mod_cast old)]
  · rw [if_neg old, if_neg (by exact_mod_cast old)]

theorem readCache_absent (absent : storage.find key = none) (readable : Bool) :
    readCache storage readable key maxAgeMs now = (none, storage) := by
  cases readable with
  | false => rfl
  | true => simp [readCache, absent]

end Storage

/-- The last answer kept for this use, while it is not too old. -/
def TabLog.young (log : TabLog) (use : CacheUse) (now : Int) : Option Json :=
  (lastKept log.heard use).bind fun answer =>
    if now ≤ answer.time + use.maxAgeMs then some answer.data else none

/-- The storage has, under the key of a use, the last answer it took for it or nothing, and
nothing only where that answer is too old. -/
structure Remembers (tab : Tab) (log : TabLog) : Prop where
  object : ∀ answer ∈ log.heard, answer.data.isObject = true
  past : ∀ answer ∈ log.heard, answer.time ≤ tab.now
  held : ∀ use,
    (∃ answer, lastKept log.heard use = some answer ∧
        tab.storage.find use.key = some (use.key, some (stamped answer.data answer.time))) ∨
      (tab.storage.find use.key = none ∧ ∀ answer, lastKept log.heard use = some answer →
        answer.time + use.maxAgeMs < tab.now)
  used : ∀ used ∈ log.used, ∃ answer ∈ log.heard, answer.use = used.use ∧
    answer.data = used.data ∧ answer.time ≤ used.time ∧
      used.time ≤ answer.time + used.use.maxAgeMs

section Log

variable {tab : Tab} {log : TabLog} {use : CacheUse} {readable : Bool}

theorem lastKept_mem {heard : List Heard} {answer : Heard}
    (last : lastKept heard use = some answer) : answer ∈ heard ∧ answer.use = use := by
  have found := List.mem_filter.mp (List.mem_of_getLast? last)
  simp only [Bool.and_eq_true, decide_eq_true_eq] at found
  exact ⟨found.1, found.2.1⟩

theorem lastKept_append {heard : List Heard} {answer : Heard} :
    lastKept (heard ++ [answer]) use =
      if answer.use = use ∧ answer.kept = true then some answer else lastKept heard use := by
  rw [lastKept, List.filter_append]
  split
  · rename_i wanted
    rw [List.filter_cons_of_pos (by simp [wanted]), List.filter_nil, List.getLast?_concat]
  · rename_i other
    rw [List.filter_cons_of_neg (by simpa using other), List.filter_nil, List.append_nil]
    rfl

theorem Remembers.read (remembers : Remembers tab log) :
    (readCache tab.storage readable use.key use.maxAgeMs tab.now).1 =
        (if readable then log.young use tab.now else none) ∧
      ((readCache tab.storage readable use.key use.maxAgeMs tab.now).2 =
          tab.storage ∨
        ((readCache tab.storage readable use.key use.maxAgeMs tab.now).2 =
            removeItem tab.storage use.key ∧
          ∀ answer, lastKept log.heard use = some answer →
            answer.time + use.maxAgeMs < tab.now)) := by
  cases readable with
  | false => exact ⟨rfl, Or.inl rfl⟩
  | true =>
      rcases remembers.held use with ⟨answer, last, stored⟩ | ⟨absent, old⟩
      · have object := remembers.object answer (lastKept_mem last).1
        rw [readCache_stamped object stored, TabLog.young, last]
        by_cases expired : use.maxAgeMs < tab.now - answer.time
        · have late : ¬ tab.now ≤ answer.time + use.maxAgeMs := by omega
          rw [if_pos expired, if_pos rfl, Option.bind_some, if_neg late]
          refine ⟨rfl, Or.inr ⟨rfl, ?_⟩⟩
          intro other same
          cases same
          omega
        · have young : tab.now ≤ answer.time + use.maxAgeMs := by omega
          rw [if_neg expired, if_pos rfl, Option.bind_some, if_pos young]
          exact ⟨rfl, Or.inl rfl⟩
      · rw [readCache_absent absent, if_pos rfl, TabLog.young]
        refine ⟨?_, Or.inl rfl⟩
        cases last : lastKept log.heard use with
        | none => rfl
        | some answer =>
            have late := old answer last
            rw [Option.bind_some, if_neg (by omega)]

theorem Remembers.held_later (remembers : Remembers tab log) {now : Int}
    (later : tab.now ≤ now) {storage : Storage}
    (same : ∀ use : CacheUse, storage.find use.key = tab.storage.find use.key)
    (awaiting : Option CacheUse) : Remembers ⟨now, storage, awaiting⟩ log := by
  refine ⟨remembers.object, ?_, ?_, remembers.used⟩
  · intro answer member
    exact (remembers.past answer member).trans later
  · intro use
    rw [same use]
    exact (remembers.held use).imp_right fun ⟨absent, old⟩ =>
      ⟨absent, fun answer last => (old answer last).trans_le later⟩

theorem young_heard {now : Int} {data : Json} (young : log.young use now = some data) :
    ∃ answer ∈ log.heard, answer.use = use ∧ answer.data = data ∧
      now ≤ answer.time + use.maxAgeMs := by
  obtain ⟨answer, last, fresh⟩ := Option.bind_eq_some_iff.mp young
  obtain ⟨member, own⟩ := lastKept_mem last
  split at fresh
  · rename_i inside
    exact ⟨answer, member, own, Option.some.inj fresh, inside⟩
  · cases fresh

theorem Remembers.ask (remembers : Remembers tab log) (awaiting : Option CacheUse) :
    Remembers
      ⟨tab.now, (readCache tab.storage readable use.key use.maxAgeMs tab.now).2,
        awaiting⟩
      (log.observe tab (.ask use readable)) := by
  obtain ⟨answered, left⟩ := @Remembers.read tab log use readable remembers
  -- The storage first: only the key that was read may have gone.
  have kept : Remembers
      ⟨tab.now, (readCache tab.storage readable use.key use.maxAgeMs tab.now).2,
        awaiting⟩ log := by
    rcases left with same | ⟨removed, old⟩
    · rw [same]
      exact remembers.held_later le_rfl (fun _ => rfl) awaiting
    · rw [removed]
      refine ⟨remembers.object, remembers.past, ?_, remembers.used⟩
      intro other
      rw [find_removeItem]
      by_cases own : other = use
      · rw [if_pos (congrArg CacheUse.key own)]
        exact Or.inr ⟨rfl, own ▸ old⟩
      · rw [if_neg fun equal => own (key_injective equal)]
        exact remembers.held other
  rw [TabLog.observe, answered]
  cases hit : (if readable then log.young use tab.now else none) with
  | none => exact kept
  | some data =>
      refine ⟨kept.object, kept.past, kept.held, ?_⟩
      intro used member
      rcases List.mem_append.mp member with earlier | new
      · exact kept.used used earlier
      · rw [List.mem_singleton.mp new]
        split at hit
        · obtain ⟨answer, heard, own, same, inside⟩ := young_heard hit
          exact ⟨answer, heard, own, same, remembers.past answer heard, inside⟩
        · cases hit

theorem maxAgeMs_nonneg (use : CacheUse) : 0 ≤ use.maxAgeMs := by
  cases use with
  | attribution wiki articleId => exact show 0 ≤ clientCacheMaxAgeMs by decide
  | configuration wiki page => exact show 0 ≤ configCacheMaxAgeMs by decide
  | content wiki title language => exact show 0 ≤ contentCacheMaxAgeMs by decide

theorem Remembers.answer (remembers : Remembers tab log) {data : Json}
    (object : data.isObject = true) (awaits : tab.awaiting = some use) (writable : Bool) :
    Remembers
      ⟨tab.now, writeCache tab.storage writable use.key data tab.now, none⟩
      (log.observe tab (.answer data writable)) := by
  rw [TabLog.observe, awaits]
  refine ⟨?_, ?_, ?_, ?_⟩
  · intro answer member
    rcases List.mem_append.mp member with old | new
    · exact remembers.object answer old
    · rw [List.mem_singleton.mp new]
      exact object
  · intro answer member
    rcases List.mem_append.mp member with old | new
    · exact remembers.past answer old
    · rw [List.mem_singleton.mp new]
  · intro other
    dsimp only
    rw [lastKept_append]
    cases writable with
    | false =>
        rw [if_neg (by simp)]
        exact remembers.held other
    | true =>
        by_cases own : use = other
        · subst own
          rw [if_pos ⟨rfl, rfl⟩]
          exact Or.inl ⟨_, rfl, by rw [writeCache, if_pos rfl, Table.find_put_entry, if_pos rfl]⟩
        · rw [if_neg fun wanted => own wanted.1]
          have apart : ¬ use.key = other.key := fun equal => own (key_injective equal)
          rw [writeCache, if_pos rfl, Table.find_put_entry, if_neg apart]
          exact remembers.held other
  · intro used member
    rcases List.mem_append.mp member with old | new
    · obtain ⟨answer, heard, rest⟩ := remembers.used used old
      exact ⟨answer, List.mem_append_left _ heard, rest⟩
    · rw [List.mem_singleton.mp new]
      refine ⟨_, List.mem_append_right _ (List.mem_singleton.mpr rfl), rfl, rfl, le_rfl, ?_⟩
      have allowed := maxAgeMs_nonneg use
      dsimp only
      omega

end Log

theorem Remembers.step {tab after : Tab} {log : TabLog} {event : TabEvent}
    (remembers : Remembers tab log) (taken : tab.step event = some after) :
    Remembers after (log.observe tab event) := by
  cases event with
  | elapse duration =>
      cases taken
      exact remembers.held_later (by omega) (fun _ => rfl) tab.awaiting
  | ask use readable =>
      simp only [Tab.step] at taken
      split at taken
      · cases taken
      · cases taken
        exact remembers.ask _
  | answer data writable =>
      simp only [Tab.step] at taken
      split at taken
      · cases taken
      · rename_i use awaits
        split at taken
        · rename_i object
          cases taken
          exact remembers.answer object awaits writable
        · cases taken
  | leave =>
      cases taken
      exact remembers.held_later le_rfl (fun _ => rfl) none
  | foreign key value =>
      simp only [Tab.step] at taken
      split at taken
      · cases taken
      · rename_i other
        cases taken
        refine remembers.held_later le_rfl ?_ tab.awaiting
        intro use
        have apart : use.key ≠ key := by
          intro same
          rw [← same, key_prefix] at other
          exact other rfl
        cases value with
        | none => exact find_removeItem.trans (if_neg apart)
        | some text =>
            dsimp only
            rw [Table.find_put_entry, if_neg (Ne.symm apart)]

/-- No other script has used a key of the gadget. -/
def Untouched (storage : Storage) : Prop :=
  ∀ entry ∈ storage.rows, keyPrefix.toList.isPrefixOf entry.1.toList = false

theorem remembers_reached {storage : Storage} {start : Int} (untouched : Untouched storage)
    {state : Tab × TabLog} (reached : (browsing storage start).Reachable state) :
    Remembers state.1 state.2 := by
  refine Machine.invariant (fun state : Tab × TabLog => Remembers state.1 state.2) ?_ ?_
    reached
  · refine ⟨nofun, nofun, ?_, nofun⟩
    intro use
    refine Or.inr ⟨Table.find_eq_none.mpr ?_, nofun⟩
    intro entry member same
    have free := untouched entry member
    rw [show entry.1 = use.key from same, key_prefix] at free
    cases free
  · intro before event after remembers _ taken
    obtain ⟨moved, observed⟩ := Machine.withHistory_step taken
    rw [observed]
    exact remembers.step moved

/-- A read of the cache at this moment: it answers with what the network said last, unless that
is too old, and only otherwise the network is asked. -/
structure Spares (tab : Tab) (log : TabLog) (use : CacheUse) (after : Tab) :
    Prop where
  asks : after.awaiting = some use ↔ log.young use tab.now = none
  answers : ∀ data, log.young use tab.now = some data →
    after.awaiting = none ∧
      (log.observe tab (.ask use true)).used = log.used ++ [⟨use, data, tab.now⟩]

/-- Over a whole session: all data the gadget goes on with came from the network, for the same
use and at most its maximal age before; and where the storage can be read, the network is asked
exactly where no such answer is kept. -/
theorem session_cache_sound {storage : Storage} {start : Int} (untouched : Untouched storage)
    {state : Tab × TabLog} (reached : (browsing storage start).Reachable state) :
    (∀ used ∈ state.2.used, ∃ answer ∈ state.2.heard, answer.use = used.use ∧
        answer.data = used.data ∧ answer.time ≤ used.time ∧
          used.time ≤ answer.time + used.use.maxAgeMs) ∧
      ∀ use after, state.1.step (.ask use true) = some after →
        Spares state.1 state.2 use after := by
  have remembers := remembers_reached untouched reached
  refine ⟨remembers.used, ?_⟩
  intro use after taken
  have answered := (@Remembers.read _ _ use true remembers).1
  rw [if_pos rfl] at answered
  simp only [Tab.step] at taken
  split at taken
  · cases taken
  · cases taken
    constructor
    · dsimp only
      rw [answered]
      cases state.2.young use state.1.now <;> simp
    · intro data young
      dsimp only
      rw [answered, young, TabLog.observe, answered, young]
      exact ⟨rfl, rfl⟩

def frenchWiki : KeyPart := ⟨"frwiki", by decide⟩

/-- An article of one author, its history a minute later, and the article after ten minutes. -/
def threeVisits : List TabEvent :=
  [.ask (.attribution frenchWiki 1) true, .answer (.obj [("humanCount", .int 1)]) true,
    .elapse 60000, .ask (.attribution frenchWiki 1) true, .elapse 600000]

theorem untouched_empty : Untouched .empty := nofun

theorem session_cache_sound_visits : ∃ state, (browsing .empty 0).Reachable state ∧
    (∀ used ∈ state.2.used, ∃ answer ∈ state.2.heard, answer.use = used.use ∧
        answer.data = used.data ∧ answer.time ≤ used.time ∧
          used.time ≤ answer.time + used.use.maxAgeMs) ∧
      ∃ after, state.1.step (.ask (.attribution frenchWiki 1) true) = some after ∧
        Spares state.1 state.2 (.attribution frenchWiki 1) after := by
  obtain ⟨state, reached, possible⟩ := @Machine.exists_of_run _ _ (browsing .empty 0)
    (fun state => state.2.used.length = 2 ∧
      (state.1.step (.ask (.attribution frenchWiki 1) true)).isSome = true)
    _ threeVisits (by decide +kernel)
  obtain ⟨after, taken⟩ := Option.isSome_iff_exists.mp possible.2
  obtain ⟨honest, spares⟩ := session_cache_sound untouched_empty reached
  exact ⟨state, reached, honest, after, taken, spares _ after taken⟩

/-- `JSON.stringify` writes `null` for a number that is not finite. A name that is no text stays
none, whatever it is. -/
def TopEditor.stored (editor : TopEditor) : Json :=
  .obj [("share", (editor.share.map Json.float).getD .null),
    ("username", (editor.username.map Json.str).getD .null)]

/-- The text that `JSON.stringify` makes of the data, parsed again; `undefined` has no field. -/
def ContributionData.stored (data : ContributionData) : Json :=
  .obj ((data.computedAt.map (fun value => ("computedAt", value))).toList ++
    [("humanCount", .float data.humanCount), ("limited", .bool data.limited),
      ("wroteTheText", .bool data.wroteTheText),
      ("topEditors", .arr (data.topEditors.map TopEditor.stored))])

end WikiPeople
