import WikiPeople.Optout
import WikiPeople.Titles

/-! What the rows of a wiki are after its list was read: two passes over the targets, capped
categories and a full replacement. -/

namespace WikiPeople

open Relational

def sourceOf (entries : Dict Int OptOutEntry) (pageId : Int) : Option String :=
  (entries.find pageId).map (fun entry => entry.2.source)

def Filed (entries : Dict Int OptOutEntry) : Prop :=
  ∀ entry ∈ entries.rows, entry.1 = entry.2.pageId

def TitleInfo.lists (info : TitleInfo) (pageId : Int) : Bool :=
  info.pageNamespace = articleNamespace && info.pageId = some pageId

/-- The target is a category that counts this page among its members. -/
def TitleInfo.covers (counted : String → List CategoryMember) (info : TitleInfo)
    (pageId : Int) : Bool :=
  info.pageNamespace = categoryNamespace &&
    (counted info.title).any (fun member => member.pageId = pageId)

def categorySource (counted : String → List CategoryMember) (pageId : Int) (info : TitleInfo) :
    Option String :=
  if info.covers counted pageId then some s!"category:{info.title}" else none

def listedSource (counted : String → List CategoryMember) (infos : List TitleInfo)
    (pageId : Int) : Option String :=
  if infos.any (fun info => info.lists pageId) then some "page"
  else infos.findSome? (categorySource counted pageId)

theorem filed_put {entries : Dict Int OptOutEntry} (filed : Filed entries)
    {entry : Int × OptOutEntry} (own : entry.1 = entry.2.pageId) : Filed (entries.put entry) := by
  intro other member
  rcases Table.mem_put.mp member with rfl | ⟨old, _⟩
  · exact own
  · exact filed other old

theorem sourceOf_put {entries : Dict Int OptOutEntry} {entry : Int × OptOutEntry}
    {pageId : Int} : sourceOf (entries.put entry) pageId =
      if entry.1 = pageId then some entry.2.source else sourceOf entries pageId := by
  rw [sourceOf, Table.find_put]
  change (if entry.1 = pageId then some entry else entries.find pageId).map _ = _
  split <;> rfl

section Articles

variable {collected : Collected} {pageId : Int}

theorem collectArticle_filed (filed : Filed collected.entries) (info : TitleInfo) :
    Filed (collectArticle collected info).entries := by
  unfold collectArticle
  split
  · exact filed
  · split
    · exact filed
    · exact filed_put filed rfl

theorem collectArticle_source (info : TitleInfo) :
    sourceOf (collectArticle collected info).entries pageId =
      if info.lists pageId then some "page" else sourceOf collected.entries pageId := by
  unfold collectArticle TitleInfo.lists
  by_cases article : info.pageNamespace = articleNamespace
  · rw [if_neg (not_not.mpr article)]
    cases identified : info.pageId with
    | none => simp [Collected.skip]
    | some identifier =>
        dsimp only
        rw [sourceOf_put]
        simp [article]
  · rw [if_pos article]
    simp [article]

theorem collectArticles (infos : List TitleInfo) (filed : Filed collected.entries) :
    Filed (infos.foldl collectArticle collected).entries ∧
      sourceOf (infos.foldl collectArticle collected).entries pageId =
        if infos.any (fun info => info.lists pageId) then some "page"
        else sourceOf collected.entries pageId := by
  induction infos generalizing collected with
  | nil => exact ⟨filed, rfl⟩
  | cons info infos ih =>
      obtain ⟨kept, source⟩ := ih (collectArticle_filed filed info)
      refine ⟨kept, ?_⟩
      rw [List.foldl_cons, source, collectArticle_source, List.any_cons]
      cases info.lists pageId <;> cases infos.any (fun info => info.lists pageId) <;> rfl

end Articles

section Categories

variable {entries : Dict Int OptOutEntry} {category : String} {pageId : Int}

theorem collectMembers (members : List CategoryMember) (filed : Filed entries) :
    Filed (members.foldl (collectMember category) entries) ∧
      sourceOf (members.foldl (collectMember category) entries) pageId =
        (sourceOf entries pageId).or
          (if members.any (fun member => member.pageId = pageId) then
            some s!"category:{category}"
          else none) := by
  induction members generalizing entries with
  | nil => exact ⟨filed, by simp⟩
  | cons member members ih =>
      have kept : Filed (collectMember category entries member) := by
        intro entry present
        rcases Table.mem_putDefault present with rfl | old
        · rfl
        · exact filed entry old
      have source : sourceOf (collectMember category entries member) pageId =
          (sourceOf entries pageId).or
            (if member.pageId = pageId then some s!"category:{category}" else none) := by
        rw [sourceOf, collectMember, Table.find_putDefault, sourceOf]
        change ((entries.find pageId).or (if member.pageId = pageId then _ else none)).map _ = _
        cases entries.find pageId with
        | some entry => rfl
        | none => by_cases same : member.pageId = pageId <;> simp [same]
      obtain ⟨filedRest, rest⟩ := ih kept
      refine ⟨filedRest, ?_⟩
      rw [List.foldl_cons, rest, source, List.any_cons, Option.or_assoc]
      by_cases same : member.pageId = pageId <;> simp [same]

variable {mediawiki : MediaWiki} {wiki : String} {limit : Int}
  {counted : String → List CategoryMember} {collected after : Collected}

theorem collectCategory_source
    (capped : ∀ category members truncated,
      mediawiki.categoryMembers wiki category limit = .ok (members, truncated) →
        members = counted category)
    {info : TitleInfo} (filed : Filed collected.entries)
    (made : collectCategory mediawiki wiki limit collected info = .ok after) :
    Filed after.entries ∧ sourceOf after.entries pageId =
      (sourceOf collected.entries pageId).or (categorySource counted pageId info) := by
  unfold collectCategory at made
  unfold categorySource TitleInfo.covers
  split at made
  · rename_i article
    cases made
    refine ⟨filed, ?_⟩
    have other : ¬ info.pageNamespace = categoryNamespace := by
      rw [article]
      decide
    simp [other]
  · split at made
    · rename_i other
      cases made
      refine ⟨filed, ?_⟩
      simp [other, Collected.skip]
    · rename_i same
      obtain ⟨⟨members, truncated⟩, answered, made⟩ := bind_eq_ok.mp made
      rw [not_not.mp same, ← capped _ _ _ answered]
      dsimp only at made
      cases made
      cases truncated <;> simpa [Collected.skip] using collectMembers members filed

theorem collectCategories
    (capped : ∀ category members truncated,
      mediawiki.categoryMembers wiki category limit = .ok (members, truncated) →
        members = counted category)
    (infos : List TitleInfo) (filed : Filed collected.entries)
    (made : infos.foldlM (collectCategory mediawiki wiki limit) collected = .ok after) :
    Filed after.entries ∧ sourceOf after.entries pageId =
      (sourceOf collected.entries pageId).or (infos.findSome? (categorySource counted pageId)) := by
  induction infos generalizing collected with
  | nil =>
      cases made
      exact ⟨filed, by simp⟩
  | cons info infos ih =>
      rw [List.foldlM_cons] at made
      obtain ⟨next, first, rest⟩ := bind_eq_ok.mp made
      obtain ⟨kept, source⟩ := @collectCategory_source pageId _ _ _ _ _ _ capped _ filed first
      obtain ⟨done, sources⟩ := ih kept rest
      refine ⟨done, ?_⟩
      rw [sources, source, Option.or_assoc, List.findSome?_cons]
      cases categorySource counted pageId info <;> simp

end Categories

def MediaWiki.listing (mediawiki : MediaWiki) (spell : Json → String)
    (categories : String → String → CategoryAnswers) : MediaWiki :=
  { mediawiki with
    categoryMembers := fun wiki category limit =>
      (categories wiki category).collect spell limit [] }

def classified (settings : Settings) (mediawiki : MediaWiki) (wiki : String) :
    Except Exn (List TitleInfo) := do
  let wikitext ← mediawiki.getWikitext wiki settings.optoutPage
  let targets := parseOptoutPage (wikitext.getD "")
  if targets.isEmpty then .ok [] else mediawiki.classifyTitles wiki targets

def counted (settings : Settings) (categories : String → CategoryAnswers) (category : String) :
    List CategoryMember :=
  (categories category).members.take settings.optoutCategoryLimit.toNat

theorem collectEntries_eq (mediawiki : MediaWiki) (wiki : String) (targets : List String)
    (limit : Int) : collectEntries mediawiki wiki targets limit =
      ((if targets.isEmpty then .ok [] else mediawiki.classifyTitles wiki targets) >>= fun infos =>
        (infos.foldlM (collectCategory mediawiki wiki limit)
          (infos.foldl collectArticle ⟨.empty, []⟩)) >>= fun collected =>
            .ok (collected.entries.rows.map Prod.snd, collected.skipped)) := by
  unfold collectEntries
  split <;> rfl

section Listed

variable {settings : Settings} {mediawiki : MediaWiki} {wiki : String}
  {counted : String → List CategoryMember} {entries : List OptOutEntry} {skipped : List String}

theorem listedEntries_sources
    (capped : ∀ category members truncated,
      mediawiki.categoryMembers wiki category settings.optoutCategoryLimit =
        .ok (members, truncated) → members = counted category)
    (listed : listedEntries settings mediawiki wiki = .ok (entries, skipped)) :
    ∃ infos, classified settings mediawiki wiki = .ok infos ∧
      (entries.map OptOutEntry.pageId).Nodup ∧
      ∀ pageId source, (∃ entry ∈ entries, entry.pageId = pageId ∧ entry.source = source) ↔
        listedSource counted infos pageId = some source := by
  obtain ⟨wikitext, answered, listed⟩ := bind_eq_ok.mp listed
  rw [collectEntries_eq] at listed
  obtain ⟨infos, resolved, listed⟩ := bind_eq_ok.mp listed
  obtain ⟨collected, made, listed⟩ := bind_eq_ok.mp listed
  cases listed
  have nothing : Filed (⟨.empty, []⟩ : Collected).entries := nofun
  have sources : ∀ pageId, Filed collected.entries ∧
      sourceOf collected.entries pageId = listedSource counted infos pageId := by
    intro pageId
    obtain ⟨first, articles⟩ := @collectArticles _ pageId infos nothing
    obtain ⟨filed, source⟩ := @collectCategories pageId _ _ _ _ _ _ capped infos first made
    refine ⟨filed, ?_⟩
    rw [source, articles, listedSource]
    cases infos.any (fun info => info.lists pageId) <;> rfl
  have filed := (sources 0).1
  refine ⟨infos, ?_, ?_, ?_⟩
  · rw [classified, answered]
    exact resolved
  · have pages : (collected.entries.rows.map Prod.snd).map OptOutEntry.pageId =
        collected.entries.rows.map Keyed.key := by
      rw [List.map_map]
      exact List.map_congr_left (fun entry member => (filed entry member).symm)
    rw [pages]
    exact collected.entries.unique
  · intro pageId source
    rw [← (sources pageId).2, sourceOf, Option.map_eq_some_iff]
    constructor
    · rintro ⟨entry, member, rfl, rfl⟩
      obtain ⟨pair, present, rfl⟩ := List.mem_map.mp member
      exact ⟨pair, Table.find_eq_some.mpr ⟨present, filed pair present⟩, rfl⟩
    · rintro ⟨pair, found, rfl⟩
      obtain ⟨present, rfl⟩ := Table.find_eq_some.mp found
      exact ⟨pair.2, List.mem_map_of_mem present, (filed pair present).symm, rfl⟩

theorem listedEntries_distinct
    (listed : listedEntries settings mediawiki wiki = .ok (entries, skipped)) :
    (entries.map OptOutEntry.pageId).Nodup := by
  have capped : ∀ category members truncated,
      mediawiki.categoryMembers wiki category settings.optoutCategoryLimit =
        .ok (members, truncated) →
        members = ((mediawiki.categoryMembers wiki category
          settings.optoutCategoryLimit).toOption.map Prod.fst).getD [] := by
    intro category members truncated answered
    rw [answered]
    rfl
  exact (listedEntries_sources capped listed).choose_spec.2.1

end Listed

structure SyncedList (settings : Settings) (infos : List TitleInfo)
    (categories : String → CategoryAnswers) (store : Store) (wiki : String) (after : Store)
    (covered added removed : Nat) : Prop where
  listed : ∀ pageId, isOptedOut after wiki pageId = true ↔
    (∃ info ∈ infos, info.lists pageId = true) ∨
      ∃ info ∈ infos, info.covers (counted settings categories) pageId = true
  ownRight : ∀ row ∈ after.pageOptout.rows, row.wiki = wiki →
    (∃ info ∈ infos, info.lists row.pageId = true) → row.source = "page"
  grouped : ∀ row ∈ after.pageOptout.rows, row.wiki = wiki →
    (∀ info ∈ infos, info.lists row.pageId = false) →
      ∃ before info rest, infos = before ++ info :: rest ∧
        (∀ other ∈ before, other.covers (counted settings categories) row.pageId = false) ∧
        info.covers (counted settings categories) row.pageId = true ∧
        row.source = s!"category:{info.title}"
  others : ∀ row : PageOptOut, row.wiki ≠ wiki →
    (row ∈ after.pageOptout.rows ↔ row ∈ store.pageOptout.rows)
  frame : after = { store with pageOptout := after.pageOptout }
  rows : covered = (after.pageOptout.rows.filter (fun row => row.wiki = wiki)).length
  counts : ((store.pageOptout.rows.filter (fun row => row.wiki = wiki)).length : Int) + added -
    removed = covered

section Sources

variable {counted : String → List CategoryMember} {infos : List TitleInfo} {pageId : Int}
  {source : String}

theorem listedSource_isSome : (listedSource counted infos pageId).isSome = true ↔
    (∃ info ∈ infos, info.lists pageId = true) ∨
      ∃ info ∈ infos, info.covers counted pageId = true := by
  rw [listedSource]
  split
  · rename_i article
    simpa using Or.inl (List.any_eq_true.mp article)
  · rename_i other
    have absent : ¬ ∃ info ∈ infos, info.lists pageId = true :=
      fun present => other (List.any_eq_true.mpr present)
    rw [List.findSome?_isSome_iff]
    simp [absent, categorySource]

theorem listedSource_page (listed : ∃ info ∈ infos, info.lists pageId = true)
    (recorded : listedSource counted infos pageId = some source) : source = "page" := by
  rw [listedSource, if_pos (List.any_eq_true.mpr listed)] at recorded
  exact (Option.some.inj recorded).symm

theorem listedSource_category (unlisted : ∀ info ∈ infos, info.lists pageId = false)
    (recorded : listedSource counted infos pageId = some source) :
    ∃ before info rest, infos = before ++ info :: rest ∧
      (∀ other ∈ before, other.covers counted pageId = false) ∧
      info.covers counted pageId = true ∧ source = s!"category:{info.title}" := by
  have absent : ¬ infos.any (fun info => info.lists pageId) = true := by
    rw [List.any_eq_true]
    rintro ⟨info, member, listed⟩
    rw [unlisted info member] at listed
    cases listed
  rw [listedSource, if_neg absent] at recorded
  obtain ⟨before, info, rest, split, found, earlier⟩ := List.findSome?_eq_some_iff.mp recorded
  refine ⟨before, info, rest, split, ?_, ?_⟩
  · intro other member
    have silent := earlier other member
    rw [categorySource] at silent
    cases covered : other.covers counted pageId with
    | false => rfl
    | true =>
        rw [covered] at silent
        cases silent
  · rw [categorySource] at found
    split at found
    · rename_i covered
      exact ⟨covered, (Option.some.inj found).symm⟩
    · cases found

end Sources

theorem syncWiki_wrote {settings : Settings} {mediawiki : MediaWiki} {store : Store}
    {wiki : String} {now : Time} {entries : List OptOutEntry} {skipped : List String}
    (listed : listedEntries settings mediawiki wiki = .ok (entries, skipped)) :
    syncWiki settings mediawiki store wiki false now =
      (.ok (entries.length, (replaceOptout store wiki entries now).1),
        (replaceOptout store wiki entries now).2) := by
  rw [syncWiki, listed]
  rfl

section Replaced

variable {settings : Settings} {infos : List TitleInfo}
  {categories : String → CategoryAnswers} {store : Store} {wiki : String} {now : Time}
  {entries : List OptOutEntry} {added removed : Nat}

/-- Replacing the wiki's rows by the entries of its list syncs it. -/
theorem replaced_synced (distinct : (entries.map OptOutEntry.pageId).Nodup)
    (sources : ∀ pageId source,
      (∃ entry ∈ entries, entry.pageId = pageId ∧ entry.source = source) ↔
        listedSource (counted settings categories) infos pageId = some source)
    (changed : (replaceOptout store wiki entries now).1 = (added, removed)) :
    SyncedList settings infos categories store wiki (replaceOptout store wiki entries now).2
      entries.length added removed := by
  have rows := @mem_replaceOptout store wiki entries now distinct
  obtain ⟨size, balance⟩ := replaceOptout_counts distinct store wiki now
  simp only [optoutKeys, Table.keysIn, List.length_map, changed] at size balance
  have reason : ∀ row ∈ (replaceOptout store wiki entries now).2.pageOptout.rows,
      row.wiki = wiki →
        listedSource (counted settings categories) infos row.pageId = some row.source := by
    intro row member inside
    rcases rows.mp member with ⟨entry, present, rfl⟩ | ⟨_, outside⟩
    · exact (sources _ _).mp ⟨entry, present, rfl, rfl⟩
    · exact absurd inside outside
  refine
    { listed := ?_, ownRight := ?_, grouped := ?_, others := ?_, frame := rfl
      rows := size.symm, counts := by omega }
  · intro pageId
    rw [← listedSource_isSome, isOptedOut]
    constructor
    · intro found
      obtain ⟨row, present⟩ := Option.isSome_iff_exists.mp found
      obtain ⟨member, same⟩ := Table.find_eq_some.mp present
      have page : row.pageId = pageId := congrArg Prod.snd same
      rw [← page, reason row member (congrArg Prod.fst same)]
      rfl
    · intro found
      obtain ⟨source, recorded⟩ := Option.isSome_iff_exists.mp found
      obtain ⟨entry, present, rfl, _⟩ := (sources pageId source).mpr recorded
      have member := rows.mpr (Or.inl ⟨entry, present, rfl⟩)
      exact Option.isSome_iff_exists.mpr ⟨_, Table.find_eq_some.mpr ⟨member, rfl⟩⟩
  · intro row member inside article
    exact listedSource_page article (reason row member inside)
  · intro row member inside unlisted
    exact listedSource_category unlisted (reason row member inside)
  · intro row outside
    exact replaceOptout_others distinct outside

end Replaced

/-- A run that raises leaves the table as it was. One that returns has made the wiki's rows
exactly what its list covers, each with the reason that comes first. -/
theorem optout_synced (settings : Settings) (mediawiki : MediaWiki) (spell : Json → String)
    (categories : String → String → CategoryAnswers) (store : Store) (wiki : String)
    (now : Time) (outcome : Except Exn (Nat × Nat × Nat)) (after : Store)
    (ran : syncWiki settings (mediawiki.listing spell categories) store wiki false now =
      (outcome, after)) :
    (∀ raised, outcome = .error raised → after = store) ∧
      ∀ covered added removed, outcome = .ok (covered, added, removed) →
        ∃ infos, classified settings mediawiki wiki = .ok infos ∧
          SyncedList settings infos (categories wiki) store wiki after covered added
            removed := by
  have capped : ∀ category members truncated,
      (mediawiki.listing spell categories).categoryMembers wiki category
        settings.optoutCategoryLimit = .ok (members, truncated) →
        members = counted settings (categories wiki) category :=
    fun _ _ _ answered => CategoryAnswers.collect_ok answered
  cases read : listedEntries settings (mediawiki.listing spell categories) wiki with
  | error raised =>
      rw [syncWiki, read] at ran
      cases ran
      refine ⟨fun _ _ => rfl, ?_⟩
      intro covered added removed answer
      cases answer
  | ok made =>
      obtain ⟨entries, skipped⟩ := made
      rw [syncWiki_wrote read] at ran
      obtain ⟨rfl, rfl⟩ := Prod.mk.inj ran
      obtain ⟨infos, resolved, distinct, sources⟩ := listedEntries_sources capped read
      refine ⟨?_, ?_⟩
      · intro raised failed
        cases failed
      · intro covered added removed answer
        obtain ⟨rfl, changed⟩ := Prod.mk.inj (Except.ok.inj answer)
        exact ⟨infos, resolved, replaced_synced distinct sources changed⟩

/-- A list of one article and one category, which a wiki answers in two batches. -/
def dupontList : MediaWiki where
  getWikitext := fun _ _ => .ok (some "* [[Jean Dupont]]\n* [[:Catégorie:Vivants]]")
  classifyTitles := fun _ _ =>
    .ok [⟨"Jean Dupont", 0, some 11⟩, ⟨"Page supprimée", 0, none⟩,
      ⟨"Discussion:Ada", 1, some 77⟩, ⟨"Catégorie:Vivants", 14, some 99⟩]
  categoryMembers := fun _ _ _ => .ok ([], false)

def dupontStore : Store :=
  { Store.empty with
    pageOptout := (Table.empty.put ⟨"frwiki", 13, "Avant", "page", 0⟩).put
      ⟨"dewiki", 11, "Jemand", "page", 0⟩ }

/-- The members of the category, the first of them listed by itself too. -/
def vivants : CategoryAnswers := .more [⟨11, "Jean Dupont"⟩] (.last [⟨12, "Marie"⟩])

theorem optout_synced_dupont :
    ∃ infos after,
      syncWiki fromEnv (dupontList.listing (fun _ => "") (fun _ _ => vivants)) dupontStore "frwiki"
        false 5 = (.ok (2, 2, 1), after) ∧
      classified fromEnv dupontList "frwiki" = .ok infos ∧
      SyncedList fromEnv infos (fun _ => vivants) dupontStore "frwiki" after 2 2 1 := by
  have ran : ∃ after, syncWiki fromEnv (dupontList.listing (fun _ => "") (fun _ _ => vivants))
      dupontStore "frwiki" false 5 = (.ok (2, 2, 1), after) := ⟨_, rfl⟩
  obtain ⟨after, returned⟩ := ran
  obtain ⟨infos, resolved, synced⟩ := (optout_synced fromEnv dupontList (fun _ => "")
    (fun _ _ => vivants) dupontStore "frwiki" 5 _ _ returned).2 2 2 1 rfl
  exact ⟨infos, after, returned, resolved, synced⟩

end WikiPeople
