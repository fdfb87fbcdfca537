import WikiPeople.Clients
import WikiPeople.System

/-! The opt-out job: the on-wiki list page becomes rows of `page_optout`. -/

namespace WikiPeople

open Relational

def articleNamespace : Int := 0

def categoryNamespace : Int := 14

/-- `^\s*\*+\s*\[\[\s*([^\]|#\n]*)`, matched at the start of a line: its group. Up to the
brackets no character can stand in two neighbouring parts, and the group may be empty, so the
first try of a greedy matcher is never taken back. -/
def bulletLink (line : List Char) : Option (List Char) :=
  match line.dropWhile Text.isSpace with
  | '*' :: rest =>
      match (rest.dropWhile (· = '*')).dropWhile Text.isSpace with
      | '[' :: '[' :: link =>
          some ((link.dropWhile Text.isSpace).takeWhile
            (fun char => !(char = ']' || char = '|' || char = '#' || char = '\n')))
      | _ => none
  | _ => none

/-- A leading colon is how a category is linked rather than joined. -/
def linkTarget (link : List Char) : List Char :=
  Text.replaceChar '_' ' ' (Text.strip (Text.lstripChar ':' (Text.strip link)))

def listTarget (targets : List String) (line : List Char) : List String :=
  match bulletLink line with
  | none => targets
  | some link =>
      let target := String.ofList (linkTarget link)
      if target ≠ "" ∧ target ∉ targets then targets ++ [target] else targets

/-- The link targets listed as bullets, deduplicated, in page order. -/
def parseOptoutPage (wikitext : String) : List String :=
  (Text.splitlines (Text.removeSpans "<!--" "-->" wikitext.toList)).foldl listTarget []

example : parseOptoutPage "** [[:Page_X|nom]] <!--\n* [[Non]] -->\n[[Sans puce]]\n* [[Page X]]" =
    ["Page X"] := by decide

/-- What the job asks of MediaWiki. Every call may answer anything or raise. -/
structure MediaWiki where
  getWikitext : (wiki title : String) → Except Exn (Option String)
  classifyTitles : (wiki : String) → (titles : List String) → Except Exn (List TitleInfo)
  categoryMembers : (wiki category : String) → (limit : Int) →
    Except Exn (List CategoryMember × Bool)

structure Collected where
  entries : Dict Int OptOutEntry
  skipped : List String

def Collected.skip (collected : Collected) (note : String) : Collected :=
  { collected with skipped := collected.skipped ++ [note] }

def collectArticle (collected : Collected) (info : TitleInfo) : Collected :=
  if info.pageNamespace ≠ articleNamespace then collected
  else
    match info.pageId with
    | none => collected.skip s!"{info.title} (page inexistante)"
    | some pageId =>
        { collected with
          entries := collected.entries.put
            (pageId, { pageId := pageId, title := info.title, source := "page" }) }

def collectMember (category : String) (entries : Dict Int OptOutEntry)
    (member : CategoryMember) : Dict Int OptOutEntry :=
  entries.putDefault
    (member.pageId,
      { pageId := member.pageId
        title := member.title
        source := s!"category:{category}" })

def collectCategory (mediawiki : MediaWiki) (wiki : String) (categoryLimit : Int)
    (collected : Collected) (info : TitleInfo) : Except Exn Collected :=
  if info.pageNamespace = articleNamespace then .ok collected
  else if info.pageNamespace ≠ categoryNamespace then
    .ok (collected.skip s!"{info.title} (espace de noms {info.pageNamespace}, ignoré)")
  else do
    let (members, truncated) ← mediawiki.categoryMembers wiki info.title categoryLimit
    let noted := if truncated then
        collected.skip s!"{info.title} (plus de {categoryLimit} articles, liste tronquée)"
      else collected
    .ok { noted with entries := members.foldl (collectMember info.title) noted.entries }

/-- The articles the targets cover. Articles come before categories, so that a page listed
in its own right keeps that as its recorded source. -/
def collectEntries (mediawiki : MediaWiki) (wiki : String) (targets : List String)
    (categoryLimit : Int) : Except Exn (List OptOutEntry × List String) := do
  let infos ← if targets.isEmpty then .ok [] else mediawiki.classifyTitles wiki targets
  let articles := infos.foldl collectArticle ⟨.empty, []⟩
  let collected ← infos.foldlM (collectCategory mediawiki wiki categoryLimit) articles
  .ok (collected.entries.rows.map Prod.snd, collected.skipped)

/-- What the list page of a wiki covers. No page at all means that nobody has opted out. -/
def listedEntries (settings : Settings) (mediawiki : MediaWiki) (wiki : String) :
    Except Exn (List OptOutEntry × List String) := do
  let wikitext ← mediawiki.getWikitext wiki settings.optoutPage
  collectEntries mediawiki wiki (parseOptoutPage (wikitext.getD ""))
    settings.optoutCategoryLimit

/-- The counts of covered, added and removed articles, or what was raised, with the store
that is left. -/
def syncWiki (settings : Settings) (mediawiki : MediaWiki) (store : Store) (wiki : String)
    (dryRun : Bool) (now : Time) : Except Exn (Nat × Nat × Nat) × Store :=
  match listedEntries settings mediawiki wiki with
  | .error raised => (.error raised, store)
  | .ok (entries, _) =>
      if dryRun then (.ok (entries.length, 0, 0), store)
      else
        let ((added, removed), after) := replaceOptout store wiki entries now
        (.ok (entries.length, added, removed), after)

def MediaWiki.reading (mediawiki : MediaWiki) (client : Client) : MediaWiki :=
  { mediawiki with getWikitext := client.getWikitext }

section Silence

variable {settings : Settings} {mediawiki : MediaWiki} {store : Store} {wiki : String}
  {dryRun : Bool} {now : Time}

theorem parseOptoutPage_empty : parseOptoutPage "" = [] := rfl

theorem listedEntries_sourceRead
    (read : sourceRead (mediawiki.getWikitext wiki settings.optoutPage) = some "") :
    listedEntries settings mediawiki wiki = .ok ([], []) := by
  rw [listedEntries]
  cases answered : mediawiki.getWikitext wiki settings.optoutPage with
  | error raised =>
      rw [answered] at read
      cases read
  | ok source =>
      rw [answered] at read
      have empty : source.getD "" = "" := Option.some.inj read
      simp only [bind, Except.bind, empty, parseOptoutPage_empty]
      rfl

theorem listedEntries_raised
    (read : sourceRead (mediawiki.getWikitext wiki settings.optoutPage) = none) :
    ∃ raised, listedEntries settings mediawiki wiki = .error raised := by
  rw [listedEntries]
  cases answered : mediawiki.getWikitext wiki settings.optoutPage with
  | error raised => exact ⟨raised, rfl⟩
  | ok source =>
      rw [answered] at read
      cases read

theorem syncWiki_raised {raised : Exn}
    (failed : listedEntries settings mediawiki wiki = .error raised) :
    (syncWiki settings mediawiki store wiki dryRun now).2 = store := by
  rw [syncWiki, failed]

theorem syncWiki_listed {entries : List OptOutEntry} {skipped : List String}
    (listed : listedEntries settings mediawiki wiki = .ok (entries, skipped)) :
    (syncWiki settings mediawiki store wiki dryRun now).2 =
      if dryRun then store else (replaceOptout store wiki entries now).2 := by
  rw [syncWiki, listed]
  cases dryRun <;> rfl

theorem syncWiki_step (runtime : Runtime) (system : System) :
    (syncWiki settings mediawiki system.store wiki dryRun system.now).2 = system.store ∨
      ∃ entries, step runtime system (.replaceOptout wiki entries) =
        some { system with
          store := (syncWiki settings mediawiki system.store wiki dryRun system.now).2 } := by
  cases collected : listedEntries settings mediawiki wiki with
  | error raised => exact Or.inl (syncWiki_raised collected)
  | ok listed =>
      rw [syncWiki_listed collected]
      cases dryRun with
      | true => exact Or.inl rfl
      | false => exact Or.inr ⟨listed.1, rfl⟩

end Silence

/-- Unless the answer says that the list page is gone or carries its text, the stored list
stays as it is. -/
def ListKept (settings : Settings) (mediawiki : MediaWiki) (client : Client) (store : Store)
    (wiki : String) (dryRun : Bool) (now : Time) : Prop :=
  (client.answer wiki settings.optoutPage).any saysGone = false →
    (client.answer wiki settings.optoutPage).any carriesText = false →
      (syncWiki settings (mediawiki.reading client) store wiki dryRun now).2.pageOptout =
        store.pageOptout

/-- An answer without the text keeps the stored list exactly where reading it raises, where
nothing is written, or where the wiki has no row to lose. -/
theorem list_kept_iff (settings : Settings) (mediawiki : MediaWiki) (client : Client)
    (store : Store) (wiki : String) (dryRun : Bool) (now : Time) :
    ListKept settings mediawiki client store wiki dryRun now ↔
      (client.answer wiki settings.optoutPage).any saysGone = true ∨
        (client.answer wiki settings.optoutPage).any carriesText = true ∨
          (client.answer wiki settings.optoutPage).any legible = false ∨
            dryRun = true ∨ ∀ row ∈ store.pageOptout.rows, row.wiki ≠ wiki := by
  cases gone : (client.answer wiki settings.optoutPage).any saysGone with
  | true =>
      refine ⟨fun _ => Or.inl rfl, fun _ present => ?_⟩
      rw [gone] at present
      cases present
  | false =>
      cases text : (client.answer wiki settings.optoutPage).any carriesText with
      | true =>
          refine ⟨fun _ => Or.inr (Or.inl rfl), fun _ _ silent => ?_⟩
          rw [text] at silent
          cases silent
      | false =>
          have read := getWikitext_silent client wiki settings.optoutPage gone text
          have kept : ListKept settings mediawiki client store wiki dryRun now ↔
              (syncWiki settings (mediawiki.reading client) store wiki dryRun now).2.pageOptout =
                store.pageOptout :=
            ⟨fun keeps => keeps gone text, fun same _ _ => same⟩
          rw [kept]
          cases readable : (client.answer wiki settings.optoutPage).any legible with
          | false =>
              rw [readable] at read
              obtain ⟨raised, failed⟩ :=
                @listedEntries_raised settings (mediawiki.reading client) wiki read
              rw [syncWiki_raised failed]
              simp
          | true =>
              rw [readable] at read
              have listed :=
                @listedEntries_sourceRead settings (mediawiki.reading client) wiki read
              rw [syncWiki_listed listed]
              cases dryRun with
              | true => simp
              | false => simpa using replaceOptout_empty_iff

/-- The text of the list page's revision is hidden: its main slot has no content field. -/
def hiddenText : Json :=
  .obj [("query", .obj [("pages", .arr [.obj [("pageid", .int 7), ("ns", .int 4),
    ("title", .str "Project:WikiPeople/opt-out"),
    ("revisions", .arr [.obj [("slots", .obj [("main", .obj
      [("contentmodel", .str "wikitext"), ("texthidden", .bool true)])])]])]])])]

theorem list_lost :
    ¬ ∀ (settings : Settings) (mediawiki : MediaWiki) (client : Client) (store : Store)
        (wiki : String) (dryRun : Bool) (now : Time),
      ListKept settings mediawiki client store wiki dryRun now := by
  intro claimed
  have kept := claimed fromEnv
    ⟨fun _ _ => .ok none, fun _ _ => .ok [], fun _ _ _ => .ok ([], false)⟩
    ⟨defaultWikiwhoLanguages, fun _ => "", fun _ _ => .ok hiddenText⟩
    { Store.empty with pageOptout := Table.empty.put ⟨"frwiki", 11, "Jean Dupont", "page", 0⟩ }
    "frwiki" false 900000000 (by decide) (by decide)
  exact absurd (congrArg Table.rows kept) (by decide)

end WikiPeople
