import WikiPeople.Listings
import WikiPeople.OptoutSync

/-! The loop of the opt-out job: which lists stop it. -/

namespace WikiPeople

open Relational

/-- One wiki's turn: what MediaWiki answers in it, and when its rows are written. -/
structure Turn where
  wiki : String
  mediawiki : MediaWiki
  now : Time

structure OptoutRun where
  store : Store
  covered : Nat
  processed : List String
  escaped : Option Exn

/-- The body of the loop. A `WikiPeopleError` is logged and the wiki keeps its list. -/
def takeTurn (settings : Settings) (dryRun : Bool) (run : OptoutRun) (turn : Turn) : OptoutRun :=
  let (outcome, after) := syncWiki settings turn.mediawiki run.store turn.wiki dryRun turn.now
  match outcome with
  | .ok (covered, _) =>
      { run with
        store := after
        covered := run.covered + covered
        processed := run.processed ++ [turn.wiki] }
  | .error (.known _ _) =>
      { run with store := after, processed := run.processed ++ [turn.wiki] }
  | .error (.unexpected message) =>
      { run with store := after, escaped := some (.unexpected message) }

/-- An exception that the loop does not catch ends the job. -/
def optoutJob (settings : Settings) (dryRun : Bool) : OptoutRun → List Turn → OptoutRun
  | run, [] => run
  | run, turn :: turns =>
      let next := takeTurn settings dryRun run turn
      if next.escaped.isSome then next else optoutJob settings dryRun next turns

def OptoutRun.start (store : Store) : OptoutRun := ⟨store, 0, [], none⟩

def escapes {Value : Type} : Except Exn Value → Bool
  | .error (.unexpected _) => true
  | _ => false

section Escapes

variable {First Second : Type}

@[simp] theorem escapes_map (outcome : Except Exn First) (change : First → Second) :
    escapes (outcome.map change) = escapes outcome := by
  cases outcome with
  | error raised => cases raised <;> rfl
  | ok value => rfl

@[simp] theorem escapes_failure (spell : Json → String) (failure : Failure) :
    escapes (.error (failure.exn spell) : Except Exn First) = false := by
  cases failure <;> rfl

theorem host_expected (languages : List String) (wiki : String) :
    (isCapable languages wiki = true ∧ ∃ code, host languages wiki = .ok code) ∨
      (isCapable languages wiki = false ∧
        ∃ message, host languages wiki = .error (.known .permanentData message)) := by
  rw [isCapable, host, requireLanguage]
  cases language languages wiki with
  | none => exact Or.inr ⟨rfl, _, rfl⟩
  | some code => exact Or.inl ⟨rfl, _, rfl⟩

end Escapes

def RowsKept (before : Store) (wiki : String) (after : Store) : Prop :=
  ∀ row : PageOptOut, row.wiki = wiki →
    (row ∈ after.pageOptout.rows ↔ row ∈ before.pageOptout.rows)

/-- The wiki's rows are those of the list that was read in this turn. -/
def RowsMatch (settings : Settings) (turn : Turn) (after : Store) : Prop :=
  ∃ entries skipped,
    listedEntries settings turn.mediawiki turn.wiki = .ok (entries, skipped) ∧
      ∀ row : PageOptOut, row.wiki = turn.wiki →
        (row ∈ after.pageOptout.rows ↔
          ∃ entry ∈ entries, row = optoutRow turn.wiki turn.now entry)

/-- Every wiki has had its turn, and each has its own list or the rows it had. -/
structure Isolated (settings : Settings) (store : Store) (turns : List Turn)
    (run : OptoutRun) : Prop where
  processed : run.processed = turns.map Turn.wiki
  returned : run.escaped = none
  settled : ∀ wiki, RowsKept store wiki run.store ∨
    ∃ turn ∈ turns, turn.wiki = wiki ∧ RowsMatch settings turn run.store

section Loop

variable {settings : Settings} {dryRun : Bool} {run : OptoutRun} {turn : Turn}
  {turns : List Turn}

def Turn.escapes (settings : Settings) (turn : Turn) : Bool :=
  WikiPeople.escapes (listedEntries settings turn.mediawiki turn.wiki)

theorem turn_rows (store : Store) :
    let after := (syncWiki settings turn.mediawiki store turn.wiki dryRun turn.now).2
    (∀ wiki, RowsKept store wiki after) ∨
      (RowsMatch settings turn after ∧ ∀ wiki, turn.wiki ≠ wiki → RowsKept store wiki after) := by
  intro after
  cases read : listedEntries settings turn.mediawiki turn.wiki with
  | error raised =>
      have same : after = store := syncWiki_raised read
      rw [same]
      exact Or.inl (fun _ _ _ => Iff.rfl)
  | ok made =>
      obtain ⟨entries, skipped⟩ := made
      have wrote := @syncWiki_listed settings turn.mediawiki store turn.wiki dryRun turn.now
        entries skipped read
      cases dryRun with
      | true =>
          have same : after = store := wrote
          rw [same]
          exact Or.inl (fun _ _ _ => Iff.rfl)
      | false =>
          have same : after = (replaceOptout store turn.wiki entries turn.now).2 := wrote
          have rows := @mem_replaceOptout store turn.wiki entries turn.now
            (listedEntries_distinct read)
          rw [same]
          refine Or.inr ⟨⟨entries, skipped, read, ?_⟩, ?_⟩
          · intro row inside
            rw [rows]
            simp [inside]
          · intro wiki other row inside
            exact replaceOptout_others (listedEntries_distinct read)
              (fun same => other (same.symm.trans inside))

theorem takeTurn_store : (takeTurn settings dryRun run turn).store =
    (syncWiki settings turn.mediawiki run.store turn.wiki dryRun turn.now).2 := by
  unfold takeTurn
  split
  rename_i outcome after synced
  rw [synced]
  split <;> rfl

theorem takeTurn_escapes (running : run.escaped = none) :
    (turn.escapes settings = false ∧
        (takeTurn settings dryRun run turn).processed = run.processed ++ [turn.wiki] ∧
        (takeTurn settings dryRun run turn).escaped = none) ∨
      (turn.escapes settings = true ∧
        (takeTurn settings dryRun run turn).escaped.isSome = true) := by
  rw [takeTurn, Turn.escapes, syncWiki]
  cases read : listedEntries settings turn.mediawiki turn.wiki with
  | error raised =>
      cases raised with
      | known kind message => exact Or.inl ⟨rfl, rfl, running⟩
      | unexpected message => exact Or.inr ⟨rfl, rfl⟩
  | ok made => cases dryRun <;> exact Or.inl ⟨rfl, rfl, running⟩

theorem optoutJob_processed (turns : List Turn) (running : run.escaped = none) :
    ((optoutJob settings dryRun run turns).processed = run.processed ++ turns.map Turn.wiki ∧
      (optoutJob settings dryRun run turns).escaped = none) ↔
        ∀ turn ∈ turns, turn.escapes settings = false := by
  induction turns generalizing run with
  | nil => simp [optoutJob, running]
  | cons turn turns ih =>
      rw [optoutJob, List.forall_mem_cons]
      rcases @takeTurn_escapes settings dryRun run turn running with
        ⟨expected, processed, returned⟩ | ⟨escaped, stopped⟩
      · rw [returned, ← ih returned, processed]
        simp [expected]
      · rw [if_pos stopped, escaped, ← Option.not_isSome_iff_eq_none, stopped]
        simp

/-- However far the loop comes, every wiki's rows are kept or match a list that was read. -/
theorem optoutJob_settled (turns : List Turn) (wiki : String) :
    RowsKept run.store wiki (optoutJob settings dryRun run turns).store ∨
      ∃ turn ∈ turns, turn.wiki = wiki ∧
        RowsMatch settings turn (optoutJob settings dryRun run turns).store := by
  induction turns generalizing run with
  | nil => exact Or.inl (fun _ _ => Iff.rfl)
  | cons turn turns ih =>
      have first := @turn_rows settings dryRun turn run.store
      rw [← takeTurn_store] at first
      -- The rows of the wiki after this turn.
      have once : RowsKept run.store wiki (takeTurn settings dryRun run turn).store ∨
          (turn.wiki = wiki ∧
            RowsMatch settings turn (takeTurn settings dryRun run turn).store) := by
        rcases first with same | ⟨matched, others⟩
        · exact Or.inl (same wiki)
        · by_cases own : turn.wiki = wiki
          · exact Or.inr ⟨own, matched⟩
          · exact Or.inl (others wiki own)
      rw [optoutJob]
      split
      · rcases once with same | ⟨own, matched⟩
        · exact Or.inl same
        · exact Or.inr ⟨turn, List.mem_cons_self, own, matched⟩
      · rcases @ih (takeTurn settings dryRun run turn) with
          kept | ⟨later, member, inside, matched⟩
        · rcases once with same | ⟨own, entries, skipped, read, rows⟩
          · exact Or.inl (fun row inside => (kept row inside).trans (same row inside))
          · refine Or.inr ⟨turn, List.mem_cons_self, own, entries, skipped, read, ?_⟩
            intro row inside
            exact (kept row (inside.trans own)).trans (rows row inside)
        · exact Or.inr ⟨later, List.mem_cons_of_mem turn member, inside, matched⟩

end Loop

/-- The longest title of MediaWiki, in bytes. -/
def maxTitleBytes : Nat := 255

/-- What MediaWiki answers in one wiki's turn, in the shapes it documents. -/
structure Visit where
  wiki : String
  answer : Params → Answer
  categories : String → CategoryAnswers
  now : Time
  titled : ∀ params objects, answer params = .pages objects → ∀ object ∈ objects,
    ∀ info ∈ object.info?, FormEncoding.byteCount info.title ≤ maxTitleBytes

/-- A batch of titles makes an overlong query or is answered with a special page, and every
batch before it is sent and answered. -/
def meetsStop (answer : Params → Answer) : List (List String) → Bool
  | [] => false
  | titles :: batches =>
      overlong (payload (titlesParams titles)) ||
        match answer (payload (titlesParams titles)) with
        | .failed _ => false
        | .pages objects => objects.any PageObject.isSpecial || meetsStop answer batches

namespace Visit

variable (languages : List String) (spell : Json → String) (readText : String → Option Int)
  (settings : Settings) (visit : Visit)

def mediawiki : MediaWiki :=
  let client := answering languages spell visit.answer
  { getWikitext := client.getWikitext
    classifyTitles := client.classifyTitles readText
    categoryMembers := fun _ category limit =>
      if 0 < limit ∧ overlong (payload (categoryParams category)) then
        .error (.unexpected "InvalidURL")
      else (visit.categories category).collect spell limit [] }

def turn : Turn where
  wiki := visit.wiki
  mediawiki := visit.mediawiki languages spell readText
  now := visit.now

def listText : String :=
  match visit.answer (payload (wikitextParams settings.optoutPage)) with
  | .failed _ => ""
  | .pages objects => (objects.head?.bind PageObject.content).getD ""

/-- A bullet on the list links to a special page, as MediaWiki resolves it, or fifty of them are
too long to be sent, or already the name of the list page is. -/
def listStops : Bool :=
  isCapable languages visit.wiki &&
    (overlong (payload (wikitextParams settings.optoutPage)) ||
      meetsStop visit.answer ((parseOptoutPage (visit.listText settings)).toChunks 50))

end Visit

section Visits

variable {languages : List String} {spell : Json → String} {readText : String → Option Int}
  {settings : Settings} {visit : Visit}

theorem classifyTitles_escapes (capable : isCapable languages visit.wiki = true)
    (titles : List String) :
    escapes ((answering languages spell visit.answer).classifyTitles readText visit.wiki
      titles) = meetsStop visit.answer (titles.toChunks 50) := by
  obtain ⟨_, code, served⟩ | ⟨unserved, _⟩ := host_expected languages visit.wiki
  · rw [Client.classifyTitles, escapes_map]
    induction titles.toChunks 50 with
    | nil => rfl
    | cons batch batches ih =>
        rw [List.mapM_cons, classifyBatch_answering, served, meetsStop, documentedPages]
        cases overlong (payload (titlesParams batch)) with
        | true => rfl
        | false =>
            rw [if_neg Bool.false_ne_true, Bool.false_or]
            cases visit.answer (payload (titlesParams batch)) with
            | failed failure => cases failure <;> rfl
            | pages objects =>
                dsimp only [Answer.read, Except.bind]
                cases objects.any PageObject.isSpecial with
                | true => rfl
                | false => exact (escapes_map _ _).trans ih
  · rw [capable] at unserved
    cases unserved

theorem category_sent {title : String}
    (short : FormEncoding.byteCount title ≤ maxTitleBytes) :
    overlong (payload (categoryParams title)) = false := by
  have fixed : FormEncoding.width "format" + FormEncoding.width "json" = 10 ∧
      FormEncoding.width "formatversion" + FormEncoding.width "2" = 14 ∧
      FormEncoding.width "action" + FormEncoding.width "query" = 11 ∧
      FormEncoding.width "list" + FormEncoding.width "categorymembers" = 19 ∧
      FormEncoding.width "cmtitle" = 7 ∧
      FormEncoding.width "cmnamespace" + FormEncoding.width "0" = 12 ∧
      FormEncoding.width "cmlimit" + FormEncoding.width "max" = 10 ∧
      FormEncoding.width "cmprop" + FormEncoding.width "ids|title" = 17 := by decide
  have bytes := FormEncoding.width_le title
  have query := @FormEncoding.length_urlencode (payload (categoryParams title))
    (List.cons_ne_nil _ _)
  simp only [payload, categoryParams, List.map_cons, List.map_nil, List.sum_cons,
    List.sum_nil] at query
  refine decide_eq_false ?_
  rw [maxTitleBytes] at short
  rw [payload, categoryParams, maxQueryLength]
  omega

theorem classifyTitles_titled {titles : List String} {infos : List TitleInfo}
    (classified : (answering languages spell visit.answer).classifyTitles readText visit.wiki
      titles = .ok infos) :
    ∀ info ∈ infos, FormEncoding.byteCount info.title ≤ maxTitleBytes := by
  rw [Client.classifyTitles] at classified
  obtain ⟨parts, read, rfl⟩ := map_eq_ok.mp classified
  intro info member
  obtain ⟨part, inside, listed⟩ := List.mem_flatten.mp member
  obtain ⟨batch, _, answer⟩ := (mem_mapM read).mp inside
  rw [classifyBatch_answering] at answer
  obtain ⟨_, _, answer⟩ := bind_eq_ok.mp answer
  obtain ⟨objects, heard, answer⟩ := bind_eq_ok.mp answer
  have pages : visit.answer (payload (titlesParams batch)) = .pages objects := by
    unfold documentedPages at heard
    split at heard
    · cases heard
    · cases sent : visit.answer (payload (titlesParams batch)) with
      | failed failure =>
          rw [sent] at heard
          cases heard
      | pages others =>
          rw [sent] at heard
          cases heard
          rfl
  split at answer
  · cases answer
  · cases answer
    obtain ⟨object, present, found⟩ := List.mem_filterMap.mp listed
    exact visit.titled _ objects pages object present info found

theorem collectCategories_escapes (infos : List TitleInfo)
    (short : ∀ info ∈ infos, FormEncoding.byteCount info.title ≤ maxTitleBytes)
    (collected : Collected) :
    escapes (infos.foldlM (collectCategory (visit.mediawiki languages spell readText) visit.wiki
      settings.optoutCategoryLimit) collected) = false := by
  induction infos generalizing collected with
  | nil => rfl
  | cons info infos ih =>
      have rest := ih fun other later => short other (List.mem_cons_of_mem info later)
      have asked : (visit.mediawiki languages spell readText).categoryMembers visit.wiki
          info.title settings.optoutCategoryLimit = (visit.categories info.title).collect spell
            settings.optoutCategoryLimit [] := by
        refine if_neg ?_
        rintro ⟨_, long⟩
        rw [category_sent (short info List.mem_cons_self)] at long
        cases long
      rw [List.foldlM_cons]
      cases made : collectCategory (visit.mediawiki languages spell readText) visit.wiki
          settings.optoutCategoryLimit collected info with
      | ok next => exact rest next
      | error raised =>
          obtain ⟨failure, rfl⟩ : ∃ failure : Failure, raised = failure.exn spell := by
            unfold collectCategory at made
            rw [asked] at made
            split at made
            · cases made
            · split at made
              · cases made
              · cases answered : (visit.categories info.title).collect spell
                    settings.optoutCategoryLimit [] with
                | ok members =>
                    rw [answered] at made
                    cases made
                | error failed =>
                    rw [answered] at made
                    cases made
                    exact CategoryAnswers.collect_failed answered
          exact escapes_failure spell failure

theorem targets_escape (capable : isCapable languages visit.wiki = true)
    (targets : List String) :
    escapes (collectEntries (visit.mediawiki languages spell readText) visit.wiki targets
      settings.optoutCategoryLimit) = meetsStop visit.answer (targets.toChunks 50) := by
  rw [collectEntries_eq]
  have classified := @classifyTitles_escapes languages spell readText visit capable targets
  cases targets with
  | nil => rfl
  | cons target targets =>
      rw [← classified, List.isEmpty_cons, if_neg Bool.false_ne_true]
      change escapes ((answering languages spell visit.answer).classifyTitles readText
        visit.wiki (target :: targets) >>= _) = _
      cases read : (answering languages spell visit.answer).classifyTitles readText visit.wiki
          (target :: targets) with
      | error raised => cases raised <;> rfl
      | ok infos =>
          apply (escapes_map _ _).trans
          exact collectCategories_escapes infos (classifyTitles_titled read) _

theorem turn_escapes :
    (visit.turn languages spell readText).escapes settings =
      visit.listStops languages settings := by
  unfold Turn.escapes Visit.listStops listedEntries
  change escapes ((answering languages spell visit.answer).getWikitext visit.wiki
    settings.optoutPage >>= _) = _
  rw [getWikitext_answering]
  obtain ⟨capable, code, served⟩ | ⟨unserved, message, failed⟩ :=
    host_expected languages visit.wiki
  · rw [served, capable, Bool.true_and, Visit.listText, documentedPages]
    cases overlong (payload (wikitextParams settings.optoutPage)) with
    | true => rfl
    | false =>
        rw [if_neg Bool.false_ne_true, Bool.false_or]
        cases visit.answer (payload (wikitextParams settings.optoutPage)) with
        | failed failure => cases failure <;> rfl
        | pages objects => exact targets_escape capable _
  · rw [failed, unserved]
    rfl

end Visits

/-- The job gets through its wikis, and each of them ends with its own list or its previous
rows, exactly where no list stops it: with a link to a special page, whose page object has no
page id and is not missing, or with links too long to be sent. Neither the `KeyError` nor the
`InvalidURL` is one of the errors the loop catches. -/
theorem optout_isolated (languages : List String) (spell : Json → String)
    (readText : String → Option Int) (settings : Settings) (dryRun : Bool) (store : Store)
    (visits : List Visit) :
    Isolated settings store (visits.map (Visit.turn languages spell readText))
        (optoutJob settings dryRun (.start store)
          (visits.map (Visit.turn languages spell readText))) ↔
      ∀ visit ∈ visits, visit.listStops languages settings = false := by
  have ended := @optoutJob_processed settings dryRun (.start store)
    (visits.map (Visit.turn languages spell readText)) rfl
  rw [List.forall_mem_map] at ended
  simp only [turn_escapes] at ended
  rw [← ended]
  constructor
  · intro isolated
    exact ⟨isolated.processed, isolated.returned⟩
  · rintro ⟨processed, returned⟩
    exact ⟨processed, returned, optoutJob_settled _⟩

/-- The list of dewiki links to "Special:Version"; the page of frwiki is missing. -/
def versionVisits : List Visit :=
  [{ wiki := "dewiki"
     answer := fun params =>
       if params.lookup "redirects" = some "1" then
         .pages [.special (-1) (by decide) "Spezial:Version"]
       else .pages [.existing 7 4 "Projekt:WikiPeople" [some "* [[Special:Version]]"]]
     categories := fun _ => .last []
     now := 5
     titled := by
       intro params objects answered object listed info found
       split at answered <;> cases answered <;> cases List.mem_singleton.mp listed <;>
         cases found
       decide },
   { wiki := "frwiki"
     answer := fun _ => .pages [.missing 4 "Projet:WikiPeople"]
     categories := fun _ => .last []
     now := 6
     titled := by
       intro params objects answered object listed info found
       cases answered
       cases List.mem_singleton.mp listed
       cases found
       decide }]

theorem optout_stopped :
    ¬ ∀ (languages : List String) (spell : Json → String) (readText : String → Option Int)
        (settings : Settings) (dryRun : Bool) (store : Store) (visits : List Visit),
      Isolated settings store (visits.map (Visit.turn languages spell readText))
        (optoutJob settings dryRun (.start store)
          (visits.map (Visit.turn languages spell readText))) := by
  intro claimed
  have isolated := claimed defaultWikiwhoLanguages (fun _ => "") (fun _ => none) fromEnv false
    .empty versionVisits
  exact absurd isolated.processed (by decide +kernel)

end WikiPeople
