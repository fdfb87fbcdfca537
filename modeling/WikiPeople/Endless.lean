import WikiPeople.Listings

/-! Which streams of answers a listing is read to the end of: only the count of bots is bounded
by its requests. -/

namespace WikiPeople

open Relational Paging

/-- What comes of the requests of a call, whatever they ask: answers, or errors, of which one is
that the HTTP client builds no such request. -/
def streamed (languages : List String) (spell : Json → String)
    (answers : Nat → Except SendError Json) : Session :=
  ⟨languages, spell, fun asked _ _ => answers asked⟩

def received (spell : Json → String) : Except SendError Json → Except Exn Json
  | .error (.unavailable reason) =>
      .error (.known .retryableUpstream s!"Action API indisponible : {reason}")
  | .error .invalidUrl => .error (.unexpected "InvalidURL")
  | .ok data => checkError spell data

/-- The answer has a continuation that a request can carry. Where the HTTP client refuses to send
that request, the answer to it is an error. -/
def leadsOn (data : Json) : Bool :=
  (data.field "continue").any (fun next => next.isObject && next.truthy)

/-- How many members an answer delivers; `none` where it is the last or cannot be read. -/
def categoryPart (spell : Json → String) (readText : String → Option Int)
    (answer : Except SendError Json) : Option Nat := do
  let data ← (received spell answer).toOption
  let batch ← (readMembers spell readText data).toOption
  if leadsOn data then some batch.length else none

/-- The accounts of the revisions of a page, 0 where a revision has none. -/
def pageUsers (readText : String → Option Int) (page : Json) : Except Exn (List Int) := do
  let revisions ← (page.get "revisions" (.arr [])).mapError raised
  let items ← revisions.items.mapError raised
  items.mapM (revisionUser readText)

/-- The accounts of the revisions an answer lists; `none` where it has no page. -/
def listedUsers (readText : String → Option Int) (data : Json) :
    Except Exn (Option (List Int)) := do
  let pages ← (data.getPath ["query", "pages"] (.arr [])).mapError raised
  if !pages.truthy then .ok none
  else
    let page ← pages.getFirst.mapError raised
    let users ← pageUsers readText page
    .ok (some users)

def historyPart (spell : Json → String) (readText : String → Option Int)
    (answer : Except SendError Json) : Option Nat := do
  let data ← (received spell answer).toOption
  let listed ← (listedUsers readText data).toOption
  let users ← listed
  if leadsOn data then some users.length else none

def delivered (parts : Nat → Option Nat) : Nat → Nat
  | 0 => 0
  | place + 1 => delivered parts place + (parts place).getD 0

/-- A part is the last or cannot be read, or the parts before it reach the limit. -/
def Closes (limit : Int) (parts : Nat → Option Nat) : Prop :=
  ∃ place, parts place = none ∨ limit ≤ delivered parts place

section Streams

variable {languages : List String} {spell : Json → String} {readText : String → Option Int}
  {wiki code category : String} {pageId limit : Int} {answers : Nat → Except SendError Json}

theorem continued_object (spell : Json → String) (params : Params)
    (fields : List (String × Json)) :
    ∃ request, continued spell params (.obj fields) = .ok request := ⟨_, rfl⟩

theorem ask_streamed (known : host languages wiki = .ok code) (params : Params) (asked : Nat)
    (fields : List (String × Json)) :
    (streamed languages spell answers).ask wiki params asked (.obj fields) =
      received spell (answers asked) := by
  obtain ⟨request, merged⟩ := continued_object spell params fields
  exact @ask_continued (streamed languages spell answers) wiki code params known asked
    (.obj fields) request merged

theorem ask_unknown {raised : Exn} (unknown : host languages wiki = .error raised)
    (params : Params) (asked : Nat) (continuation : Json) :
    ∃ other, (streamed languages spell answers).ask wiki params asked continuation =
      .error other := by
  rw [Session.ask]
  cases continued (streamed languages spell answers).spell params continuation with
  | error other => exact ⟨other, rfl⟩
  | ok request =>
      refine ⟨raised, ?_⟩
      change ((streamed languages spell answers).client asked).action wiki request = _
      rw [Client.action]
      change (host languages wiki).bind _ = _
      rw [unknown]
      rfl

theorem botStep_done {session : Session} (asked : Nat) (state : Nat × Json)
    (many : botPageLimit ≤ asked) :
    ∃ result, botStep session wiki pageId asked state = .done result := ⟨_, if_pos many⟩

theorem continuationOf_eq (data : Json) :
    continuationOf data =
      if data.isObject then .ok ((data.field "continue").getD (.obj []))
      else .error (raised .attributeError) := by
  rw [continuationOf, Json.get_eq]
  cases data.isObject <;> rfl

theorem leadsOn_next {data : Json} (leads : leadsOn data = true) :
    ∃ fields, continuationOf data = .ok (.obj fields) ∧ (Json.obj fields).truthy = true := by
  obtain ⟨next, found, fits⟩ := (Option.any_eq_true _ _).mp leads
  rw [Bool.and_eq_true] at fits
  cases data with
  | obj fields =>
      cases next with
      | obj inner =>
          refine ⟨inner, ?_, fits.2⟩
          rw [continuationOf_eq, found]
          rfl
      | _ => cases fits.1
  | _ => cases found

theorem not_leadsOn_next {data next : Json} (last : leadsOn data = false)
    (read : continuationOf data = .ok next) (more : next.truthy = true) (params : Params) :
    continued spell params next = .error (raised .typeError) := by
  rw [continuationOf_eq] at read
  split at read
  · have same := Except.ok.inj read
    cases found : data.field "continue" with
    | none =>
        rw [found] at same
        subst same
        cases more
    | some value =>
        rw [found, Option.getD_some] at same
        subst same
        rw [leadsOn, found, Option.any_some, more, Bool.and_true] at last
        cases value with
        | obj fields => cases last
        | _ => rfl
  · cases read

/-- How both walks end a pass: they go on where the answer has a continuation. -/
def turn {State Result : Type} (data : Json) (onward : Json → State) (result : Result) :
    Except Exn (Step State Result) := do
  let next ← continuationOf data
  if next.truthy then .ok (.ask (onward next)) else .ok (.done result)

section Turn

variable {State Result : Type} {step : Nat → State → Step State (Except Exn Result)}
  {asked : Nat} {state : State} {data : Json} {onward : Json → State} {result : Result}

theorem turn_leads (leads : leadsOn data = true) :
    ∃ fields, passOf (turn data onward result) = .ask (onward (.obj fields)) := by
  obtain ⟨fields, read, more⟩ := leadsOn_next leads
  refine ⟨fields, ?_⟩
  rw [turn, read]
  change passOf (if (Json.obj fields).truthy then _ else _) = _
  rw [if_pos more]
  rfl

theorem ends_turn (pass : step asked state = passOf (turn data onward result))
    (last : leadsOn data = false)
    (stuck : ∀ next, (∀ params, continued spell params next = .error (raised .typeError)) →
      ∃ other, step (asked + 1) (onward next) = .done other) : Ends step asked state := by
  cases read : continuationOf data with
  | error raised =>
      rw [turn, read] at pass
      exact ends_done pass
  | ok next =>
      rw [turn, read] at pass
      cases more : next.truthy with
      | false =>
          have taken : step asked state = .done (.ok result) := by
            rw [pass]
            change passOf (if next.truthy then _ else _) = _
            rw [more]
            rfl
          exact ends_done taken
      | true =>
          have taken : step asked state = .ask (onward next) := by
            rw [pass]
            change passOf (if next.truthy then _ else _) = _
            rw [more]
            rfl
          obtain ⟨other, stopped⟩ := stuck next (not_leadsOn_next last read more)
          exact (ends_ask taken).mpr (ends_done stopped)

/-- Both walks carry the continuation of the last answer and count what they have listed. One
ends exactly where its answers close, since what it has listed is what they deliver. -/
theorem walk_ends_iff {size : State → Nat} {carried : State → Json} {parts : Nat → Option Nat}
    {limit : Int}
    (full : ∀ asked state, limit ≤ size state → Ends step asked state)
    (goes : ∀ asked state fields count, carried state = .obj fields → (size state : Int) < limit →
      parts asked = some count → ∃ next, step asked state = .ask next ∧
        size next = size state + count ∧ ∃ inner, carried next = .obj inner)
    (closed : ∀ asked state fields, carried state = .obj fields → (size state : Int) < limit →
      parts asked = none → Ends step asked state)
    (empty : size state = 0) (fresh : carried state = .obj []) :
    Ends step 0 state ↔ Closes limit parts := by
  have closing := @ends_iff _ _ step 0 state
    (fun place => parts place = none ∨ limit ≤ delivered parts place)
    (fun place walk => size walk = delivered parts place ∧ ∃ fields, carried walk = .obj fields)
    ?_ ?_ ⟨empty, [], fresh⟩
  · rw [closing]
    simp only [Nat.zero_add]
    rfl
  · intro place walk held more
    obtain ⟨listed, fields, carries⟩ := held
    obtain ⟨reads, short⟩ := not_or.mp more
    obtain ⟨count, part⟩ := Option.ne_none_iff_exists'.mp reads
    rw [← listed] at short
    obtain ⟨next, taken, grown, onward⟩ := goes place walk fields count carries
      (not_le.mp short) part
    refine ⟨next, taken, ?_, onward⟩
    rw [grown, listed, delivered, part, Option.getD_some]
  · intro place walk held closes
    obtain ⟨listed, fields, carries⟩ := held
    by_cases reached : limit ≤ size walk
    · exact full place walk reached
    · rw [listed] at reached
      have last := closes.resolve_right reached
      rw [← listed] at reached
      exact closed place walk fields carries (not_le.mp reached) last

end Turn

theorem categoryStep_read (known : host languages wiki = .ok code) {asked : Nat}
    {members batch : List CategoryMember} {fields : List (String × Json)} {data : Json}
    (asks : (members.length : Int) < limit) (got : received spell (answers asked) = .ok data)
    (read : readMembers spell readText data = .ok batch) :
    categoryStep (streamed languages spell answers) readText wiki category limit asked
        (members, .obj fields) =
      passOf (turn data (fun next => (members ++ batch, next))
        (upTo limit (members ++ batch), decide (limit < (members ++ batch).length))) := by
  have answer := (ask_streamed known (categoryParams category) asked fields).trans got
  rw [categoryStep, if_neg (not_le.mpr asks), answer]
  change passOf ((readMembers spell readText data).bind _) = _
  rw [read]
  rfl

theorem categoryStep_stuck {session : Session} {asked : Nat} {members : List CategoryMember}
    {next : Json}
    (stuck : ∀ params, continued session.spell params next = .error (raised .typeError)) :
    ∃ result, categoryStep session readText wiki category limit asked (members, next) =
      .done result := by
  by_cases full : limit ≤ members.length
  · exact ⟨_, if_pos full⟩
  · refine ⟨.error (raised .typeError), ?_⟩
    rw [categoryStep, if_neg full, Session.ask, stuck]
    rfl

theorem toOption_eq_some {α : Type} {read : Except Exn α} {value : α} :
    read.toOption = some value ↔ read = .ok value := by
  cases read <;> simp [Except.toOption]

theorem categoryPart_eq_some {answer : Except SendError Json} {count : Nat} :
    categoryPart spell readText answer = some count ↔
      ∃ data batch, received spell answer = .ok data ∧
        readMembers spell readText data = .ok batch ∧ leadsOn data = true ∧
        batch.length = count := by
  constructor
  · intro part
    obtain ⟨data, got, part⟩ := Option.bind_eq_some_iff.mp part
    obtain ⟨batch, read, part⟩ := Option.bind_eq_some_iff.mp part
    split at part
    · rename_i leads
      exact ⟨data, batch, toOption_eq_some.mp got, toOption_eq_some.mp read, leads,
        Option.some.inj part⟩
    · cases part
  · rintro ⟨data, batch, got, read, leads, rfl⟩
    refine Option.bind_eq_some_iff.mpr ⟨data, toOption_eq_some.mpr got, ?_⟩
    exact Option.bind_eq_some_iff.mpr ⟨batch, toOption_eq_some.mpr read, if_pos leads⟩

theorem categoryStep_closed (known : host languages wiki = .ok code) {asked : Nat}
    {members : List CategoryMember} {fields : List (String × Json)}
    (asks : (members.length : Int) < limit)
    (closed : categoryPart spell readText (answers asked) = none) :
    Ends (categoryStep (streamed languages spell answers) readText wiki category limit) asked
      (members, .obj fields) := by
  have answer := @ask_streamed _ spell _ _ answers known (categoryParams category) asked fields
  cases got : received spell (answers asked) with
  | error failure =>
      refine @ends_done _ _ _ _ _ (.error failure) ?_
      rw [categoryStep, if_neg (not_le.mpr asks), answer, got]
      rfl
  | ok data =>
      cases read : readMembers spell readText data with
      | error failure =>
          refine @ends_done _ _ _ _ _ (.error failure) ?_
          rw [categoryStep, if_neg (not_le.mpr asks), answer, got]
          change passOf ((readMembers spell readText data).bind _) = _
          rw [read]
          rfl
      | ok batch =>
          have last : leadsOn data = false := by
            refine Bool.eq_false_iff.mpr (fun leads => ?_)
            rw [categoryPart_eq_some.mpr ⟨data, batch, got, read, leads, rfl⟩] at closed
            cases closed
          exact ends_turn (categoryStep_read known asks got read) last
            (fun next stuck => categoryStep_stuck stuck)

theorem categoryStep_ends_iff (known : host languages wiki = .ok code) :
    Ends (categoryStep (streamed languages spell answers) readText wiki category limit) 0
        ([], .obj []) ↔
      Closes limit (fun place => categoryPart spell readText (answers place)) := by
  apply @walk_ends_iff _ _ _ ([], .obj []) (fun state => state.1.length) Prod.snd
  · intro asked state reached
    exact ends_done (if_pos reached)
  · rintro asked ⟨members, continuation⟩ fields count rfl asks part
    obtain ⟨data, batch, got, read, leads, counted⟩ := categoryPart_eq_some.mp part
    obtain ⟨next, taken⟩ := turn_leads leads
    refine ⟨_, (categoryStep_read known asks got read).trans taken, ?_, next, rfl⟩
    rw [List.length_append, counted]
  · rintro asked ⟨members, continuation⟩ fields rfl asks closed
    exact categoryStep_closed known asks closed
  · rfl
  · rfl

/-- The tally of a history with the revisions of one more answer. -/
def HistoryWalk.add (walk : HistoryWalk) (users : List Int) (next : Json) : HistoryWalk :=
  ⟨(users.filter (fun userId => 0 < userId)).foldl Counter.tally walk.counts,
    walk.revisions + users.length, next⟩

/-- How a pass over a history goes on from what an answer lists. -/
def historyTurn (walk : HistoryWalk) (data : Json) :
    Option (List Int) → Except Exn (Step HistoryWalk EditorHistory)
  | none => .ok (.done ⟨walk.counts, walk.revisions, false⟩)
  | some users =>
      let grown := walk.add users walk.continuation
      turn data (walk.add users) ⟨grown.counts, grown.revisions, true⟩

theorem readRevisions_eq (readText : String → Option Int) (page : Json)
    (tally : Counter Int × Nat) :
    readRevisions readText page tally = (pageUsers readText page).map (fun users =>
      ((users.filter (fun userId => 0 < userId)).foldl Counter.tally tally.1,
        tally.2 + users.length)) := by
  rw [readRevisions, pageUsers]
  cases (page.get "revisions" (.arr [])).mapError raised with
  | error failure => rfl
  | ok revisions =>
      change (revisions.items.mapError raised).bind _ = _
      cases items : revisions.items.mapError raised with
      | error failure =>
          simp only [bind, Except.bind, items]
          rfl
      | ok entries =>
          simp only [bind, Except.bind, items]
          exact foldlM_tally readText entries tally

theorem historyStep_eq (known : host languages wiki = .ok code) {asked : Nat}
    {counts : Counter Int} {revisions : Nat} {fields : List (String × Json)} {budget : Int}
    (asks : (revisions : Int) < budget) :
    historyStep (streamed languages spell answers) readText wiki pageId budget asked
        ⟨counts, revisions, .obj fields⟩ =
      passOf ((received spell (answers asked)).bind (fun data =>
        (listedUsers readText data).bind
          (historyTurn ⟨counts, revisions, .obj fields⟩ data))) := by
  rw [historyStep, if_neg (not_le.mpr asks), ask_streamed known]
  cases received spell (answers asked) with
  | error failure => rfl
  | ok data =>
      simp only [listedUsers, bind, Except.bind]
      cases (data.getPath ["query", "pages"] (.arr [])).mapError raised with
      | error failure => rfl
      | ok pages =>
          cases filled : pages.truthy with
          | false =>
              simp only [filled, Bool.not_false, if_true]
              rfl
          | true =>
              simp only [filled, Bool.not_true, Bool.false_eq_true, if_false]
              cases pages.getFirst.mapError raised with
              | error failure => rfl
              | ok page =>
                  simp only [readRevisions_eq]
                  cases pageUsers readText page with
                  | error failure => rfl
                  | ok users => rfl

theorem historyPart_eq_some {answer : Except SendError Json} {count : Nat} :
    historyPart spell readText answer = some count ↔
      ∃ data users, received spell answer = .ok data ∧
        listedUsers readText data = .ok (some users) ∧ leadsOn data = true ∧
        users.length = count := by
  constructor
  · intro part
    obtain ⟨data, got, part⟩ := Option.bind_eq_some_iff.mp part
    obtain ⟨listed, read, part⟩ := Option.bind_eq_some_iff.mp part
    obtain ⟨users, rfl, part⟩ := Option.bind_eq_some_iff.mp part
    split at part
    · rename_i leads
      exact ⟨data, users, toOption_eq_some.mp got, toOption_eq_some.mp read, leads,
        Option.some.inj part⟩
    · cases part
  · rintro ⟨data, users, got, read, leads, rfl⟩
    refine Option.bind_eq_some_iff.mpr ⟨data, toOption_eq_some.mpr got, ?_⟩
    refine Option.bind_eq_some_iff.mpr ⟨some users, toOption_eq_some.mpr read, ?_⟩
    exact if_pos leads

theorem historyStep_stuck {session : Session} {asked : Nat} {walk : HistoryWalk} {budget : Int}
    (stuck : ∀ params,
      continued session.spell params walk.continuation = .error (raised .typeError)) :
    ∃ result, historyStep session readText wiki pageId budget asked walk = .done result := by
  by_cases full : budget ≤ walk.revisions
  · exact ⟨_, if_pos full⟩
  · refine ⟨.error (raised .typeError), ?_⟩
    rw [historyStep, if_neg full, Session.ask, stuck]
    rfl

theorem historyStep_closed (known : host languages wiki = .ok code) {asked : Nat}
    {counts : Counter Int} {revisions : Nat} {fields : List (String × Json)} {budget : Int}
    (asks : (revisions : Int) < budget)
    (closed : historyPart spell readText (answers asked) = none) :
    Ends (historyStep (streamed languages spell answers) readText wiki pageId budget) asked
      ⟨counts, revisions, .obj fields⟩ := by
  have pass := @historyStep_eq languages spell readText wiki code pageId answers known asked
    counts revisions fields budget asks
  cases got : received spell (answers asked) with
  | error failure =>
      rw [got] at pass
      exact ends_done pass
  | ok data =>
      rw [got] at pass
      change _ = passOf ((listedUsers readText data).bind _) at pass
      cases read : listedUsers readText data with
      | error failure =>
          rw [read] at pass
          exact ends_done pass
      | ok listed =>
          rw [read] at pass
          cases listed with
          | none => exact ends_done pass
          | some users =>
              have last : leadsOn data = false := by
                refine Bool.eq_false_iff.mpr (fun leads => ?_)
                rw [historyPart_eq_some.mpr ⟨data, users, got, read, leads, rfl⟩] at closed
                cases closed
              exact ends_turn pass last (fun next stuck => historyStep_stuck stuck)

theorem historyStep_ends_iff (known : host languages wiki = .ok code) (budget : Int) :
    Ends (historyStep (streamed languages spell answers) readText wiki pageId budget) 0 .start ↔
      Closes budget (fun place => historyPart spell readText (answers place)) := by
  apply @walk_ends_iff _ _ _ .start HistoryWalk.revisions HistoryWalk.continuation
  · intro asked walk reached
    exact ends_done (if_pos reached)
  · rintro asked ⟨counts, revisions, continuation⟩ fields count rfl asks part
    obtain ⟨data, users, got, read, leads, counted⟩ := historyPart_eq_some.mp part
    have pass := @historyStep_eq languages spell readText wiki code pageId answers known asked
      counts revisions fields budget asks
    rw [got] at pass
    change _ = passOf ((listedUsers readText data).bind _) at pass
    rw [read] at pass
    obtain ⟨next, taken⟩ := turn_leads leads
    refine ⟨_, pass.trans taken, ?_, next, rfl⟩
    rw [← counted]
    rfl
  · rintro asked ⟨counts, revisions, continuation⟩ fields rfl asks closed
    exact historyStep_closed known asks closed
  · rfl
  · rfl

def EveryListingEnds (languages : List String) (spell : Json → String)
    (readText : String → Option Int) (wiki category : String) (pageId budget limit : Int)
    (bots history members : Nat → Except SendError Json) : Prop :=
  Ends (botStep (streamed languages spell bots) wiki pageId) 0 (0, .obj []) ∧
  Ends (historyStep (streamed languages spell history) readText wiki pageId budget) 0 .start ∧
  Ends (categoryStep (streamed languages spell members) readText wiki category limit) 0
    ([], .obj [])

/-- Only the count of bots gives up on a listing that is continued for ever. -/
theorem paging_ends_iff (languages : List String) (spell : Json → String)
    (readText : String → Option Int) (wiki category : String) (pageId budget limit : Int)
    (bots history members : Nat → Except SendError Json) :
    EveryListingEnds languages spell readText wiki category pageId budget limit
        bots history members ↔
      (∃ raised, host languages wiki = .error raised) ∨
        Closes budget (fun place => historyPart spell readText (history place)) ∧
        Closes limit (fun place => categoryPart spell readText (members place)) := by
  have counted := ends_of_bound
    (@botStep_done wiki pageId (streamed languages spell bots)) 0 (0, .obj [])
  cases known : host languages wiki with
  | error failure =>
      refine ⟨fun _ => .inl ⟨failure, rfl⟩, fun _ => ⟨counted, ?_, ?_⟩⟩
      · by_cases full : budget ≤ (0 : Nat)
        · exact ends_done (if_pos full)
        · obtain ⟨other, refused⟩ := @ask_unknown languages spell wiki history failure known
            (historyParams pageId) 0 (.obj [])
          refine @ends_done _ _ _ _ _ (.error other) ((if_neg full).trans ?_)
          change passOf (((streamed languages spell history).ask wiki (historyParams pageId) 0
            (.obj [])).bind _) = _
          rw [refused]
          rfl
      · by_cases full : limit ≤ (0 : Nat)
        · exact ends_done (if_pos full)
        · obtain ⟨other, refused⟩ := @ask_unknown languages spell wiki members failure known
            (categoryParams category) 0 (.obj [])
          refine @ends_done _ _ _ _ _ (.error other) ((if_neg full).trans ?_)
          change passOf (((streamed languages spell members).ask wiki (categoryParams category) 0
            (.obj [])).bind _) = _
          rw [refused]
          rfl
  | ok code =>
      rw [EveryListingEnds, historyStep_ends_iff known, categoryStep_ends_iff known]
      constructor
      · rintro ⟨-, both⟩
        exact .inr both
      · rintro (⟨failure, unknown⟩ | both)
        · cases unknown
        · exact ⟨counted, both⟩

end Streams

def emptyHistory : Json :=
  .obj [("continue", .obj [("rvcontinue", .str "20260101000000|1"), ("continue", .str "||")]),
    ("query", .obj [("pages", .arr [.obj [("pageid", .int 1), ("revisions", .arr [])]])])]

def emptyCategory : Json :=
  .obj [("continue", .obj [("cmcontinue", .str "page|41|7"), ("continue", .str "-||")]),
    ("query", .obj [("categorymembers", .arr [])])]

theorem delivered_nothing {parts : Nat → Option Nat} (nothing : ∀ place, parts place = some 0)
    (place : Nat) : delivered parts place = 0 := by
  induction place with
  | zero => rfl
  | succ place ih => rw [delivered, ih, nothing, Option.getD_some]

theorem not_closes_of_nothing {limit : Int} {parts : Nat → Option Nat} (positive : 0 < limit)
    (nothing : ∀ place, parts place = some 0) : ¬ Closes limit parts := by
  rintro ⟨place, last | reached⟩
  · rw [nothing] at last
    cases last
  · rw [delivered_nothing nothing] at reached
    exact absurd positive (not_lt.mpr reached)

/-- Neither the history nor the category is read to an end when no answer has an item and every
answer a continuation. -/
theorem empty_answers_go_on :
    ¬ Ends (historyStep (streamed ["fr"] (fun _ => "") (fun _ => .ok emptyHistory))
        (fun _ => none) "frwiki" 1 5000) 0 .start ∧
    ¬ Ends (categoryStep (streamed ["fr"] (fun _ => "") (fun _ => .ok emptyCategory))
        (fun _ => none) "frwiki" "Catégorie:Naissance en 1900" 20000) 0 ([], .obj []) := by
  constructor
  · rw [historyStep_ends_iff (show host ["fr"] "frwiki" = .ok "fr.wikipedia.org" from rfl)]
    exact not_closes_of_nothing (by decide) (fun _ => rfl)
  · rw [categoryStep_ends_iff (show host ["fr"] "frwiki" = .ok "fr.wikipedia.org" from rfl)]
    exact not_closes_of_nothing (by decide) (fun _ => rfl)

end WikiPeople
