import WikiPeople.Listings

/-! A category as it is read: the first members up to the cap, and whether there are more. -/

namespace WikiPeople

open Relational Paging

/-- The parts the Action API splits a listing into. It sends a continuation only where at
least one more item follows. -/
structure Splits {Item : Type} (parts : List (List Item)) (items : List Item) : Prop where
  whole : parts.flatten = items
  answered : parts ≠ []
  follows : ∀ before part after, parts = before ++ part :: after → after ≠ [] →
    after.flatten ≠ []

def memberJson (member : CategoryMember) : Json :=
  .obj [("pageid", .int member.pageId), ("ns", .int 0), ("title", .str member.title)]

def categoryQuery (batch : List CategoryMember) : Json :=
  .obj [("categorymembers", .arr (batch.map memberJson))]

def CategoryAnswers.delivering (batch : List CategoryMember) :
    List (List CategoryMember) → CategoryAnswers
  | [] => .last batch
  | next :: rest => .more batch (delivering next rest)

section Reading

variable {session : Session} {readText : String → Option Int} {wiki code category : String}
  {limit : Int} {continuations : Nat → List (String × String)}
  {batches rest : List (List CategoryMember)} {batch found : List CategoryMember}

theorem readMembers_listing (spell : Json → String) (batch : List CategoryMember)
    (continuation : Option (List (String × String))) :
    readMembers spell readText (listingJson (categoryQuery batch) continuation) = .ok batch := by
  have each : (batch.map memberJson).mapM (readMember spell readText) = .ok batch := by
    induction batch with
    | nil => rfl
    | cons member batch ih =>
        rw [List.map_cons, List.mapM_cons, ih]
        rfl
  cases continuation <;> exact each

variable (readText) in
theorem categoryStep_served
    (served : session.Serves code (categoryParams category) continuations
      (batches.map categoryQuery))
    (known : host session.languages wiki = .ok code) {place : Nat}
    (present : batches[place]? = some batch) (asks : found.length < limit) :
    categoryStep session readText wiki category limit place
        (found, continuationAt continuations place) =
      if place + 1 < batches.length then
        .ask (found ++ batch, continuationAt continuations (place + 1))
      else .done (.ok (upTo limit (found ++ batch), limit < (found ++ batch).length)) := by
  have query : (batches.map categoryQuery)[place]? = some (categoryQuery batch) := by
    rw [List.getElem?_map, present, Option.map_some]
  have answer := ask_served served known query
  rw [List.length_map] at answer
  rw [categoryStep, if_neg (not_le.mpr asks)]
  simp only [answer, readMembers_listing, continuationOf_listing, bind, Except.bind]
  split
  · rw [Option.elim_some, if_pos (continuationJson_truthy (served.filled place))]
    rfl
  · rfl

theorem collect_enough (spell : Json → String) (enough : ¬ (found.length : Int) < limit)
    (answers : CategoryAnswers) :
    answers.collect spell limit found = .ok (upTo limit found, true) := by
  cases answers <;> exact if_neg enough

/-- The loop over the answers of the Action API comes to what the loop over their batches
does. The induction is on the batches that are left. -/
theorem categoryStep_collect
    (served : session.Serves code (categoryParams category) continuations
      (batches.map categoryQuery))
    (known : host session.languages wiki = .ok code) {before : List (List CategoryMember)}
    (split : batches = before ++ batch :: rest) :
    Returns (categoryStep session readText wiki category limit) before.length
      (found, continuationAt continuations before.length)
      ((CategoryAnswers.delivering batch rest).collect session.spell limit found) := by
  induction rest generalizing before batch found with
  | nil =>
      by_cases asks : (found.length : Int) < limit
      · have present : batches[before.length]? = some batch := by simp [split]
        have last : ¬ before.length + 1 < batches.length := by simp [split]
        have pass := categoryStep_served readText served known present asks
        rw [if_neg last] at pass
        rw [returns_done pass, CategoryAnswers.delivering, CategoryAnswers.collect, if_pos asks]
      · rw [collect_enough session.spell asks]
        exact (returns_done (if_pos (not_lt.mp asks))).mpr rfl
  | cons next rest ih =>
      by_cases asks : (found.length : Int) < limit
      · have present : batches[before.length]? = some batch := by simp [split]
        have more : before.length + 1 < batches.length := by simp [split]
        have pass := categoryStep_served readText served known present asks
        rw [if_pos more] at pass
        rw [returns_ask pass, CategoryAnswers.delivering, CategoryAnswers.collect, if_pos asks]
        have moved : batches = (before ++ [batch]) ++ next :: rest := by simp [split]
        have later := @ih next (found ++ batch) (before ++ [batch]) moved
        rwa [List.length_append, List.length_singleton] at later
      · rw [collect_enough session.spell asks]
        exact (returns_done (if_pos (not_lt.mp asks))).mpr rfl

theorem collect_delivering (spell : Json → String) (bound : 0 ≤ limit)
    (asks : (found.length : Int) < limit)
    (follows : ∀ before part after, batch :: rest = before ++ part :: after → after ≠ [] →
      after.flatten ≠ []) :
    (CategoryAnswers.delivering batch rest).collect spell limit found =
      .ok ((found ++ (batch :: rest).flatten).take limit.toNat,
        decide (limit < (found ++ (batch :: rest).flatten).length)) := by
  induction rest generalizing batch found with
  | nil =>
      rw [CategoryAnswers.delivering, CategoryAnswers.collect, if_pos asks, upTo_nonneg bound]
      simp
  | cons next rest ih =>
      rw [CategoryAnswers.delivering, CategoryAnswers.collect, if_pos asks, List.flatten_cons,
        ← List.append_assoc]
      by_cases still : ((found ++ batch).length : Int) < limit
      · apply ih still
        intro before part after same
        exact follows (batch :: before) part after (by rw [same, List.cons_append])
      · -- A continuation was sent, so at least one member is left out.
        have left := List.length_pos_iff.mpr (follows [] batch (next :: rest) rfl (by simp))
        have cut : limit < ((found ++ batch) ++ (next :: rest).flatten).length := by
          rw [List.length_append]
          omega
        rw [collect_enough spell still, upTo_enough bound still, decide_eq_true cut]

end Reading

/-- Reading a category returns its first members up to the cap, and reports exactly whether
there are more. -/
theorem category_exact (session : Session) (readText : String → Option Int)
    (wiki code category : String) (limit : Int) (members : List CategoryMember)
    (batches : List (List CategoryMember)) (continuations : Nat → List (String × String))
    (known : host session.languages wiki = .ok code) (positive : 1 ≤ limit)
    (splits : Splits batches members)
    (served : session.Serves code (categoryParams category) continuations
      (batches.map categoryQuery)) :
    ∃ passes, categoryMembers session readText wiki category limit passes =
      some (.ok (members.take limit.toNat, decide (limit < members.length))) := by
  obtain ⟨whole, answered, follows⟩ := splits
  cases batches with
  | nil => exact absurd rfl answered
  | cons batch rest =>
      have bound : 0 ≤ limit := Int.le_trans (by decide) positive
      have collected := @collect_delivering limit rest batch [] session.spell bound positive follows
      have returned := @categoryStep_collect session readText wiki code category limit
        continuations (batch :: rest) rest batch [] served known [] rfl
      rw [collected, List.nil_append, whole] at returned
      exact returned

/-! A category of three members in an empty batch and one that is larger than the cap. -/

def threeMembers : List CategoryMember := [⟨1, "A"⟩, ⟨2, "B"⟩, ⟨3, "C"⟩]

def threeBatches : List (List CategoryMember) := [[], threeMembers]

/-- Answers in the order of the requests, with a continuation until the last. -/
def servedInOrder (queries : List Json) : Session where
  languages := ["fr"]
  spell := fun _ => ""
  send := fun place _ _ =>
    match queries[place]? with
    | none => .error (.unavailable "no more")
    | some query => .ok (listingJson query
        (if place + 1 < queries.length then some [("continue", "||")] else none))

theorem servedInOrder_serves (queries : List Json) (code : String) (params : Params) :
    (servedInOrder queries).Serves code params (fun _ => [("continue", "||")]) queries := by
  refine ⟨by simp, ?_⟩
  intro place query request found _
  simp [servedInOrder, found]

theorem category_exact_cut :
    ∃ passes, categoryMembers (servedInOrder (threeBatches.map categoryQuery)) String.toInt?
      "frwiki" "Catégorie:Exemple" 2 passes =
        some (.ok ([⟨1, "A"⟩, ⟨2, "B"⟩], true)) := by
  apply category_exact (servedInOrder (threeBatches.map categoryQuery)) String.toInt? "frwiki"
    "fr.wikipedia.org" "Catégorie:Exemple" 2 threeMembers threeBatches
    (fun _ => [("continue", "||")]) (by decide) (by decide) _ (servedInOrder_serves _ _ _)
  refine ⟨rfl, by decide, ?_⟩
  intro before part after same filled
  cases before with
  | nil =>
      cases same
      simp [threeMembers]
  | cons first before =>
      have alone := (List.cons.inj same).2
      cases before with
      | nil => exact absurd (List.cons.inj alone).2.symm filled
      | cons second before => simp at alone

end WikiPeople
