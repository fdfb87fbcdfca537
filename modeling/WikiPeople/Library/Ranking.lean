import Mathlib.Algebra.GroupWithZero.Nat
import WikiPeople.Library.Table

/-! Counters and selections: Python's `Counter`, slices, and loops that stop once they have
enough. -/

namespace Relational

/-- Counts by name, in the order in which the names were first counted. -/
abbrev Counter (Name : Type) := Dict Name Nat

namespace Counter

variable {Name : Type} [DecidableEq Name]

def get (counter : Counter Name) (name : Name) : Nat :=
  ((counter.find name).map Prod.snd).getD 0

/-- `counter[name] += 1`. -/
def tally (counter : Counter Name) (name : Name) : Counter Name :=
  counter.put (name, counter.get name + 1)

/-- `counter.most_common()`: the greatest count first, equal counts in order of insertion. -/
def mostCommon (counter : Counter Name) : List (Name × Nat) :=
  counter.rows.mergeSort (fun first second => second.2 ≤ first.2)

omit [DecidableEq Name] in
theorem mem_mostCommon {counter : Counter Name} {entry : Name × Nat} :
    entry ∈ counter.mostCommon ↔ entry ∈ counter.rows :=
  List.mem_mergeSort

def Counts (counter : Counter Name) (names : List Name) : Prop :=
  ∀ name count, (name, count) ∈ counter.rows ↔ 0 < count ∧ count = names.count name

theorem counts_empty : Counts (.empty : Counter Name) [] := by
  intro name count
  simp [Table.empty]
  omega

theorem Counts.get {counter : Counter Name} {names : List Name} (counts : Counts counter names)
    (name : Name) : counter.get name = names.count name := by
  rw [Counter.get]
  cases found : counter.find name with
  | none =>
      have absent := Table.find_eq_none.mp found
      by_contra differ
      have occurs : 0 < names.count name := Nat.pos_of_ne_zero (Ne.symm differ)
      exact absent (name, names.count name) ((counts _ _).mpr ⟨occurs, rfl⟩) rfl
  | some entry =>
      obtain ⟨present, same⟩ := Table.find_eq_some.mp found
      obtain ⟨other, count⟩ := entry
      have equal : other = name := same
      subst equal
      exact ((counts other count).mp present).2

theorem Counts.tally {counter : Counter Name} {names : List Name}
    (counts : Counts counter names) (last : Name) :
    Counts (counter.tally last) (names ++ [last]) := by
  intro name count
  rw [Counter.tally, Table.mem_put, counts.get, counts, List.count_append]
  by_cases same : name = last
  · subst same
    simp only [Keyed.key, Prod.mk.injEq, true_and, ne_eq, not_true_eq_false, and_false, or_false,
      List.count_singleton_self]
    omega
  · have other : List.count name [last] = 0 :=
      List.count_eq_zero.mpr (fun member => same (List.mem_singleton.mp member))
    simp [Keyed.key, same, other]

theorem counts_foldl {counter : Counter Name} {names : List Name}
    (counts : Counts counter names) (more : List Name) :
    Counts (more.foldl Counter.tally counter) (names ++ more) := by
  induction more generalizing counter names with
  | nil => simpa using counts
  | cons next more ih =>
      have later := ih (counts.tally next)
      rwa [List.append_assoc, List.singleton_append] at later

def total (counter : Counter Name) : Nat := (counter.rows.map Prod.snd).sum

theorem sum_putRow (entry : Name × Nat) (rows : List (Name × Nat)) :
    ((Table.putRow entry rows).map Prod.snd).sum +
        ((rows.find? (fun row => decide (Keyed.key row = entry.1))).map Prod.snd).getD 0 =
      (rows.map Prod.snd).sum + entry.2 := by
  induction rows with
  | nil => simp [Table.putRow]
  | cons first rest ih =>
      rw [Table.putRow, List.find?_cons]
      by_cases same : Keyed.key first = Keyed.key entry
      · have found : decide (Keyed.key first = entry.1) = true := decide_eq_true same
        rw [if_pos same, found]
        simp only [List.map_cons, List.sum_cons, Option.map_some, Option.getD_some]
        omega
      · have other : decide (Keyed.key first = entry.1) = false := decide_eq_false same
        rw [if_neg same, other]
        simp only [List.map_cons, List.sum_cons]
        omega

theorem total_tally (counter : Counter Name) (name : Name) :
    (counter.tally name).total = counter.total + 1 := by
  have sum := sum_putRow (name, counter.get name + 1) counter.rows
  change (counter.tally name).total + counter.get name =
    counter.total + (counter.get name + 1) at sum
  omega

theorem total_foldl (counter : Counter Name) (names : List Name) :
    (names.foldl tally counter).total = counter.total + names.length := by
  induction names generalizing counter with
  | nil => rfl
  | cons name names ih =>
      rw [List.foldl_cons, ih, total_tally, List.length_cons]
      omega

theorem foldl_named {Item : Type} (nameOf : Item → Option Name) (items : List Item)
    (counted : Counter Name × Nat) :
    items.foldl (fun counted item => (nameOf item).elim counted
        (fun name => (counted.1.tally name, counted.2 + 1))) counted =
      ((items.filterMap nameOf).foldl tally counted.1,
        counted.2 + (items.filterMap nameOf).length) := by
  induction items generalizing counted with
  | nil => rfl
  | cons item items ih =>
      rw [List.foldl_cons, ih]
      cases named : nameOf item with
      | none => rw [Option.elim_none, List.filterMap_cons_none named]
      | some name =>
          rw [Option.elim_some, List.filterMap_cons_some named, List.foldl_cons,
            List.length_cons, Nat.add_right_comm, Nat.add_assoc]

end Counter

/-- `items[:limit]`: a negative limit counts from the end. -/
def upTo {Item : Type} (limit : Int) (items : List Item) : List Item :=
  if limit < 0 then items.take (items.length - limit.natAbs) else items.take limit.toNat

theorem upTo_nonneg {Item : Type} {limit : Int} (bound : 0 ≤ limit) (items : List Item) :
    upTo limit items = items.take limit.toNat := if_neg (not_lt.mpr bound)

theorem upTo_enough {Item : Type} {limit : Int} (bound : 0 ≤ limit) {items : List Item}
    (enough : ¬ (items.length : Int) < limit) (others : List Item) :
    upTo limit items = (items ++ others).take limit.toNat := by
  rw [upTo_nonneg bound, List.take_append_of_le_length (by omega)]

theorem bind_eq_ok {Raised First Second : Type} {first : Except Raised First}
    {next : First → Except Raised Second} {result : Second} :
    (first >>= next) = .ok result ↔ ∃ value, first = .ok value ∧ next value = .ok result := by
  cases first with
  | error raised => simp [bind, Except.bind]
  | ok value => simp [bind, Except.bind]

theorem map_eq_ok {Raised First Second : Type} {first : Except Raised First}
    {change : First → Second} {result : Second} :
    first.map change = .ok result ↔ ∃ value, first = .ok value ∧ change value = result := by
  cases first with
  | error raised => simp [Except.map]
  | ok value => simp [Except.map]

theorem mapM_forall₂ {Raised Item Made : Type} {make : Item → Except Raised Made}
    {items : List Item} {results : List Made} (made : items.mapM make = .ok results) :
    List.Forall₂ (fun item result => make item = .ok result) items results := by
  induction items generalizing results with
  | nil =>
      cases made
      exact .nil
  | cons item items ih =>
      rw [List.mapM_cons] at made
      obtain ⟨first, head, made⟩ := bind_eq_ok.mp made
      obtain ⟨rest, tail, made⟩ := bind_eq_ok.mp made
      cases made
      exact .cons head (ih tail)

theorem mem_mapM {Raised Item Made : Type} {make : Item → Except Raised Made}
    {items : List Item} {results : List Made} (made : items.mapM make = .ok results)
    {result : Made} : result ∈ results ↔ ∃ item ∈ items, make item = .ok result := by
  have each := mapM_forall₂ made
  clear made
  induction each with
  | nil => simp
  | cons head _ ih => simp [ih, head, eq_comm]

theorem mapM_each {Raised Item Made : Type} {make : Item → Except Raised Made}
    {items : List Item} {results : List Made} (made : items.mapM make = .ok results)
    {item : Item} (present : item ∈ items) : ∃ result, make item = .ok result := by
  have each := mapM_forall₂ made
  clear made
  induction each with
  | nil => cases present
  | cons head _ ih =>
      rcases List.mem_cons.mp present with rfl | later
      · exact ⟨_, head⟩
      · exact ih later

theorem mem_filterMapM {Raised Item Made : Type} {make : Item → Except Raised (Option Made)}
    {items : List Item} {results : List Made} (made : items.filterMapM make = .ok results) :
    results.length ≤ items.length ∧
      ∀ result, result ∈ results ↔ ∃ item ∈ items, make item = .ok (some result) := by
  induction items generalizing results with
  | nil =>
      cases made
      simp
  | cons item items ih =>
      rw [List.filterMapM_cons] at made
      obtain ⟨found, head, made⟩ := bind_eq_ok.mp made
      cases found with
      | none =>
          obtain ⟨short, members⟩ := ih made
          refine ⟨short.trans (Nat.le_succ _), ?_⟩
          intro result
          simp [members, head]
      | some value =>
          obtain ⟨rest, tail, made⟩ := bind_eq_ok.mp made
          cases made
          obtain ⟨short, members⟩ := ih tail
          refine ⟨Nat.succ_le_succ short, ?_⟩
          intro result
          simp [members, head, eq_comm]

theorem filterMapM_returns {Raised Item Made : Type} {make : Item → Except Raised (Option Made)}
    {items : List Item} :
    (∃ results, items.filterMapM make = .ok results) ↔
      ∀ item ∈ items, ∃ made, make item = .ok made := by
  induction items with
  | nil => exact ⟨fun _ item member => absurd member List.not_mem_nil, fun _ => ⟨[], rfl⟩⟩
  | cons item items ih =>
      rw [List.forall_mem_cons, ← ih, List.filterMapM_cons]
      cases make item with
      | error raised => simp [bind, Except.bind]
      | ok made =>
          cases items.filterMapM make <;> cases made <;>
            simp [bind, Except.bind, pure, Except.pure]

theorem filterMapM_ok {Raised Item Made : Type} {make : Item → Except Raised (Option Made)}
    {value : Item → Option Made} {items : List Item}
    (each : ∀ item ∈ items, make item = .ok (value item)) :
    items.filterMapM make = .ok (items.filterMap value) := by
  induction items with
  | nil => rfl
  | cons item items ih =>
      rw [List.filterMapM_cons, each item List.mem_cons_self]
      have rest := ih (fun other member => each other (List.mem_cons_of_mem item member))
      cases made : value item with
      | none =>
          rw [List.filterMap_cons_none made]
          exact rest
      | some found =>
          rw [List.filterMap_cons_some made]
          simp only [bind, Except.bind, rest]
          rfl

/-- A function that makes something wherever the other does makes the same list only where it
makes the same of every item: otherwise its list is longer. -/
theorem filterMap_eq_iff {Item Made : Type} {make more : Item → Option Made} {items : List Item}
    (extends_ : ∀ item made, make item = some made → more item = some made) :
    items.filterMap make = items.filterMap more ↔ ∀ item ∈ items, make item = more item := by
  refine ⟨fun same => ?_, List.filterMap_congr⟩
  induction items with
  | nil => exact fun item member => absurd member List.not_mem_nil
  | cons item items ih =>
      cases made : make item with
      | some value =>
          have also := extends_ item value made
          rw [List.filterMap_cons_some made, List.filterMap_cons_some also] at same
          have rest := (List.cons_inj_right value).mp same
          exact List.forall_mem_cons.mpr ⟨made.trans also.symm, ih rest⟩
      | none =>
          cases other : more item with
          | none =>
              rw [List.filterMap_cons_none made, List.filterMap_cons_none other] at same
              exact List.forall_mem_cons.mpr ⟨made.trans other.symm, ih same⟩
          | some value =>
              have fewer : (items.filterMap make).length ≤ (items.filterMap more).length := by
                rw [List.length_filterMap_eq_countP, List.length_filterMap_eq_countP]
                refine List.countP_mono_left (fun item _ makes => ?_)
                obtain ⟨value, made⟩ := Option.isSome_iff_exists.mp makes
                exact Option.isSome_iff_exists.mpr ⟨value, extends_ item value made⟩
              rw [List.filterMap_cons_none made, List.filterMap_cons_some other] at same
              rw [same, List.length_cons] at fewer
              exact absurd fewer (Nat.not_succ_le_self _)

theorem foldlM_ok {Raised State Item : Type} {step : State → Item → Except Raised State}
    {next : State → Item → State} {items : List Item}
    (each : ∀ state, ∀ item ∈ items, step state item = .ok (next state item)) (state : State) :
    items.foldlM step state = .ok (items.foldl next state) := by
  induction items generalizing state with
  | nil => rfl
  | cons item items ih =>
      rw [List.foldlM_cons, each state item List.mem_cons_self]
      exact ih (fun state other member => each state other (List.mem_cons_of_mem item member)) _

theorem mapM_ok {Raised Item Made : Type} {make : Item → Except Raised Made}
    {value : Item → Made} {items : List Item}
    (each : ∀ item ∈ items, make item = .ok (value item)) :
    items.mapM make = .ok (items.map value) := by
  induction items with
  | nil => rfl
  | cons item items ih =>
      rw [List.mapM_cons, each item List.mem_cons_self,
        ih (fun other member => each other (List.mem_cons_of_mem item member))]
      rfl

section Distinct

variable {Item : Type} [DecidableEq Item] {seen items : List Item}

def addNew (seen : List Item) (item : Item) : List Item :=
  if item ∈ seen then seen else seen ++ [item]

def firstOnes (items : List Item) : List Item := items.foldl addNew []

theorem addNew_known {item : Item} (known : item ∈ seen) : addNew seen item = seen :=
  if_pos known

theorem addNew_new {item : Item} (new : item ∉ seen) : addNew seen item = seen ++ [item] :=
  if_neg new

theorem foldl_addNew (seen items : List Item) :
    ∃ new, items.foldl addNew seen = seen ++ new ∧ new.Sublist items ∧ new.Nodup ∧
      (∀ item ∈ new, item ∉ seen) ∧ ∀ item ∈ items, item ∈ seen ∨ item ∈ new := by
  induction items generalizing seen with
  | nil => exact ⟨[], (List.append_nil seen).symm, .slnil, List.nodup_nil, by simp, by simp⟩
  | cons first rest ih =>
      rw [List.foldl_cons]
      by_cases known : first ∈ seen
      · rw [addNew_known known]
        obtain ⟨new, same, part, once, fresh, all⟩ := ih seen
        refine ⟨new, same, part.cons first, once, fresh, ?_⟩
        intro item member
        rcases List.mem_cons.mp member with rfl | later
        · exact Or.inl known
        · exact all item later
      · rw [addNew_new known]
        obtain ⟨new, same, part, once, fresh, all⟩ := ih (seen ++ [first])
        refine ⟨first :: new, ?_, part.cons_cons first, ?_, ?_, ?_⟩
        · rw [same, List.append_assoc, List.singleton_append]
        · refine List.nodup_cons.mpr ⟨?_, once⟩
          intro again
          exact fresh first again (by simp)
        · intro item member
          rcases List.mem_cons.mp member with rfl | later
          · exact known
          · exact fun old => fresh item later (List.mem_append_left _ old)
        · intro item member
          rcases List.mem_cons.mp member with rfl | later
          · exact Or.inr List.mem_cons_self
          · rcases all item later with old | added
            · rcases List.mem_append.mp old with before | here
              · exact Or.inl before
              · exact Or.inr (List.mem_singleton.mp here ▸ List.mem_cons_self)
            · exact Or.inr (List.mem_cons_of_mem _ added)

theorem mem_firstOnes {item : Item} : item ∈ firstOnes items ↔ item ∈ items := by
  obtain ⟨new, same, part, _, _, all⟩ := foldl_addNew [] items
  rw [firstOnes, same, List.nil_append]
  exact ⟨fun member => part.subset member, fun member => (all item member).resolve_left (by simp)⟩

theorem firstOnes_nodup : (firstOnes items).Nodup := by
  obtain ⟨new, same, _, once, _⟩ := foldl_addNew [] items
  rwa [firstOnes, same, List.nil_append]

theorem firstOnes_sublist : (firstOnes items).Sublist items := by
  obtain ⟨new, same, part, _⟩ := foldl_addNew [] items
  rwa [firstOnes, same, List.nil_append]

theorem firstOnes_eq_self (once : items.Nodup) : firstOnes items = items := by
  have appended : ∀ seen : List Item, (∀ item ∈ items, item ∉ seen) →
      items.foldl addNew seen = seen ++ items := by
    induction items with
    | nil => simp
    | cons first rest ih =>
        intro seen fresh
        obtain ⟨alone, once⟩ := List.nodup_cons.mp once
        rw [List.foldl_cons, addNew_new (fresh first List.mem_cons_self), ih once,
          List.append_assoc, List.singleton_append]
        intro item member known
        rcases List.mem_append.mp known with old | here
        · exact fresh item (List.mem_cons_of_mem _ member) old
        · exact alone (List.mem_singleton.mp here ▸ member)
  exact appended [] (by simp)

theorem foldl_addNew_find (seen items : List Item) :
    items.foldl addNew seen =
      match items.find? (fun item => item ∉ seen) with
      | none => seen
      | some item => items.foldl addNew (seen ++ [item]) := by
  induction items with
  | nil => rfl
  | cons first rest ih =>
      by_cases known : first ∈ seen
      · rw [List.foldl_cons, addNew_known known, List.find?_cons_of_neg (by simpa using known), ih]
        cases rest.find? (fun item => item ∉ seen) with
        | none => rfl
        | some item =>
            dsimp only
            rw [List.foldl_cons, addNew_known (List.mem_append_left _ known)]
      · rw [List.find?_cons_of_pos (by simpa using known)]
        dsimp only
        rw [List.foldl_cons, List.foldl_cons, addNew_new known,
          addNew_known (List.mem_append_right _ (List.mem_singleton.mpr rfl))]

/-- The items at their first places are related in order exactly where each item is related to
all before it, or is one of them. -/
theorem pairwise_firstOnes {related : Item → Item → Prop} :
    (firstOnes items).Pairwise related ↔
      ∀ before item after, items = before ++ item :: after →
        item ∈ before ∨ ∀ other ∈ before, related other item := by
  induction items using List.reverseRecOn with
  | nil => simp [firstOnes]
  | append_singleton items last ih =>
      have appended : firstOnes (items ++ [last]) = addNew (firstOnes items) last :=
        List.foldl_append
      have places : (∀ before item after, items ++ [last] = before ++ item :: after →
            item ∈ before ∨ ∀ other ∈ before, related other item) ↔
          (last ∈ items ∨ ∀ other ∈ items, related other last) ∧
            ∀ before item after, items = before ++ item :: after →
              item ∈ before ∨ ∀ other ∈ before, related other item := by
        constructor
        · intro all
          refine ⟨all items last [] rfl, ?_⟩
          rintro before item after rfl
          exact all before item (after ++ [last]) (by simp)
        · rintro ⟨here, earlier⟩ before item after same
          rcases List.eq_nil_or_concat after with rfl | ⟨after, end_, rfl⟩
          · obtain ⟨rfl, rfl⟩ := List.append_singleton_inj.mp same
            exact here
          · have longer : items ++ [last] = (before ++ item :: after) ++ [end_] := by
              simpa using same
            exact earlier before item after (List.append_singleton_inj.mp longer).1
      rw [appended, places, ← ih]
      by_cases known : last ∈ items
      · rw [addNew_known (mem_firstOnes.mpr known)]
        exact (and_iff_right (Or.inl known)).symm
      · rw [addNew_new (mt mem_firstOnes.mp known), List.pairwise_append]
        simp only [List.pairwise_singleton, List.mem_singleton, forall_eq, mem_firstOnes, known,
          false_or, true_and]
        exact and_comm

end Distinct

theorem map_filterMap_sublist {Item Made Field : Type} {make : Item → Option Made}
    {read : Made → Field} {source : Item → Field} {items : List Item}
    (same : ∀ item ∈ items, ∀ made, make item = some made → read made = source item) :
    ((items.filterMap make).map read).Sublist (items.map source) := by
  induction items with
  | nil => exact .slnil
  | cons item items ih =>
      have rest := ih (fun other member => same other (List.mem_cons_of_mem item member))
      rw [List.filterMap_cons, List.map_cons]
      cases found : make item with
      | none => exact rest.cons _
      | some made =>
          rw [List.map_cons, same item List.mem_cons_self made found]
          exact rest.cons_cons _

/-- Parts without repetitions repeat an item only from one part to another. -/
theorem count_flatten_le {Item : Type} [DecidableEq Item] {parts : List (List Item)}
    (distinct : ∀ part ∈ parts, part.Nodup) (item : Item) :
    parts.flatten.count item ≤ (parts.filter (fun part => item ∈ part)).length := by
  induction parts with
  | nil => simp
  | cons part parts ih =>
      have rest := ih (fun other member => distinct other (List.mem_cons_of_mem part member))
      rw [List.flatten_cons, List.count_append, List.filter_cons]
      by_cases present : item ∈ part
      · have once := List.nodup_iff_count_le_one.mp (distinct part List.mem_cons_self) item
        simp only [present, decide_true, if_true, List.length_cons]
        omega
      · simpa [present, List.count_eq_zero_of_not_mem present] using rest

section Descending

variable {Item Made : Type} {weight : Item → Nat} {items ranked others : List Item}

/-- `sorted(items, key=weight, reverse=True)`. -/
def byWeight (weight : Item → Nat) (items : List Item) : List Item :=
  items.mergeSort (fun first second => weight second ≤ weight first)

/-- The items in descending order of weight, those of one weight in their own order. -/
structure Descends (weight : Item → Nat) (items ranked : List Item) : Prop where
  ordered : ranked.Pairwise (fun first second => weight second ≤ weight first)
  stable : ∀ value, ranked.filter (fun item => weight item = value) =
    items.filter (fun item => weight item = value)

theorem Descends.mem (descends : Descends weight items ranked) {item : Item} :
    item ∈ ranked ↔ item ∈ items := by
  have same := congrArg (item ∈ ·) (descends.stable (weight item))
  simpa using same

theorem Descends.head_le {first : Item} (descends : Descends weight items (first :: ranked))
    {item : Item} (present : item ∈ items) : weight item ≤ weight first := by
  rcases List.mem_cons.mp (descends.mem.mpr present) with rfl | later
  · exact Nat.le_refl _
  · exact List.rel_of_pairwise_cons descends.ordered later

theorem Descends.unique (first : Descends weight items ranked)
    (second : Descends weight items others) : ranked = others := by
  induction ranked generalizing items others with
  | nil =>
      cases others with
      | nil => rfl
      | cons other others =>
          exact absurd (first.mem.mpr (second.mem.mp List.mem_cons_self)) List.not_mem_nil
  | cons item ranked ih =>
      cases others with
      | nil => exact absurd (second.mem.mpr (first.mem.mp List.mem_cons_self)) List.not_mem_nil
      | cons other others =>
          have heavy : weight other = weight item := Nat.le_antisymm
            (first.head_le (second.mem.mp List.mem_cons_self))
            (second.head_le (first.mem.mp List.mem_cons_self))
          have both := (first.stable (weight item)).trans (second.stable (weight item)).symm
          rw [List.filter_cons_of_pos (by simp), List.filter_cons_of_pos (by simp [heavy])] at both
          obtain ⟨rfl, -⟩ := List.cons.inj both
          have rest : Descends weight others ranked := by
            refine ⟨first.ordered.tail, fun value => ?_⟩
            have parts := (first.stable value).trans (second.stable value).symm
            simp only [List.filter_cons] at parts
            split at parts
            · exact (List.cons.inj parts).2
            · exact parts
          have own : Descends weight others others := ⟨second.ordered.tail, fun _ => rfl⟩
          rw [ih rest own]

theorem descends_byWeight (weight : Item → Nat) (items : List Item) :
    Descends weight items (byWeight weight items) := by
  have trans : ∀ first second third : Item, decide (weight second ≤ weight first) = true →
      decide (weight third ≤ weight second) = true →
      decide (weight third ≤ weight first) = true := by
    intro first second third left right
    exact decide_eq_true ((of_decide_eq_true right).trans (of_decide_eq_true left))
  have total : ∀ first second : Item,
      (decide (weight second ≤ weight first) || decide (weight first ≤ weight second)) = true := by
    intro first second
    simpa using Nat.le_total (weight second) (weight first)
  refine ⟨?_, fun value => ?_⟩
  · exact (List.pairwise_mergeSort trans total items).imp (fun le => of_decide_eq_true le)
  · let equals := fun item => decide (weight item = value)
    have level : (items.filter equals).Pairwise
        (fun first second => decide (weight second ≤ weight first) = true) := by
      apply List.pairwise_of_forall_mem_list
      intro first left second right
      have same : weight first = value := of_decide_eq_true (List.mem_filter.mp left).2
      have also : weight second = value := of_decide_eq_true (List.mem_filter.mp right).2
      exact decide_eq_true (by omega)
    have kept := (List.sublist_mergeSort trans total level List.filter_sublist).filter equals
    rw [List.filter_filter] at kept
    simp only [Bool.and_self] at kept
    have size := ((List.mergeSort_perm items
      (fun first second => decide (weight second ≤ weight first))).filter equals).length_eq
    exact (kept.eq_of_length size.symm).symm

/-- What is made of a ranking, one thing of an item at most and of its weight, is a ranking of
what is made of the items. -/
theorem Descends.filterMap {make : Item → Option Made} {heft : Made → Nat}
    (same : ∀ item made, make item = some made → heft made = weight item)
    (descends : Descends weight items ranked) :
    Descends heft (items.filterMap make) (ranked.filterMap make) := by
  refine ⟨?_, fun value => ?_⟩
  · refine descends.ordered.filterMap make ?_
    intro first second le made left other right
    rw [same first made left, same second other right]
    exact le
  · have commutes : ∀ list : List Item,
        (list.filterMap make).filter (fun made => heft made = value) =
          (list.filter (fun item => weight item = value)).filterMap make := by
      intro list
      induction list with
      | nil => rfl
      | cons item list ih =>
          cases made : make item with
          | none =>
              rw [List.filterMap_cons_none made, ih, List.filter_cons]
              split
              · rw [List.filterMap_cons_none made]
              · rfl
          | some value =>
              rw [List.filterMap_cons_some made, List.filter_cons, List.filter_cons, ih,
                same item value made]
              split
              · rw [List.filterMap_cons_some made]
              · rfl
    rw [commutes, commutes, descends.stable]

theorem filterMap_byWeight {make : Item → Option Made} {heft : Made → Nat}
    (same : ∀ item made, make item = some made → heft made = weight item) (items : List Item) :
    (byWeight weight items).filterMap make = byWeight heft (items.filterMap make) :=
  ((descends_byWeight weight items).filterMap same).unique (descends_byWeight heft _)

end Descending

section Collect

variable {Raised Item Chosen : Type} {limit : Nat}
  {entry : Item → Except Raised (Option Chosen)}

/-- Append what `entry` makes of each item, and stop as soon as there are `limit`. -/
def collect (limit : Nat) (entry : Item → Except Raised (Option Chosen)) :
    List Chosen → List Item → Except Raised (List Chosen)
  | chosen, [] => .ok chosen
  | chosen, item :: items =>
      match entry item with
      | .error raised => .error raised
      | .ok none => collect limit entry chosen items
      | .ok (some found) =>
          if chosen.length + 1 = limit then .ok (chosen ++ [found])
          else collect limit entry (chosen ++ [found]) items

theorem collect_length {chosen result : List Chosen} {items : List Item}
    (room : chosen.length < limit) (collected : collect limit entry chosen items = .ok result) :
    result.length ≤ limit := by
  induction items generalizing chosen with
  | nil =>
      cases collected
      exact Nat.le_of_lt room
  | cons item items ih =>
      rw [collect] at collected
      split at collected
      · cases collected
      · exact ih room collected
      · split at collected
        · rename_i full
          cases collected
          rw [List.length_append, List.length_singleton, full]
        · rename_i open_
          refine ih ?_ collected
          rw [List.length_append, List.length_singleton]
          exact Nat.lt_of_le_of_ne room open_

theorem mem_collect {chosen result : List Chosen} {items : List Item} {found : Chosen}
    (collected : collect limit entry chosen items = .ok result) (member : found ∈ result) :
    found ∈ chosen ∨ ∃ item ∈ items, entry item = .ok (some found) := by
  induction items generalizing chosen with
  | nil =>
      cases collected
      exact Or.inl member
  | cons item items ih =>
      have later : (∃ other ∈ items, entry other = .ok (some found)) →
          found ∈ chosen ∨ ∃ other ∈ item :: items, entry other = .ok (some found) := by
        rintro ⟨other, present, made⟩
        exact Or.inr ⟨other, List.mem_cons_of_mem item present, made⟩
      rw [collect] at collected
      split at collected
      · cases collected
      · exact (ih collected).elim Or.inl later
      · rename_i next made
        have grown : found ∈ chosen ++ [next] → found ∈ chosen ∨
            ∃ other ∈ item :: items, entry other = .ok (some found) := by
          intro appended
          rcases List.mem_append.mp appended with old | new
          · exact Or.inl old
          · rw [List.mem_singleton] at new
            exact Or.inr ⟨item, List.mem_cons_self, new ▸ made⟩
        split at collected
        · cases collected
          exact grown member
        · exact (ih collected).elim grown later

def madeOf (entry : Item → Except Raised (Option Chosen)) (item : Item) : Option Chosen :=
  (entry item).toOption.join

theorem madeOf_eq_some {item : Item} {found : Chosen} :
    madeOf entry item = some found ↔ entry item = .ok (some found) := by
  unfold madeOf
  cases entry item with
  | error raised => simp [Except.toOption]
  | ok made => cases made <;> simp [Except.toOption]

theorem collect_eq_take {chosen result : List Chosen} {items : List Item}
    (room : chosen.length < limit) (collected : collect limit entry chosen items = .ok result) :
    result = chosen ++ (items.filterMap (madeOf entry)).take (limit - chosen.length) := by
  induction items generalizing chosen with
  | nil =>
      cases collected
      simp
  | cons item items ih =>
      rw [collect] at collected
      split at collected
      · cases collected
      · rename_i skipped
        have nothing : madeOf entry item = none := by rw [madeOf, skipped]; rfl
        rw [ih room collected, List.filterMap_cons_none nothing]
      · rename_i found made
        have something : madeOf entry item = some found := madeOf_eq_some.mpr made
        obtain ⟨left, rest⟩ : ∃ left, limit - chosen.length = left + 1 :=
          ⟨limit - chosen.length - 1, by omega⟩
        rw [List.filterMap_cons_some something, rest, List.take_succ_cons]
        split at collected
        · cases collected
          have none : left = 0 := by omega
          rw [none, List.take_zero]
        · rename_i open_
          have longer : (chosen ++ [found]).length < limit := by
            rw [List.length_append, List.length_singleton]
            omega
          have fewer : limit - (chosen ++ [found]).length = left := by
            rw [List.length_append, List.length_singleton]
            omega
          rw [ih longer collected, fewer, List.append_assoc, List.singleton_append]

theorem collect_eq_filterMap {total : Int} {items : List Item} {result : List Chosen}
    {nameable : Item → Option Chosen} (positive : 0 < limit)
    (collected : (if total ≤ 0 then .ok [] else collect limit entry [] items) = .ok result)
    (agree : ∀ item ∈ items, ∀ found,
      nameable item = some found ↔ 0 < total ∧ entry item = .ok (some found)) :
    result = (items.filterMap nameable).take limit := by
  split at collected
  · rename_i empty
    cases collected
    have nothing : items.filterMap nameable = [] := by
      rw [List.filterMap_eq_nil_iff]
      intro item member
      by_contra something
      obtain ⟨found, made⟩ := Option.ne_none_iff_exists'.mp something
      exact absurd ((agree item member found).mp made).1 (Int.not_lt.mpr empty)
    rw [nothing, List.take_nil]
  · rename_i filled
    have same : items.filterMap nameable = items.filterMap (madeOf entry) := by
      apply List.filterMap_congr
      intro item member
      ext found
      rw [agree item member, madeOf_eq_some]
      simp [Int.not_le.mp filled]
    rw [same]
    exact collect_eq_take positive collected

/-- Another loop that skips what this one skips and makes the same of what it chose collects
the same. -/
theorem collect_follow {other : Item → Except Raised (Option Chosen)}
    {chosen result : List Chosen} {items : List Item} (room : chosen.length < limit)
    (collected : collect limit entry chosen items = .ok result)
    (skips : ∀ item ∈ items, entry item = .ok none → other item = .ok none)
    (keeps : ∀ item ∈ items, ∀ found ∈ result, entry item = .ok (some found) →
      other item = .ok (some found)) :
    collect limit other chosen items = .ok result := by
  induction items generalizing chosen with
  | nil => exact collected
  | cons item items ih =>
      rw [collect] at collected ⊢
      split at collected
      · cases collected
      · rename_i skipped
        rw [skips item List.mem_cons_self skipped]
        exact ih room collected (fun next member => skips next (List.mem_cons_of_mem _ member))
          (fun next member => keeps next (List.mem_cons_of_mem _ member))
      · rename_i found made
        split at collected
        · rename_i full
          cases collected
          rw [keeps item List.mem_cons_self found (by simp) made]
          exact if_pos full
        · rename_i open_
          have longer : (chosen ++ [found]).length < limit := by
            rw [List.length_append, List.length_singleton]
            omega
          have present : found ∈ result := by
            rw [collect_eq_take longer collected]
            simp
          rw [keeps item List.mem_cons_self found present made]
          dsimp only
          rw [if_neg open_]
          exact ih longer collected
            (fun next member => skips next (List.mem_cons_of_mem _ member))
            (fun next member => keeps next (List.mem_cons_of_mem _ member))

theorem collect_congr {other : Item → Except Raised (Option Chosen)} {items : List Item}
    (same : ∀ item ∈ items, entry item = other item) (chosen : List Chosen) :
    collect limit entry chosen items = collect limit other chosen items := by
  induction items generalizing chosen with
  | nil => rfl
  | cons item items ih =>
      have rest := ih (fun next member => same next (List.mem_cons_of_mem item member))
      simp only [collect, same item List.mem_cons_self, rest]

theorem collect_returns {items : List Item} (quiet : ∀ item ∈ items, ∃ made, entry item = .ok made)
    (chosen : List Chosen) : ∃ result, collect limit entry chosen items = .ok result := by
  induction items generalizing chosen with
  | nil => exact ⟨chosen, rfl⟩
  | cons item items ih =>
      obtain ⟨made, entered⟩ := quiet item List.mem_cons_self
      have rest := ih (fun other member => quiet other (List.mem_cons_of_mem item member))
      rw [collect, entered]
      cases made with
      | none => exact rest chosen
      | some found =>
          dsimp only
          split
          · exact ⟨_, rfl⟩
          · exact rest (chosen ++ [found])

theorem collect_of_values {value : Item → Option Chosen} {items : List Item} (positive : 0 < limit)
    (values : ∀ item ∈ items, entry item = .ok (value item)) :
    collect limit entry [] items = .ok ((items.filterMap value).take limit) := by
  obtain ⟨result, collected⟩ :=
    @collect_returns _ _ _ limit _ _ (fun item member => ⟨_, values item member⟩) []
  have made : items.filterMap (madeOf entry) = items.filterMap value := by
    refine List.filterMap_congr (fun item member => ?_)
    rw [madeOf, values item member]
    rfl
  rw [collected, collect_eq_take positive collected, made]
  rfl

theorem collect_raised {chosen : List Chosen} {items : List Item} {raised : Raised}
    (room : chosen.length < limit) (failed : collect limit entry chosen items = .error raised) :
    ∃ before item after, items = before ++ item :: after ∧ entry item = .error raised ∧
      (∀ earlier ∈ before, ∃ made, entry earlier = .ok made) ∧
      chosen.length + (before.filterMap (madeOf entry)).length < limit := by
  induction items generalizing chosen with
  | nil => cases failed
  | cons item items ih =>
      rw [collect] at failed
      cases entered : entry item with
      | error other =>
          rw [entered] at failed
          cases failed
          exact ⟨[], item, items, rfl, entered, by simp, by simpa using room⟩
      | ok made =>
          have passed : ∀ before : List Item,
              (∀ earlier ∈ before, ∃ made, entry earlier = .ok made) →
              ∀ earlier ∈ item :: before, ∃ made, entry earlier = .ok made := by
            intro before quiet earlier member
            rcases List.mem_cons.mp member with rfl | later
            · exact ⟨made, entered⟩
            · exact quiet earlier later
          rw [entered] at failed
          cases made with
          | none =>
              obtain ⟨before, other, after, rfl, raises, quiet, few⟩ := ih room failed
              refine ⟨item :: before, other, after, rfl, raises, passed before quiet, ?_⟩
              rw [List.filterMap_cons_none (by rw [madeOf, entered]; rfl)]
              exact few
          | some found =>
              dsimp only at failed
              split at failed
              · cases failed
              · rename_i open_
                have longer : (chosen ++ [found]).length < limit := by
                  rw [List.length_append, List.length_singleton]
                  omega
                obtain ⟨before, other, after, rfl, raises, quiet, few⟩ := ih longer failed
                refine ⟨item :: before, other, after, rfl, raises, passed before quiet, ?_⟩
                rw [List.filterMap_cons_some (madeOf_eq_some.mpr entered), List.length_cons]
                rw [List.length_append, List.length_singleton] at few
                omega

end Collect

end Relational
