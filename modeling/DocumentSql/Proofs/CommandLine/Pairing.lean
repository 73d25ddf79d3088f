import DocumentSql.Proofs.CommandLine.Items
import Mathlib.Data.List.Forall2

/-!
# Joins and their conditions

A condition belongs to the last join before it. The items are cut before each join, into what
stands before the first join and one segment for each join. The joins that options hold are
complete exactly where no condition stands before the first join and each segment has one
condition. Other items of a segment do not matter.

* `Cut.ofItems_items`: items are cut in one way.
* `foldlM_addJoin_eq_completed_iff`: when the joins of items are complete.
-/

set_option autoImplicit false

namespace DocumentSql.CommandLine

/-! ## Segments -/

namespace Item

/-- The table that an item joins. -/
def joined? : Item → Option String
  | .option .join table => some table
  | _ => none

/-- The join condition that an item gives. -/
def spec? : Item → Option JoinSpec
  | .option .on json => some (.on json)
  | .option .natural _ => some .natural
  | _ => none

end Item

/-- The join conditions of items, in order. -/
def specsOf (items : List Item) : List JoinSpec := items.filterMap Item.spec?

/-- A join, and the items behind it up to the next one. -/
structure Segment where
  table : String
  items : List Item
  noJoin : ∀ item ∈ items, item.joined? = none

/-- Items cut before each join. -/
structure Cut where
  before : List Item
  segments : List Segment
  noJoin : ∀ item ∈ before, item.joined? = none

namespace Segment

/-- The items of a segment, with its join. -/
def all (segment : Segment) : List Item := .option .join segment.table :: segment.items

/-- The segment has one condition, and makes a join of its table with that. -/
def Makes (segment : Segment) (join : String × JoinSpec) : Prop :=
  join.1 = segment.table ∧ specsOf segment.items = [join.2]

end Segment

namespace Cut

/-- The items that were cut. -/
def items (cut : Cut) : List Item := cut.before ++ cut.segments.flatMap Segment.all

/-- The cut with one more item in front. -/
def cons (item : Item) (cut : Cut) : Cut :=
  match h : item.joined? with
  | some table => ⟨[], ⟨table, cut.before, cut.noJoin⟩ :: cut.segments, by simp⟩
  | none => ⟨item :: cut.before, cut.segments, by simpa [h] using cut.noJoin⟩

/-- The cut of items. -/
def ofItems : List Item → Cut
  | [] => ⟨[], [], by simp⟩
  | item :: items => (ofItems items).cons item

theorem cons_join (table : String) (cut : Cut) :
    cut.cons (.option .join table) =
      ⟨[], ⟨table, cut.before, cut.noJoin⟩ :: cut.segments, by simp⟩ := rfl

theorem cons_other {item : Item} (h : item.joined? = none) (cut : Cut) :
    cut.cons item = ⟨item :: cut.before, cut.segments, by simpa [h] using cut.noJoin⟩ := by
  unfold cons
  split
  · next table htable =>
      rw [h] at htable
      cases htable
  · rfl

theorem join_of_joined? {item : Item} {table : String} (h : item.joined? = some table) :
    item = .option .join table := by
  cases item with
  | help => cases h
  | option flag value =>
      cases flag with
      | join =>
          cases h
          rfl
      | _ => cases h

/-- Nothing is lost by a cut. -/
theorem items_ofItems (items : List Item) : (ofItems items).items = items := by
  induction items with
  | nil => rfl
  | cons item items ih =>
      rw [ofItems]
      cases hitem : item.joined? with
      | none =>
          rw [cons_other hitem]
          show item :: (ofItems items).items = item :: items
          rw [ih]
      | some table =>
          obtain rfl := join_of_joined? hitem
          rw [cons_join]
          show .option .join table :: (ofItems items).items = .option .join table :: items
          rw [ih]

theorem ofItems_append {before : List Item} (hbefore : ∀ item ∈ before, item.joined? = none)
    {items : List Item} {segments : List Segment}
    (h : ofItems items = ⟨[], segments, by simp⟩) :
    ofItems (before ++ items) = ⟨before, segments, hbefore⟩ := by
  induction before with
  | nil => exact h
  | cons item before ih =>
      have hrest := ih fun item hitem => hbefore item (List.mem_cons_of_mem _ hitem)
      rw [List.cons_append, ofItems, hrest, cons_other (hbefore item List.mem_cons_self)]

theorem ofItems_segments (segments : List Segment) :
    ofItems (segments.flatMap Segment.all) = ⟨[], segments, by simp⟩ := by
  induction segments with
  | nil => rfl
  | cons segment segments ih =>
      rw [List.flatMap_cons]
      show (ofItems (segment.items ++ segments.flatMap Segment.all)).cons
        (.option .join segment.table) = _
      rw [ofItems_append segment.noJoin ih, cons_join]

/-- **Items are cut in one way.** -/
theorem ofItems_items (cut : Cut) : ofItems cut.items = cut :=
  ofItems_append cut.noJoin (ofItems_segments cut.segments)

/-- No condition stands before the first join, and each segment has one. The joins are those of the
segments in order, each with the condition of its own segment. -/
structure Pairs (cut : Cut) (joins : List (String × JoinSpec)) : Prop where
  before : specsOf cut.before = []
  segments : List.Forall₂ Segment.Makes cut.segments joins

end Cut

/-- Each join among the items has one condition before the next join, and no condition stands before
all joins. -/
def Paired (items : List Item) (joins : List (String × JoinSpec)) : Prop :=
  ∃ cut : Cut, cut.items = items ∧ cut.Pairs joins

theorem paired_iff {items : List Item} {joins : List (String × JoinSpec)} :
    Paired items joins ↔ (Cut.ofItems items).Pairs joins := by
  constructor
  · rintro ⟨cut, rfl, hpairs⟩
    rwa [Cut.ofItems_items]
  · intro hpairs
    exact ⟨Cut.ofItems items, Cut.items_ofItems items, hpairs⟩

/-! ## Joins that options hold -/

/-- The joins with one more item. -/
def addJoin (joins : List (String × Option JoinSpec)) :
    Item → Except OptionFault (List (String × Option JoinSpec))
  | .option .join table => .ok (joins ++ [(table, none)])
  | .option .on json => Options.setLastJoin .on (.on json) joins
  | .option .natural _ => Options.setLastJoin .natural .natural joins
  | _ => .ok joins

/-- Joins that have their conditions, as options hold them. -/
def completed (joins : List (String × JoinSpec)) : List (String × Option JoinSpec) :=
  joins.map fun (table, spec) => (table, some spec)

theorem completed_append (joins : List (String × JoinSpec)) (table : String) (spec : JoinSpec) :
    completed (joins ++ [(table, spec)]) = completed joins ++ [(table, some spec)] := by
  simp [completed]

theorem completeJoins_eq_ok_iff {joins : List (String × Option JoinSpec)}
    {specs : List (String × JoinSpec)} :
    Options.completeJoins joins = .ok specs ↔ joins = completed specs := by
  fun_induction Options.completeJoins joins generalizing specs with
  | case1 => cases specs <;> simp [completed]
  | case2 table rest => cases specs <;> simp [completed]
  | case3 table spec rest ih =>
      rw [bind_eq_ok_iff]
      simp only [ih, Except.ok.injEq]
      constructor
      · rintro ⟨specs, rfl, rfl⟩
        rfl
      · intro h
        cases specs with
        | nil => cases h
        | cons spec' specs =>
            cases h
            exact ⟨specs, rfl, rfl⟩

theorem completed_eq_append_iff {joins : List (String × JoinSpec)}
    {done : List (String × Option JoinSpec)} {table : String} {spec : JoinSpec} :
    completed joins = done ++ [(table, some spec)] ↔
      ∃ before, done = completed before ∧ joins = before ++ [(table, spec)] := by
  constructor
  · intro h
    rcases List.eq_nil_or_concat joins with rfl | ⟨before, ⟨table', spec'⟩, rfl⟩
    · simp [completed] at h
    · rw [List.concat_eq_append, completed_append] at h
      obtain ⟨hdone, hlast⟩ := List.append_inj' h rfl
      cases hlast
      exact ⟨before, hdone.symm, List.concat_eq_append⟩
  · rintro ⟨before, rfl, rfl⟩
    exact completed_append before table spec

/-- A condition is taken by the last join, unless that has one. -/
theorem setLastJoin_append (flag : Flag) (spec : JoinSpec)
    (done : List (String × Option JoinSpec)) (table : String) (spec? : Option JoinSpec) :
    Options.setLastJoin flag spec (done ++ [(table, spec?)]) =
      match spec? with
      | none => .ok (done ++ [(table, some spec)])
      | some _ => .error (.secondCondition flag table) := by
  induction done with
  | nil => cases spec? <;> rfl
  | cons join done ih =>
      have hstep : Options.setLastJoin flag spec (join :: (done ++ [(table, spec?)])) =
          Options.setLastJoin flag spec (done ++ [(table, spec?)]) >>= fun rest =>
            .ok (join :: rest) := by
        cases done <;> simp [Options.setLastJoin]
      rw [List.cons_append, hstep, ih]
      cases spec? <;> rfl

theorem setLastJoin_eq_ok_iff {flag : Flag} {spec : JoinSpec}
    {joins joins' : List (String × Option JoinSpec)} :
    Options.setLastJoin flag spec joins = .ok joins' ↔
      ∃ done table, joins = done ++ [(table, none)] ∧ joins' = done ++ [(table, some spec)] := by
  constructor
  · intro h
    rcases List.eq_nil_or_concat joins with rfl | ⟨done, ⟨table, spec?⟩, rfl⟩
    · cases h
    · rw [List.concat_eq_append, setLastJoin_append] at h
      cases spec? with
      | some spec' => cases h
      | none =>
          cases h
          exact ⟨done, table, List.concat_eq_append, rfl⟩
  · rintro ⟨done, table, rfl, rfl⟩
    exact setLastJoin_append flag spec done table none

/-! ## One item -/

theorem addJoin_of_spec? {item : Item} {spec : JoinSpec} (h : item.spec? = some spec)
    {joins joins' : List (String × Option JoinSpec)} :
    addJoin joins item = .ok joins' ↔
      ∃ done table, joins = done ++ [(table, none)] ∧ joins' = done ++ [(table, some spec)] := by
  cases item with
  | help => cases h
  | option flag value => cases flag <;> cases h <;> exact setLastJoin_eq_ok_iff

/-- An item that is neither a join nor a condition leaves the joins. -/
theorem addJoin_of_none {item : Item} (hjoined : item.joined? = none) (hspec : item.spec? = none)
    (joins : List (String × Option JoinSpec)) : addJoin joins item = .ok joins := by
  cases item with
  | help => rfl
  | option flag value =>
      cases flag with
      | join => cases hjoined
      | on | natural => cases hspec
      | _ => rfl

/-! ## All items -/

/-- Joins that are complete once the last of them has taken the conditions that are given. -/
inductive Settles :
    List (String × Option JoinSpec) → List JoinSpec → List (String × JoinSpec) → Prop where
  | complete (joins : List (String × JoinSpec)) : Settles (completed joins) [] joins
  | last (done : List (String × JoinSpec)) (table : String) (spec : JoinSpec) :
      Settles (completed done ++ [(table, none)]) [spec] (done ++ [(table, spec)])

theorem settles_nil_iff {joins : List (String × Option JoinSpec)}
    {specs : List (String × JoinSpec)} : Settles joins [] specs ↔ joins = completed specs := by
  constructor
  · rintro ⟨⟩
    rfl
  · rintro rfl
    exact .complete specs

theorem settles_cons_iff {joins : List (String × Option JoinSpec)} {spec : JoinSpec}
    {given : List JoinSpec} {specs : List (String × JoinSpec)} :
    Settles joins (spec :: given) specs ↔
      ∃ done table, joins = done ++ [(table, none)] ∧
        Settles (done ++ [(table, some spec)]) given specs := by
  constructor
  · rintro ⟨⟩
    next done table =>
      refine ⟨completed done, table, rfl, ?_⟩
      rw [← completed_append]
      exact .complete _
  · rintro ⟨done, table, rfl, h⟩
    generalize hjoins : done ++ [(table, some spec)] = joins at h
    cases h with
    | complete =>
        obtain ⟨before, rfl, rfl⟩ := completed_eq_append_iff.mp hjoins.symm
        exact .last before table spec
    | last done' table' spec' =>
        obtain ⟨-, hlast⟩ := List.append_inj' hjoins rfl
        cases hlast

/-- A join without a condition is complete once it has one. -/
theorem settles_append_iff {joins : List (String × Option JoinSpec)} {table : String}
    {given : List JoinSpec} {specs : List (String × JoinSpec)} :
    Settles (joins ++ [(table, none)]) given specs ↔
      ∃ done spec, joins = completed done ∧ given = [spec] ∧ specs = done ++ [(table, spec)] := by
  constructor
  · intro h
    generalize hjoins : joins ++ [(table, none)] = joins' at h
    cases h with
    | complete =>
        rcases List.eq_nil_or_concat specs with rfl | ⟨before, ⟨table', spec'⟩, rfl⟩
        · simp [completed] at hjoins
        · rw [List.concat_eq_append, completed_append] at hjoins
          obtain ⟨-, hlast⟩ := List.append_inj' hjoins rfl
          cases hlast
    | last done table' spec =>
        obtain ⟨hdone, hlast⟩ := List.append_inj' hjoins rfl
        cases hlast
        exact ⟨done, spec, hdone, rfl, rfl⟩
  · rintro ⟨done, spec, rfl, rfl, rfl⟩
    exact .last done table spec

theorem specsOf_cons_of_none {item : Item} (h : item.spec? = none) (items : List Item) :
    specsOf (item :: items) = specsOf items := List.filterMap_cons_none h

theorem specsOf_cons_of_some {item : Item} {spec : JoinSpec} (h : item.spec? = some spec)
    (items : List Item) : specsOf (item :: items) = spec :: specsOf items :=
  List.filterMap_cons_some h

/-- Items complete joins where the conditions before the next join settle those that there are, and
each segment makes a join. -/
theorem foldlM_addJoin_iff (joins : List (String × Option JoinSpec)) (items : List Item)
    (specs : List (String × JoinSpec)) :
    items.foldlM addJoin joins = .ok (completed specs) ↔
      ∃ first, Settles joins (specsOf (Cut.ofItems items).before) first ∧
        ∃ rest, List.Forall₂ Segment.Makes (Cut.ofItems items).segments rest ∧
          specs = first ++ rest := by
  induction items generalizing joins with
  | nil =>
      have hspecs : specsOf (Cut.ofItems []).before = [] := rfl
      have hsegments : (Cut.ofItems []).segments = [] := rfl
      rw [hspecs, hsegments, List.foldlM_nil]
      simp only [settles_nil_iff, List.forall₂_nil_left_iff]
      constructor
      · intro h
        cases h
        exact ⟨specs, rfl, [], rfl, (List.append_nil specs).symm⟩
      · rintro ⟨first, rfl, rest, rfl, rfl⟩
        rw [List.append_nil]
        rfl
  | cons item items ih =>
      rw [List.foldlM_cons, bind_eq_ok_iff, Cut.ofItems]
      cases hjoined : item.joined? with
      | some table =>
          -- the next segment begins, and takes the conditions that were before it
          obtain rfl := Cut.join_of_joined? hjoined
          rw [Cut.cons_join]
          simp only [addJoin, Except.ok.injEq, exists_eq_left', ih]
          have hnone : specsOf [] = [] := rfl
          simp only [settles_append_iff, hnone, settles_nil_iff, List.forall₂_cons_left_iff]
          constructor
          · rintro ⟨first, ⟨done, spec, rfl, hspec, rfl⟩, rest, hrest, rfl⟩
            exact ⟨done, rfl, (table, spec) :: rest,
              ⟨(table, spec), rest, ⟨rfl, hspec⟩, hrest, rfl⟩, by simp⟩
          · rintro ⟨done, rfl, _, ⟨⟨table', spec⟩, rest, ⟨htable, hspec⟩, hrest, rfl⟩, rfl⟩
            have heq : table' = table := htable
            rw [heq]
            exact ⟨done ++ [(table, spec)], ⟨done, spec, rfl, hspec, rfl⟩, rest, hrest, by simp⟩
      | none =>
          rw [Cut.cons_other hjoined]
          cases hspec : item.spec? with
          | none =>
              simp only [addJoin_of_none hjoined hspec, specsOf_cons_of_none hspec,
                Except.ok.injEq, exists_eq_left', ih]
          | some spec =>
              -- the condition goes to the last join, which has to lack one
              simp only [addJoin_of_spec? hspec, specsOf_cons_of_some hspec, settles_cons_iff, ih]
              constructor
              · rintro ⟨joins', ⟨done, table, rfl, rfl⟩, first, hfirst, hrest⟩
                exact ⟨first, ⟨done, table, rfl, hfirst⟩, hrest⟩
              · rintro ⟨first, ⟨done, table, rfl, hfirst⟩, hrest⟩
                exact ⟨_, ⟨done, table, rfl, rfl⟩, first, hfirst, hrest⟩

/-- **The joins of items are complete** exactly where each join has one condition. -/
theorem foldlM_addJoin_eq_completed_iff {items : List Item} {joins : List (String × JoinSpec)} :
    items.foldlM addJoin [] = .ok (completed joins) ↔ Paired items joins := by
  rw [foldlM_addJoin_iff, paired_iff]
  constructor
  · rintro ⟨first, hfirst, rest, hrest, rfl⟩
    generalize hspecs : specsOf (Cut.ofItems items).before = specs at hfirst
    generalize hnone : ([] : List (String × Option JoinSpec)) = none at hfirst
    cases hfirst with
    | complete =>
        obtain rfl : first = [] := List.map_eq_nil_iff.mp hnone.symm
        exact ⟨hspecs, hrest⟩
    | last done table spec => exact absurd hnone (by simp)
  · rintro ⟨hbefore, hsegments⟩
    refine ⟨[], ?_, joins, hsegments, rfl⟩
    rw [hbefore]
    exact .complete []

end DocumentSql.CommandLine
