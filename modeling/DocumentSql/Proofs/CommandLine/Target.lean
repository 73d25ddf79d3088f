import DocumentSql.Proofs.CommandLine.Accepted

/-!
# Targets of command lines

`select`, `insert`, `update` and `delete` work on a table and on the tables joined to it. A command
line is accepted as one of them exactly where its options are allowed, those that are required are
given, and every join among its groups has one condition before the next join. The joins of the
target are those of the groups in order, each with the condition of its own segment.

* `target_iff_paired`: which command lines have which target.
-/

set_option autoImplicit false

namespace DocumentSql.CommandLine

open CommandLine.Group

/-- A segment that makes a join has neither no condition nor several. -/
theorem length_specsOf_of_makes {segments : List Segment} {joins : List (String × JoinSpec)}
    (h : List.Forall₂ Segment.Makes segments joins) :
    ∀ segment ∈ segments, (specsOf segment.items).length = 1 := by
  induction h with
  | nil => simp
  | cons hmakes _ ih =>
      rw [List.forall_mem_cons]
      refine ⟨?_, ih⟩
      rw [hmakes.2]
      rfl

/-- A command with a target takes no limit, so that all its items can be read. -/
theorem isReadable_of_allows {topic : Topic} (htopic : topic.hasTarget = true) {items : List Item}
    (hallows : topic.Allows items) : ∀ item ∈ items, item.IsReadable := by
  rintro item hitem text rfl
  obtain ⟨flag, hflag, hlimit⟩ := hallows _ hitem
  cases hlimit
  have hnone : Flag.limit ∉ topic.allowed := by
    cases topic with
    | program | search => cases htopic
    | _ => decide
  exact absurd hflag hnone

theorem ne_help_of_target? {command : Command} {target : Target}
    (h : command.target? = some target) (topic : Topic) : command ≠ .help topic := by
  rintro rfl
  cases h

/-- A command line has a target where its groups are those of a command with a target. -/
theorem exists_target?_iff {arguments : List String} {target : Target} :
    (∃ command, readCommand arguments = .ok command ∧ command.target? = some target) ↔
      ∃ (topic : Topic) (groups : List Group), topic.hasTarget = true ∧
        arguments = topic.name :: argumentsOf groups ∧ topic.Allows (groups.map item) ∧
        (∀ flag ∈ topic.required, ∃ value, lastValue? flag (groups.map item) = some value) ∧
        lastValue? .table (groups.map item) = some target.table ∧
        Paired (groups.map item) target.joins := by
  constructor
  · rintro ⟨command, hread, htarget⟩
    obtain ⟨topic, groups, rfl, -, hallows, joins, hjoins, hmade⟩ :=
      (readCommand_eq_ok_iff (ne_help_of_target? htarget)).mp hread
    have hrequired := Topic.exists_commandOf_iff.mp ⟨command, hmade⟩
    rw [Topic.target?_of_commandOf hmade] at htarget
    split at htarget
    · next htopic =>
        obtain ⟨table, htable, rfl⟩ := Option.map_eq_some_iff.mp htarget
        exact ⟨topic, groups, htopic, rfl, hallows, hrequired, htable, hjoins⟩
    · cases htarget
  · rintro ⟨topic, groups, htopic, rfl, hallows, hrequired, htable, hjoins⟩
    obtain ⟨command, hmade⟩ : ∃ command, topic.commandOf
        (fun flag => lastValue? flag (groups.map item)) target.joins = some command :=
      Topic.exists_commandOf_iff.mpr hrequired
    have hcommand : command.target? = some target := by
      rw [Topic.target?_of_commandOf hmade, if_pos htopic, htable]
      rfl
    refine ⟨command, ?_, hcommand⟩
    rw [readCommand_eq_ok_iff (ne_help_of_target? hcommand)]
    exact ⟨topic, groups, rfl, isReadable_of_allows htopic hallows, hallows, target.joins, hjoins,
      hmade⟩

/-- The groups of a command with a target pair its joins, however the items are cut. -/
theorem pairs_of_target? {first : String} {groups : List Group} {command : Command}
    {target : Target} (hread : readCommand (first :: argumentsOf groups) = .ok command)
    (htarget : command.target? = some target) {cut : Cut} (hcut : cut.items = groups.map item) :
    cut.Pairs target.joins := by
  obtain ⟨topic, groups', -, harguments, -, -, -, hpaired⟩ :=
    exists_target?_iff.mp ⟨command, hread, htarget⟩
  obtain rfl := argumentsOf_injective (List.cons.inj harguments).2
  rwa [paired_iff, ← hcut, Cut.ofItems_items] at hpaired

/-- **Each join has one condition.** A command line has a target exactly where each of its joins
has one condition before the next join, no condition stands before the first join, and the options
are those of a command with a target; the target has these joins with these conditions. Where a
segment has none or several conditions, or a condition stands before all joins, there is no
target. -/
theorem target_iff_paired :
    (∀ (arguments : List String) (target : Target),
      (∃ command, readCommand arguments = .ok command ∧ command.target? = some target) ↔
        ∃ (topic : Topic) (groups : List Group), topic.hasTarget = true ∧
          arguments = topic.name :: argumentsOf groups ∧ topic.Allows (groups.map item) ∧
          (∀ flag ∈ topic.required, ∃ value, lastValue? flag (groups.map item) = some value) ∧
          lastValue? .table (groups.map item) = some target.table ∧
          Paired (groups.map item) target.joins) ∧
    ∀ (first : String) (groups : List Group) (cut : Cut), cut.items = groups.map item →
      (specsOf cut.before ≠ [] ∨
        ∃ segment ∈ cut.segments, (specsOf segment.items).length ≠ 1) →
      ∀ command, readCommand (first :: argumentsOf groups) = .ok command →
        command.target? = none := by
  refine ⟨fun arguments target => exists_target?_iff, ?_⟩
  intro first groups cut hcut hviolates command hread
  cases htarget : command.target? with
  | none => rfl
  | some target =>
      have hpairs := pairs_of_target? hread htarget hcut
      rcases hviolates with hbefore | ⟨segment, hsegment, hlength⟩
      · exact absurd hpairs.before hbefore
      · exact absurd (length_specsOf_of_makes hpairs.segments segment hsegment) hlength

/-- Two joins with other options in between; and a join without a condition, where help is asked
for as well. -/
theorem target_iff_paired_between :
    (∃ (topic : Topic) (groups : List Group), topic.hasTarget = true ∧
      ["select", "--join", "Breed", "--table=Pet", "--natural", "--join=Shop", "--where", "--on",
        "--on", "\x7b\x7d"] = topic.name :: argumentsOf groups ∧
      Paired (groups.map item) [("Breed", .natural), ("Shop", .on "\x7b\x7d")]) ∧
    ∀ command, readCommand ["select", "--join", "Breed", "-h"] = .ok command →
      command.target? = none := by
  obtain ⟨htarget, hviolates⟩ := target_iff_paired
  constructor
  · have hread : readCommand ["select", "--join", "Breed", "--table=Pet", "--natural",
        "--join=Shop", "--where", "--on", "--on", "\x7b\x7d"] =
          .ok (.select ⟨"Pet", [("Breed", .natural), ("Shop", .on "\x7b\x7d")]⟩ (some "--on") []
            none) := by
      decide +kernel
    obtain ⟨topic, groups, htopic, harguments, -, -, -, hpaired⟩ :=
      (htarget _ _).mp ⟨_, hread, rfl⟩
    exact ⟨topic, groups, htopic, harguments, hpaired⟩
  · let groups : List Group := [.separate .join rfl "Breed", .help "-h" (.inl rfl)]
    let cut : Cut := ⟨[], [⟨"Breed", [.help], by decide⟩], by simp⟩
    have hcut : cut.items = groups.map item := rfl
    have hnone : ∃ segment ∈ cut.segments, (specsOf segment.items).length ≠ 1 :=
      ⟨_, List.mem_cons_self, by decide⟩
    exact hviolates "select" groups cut hcut (.inr hnone)

end DocumentSql.CommandLine
