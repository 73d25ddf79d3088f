import DocumentSql.Proofs.CommandLine.Accepted

/-!
# Documented command lines

Help lists the options of each command: those with a value, which is the next argument or stands
behind an equals sign, and `--natural`, which takes none. What is accepted for a command consists of
its options, and of nothing that is not read as one of them. But a text behind `--natural=` is
dropped without a fault, while the same text as an argument of its own is refused.

* `groups_of_accepted`: what an accepted command line consists of.
* `natural_with_text_accepted`: a command line that is accepted and not documented.
-/

set_option autoImplicit false

namespace DocumentSql.CommandLine

open CommandLine.Group (argumentsOf argumentsOf_injective)

/-- The group is written as help describes it. -/
def Group.IsDocumented : Group → Prop
  | .help argument _ => argument = "-h" ∨ argument = "--help"
  | .separate .. => True
  | .attached flag _ => flag.takesValue = true
  | .bare .. => True

/-- Of the options, only `--natural` is read in a form that is not documented. -/
theorem Group.isDocumented_or_eq_natural {group : Group} {flag : Flag}
    (h : group.flag? = some flag) :
    group.IsDocumented ∨ ∃ text, group = .attached .natural text := by
  cases group with
  | help argument hargument => cases h
  | separate | bare => exact .inl trivial
  | attached f text =>
      cases f with
      | natural => exact .inr ⟨text, rfl⟩
      | _ => exact .inl rfl

theorem Group.not_isDocumented_natural (text : String) :
    ¬ (Group.attached .natural text).IsDocumented := by
  intro h
  cases h

/-- Options are written as documented in some way exactly where no text follows `--natural=`, for
their arguments are cut in one way. -/
theorem exists_documented_iff {groups : List Group}
    (hoptions : ∀ group ∈ groups, ∃ flag, group.flag? = some flag) :
    (∃ groups', argumentsOf groups' = argumentsOf groups ∧
        ∀ group ∈ groups', group.IsDocumented) ↔
      ∀ text, Group.attached .natural text ∉ groups := by
  constructor
  · rintro ⟨groups', harguments, hdocumented⟩ text hnatural
    obtain rfl := argumentsOf_injective harguments
    exact Group.not_isDocumented_natural text (hdocumented _ hnatural)
  · intro hnatural
    refine ⟨groups, rfl, fun group hgroup => ?_⟩
    obtain ⟨flag, hflag⟩ := hoptions group hgroup
    rcases Group.isDocumented_or_eq_natural hflag with hdocumented | ⟨text, rfl⟩
    · exact hdocumented
    · exact absurd hgroup (hnatural text)

/-! ## Texts that are dropped -/

/-- The group without a text that is dropped. -/
def Group.documented : Group → Group
  | .attached .natural _ => .bare .natural rfl
  | group => group

theorem Group.isDocumented_documented {group : Group} {flag : Flag}
    (h : group.flag? = some flag) : group.documented.IsDocumented := by
  rcases Group.isDocumented_or_eq_natural h with hdocumented | ⟨text, rfl⟩
  · cases group with
    | attached f text =>
        cases f with
        | natural => cases hdocumented
        | _ => exact hdocumented
    | _ => exact hdocumented
  · trivial

theorem Group.addItem_documented (o : Options) (group : Group) :
    o.addItem group.documented.item = o.addItem group.item := by
  cases group with
  | attached flag text => cases flag <;> rfl
  | _ => rfl

theorem readOptions_documented (o : Options) (groups : List Group) :
    readOptions o (argumentsOf (groups.map Group.documented)) =
      readOptions o (argumentsOf groups) := by
  induction groups generalizing o with
  | nil => rfl
  | cons group groups ih =>
      rw [List.map_cons, Group.argumentsOf_cons, Group.argumentsOf_cons, Group.readOptions_group,
        Group.readOptions_group, Group.addItem_documented]
      simp only [ih]

/-- **What is accepted** for a command consists of options that the command allows, with all that it
requires. It is written as documented exactly where no text follows `--natural=`, and the same
command is given without such texts. -/
theorem groups_of_accepted {arguments : List String} {command : Command}
    (h : readCommand arguments = .ok command) (hcommand : ∀ topic, command ≠ .help topic) :
    ∃ (topic : Topic) (groups : List Group), arguments = topic.name :: argumentsOf groups ∧
      (∀ group ∈ groups, (∃ flag ∈ topic.allowed, group.flag? = some flag) ∧
        (group.IsDocumented ∨ ∃ text, group = .attached .natural text)) ∧
      (∀ flag ∈ topic.required, ∃ group ∈ groups, group.flag? = some flag) ∧
      ((∃ groups', argumentsOf groups' = argumentsOf groups ∧
          ∀ group ∈ groups', group.IsDocumented) ↔
        ∀ text, Group.attached .natural text ∉ groups) ∧
      (∀ group ∈ groups.map Group.documented, group.IsDocumented) ∧
      readCommand (topic.name :: argumentsOf (groups.map Group.documented)) = .ok command := by
  obtain ⟨topic, groups, rfl, -, hallows, joins, -, hmade⟩ := (readCommand_eq_ok_iff hcommand).mp h
  have hallowed : ∀ group ∈ groups, ∃ flag ∈ topic.allowed, group.flag? = some flag :=
    fun group hgroup => hallows _ (List.mem_map_of_mem hgroup)
  have hoptions : ∀ group ∈ groups, ∃ flag, group.flag? = some flag :=
    fun group hgroup => (hallowed group hgroup).imp fun _ hflag => hflag.2
  refine ⟨topic, groups, rfl, ?_, ?_, exists_documented_iff hoptions, ?_, ?_⟩
  · intro group hgroup
    obtain ⟨flag, hflag⟩ := hoptions group hgroup
    exact ⟨hallowed group hgroup, Group.isDocumented_or_eq_natural hflag⟩
  · intro flag hflag
    obtain ⟨item, hitem, hgiven⟩ :=
      exists_lastValue?_iff.mp (Topic.exists_commandOf_iff.mp ⟨command, hmade⟩ flag hflag)
    obtain ⟨group, hgroup, rfl⟩ := List.mem_map.mp hitem
    exact ⟨group, hgroup, hgiven⟩
  · rw [List.forall_mem_map]
    intro group hgroup
    obtain ⟨flag, hflag⟩ := hoptions group hgroup
    exact Group.isDocumented_documented hflag
  · rw [readCommand_congr topic.name fun o => readOptions_documented o groups]
    exact h

/-- An option with a value in both spellings, and a condition of a join without one. -/
theorem groups_of_accepted_join :
    ∃ (topic : Topic) (groups : List Group),
      ["update", "--set=\x7b\x7d", "--join", "Breed", "--natural", "--table", "--set"] =
        topic.name :: argumentsOf groups ∧
      (∀ flag ∈ topic.required, ∃ group ∈ groups, group.flag? = some flag) ∧
      ((∃ groups', argumentsOf groups' = argumentsOf groups ∧
          ∀ group ∈ groups', group.IsDocumented) ↔
        ∀ text, Group.attached .natural text ∉ groups) := by
  have hread : readCommand
      ["update", "--set=\x7b\x7d", "--join", "Breed", "--natural", "--table", "--set"] =
        .ok (.update ⟨"--set", [("Breed", .natural)]⟩ none "\x7b\x7d") := by
    decide +kernel
  obtain ⟨topic, groups, harguments, -, hrequired, hdocumented, -⟩ :=
    groups_of_accepted hread nofun
  exact ⟨topic, groups, harguments, hrequired, hdocumented⟩

/-- **A text behind `--natural=`** is accepted, though the command line does not consist of options
as they are documented. -/
theorem natural_with_text_accepted :
    ¬ ∀ (arguments : List String) (command : Command), readCommand arguments = .ok command →
      (∀ topic, command ≠ .help topic) →
      ∃ (topic : Topic) (groups : List Group), arguments = topic.name :: argumentsOf groups ∧
        (∀ group ∈ groups,
          group.IsDocumented ∧ ∃ flag ∈ topic.allowed, group.flag? = some flag) ∧
        ∀ flag ∈ topic.required, ∃ group ∈ groups, group.flag? = some flag := by
  intro h
  have hread : readCommand ["select", "--table", "Pet", "--join", "Breed", "--natural=zzz"] =
      .ok (.select ⟨"Pet", [("Breed", .natural)]⟩ none [] none) := by
    decide +kernel
  obtain ⟨topic, groups, harguments, hgroups, -⟩ := h _ _ hread nofun
  -- the arguments are cut in one way, and the last group has the text
  have hcut : argumentsOf [.separate .table rfl "Pet", .separate .join rfl "Breed",
      .attached .natural "zzz"] = argumentsOf groups := (List.cons.inj harguments).2
  obtain rfl := argumentsOf_injective hcut
  have hlast := (hgroups (.attached .natural "zzz") (by decide)).1
  exact Group.not_isDocumented_natural "zzz" hlast

end DocumentSql.CommandLine
