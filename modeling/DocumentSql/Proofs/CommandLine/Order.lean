import DocumentSql.Proofs.CommandLine.Accepted

/-!
# The order of options

What a command is made of does not depend on where its options stand: of each option the last value
counts, and of the joins and their conditions the order among themselves. Groups of arguments can
therefore change places, as long as those of one option, and those of joins and conditions, keep
their order; and all but the last group of an option with one value can be left out.

* `Topic.command_of_agrees`: what of its items a command depends on.
* `readCommand_of_order`: reordered groups give the same command, and the last values count.
-/

set_option autoImplicit false

namespace DocumentSql.CommandLine

open CommandLine.Group (argumentsOf itemsOf_argumentsOf)

/-! ## What a command depends on -/

/-- Two lists of items have the same options, with the same last values, and leave the same
joins. -/
structure Agrees (items items' : List Item) : Prop where
  flags : ∀ flag?, flag? ∈ items.map Item.flag? ↔ flag? ∈ items'.map Item.flag?
  values : ∀ flag, lastValue? flag items = lastValue? flag items'
  joins : items.foldlM addJoin [] = items'.foldlM addJoin []

namespace Agrees

variable {items items' : List Item}

theorem symm (h : Agrees items items') : Agrees items' items where
  flags flag? := (h.flags flag?).symm
  values flag := (h.values flag).symm
  joins := h.joins.symm

theorem help_mem (h : Agrees items items') (hhelp : Item.help ∈ items) : Item.help ∈ items' := by
  have hnone : none ∈ items'.map Item.flag? :=
    (h.flags none).mp (List.mem_map.mpr ⟨_, hhelp, rfl⟩)
  obtain ⟨item, hitem, hflag⟩ := List.mem_map.mp hnone
  cases item with
  | help => exact hitem
  | option flag value => cases hflag

theorem allows (h : Agrees items items') {topic : Topic} (hallows : topic.Allows items) :
    topic.Allows items' := by
  intro item' hitem'
  have hflag : item'.flag? ∈ items.map Item.flag? :=
    (h.flags _).mpr (List.mem_map_of_mem hitem')
  obtain ⟨item, hitem, heq⟩ := List.mem_map.mp hflag
  rw [← heq]
  exact hallows item hitem

theorem paired (h : Agrees items items') {joins : List (String × JoinSpec)}
    (hpaired : Paired items joins) : Paired items' joins := by
  rw [← foldlM_addJoin_eq_completed_iff, ← h.joins]
  exact foldlM_addJoin_eq_completed_iff.mpr hpaired

end Agrees

/-- A command depends on which options there are, on their last values and on the joins. -/
theorem Topic.command_of_agrees {topic : Topic} {groups groups' : List Group} {command : Command}
    (h : topic.command (argumentsOf groups) = .ok command)
    (hagrees : Agrees (groups.map Group.item) (groups'.map Group.item))
    (hread : ∀ group ∈ groups', group.item.IsReadable) :
    topic.command (argumentsOf groups') = .ok command := by
  obtain ⟨items, hitems, -, hcase⟩ := Topic.command_eq_ok_iff.mp h
  rw [itemsOf_argumentsOf] at hitems
  cases hitems
  refine Topic.command_eq_ok_iff.mpr
    ⟨_, itemsOf_argumentsOf groups', List.forall_mem_map.mpr hread, ?_⟩
  rcases hcase with ⟨hhelp, ⟨joins, hjoins⟩, rfl⟩ | ⟨hallows, joins, hpaired, hmade⟩
  · exact .inl ⟨hagrees.help_mem hhelp, ⟨joins, hagrees.joins ▸ hjoins⟩, rfl⟩
  · refine .inr ⟨hagrees.allows hallows, joins, hagrees.paired hpaired, ?_⟩
    simpa only [hagrees.values] using hmade

theorem isReadable_of_command {topic : Topic} {groups : List Group} {command : Command}
    (h : topic.command (argumentsOf groups) = .ok command) :
    ∀ group ∈ groups, group.item.IsReadable := by
  obtain ⟨items, hitems, hread, -⟩ := Topic.command_eq_ok_iff.mp h
  rw [itemsOf_argumentsOf] at hitems
  cases hitems
  exact List.forall_mem_map.mp hread

/-- A command line whose first argument is fixed is read alike where every command reads alike. -/
theorem readCommand_of_command {first : String} {rest rest' : List String} {command : Command}
    (h : readCommand (first :: rest) = .ok command)
    (hcommand : ∀ topic : Topic, topic.command rest = .ok command →
      topic.command rest' = .ok command) :
    readCommand (first :: rest') = .ok command := by
  rw [readCommand] at h ⊢
  by_cases hhelp : (first = "-h" || first = "--help") = true
  · rw [if_pos hhelp] at h ⊢
    exact h
  · rw [if_neg hhelp] at h ⊢
    cases htopic : Topic.ofCommand? first with
    | none =>
        rw [htopic] at h
        cases h
    | some topic =>
        rw [htopic] at h
        exact hcommand topic h

/-- Groups whose items agree give the same command, unless an item can no longer be read. -/
theorem readCommand_of_agrees {first : String} {groups groups' : List Group} {command : Command}
    (h : readCommand (first :: argumentsOf groups) = .ok command)
    (hagrees : Agrees (groups.map Group.item) (groups'.map Group.item))
    (hread : (∀ group ∈ groups, group.item.IsReadable) →
      ∀ group ∈ groups', group.item.IsReadable) :
    readCommand (first :: argumentsOf groups') = .ok command := by
  refine readCommand_of_command h fun topic hcommand => ?_
  exact Topic.command_of_agrees hcommand hagrees (hread (isReadable_of_command hcommand))

/-! ## Groups that are picked out -/

/-- The options whose order among one another counts: joins and their conditions. -/
def Flag.isJoinPart : Flag → Bool
  | .join | .on | .natural => true
  | _ => false

/-- The group is a join or the condition of one. -/
def Group.isJoinPart (group : Group) : Bool := group.flag?.any Flag.isJoinPart

/-- The values of an option are those of its groups. -/
theorem valuesOf_filter (flag : Flag) (groups : List Group) :
    valuesOf flag (groups.map Group.item) =
      valuesOf flag ((groups.filter fun group => group.flag? = some flag).map Group.item) := by
  unfold valuesOf
  rw [List.filterMap_map, List.filterMap_map, List.filterMap_filter]
  congr 1
  funext group
  cases hitem : group.item with
  | help => simp [hitem]
  | option f value => simp [hitem, Group.flag?, Item.flag?]

theorem addJoin_of_not_isJoinPart {group : Group} (h : group.isJoinPart = false)
    (joins : List (String × Option JoinSpec)) : addJoin joins group.item = .ok joins := by
  unfold Group.isJoinPart Group.flag? at h
  cases hitem : group.item with
  | help => rfl
  | option flag value =>
      rw [hitem] at h
      cases flag with
      | join | on | natural => cases h
      | _ => rfl

/-- Joins are left by the groups that are joins or conditions. -/
theorem foldlM_addJoin_filter (groups : List Group) (joins : List (String × Option JoinSpec)) :
    (groups.map Group.item).foldlM addJoin joins =
      ((groups.filter Group.isJoinPart).map Group.item).foldlM addJoin joins := by
  induction groups generalizing joins with
  | nil => rfl
  | cons group groups ih =>
      cases hpart : group.isJoinPart with
      | true =>
          rw [List.filter_cons_of_pos hpart, List.map_cons, List.map_cons, List.foldlM_cons,
            List.foldlM_cons]
          simp only [ih]
      | false =>
          rw [List.filter_cons_of_neg (by simp [hpart]), List.map_cons, List.foldlM_cons,
            addJoin_of_not_isJoinPart hpart]
          exact ih joins

/-! ## Reordered groups -/

/-- The groups change places, and those of one option, and those that are joins or conditions, keep
their order. -/
structure Reorders (groups groups' : List Group) : Prop where
  perm : groups.Perm groups'
  options : ∀ flag, (groups.filter fun group => group.flag? = some flag) =
    groups'.filter fun group => group.flag? = some flag
  joins : groups.filter Group.isJoinPart = groups'.filter Group.isJoinPart

namespace Reorders

variable {groups groups' : List Group}

theorem symm (h : Reorders groups groups') : Reorders groups' groups where
  perm := h.perm.symm
  options flag := (h.options flag).symm
  joins := h.joins.symm

theorem agrees (h : Reorders groups groups') :
    Agrees (groups.map Group.item) (groups'.map Group.item) where
  flags flag? := ((h.perm.map Group.item).map Item.flag?).mem_iff
  values flag := by
    unfold lastValue?
    rw [valuesOf_filter, h.options, ← valuesOf_filter]
  joins := by rw [foldlM_addJoin_filter, h.joins, ← foldlM_addJoin_filter]

theorem readCommand_eq_ok (h : Reorders groups groups') {first : String} {command : Command}
    (hcommand : readCommand (first :: argumentsOf groups) = .ok command) :
    readCommand (first :: argumentsOf groups') = .ok command := by
  refine readCommand_of_agrees hcommand h.agrees fun hread group hgroup => ?_
  exact hread group (h.perm.mem_iff.mpr hgroup)

end Reorders

/-! ## Groups that are left out -/

theorem lastValue?_append (flag : Flag) (items items' : List Item) :
    lastValue? flag (items ++ items') = (lastValue? flag items').or (lastValue? flag items) := by
  unfold lastValue? valuesOf
  rw [List.filterMap_append, List.getLast?_append]

/-- A group whose option comes up again behind it, and that is no join and no condition, can be left
out. -/
theorem agrees_of_later {before after : List Group} {group later : Group}
    (hlater : later ∈ after) (hflag : later.flag? = group.flag?)
    (hpart : group.isJoinPart = false) :
    Agrees ((before ++ group :: after).map Group.item) ((before ++ after).map Group.item) where
  flags flag? := by
    simp only [List.map_append, List.map_cons, List.map_map, List.mem_append, List.mem_cons]
    constructor
    · rintro (hbefore | rfl | hafter)
      · exact .inl hbefore
      · exact .inr (List.mem_map.mpr ⟨later, hlater, hflag⟩)
      · exact .inr hafter
    · rintro (hbefore | hafter)
      · exact .inl hbefore
      · exact .inr (.inr hafter)
  values flag := by
    rw [List.map_append, List.map_append, List.map_cons, lastValue?_append, lastValue?_append]
    congr 1
    cases hitem : group.item with
    | help => rfl
    | option f value =>
        rw [lastValue?_option]
        by_cases hf : f = flag
        · -- the value behind the group is the last one
          have hlast : ∃ value, lastValue? flag (after.map Group.item) = some value := by
            refine exists_lastValue?_iff.mpr ⟨later.item, List.mem_map_of_mem hlater, ?_⟩
            calc later.item.flag? = group.item.flag? := hflag
              _ = some flag := by rw [hitem, ← hf]; rfl
          obtain ⟨value', hvalue'⟩ := hlast
          rw [hvalue']
          rfl
        · rw [if_neg hf, Option.or_none]
  joins := by
    rw [foldlM_addJoin_filter, foldlM_addJoin_filter (before ++ after), List.filter_append,
      List.filter_append, List.filter_cons_of_neg (by simp [hpart])]

theorem readCommand_without {first : String} {before after : List Group} {group later : Group}
    (hlater : later ∈ after) (hflag : later.flag? = group.flag?)
    (hpart : group.isJoinPart = false) {command : Command}
    (h : readCommand (first :: argumentsOf (before ++ group :: after)) = .ok command) :
    readCommand (first :: argumentsOf (before ++ after)) = .ok command := by
  refine readCommand_of_agrees h (agrees_of_later hlater hflag hpart) fun hread other hother => ?_
  refine hread other ?_
  rw [List.mem_append] at hother ⊢
  exact hother.imp_right (List.mem_cons_of_mem group)

theorem readCommand_with {first : String} {before after : List Group} {group later : Group}
    (hlater : later ∈ after) (hflag : later.flag? = group.flag?)
    (hpart : group.isJoinPart = false) {command : Command} (hreadable : group.item.IsReadable)
    (h : readCommand (first :: argumentsOf (before ++ after)) = .ok command) :
    readCommand (first :: argumentsOf (before ++ group :: after)) = .ok command := by
  have hagrees : Agrees ((before ++ group :: after).map Group.item)
      ((before ++ after).map Group.item) := agrees_of_later hlater hflag hpart
  refine readCommand_of_agrees h hagrees.symm fun hread other hother => ?_
  rcases List.mem_append.mp hother with hbefore | hafter
  · exact hread other (List.mem_append_left after hbefore)
  · rcases List.mem_cons.mp hafter with rfl | hafter
    · exact hreadable
    · exact hread other (List.mem_append_right before hafter)

/-! ## Last values -/

/-- A command other than help is made from the last value of each option. -/
theorem commandOf_of_readCommand {first : String} {groups : List Group} {command : Command}
    (h : readCommand (first :: argumentsOf groups) = .ok command)
    (hcommand : ∀ topic, command ≠ .help topic) :
    ∃ (topic : Topic) (joins : List (String × JoinSpec)), first = topic.name ∧
      topic.commandOf (fun flag => lastValue? flag (groups.map Group.item)) joins =
        some command := by
  obtain ⟨topic, groups', harguments, -, -, joins, -, hmade⟩ :=
    (readCommand_eq_ok_iff hcommand).mp h
  obtain ⟨rfl, hgroups⟩ := List.cons.inj harguments
  obtain rfl := Group.argumentsOf_injective hgroups
  exact ⟨topic, joins, rfl, hmade⟩

/-- **The order of options does not matter**, but for the groups of one option and for joins and
conditions among one another. The command is made from the last value of each option. An option with
one value counts for nothing where it comes up again, but that a limit has to be a count. -/
theorem readCommand_of_order :
    (∀ (first : String) (groups groups' : List Group), Reorders groups groups' → ∀ command,
      readCommand (first :: argumentsOf groups) = .ok command ↔
        readCommand (first :: argumentsOf groups') = .ok command) ∧
    (∀ (first : String) (groups : List Group) (command : Command),
      readCommand (first :: argumentsOf groups) = .ok command →
      (∃ topic, command = .help topic) ∨
        ∃ (topic : Topic) (joins : List (String × JoinSpec)), first = topic.name ∧
          topic.commandOf (fun flag => lastValue? flag (groups.map Group.item)) joins =
            some command) ∧
    ∀ (first : String) (before after : List Group) (group : Group),
      group.isJoinPart = false → (∃ later ∈ after, later.flag? = group.flag?) → ∀ command,
        (readCommand (first :: argumentsOf (before ++ group :: after)) = .ok command →
          readCommand (first :: argumentsOf (before ++ after)) = .ok command) ∧
        (group.item.IsReadable →
          readCommand (first :: argumentsOf (before ++ after)) = .ok command →
          readCommand (first :: argumentsOf (before ++ group :: after)) = .ok command) := by
  refine ⟨?_, ?_, ?_⟩
  · intro first groups groups' hreorders command
    exact ⟨hreorders.readCommand_eq_ok, hreorders.symm.readCommand_eq_ok⟩
  · intro first groups command hread
    by_cases hhelp : ∃ topic, command = .help topic
    · exact .inl hhelp
    · exact .inr (commandOf_of_readCommand hread fun topic heq => hhelp ⟨topic, heq⟩)
  · rintro first before after group hpart ⟨later, hlater, hflag⟩ command
    exact ⟨readCommand_without hlater hflag hpart, readCommand_with hlater hflag hpart⟩

/-- A join with its condition goes before the table, which is given twice; the first table is left
out. -/
theorem readCommand_of_order_tables :
    let table : Group := .separate .table rfl "a"
    let groups := [table, .separate .join rfl "c", .attached .table "b", .bare .natural rfl]
    let groups' := [.separate .join rfl "c", .bare .natural rfl, table, .attached .table "b"]
    Reorders groups groups' ∧
      readCommand ("delete" :: argumentsOf groups') = .ok (.delete ⟨"b", [("c", .natural)]⟩ none) ∧
      readCommand ("delete" :: argumentsOf (groups.erase table)) =
        .ok (.delete ⟨"b", [("c", .natural)]⟩ none) ∧
      ∃ (topic : Topic) (joins : List (String × JoinSpec)), "delete" = topic.name ∧
        topic.commandOf (fun flag => lastValue? flag (groups.map Group.item)) joins =
          some (.delete ⟨"b", [("c", .natural)]⟩ none) := by
  intro table groups groups'
  obtain ⟨hreorders, hvalues, hlater⟩ := readCommand_of_order
  have hread : readCommand ("delete" :: argumentsOf groups) =
      .ok (.delete ⟨"b", [("c", .natural)]⟩ none) := by decide +kernel
  have horder : Reorders groups groups' := by
    refine ⟨by decide, fun flag => ?_, rfl⟩
    cases flag <;> rfl
  refine ⟨horder, (hreorders _ _ _ horder _).mp hread, ?_, ?_⟩
  · exact (hlater "delete" [] _ table rfl ⟨.attached .table "b", by decide, rfl⟩ _).1 hread
  · exact (hvalues "delete" groups _ hread).resolve_left nofun

end DocumentSql.CommandLine
