import DocumentSql.Proofs.CommandLine.Group
import DocumentSql.Proofs.CommandLine.Pairing

/-!
# Accepted command lines

What options hold is a function of the items that were read: of each option the last value, and
the joins. With it the whole way from arguments to a command is said at once, without the order in
which faults are looked for: which items are refused, which options a command allows and requires,
and from which values it is made.

* `optionsOf_eq_ok_iff`: what items leave in options.
* `Topic.command_eq_ok_iff`: which arguments give which command.
-/

set_option autoImplicit false

namespace DocumentSql.CommandLine

/-! ## Options of items -/

/-- The text of a limit is a count. Nothing else is asked of an item. -/
def Item.IsReadable (item : Item) : Prop :=
  ∀ text, item = .option .limit text → ∃ n, readCount text = .ok n

theorem Item.isReadable_of_ne_limit {flag : Flag} {value : String} (h : flag ≠ .limit) :
    (Item.option flag value).IsReadable := by
  intro text hitem
  cases hitem
  exact absurd rfl h

theorem lastValue?_append_help (flag : Flag) (items : List Item) :
    lastValue? flag (items ++ [.help]) = lastValue? flag items := by
  simp [lastValue?, valuesOf]

theorem lastValue?_append_option (flag f : Flag) (value : String) (items : List Item) :
    lastValue? flag (items ++ [.option f value]) =
      if f = flag then some value else lastValue? flag items := by
  by_cases hf : f = flag <;> simp [lastValue?, valuesOf, hf]

theorem exists_lastValue?_iff {flag : Flag} {items : List Item} :
    (∃ value, lastValue? flag items = some value) ↔ ∃ item ∈ items, item.flag? = some flag := by
  constructor
  · rintro ⟨value, hlast⟩
    have hvalue : value ∈ valuesOf flag items := List.mem_of_getLast? hlast
    exact ⟨_, mem_valuesOf.mp hvalue, rfl⟩
  · rintro ⟨item, hitem, hflag⟩
    cases item with
    | help => cases hflag
    | option f value =>
        cases hflag
        have hne : valuesOf flag items ≠ [] := List.ne_nil_of_mem (mem_valuesOf.mpr hitem)
        exact ⟨_, List.getLast?_eq_some_getLast hne⟩

namespace Options

/-- The options of items: the last value of each option, and the joins. -/
def ofItems (items : List Item) (joins : List (String × Option JoinSpec)) : Options where
  help := decide (Item.help ∈ items)
  given := items.filterMap Item.flag?
  table := lastValue? .table items
  joins := joins
  condition := lastValue? .condition items
  columns := ((lastValue? .columns items).map columnsOf).getD []
  post := lastValue? .post items
  row := lastValue? .row items
  assignments := lastValue? .assignments items
  keyword := lastValue? .keyword items
  column := lastValue? .column items
  limit := (lastValue? .limit items).bind fun text => (readCount text).toOption
  schema := lastValue? .schema items

theorem empty_eq_ofItems : empty = ofItems [] [] := rfl

/-- What one more item leaves. -/
theorem addItem_ofItems_eq_ok_iff {items : List Item} {joins : List (String × Option JoinSpec)}
    {item : Item} {o : Options} :
    (ofItems items joins).addItem item = .ok o ↔
      item.IsReadable ∧ ∃ joins', addJoin joins item = .ok joins' ∧
        o = ofItems (items ++ [item]) joins' := by
  cases item with
  | help =>
      simp [addItem, Item.IsReadable, addJoin, ofItems, lastValue?_append_help, Item.flag?,
        List.filterMap_cons, eq_comm]
  | option flag value =>
      rw [addItem, add, bind_eq_ok_iff]
      cases flag with
      | on | natural =>
          constructor
          · rintro ⟨o₁, hset, h⟩
            obtain ⟨joins', hjoins, hset⟩ := bind_eq_ok_iff.mp hset
            cases hset
            cases h
            refine ⟨Item.isReadable_of_ne_limit (by decide), joins', hjoins, ?_⟩
            simp [ofItems, lastValue?_append_option, Item.flag?]
          · rintro ⟨-, joins', hjoins, rfl⟩
            refine ⟨_, bind_eq_ok_iff.mpr ⟨joins', hjoins, rfl⟩, ?_⟩
            simp [ofItems, lastValue?_append_option, Item.flag?]
      | limit =>
          cases hcount : readCount value with
          | ok n =>
              simp [setValue, hcount, Item.IsReadable, addJoin, ofItems, lastValue?_append_option,
                Item.flag?, Except.toOption, eq_comm]
          | error fault => simp [setValue, hcount, Item.IsReadable]
      | _ =>
          simp [setValue, Item.IsReadable, addJoin, ofItems, lastValue?_append_option,
            Item.flag?, eq_comm]

/-- What more items leave. -/
theorem addItems_ofItems_eq_ok_iff {done items : List Item}
    {joins : List (String × Option JoinSpec)} {o : Options} :
    (ofItems done joins).addItems items = .ok o ↔
      (∀ item ∈ items, item.IsReadable) ∧ ∃ joins', items.foldlM addJoin joins = .ok joins' ∧
        o = ofItems (done ++ items) joins' := by
  induction items generalizing done joins with
  | nil =>
      rw [addItems, List.foldlM_nil, List.append_nil]
      constructor
      · intro h
        cases h
        exact ⟨by simp, joins, rfl, rfl⟩
      · rintro ⟨-, joins', h, rfl⟩
        cases h
        rfl
  | cons item items ih =>
      rw [addItems, bind_eq_ok_iff, List.foldlM_cons, List.forall_mem_cons]
      simp only [addItem_ofItems_eq_ok_iff, bind_eq_ok_iff]
      constructor
      · rintro ⟨_, ⟨hitem, joins₁, hjoins, rfl⟩, h⟩
        obtain ⟨hitems, joins', hjoins', rfl⟩ := ih.mp h
        refine ⟨⟨hitem, hitems⟩, joins', ⟨joins₁, hjoins, hjoins'⟩, ?_⟩
        rw [List.append_assoc, List.singleton_append]
      · rintro ⟨⟨hitem, hitems⟩, joins', ⟨joins₁, hjoins, hjoins'⟩, rfl⟩
        refine ⟨_, ⟨hitem, joins₁, hjoins, rfl⟩, ih.mpr ⟨hitems, joins', hjoins', ?_⟩⟩
        rw [List.append_assoc, List.singleton_append]

end Options

/-- **What items leave in options**: the last value of each option, and the joins. -/
theorem optionsOf_eq_ok_iff {arguments : List String} {o : Options} :
    optionsOf arguments = .ok o ↔
      ∃ items joins, itemsOf arguments = .ok items ∧ (∀ item ∈ items, item.IsReadable) ∧
        items.foldlM addJoin [] = .ok joins ∧ o = Options.ofItems items joins := by
  have hoptions : optionsOf arguments = .ok o ↔ readOptions Options.empty arguments = .ok o := by
    unfold optionsOf
    cases readOptions Options.empty arguments <;> simp
  rw [hoptions, readOptions_eq_ok_iff, Options.empty_eq_ofItems]
  simp only [Options.addItems_ofItems_eq_ok_iff, List.nil_append]
  constructor
  · rintro ⟨items, hitems, hread, joins, hjoins, rfl⟩
    exact ⟨items, joins, hitems, hread, hjoins, rfl⟩
  · rintro ⟨items, joins, hitems, hread, hjoins, rfl⟩
    exact ⟨items, hitems, hread, joins, hjoins, rfl⟩

/-! ## What a command allows and requires -/

/-- The table that a command works on, with the joins. -/
def Command.target? : Command → Option Target
  | .select target .. | .insert target .. | .update target .. | .delete target .. => some target
  | .help .. | .search .. => none

namespace Topic

/-- Each item is an option that the command allows. A request for help is none. -/
def Allows (topic : Topic) (items : List Item) : Prop :=
  ∀ item ∈ items, ∃ flag ∈ topic.allowed, item.flag? = some flag

/-- The options that a command requires. -/
def required : Topic → List Flag
  | .program => []
  | .select => [.table]
  | .insert => [.table, .row]
  | .update => [.table, .assignments]
  | .delete => [.table]
  | .search => []

/-- The commands that make a statement for a target. -/
def hasTarget : Topic → Bool
  | .select | .insert | .update | .delete => true
  | .program | .search => false

/-- The command that is made from the values of options and from joins with their conditions. -/
def commandOf (topic : Topic) (value? : Flag → Option String) (joins : List (String × JoinSpec)) :
    Option Command :=
  match topic with
  | .program => some (.help .program)
  | .select => do
      let table ← value? .table
      some (.select ⟨table, joins⟩ (value? .condition) (((value? .columns).map columnsOf).getD [])
        (value? .post))
  | .insert => do
      let table ← value? .table
      let row ← value? .row
      some (.insert ⟨table, joins⟩ row)
  | .update => do
      let table ← value? .table
      let assignments ← value? .assignments
      some (.update ⟨table, joins⟩ (value? .condition) assignments)
  | .delete => do
      let table ← value? .table
      some (.delete ⟨table, joins⟩ (value? .condition))
  | .search =>
      some (.search (value? .table) ((value? .keyword).getD "") (value? .column)
        ((value? .limit).bind fun text => (readCount text).toOption) (value? .schema))

/-- A command is made where the options that it requires have values. -/
theorem exists_commandOf_iff {topic : Topic} {value? : Flag → Option String}
    {joins : List (String × JoinSpec)} :
    (∃ command, topic.commandOf value? joins = some command) ↔
      ∀ flag ∈ topic.required, ∃ value, value? flag = some value := by
  cases topic <;> simp [commandOf, required, Option.bind_eq_some_iff]

/-- The target of a command is the table that is given, with the joins. -/
theorem target?_of_commandOf {topic : Topic} {value? : Flag → Option String}
    {joins : List (String × JoinSpec)} {command : Command}
    (h : topic.commandOf value? joins = some command) :
    command.target? =
      if topic.hasTarget then (value? .table).map fun table => ⟨table, joins⟩ else none := by
  cases topic with
  | program | search =>
      cases h
      rfl
  | select | delete =>
      obtain ⟨table, htable, h⟩ := Option.bind_eq_some_iff.mp h
      cases h
      rw [htable]
      rfl
  | insert | update =>
      obtain ⟨table, htable, h⟩ := Option.bind_eq_some_iff.mp h
      obtain ⟨value, -, h⟩ := Option.bind_eq_some_iff.mp h
      cases h
      rw [htable]
      rfl

/-- Items of which some ask for help are not allowed, and others are if their options are. -/
theorem allows_iff {topic : Topic} {items : List Item} :
    topic.Allows items ↔ Item.help ∉ items ∧
      (items.filterMap Item.flag?).find? (fun flag => !topic.allowed.contains flag) = none := by
  rw [List.find?_eq_none]
  constructor
  · intro h
    refine ⟨?_, ?_⟩
    · intro hhelp
      obtain ⟨flag, -, hflag⟩ := h _ hhelp
      cases hflag
    · intro flag hflag
      obtain ⟨item, hitem, hflag⟩ := List.mem_filterMap.mp hflag
      obtain ⟨flag', hallowed, hflag'⟩ := h item hitem
      rw [hflag] at hflag'
      cases hflag'
      simpa using hallowed
  · rintro ⟨hhelp, hallowed⟩ item hitem
    cases item with
    | help => exact absurd hitem hhelp
    | option flag value =>
        have hflag := hallowed flag (List.mem_filterMap.mpr ⟨_, hitem, rfl⟩)
        exact ⟨flag, by simpa using hflag, rfl⟩

end Topic

theorem target_ofItems_eq_ok_iff {items : List Item} {joins : List (String × Option JoinSpec)}
    {target : Target} :
    (Options.ofItems items joins).target = .ok target ↔
      joins = completed target.joins ∧ lastValue? .table items = some target.table := by
  have htable : (Options.ofItems items joins).table = lastValue? .table items := rfl
  unfold Options.target
  rw [htable]
  cases lastValue? .table items with
  | none => simp
  | some table =>
      simp only [bind_eq_ok_iff, completeJoins_eq_ok_iff]
      constructor
      · rintro ⟨specs, hjoins, h⟩
        cases h
        exact ⟨hjoins, rfl⟩
      · rintro ⟨hjoins, htable⟩
        cases htable
        exact ⟨target.joins, hjoins, rfl⟩

/-- A command with a target is made from the table and from joins that have their conditions. -/
theorem exists_target_ofItems_iff {items : List Item} {joins : List (String × Option JoinSpec)}
    {command : Command} {make : Target → Except ArgumentFault Command} :
    ((Options.ofItems items joins).target >>= make) = .ok command ↔
      ∃ specs, joins = completed specs ∧ ∃ table, lastValue? .table items = some table ∧
        make ⟨table, specs⟩ = .ok command := by
  rw [bind_eq_ok_iff]
  simp only [target_ofItems_eq_ok_iff]
  constructor
  · rintro ⟨⟨table, specs⟩, ⟨hjoins, htable⟩, hmake⟩
    exact ⟨specs, hjoins, table, htable, hmake⟩
  · rintro ⟨specs, hjoins, table, htable, hmake⟩
    exact ⟨⟨table, specs⟩, ⟨hjoins, htable⟩, hmake⟩

theorem command_ofItems_of_hasTarget {topic : Topic} (htopic : topic.hasTarget = true)
    {items : List Item} {joins : List (String × Option JoinSpec)} {command : Command} :
    (Options.ofItems items joins).command topic = .ok command ↔
      ∃ specs, joins = completed specs ∧
        topic.commandOf (fun flag => lastValue? flag items) specs = some command := by
  cases topic with
  | program | search => cases htopic
  | select | delete =>
      rw [Options.command, exists_target_ofItems_iff]
      simp [Topic.commandOf, Option.bind_eq_some_iff, Options.ofItems]
  | insert =>
      rw [Options.command, exists_target_ofItems_iff]
      have hrow : (Options.ofItems items joins).row = lastValue? .row items := rfl
      cases hvalue : lastValue? .row items <;>
        simp [Topic.commandOf, Option.bind_eq_some_iff, hrow, hvalue]
  | update =>
      rw [Options.command, exists_target_ofItems_iff]
      have hassignments :
          (Options.ofItems items joins).assignments = lastValue? .assignments items := rfl
      have hcondition : (Options.ofItems items joins).condition = lastValue? .condition items := rfl
      cases hvalue : lastValue? .assignments items <;>
        simp [Topic.commandOf, Option.bind_eq_some_iff, hassignments, hcondition, hvalue]

/-- A command without a target does not look at joins. -/
theorem command_ofItems_of_not_hasTarget {topic : Topic} (htopic : topic.hasTarget = false)
    (items : List Item) (joins : List (String × Option JoinSpec))
    (specs : List (String × JoinSpec)) (command : Command) :
    (Options.ofItems items joins).command topic = .ok command ↔
      topic.commandOf (fun flag => lastValue? flag items) specs = some command := by
  cases topic with
  | program | search => simp [Options.command, Topic.commandOf, Options.ofItems]
  | _ => cases htopic

/-! ## Which arguments are accepted -/

/-- A command that has no target allows no join and no condition of one. -/
theorem foldlM_addJoin_of_allows {topic : Topic} (htopic : topic.hasTarget = false)
    {items : List Item} (hallows : topic.Allows items) : items.foldlM addJoin [] = .ok [] := by
  induction items with
  | nil => rfl
  | cons item items ih =>
      obtain ⟨⟨flag, hflag, hitem⟩, hallows⟩ := List.forall_mem_cons.mp hallows
      have hjoin : flag ≠ .join ∧ flag ≠ .on ∧ flag ≠ .natural := by
        cases topic with
        | program => cases hflag
        | search => refine ⟨?_, ?_, ?_⟩ <;> rintro rfl <;> exact absurd hflag (by decide)
        | _ => cases htopic
      have hnone : addJoin [] item = .ok [] := by
        cases item with
        | help => cases hitem
        | option f value =>
            cases hitem
            cases flag <;> simp at hjoin <;> rfl
      rw [List.foldlM_cons, hnone]
      exact ih hallows

theorem exists_command_ofItems_iff {topic : Topic} {items : List Item}
    (hallows : topic.Allows items) {command : Command} :
    (∃ joins, items.foldlM addJoin [] = .ok joins ∧
        (Options.ofItems items joins).command topic = .ok command) ↔
      ∃ specs, Paired items specs ∧
        topic.commandOf (fun flag => lastValue? flag items) specs = some command := by
  simp only [← foldlM_addJoin_eq_completed_iff]
  cases htopic : topic.hasTarget with
  | true =>
      simp only [command_ofItems_of_hasTarget htopic]
      constructor
      · rintro ⟨joins, hjoins, specs, rfl, hcommand⟩
        exact ⟨specs, hjoins, hcommand⟩
      · rintro ⟨specs, hjoins, hcommand⟩
        exact ⟨_, hjoins, specs, rfl, hcommand⟩
  | false =>
      -- joins are not looked at, but there are none: a join is not among the options allowed
      have hnone := foldlM_addJoin_of_allows htopic hallows
      constructor
      · rintro ⟨joins, -, hcommand⟩
        exact ⟨[], hnone, (command_ofItems_of_not_hasTarget htopic ..).mp hcommand⟩
      · rintro ⟨specs, -, hcommand⟩
        exact ⟨[], hnone, (command_ofItems_of_not_hasTarget htopic ..).mpr hcommand⟩

/-- **Which arguments give which command.** Help is shown where it is asked for and all items can
be read. Else the items have to be allowed, the joins paired, and what is required given. -/
theorem Topic.command_eq_ok_iff {topic : Topic} {arguments : List String} {command : Command} :
    topic.command arguments = .ok command ↔
      ∃ items, itemsOf arguments = .ok items ∧ (∀ item ∈ items, item.IsReadable) ∧
        ((Item.help ∈ items ∧ (∃ joins, items.foldlM addJoin [] = .ok joins) ∧
            command = .help topic) ∨
          topic.Allows items ∧ ∃ joins, Paired items joins ∧
            topic.commandOf (fun flag => lastValue? flag items) joins = some command) := by
  rw [Topic.command, bind_eq_ok_iff]
  simp only [optionsOf_eq_ok_iff]
  constructor
  · rintro ⟨_, ⟨items, joins, hitems, hread, hjoins, rfl⟩, hcommand⟩
    refine ⟨items, hitems, hread, ?_⟩
    by_cases hhelp : Item.help ∈ items
    · have hasked : (Options.ofItems items joins).help = true := decide_eq_true hhelp
      rw [if_pos hasked] at hcommand
      cases hcommand
      exact .inl ⟨hhelp, ⟨joins, hjoins⟩, rfl⟩
    · have hasked : ¬ (Options.ofItems items joins).help = true := by
        simpa [Options.ofItems] using hhelp
      rw [if_neg hasked] at hcommand
      split at hcommand
      · cases hcommand
      · next hfind =>
          have hallows : topic.Allows items := Topic.allows_iff.mpr ⟨hhelp, hfind⟩
          exact .inr ⟨hallows, (exists_command_ofItems_iff hallows).mp ⟨joins, hjoins, hcommand⟩⟩
  · rintro ⟨items, hitems, hread, ⟨hhelp, ⟨joins, hjoins⟩, rfl⟩ | ⟨hallows, hcommand⟩⟩
    · refine ⟨_, ⟨items, joins, hitems, hread, hjoins, rfl⟩, ?_⟩
      exact if_pos (decide_eq_true hhelp)
    · obtain ⟨joins, hjoins, hcommand⟩ := (exists_command_ofItems_iff hallows).mpr hcommand
      obtain ⟨hhelp, hfind⟩ := Topic.allows_iff.mp hallows
      refine ⟨_, ⟨items, joins, hitems, hread, hjoins, rfl⟩, ?_⟩
      have hasked : ¬ (Options.ofItems items joins).help = true := by
        simpa [Options.ofItems] using hhelp
      have hgiven : (Options.ofItems items joins).given = items.filterMap Item.flag? := rfl
      rw [if_neg hasked, hgiven, hfind]
      exact hcommand

/-- A command line with another command than help begins with the name of a command. -/
theorem exists_topic_of_readCommand {arguments : List String} {command : Command}
    (h : readCommand arguments = .ok command) (hcommand : ∀ topic, command ≠ .help topic) :
    ∃ (topic : Topic) (rest : List String),
      arguments = topic.name :: rest ∧ topic.command rest = .ok command := by
  cases arguments with
  | nil =>
      cases h
      exact absurd rfl (hcommand .program)
  | cons first rest =>
      rw [readCommand] at h
      split at h
      · cases h
        exact absurd rfl (hcommand .program)
      · split at h
        · next topic htopic =>
            have hname := List.find?_some htopic
            exact ⟨topic, rest, by rw [of_decide_eq_true hname], h⟩
        · cases h

/-- **Which command lines are accepted**, but for those that show help. -/
theorem readCommand_eq_ok_iff {arguments : List String} {command : Command}
    (hcommand : ∀ topic, command ≠ .help topic) :
    readCommand arguments = .ok command ↔
      ∃ (topic : Topic) (groups : List Group), arguments = topic.name :: Group.argumentsOf groups ∧
        (∀ item ∈ groups.map Group.item, item.IsReadable) ∧
        topic.Allows (groups.map Group.item) ∧ ∃ joins, Paired (groups.map Group.item) joins ∧
          topic.commandOf (fun flag => lastValue? flag (groups.map Group.item)) joins =
            some command := by
  constructor
  · intro h
    obtain ⟨topic, rest, rfl, htopic⟩ := exists_topic_of_readCommand h hcommand
    obtain ⟨items, hitems, hread, hcase⟩ := Topic.command_eq_ok_iff.mp htopic
    obtain ⟨groups, rfl, rfl⟩ := Group.itemsOf_eq_ok_iff.mp hitems
    rcases hcase with ⟨-, -, hhelp⟩ | haccepted
    · exact absurd hhelp (hcommand topic)
    · exact ⟨topic, groups, rfl, hread, haccepted⟩
  · rintro ⟨topic, groups, rfl, hread, hallows, joins, hjoins, hmade⟩
    have htopic : topic ≠ .program := by
      rintro rfl
      cases hmade
      exact hcommand .program rfl
    rw [readCommand_name htopic, Topic.command_eq_ok_iff]
    exact ⟨_, Group.itemsOf_argumentsOf groups, hread, .inr ⟨hallows, joins, hjoins, hmade⟩⟩

end DocumentSql.CommandLine
