import DocumentSql.CommandLine.Command
import DocumentSql.Proofs.Result

/-!
# Items of the command line

The arguments after a command fall into items: requests for help, and options with their values.
Where one item ends and the next one begins does not depend on what was read before. Options are
read one item after the other, and `Options.Takes` says once what an item leaves in them.

* `readOptions_eq_ok_iff`: options are read item by item.
* `text?_of_addItems`: of several values of an option, the last one counts.
* `joins_of_addItems`: every joined table is kept, in order.
-/

set_option autoImplicit false

namespace DocumentSql.CommandLine

/-- A request for help, or an option with its value. -/
inductive Item where
  | help
  | option (flag : Flag) (value : String)
deriving DecidableEq

/-- The items of the arguments after a command. An option that takes no value has an empty one. -/
def itemsOf : List String → Except OptionFault (List Item)
  | [] => .ok []
  | argument :: rest =>
      match Token.ofArgument argument with
      | .help => do
          let items ← itemsOf rest
          .ok (.help :: items)
      | .unknown name => .error (.unknown name)
      | .option flag (some value) => do
          let items ← itemsOf rest
          .ok (.option flag value :: items)
      | .option flag none =>
          if flag.takesValue then
            match rest with
            | [] => .error (.missingValue flag)
            | value :: rest => do
                let items ← itemsOf rest
                .ok (.option flag value :: items)
          else do
            let items ← itemsOf rest
            .ok (.option flag "" :: items)

/-- The values of an option, in order. -/
def valuesOf (flag : Flag) (items : List Item) : List String :=
  items.filterMap fun
    | .option f value => if f = flag then some value else none
    | .help => none

/-- The last value of an option. -/
def lastValue? (flag : Flag) (items : List Item) : Option String := (valuesOf flag items).getLast?

/-- The last value of the option is kept as it was given. -/
def Flag.keepsText : Flag → Bool
  | .table | .condition | .post | .row | .assignments | .keyword | .column | .schema => true
  | .join | .on | .natural | .columns | .limit => false

namespace Options

/-- The value that is kept for an option. -/
def text? (o : Options) : Flag → Option String
  | .table => o.table
  | .condition => o.condition
  | .post => o.post
  | .row => o.row
  | .assignments => o.assignments
  | .keyword => o.keyword
  | .column => o.column
  | .schema => o.schema
  | .join | .on | .natural | .columns | .limit => none

/-- The options with one more item. -/
def addItem (o : Options) : Item → Except OptionFault Options
  | .help => .ok { o with help := true }
  | .option flag value => o.add flag value

/-- The options with more items, one after the other. -/
def addItems : Options → List Item → Except OptionFault Options
  | o, [] => .ok o
  | o, item :: items => do
      let o ← o.addItem item
      o.addItems items

end Options

/-! ## Reading item by item -/

/-- An item is added first, and those after it then. -/
theorem exists_items_cons (o o' : Options) (item : Item)
    (rest : Except OptionFault (List Item)) :
    (∃ items, (rest >>= fun items => .ok (item :: items)) = .ok items ∧
        o.addItems items = .ok o') ↔
      ∃ o₁, o.addItem item = .ok o₁ ∧ ∃ items, rest = .ok items ∧ o₁.addItems items = .ok o' := by
  constructor
  · rintro ⟨items, hitems, hadd⟩
    obtain ⟨items, hrest, h⟩ := bind_eq_ok_iff.mp hitems
    cases h
    obtain ⟨o₁, hitem, hadd⟩ := bind_eq_ok_iff.mp hadd
    exact ⟨o₁, hitem, items, hrest, hadd⟩
  · rintro ⟨o₁, hitem, items, hrest, hadd⟩
    exact ⟨item :: items, bind_eq_ok_iff.mpr ⟨items, hrest, rfl⟩,
      bind_eq_ok_iff.mpr ⟨o₁, hitem, hadd⟩⟩

/-- **Options are read item by item.** -/
theorem readOptions_eq_ok_iff (o o' : Options) (arguments : List String) :
    readOptions o arguments = .ok o' ↔
      ∃ items, itemsOf arguments = .ok items ∧ o.addItems items = .ok o' := by
  -- the cases are those of the reader: an item takes one argument or two, and only then is the
  -- next one looked at
  fun_induction readOptions o arguments with
  | case1 o => simp [itemsOf, Options.addItems]
  | case2 o argument rest htoken ih =>
      rw [ih, itemsOf, htoken]
      simp [exists_items_cons, Options.addItem]
  | case3 o argument rest name htoken =>
      rw [itemsOf, htoken]
      simp
  | case4 o argument rest flag value htoken ih =>
      rw [itemsOf, htoken, bind_eq_ok_iff, exists_items_cons]
      simp only [ih, Options.addItem]
  | case5 o argument flag htoken hvalue =>
      rw [itemsOf, htoken]
      simp [hvalue]
  | case6 o argument flag htoken hvalue value rest ih =>
      rw [itemsOf, htoken]
      simp only [hvalue, if_true]
      rw [bind_eq_ok_iff, exists_items_cons]
      simp only [ih, Options.addItem]
  | case7 o argument rest flag htoken hvalue ih =>
      rw [itemsOf, htoken]
      simp only [hvalue, if_false, Bool.false_eq_true]
      rw [bind_eq_ok_iff, exists_items_cons]
      simp only [ih, Options.addItem]

/-! ## Values -/

theorem valuesOf_option (flag f : Flag) (value : String) (items : List Item) :
    valuesOf flag (.option f value :: items) =
      (if f = flag then [value] else []) ++ valuesOf flag items := by
  by_cases hf : f = flag <;> simp [valuesOf, hf]

theorem mem_valuesOf {flag : Flag} {value : String} {items : List Item} :
    value ∈ valuesOf flag items ↔ Item.option flag value ∈ items := by
  rw [valuesOf, List.mem_filterMap]
  constructor
  · rintro ⟨item, hitem, hvalue⟩
    cases item with
    | help => cases hvalue
    | option f v =>
        simp only [Option.ite_none_right_eq_some, Option.some.injEq] at hvalue
        obtain ⟨rfl, rfl⟩ := hvalue
        exact hitem
  · intro hitem
    exact ⟨_, hitem, by simp⟩

theorem lastValue?_option (flag f : Flag) (value : String) (items : List Item) :
    lastValue? flag (.option f value :: items) =
      (lastValue? flag items).or (if f = flag then some value else none) := by
  rw [lastValue?, valuesOf_option, List.getLast?_append]
  by_cases hf : f = flag <;> simp [lastValue?, hf]

namespace Options

/-! ## What an item leaves -/

/-- A condition of the last join leaves the joined tables. -/
theorem tables_of_setLastJoin {flag : Flag} {spec : JoinSpec}
    {joins joins' : List (String × Option JoinSpec)}
    (h : setLastJoin flag spec joins = .ok joins') :
    joins'.map Prod.fst = joins.map Prod.fst := by
  fun_induction setLastJoin flag spec joins generalizing joins' with
  | case1 => cases h
  | case2 table =>
      cases h
      rfl
  | case3 => cases h
  | case4 join rest _ _ ih =>
      obtain ⟨rest', hrest, h⟩ := bind_eq_ok_iff.mp h
      cases h
      rw [List.map_cons, List.map_cons, ih hrest]

/-- The options `o'` are `o` with one more option and its value. -/
structure Takes (o : Options) (flag : Flag) (value : String) (o' : Options) : Prop where
  help : o'.help = o.help
  text : ∀ f : Flag, f.keepsText → o'.text? f = if flag = f then some value else o.text? f
  tables : o'.joins.map Prod.fst = o.joins.map Prod.fst ++ if flag = .join then [value] else []

/-- What an option leaves. -/
theorem takes_of_add {o o' : Options} {flag : Flag} {value : String}
    (h : o.add flag value = .ok o') : o.Takes flag value o' := by
  obtain ⟨o₁, hset, h⟩ := bind_eq_ok_iff.mp h
  cases h
  cases flag with
  | on | natural =>
      obtain ⟨joins, hjoins, hset⟩ := bind_eq_ok_iff.mp hset
      cases hset
      refine ⟨rfl, ?_, by simp [tables_of_setLastJoin hjoins]⟩
      intro f hf
      cases f <;> cases hf <;> rfl
  | limit =>
      rw [setValue] at hset
      split at hset <;> cases hset
      refine ⟨rfl, ?_, by simp⟩
      intro f hf
      cases f <;> cases hf <;> rfl
  | _ =>
      cases hset
      refine ⟨rfl, ?_, by simp⟩
      intro f hf
      cases f <;> cases hf <;> rfl

/-! ## What all items leave -/

theorem addItems_cons_eq_ok {o o' : Options} {item : Item} {items : List Item}
    (h : o.addItems (item :: items) = .ok o') :
    ∃ o₁, o.addItem item = .ok o₁ ∧ o₁.addItems items = .ok o' := bind_eq_ok_iff.mp h

/-- Help is asked for once it was asked for. -/
theorem help_of_addItems {o o' : Options} {items : List Item} (h : o.addItems items = .ok o') :
    o'.help = true ↔ o.help = true ∨ Item.help ∈ items := by
  induction items generalizing o with
  | nil =>
      cases h
      simp
  | cons item items ih =>
      obtain ⟨o₁, hitem, hrest⟩ := addItems_cons_eq_ok h
      rw [ih hrest]
      cases item with
      | help =>
          cases hitem
          simp
      | option flag value =>
          rw [(takes_of_add hitem).help]
          simp

/-- **Of several values of an option, the last one counts.** -/
theorem text?_of_addItems {o o' : Options} {items : List Item} (h : o.addItems items = .ok o')
    {flag : Flag} (hflag : flag.keepsText) :
    o'.text? flag = (lastValue? flag items).or (o.text? flag) := by
  induction items generalizing o with
  | nil =>
      cases h
      rfl
  | cons item items ih =>
      obtain ⟨o₁, hitem, hrest⟩ := addItems_cons_eq_ok h
      rw [ih hrest]
      cases item with
      | help =>
          cases hitem
          cases flag <;> rfl
      | option f value =>
          rw [(takes_of_add hitem).text flag hflag, lastValue?_option, Option.or_assoc]
          by_cases hf : f = flag <;> simp [hf]

/-- **Every joined table is kept, in order.** -/
theorem joins_of_addItems {o o' : Options} {items : List Item} (h : o.addItems items = .ok o') :
    o'.joins.map Prod.fst = o.joins.map Prod.fst ++ valuesOf .join items := by
  induction items generalizing o with
  | nil =>
      cases h
      exact (List.append_nil _).symm
  | cons item items ih =>
      obtain ⟨o₁, hitem, hrest⟩ := addItems_cons_eq_ok h
      rw [ih hrest]
      cases item with
      | help =>
          cases hitem
          rfl
      | option flag value =>
          rw [(takes_of_add hitem).tables, valuesOf_option, List.append_assoc]

end Options

/-! ## Commands -/

theorem readCommand_name {topic : Topic} (htopic : topic ≠ .program) (arguments : List String) :
    readCommand (topic.name :: arguments) = topic.command arguments := by
  cases topic with
  | program => exact absurd rfl htopic
  | _ => rfl

end DocumentSql.CommandLine
