import DocumentSql.Proofs.CommandLine.Items
import DocumentSql.Proofs.CommandLine.Spelling

/-!
# Groups of arguments

The arguments of one item of the command line are a group: a request for help, an option with its
value in the next argument or behind an equals sign, or an option that takes no value. Arguments
that fall into items are cut into groups in exactly one way.

* `itemsOf_eq_ok_iff`: the items of arguments are those of their groups.
* `argumentsOf_injective`: the groups are determined by the arguments.
-/

set_option autoImplicit false

namespace DocumentSql.CommandLine

/-- The option of an item. -/
def Item.flag? : Item → Option Flag
  | .help => none
  | .option flag _ => some flag

/-- The arguments of one item. -/
inductive Group where
  | help (argument : String) (hargument : IsHelp argument)
  /-- An option whose value is the next argument. -/
  | separate (flag : Flag) (hflag : flag.takesValue = true) (value : String)
  /-- An option with a text behind an equals sign, also one that takes no value. -/
  | attached (flag : Flag) (value : String)
  /-- An option that takes no value. -/
  | bare (flag : Flag) (hflag : flag.takesValue = false)
deriving DecidableEq

namespace Group

/-- The arguments of a group. -/
def arguments : Group → List String
  | .help argument _ => [argument]
  | .separate flag _ value => [flag.name, value]
  | .attached flag value => [flag.name ++ "=" ++ value]
  | .bare flag _ => [flag.name]

/-- The item of a group. -/
def item : Group → Item
  | .help .. => .help
  | .separate flag _ value => .option flag value
  | .attached flag value => .option flag value
  | .bare flag _ => .option flag ""

/-- The option of a group. -/
def flag? (group : Group) : Option Flag := group.item.flag?

/-- What the first argument of a group is. -/
def token : Group → Token
  | .help .. => .help
  | .separate flag .. => .option flag none
  | .attached flag value => .option flag (some value)
  | .bare flag _ => .option flag none

/-- The arguments of groups, one group after the other. -/
def argumentsOf (groups : List Group) : List String := groups.flatMap arguments

theorem argumentsOf_cons (group : Group) (groups : List Group) :
    argumentsOf (group :: groups) = group.arguments ++ argumentsOf groups := List.flatMap_cons

/-! ## The items of groups -/

theorem itemsOf_group (group : Group) (rest : List String) :
    itemsOf (group.arguments ++ rest) =
      itemsOf rest >>= fun items => .ok (group.item :: items) := by
  cases group with
  | help argument hargument =>
      show itemsOf (argument :: rest) = _
      rw [itemsOf, Token.ofArgument_eq_help_iff.mpr hargument]
      rfl
  | separate flag hflag value =>
      show itemsOf (flag.name :: value :: rest) = _
      rw [itemsOf.eq_def]
      simp only [Token.ofArgument_name, hflag, if_true]
      rfl
  | attached flag value =>
      show itemsOf ((flag.name ++ "=" ++ value) :: rest) = _
      rw [itemsOf, Token.ofArgument_attached]
      rfl
  | bare flag hflag =>
      show itemsOf (flag.name :: rest) = _
      rw [itemsOf.eq_def]
      simp only [Token.ofArgument_name, hflag, Bool.false_eq_true, if_false]
      rfl

theorem itemsOf_argumentsOf (groups : List Group) :
    itemsOf (argumentsOf groups) = .ok (groups.map item) := by
  induction groups with
  | nil => rfl
  | cons group groups ih =>
      rw [argumentsOf_cons, itemsOf_group, ih]
      rfl

/-- A group before others. -/
theorem exists_groups_cons (group : Group) {rest : List String} {items : List Item}
    (ih : ∀ {items}, itemsOf rest = .ok items →
      ∃ groups, argumentsOf groups = rest ∧ groups.map item = items)
    (h : (itemsOf rest >>= fun items => .ok (group.item :: items)) = .ok items) :
    ∃ groups, argumentsOf groups = group.arguments ++ rest ∧ groups.map item = items := by
  obtain ⟨items, hrest, h⟩ := bind_eq_ok_iff.mp h
  cases h
  obtain ⟨groups, harguments, hitems⟩ := ih hrest
  exact ⟨group :: groups, by rw [argumentsOf_cons, harguments], by rw [List.map_cons, hitems]⟩

theorem exists_groups_of_itemsOf {arguments : List String} {items : List Item}
    (h : itemsOf arguments = .ok items) :
    ∃ groups, argumentsOf groups = arguments ∧ groups.map item = items := by
  fun_induction itemsOf arguments generalizing items with
  | case1 =>
      cases h
      exact ⟨[], rfl, rfl⟩
  | case2 argument rest htoken ih =>
      exact exists_groups_cons (.help argument (Token.ofArgument_eq_help_iff.mp htoken)) ih h
  | case3 => cases h
  | case4 argument rest flag value htoken ih =>
      obtain rfl := Token.ofArgument_eq_option_iff.mp htoken
      exact exists_groups_cons (.attached flag value) ih h
  | case5 => cases h
  | case6 argument flag htoken hflag value rest ih =>
      obtain rfl := Token.ofArgument_eq_option_iff.mp htoken
      exact exists_groups_cons (.separate flag hflag value) ih h
  | case7 argument rest flag htoken hflag ih =>
      obtain rfl := Token.ofArgument_eq_option_iff.mp htoken
      exact exists_groups_cons (.bare flag (by simpa using hflag)) ih h

/-- **The items of arguments** are those of groups that the arguments are cut into. -/
theorem itemsOf_eq_ok_iff {arguments : List String} {items : List Item} :
    itemsOf arguments = .ok items ↔
      ∃ groups, argumentsOf groups = arguments ∧ groups.map item = items := by
  constructor
  · exact exists_groups_of_itemsOf
  · rintro ⟨groups, rfl, rfl⟩
    exact itemsOf_argumentsOf groups

/-- Options are read group by group. -/
theorem readOptions_group (o : Options) (group : Group) (rest : List String) :
    readOptions o (group.arguments ++ rest) =
      o.addItem group.item >>= fun o => readOptions o rest := by
  cases group with
  | help argument hargument =>
      show readOptions o (argument :: rest) = _
      rw [readOptions, Token.ofArgument_eq_help_iff.mpr hargument]
      rfl
  | separate flag hflag value => exact readOptions_separate o hflag value rest
  | attached flag value => exact readOptions_attached o flag value rest
  | bare flag hflag => exact readOptions_bare o hflag rest

/-! ## One cut -/

theorem token_head (group : Group) (rest : List String) :
    (group.arguments ++ rest).head?.map Token.ofArgument = some group.token := by
  cases group with
  | help argument hargument => exact congrArg some (Token.ofArgument_eq_help_iff.mpr hargument)
  | separate flag => exact congrArg some (Token.ofArgument_name flag)
  | attached flag value => exact congrArg some (Token.ofArgument_attached flag value)
  | bare flag => exact congrArg some (Token.ofArgument_name flag)

/-- The first group is determined by the arguments, and so is what follows it. -/
theorem arguments_append_inj {group group' : Group} {rest rest' : List String}
    (h : group.arguments ++ rest = group'.arguments ++ rest') : group = group' ∧ rest = rest' := by
  -- the first arguments are the same option; whether one has a value behind it is up to the option
  have htoken : group.token = group'.token := by
    have hsome : some group.token = some group'.token := by
      rw [← group.token_head rest, h, group'.token_head rest']
    exact Option.some.inj hsome
  cases group with
  | help argument hargument =>
      cases group' with
      | help argument' hargument' =>
          cases h
          exact ⟨rfl, rfl⟩
      | _ => cases htoken
  | separate flag hflag value =>
      cases group' with
      | separate flag' hflag' value' =>
          cases htoken
          cases h
          exact ⟨rfl, rfl⟩
      | bare flag' hflag' =>
          cases htoken
          rw [hflag] at hflag'
          cases hflag'
      | _ => cases htoken
  | attached flag value =>
      cases group' with
      | attached flag' value' =>
          cases htoken
          exact ⟨rfl, (List.cons.inj h).2⟩
      | _ => cases htoken
  | bare flag hflag =>
      cases group' with
      | separate flag' hflag' value' =>
          cases htoken
          rw [hflag] at hflag'
          cases hflag'
      | bare flag' hflag' =>
          cases htoken
          exact ⟨rfl, (List.cons.inj h).2⟩
      | _ => cases htoken

theorem argumentsOf_cons_ne_nil (group : Group) (groups : List Group) :
    argumentsOf (group :: groups) ≠ [] := by
  intro h
  have hhead := group.token_head (argumentsOf groups)
  rw [← argumentsOf_cons, h] at hhead
  cases hhead

/-- **Arguments are cut in one way.** -/
theorem argumentsOf_injective {groups groups' : List Group}
    (h : argumentsOf groups = argumentsOf groups') : groups = groups' := by
  induction groups generalizing groups' with
  | nil =>
      cases groups' with
      | nil => rfl
      | cons group' groups' => exact absurd h.symm (argumentsOf_cons_ne_nil group' groups')
  | cons group groups ih =>
      cases groups' with
      | nil => exact absurd h (argumentsOf_cons_ne_nil group groups)
      | cons group' groups' =>
          obtain ⟨rfl, hrest⟩ := arguments_append_inj h
          rw [ih hrest]

end Group

end DocumentSql.CommandLine
