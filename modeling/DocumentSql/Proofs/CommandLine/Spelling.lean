import DocumentSql.CommandLine.Command
import DocumentSql.Proofs.Result

/-!
# Two spellings of an option

The value of an option is the next argument, or it stands behind an equals sign in the argument of
the option. An argument is cut at its first equals sign, and no name of an option has one, so that
nothing in a value can be taken for a part of a name. Which arguments are options depends on those
before them alone: an argument that is a value is not looked at.

* `Token.ofArgument_eq_option_iff`: which argument is which option.
* `readCommand_of_spelling`: both spellings give the same command, or the same fault.
-/

set_option autoImplicit false

namespace DocumentSql.CommandLine

/-! ## Names of options -/

/-- The name of an option in letters: two hyphens, and no equals sign. -/
def IsLong (name : String) : Prop := ['-', '-'] <+: name.toList ∧ '=' ∉ name.toList

instance (name : String) : Decidable (IsLong name) := inferInstanceAs (Decidable (_ ∧ _))

theorem isLong_help : IsLong "--help" := by decide

theorem Flag.isLong_name (flag : Flag) : IsLong flag.name := by cases flag <;> decide

theorem Flag.ofName?_name (flag : Flag) : Flag.ofName? flag.name = some flag := by
  cases flag <;> rfl

theorem Flag.ofName?_eq_some_iff {name : String} {flag : Flag} :
    Flag.ofName? name = some flag ↔ name = flag.name := by
  constructor
  · intro h
    have hname := List.find?_some h
    exact (of_decide_eq_true hname).symm
  · rintro rfl
    exact flag.ofName?_name

theorem Flag.name_injective {flag flag' : Flag} (h : flag.name = flag'.name) : flag = flag' := by
  have hsome : some flag = some flag' := by rw [← flag.ofName?_name, h, flag'.ofName?_name]
  exact Option.some.inj hsome

/-! ## Arguments that are cut -/

/-- An argument with an equals sign behind two hyphens is cut there. -/
theorem cutArgument_eq_some_iff {argument name value : String} :
    cutArgument argument = (name, some value) ↔ IsLong name ∧ argument = name ++ "=" ++ value := by
  constructor
  · intro h
    unfold cutArgument at h
    split at h
    · next cs text hcut =>
        obtain ⟨hargument, hmark⟩ := Text.eq_of_cutAt '=' hcut
        cases h
        refine ⟨⟨⟨cs, by simp⟩, by simpa using hmark⟩, ?_⟩
        rw [← String.toList_inj, hargument]
        simp
    · cases h
  · rintro ⟨⟨⟨cs, hname⟩, hmark⟩, rfl⟩
    have htext : (name ++ "=" ++ value).toList = name.toList ++ '=' :: value.toList := by simp
    have hcut : Text.cutAt '=' (name ++ "=" ++ value).toList =
        some ('-' :: '-' :: cs, value.toList) := by
      rw [htext, Text.cutAt_append hmark, ← hname]
      rfl
    have hback : String.ofList ('-' :: '-' :: cs) = name := by
      rw [← String.toList_inj, String.toList_ofList, ← hname]
      rfl
    unfold cutArgument
    rw [hcut]
    simp only [hback, String.ofList_toList]

/-- An argument that is not cut is left as it is. -/
theorem eq_of_cutArgument {argument name : String} (h : cutArgument argument = (name, none)) :
    name = argument := by
  unfold cutArgument at h
  split at h <;> cases h
  rfl

/-- A text without an equals sign is not cut. -/
theorem cutArgument_of_not_mem {argument : String} (h : '=' ∉ argument.toList) :
    cutArgument argument = (argument, none) := by
  rcases hcut : cutArgument argument with ⟨name, value?⟩
  cases value? with
  | none => rw [eq_of_cutArgument hcut]
  | some value =>
      obtain ⟨-, rfl⟩ := cutArgument_eq_some_iff.mp hcut
      simp at h

/-! ## What an argument is -/

/-- A request for help, as an argument. What follows an equals sign does not count. -/
def IsHelp (argument : String) : Prop :=
  argument = "-h" ∨ argument = "--help" ∨ ∃ text, argument = "--help" ++ "=" ++ text

namespace Token

theorem ofArgument_of_cut {argument name : String} {value? : Option String}
    (h : cutArgument argument = (name, value?)) :
    ofArgument argument =
      if name = "-h" || name = "--help" then .help
      else
        match Flag.ofName? name with
        | some flag => .option flag value?
        | none => .unknown name := by
  cases hflag : Flag.ofName? name <;> simp only [ofArgument, h, hflag]

/-- No option has a name that asks for help. -/
theorem ofArgument_of_name {argument : String} {flag : Flag} {value? : Option String}
    (h : cutArgument argument = (flag.name, value?)) :
    ofArgument argument = .option flag value? := by
  have hhelp : (flag.name = "-h" || flag.name = "--help") = false := by cases flag <;> decide
  rw [ofArgument_of_cut h, hhelp, flag.ofName?_name]
  rfl

/-- An option alone is its name, and an option with a value has an equals sign between them. -/
theorem ofArgument_eq_option_iff {argument : String} {flag : Flag} {value? : Option String} :
    ofArgument argument = .option flag value? ↔
      argument = value?.elim flag.name fun value => flag.name ++ "=" ++ value := by
  constructor
  · intro h
    rcases hcut : cutArgument argument with ⟨name, cut?⟩
    rw [ofArgument_of_cut hcut] at h
    split at h
    · cases h
    · split at h
      · next f hname =>
          cases h
          obtain rfl := Flag.ofName?_eq_some_iff.mp hname
          cases value? with
          | none => exact (eq_of_cutArgument hcut).symm
          | some value => exact (cutArgument_eq_some_iff.mp hcut).2
      · cases h
  · intro h
    apply ofArgument_of_name
    cases value? with
    | none => exact h ▸ cutArgument_of_not_mem flag.isLong_name.2
    | some value => exact cutArgument_eq_some_iff.mpr ⟨flag.isLong_name, h⟩

theorem ofArgument_name (flag : Flag) : ofArgument flag.name = .option flag none :=
  ofArgument_eq_option_iff.mpr rfl

theorem ofArgument_attached (flag : Flag) (value : String) :
    ofArgument (flag.name ++ "=" ++ value) = .option flag (some value) :=
  ofArgument_eq_option_iff.mpr rfl

theorem ofArgument_eq_help_iff {argument : String} :
    ofArgument argument = .help ↔ IsHelp argument := by
  constructor
  · intro h
    rcases hcut : cutArgument argument with ⟨name, cut?⟩
    rw [ofArgument_of_cut hcut] at h
    split at h
    · next hname =>
        simp only [Bool.or_eq_true, decide_eq_true_eq] at hname
        cases cut? with
        | none =>
            obtain rfl := eq_of_cutArgument hcut
            exact hname.imp_right .inl
        | some text =>
            obtain ⟨hlong, hargument⟩ := cutArgument_eq_some_iff.mp hcut
            rcases hname with rfl | rfl
            · -- with one hyphen, `-h=` is not cut
              exact absurd hlong (by decide)
            · exact .inr (.inr ⟨text, hargument⟩)
    · split at h <;> cases h
  · rintro (rfl | rfl | ⟨text, rfl⟩)
    · rfl
    · rfl
    · rw [ofArgument_of_cut (cutArgument_eq_some_iff.mpr ⟨isLong_help, rfl⟩)]
      rfl

end Token

/-! ## Reading one option -/

/-- An option with a value behind an equals sign. -/
theorem readOptions_attached (o : Options) (flag : Flag) (value : String) (rest : List String) :
    readOptions o ((flag.name ++ "=" ++ value) :: rest) =
      o.add flag value >>= fun o => readOptions o rest := by
  rw [readOptions, Token.ofArgument_attached]

/-- An option whose value is the next argument. -/
theorem readOptions_separate (o : Options) {flag : Flag} (hflag : flag.takesValue = true)
    (value : String) (rest : List String) :
    readOptions o (flag.name :: value :: rest) =
      o.add flag value >>= fun o => readOptions o rest := by
  rw [readOptions.eq_def]
  simp only [Token.ofArgument_name, hflag, if_true]

/-- An option that takes no value. -/
theorem readOptions_bare (o : Options) {flag : Flag} (hflag : flag.takesValue = false)
    (rest : List String) :
    readOptions o (flag.name :: rest) = o.add flag "" >>= fun o => readOptions o rest := by
  rw [readOptions.eq_def]
  simp only [Token.ofArgument_name, hflag, Bool.false_eq_true, if_false]

/-! ## Places of options -/

/-- The argument is an option alone, whose value is the next argument. -/
def AwaitsValue (argument : String) : Prop :=
  ∃ flag : Flag, flag.takesValue = true ∧ argument = flag.name

/-- None of the arguments awaits a value behind the last of them: what follows is read as an
option. An argument that is a value may have the form of an option, and does not await one. -/
inductive EndAtOption : List String → Prop where
  | nil : EndAtOption []
  | cons {argument : String} {rest : List String} (hvalue : ¬ AwaitsValue argument)
      (hrest : EndAtOption rest) : EndAtOption (argument :: rest)
  | value {argument : String} (value : String) {rest : List String} (hvalue : AwaitsValue argument)
      (hrest : EndAtOption rest) : EndAtOption (argument :: value :: rest)

/-- Arguments that are read alike from the place of an option on are read alike behind the same
arguments. -/
theorem readOptions_append_congr {before after after' : List String} (hbefore : EndAtOption before)
    (h : ∀ o, readOptions o after = readOptions o after') (o : Options) :
    readOptions o (before ++ after) = readOptions o (before ++ after') := by
  -- along the places of options, not along the arguments: a value is skipped with its option,
  -- whatever it looks like
  induction hbefore generalizing o with
  | nil => exact h o
  | @cons argument rest hvalue hrest ih =>
      rw [List.cons_append, List.cons_append]
      cases htoken : Token.ofArgument argument with
      | help => simp only [readOptions, htoken, ih]
      | unknown name => simp only [readOptions, htoken]
      | option flag value? =>
          have hargument := Token.ofArgument_eq_option_iff.mp htoken
          cases value? with
          | some value =>
              rw [show argument = flag.name ++ "=" ++ value from hargument,
                readOptions_attached, readOptions_attached]
              simp only [ih]
          | none =>
              have hname : argument = flag.name := hargument
              have hflag : flag.takesValue = false := by
                cases hsome : flag.takesValue with
                | false => rfl
                | true => exact absurd ⟨flag, hsome, hname⟩ hvalue
              rw [hname, readOptions_bare o hflag, readOptions_bare o hflag]
              simp only [ih]
  | @value argument value rest hvalue hrest ih =>
      obtain ⟨flag, hflag, rfl⟩ := hvalue
      rw [List.cons_append, List.cons_append, List.cons_append, List.cons_append,
        readOptions_separate o hflag, readOptions_separate o hflag]
      simp only [ih]

/-- Arguments that are read alike give the same command, or the same fault. -/
theorem readCommand_congr (first : String) {rest rest' : List String}
    (h : ∀ o, readOptions o rest = readOptions o rest') :
    readCommand (first :: rest) = readCommand (first :: rest') := by
  simp only [readCommand, Topic.command, optionsOf, h]

/-- **Both spellings of an option** give the same command or the same fault, at every place of an
option and for every value. -/
theorem readCommand_of_spelling (first : String) {before : List String}
    (hbefore : EndAtOption before) {flag : Flag} (hflag : flag.takesValue = true) (value : String)
    (after : List String) :
    readCommand (first :: before ++ (flag.name ++ "=" ++ value) :: after) =
      readCommand (first :: before ++ flag.name :: value :: after) := by
  apply readCommand_congr
  apply readOptions_append_congr hbefore
  intro o
  rw [readOptions_attached, readOptions_separate o hflag]

/-- The value is the name of another option with an equals sign. Before it stand an option whose
value is the name of the option itself, and one that takes no value. -/
theorem readCommand_of_spelling_name :
    let before := ["--table", "--where", "--join", "Breed", "--natural"]
    let command : Command :=
      .select ⟨"--where", [("Breed", .natural)]⟩ (some "--table=") ["name"] none
    EndAtOption before ∧ Flag.condition.takesValue = true ∧
      readCommand ("select" :: before ++ ("--where" ++ "=" ++ "--table=") ::
        ["--columns", "name"]) = .ok command ∧
      readCommand ("select" :: before ++ "--where" :: "--table=" :: ["--columns", "name"]) =
        .ok command := by
  intro before command
  have hnatural : ¬ AwaitsValue "--natural" := by
    rintro ⟨flag, hflag, hname⟩
    obtain rfl : Flag.natural = flag := Flag.name_injective hname
    cases hflag
  have hbefore : EndAtOption before :=
    .value "--where" ⟨.table, rfl, rfl⟩ (.value "Breed" ⟨.join, rfl, rfl⟩ (.cons hnatural .nil))
  have hflag : Flag.condition.takesValue = true := rfl
  have hseparate : readCommand
      ("select" :: before ++ "--where" :: "--table=" :: ["--columns", "name"]) = .ok command := by
    rw [← toOption_eq_some_iff]
    decide +kernel
  refine ⟨hbefore, hflag, ?_, hseparate⟩
  exact (readCommand_of_spelling "select" hbefore hflag "--table=" ["--columns", "name"]).trans
    hseparate

end DocumentSql.CommandLine
