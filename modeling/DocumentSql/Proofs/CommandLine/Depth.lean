import DocumentSql.Proofs.CommandLine.Printing
import DocumentSql.Proofs.Condition.Depth
import DocumentSql.Proofs.Search.Validity

/-!
# No command line is too deep

What stands on a command line has been read as a document before it is read as a condition, and a
document that is read has at most 127 levels. With so many levels the limit on combinators is never
met: neither the readers of a command nor its statement refuse a condition as too deep.

* `CommandLine.fitsAt_of_conditionOf`: every condition of a command fits.
* `CommandLine.never_too_deep`: no command fails because a condition is too deep.
-/

set_option autoImplicit false

namespace DocumentSql

/-! ## Directives and joins -/

theorem SortDirection.ofJson_ne_tooDeep (v : Json) : ofJson v ≠ .error .conditionTooDeep := by
  unfold ofJson
  split <;> simp

namespace PostProcess

theorem sortOfMembers_ne_tooDeep (members : List (String × Json)) :
    sortOfMembers members ≠ .error .conditionTooDeep := by
  induction members with
  | nil => simp [sortOfMembers]
  | cons member members ih =>
      exact bind_ne_error (SortDirection.ofJson_ne_tooDeep member.2) fun _ _ =>
        bind_ne_error ih (by simp)

theorem countOfJson_ne_tooDeep (key : String) (v : Json) :
    countOfJson key v ≠ .error .conditionTooDeep := by
  unfold countOfJson
  split
  · split
    · simp
    · split <;> simp
  · simp

theorem addMember_ne_tooDeep (p : PostProcess) (key : String) (v : Json) :
    p.addMember key v ≠ .error .conditionTooDeep := by
  unfold addMember
  split
  · split
    · exact bind_ne_error (sortOfMembers_ne_tooDeep _) (by simp)
    · simp
  · split
    · exact bind_ne_error (countOfJson_ne_tooDeep key v) (by simp)
    · split
      · exact bind_ne_error (countOfJson_ne_tooDeep key v) (by simp)
      · simp

theorem addMembers_ne_tooDeep (p : PostProcess) (members : List (String × Json)) :
    p.addMembers members ≠ .error .conditionTooDeep := by
  induction members generalizing p with
  | nil => simp [addMembers]
  | cons member members ih =>
      exact bind_ne_error (p.addMember_ne_tooDeep member.1 member.2) fun p' _ => ih p'

theorem ofJson_ne_tooDeep (v : Json) : ofJson v ≠ .error .conditionTooDeep := by
  unfold ofJson
  split
  · exact addMembers_ne_tooDeep empty _
  · simp

end PostProcess

namespace JoinCondition

theorem pairsOfMembers_ne_tooDeep (members : List (String × Json)) :
    pairsOfMembers members ≠ .error .conditionTooDeep := by
  induction members with
  | nil => simp [pairsOfMembers]
  | cons member members ih =>
      obtain ⟨table, v⟩ := member
      cases v with
      | string column => exact bind_ne_error ih (by simp)
      | _ => simp [pairsOfMembers]

theorem ofJson_ne_tooDeep (v : Json) : ofJson v ≠ .error .conditionTooDeep := by
  unfold ofJson
  split
  · split <;> simp
  · exact bind_ne_error (pairsOfMembers_ne_tooDeep _) (by simp)
  · simp

end JoinCondition

/-! ## Statements -/

namespace Statement

theorem guardWrite_ne_schema (table : TableRef) (verb : String) (fault : SchemaFault) :
    guardWrite table verb ≠ .error (.schema fault) := by
  unfold guardWrite
  split <;> simp

theorem ofSchema_whereClause_ne_tooDeep {c : Condition} (h : c.FitsAt 0) :
    QueryError.ofSchema c.whereClause ≠ .error (.schema .conditionTooDeep) :=
  mt ofSchema_eq_error_iff.mp (Condition.whereClause_ne_tooDeep h)

/-- A statement is not refused as too deep where its condition fits. -/
theorem compile_ne_tooDeep {s : Statement} (h : ∀ c ∈ s.condition?, c.FitsAt 0) :
    s.compile ≠ .error (.schema .conditionTooDeep) := by
  cases s with
  | insert table row =>
      refine bind_ne_error (guardWrite_ne_schema table _ _) fun _ _ => ?_
      split <;> simp
  | select table c columns post =>
      exact bind_ne_error (ofSchema_whereClause_ne_tooDeep (h c rfl)) (by simp)
  | update table c row =>
      refine bind_ne_error (guardWrite_ne_schema table _ _) fun _ _ => ?_
      split
      · simp
      · exact bind_ne_error (ofSchema_whereClause_ne_tooDeep (h c rfl)) (by simp)
  | delete table c =>
      exact bind_ne_error (guardWrite_ne_schema table _ _) fun _ _ =>
        bind_ne_error (ofSchema_whereClause_ne_tooDeep (h c rfl)) (by simp)

end Statement

namespace CommandLine

/-- A condition is too deep. -/
def tooDeep : CommandError := .query (.schema .conditionTooDeep)

theorem ofSchema_ne_tooDeep {α : Type} {x : Except SchemaFault α}
    (h : x ≠ .error .conditionTooDeep) : ofSchema x ≠ .error tooDeep :=
  mt ofSchema_eq_error_iff.mp h

theorem ofQuery_ne_tooDeep {α : Type} {x : Except QueryError α}
    (h : x ≠ .error (.schema .conditionTooDeep)) : ofQuery x ≠ .error tooDeep :=
  mt ofQuery_eq_error_iff.mp h

theorem documentOf_ne_tooDeep (flag : Flag) (text : String) :
    documentOf flag text ≠ .error tooDeep := by
  unfold documentOf
  split <;> simp [tooDeep]

theorem conditionOf_ne_tooDeep (text : Option String) : conditionOf text ≠ .error tooDeep := by
  cases text with
  | none => simp [conditionOf]
  | some text =>
      refine bind_ne_error (documentOf_ne_tooDeep .condition text) fun v hv => ?_
      have hlevels : v.levels ≤ Json.deepest := Json.levels_le_of_read (documentOf_eq_ok_iff.mp hv)
      exact ofSchema_ne_tooDeep (Condition.ofJson_ne_tooDeep hlevels)

/-- **Every condition of a command fits.** -/
theorem fitsAt_of_conditionOf {text : Option String} {c : Condition}
    (h : conditionOf text = .ok c) : c.FitsAt 0 := by
  cases text with
  | none =>
      cases h
      exact (Condition.fitsAt_iff_of_ne_group (by simp)).mpr (Nat.zero_le _)
  | some text =>
      obtain ⟨v, hread, hc⟩ := conditionOf_some_eq_ok_iff.mp h
      exact Condition.fitsAt_of_levels (Json.levels_le_of_read hread) hc

theorem postOf_ne_tooDeep (text : Option String) : postOf text ≠ .error tooDeep := by
  cases text with
  | none => simp [postOf]
  | some text =>
      exact bind_ne_error (documentOf_ne_tooDeep .post text) fun v _ =>
        ofSchema_ne_tooDeep (PostProcess.ofJson_ne_tooDeep v)

theorem rowOf_ne_tooDeep (flag : Flag) (text : String) : rowOf flag text ≠ .error tooDeep := by
  refine bind_ne_error (documentOf_ne_tooDeep flag text) fun v _ => ?_
  split <;> simp [tooDeep]

theorem joinConditionOf_ne_tooDeep (spec : JoinSpec) : joinConditionOf spec ≠ .error tooDeep := by
  cases spec with
  | natural => simp [joinConditionOf]
  | on text =>
      exact bind_ne_error (documentOf_ne_tooDeep .on text) fun v _ =>
        ofSchema_ne_tooDeep (JoinCondition.ofJson_ne_tooDeep v)

theorem joinAll_ne_tooDeep (table : TableRef) (joins : List (String × JoinSpec)) :
    joinAll table joins ≠ .error tooDeep := by
  induction joins generalizing table with
  | nil => simp [joinAll]
  | cons join joins ih =>
      refine bind_ne_error (joinConditionOf_ne_tooDeep join.2) fun condition _ => ?_
      split
      · exact ih _
      · simp [tooDeep]

theorem tableOf_ne_tooDeep (target : Target) : tableOf target ≠ .error tooDeep :=
  joinAll_ne_tooDeep _ target.joins

theorem printStatement_ne_tooDeep {s : Statement} (h : ∀ c ∈ s.condition?, c.FitsAt 0) :
    printStatement s ≠ .error tooDeep :=
  bind_ne_error (ofQuery_ne_tooDeep (Statement.compile_ne_tooDeep h)) (by simp)

/-! ## Searches -/

theorem loadSchema_ne_schema (files : Files) (path : String) (fault : SchemaFault) :
    loadSchema files path ≠ .error (.schema fault) := by
  unfold loadSchema
  split
  · simp
  · split <;> simp

theorem validate_of_loadSchema {files : Files} {path : String} {schema : SearchSchema}
    (h : loadSchema files path = .ok schema) : schema.validate = .ok () := by
  unfold loadSchema at h
  split at h
  · cases h
  · split at h
    · cases h
    · next hschema =>
        cases h
        exact SearchSchema.validate_of_ofToml hschema

theorem chooseSchema_ne_schema (files : Files) (path : Option String) (fault : SchemaFault) :
    chooseSchema files path ≠ .error (.schema fault) := by
  cases path with
  | some path => exact bind_ne_error (loadSchema_ne_schema files path fault) (by simp)
  | none =>
      rw [chooseSchema]
      split
      · exact bind_ne_error (loadSchema_ne_schema files _ fault) (by simp)
      · simp

/-- A schema that is chosen has passed the check. -/
theorem validate_of_chooseSchema {files : Files} {path : Option String} {schema : SearchSchema}
    {events : List Event} (h : chooseSchema files path = .ok (schema, events)) :
    schema.validate = .ok () := by
  cases path with
  | some path =>
      obtain ⟨schema', hload, h⟩ := bind_eq_ok_iff.mp h
      cases h
      exact validate_of_loadSchema hload
  | none =>
      rw [chooseSchema] at h
      split at h
      · obtain ⟨schema', hload, h⟩ := bind_eq_ok_iff.mp h
        cases h
        exact validate_of_loadSchema hload
      · cases h
        rfl

theorem plan_ne_tooDeep (schema : SearchSchema) (request : SearchRequest) :
    schema.plan request ≠ .error .conditionTooDeep := by
  unfold SearchSchema.plan
  split
  · simp
  · refine bind_ne_error ?_ (by simp)
    unfold SearchSchema.checkColumn
    split
    · simp
    · split <;> simp

theorem printSearch_ne_tooDeep (files : Files) (path : Option String) (request : SearchRequest) :
    printSearch files path request ≠ .error tooDeep := by
  refine bind_ne_error (ofQuery_ne_tooDeep (chooseSchema_ne_schema files path _)) ?_
  rintro ⟨schema, events⟩ hschema
  refine bind_ne_error (ofSchema_ne_tooDeep (plan_ne_tooDeep schema request)) fun plan hplan => ?_
  -- the schema has passed the check, so that every plan has a text
  have hvalid := validate_of_chooseSchema (ofQuery_eq_ok_iff.mp hschema)
  obtain ⟨sql, hsql⟩ :=
    (SearchSchema.validate_eq_ok_iff.mp hvalid).exists_sql (ofSchema_eq_ok_iff.mp hplan)
  rw [hsql]
  simp [ofQuery, bind, Except.bind]

/-! ## Commands -/

theorem Command.run_ne_tooDeep (files : Files) (command : Command) :
    command.run files ≠ .error tooDeep := by
  cases command with
  | help topic => simp [run]
  | select target condition columns post =>
      refine bind_ne_error (postOf_ne_tooDeep post) fun p _ => ?_
      refine bind_ne_error (tableOf_ne_tooDeep target) fun table _ => ?_
      refine bind_ne_error (conditionOf_ne_tooDeep condition) fun c hc => ?_
      refine printStatement_ne_tooDeep ?_
      rintro _ ⟨⟩
      exact fitsAt_of_conditionOf hc
  | insert target row =>
      refine bind_ne_error (tableOf_ne_tooDeep target) fun table _ => ?_
      refine bind_ne_error (rowOf_ne_tooDeep .row row) fun r _ => ?_
      refine printStatement_ne_tooDeep ?_
      rintro _ ⟨⟩
  | update target condition assignments =>
      refine bind_ne_error (tableOf_ne_tooDeep target) fun table _ => ?_
      refine bind_ne_error (conditionOf_ne_tooDeep condition) fun c hc => ?_
      refine bind_ne_error (rowOf_ne_tooDeep .assignments assignments) fun r _ => ?_
      refine printStatement_ne_tooDeep ?_
      rintro _ ⟨⟩
      exact fitsAt_of_conditionOf hc
  | delete target condition =>
      refine bind_ne_error (tableOf_ne_tooDeep target) fun table _ => ?_
      refine bind_ne_error (conditionOf_ne_tooDeep condition) fun c hc => ?_
      refine printStatement_ne_tooDeep ?_
      rintro _ ⟨⟩
      exact fitsAt_of_conditionOf hc
  | search table keyword column limit schema => exact printSearch_ne_tooDeep files schema _

/-- **The limit on combinators is never met on a command line.** A condition takes two levels of
its document for each combinator and one more. In a document with at most 127 levels the reader of
conditions comes through at most 63 combinators, also where it refuses the document; neither it nor
the statement refuses the condition as too deep. The documents that are read are such documents. -/
theorem never_too_deep :
    (∀ v c, Condition.ofJson v = .ok c → ∀ k d, c.HasPart k d → 2 * k + 1 ≤ v.levels) ∧
    (∀ v, Condition.ofJson v = .error .conditionTooDeep ↔
      ∃ depth w, Condition.Reaches 0 v depth w ∧ 64 < depth) ∧
    (∀ v : Json, v.levels ≤ 127 →
      (∀ depth w, Condition.Reaches 0 v depth w → depth ≤ 63) ∧
      Condition.ofJson v ≠ .error .conditionTooDeep ∧
      ∀ c, Condition.ofJson v = .ok c → c.whereClause ≠ .error .conditionTooDeep) ∧
    (∀ text v, Json.read text = .ok v → v.levels ≤ 127) ∧
    ∀ files arguments, run files arguments ≠ .error (.query (.schema .conditionTooDeep)) := by
  refine ⟨fun v c => Condition.levels_of_hasPart, fun v => Condition.ofJsonAt_eq_tooDeep_iff 0 v,
    fun v hv => ⟨fun depth w => Condition.le_of_reaches hv, Condition.ofJson_ne_tooDeep hv, ?_⟩,
    fun text v => Json.levels_le_of_read, fun files arguments => ?_⟩
  · intro c hc
    exact Condition.whereClause_ne_tooDeep (Condition.fitsAt_of_levels hv hc)
  · unfold run
    split
    · simp
    · exact Command.run_ne_tooDeep files _

/-- One combinator over one comparison, and a document that is read. -/
theorem never_too_deep_single :
    let item : Json := .object [("a", .number (.integer 1))]
    let v : Json := .object [("$and", .array [item])]
    let leaf : Condition := .compare "a" .eq (.number (.integer 1))
    (Condition.ofJson v = .ok (.and [leaf]) ∧ (Condition.and [leaf]).HasPart 1 leaf ∧
      2 * 1 + 1 ≤ v.levels) ∧
    (v.levels ≤ 127 ∧ Condition.Reaches 0 v 1 item ∧ 1 ≤ 63 ∧
      Condition.ofJson v ≠ .error .conditionTooDeep ∧
      (Condition.and [leaf]).whereClause ≠ .error .conditionTooDeep) ∧
    Json.read " \x7b \x7d" = .ok (.object []) ∧ (Json.object []).levels ≤ 127 := by
  intro item v leaf
  have hcondition : Condition.ofJson v = .ok (.and [leaf]) := rfl
  have hpart : (Condition.and [leaf]).HasPart 1 leaf := .operand List.mem_cons_self (.self leaf)
  have hmost : v.levels ≤ 127 := by decide
  have hreach : Condition.Reaches 0 v 1 item := by
    refine (Condition.reaches_combinator_iff .and).mpr (.inr ?_)
    exact ⟨Nat.zero_le _, [], item, [], [], rfl, rfl, .self 1 item⟩
  have hread : Json.read " \x7b \x7d" = .ok (.object []) :=
    (Json.read_eq_object_nil_iff _).mpr (by decide)
  obtain ⟨hlevels, -, hdocuments, hreader, -⟩ := never_too_deep
  obtain ⟨hway, hanswer, hclause⟩ := hdocuments v hmost
  exact ⟨⟨hcondition, hpart, hlevels v _ hcondition 1 leaf hpart⟩,
    ⟨hmost, hreach, hway 1 item hreach, hanswer, hclause _ hcondition⟩, hread,
    hreader _ _ hread⟩

end CommandLine

end DocumentSql
