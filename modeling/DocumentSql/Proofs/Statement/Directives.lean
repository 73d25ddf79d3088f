import DocumentSql.Proofs.Statement.Reading

/-!
# Directives and their documents

A document describes directives when it is an object whose members are all directives. Each member
sets one part of the result, and the parts of different directives do not touch each other.
Members with different keys may therefore stand in any order, and each can be looked at as if it
stood in front. The text of directives is read as the directives it was made of.

* `Json.IsDirectives`: the documents that describe directives.
* `PostProcess.addMembers_of_perm`: the order of the members does not matter.
* `PostProcess.directives_of_document`: which documents are read, what they describe, and what
  their text says.
-/

set_option autoImplicit false

namespace DocumentSql

open Lexical

/-! ## The grammar -/

namespace Json

/-- What may stand beside the key of a directive. -/
inductive IsDirective : String → Json → Prop where
  /-- Columns, each with the integer `1` or `-1`. -/
  | sort {columns : List (String × Json)}
      (h : ∀ column ∈ columns,
        column.2 = .number (.integer 1) ∨ column.2 = .number (.integer (-1))) :
      IsDirective "$sort" (.object columns)
  | limit {n : Nat} (h : n < UInt64.size) : IsDirective "$limit" (.number (.integer n))
  | offset {n : Nat} (h : n < UInt64.size) : IsDirective "$offset" (.number (.integer n))

/-- The documents that describe directives. -/
def IsDirectives (v : Json) : Prop :=
  ∃ members, v = .object members ∧ ∀ m ∈ members, IsDirective m.1 m.2

end Json

/-! ## One member -/

/-- The document of a direction. -/
def SortDirection.json : SortDirection → Json
  | .ascending => .number (.integer 1)
  | .descending => .number (.integer (-1))

theorem SortDirection.ofJson_eq_ok_iff {v : Json} {direction : SortDirection} :
    ofJson v = .ok direction ↔ v = direction.json := by
  unfold ofJson
  split
  · cases direction <;> simp [json]
  · cases direction <;> simp [json]
  · next h h' =>
    cases direction
    · simpa [json] using h
    · simpa [json] using h'

namespace PostProcess

/-- The member of a document that describes a sort column. -/
def sortMember (entry : String × SortDirection) : String × Json := (entry.1, entry.2.json)

theorem sortOfMembers_eq_ok_iff {members : List (String × Json)}
    {columns : List (String × SortDirection)} :
    sortOfMembers members = .ok columns ↔ members = columns.map sortMember := by
  induction members generalizing columns with
  | nil => cases columns <;> simp [sortOfMembers]
  | cons member members ih =>
      rw [sortOfMembers, bind_eq_ok_iff]
      simp only [bind_eq_ok_iff, SortDirection.ofJson_eq_ok_iff, ih, Except.ok.injEq]
      constructor
      · rintro ⟨direction, hdirection, rest, rfl, rfl⟩
        rw [List.map_cons, sortMember, ← hdirection]
      · cases columns with
        | nil => simp
        | cons entry columns =>
            rw [List.map_cons, List.cons.injEq]
            rintro ⟨rfl, rfl⟩
            exact ⟨entry.2, rfl, columns, rfl, rfl⟩

theorem countOfJson_eq_ok_iff {key : String} {v : Json} {n : Nat} :
    countOfJson key v = .ok n ↔ n < UInt64.size ∧ v = .number (.integer n) := by
  unfold countOfJson
  split
  · next m =>
    rw [guarded_eq_ok_iff, guarded_eq_ok_iff]
    simp only [Except.ok.injEq, Json.number.injEq, JsonNumber.integer.injEq,
      JsonNumber.greatestInteger, UInt64.size]
    omega
  · next hinteger =>
    simp only [reduceCtorEq, false_iff, not_and]
    exact fun _ hv => hinteger _ hv

/-- What a member of a document makes of the directives before it. -/
inductive Adds (p : PostProcess) (key : String) : Json → PostProcess → Prop where
  | sort (hkey : key = "$sort") (columns : List (String × SortDirection)) :
      Adds p key (.object (columns.map sortMember)) { p with sort := p.sort ++ columns }
  | limit (hkey : key = "$limit") {n : Nat} (h : n < UInt64.size) :
      Adds p key (.number (.integer n)) (p.withLimit n)
  | offset (hkey : key = "$offset") {n : Nat} (h : n < UInt64.size) :
      Adds p key (.number (.integer n)) (p.withOffset n)

/-- **One member of a document.** -/
theorem addMember_eq_ok_iff {p q : PostProcess} {key : String} {value : Json} :
    p.addMember key value = .ok q ↔ Adds p key value q := by
  constructor
  · intro h
    unfold addMember at h
    split at h
    · next hkey =>
      split at h
      · obtain ⟨columns, hcolumns, h⟩ := bind_eq_ok_iff.mp h
        cases h
        rw [sortOfMembers_eq_ok_iff.mp hcolumns]
        exact .sort hkey columns
      · cases h
    · split at h
      · next hkey =>
        obtain ⟨n, hn, h⟩ := bind_eq_ok_iff.mp h
        cases h
        obtain ⟨hsize, rfl⟩ := countOfJson_eq_ok_iff.mp hn
        exact .limit hkey hsize
      · split at h
        · next hkey =>
          obtain ⟨n, hn, h⟩ := bind_eq_ok_iff.mp h
          cases h
          obtain ⟨hsize, rfl⟩ := countOfJson_eq_ok_iff.mp hn
          exact .offset hkey hsize
        · cases h
  · rintro (⟨rfl, columns⟩ | ⟨rfl, hsize⟩ | ⟨rfl, hsize⟩)
    · exact bind_eq_ok_iff.mpr ⟨columns, sortOfMembers_eq_ok_iff.mpr rfl, rfl⟩
    · exact bind_eq_ok_iff.mpr ⟨_, countOfJson_eq_ok_iff.mpr ⟨hsize, rfl⟩, rfl⟩
    · exact bind_eq_ok_iff.mpr ⟨_, countOfJson_eq_ok_iff.mpr ⟨hsize, rfl⟩, rfl⟩

/-- Columns with the numbers of directions beside them are those of sort columns. -/
theorem exists_eq_map_sortMember {columns : List (String × Json)}
    (h : ∀ column ∈ columns,
      column.2 = .number (.integer 1) ∨ column.2 = .number (.integer (-1))) :
    ∃ entries : List (String × SortDirection), columns = entries.map sortMember := by
  induction columns with
  | nil => exact ⟨[], rfl⟩
  | cons column columns ih =>
      obtain ⟨hcolumn, hrest⟩ := List.forall_mem_cons.mp h
      obtain ⟨entries, rfl⟩ := ih hrest
      obtain ⟨name, value⟩ := column
      rcases hcolumn with rfl | rfl
      · exact ⟨(name, .ascending) :: entries, rfl⟩
      · exact ⟨(name, .descending) :: entries, rfl⟩

/-- A member is read where it is a directive, whatever was read before. -/
theorem exists_adds_iff {p : PostProcess} {key : String} {value : Json} :
    (∃ q, Adds p key value q) ↔ Json.IsDirective key value := by
  constructor
  · rintro ⟨q, ⟨rfl, columns⟩ | ⟨rfl, hsize⟩ | ⟨rfl, hsize⟩⟩
    · refine .sort (List.forall_mem_map.mpr ?_)
      rintro ⟨column, direction⟩ -
      cases direction
      · exact .inl rfl
      · exact .inr rfl
    · exact .limit hsize
    · exact .offset hsize
  · rintro (hcolumns | hsize | hsize)
    · obtain ⟨entries, rfl⟩ := exists_eq_map_sortMember hcolumns
      exact ⟨_, .sort rfl entries⟩
    · exact ⟨_, .limit rfl hsize⟩
    · exact ⟨_, .offset rfl hsize⟩

/-! ## All members -/

theorem addMembers_cons_eq_ok_iff {p q : PostProcess} {member : String × Json}
    {members : List (String × Json)} :
    addMembers p (member :: members) = .ok q ↔
      ∃ p', Adds p member.1 member.2 p' ∧ addMembers p' members = .ok q := by
  rw [addMembers, bind_eq_ok_iff]
  simp only [addMember_eq_ok_iff]

/-- **Members are read** where each of them is a directive. -/
theorem addMembers_accepts_iff (p : PostProcess) (members : List (String × Json)) :
    (∃ q, addMembers p members = .ok q) ↔ ∀ m ∈ members, Json.IsDirective m.1 m.2 := by
  induction members generalizing p with
  | nil => simp [addMembers]
  | cons member members ih =>
      rw [List.forall_mem_cons, ← exists_adds_iff (p := p)]
      simp only [addMembers_cons_eq_ok_iff]
      constructor
      · rintro ⟨q, p', hadds, hrest⟩
        exact ⟨⟨p', hadds⟩, (ih p').mp ⟨q, hrest⟩⟩
      · rintro ⟨⟨p', hadds⟩, hrest⟩
        obtain ⟨q, hq⟩ := (ih p').mpr hrest
        exact ⟨q, p', hadds, hq⟩

theorem ofJson_accepts_iff (v : Json) : (∃ p, ofJson v = .ok p) ↔ v.IsDirectives := by
  constructor
  · rintro ⟨p, h⟩
    unfold ofJson at h
    split at h
    · next members => exact ⟨members, rfl, (addMembers_accepts_iff empty members).mp ⟨p, h⟩⟩
    · cases h
  · rintro ⟨members, rfl, h⟩
    exact (addMembers_accepts_iff empty members).mpr h

/-- Members of different directives may change places. -/
theorem Adds.comm {p q r : PostProcess} {key key' : String} {value value' : Json}
    (hne : key ≠ key') (h : Adds p key value q) (h' : Adds q key' value' r) :
    ∃ q', Adds p key' value' q' ∧ Adds q' key value r := by
  cases h with
  | sort hkey columns =>
      cases h' with
      | sort hkey' columns' => exact absurd (hkey.trans hkey'.symm) hne
      | limit hkey' hsize => exact ⟨_, .limit hkey' hsize, .sort hkey columns⟩
      | offset hkey' hsize => exact ⟨_, .offset hkey' hsize, .sort hkey columns⟩
  | limit hkey hlimit =>
      cases h' with
      | sort hkey' columns => exact ⟨_, .sort hkey' columns, .limit hkey hlimit⟩
      | limit hkey' hsize => exact absurd (hkey.trans hkey'.symm) hne
      | offset hkey' hsize => exact ⟨_, .offset hkey' hsize, .limit hkey hlimit⟩
  | offset hkey hoffset =>
      cases h' with
      | sort hkey' columns => exact ⟨_, .sort hkey' columns, .offset hkey hoffset⟩
      | limit hkey' hsize => exact ⟨_, .limit hkey' hsize, .offset hkey hoffset⟩
      | offset hkey' hsize => exact absurd (hkey.trans hkey'.symm) hne

/-- **The order of the members does not matter,** where their keys are different. -/
theorem addMembers_of_perm {members members' : List (String × Json)}
    (hperm : members.Perm members') (hnodup : (Entries.keys members).Nodup) {p q : PostProcess}
    (h : addMembers p members = .ok q) : addMembers p members' = .ok q := by
  induction hperm generalizing p with
  | nil => exact h
  | cons member _ ih =>
      obtain ⟨p', hadds, hrest⟩ := addMembers_cons_eq_ok_iff.mp h
      exact addMembers_cons_eq_ok_iff.mpr ⟨p', hadds, ih (List.nodup_cons.mp hnodup).2 hrest⟩
  | swap first second rest =>
      obtain ⟨p₁, hsecond, h⟩ := addMembers_cons_eq_ok_iff.mp h
      obtain ⟨p₂, hfirst, hrest⟩ := addMembers_cons_eq_ok_iff.mp h
      have hne : second.1 ≠ first.1 := by
        intro heq
        exact (List.nodup_cons.mp hnodup).1 (by simp [heq])
      obtain ⟨p', hfirst', hsecond'⟩ := hsecond.comm hne hfirst
      exact addMembers_cons_eq_ok_iff.mpr
        ⟨p', hfirst', addMembers_cons_eq_ok_iff.mpr ⟨p₂, hsecond', hrest⟩⟩
  | trans hperm _ ih ih' =>
      have hnodup' := (hperm.map Prod.fst).nodup_iff.mp hnodup
      exact ih' hnodup' (ih hnodup h)

/-! ## What a document describes -/

/-- What one directive sets is left alone by members of other directives. -/
theorem field_of_addMembers {α : Type} {field : PostProcess → α} {key : String}
    (hfield : ∀ p k value q, Adds p k value q → k ≠ key → field q = field p)
    {members : List (String × Json)} (hkey : key ∉ Entries.keys members) {p q : PostProcess}
    (h : addMembers p members = .ok q) : field q = field p := by
  induction members generalizing p with
  | nil =>
      cases h
      rfl
  | cons member members ih =>
      obtain ⟨p', hadds, hrest⟩ := addMembers_cons_eq_ok_iff.mp h
      have hne : key ≠ member.1 ∧ key ∉ Entries.keys members := by
        simpa [Entries.keys] using hkey
      rw [ih hne.2 hrest, hfield p member.1 member.2 p' hadds hne.1.symm]

/-- A member can be looked at as if it stood in front of the others. -/
theorem exists_adds_of_mem {members : List (String × Json)}
    (hnodup : (Entries.keys members).Nodup) {key : String} {value : Json}
    (hmem : (key, value) ∈ members) {p q : PostProcess} (h : addMembers p members = .ok q) :
    ∃ p' rest, Adds p key value p' ∧ key ∉ Entries.keys rest ∧ addMembers p' rest = .ok q := by
  obtain ⟨front, back, rfl⟩ := List.append_of_mem hmem
  have hperm : (front ++ (key, value) :: back).Perm ((key, value) :: (front ++ back)) :=
    List.perm_middle
  have hkeys := (hperm.map Prod.fst).nodup_iff.mp hnodup
  obtain ⟨p', hadds, hrest⟩ := addMembers_cons_eq_ok_iff.mp (addMembers_of_perm hperm hnodup h)
  exact ⟨p', front ++ back, hadds, (List.nodup_cons.mp hkeys).1, hrest⟩

/-- A member sets its own part, and leaves the parts of the other directives alone. -/
theorem Adds.keeps {p q : PostProcess} {key : String} {value : Json} (h : Adds p key value q) :
    (key ≠ "$sort" → q.sort = p.sort) ∧ (key ≠ "$limit" → q.limit = p.limit) ∧
      (key ≠ "$offset" → q.offset = p.offset) := by
  cases h with
  | sort hkey columns => exact ⟨fun hne => absurd hkey hne, fun _ => rfl, fun _ => rfl⟩
  | limit hkey hsize => exact ⟨fun _ => rfl, fun hne => absurd hkey hne, fun _ => rfl⟩
  | offset hkey hsize => exact ⟨fun _ => rfl, fun _ => rfl, fun hne => absurd hkey hne⟩

/-- The directives are what the members of a document say: the sort columns are those of `$sort`,
in their order and with their directions, and the numbers are those of `$limit` and `$offset`. -/
structure IsDescribedBy (p : PostProcess) (members : List (String × Json)) : Prop where
  sort : ∀ value, ("$sort", value) ∈ members → value = .object (p.sort.map sortMember)
  sort_nil : "$sort" ∉ Entries.keys members → p.sort = []
  limit : ∀ n : Nat, p.limit = some n ↔ ("$limit", .number (.integer n)) ∈ members
  offset : ∀ n : Nat, p.offset = some n ↔ ("$offset", .number (.integer n)) ∈ members

/-- A number that one directive sets is the number beside its key. -/
theorem count_iff {field : PostProcess → Option Nat} {key : String}
    {members : List (String × Json)} (hnodup : (Entries.keys members).Nodup)
    (hfield : ∀ p k value q, Adds p k value q → k ≠ key → field q = field p)
    (hsets : ∀ p value q, Adds p key value q →
      ∃ n : Nat, value = .number (.integer n) ∧ field q = some n)
    (hempty : field empty = none) {q : PostProcess} (h : addMembers empty members = .ok q)
    (n : Nat) : field q = some n ↔ (key, .number (.integer n)) ∈ members := by
  have hfound : ∀ value, (key, value) ∈ members →
      ∃ n : Nat, value = .number (.integer n) ∧ field q = some n := by
    intro value hmem
    obtain ⟨p', rest, hadds, hkey, hrest⟩ := exists_adds_of_mem hnodup hmem h
    rw [field_of_addMembers hfield hkey hrest]
    exact hsets _ value p' hadds
  constructor
  · intro hn
    by_cases hkey : key ∈ Entries.keys members
    · obtain ⟨⟨_, value⟩, hmem, rfl⟩ := List.mem_map.mp hkey
      obtain ⟨m, rfl, hm⟩ := hfound value hmem
      rw [hn, Option.some.injEq] at hm
      rw [hm]
      exact hmem
    · rw [field_of_addMembers hfield hkey h, hempty] at hn
      cases hn
  · intro hmem
    obtain ⟨m, hvalue, hm⟩ := hfound _ hmem
    cases hvalue
    exact hm

/-- **What the members of a document describe.** -/
theorem isDescribedBy_of_addMembers {members : List (String × Json)}
    (hnodup : (Entries.keys members).Nodup) {q : PostProcess}
    (h : addMembers empty members = .ok q) : q.IsDescribedBy members := by
  have hsort : ∀ p k value q, Adds p k value q → k ≠ "$sort" → q.sort = p.sort :=
    fun _ _ _ _ hadds => hadds.keeps.1
  have hlimit : ∀ p k value q, Adds p k value q → k ≠ "$limit" → q.limit = p.limit :=
    fun _ _ _ _ hadds => hadds.keeps.2.1
  have hoffset : ∀ p k value q, Adds p k value q → k ≠ "$offset" → q.offset = p.offset :=
    fun _ _ _ _ hadds => hadds.keeps.2.2
  refine ⟨?_, fun hkey => field_of_addMembers hsort hkey h, ?_, ?_⟩
  · intro value hmem
    obtain ⟨p', rest, hadds, hkey, hrest⟩ := exists_adds_of_mem hnodup hmem h
    rw [field_of_addMembers hsort hkey hrest]
    cases hadds with
    | sort _ columns => rfl
    | limit hkey => exact absurd hkey (by decide)
    | offset hkey => exact absurd hkey (by decide)
  · refine count_iff hnodup hlimit ?_ rfl h
    intro p value q hadds
    cases hadds with
    | sort hkey => exact absurd hkey (by decide)
    | limit => exact ⟨_, rfl, rfl⟩
    | offset hkey => exact absurd hkey (by decide)
  · refine count_iff hnodup hoffset ?_ rfl h
    intro p value q hadds
    cases hadds with
    | sort hkey => exact absurd hkey (by decide)
    | limit hkey => exact absurd hkey (by decide)
    | offset => exact ⟨_, rfl, rfl⟩

/-! ## The text of directives -/

/-- The directives that a text gives, from its first to its last character. -/
def read? (text : String) : Option PostProcess := do
  let ts ← lex text.toList
  match Message.cutClauses ts with
  | ([], clauses) => Message.readDirectives clauses
  | _ => none

/-- **The text of directives is read as the directives.** -/
theorem read?_sql {p : PostProcess} (h : ∀ entry ∈ p.sort, Identifier.IsPlain entry.1) :
    read? p.sql = some p := by
  have hlex : lex p.sql.toList = some (Clause.joined p.clauseList) := by
    rw [toList_sql, lex_spell (Clause.readable_joined (isReadable_clauseList h))]
  simp [read?, hlex, Message.cutClauses_joined (Message.isCut_clauseList p),
    Message.readDirectives_clauseList]

/-! ## Documents and texts -/

/-- **Directives, their documents and their text.** A document is read exactly when it is an object
of directives, and every other one violates the schema. Where no key comes twice, the directives
are what the members say, in whatever order the members stand; and for plain sort columns the text
is read as the directives. -/
theorem directives_of_document (v : Json) :
    ((∃ p, QueryError.ofSchema (ofJson v) = .ok p) ↔ v.IsDirectives) ∧
      ((∃ fault, QueryError.ofSchema (ofJson v) = .error (.schema fault)) ↔ ¬ v.IsDirectives) ∧
      ∀ (members : List (String × Json)) (p : PostProcess), v = .object members →
        (Entries.keys members).Nodup → ofJson v = .ok p →
          p.IsDescribedBy members ∧
            (∀ members' : List (String × Json), members.Perm members' →
              ofJson (.object members') = .ok p) ∧
            ((∀ entry ∈ p.sort, Identifier.IsPlain entry.1) → read? p.sql = some p) := by
  have haccepts := ofJson_accepts_iff v
  refine ⟨?_, ?_, ?_⟩
  · rw [← haccepts]
    simp only [ofSchema_eq_ok_iff]
  · rw [← haccepts]
    cases ofJson v <;> simp [QueryError.ofSchema]
  · rintro members p rfl hnodup h
    exact ⟨isDescribedBy_of_addMembers hnodup h, fun _ hperm => addMembers_of_perm hperm hnodup h,
      read?_sql⟩

/-- All three directives, the sort columns in the middle, one of them with a name that looks like
a clause. -/
theorem directives_of_document_unordered :
    let sort : String × Json :=
      ("$sort", .object [("a LIMIT 1", .number (.integer (-1))), ("b", .number (.integer 1))])
    let members := [("$offset", .number (.integer 0)), sort,
      ("$limit", .number (.integer 18446744073709551615))]
    let p : PostProcess :=
      ⟨[("a LIMIT 1", .descending), ("b", .ascending)], some 18446744073709551615, some 0⟩
    (Entries.keys members).Nodup ∧ ofJson (.object members) = .ok p ∧
      p.IsDescribedBy members ∧ ofJson (.object members.reverse) = .ok p ∧
      (∀ entry ∈ p.sort, Identifier.IsPlain entry.1) ∧ read? p.sql = some p := by
  intro sort members p
  have hnodup : (Entries.keys members).Nodup := by decide
  have hread : ofJson (.object members) = .ok p := rfl
  have hplain : ∀ entry ∈ p.sort, Identifier.IsPlain entry.1 := by decide
  obtain ⟨hdescribed, hperm, htext⟩ :=
    (directives_of_document (.object members)).2.2 members p rfl hnodup hread
  exact ⟨hnodup, hread, hdescribed, hperm _ (List.reverse_perm members).symm, hplain,
    htext hplain⟩

end PostProcess

end DocumentSql
