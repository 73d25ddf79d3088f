import DocumentSql.Proofs.Condition.Body
import DocumentSql.Proofs.Condition.Grammar

/-!
# What a document describes, level by level

The document of a comparison, and what the reader of conditions does on one level of a document:
it reads a combinator over documents, or comparisons side by side. Whatever holds of these two
holds of every document that is read.

* `Leaf.ofJson_eq_ok_iff`: the member that describes a comparison.
* `Condition.ofJsonAt_eq_ok_iff`: one level of a document.
* `Condition.ofJsonAt_induction`: induction on the documents that are read.
-/

set_option autoImplicit false

namespace DocumentSql

theorem eq_nil_iff_of_forall₂ {α β : Type} {R : α → β → Prop} {as : List α} {bs : List β}
    (h : List.Forall₂ R as bs) : as = [] ↔ bs = [] := by
  cases h <;> simp

/-- Two lists have all of what is the same for the members that are related. -/
theorem forall_mem_iff_of_forall₂ {α β : Type} {p : α → Prop} {q : β → Prop} {as : List α}
    {bs : List β} (h : List.Forall₂ (fun a b => p a ↔ q b) as bs) :
    (∀ a ∈ as, p a) ↔ ∀ b ∈ bs, q b := by
  induction h with
  | nil => simp
  | cons hab hrest ih => rw [List.forall_mem_cons, List.forall_mem_cons, hab, ih]

theorem exists_mem_iff_of_forall₂ {α β : Type} {p : α → Prop} {q : β → Prop} {as : List α}
    {bs : List β} (h : List.Forall₂ (fun a b => p a ↔ q b) as bs) :
    (∃ a ∈ as, p a) ↔ ∃ b ∈ bs, q b := by
  induction h with
  | nil => simp
  | cons hab hrest ih => simp only [List.mem_cons, exists_eq_or_imp, hab, ih]

theorem exists_mem_of_forall₂ {α β : Type} {R : α → β → Prop} {as : List α} {bs : List β}
    (h : List.Forall₂ R as bs) {b : β} (hb : b ∈ bs) : ∃ a ∈ as, R a b := by
  induction h with
  | nil => cases hb
  | cons hab hrest ih =>
      rcases List.mem_cons.mp hb with rfl | hb
      · exact ⟨_, List.mem_cons_self, hab⟩
      · obtain ⟨a, ha, hab⟩ := ih hb
        exact ⟨a, List.mem_cons_of_mem _ ha, hab⟩

/-- Members that are related are related in another way if each of the second list says so. -/
theorem forall₂_of_forall_mem {α β : Type} {R S : α → β → Prop} {as : List α} {bs : List β}
    (h : List.Forall₂ R as bs) (hRS : ∀ a, ∀ b ∈ bs, R a b → S a b) : List.Forall₂ S as bs := by
  induction h with
  | nil => exact .nil
  | cons hab hrest ih =>
      exact .cons (hRS _ _ List.mem_cons_self hab)
        (ih fun a b hb => hRS a b (List.mem_cons_of_mem _ hb))

/-! ## Comparisons -/

/-- The document of a scalar. -/
def Scalar.json : Scalar → Json
  | .null => .null
  | .number n => .number n
  | .string s => .string s

theorem Scalar.ofJson_eq_ok_iff_eq_json {v : Json} {s : Scalar} :
    ofJson v = .ok s ↔ v = s.json := by
  cases v <;> cases s <;> simp [ofJson, json, eq_comm]

theorem Scalar.json_inj {s t : Scalar} : s.json = t.json ↔ s = t := by
  cases s <;> cases t <;> simp [json]

theorem Scalar.isScalar_json (s : Scalar) : s.json.IsScalar := by
  cases s with
  | null => exact .null
  | number n => exact .number n
  | string s => exact .string s

/-- The key of a comparison; equality has none. -/
def Comparison.key? : Comparison → Option String
  | .eq => none
  | .like => some "$like"
  | .ne => some "$ne"
  | .lt => some "$lt"
  | .gt => some "$gt"
  | .lte => some "$lte"
  | .gte => some "$gte"

theorem Comparison.ofKey?_eq_some_iff {key : String} {comparison : Comparison} :
    ofKey? key = some comparison ↔ comparison.key? = some key := by
  unfold ofKey?
  cases comparison <;> simp only [key?] <;> grind

namespace Leaf

/-- What stands beside the column of a comparison in a document. -/
def operand (l : Leaf) : Json :=
  match l.comparison.key? with
  | none => l.value.json
  | some key => .object [(key, l.value.json)]

/-- The member of a document that describes a comparison. -/
def member (l : Leaf) : String × Json := (l.column, l.operand)

/-- What stands beside a column is a scalar that the column equals, or one other comparison. -/
theorem operand_cases (l : Leaf) :
    (l.comparison = .eq ∧ l.operand = l.value.json) ∨
      ∃ key, Comparison.ofKey? key = some l.comparison ∧
        l.operand = .object [(key, l.value.json)] := by
  simp only [Comparison.ofKey?_eq_some_iff]
  rcases l with ⟨column, comparison, value⟩
  cases comparison <;> simp [operand, Comparison.key?]

/-- A comparison with a scalar that is read. -/
theorem exists_comparison_eq_ok_iff {column : String} {comparison : Comparison} {v : Json}
    {l : Leaf} :
    (Scalar.ofJson v >>= fun value => .ok (Leaf.mk column comparison value)) = .ok l ↔
      column = l.column ∧ comparison = l.comparison ∧ v = l.value.json := by
  rw [bind_eq_ok_iff]
  simp only [Scalar.ofJson_eq_ok_iff_eq_json, Except.ok.injEq]
  constructor
  · rintro ⟨value, rfl, rfl⟩
    exact ⟨rfl, rfl, rfl⟩
  · rintro ⟨rfl, rfl, rfl⟩
    exact ⟨l.value, rfl, rfl⟩

theorem ofJson_of_isScalar (column : String) {v : Json} (h : v.IsScalar) :
    ofJson column v = (Scalar.ofJson v >>= fun value => .ok ⟨column, .eq, value⟩) := by
  cases h <;> rfl

/-- **A member describes the one comparison it is the member of.** -/
theorem ofJson_eq_ok_iff {column : String} {v : Json} {l : Leaf} :
    ofJson column v = .ok l ↔ (column, v) = l.member := by
  rw [member, Prod.mk.injEq]
  constructor
  · intro h
    unfold ofJson at h
    split at h
    · split at h
      · cases h
      · next comparison hkey =>
          obtain ⟨hcolumn, rfl, rfl⟩ := exists_comparison_eq_ok_iff.mp h
          rw [Comparison.ofKey?_eq_some_iff] at hkey
          exact ⟨hcolumn, by rw [operand, hkey]⟩
    · cases h
    · obtain ⟨hcolumn, heq, hv⟩ := exists_comparison_eq_ok_iff.mp h
      exact ⟨hcolumn, by rw [operand, ← heq]; exact hv⟩
  · rintro ⟨hcolumn, rfl⟩
    rcases l.operand_cases with ⟨heq, hoperand⟩ | ⟨key, hkey, hoperand⟩
    · rw [hoperand, ofJson_of_isScalar column l.value.isScalar_json]
      exact exists_comparison_eq_ok_iff.mpr ⟨hcolumn, heq.symm, rfl⟩
    · rw [hoperand]
      simp only [ofJson, hkey]
      exact exists_comparison_eq_ok_iff.mpr ⟨hcolumn, rfl, rfl⟩

/-- **The members of an object** are those of the comparisons they describe. -/
theorem ofMembers_eq_ok_iff {members : List (String × Json)} {leaves : List Leaf} :
    ofMembers members = .ok leaves ↔ members = leaves.map member := by
  induction members generalizing leaves with
  | nil => cases leaves <;> simp [ofMembers]
  | cons m members ih =>
      rw [ofMembers, bind_eq_ok_iff]
      simp only [bind_eq_ok_iff, ofJson_eq_ok_iff, ih, Except.ok.injEq]
      constructor
      · rintro ⟨l, hl, ls, rfl, rfl⟩
        rw [List.map_cons, ← hl]
      · cases leaves with
        | nil => simp
        | cons l ls =>
            rw [List.map_cons, List.cons.injEq]
            rintro ⟨rfl, rfl⟩
            exact ⟨l, rfl, ls, rfl, rfl⟩

end Leaf

/-! ## One level of a document -/

/-- The key is kept for operators. -/
def IsReserved (key : String) : Prop := key.toList.head? = some '$'

instance (key : String) : Decidable (IsReserved key) :=
  inferInstanceAs (Decidable (key.toList.head? = some '$'))

theorem Connective.ofKey?_eq_some_iff {key : String} {connective : Connective} :
    ofKey? key = some connective ↔ key = connective.key := by
  unfold ofKey?
  cases connective <;> simp only [Connective.key] <;> grind

theorem Connective.isReserved_key (connective : Connective) : IsReserved connective.key := by
  cases connective <;> rfl

theorem Connective.key_mem_combinatorKeys (connective : Connective) :
    connective.key ∈ Json.combinatorKeys := by
  cases connective <;> simp [Connective.key, Json.combinatorKeys]

/-- A combinator has one of the two keys. -/
theorem Connective.exists_key_eq {key : String} (h : key ∈ Json.combinatorKeys) :
    ∃ connective : Connective, key = connective.key := by
  obtain ⟨connective, hkey⟩ :=
    Option.ne_none_iff_exists'.mp ((ofKey?_ne_none_iff key).mpr h)
  exact ⟨connective, ofKey?_eq_some_iff.mp hkey⟩

namespace Condition

/-- Comparisons side by side are no group. -/
theorem ofLeaves_ne_group (leaves : List Leaf) (connective : Connective)
    (operands : List Condition) : ofLeaves leaves ≠ .group connective operands := by
  match leaves with
  | [] => simp [ofLeaves]
  | [l] => simp [ofLeaves]
  | l :: m :: ls => simp [ofLeaves]

@[simp] theorem leaves_ofLeaves (leaves : List Leaf) : (ofLeaves leaves).leaves = leaves := by
  match leaves with
  | [] => rfl
  | [l] => rfl
  | l :: m :: ls => rfl

theorem ofColumns_eq_ok_iff {members : List (String × Json)} {c : Condition} :
    ofColumns members = .ok c ↔
      ∃ leaves, (∀ l ∈ leaves, ¬ IsReserved l.column) ∧ members = leaves.map Leaf.member ∧
        c = ofLeaves leaves := by
  unfold ofColumns
  cases hfind : members.find? fun member => isOperatorKey member.1 with
  | some m =>
      simp only [reduceCtorEq, false_iff]
      rintro ⟨leaves, hkeys, rfl, -⟩
      -- the operator would be a column of a comparison
      obtain ⟨l, hl, rfl⟩ := List.mem_map.mp (List.mem_of_find?_eq_some hfind)
      have hkey := List.find?_some hfind
      exact hkeys l hl ((isOperatorKey_eq_true_iff _).mp hkey)
  | none =>
      rw [List.find?_eq_none] at hfind
      simp only [bind_eq_ok_iff, Leaf.ofMembers_eq_ok_iff, Except.ok.injEq]
      constructor
      · rintro ⟨leaves, rfl, rfl⟩
        refine ⟨leaves, ?_, rfl, rfl⟩
        intro l hl hkey
        exact hfind _ (List.mem_map_of_mem hl) ((isOperatorKey_eq_true_iff _).mpr hkey)
      · rintro ⟨leaves, -, rfl, rfl⟩
        exact ⟨leaves, rfl, rfl⟩

theorem ofItemsAt_eq_ok_iff {depth : Nat} {items : List Json} {cs : List Condition} :
    ofItemsAt depth items = .ok cs ↔
      List.Forall₂ (fun item c => ofJsonAt depth item = .ok c) items cs := by
  induction items generalizing cs with
  | nil => simp [ofItemsAt, eq_comm]
  | cons item items ih =>
      rw [ofItemsAt, bind_eq_ok_iff]
      simp only [bind_eq_ok_iff, ih, Except.ok.injEq]
      constructor
      · rintro ⟨c, hc, cs, hcs, rfl⟩
        exact .cons hc hcs
      · rintro (_ | ⟨hc, hcs⟩)
        exact ⟨_, hc, _, hcs, rfl⟩

/-- What the reader finds on one level of a document, under `depth` combinators. -/
inductive FoundAt (depth : Nat) : Json → Condition → Prop where
  /-- A combinator over at least one document. -/
  | group {connective : Connective} {items : List Json} {operands : List Condition}
      (hne : operands ≠ [])
      (hitems : List.Forall₂ (fun item c => ofJsonAt (depth + 1) item = .ok c) items operands) :
      FoundAt depth (.object [(connective.key, .array items)]) (.group connective operands)
  /-- Comparisons side by side. -/
  | columns {leaves : List Leaf} (hkeys : ∀ l ∈ leaves, ¬ IsReserved l.column) :
      FoundAt depth (.object (leaves.map Leaf.member)) (ofLeaves leaves)

theorem foundAt_group_iff {depth : Nat} {v : Json} {connective : Connective}
    {operands : List Condition} :
    FoundAt depth v (.group connective operands) ↔
      operands ≠ [] ∧ ∃ items, v = .object [(connective.key, .array items)] ∧
        List.Forall₂ (fun item c => ofJsonAt (depth + 1) item = .ok c) items operands := by
  constructor
  · generalize hc : Condition.group connective operands = c
    rintro (⟨hne, hitems⟩ | hkeys)
    · cases hc
      exact ⟨hne, _, rfl, hitems⟩
    · exact absurd hc.symm (ofLeaves_ne_group _ _ _)
  · rintro ⟨hne, items, rfl, hitems⟩
    exact .group hne hitems

theorem foundAt_iff_of_ne_group {depth : Nat} {v : Json} {c : Condition}
    (h : ∀ connective operands, c ≠ .group connective operands) :
    FoundAt depth v c ↔
      v = .object (c.leaves.map Leaf.member) ∧ c = ofLeaves c.leaves ∧
        ∀ l ∈ c.leaves, ¬ IsReserved l.column := by
  constructor
  · rintro (_ | hkeys)
    · exact absurd rfl (h _ _)
    · rw [leaves_ofLeaves]
      exact ⟨rfl, rfl, hkeys⟩
  · rintro ⟨hv, hc, hkeys⟩
    have hfound : FoundAt depth (.object (c.leaves.map Leaf.member)) (ofLeaves c.leaves) :=
      .columns hkeys
    rwa [← hv, ← hc] at hfound

/-- Columns are found on a level where they are read. -/
theorem foundAt_of_ofColumns {depth : Nat} {members : List (String × Json)} {c : Condition}
    (h : ofColumns members = .ok c) : FoundAt depth (.object members) c := by
  obtain ⟨leaves, hkeys, rfl, rfl⟩ := ofColumns_eq_ok_iff.mp h
  exact .columns hkeys

/-- An object without a key of a combinator has columns only. -/
theorem ofJsonAt_eq_ofColumns {depth : Nat} (hdepth : depth ≤ deepestCondition)
    {members : List (String × Json)} (h : ∀ m ∈ members, Connective.ofKey? m.1 = none) :
    ofJsonAt depth (.object members) = ofColumns members := by
  by_cases hsingle : ∃ member, members = [member]
  · obtain ⟨⟨key, operand⟩, rfl⟩ := hsingle
    rw [ofJsonAt_single hdepth, h (key, operand) List.mem_cons_self]
  · have hany : members.any (fun m => isCombinatorKey m.1) = false := by
      rw [List.any_eq_false]
      intro m hm
      simp [isCombinatorKey, h m hm]
    rw [ofJsonAt_members hdepth (by simpa using hsingle), hany]
    rfl

/-- An object of columns is no combinator. -/
theorem ofJsonAt_columns {depth : Nat} (hdepth : depth ≤ deepestCondition) {leaves : List Leaf}
    (hkeys : ∀ l ∈ leaves, ¬ IsReserved l.column) :
    ofJsonAt depth (.object (leaves.map Leaf.member)) = .ok (ofLeaves leaves) := by
  have hnone : ∀ m ∈ leaves.map Leaf.member, Connective.ofKey? m.1 = none := by
    intro m hm
    obtain ⟨l, hl, rfl⟩ := List.mem_map.mp hm
    exact Connective.ofKey?_eq_none_of_column (hkeys l hl)
  rw [ofJsonAt_eq_ofColumns hdepth hnone]
  exact ofColumns_eq_ok_iff.mpr ⟨leaves, hkeys, rfl, rfl⟩

/-- A combinator over an array is the group of what its items describe. -/
theorem ofJsonAt_combinator_eq_ok_iff {depth : Nat} (hdepth : depth ≤ deepestCondition)
    {connective : Connective} {items : List Json} {c : Condition} :
    ofJsonAt depth (.object [(connective.key, .array items)]) = .ok c ↔
      items ≠ [] ∧ ∃ operands,
        List.Forall₂ (fun item d => ofJsonAt (depth + 1) item = .ok d) items operands ∧
          c = .group connective operands := by
  rw [ofJsonAt_single hdepth, Connective.ofKey?_eq_some_iff.mpr rfl]
  cases items with
  | nil => simp
  | cons item items => simp [bind_eq_ok_iff, ofItemsAt_eq_ok_iff, @eq_comm _ c]

/-- **One level of a document.** -/
theorem ofJsonAt_eq_ok_iff {depth : Nat} {v : Json} {c : Condition} :
    ofJsonAt depth v = .ok c ↔ depth ≤ deepestCondition ∧ FoundAt depth v c := by
  constructor
  · intro h
    obtain ⟨hcondition, hdeep⟩ := (ofJsonAt_accepts_iff depth v).mp ⟨c, h⟩
    have hdepth : depth ≤ deepestCondition := by omega
    refine ⟨hdepth, ?_⟩
    cases hcondition with
    | combinator hkey =>
        obtain ⟨connective, rfl⟩ := Connective.exists_key_eq hkey
        obtain ⟨hne, operands, hitems, rfl⟩ := (ofJsonAt_combinator_eq_ok_iff hdepth).mp h
        exact .group (mt (eq_nil_iff_of_forall₂ hitems).mpr hne) hitems
    | columns hkeys =>
        have hnone := fun m hm => Connective.ofKey?_eq_none_of_column (hkeys m hm)
        rw [ofJsonAt_eq_ofColumns hdepth hnone] at h
        exact foundAt_of_ofColumns h
  · rintro ⟨hdepth, hne, hitems⟩
    · have hsome := mt (eq_nil_iff_of_forall₂ hitems).mp hne
      exact (ofJsonAt_combinator_eq_ok_iff hdepth).mpr ⟨hsome, _, hitems, rfl⟩
    · next hkeys => exact ofJsonAt_columns hdepth hkeys

/-- **Induction on the documents that are read.** What holds of the documents under a combinator
holds of the combinator. -/
theorem ofJsonAt_induction {P : Nat → Json → Condition → Prop}
    (group : ∀ depth connective items operands, depth ≤ deepestCondition → operands ≠ [] →
      List.Forall₂ (fun item c => ofJsonAt (depth + 1) item = .ok c) items operands →
      List.Forall₂ (P (depth + 1)) items operands →
      P depth (.object [(connective.key, .array items)]) (.group connective operands))
    (columns : ∀ depth leaves, depth ≤ deepestCondition →
      (∀ l ∈ leaves, ¬ IsReserved l.column) →
      P depth (.object (leaves.map Leaf.member)) (ofLeaves leaves))
    {depth : Nat} {v : Json} {c : Condition} (h : ofJsonAt depth v = .ok c) : P depth v c := by
  induction hsize : sizeOf c using Nat.strongRecOn generalizing depth v c with
  | ind n ih =>
      obtain ⟨hdepth, hfound⟩ := ofJsonAt_eq_ok_iff.mp h
      cases hfound with
      | columns hkeys => exact columns depth _ hdepth hkeys
      | group hne hitems =>
          refine group depth _ _ _ hdepth hne hitems (forall₂_of_forall_mem hitems ?_)
          intro item c hc hitem
          -- an operand is smaller than its group
          have hlt := List.sizeOf_lt_of_mem hc
          rw [Condition.group.sizeOf_spec] at hsize
          exact ih (sizeOf c) (by omega) hitem rfl

end Condition

end DocumentSql
