import DocumentSql.Proofs.Condition.Shape

/-!
# Conditions and their documents

The document of a condition, by recursion on the condition. A condition is canonical when it is
put together as the reader of documents puts conditions together: then its document is read as the
condition again, and no other document is. So the documents that are read and the canonical
conditions correspond one to one.

* `Condition.eq_document_of_ofJsonAt`: only its document is read as a condition.
* `Condition.ofJsonAt_document_iff`: when the document of a condition is read as the condition.
* `Condition.documents_correspond`: documents and canonical conditions.
-/

set_option autoImplicit false

namespace DocumentSql

namespace Condition

/-! ## The document of a condition -/

mutual

/-- The document of a condition. -/
def document : Condition → Json
  | .empty => .object []
  | .group connective operands => .object [(connective.key, .array (documentsOf operands))]
  | .leaf l => .object [l.member]
  | .fields ls => .object (ls.map Leaf.member)

/-- The documents of conditions. -/
def documentsOf : List Condition → List Json
  | [] => []
  | c :: rest => document c :: documentsOf rest

end

theorem documentsOf_eq_map (cs : List Condition) : documentsOf cs = cs.map document := by
  induction cs with
  | nil => rfl
  | cons c cs ih => rw [documentsOf, ih, List.map_cons]

theorem document_group (connective : Connective) (operands : List Condition) :
    document (.group connective operands) =
      .object [(connective.key, .array (operands.map document))] := by
  rw [document, documentsOf_eq_map]

theorem document_of_ne_group {c : Condition}
    (h : ∀ connective operands, c ≠ .group connective operands) :
    c.document = .object (c.leaves.map Leaf.member) := by
  cases c with
  | group connective operands => exact absurd rfl (h connective operands)
  | _ => rfl

/-- **Only its document is read as a condition.** -/
theorem eq_document_of_ofJsonAt {depth : Nat} {v : Json} {c : Condition}
    (h : ofJsonAt depth v = .ok c) : v = c.document := by
  refine ofJsonAt_induction (P := fun _ v c => v = c.document) ?_ ?_ h
  · intro depth connective items operands _ _ _ ih
    have hitems : items = operands.map document := by
      rw [← List.forall₂_eq_eq_eq, List.forall₂_map_right_iff]
      exact ih
    rw [document_group, hitems]
  · intro depth leaves _ _
    rw [document_of_ne_group (ofLeaves_ne_group leaves), leaves_ofLeaves]

/-! ## Canonical conditions -/

/-- The condition is put together as the reader does it: groups have operands, comparisons stand
side by side only where there are several, and no column is an operator. -/
structure IsRegular (c : Condition) : Prop where
  operands_ne_nil : ∀ k connective operands, c.HasPart k (.group connective operands) →
    operands ≠ []
  two_le_length : ∀ k leaves, c.HasPart k (.fields leaves) → 2 ≤ leaves.length
  not_isReserved : ∀ l ∈ c.leaves, ¬ IsReserved l.column

/-- The columns of comparisons side by side are different ones. -/
def HasDistinctColumns (c : Condition) : Prop :=
  ∀ k leaves, c.HasPart k (.fields leaves) → (leaves.map Leaf.column).Nodup

/-- The conditions that documents describe. -/
structure IsCanonical (c : Condition) : Prop where
  /-- Every group has operands. -/
  operands_ne_nil : ∀ k connective operands, c.HasPart k (.group connective operands) →
    operands ≠ []
  /-- At most 64 groups are nested. -/
  nested : ∀ k connective operands, c.HasPart k (.group connective operands) → k + 1 ≤ 64
  /-- Comparisons side by side are at least two, and on different columns. -/
  fields : ∀ k leaves, c.HasPart k (.fields leaves) →
    2 ≤ leaves.length ∧ (leaves.map Leaf.column).Nodup
  /-- No column begins with a dollar sign. -/
  columns : ∀ l ∈ c.leaves, l.column.toList.head? ≠ some '$'

theorem isRegular_group_iff (connective : Connective) (operands : List Condition) :
    IsRegular (.group connective operands) ↔
      operands ≠ [] ∧ ∀ c ∈ operands, c.IsRegular := by
  constructor
  · intro h
    refine ⟨h.operands_ne_nil 0 _ _ (.self _), ?_⟩
    intro c hc
    refine ⟨?_, ?_, ?_⟩
    · intro k connective' operands' hpart
      exact h.operands_ne_nil (k + 1) _ _ (.operand hc hpart)
    · intro k leaves hpart
      exact h.two_le_length (k + 1) _ (.operand hc hpart)
    · intro l hl
      exact h.not_isReserved l (by
        rw [leaves_group]
        exact List.mem_flatMap.mpr ⟨c, hc, hl⟩)
  · rintro ⟨hne, hoperands⟩
    refine ⟨?_, ?_, ?_⟩
    · intro k connective' operands' hpart
      rcases hasPart_group_iff.mp hpart with ⟨-, heq⟩ | ⟨j, -, c, hc, hin⟩
      · cases heq
        exact hne
      · exact (hoperands c hc).operands_ne_nil j _ _ hin
    · intro k leaves hpart
      rcases hasPart_group_iff.mp hpart with ⟨-, heq⟩ | ⟨j, -, c, hc, hin⟩
      · cases heq
      · exact (hoperands c hc).two_le_length j _ hin
    · intro l hl
      rw [leaves_group, List.mem_flatMap] at hl
      obtain ⟨c, hc, hl⟩ := hl
      exact (hoperands c hc).not_isReserved l hl

theorem fields_eq_ofLeaves_iff (leaves : List Leaf) :
    Condition.fields leaves = ofLeaves leaves ↔ 2 ≤ leaves.length := by
  rcases leaves with _ | ⟨l, _ | ⟨m, ls⟩⟩ <;> simp [ofLeaves]

theorem isRegular_iff_of_ne_group {c : Condition}
    (h : ∀ connective operands, c ≠ .group connective operands) :
    c.IsRegular ↔ c = ofLeaves c.leaves ∧ ∀ l ∈ c.leaves, ¬ IsReserved l.column := by
  have hfields : (∀ k leaves, c.HasPart k (.fields leaves) → 2 ≤ leaves.length) ↔
      c = ofLeaves c.leaves := by
    simp only [hasPart_iff_of_ne_group h]
    cases c with
    | group connective operands => exact absurd rfl (h connective operands)
    | empty => simp [ofLeaves]
    | leaf l => simp [ofLeaves]
    | fields leaves => simp [fields_eq_ofLeaves_iff]
  constructor
  · rintro ⟨-, hlength, hkeys⟩
    exact ⟨hfields.mp hlength, hkeys⟩
  · rintro ⟨heq, hkeys⟩
    refine ⟨?_, hfields.mpr heq, hkeys⟩
    intro k connective operands hpart
    exact absurd ((hasPart_iff_of_ne_group h).mp hpart).2.symm (h connective operands)

/-- **The document of a condition is read as the condition** exactly when that is regular and not
too deep. -/
theorem ofJsonAt_document_iff (depth : Nat) (c : Condition) :
    ofJsonAt depth c.document = .ok c ↔ c.IsRegular ∧ c.FitsAt depth := by
  induction c using Condition.groupInduction generalizing depth with
  | other d hd =>
      rw [ofJsonAt_eq_ok_iff, foundAt_iff_of_ne_group hd, document_of_ne_group hd,
        isRegular_iff_of_ne_group hd, fitsAt_iff_of_ne_group hd]
      tauto
  | group connective operands ih =>
      have hoperands : List.Forall₂ (fun item c => ofJsonAt (depth + 1) item = .ok c)
          (operands.map document) operands ↔
          ∀ c ∈ operands, c.IsRegular ∧ c.FitsAt (depth + 1) := by
        rw [List.forall₂_map_left_iff, List.forall₂_same]
        exact forall₂_congr fun c hc => ih c hc (depth + 1)
      rw [ofJsonAt_eq_ok_iff, foundAt_group_iff, document_group, isRegular_group_iff,
        fitsAt_group_iff]
      simp only [Json.object.injEq, List.cons.injEq, Prod.mk.injEq, Json.array.injEq, true_and,
        and_true, exists_eq_left', hoperands, forall_and]
      tauto

/-! ## Keys -/

theorem isRegular_of_ofJsonAt {depth : Nat} {v : Json} {c : Condition}
    (h : ofJsonAt depth v = .ok c) : c.IsRegular ∧ c.FitsAt depth := by
  have hv := eq_document_of_ofJsonAt h
  rw [hv] at h
  exact (ofJsonAt_document_iff depth c).mp h

theorem hasDistinctColumns_group_iff (connective : Connective) (operands : List Condition) :
    HasDistinctColumns (.group connective operands) ↔
      ∀ c ∈ operands, c.HasDistinctColumns := by
  constructor
  · intro h c hc k leaves hpart
    exact h (k + 1) leaves (.operand hc hpart)
  · intro h k leaves hpart
    rcases hasPart_group_iff.mp hpart with ⟨-, heq⟩ | ⟨j, -, c, hc, hin⟩
    · cases heq
    · exact h c hc j leaves hin

theorem hasDistinctColumns_iff_of_ne_group {c : Condition}
    (h : ∀ connective operands, c ≠ .group connective operands) :
    c.HasDistinctColumns ↔ (c.leaves.map Leaf.column).Nodup := by
  simp only [HasDistinctColumns, hasPart_iff_of_ne_group h]
  cases c with
  | group connective operands => exact absurd rfl (h connective operands)
  | _ => simp

theorem hasDistinctKeys_operand (l : Leaf) : l.operand.HasDistinctKeys := by
  have hscalar := l.value.isScalar_json.hasDistinctKeys
  rcases l.operand_cases with ⟨-, hoperand⟩ | ⟨key, -, hoperand⟩
  · rw [hoperand]
    exact hscalar
  · rw [hoperand, Json.hasDistinctKeys_object_iff]
    simpa using hscalar

/-- **The keys of a document** are different where the columns side by side are. -/
theorem hasDistinctKeys_document_iff (c : Condition) :
    c.document.HasDistinctKeys ↔ c.HasDistinctColumns := by
  induction c using Condition.groupInduction with
  | other d hd =>
      have hcolumns : (d.leaves.map Leaf.member).map Prod.fst = d.leaves.map Leaf.column := by
        simp [Leaf.member]
      rw [document_of_ne_group hd, hasDistinctColumns_iff_of_ne_group hd,
        Json.hasDistinctKeys_object_iff, hcolumns, List.forall_mem_map]
      simp [Leaf.member, hasDistinctKeys_operand]
  | group connective operands ih =>
      rw [document_group, hasDistinctColumns_group_iff, Json.hasDistinctKeys_object_iff]
      simp only [List.map_cons, List.map_nil, List.nodup_cons, List.not_mem_nil,
        not_false_eq_true, List.nodup_nil, and_self, List.mem_singleton, forall_eq, true_and,
        Json.hasDistinctKeys_array_iff, List.forall_mem_map]
      exact forall₂_congr ih

/-! ## Documents and canonical conditions -/

/-- An operand of a part is a part under one group more. -/
theorem HasPart.operand_of_group {c : Condition} {k : Nat} {connective : Connective}
    {operands : List Condition} (h : c.HasPart k (.group connective operands)) {d : Condition}
    (hd : d ∈ operands) : c.HasPart (k + 1) d := by
  generalize hg : Condition.group connective operands = g at h
  induction h with
  | self c =>
      subst hg
      exact .operand hd (.self d)
  | operand hc hpart ih => exact .operand hc (ih hg)

/-- A part under groups is an operand of a part. -/
theorem HasPart.exists_group {c d : Condition} {k : Nat} (h : c.HasPart (k + 1) d) :
    ∃ connective operands, c.HasPart k (.group connective operands) ∧ d ∈ operands := by
  induction k generalizing c with
  | zero =>
      obtain - | ⟨hc, hpart⟩ := h
      cases hpart
      exact ⟨_, _, .self _, hc⟩
  | succ k ih =>
      obtain - | ⟨hc, hpart⟩ := h
      obtain ⟨connective, operands, hgroup, hd⟩ := ih hpart
      exact ⟨connective, operands, .operand hc hgroup, hd⟩

/-- Where groups have operands, the deepest part decides how many groups are nested. -/
theorem fitsAt_zero_iff {c : Condition}
    (hne : ∀ k connective operands, c.HasPart k (.group connective operands) → operands ≠ []) :
    c.FitsAt 0 ↔
      ∀ k connective operands, c.HasPart k (.group connective operands) → k + 1 ≤ 64 := by
  constructor
  · intro h k connective operands hpart
    obtain ⟨d, hd⟩ := List.exists_mem_of_ne_nil operands (hne k connective operands hpart)
    have hdeep := h (k + 1) d (hpart.operand_of_group hd)
    simp only [deepestCondition] at hdeep
    omega
  · intro h k d hpart
    simp only [deepestCondition]
    cases k with
    | zero => omega
    | succ k =>
        obtain ⟨connective, operands, hgroup, -⟩ := hpart.exists_group
        have hnested := h k connective operands hgroup
        omega

/-- The canonical conditions are the regular ones that are not too deep, with different columns
side by side. -/
theorem isCanonical_iff (c : Condition) :
    c.IsCanonical ↔ (c.IsRegular ∧ c.FitsAt 0) ∧ c.HasDistinctColumns := by
  constructor
  · intro h
    refine ⟨⟨⟨h.operands_ne_nil, ?_, h.columns⟩, (fitsAt_zero_iff h.operands_ne_nil).mpr h.nested⟩,
      ?_⟩
    · intro k leaves hpart
      exact (h.fields k leaves hpart).1
    · intro k leaves hpart
      exact (h.fields k leaves hpart).2
  · rintro ⟨⟨hregular, hfits⟩, hcolumns⟩
    refine ⟨hregular.operands_ne_nil, (fitsAt_zero_iff hregular.operands_ne_nil).mp hfits, ?_,
      hregular.not_isReserved⟩
    intro k leaves hpart
    exact ⟨hregular.two_le_length k leaves hpart, hcolumns k leaves hpart⟩

/-- **Documents and canonical conditions correspond one to one.** A document whose keys are
different ones is read as a canonical condition, every canonical condition is read from such a
document, and no two documents are read as the same condition. -/
theorem documents_correspond :
    (∀ (v : Json) (c : Condition), v.HasDistinctKeys → ofJson v = .ok c → c.IsCanonical) ∧
    (∀ c : Condition, c.IsCanonical → ∃ v, v.HasDistinctKeys ∧ ofJson v = .ok c) ∧
    ∀ (v w : Json) (c : Condition), ofJson v = .ok c → ofJson w = .ok c → v = w := by
  refine ⟨?_, ?_, ?_⟩
  · intro v c hkeys h
    rw [eq_document_of_ofJsonAt h, hasDistinctKeys_document_iff] at hkeys
    exact (isCanonical_iff c).mpr ⟨isRegular_of_ofJsonAt h, hkeys⟩
  · intro c h
    obtain ⟨hread, hcolumns⟩ := (isCanonical_iff c).mp h
    exact ⟨c.document, (hasDistinctKeys_document_iff c).mpr hcolumns,
      (ofJsonAt_document_iff 0 c).mpr hread⟩
  · intro v w c hv hw
    rw [eq_document_of_ofJsonAt hv, eq_document_of_ofJsonAt hw]

/-- Comparisons of both kinds, alone and side by side, under a combinator. -/
theorem documents_correspond_or :
    let v : Json := .object [("$or", .array [.object [("a", .object [("$gte", .null)])],
      .object [("b", .string "x"), ("c", .object [("$like", .string "%")])]])]
    let c : Condition := .or [.compare "a" .gte .null,
      .fields [⟨"b", .eq, .string "x"⟩, ⟨"c", .like, .string "%"⟩]]
    v.HasDistinctKeys ∧ ofJson v = .ok c ∧ c.IsCanonical ∧
      ∃ w, (w.HasDistinctKeys ∧ ofJson w = .ok c) ∧ w = v := by
  intro v c
  have hkeys : v.HasDistinctKeys := by
    simp [v, Json.hasDistinctKeys_object_iff, Json.hasDistinctKeys_array_iff,
      Json.IsScalar.null.hasDistinctKeys, (Json.IsScalar.string _).hasDistinctKeys]
  have hread : ofJson v = .ok c := rfl
  have hcanonical := documents_correspond.1 v c hkeys hread
  obtain ⟨w, hw⟩ := documents_correspond.2.1 c hcanonical
  exact ⟨hkeys, hread, hcanonical, w, hw, documents_correspond.2.2 w v c hw.2 hread⟩

end Condition

end DocumentSql
