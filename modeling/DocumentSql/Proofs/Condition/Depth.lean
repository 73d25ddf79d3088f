import DocumentSql.Proofs.Condition.Shape
import DocumentSql.Proofs.Json.Levels

/-!
# Combinators and levels

Two limits are in the way of a deep condition: the reader of documents counts arrays and objects,
the reader of conditions counts combinators. A combinator is an object around an array, so that
each of them takes two levels of the document: the first limit is met long before the second.

* `Condition.Reaches`: the documents that the reader of conditions comes to.
* `Condition.ofJsonAt_eq_tooDeep_iff`: it refuses a document as too deep where it comes too deep.
* `Condition.levels_of_hasPart`: the levels that a condition takes.
* `Condition.le_of_reaches`: how deep the reader comes in a document that can be read.
-/

set_option autoImplicit false

namespace DocumentSql

/-! ## Faults of columns -/

theorem Scalar.ofJson_ne_tooDeep (v : Json) : ofJson v ≠ .error .conditionTooDeep := by
  cases v <;> simp [ofJson]

theorem Leaf.exists_comparison_ne_tooDeep (column : String) (comparison : Comparison) (v : Json) :
    (Scalar.ofJson v >>= fun value => .ok (Leaf.mk column comparison value)) ≠
      .error .conditionTooDeep :=
  bind_ne_error (Scalar.ofJson_ne_tooDeep v) (by simp)

theorem Leaf.ofJson_ne_tooDeep (column : String) (v : Json) :
    ofJson column v ≠ .error .conditionTooDeep := by
  unfold ofJson
  split
  · split
    · simp
    · exact exists_comparison_ne_tooDeep column _ _
  · simp
  · exact exists_comparison_ne_tooDeep column .eq v

theorem Leaf.ofMembers_ne_tooDeep (members : List (String × Json)) :
    ofMembers members ≠ .error .conditionTooDeep := by
  induction members with
  | nil => simp [ofMembers]
  | cons member members ih =>
      exact bind_ne_error (ofJson_ne_tooDeep member.1 member.2) fun _ _ =>
        bind_ne_error ih (by simp)

namespace Condition

theorem ofColumns_ne_tooDeep (members : List (String × Json)) :
    ofColumns members ≠ .error .conditionTooDeep := by
  unfold ofColumns
  split
  · simp
  · exact bind_ne_error (Leaf.ofMembers_ne_tooDeep members) (by simp)

/-! ## The way of the reader -/

/-- Reading the first document under the first number of combinators, the reader comes to the
second one under the second number. It goes through the items of an array one after the other, and
comes to an item when it has read those before it. -/
inductive Reaches : Nat → Json → Nat → Json → Prop where
  | self (depth : Nat) (v : Json) : Reaches depth v depth v
  | item {depth d : Nat} {connective : Connective} {before after : List Json} {item w : Json}
      {read : List Condition} (hdepth : depth ≤ deepestCondition)
      (hbefore : ofItemsAt (depth + 1) before = .ok read) (h : Reaches (depth + 1) item d w) :
      Reaches depth (.object [(connective.key, .array (before ++ item :: after))]) d w

/-- The first item that is not read decides. -/
theorem ofItemsAt_eq_error_iff {depth : Nat} {items : List Json} {fault : SchemaFault} :
    ofItemsAt depth items = .error fault ↔
      ∃ before item after read, items = before ++ item :: after ∧
        ofItemsAt depth before = .ok read ∧ ofJsonAt depth item = .error fault := by
  induction items with
  | nil => simp [ofItemsAt]
  | cons first items ih =>
      rw [ofItemsAt, bind_eq_error_iff]
      constructor
      · rintro (hfirst | ⟨c, hc, h⟩)
        · exact ⟨[], first, items, [], rfl, rfl, hfirst⟩
        · rcases bind_eq_error_iff.mp h with h | ⟨cs, -, h⟩
          · obtain ⟨before, item, after, read, rfl, hbefore, hitem⟩ := ih.mp h
            refine ⟨first :: before, item, after, c :: read, rfl, ?_, hitem⟩
            rw [ofItemsAt, hc, hbefore]
            rfl
          · cases h
      · rintro ⟨before, item, after, read, heq, hbefore, hitem⟩
        cases before with
        | nil =>
            cases heq
            exact .inl hitem
        | cons first' before =>
            cases heq
            obtain ⟨c, hc, hrest⟩ := bind_eq_ok_iff.mp hbefore
            obtain ⟨cs, hcs, -⟩ := bind_eq_ok_iff.mp hrest
            have hitems := ih.mpr ⟨before, item, after, cs, rfl, hcs, hitem⟩
            exact .inr ⟨c, hc, by rw [hitems]; rfl⟩

/-- A combinator over documents is as deep as they are. -/
theorem ofJsonAt_combinator_eq_tooDeep_iff {depth : Nat} (hdepth : depth ≤ deepestCondition)
    (connective : Connective) {items : List Json} :
    ofJsonAt depth (.object [(connective.key, .array items)]) = .error .conditionTooDeep ↔
      ofItemsAt (depth + 1) items = .error .conditionTooDeep := by
  rw [ofJsonAt_single hdepth, Connective.ofKey?_eq_some_iff.mpr rfl]
  cases items with
  | nil => simp [ofItemsAt]
  | cons item items => simp [bind_eq_error_iff]

/-- A document that is no combinator over an array is not too deep. -/
theorem ofJsonAt_ne_tooDeep {depth : Nat} (hdepth : depth ≤ deepestCondition) {v : Json}
    (h : ∀ (connective : Connective) items, v ≠ .object [(connective.key, .array items)]) :
    ofJsonAt depth v ≠ .error .conditionTooDeep := by
  by_cases hobject : ∃ members, v = .object members
  · obtain ⟨members, rfl⟩ := hobject
    by_cases hsingle : ∃ member, members = [member]
    · obtain ⟨⟨key, operand⟩, rfl⟩ := hsingle
      rw [ofJsonAt_single hdepth]
      cases hkey : Connective.ofKey? key with
      | none => exact ofColumns_ne_tooDeep _
      | some connective =>
          obtain rfl := Connective.ofKey?_eq_some_iff.mp hkey
          cases operand with
          | array items => exact absurd rfl (h connective items)
          | _ => simp
    · rw [ofJsonAt_members hdepth (by simpa using hsingle)]
      split
      · simp
      · exact ofColumns_ne_tooDeep members
  · rw [ofJsonAt_of_not_object hdepth (by simpa using hobject)]
    simp

/-- In a document that is no combinator over an array, the reader goes nowhere. -/
theorem reaches_iff_of_ne_combinator {depth d : Nat} {v w : Json}
    (h : ∀ (connective : Connective) items, v ≠ .object [(connective.key, .array items)]) :
    Reaches depth v d w ↔ d = depth ∧ w = v := by
  constructor
  · rintro (_ | _)
    · exact ⟨rfl, rfl⟩
    · exact absurd rfl (h _ _)
  · rintro ⟨rfl, rfl⟩
    exact .self d w

theorem reaches_combinator_iff {depth d : Nat} (connective : Connective) {items : List Json}
    {w : Json} :
    Reaches depth (.object [(connective.key, .array items)]) d w ↔
      (d = depth ∧ w = .object [(connective.key, .array items)]) ∨
        (depth ≤ deepestCondition ∧ ∃ before item after read, items = before ++ item :: after ∧
          ofItemsAt (depth + 1) before = .ok read ∧ Reaches (depth + 1) item d w) := by
  constructor
  · intro h
    generalize hv : Json.object [(connective.key, .array items)] = v at h
    cases h with
    | self => exact .inl ⟨rfl, rfl⟩
    | item hdepth hbefore h =>
        rw [Json.object.injEq, List.cons.injEq, Prod.mk.injEq, Json.array.injEq] at hv
        exact .inr ⟨hdepth, _, _, _, _, hv.1.2, hbefore, h⟩
  · rintro (⟨rfl, rfl⟩ | ⟨hdepth, before, item, after, read, rfl, hbefore, h⟩)
    · exact .self d _
    · exact .item hdepth hbefore h

theorem ofJsonAt_eq_tooDeep_iff_of_ne_combinator (depth : Nat) {v : Json}
    (h : ∀ (connective : Connective) items, v ≠ .object [(connective.key, .array items)]) :
    ofJsonAt depth v = .error .conditionTooDeep ↔
      ∃ d w, Reaches depth v d w ∧ deepestCondition < d := by
  by_cases hdepth : deepestCondition < depth
  · exact iff_of_true (ofJsonAt_of_lt hdepth v) ⟨depth, v, .self depth v, hdepth⟩
  · refine iff_of_false (ofJsonAt_ne_tooDeep (by omega) h) ?_
    rintro ⟨d, w, hreach, hd⟩
    obtain ⟨rfl, -⟩ := (reaches_iff_of_ne_combinator h).mp hreach
    exact hdepth hd

/-- **A document is too deep** where the reader comes too deep in it. -/
theorem ofJsonAt_eq_tooDeep_iff (depth : Nat) (v : Json) :
    ofJsonAt depth v = .error .conditionTooDeep ↔
      ∃ d w, Reaches depth v d w ∧ deepestCondition < d := by
  induction v using Json.combinatorInduction generalizing depth with
  | other v h =>
      exact ofJsonAt_eq_tooDeep_iff_of_ne_combinator depth fun connective => h connective.key
  | combinator key items ih =>
      by_cases hkey : ∃ connective : Connective, key = connective.key
      · obtain ⟨connective, rfl⟩ := hkey
        by_cases hdepth : depth ≤ deepestCondition
        -- the first item that is not read is too deep, one combinator further down
        · rw [ofJsonAt_combinator_eq_tooDeep_iff hdepth, ofItemsAt_eq_error_iff]
          constructor
          · rintro ⟨before, item, after, read, rfl, hbefore, hitem⟩
            obtain ⟨d, w, hreach, hd⟩ := (ih item (by simp) (depth + 1)).mp hitem
            exact ⟨d, w, .item hdepth hbefore hreach, hd⟩
          · rintro ⟨d, w, hreach, hd⟩
            rcases (reaches_combinator_iff connective).mp hreach with
              ⟨rfl, -⟩ | ⟨-, before, item, after, read, rfl, hbefore, hreach⟩
            · omega
            · have hitem := (ih item (by simp) (depth + 1)).mpr ⟨d, w, hreach, hd⟩
              exact ⟨before, item, after, read, rfl, hbefore, hitem⟩
        · exact iff_of_true (ofJsonAt_of_lt (by omega) _) ⟨depth, _, .self depth _, by omega⟩
      · refine ofJsonAt_eq_tooDeep_iff_of_ne_combinator depth fun connective items' heq => hkey ?_
        rw [Json.object.injEq, List.cons.injEq, Prod.mk.injEq] at heq
        exact ⟨connective, heq.1.1⟩

/-! ## Levels -/

/-- **Each combinator on the way takes two levels.** -/
theorem Reaches.levels_le {depth d : Nat} {v w : Json} (h : Reaches depth v d w) :
    2 * d + w.levels ≤ 2 * depth + v.levels := by
  induction h with
  | self depth v => exact Nat.le_refl _
  | @item depth d connective before after item w read _ _ _ ih =>
      have hitem : item ∈ before ++ item :: after := by simp
      calc 2 * d + w.levels
          ≤ 2 * (depth + 1) + item.levels := ih
        _ = 2 * depth + (item.levels + 2) := by omega
        _ ≤ 2 * depth +
              Json.levels (.object [(connective.key, .array (before ++ item :: after))]) :=
            Nat.add_le_add_left (Json.levels_combinator hitem connective.key) _

/-- **A condition takes two levels for each group around a part of it,** and one for the part. -/
theorem levels_of_hasPart {depth : Nat} {v : Json} {c : Condition} (h : ofJsonAt depth v = .ok c) :
    ∀ k d, c.HasPart k d → 2 * k + 1 ≤ v.levels := by
  refine ofJsonAt_induction (P := fun _ v c => ∀ k d, c.HasPart k d → 2 * k + 1 ≤ v.levels)
    ?_ ?_ h
  · intro depth connective items operands _ _ _ ih k d hpart
    rcases hasPart_group_iff.mp hpart with ⟨rfl, -⟩ | ⟨j, rfl, c, hc, hpart⟩
    · rw [Json.levels]
      omega
    · -- the operand was read from an item of the array
      obtain ⟨item, hitem, hlevels⟩ := exists_mem_of_forall₂ ih hc
      calc 2 * (j + 1) + 1
          = (2 * j + 1) + 2 := by omega
        _ ≤ item.levels + 2 := Nat.add_le_add_right (hlevels j d hpart) 2
        _ ≤ Json.levels (.object [(connective.key, .array items)]) :=
            Json.levels_combinator hitem connective.key
  · intro depth leaves _ _ k d hpart
    obtain ⟨rfl, -⟩ := (hasPart_iff_of_ne_group (ofLeaves_ne_group leaves)).mp hpart
    rw [Json.levels]
    omega

/-! ## Texts -/

theorem partsAt_ne_tooDeep {depth : Nat} {cs : List Condition}
    (h : ∀ c ∈ cs, bodyAt depth c ≠ .error .conditionTooDeep) (connective : Connective) :
    partsAt connective depth cs ≠ .error .conditionTooDeep := by
  induction cs with
  | nil => simp [partsAt]
  | cons c cs ih =>
      rw [List.forall_mem_cons] at h
      rw [partsAt]
      refine bind_ne_error h.1 fun part _ => ?_
      split
      · simp
      · exact bind_ne_error (ih h.2) (by simp)

/-- A condition that fits is not too deep for a text. -/
theorem bodyAt_ne_tooDeep {depth : Nat} {c : Condition} (h : c.FitsAt depth) :
    bodyAt depth c ≠ .error .conditionTooDeep := by
  induction c using Condition.groupInduction generalizing depth with
  | other c hc =>
      obtain ⟨text, htext⟩ :=
        (exists_bodyAt_iff_of_ne_group hc).mpr ((fitsAt_iff_of_ne_group hc).mp h)
      simp [htext]
  | group connective operands ih =>
      obtain ⟨hdepth, hoperands⟩ := (fitsAt_group_iff ..).mp h
      cases operands with
      | nil => simp [bodyAt_group_nil hdepth]
      | cons c cs =>
          -- the operands fit one group further down
          have hparts := partsAt_ne_tooDeep (fun d hd => ih d hd (hoperands d hd)) connective
          rw [bodyAt_group_cons hdepth]
          cases hcs : partsAt connective (depth + 1) (c :: cs) with
          | error fault =>
              rw [hcs] at hparts
              simpa [Except.map] using hparts
          | ok parts => simp [Except.map]

theorem whereClause_ne_tooDeep {c : Condition} (h : c.FitsAt 0) :
    c.whereClause ≠ .error .conditionTooDeep :=
  bind_ne_error (bodyAt_ne_tooDeep h) (by simp)

/-! ## Documents with few levels -/

section

variable {v : Json} (hv : v.levels ≤ Json.deepest)

include hv

/-- **In a document with at most 127 levels** the reader of conditions comes through 63 combinators
at most. -/
theorem le_of_reaches {depth : Nat} {w : Json} (h : Reaches 0 v depth w) : depth ≤ 63 := by
  have htwice : 2 * depth ≤ 127 :=
    calc 2 * depth
        ≤ 2 * depth + w.levels := Nat.le_add_right _ _
      _ ≤ 2 * 0 + v.levels := h.levels_le
      _ = v.levels := by omega
      _ ≤ 127 := hv
  omega

theorem ofJson_ne_tooDeep : ofJson v ≠ .error .conditionTooDeep := by
  intro h
  obtain ⟨d, w, hreach, hd⟩ := (ofJsonAt_eq_tooDeep_iff 0 v).mp h
  have hdepth : d ≤ 63 := le_of_reaches hv hreach
  have hdeepest : deepestCondition = 64 := rfl
  omega

/-- **Its condition** fits. -/
theorem fitsAt_of_levels {c : Condition} (h : ofJson v = .ok c) : c.FitsAt 0 := by
  intro k d hpart
  have hdeepest : deepestCondition = 64 := rfl
  have htwice : 2 * k + 1 ≤ 127 :=
    calc 2 * k + 1
        ≤ v.levels := levels_of_hasPart h k d hpart
      _ ≤ 127 := hv
  omega

end

end Condition

end DocumentSql
