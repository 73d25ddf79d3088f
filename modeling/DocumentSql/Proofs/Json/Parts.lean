import DocumentSql.Json.Basic

/-!
# The values inside a value

Induction on values, and the values that stand in a value at any depth. That no object has the
same key twice is a property of all objects in a value.
-/

set_option autoImplicit false

namespace DocumentSql.Json

/-- Induction on values: what holds of the values in a container holds of the container. -/
@[elab_as_elim]
theorem induction {P : Json → Prop} (null : P .null) (bool : ∀ b, P (.bool b))
    (number : ∀ n, P (.number n)) (string : ∀ s, P (.string s))
    (array : ∀ items, (∀ v ∈ items, P v) → P (.array items))
    (object : ∀ members : List (String × Json), (∀ m ∈ members, P m.2) → P (.object members))
    (v : Json) : P v :=
  @Json.rec P (fun items => ∀ v ∈ items, P v) (fun members => ∀ m ∈ members, P m.2)
    (fun m => P m.2) null bool number string array object (by simp)
    (fun _ _ hv hrest => by simpa using And.intro hv hrest) (by simp)
    (fun _ _ hm hrest => by simpa using And.intro hm hrest) (fun _ _ hv => hv) v

/-- The value stands in the other one, at any depth. -/
inductive Contains : Json → Json → Prop where
  | self (v : Json) : Contains v v
  | item {items : List Json} {v w : Json} (hv : v ∈ items) (h : Contains v w) :
      Contains (.array items) w
  | member {members : List (String × Json)} {key : String} {v w : Json}
      (hv : (key, v) ∈ members) (h : Contains v w) : Contains (.object members) w

theorem contains_array_iff {items : List Json} {w : Json} :
    Contains (.array items) w ↔ w = .array items ∨ ∃ v ∈ items, v.Contains w := by
  constructor
  · rintro (_ | ⟨hv, h⟩)
    · exact .inl rfl
    · exact .inr ⟨_, hv, h⟩
  · rintro (rfl | ⟨v, hv, h⟩)
    · exact .self _
    · exact .item hv h

theorem contains_object_iff {members : List (String × Json)} {w : Json} :
    Contains (.object members) w ↔
      w = .object members ∨ ∃ m ∈ members, m.2.Contains w := by
  constructor
  · rintro (_ | _ | ⟨hv, h⟩)
    · exact .inl rfl
    · exact .inr ⟨_, hv, h⟩
  · rintro (rfl | ⟨⟨key, v⟩, hv, h⟩)
    · exact .self _
    · exact .member hv h

/-- No key is twice in an object, at any depth. -/
def HasDistinctKeys (v : Json) : Prop :=
  ∀ members, v.Contains (.object members) → (members.map Prod.fst).Nodup

theorem hasDistinctKeys_array_iff {items : List Json} :
    HasDistinctKeys (.array items) ↔ ∀ v ∈ items, v.HasDistinctKeys := by
  constructor
  · intro h v hv members hin
    exact h members (.item hv hin)
  · intro h members hin
    obtain ⟨v, hv, hin⟩ := (contains_array_iff.mp hin).resolve_left (by simp)
    exact h v hv members hin

theorem hasDistinctKeys_object_iff {members : List (String × Json)} :
    HasDistinctKeys (.object members) ↔
      (members.map Prod.fst).Nodup ∧ ∀ m ∈ members, m.2.HasDistinctKeys := by
  constructor
  · intro h
    refine ⟨h members (.self _), ?_⟩
    rintro ⟨key, v⟩ hv members' hin
    exact h members' (.member hv hin)
  · rintro ⟨hnodup, h⟩ members' hin
    rcases contains_object_iff.mp hin with hself | ⟨m, hm, hin⟩
    · cases hself
      exact hnodup
    · exact h m hm members' hin

end DocumentSql.Json
