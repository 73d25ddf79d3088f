import DocumentSql.Proofs.Entries
import DocumentSql.Proofs.Json.Settled

/-!
# How deep a document nests

The levels of a document are the arrays and objects around each other in it. The reader counts
them on the way down, and refuses a document with too many.

* `Json.levels`: the greatest number of containers on a way down into a document.
* `Json.levels_le_of_read`: a document that is read has at most `Json.deepest` of them.
-/

set_option autoImplicit false

namespace DocumentSql.Json

mutual

/-- The greatest number of arrays and objects on a way down into a value, itself among them. -/
def levels : Json → Nat
  | .null => 0
  | .bool _ => 0
  | .number _ => 0
  | .string _ => 0
  | .array items => levelsOfItems items + 1
  | .object members => levelsOfMembers members + 1

/-- The greatest number of containers on a way down into one of several values. -/
def levelsOfItems : List Json → Nat
  | [] => 0
  | item :: items => max item.levels (levelsOfItems items)

/-- The greatest number of containers on a way down into the value of one of several members. -/
def levelsOfMembers : List (String × Json) → Nat
  | [] => 0
  | (_, value) :: members => max value.levels (levelsOfMembers members)

end

theorem levels_array_le_iff {items : List Json} {n : Nat} :
    levels (.array items) ≤ n + 1 ↔ ∀ item ∈ items, item.levels ≤ n := by
  rw [levels, Nat.add_le_add_iff_right]
  induction items with
  | nil => simp [levelsOfItems]
  | cons item items ih => rw [levelsOfItems, Nat.max_le, List.forall_mem_cons, ih]

theorem levels_object_le_iff {members : List (String × Json)} {n : Nat} :
    levels (.object members) ≤ n + 1 ↔ ∀ member ∈ members, member.2.levels ≤ n := by
  rw [levels, Nat.add_le_add_iff_right]
  induction members with
  | nil => simp [levelsOfMembers]
  | cons member members ih =>
      obtain ⟨key, value⟩ := member
      rw [levelsOfMembers, Nat.max_le, List.forall_mem_cons, ih]

theorem levels_lt_array {item : Json} {items : List Json} (h : item ∈ items) :
    item.levels < levels (.array items) := by
  rw [levels, Nat.lt_add_one_iff]
  exact levels_array_le_iff.mp (Nat.le_of_eq (by rw [levels])) item h

theorem levels_lt_object {member : String × Json} {members : List (String × Json)}
    (h : member ∈ members) : member.2.levels < levels (.object members) := by
  rw [levels, Nat.lt_add_one_iff]
  exact levels_object_le_iff.mp (Nat.le_of_eq (by rw [levels])) member h

/-- A combinator over an array adds two levels. -/
theorem levels_combinator {item : Json} {items : List Json} (h : item ∈ items) (key : String) :
    item.levels + 2 ≤ levels (.object [(key, .array items)]) := by
  have hitem : item.levels < levels (.array items) := levels_lt_array h
  have hmember : (key, array items) ∈ [(key, array items)] := List.mem_cons_self
  calc item.levels + 2
      ≤ levels (.array items) + 1 := Nat.succ_le_succ hitem
    _ ≤ levels (.object [(key, .array items)]) := levels_lt_object hmember

/-! ## The reader -/

/-- With this much fuel, the reader keeps to the levels for which there is room. -/
structure ReadsWithin (fuel : Nat) : Prop where
  value : ∀ {room : Nat} {s rest : List Char} {v : Json},
    readValueWith fuel room s = .ok (v, rest) → v.levels ≤ room
  items : ∀ {room : Nat} {s rest : List Char} {vs : List Json},
    readItemsWith fuel room s = .ok (vs, rest) → ∀ v ∈ vs, v.levels ≤ room
  members : ∀ {room : Nat} {s rest : List Char} {seen vs : List (String × Json)},
    readMembersWith fuel room seen s = .ok (vs, rest) →
      (∀ m ∈ seen, m.2.levels ≤ room) → ∀ m ∈ vs, m.2.levels ≤ room

theorem BeginsAtom.levels_eq_zero {s rest : List Char} {v : Json} (h : BeginsAtom s v rest) :
    v.levels = 0 := by
  cases h <;> rw [levels]

theorem ReadsWithin.value_succ {fuel : Nat} (ih : ReadsWithin fuel) {room : Nat}
    {s rest : List Char} {v : Json} (h : readValueWith (fuel + 1) room s = .ok (v, rest)) :
    v.levels ≤ room := by
  rcases readValueWith_succ_eq_ok h with
    hatom | ⟨room, t, vs, rfl, -, rfl, hvs⟩ | ⟨room, t, vs, rfl, -, rfl, hvs⟩
  · rw [hatom.levels_eq_zero]
    exact Nat.zero_le room
  · refine levels_array_le_iff.mpr ?_
    rcases hvs with ⟨rfl, -⟩ | hvs
    · simp
    · exact ih.items hvs
  · refine levels_object_le_iff.mpr ?_
    rcases hvs with ⟨rfl, -⟩ | hvs
    · simp
    · exact ih.members hvs (by simp)

theorem ReadsWithin.items_succ {fuel : Nat} (ih : ReadsWithin fuel) {room : Nat}
    {s rest : List Char} {vs : List Json}
    (h : readItemsWith (fuel + 1) room s = .ok (vs, rest)) : ∀ v ∈ vs, v.levels ≤ room := by
  obtain ⟨v, t, hv, hend⟩ := readItemsWith_succ_eq_ok h
  have hlevels : v.levels ≤ room := ih.value hv
  rcases hend with ⟨rfl, -⟩ | ⟨u, more, rfl, -, hmore⟩
  · simpa using hlevels
  · exact List.forall_mem_cons.mpr ⟨hlevels, ih.items hmore⟩

theorem ReadsWithin.members_succ {fuel : Nat} (ih : ReadsWithin fuel) {room : Nat}
    {s rest : List Char} {seen vs : List (String × Json)}
    (h : readMembersWith (fuel + 1) room seen s = .ok (vs, rest))
    (hseen : ∀ m ∈ seen, m.2.levels ≤ room) : ∀ m ∈ vs, m.2.levels ≤ room := by
  obtain ⟨t, key, t₁, t₂, v, t₃, -, -, -, hv, hend⟩ := readMembersWith_succ_eq_ok h
  -- a member is put among those seen before, whatever becomes of its key
  have hput : ∀ m ∈ Entries.put key v seen, m.2.levels ≤ room := by
    intro m hm
    rcases Entries.eq_or_mem_of_mem_put hm with rfl | hm
    · exact ih.value hv
    · exact hseen m hm
  rcases hend with ⟨rfl, -⟩ | ⟨u, -, hmore⟩
  · exact hput
  · exact ih.members hmore hput

theorem readsWithin (fuel : Nat) : ReadsWithin fuel := by
  induction fuel with
  | zero =>
      refine ⟨?_, ?_, ?_⟩
      · intro room s rest v h
        rw [readValueWith] at h
        cases h
      · intro room s rest vs h
        rw [readItemsWith] at h
        cases h
      · intro room s rest seen vs h
        rw [readMembersWith] at h
        cases h
  | succ fuel ih => exact ⟨ih.value_succ, ih.items_succ, ih.members_succ⟩

/-- **The documents that are read** have no more levels than the reader has room for. -/
theorem levels_le_of_read {text : String} {v : Json} (h : read text = .ok v) :
    v.levels ≤ deepest := by
  obtain ⟨⟨v', rest⟩, hvalue, h⟩ := bind_eq_ok_iff.mp h
  simp only at h
  split at h
  · cases h
    exact (readsWithin _).value hvalue
  · cases h

end DocumentSql.Json
