/-!
# Pieces of a text

Cutting a text at a separating character, and joining texts with a separator.
-/

set_option autoImplicit false

namespace DocumentSql.Text

/-- The pieces of `cs` between the occurrences of `mark`: one more than there are occurrences,
each possibly empty. -/
def piecesOf (mark : Char) : List Char → List (List Char)
  | [] => [[]]
  | c :: cs =>
      if c = mark then [] :: piecesOf mark cs
      else
        match piecesOf mark cs with
        | [] => [[c]]
        | piece :: rest => (c :: piece) :: rest

/-- The pieces of a text between the occurrences of `mark`. -/
def pieces (mark : Char) (s : String) : List String :=
  (piecesOf mark s.toList).map String.ofList

/-- What stands before and after the first `mark`, if there is one. -/
def cutAt (mark : Char) : List Char → Option (List Char × List Char)
  | [] => none
  | c :: cs =>
      if c = mark then some ([], cs)
      else (cutAt mark cs).map fun (before, after) => (c :: before, after)

/-- The texts one after the other, with `separator` between neighbours. -/
def joinWith (separator : String) : List String → String
  | [] => ""
  | [s] => s
  | s :: rest => s ++ separator ++ joinWith separator rest

/-- A text is cut into at least one piece. -/
theorem piecesOf_ne_nil (mark : Char) (cs : List Char) : piecesOf mark cs ≠ [] := by
  cases cs with
  | nil => simp [piecesOf]
  | cons c cs =>
      by_cases h : c = mark
      · simp [piecesOf, h]
      · simp only [piecesOf, if_neg h]
        split <;> simp

/-- A cut loses nothing but the separating character, and cuts at its first occurrence. -/
theorem eq_of_cutAt (mark : Char) {cs before after : List Char}
    (h : cutAt mark cs = some (before, after)) :
    cs = before ++ mark :: after ∧ mark ∉ before := by
  induction cs generalizing before after with
  | nil => simp [cutAt] at h
  | cons c cs ih =>
      by_cases hc : c = mark
      · simp only [cutAt, if_pos hc, Option.some.injEq, Prod.mk.injEq] at h
        obtain ⟨rfl, rfl⟩ := h
        simp [hc]
      · simp only [cutAt, if_neg hc, Option.map_eq_some_iff] at h
        obtain ⟨⟨b, a⟩, hb, heq⟩ := h
        simp only [Prod.mk.injEq] at heq
        obtain ⟨rfl, rfl⟩ := heq
        obtain ⟨rfl, hm⟩ := ih hb
        simp [Ne.symm hc, hm]

/-- A text is cut at the first occurrence of the separating character. -/
theorem cutAt_append {mark : Char} {before : List Char} (h : mark ∉ before) (after : List Char) :
    cutAt mark (before ++ mark :: after) = some (before, after) := by
  induction before with
  | nil => simp [cutAt]
  | cons c before ih =>
      rw [List.mem_cons, not_or] at h
      rw [List.cons_append, cutAt, if_neg (Ne.symm h.1), ih h.2]
      rfl

end DocumentSql.Text
