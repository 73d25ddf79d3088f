import DocumentSql.Error

/-!
# Results of computations that may fail

When a computation that is made of smaller ones has a result.
-/

set_option autoImplicit false

namespace DocumentSql

/-- One computation after another has a result where both have. -/
theorem bind_eq_ok_iff {ε α β : Type} {x : Except ε α} {f : α → Except ε β} {b : β} :
    (x >>= f) = .ok b ↔ ∃ a, x = .ok a ∧ f a = .ok b := by
  cases x <;> simp [bind, Except.bind]

/-- One computation after another fails where one of them does. -/
theorem bind_eq_error_iff {ε α β : Type} {x : Except ε α} {f : α → Except ε β} {e : ε} :
    (x >>= f) = .error e ↔ x = .error e ∨ ∃ a, x = .ok a ∧ f a = .error e := by
  cases x <;> simp [bind, Except.bind]

/-- A failure of neither computation is no failure of one after the other. -/
theorem bind_ne_error {ε α β : Type} {x : Except ε α} {f : α → Except ε β} {e : ε}
    (hx : x ≠ .error e) (hf : ∀ a, x = .ok a → f a ≠ .error e) : (x >>= f) ≠ .error e := by
  intro h
  rcases bind_eq_error_iff.mp h with h | ⟨a, ha, h⟩
  · exact hx h
  · exact hf a ha h

/-- One check after another is passed where both are. -/
theorem then_eq_ok_iff {ε β : Type} {x : Except ε Unit} {y : Except ε β} {b : β} :
    (x >>= fun _ => y) = .ok b ↔ x = .ok () ∧ y = .ok b := by
  cases x <;> simp [bind, Except.bind]

/-- A computation behind a guard has a result where it is let through and has one. -/
theorem guarded_eq_ok_iff {ε α : Type} {p : Prop} [Decidable p] {fault : ε} {x : Except ε α}
    {a : α} : (if p then .error fault else x) = .ok a ↔ ¬ p ∧ x = .ok a := by
  by_cases h : p <;> simp [h]

/-- What is made of a result exists where the result does. -/
theorem exists_bind_eq_ok_iff {ε α β : Type} (x : Except ε α) (f : α → β) :
    (∃ b, (x >>= fun a => .ok (f a)) = .ok b) ↔ ∃ a, x = .ok a := by
  cases x <;> simp [bind, Except.bind]

theorem ofSchema_eq_ok_iff {α : Type} {x : Except SchemaFault α} {a : α} :
    QueryError.ofSchema x = .ok a ↔ x = .ok a := by
  cases x <;> simp [QueryError.ofSchema]

theorem ofSchema_eq_error_iff {α : Type} {x : Except SchemaFault α} {fault : SchemaFault} :
    QueryError.ofSchema x = .error (.schema fault) ↔ x = .error fault := by
  cases x <;> simp [QueryError.ofSchema]

theorem toOption_eq_some_iff {ε α : Type} {x : Except ε α} {a : α} :
    x.toOption = some a ↔ x = .ok a := by
  cases x <;> simp [Except.toOption]

end DocumentSql
