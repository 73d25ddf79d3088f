import DocumentSql.Proofs.Statement.Guard
import DocumentSql.Proofs.Statement.Tokens

/-!
# What the text of joins says about their grouping

The text of a join is the texts of its sides with the join between them and no parentheses. It
shows every table, and every join with its columns, in their order. It does not show that the
right side of a natural join is a join itself: a reader takes the joins from left to right, and
so finds another tree with the same text. Nothing else gets lost.

* `TableRef.read?_tokens`: the tree that a reader finds.
* `TableRef.sql_eq_iff_regroups`: which trees have the same text.
-/

set_option autoImplicit false

namespace DocumentSql.TableRef

open Lexical

/-! ## What a tree joins -/

/-- The tables from left to right. -/
def tables : TableRef → List String
  | .plain name => [name]
  | .natural left right => left.tables ++ right.tables
  | .equality left right _ _ => left.tables ++ right.tables

/-- The joins from left to right. -/
def joins : TableRef → List JoinCondition
  | .plain _ => []
  | .natural left right => left.joins ++ .natural :: right.joins
  | .equality left right first second => left.joins ++ .on [first, second] :: right.joins

/-- The right side of every natural join is plain. -/
def NaturalsArePlain : TableRef → Prop
  | .plain _ => True
  | .natural left right => left.NaturalsArePlain ∧ right.isJoined = false
  | .equality left right _ _ => left.NaturalsArePlain ∧ right.NaturalsArePlain

/-! ## Regrouping -/

/-- One tree is the other, except that joins on the right side of a natural join may be made
after it, anywhere in the tree. -/
inductive Regroups : TableRef → TableRef → Prop where
  | refl (t : TableRef) : Regroups t t
  | symm {t u : TableRef} : Regroups t u → Regroups u t
  | trans {t u v : TableRef} : Regroups t u → Regroups u v → Regroups t v
  | natural_natural (a b c : TableRef) :
      Regroups (.natural a (.natural b c)) (.natural (.natural a b) c)
  | natural_equality (a b c : TableRef) (first second : String × String) :
      Regroups (.natural a (.equality b c first second))
        (.equality (.natural a b) c first second)
  | natural {l l' r r' : TableRef} :
      Regroups l l' → Regroups r r' → Regroups (.natural l r) (.natural l' r')
  | equality {l l' r r' : TableRef} (first second : String × String) :
      Regroups l l' → Regroups r r' →
        Regroups (.equality l r first second) (.equality l' r' first second)

namespace Regroups

variable {t u : TableRef}

/-- What a tree shows of its sides is the same in trees that regroup, if it does not show how
they are grouped. -/
theorem eq_of_ungrouped {α : Type} (h : t.Regroups u) (f : TableRef → α)
    (natural_natural : ∀ a b c, f (.natural a (.natural b c)) = f (.natural (.natural a b) c))
    (natural_equality : ∀ a b c first second,
      f (.natural a (.equality b c first second)) = f (.equality (.natural a b) c first second))
    (natural : ∀ l l' r r', f l = f l' → f r = f r' → f (.natural l r) = f (.natural l' r'))
    (equality : ∀ l l' r r' first second, f l = f l' → f r = f r' →
      f (.equality l r first second) = f (.equality l' r' first second)) :
    f t = f u := by
  induction h with
  | refl t => rfl
  | symm _ ih => exact ih.symm
  | trans _ _ ih₁ ih₂ => exact ih₁.trans ih₂
  | natural_natural a b c => exact natural_natural a b c
  | natural_equality a b c first second => exact natural_equality a b c first second
  | natural _ _ ihl ihr => exact natural _ _ _ _ ihl ihr
  | equality first second _ _ ihl ihr => exact equality _ _ _ _ first second ihl ihr

theorem sql_eq (h : t.Regroups u) : t.sql = u.sql := by
  refine h.eq_of_ungrouped TableRef.sql ?_ ?_ ?_ ?_ <;> intros <;>
    simp [TableRef.sql, String.append_assoc, *]

theorem tables_eq (h : t.Regroups u) : t.tables = u.tables := by
  refine h.eq_of_ungrouped TableRef.tables ?_ ?_ ?_ ?_ <;> intros <;> simp [TableRef.tables, *]

theorem joins_eq (h : t.Regroups u) : t.joins = u.joins := by
  refine h.eq_of_ungrouped TableRef.joins ?_ ?_ ?_ ?_ <;> intros <;> simp [TableRef.joins, *]

end Regroups

/-! ## The tree that a reader finds -/

/-- The natural join of `t` with the first table of another tree, and then the joins of that
tree. -/
def attach (t : TableRef) : TableRef → TableRef
  | .plain name => .natural t (.plain name)
  | .natural left right => .natural (t.attach left) right
  | .equality left right first second => .equality (t.attach left) right first second

theorem attach_attach (t u v : TableRef) : (t.attach u).attach v = t.attach (u.attach v) := by
  induction v with
  | plain name => rfl
  | natural left right ihleft _ => rw [attach, ihleft, attach, attach]
  | equality left right first second ihleft _ => rw [attach, ihleft, attach, attach]

/-- The tree in which no join is made on the right side of a natural join. -/
def normal : TableRef → TableRef
  | .plain name => .plain name
  | .natural left right => left.normal.attach right.normal
  | .equality left right first second => .equality left.normal right.normal first second

theorem regroups_attach (t u : TableRef) : (natural t u).Regroups (t.attach u) := by
  induction u with
  | plain name => exact .refl _
  | natural left right ihleft _ =>
      exact (Regroups.natural_natural t left right).trans (.natural ihleft (.refl right))
  | equality left right first second ihleft _ =>
      exact (Regroups.natural_equality t left right first second).trans
        (.equality first second ihleft (.refl right))

theorem regroups_normal (t : TableRef) : t.Regroups t.normal := by
  induction t with
  | plain name => exact .refl _
  | natural left right ihleft ihright =>
      exact (Regroups.natural ihleft ihright).trans (regroups_attach _ _)
  | equality left right first second ihleft ihright => exact .equality first second ihleft ihright

theorem NaturalsArePlain.normal_eq {t : TableRef} (h : t.NaturalsArePlain) : t.normal = t := by
  induction t with
  | plain name => rfl
  | natural left right ihleft _ =>
      cases right with
      | plain name => rw [normal, ihleft h.1, normal, attach]
      | natural => cases h.2
      | equality => cases h.2
  | equality left right first second ihleft ihright => rw [normal, ihleft h.1, ihright h.2]

/-! ## The reader -/

/-- A tree where it stands: alone, or on the right side of a natural join. -/
def after (left : Option TableRef) (t : TableRef) : TableRef :=
  match left with
  | none => t
  | some left => left.attach t

mutual

/-- The tree that is read where a table is due, which is joined to what is on its `left`. The
`waiting` trees are the left sides of joins whose columns are still to come, the last one first. -/
def tableDue (left : Option TableRef) (waiting : List TableRef) :
    List Token → Option TableRef
  | .name name :: ts => tableRead (after left (.plain name)) waiting ts
  | _ => none

/-- The tree that is read after the tree `t`. -/
def tableRead (t : TableRef) (waiting : List TableRef) : List Token → Option TableRef
  | [] => if waiting.isEmpty then some t else none
  | .word "NATURAL" :: .word "JOIN" :: ts => tableDue (some t) waiting ts
  | .word "JOIN" :: ts => tableDue none (t :: waiting) ts
  -- the columns close the join that was opened last
  | .word "ON" :: .name table₁ :: .sign "." :: .name column₁ :: .sign "=" :: .name table₂ ::
        .sign "." :: .name column₂ :: ts =>
      match waiting with
      | [] => none
      | left :: waiting =>
          tableRead (.equality left t (table₁, column₁) (table₂, column₂)) waiting ts
  | _ => none

end

/-- The tree that tokens are. -/
def read? (ts : List Token) : Option TableRef := tableDue none [] ts

theorem tableDue_tokens (t : TableRef) (left : Option TableRef) (waiting : List TableRef)
    (ts : List Token) :
    tableDue left waiting (significant t.tokens ++ ts) =
      tableRead (after left t.normal) waiting ts := by
  induction t generalizing left waiting ts with
  | plain name => simp [tokens, tableDue, normal]
  | natural l r ihl ihr =>
      have htokens : significant (natural l r).tokens =
          significant l.tokens ++ .word "NATURAL" :: .word "JOIN" :: significant r.tokens := by
        simp [tokens, spaced, Token.space]
      have hafter : after (some (after left l.normal)) r.normal =
          after left (natural l r).normal := by
        cases left with
        | none => rfl
        | some left => exact attach_attach ..
      calc tableDue left waiting (significant (natural l r).tokens ++ ts)
          = tableDue left waiting (significant l.tokens ++
              .word "NATURAL" :: .word "JOIN" :: (significant r.tokens ++ ts)) := by
            rw [htokens, List.append_assoc, List.cons_append, List.cons_append]
        _ = tableDue (some (after left l.normal)) waiting (significant r.tokens ++ ts) := by
            rw [ihl, tableRead]
        _ = tableRead (after left (natural l r).normal) waiting ts := by rw [ihr, hafter]
  | equality l r first second ihl ihr =>
      have htokens : significant (equality l r first second).tokens =
          significant l.tokens ++ .word "JOIN" :: (significant r.tokens ++
            [.word "ON", .name first.1, .sign ".", .name first.2, .sign "=", .name second.1,
              .sign ".", .name second.2]) := by
        simp [tokens, spaced, qualifiedTokens, Token.space]
      have hafter : after left (equality l r first second).normal =
          .equality (after left l.normal) r.normal first second := by
        cases left <;> rfl
      -- the left side waits until the right side and the columns are read
      rw [htokens, List.append_assoc, List.cons_append, ihl, tableRead, List.append_assoc, ihr,
        hafter]
      rfl

/-- **A reader finds the tree without joins on the right side of a natural join.** -/
theorem read?_tokens (t : TableRef) : read? (significant t.tokens) = some t.normal := by
  have hread := tableDue_tokens t none [] []
  rw [List.append_nil] at hread
  rw [read?, hread]
  rfl

/-! ## Trees with the same text -/

section SameText

variable {l r : TableRef}

theorem normal_eq_of_sql_eq (hl : ∀ name ∈ l.names, Identifier.IsPlain name)
    (hr : ∀ name ∈ r.names, Identifier.IsPlain name) (h : l.sql = r.sql) :
    l.normal = r.normal := by
  have hspell : spell l.tokens = spell r.tokens := by rw [← toList_sql, h, toList_sql]
  have htokens : some l.tokens = some r.tokens := by
    rw [← lex_spell (readable_tokens hl), hspell, lex_spell (readable_tokens hr)]
  have hread : some l.normal = some r.normal := by
    rw [← read?_tokens, Option.some.inj htokens, read?_tokens]
  exact Option.some.inj hread

/-- **Two joins have the same text exactly when they regroup.** So they join the same tables in
the same order, in the same way and on the same columns, and they are the same tree if every
natural join of theirs has a plain table on its right side. -/
theorem sql_eq_iff_regroups (hl : ∀ name ∈ l.names, Identifier.IsPlain name)
    (hr : ∀ name ∈ r.names, Identifier.IsPlain name) :
    (l.sql = r.sql ↔ l.Regroups r) ∧
      (l.sql = r.sql → l.tables = r.tables ∧ l.joins = r.joins) ∧
      (l.sql = r.sql → l.NaturalsArePlain → r.NaturalsArePlain → l = r) := by
  have hregroups : l.sql = r.sql → l.Regroups r := by
    intro h
    have hnormal : l.Regroups r.normal := normal_eq_of_sql_eq hl hr h ▸ l.regroups_normal
    exact hnormal.trans r.regroups_normal.symm
  refine ⟨⟨hregroups, Regroups.sql_eq⟩, ?_, ?_⟩
  · intro h
    exact ⟨(hregroups h).tables_eq, (hregroups h).joins_eq⟩
  · intro h hleft hright
    rw [← hleft.normal_eq, normal_eq_of_sql_eq hl hr h, hright.normal_eq]

/-- A join on columns that is made on the right side of a natural join, or after it. -/
theorem sql_eq_iff_regroups_mixed :
    let l : TableRef :=
      .natural (.plain "Pet") (.equality (.plain "Breed") (.plain "Shop") ("Breed", "id")
        ("Shop", "breed"))
    let r : TableRef :=
      .equality (.natural (.plain "Pet") (.plain "Breed")) (.plain "Shop") ("Breed", "id")
        ("Shop", "breed")
    (∀ name ∈ l.names, Identifier.IsPlain name) ∧ (∀ name ∈ r.names, Identifier.IsPlain name) ∧
      l.sql = r.sql ∧
        (l.sql = r.sql ↔ l.Regroups r) ∧
          (l.sql = r.sql → l.tables = r.tables ∧ l.joins = r.joins) ∧
          (l.sql = r.sql → l.NaturalsArePlain → r.NaturalsArePlain → l = r) :=
  ⟨by decide, by decide, rfl, sql_eq_iff_regroups (by decide) (by decide)⟩

/-- Two natural joins of three tables have the same text, however they are grouped. -/
theorem grouping_of_naturals_is_lost :
    ¬ ∀ (steps steps' : List TableStep) (i j : Nat) (l r : TableRef),
      (TableStep.makeAll steps)[i]? = some (some l) →
        (TableStep.makeAll steps')[j]? = some (some r) →
          (∀ name ∈ l.names, Identifier.IsPlain name) →
            (∀ name ∈ r.names, Identifier.IsPlain name) → l.sql = r.sql → l = r := by
  intro h
  have heq := h
    [.plain "a", .plain "b", .plain "c", .natural 1 2, .natural 0 3]
    [.plain "a", .plain "b", .plain "c", .natural 0 1, .natural 3 2]
    4 4 _ _ rfl rfl (by decide) (by decide) rfl
  exact absurd heq (by decide)

end SameText

end DocumentSql.TableRef
