import DocumentSql.Json.Parser
import DocumentSql.Proofs.Json.Numbers
import DocumentSql.Proofs.Json.Strings
import DocumentSql.Proofs.Json.Parts

/-!
# Documents as they are written

The grammar of JSON texts, said without the reader: a value is written at the beginning of a text,
and another text follows it. The members of an object are kept as they are written, also those
whose key comes again.

* `Json.IsWritten.unique`: a text is written for one document only.
-/

set_option autoImplicit false

namespace DocumentSql.Json

/-! ## The grammar -/

/-- The text `s` begins with a value that holds no other, and `rest` follows it. -/
inductive BeginsAtom (s : List Char) : Json → List Char → Prop where
  | null {rest : List Char} (h : s = 'n' :: 'u' :: 'l' :: 'l' :: rest) : BeginsAtom s .null rest
  | true {rest : List Char} (h : s = 't' :: 'r' :: 'u' :: 'e' :: rest) :
      BeginsAtom s (.bool true) rest
  | false {rest : List Char} (h : s = 'f' :: 'a' :: 'l' :: 's' :: 'e' :: rest) :
      BeginsAtom s (.bool false) rest
  | string {t rest : List Char} {text : String} (h : s = '"' :: t)
      (htext : BeginsString t text rest) : BeginsAtom s (.string text) rest
  | natural {rest : List Char} {n : JsonNumber} (hn : BeginsNumber Bool.false s n rest) :
      BeginsAtom s (.number n) rest
  | negative {t rest : List Char} {n : JsonNumber} (h : s = '-' :: t)
      (hn : BeginsNumber Bool.true t n rest) : BeginsAtom s (.number n) rest

/-- The text begins with one item or more, with commas between them, and the closing character.
Each item begins where the one before it ends. -/
inductive BeginsList {α : Type} (Item : List Char → α → List Char → Prop) (closing : Char) :
    List Char → List α → List Char → Prop where
  | last {s t rest : List Char} {item : α} (h : Item s item t)
      (hend : skipBlanks t = closing :: rest) : BeginsList Item closing s [item] rest
  | next {s t u rest : List Char} {item : α} {items : List α} (h : Item s item t)
      (hcomma : skipBlanks t = ',' :: u) (hitems : BeginsList Item closing u items rest) :
      BeginsList Item closing s (item :: items) rest

/-- The text `s` begins with the items and the closing character behind them. There may be no
items. -/
inductive BeginsBody {α : Type} (Item : List Char → α → List Char → Prop) (closing : Char) :
    List α → List Char → List Char → Prop where
  | empty {s rest : List Char} (hend : skipBlanks s = closing :: rest) :
      BeginsBody Item closing [] s rest
  | list {items : List α} {s rest : List Char} (h : BeginsList Item closing s items rest) :
      BeginsBody Item closing items s rest

mutual

/-- The text `s` begins with the value, and `rest` follows it. Blanks may stand in front. -/
inductive Begins : List Char → Json → List Char → Prop where
  | atom {s rest : List Char} {v : Json} (h : BeginsAtom (skipBlanks s) v rest) : Begins s v rest
  | array {s t rest : List Char} {items : List Json} (h : skipBlanks s = '[' :: t)
      (hitems : BeginsBody Begins ']' items t rest) : Begins s (.array items) rest
  | object {s t rest : List Char} {members : List (String × Json)}
      (h : skipBlanks s = '\x7b' :: t) (hmembers : BeginsBody BeginsMember '\x7d' members t rest) :
      Begins s (.object members) rest

/-- The text `s` begins with a key, a colon and a value. -/
inductive BeginsMember : List Char → String × Json → List Char → Prop where
  | mk {s t u v rest : List Char} {key : String} {value : Json} (h : skipBlanks s = '"' :: t)
      (hkey : BeginsString t key u) (hcolon : skipBlanks u = ':' :: v)
      (hvalue : Begins v value rest) : BeginsMember s (key, value) rest

end

/-- The text is the document, with nothing but blanks around it. -/
def IsWritten (text : String) (v : Json) : Prop :=
  ∃ rest, Begins text.toList v rest ∧ skipBlanks rest = []

/-! ## What a value begins with -/

theorem BeginsString.unique {s rest rest' : List Char} {text text' : String}
    (h : BeginsString s text rest) (h' : BeginsString s text' rest') :
    text = text' ∧ rest = rest' := by
  have hread := readString_eq_ok_iff.mpr h
  rw [readString_eq_ok_iff.mpr h', Except.ok.injEq, Prod.mk.injEq] at hread
  exact ⟨hread.1.symm, hread.2.symm⟩

theorem BeginsNumber.unique {negative : Bool} {s rest rest' : List Char} {n n' : JsonNumber}
    (h : BeginsNumber negative s n rest) (h' : BeginsNumber negative s n' rest') :
    n = n' ∧ rest = rest' := by
  have hread := readNumber_eq_ok_iff.mpr h
  rw [readNumber_eq_ok_iff.mpr h', Except.ok.injEq, Prod.mk.injEq, Json.number.injEq] at hread
  exact ⟨hread.1.symm, hread.2.symm⟩

/-- A number without a sign begins with a digit. -/
theorem BeginsNumber.isDigit {negative : Bool} {c : Char} {t rest : List Char} {n : JsonNumber}
    (h : BeginsNumber negative (c :: t) n rest) : c.isDigit = Bool.true := by
  generalize hs : c :: t = s at h
  obtain ⟨⟨hdigits, -⟩, -, -, -, -⟩ := h
  obtain ⟨d, u, rfl, hd⟩ := hdigits.exists_cons
  cases hs
  exact hd

/-- The first character says which kind of value follows. -/
theorem BeginsAtom.unique {s rest rest' : List Char} {v w : Json} (hv : BeginsAtom s v rest)
    (hw : BeginsAtom s w rest') : v = w ∧ rest = rest' := by
  cases hv <;> cases hw <;>
    grind [→ BeginsNumber.isDigit, BeginsNumber.unique, BeginsString.unique]

/-- A value that holds no other begins with no bracket and no brace. -/
theorem BeginsAtom.ne_cons {s t rest : List Char} {v : Json} (h : BeginsAtom s v rest) {c : Char}
    (hc : c ∈ ['[', ']', '\x7b']) : s ≠ c :: t := by
  -- a bracket or a brace is no digit
  have hdigit : c.isDigit = Bool.false := by
    have hall : ['[', ']', '\x7b'].all (!·.isDigit) := by decide
    simpa using List.all_eq_true.1 hall c hc
  cases h <;> grind [→ BeginsNumber.isDigit]

/-- What begins with a bracket is an array. -/
theorem begins_array_iff {s t rest : List Char} {v : Json} (h : skipBlanks s = '[' :: t) :
    Begins s v rest ↔ ∃ items, v = .array items ∧ BeginsBody Begins ']' items t rest := by
  constructor
  · rintro (hatom | ⟨h', hitems⟩ | h')
    · exact absurd h (hatom.ne_cons (by simp))
    · rw [h, List.cons.injEq] at h'
      exact ⟨_, rfl, h'.2 ▸ hitems⟩
    · simp [h] at h'
  · rintro ⟨items, rfl, hitems⟩
    exact .array h hitems

/-- What begins with a brace is an object. -/
theorem begins_object_iff {s t rest : List Char} {v : Json} (h : skipBlanks s = '\x7b' :: t) :
    Begins s v rest ↔
      ∃ members, v = .object members ∧ BeginsBody BeginsMember '\x7d' members t rest := by
  constructor
  · rintro (hatom | h' | ⟨h', hmembers⟩)
    · exact absurd h (hatom.ne_cons (by simp))
    · simp [h] at h'
    · rw [h, List.cons.injEq] at h'
      exact ⟨_, rfl, h'.2 ▸ hmembers⟩
  · rintro ⟨members, rfl, hmembers⟩
    exact .object h hmembers

/-- No value begins with the end of an array. -/
theorem Begins.skipBlanks_ne {s t rest : List Char} {v : Json} (h : Begins s v rest) :
    skipBlanks s ≠ ']' :: t := by
  cases h with
  | atom h => exact h.ne_cons (by simp)
  | array h | object h => simp [h]

theorem BeginsMember.skipBlanks_ne {s t rest : List Char} {member : String × Json}
    (h : BeginsMember s member rest) : skipBlanks s ≠ '\x7d' :: t := by
  cases h with
  | mk h => simp [h]

/-! ## Uniqueness -/

theorem BeginsList.unique {α : Type} {Item : List Char → α → List Char → Prop} {closing : Char}
    (hclosing : closing ≠ ',') {s rest rest' : List Char} {items items' : List α}
    (hunique : ∀ item ∈ items, ∀ {s t t' : List Char} {item' : α}, Item s item t →
      Item s item' t' → item = item' ∧ t = t')
    (h : BeginsList Item closing s items rest) (h' : BeginsList Item closing s items' rest') :
    items = items' ∧ rest = rest' := by
  -- the first items are the same, and the character behind them says whether others follow
  induction h generalizing items' with
  | last hitem hend =>
      cases h' with
      | last hitem' hend' =>
          obtain ⟨rfl, rfl⟩ := hunique _ List.mem_cons_self hitem hitem'
          simp_all
      | next hitem' hcomma' =>
          obtain ⟨rfl, rfl⟩ := hunique _ List.mem_cons_self hitem hitem'
          rw [hend] at hcomma'
          cases hcomma'
          exact absurd rfl hclosing
  | next hitem hcomma hrest ih =>
      cases h' with
      | last hitem' hend' =>
          obtain ⟨rfl, rfl⟩ := hunique _ List.mem_cons_self hitem hitem'
          simp_all
      | next hitem' hcomma' hrest' =>
          obtain ⟨rfl, rfl⟩ := hunique _ List.mem_cons_self hitem hitem'
          rw [hcomma] at hcomma'
          cases hcomma'
          obtain ⟨rfl, rfl⟩ := ih (fun i hi => hunique i (List.mem_cons_of_mem _ hi)) hrest'
          exact ⟨rfl, rfl⟩

theorem BeginsBody.unique {α : Type} {Item : List Char → α → List Char → Prop} {closing : Char}
    (hclosing : closing ≠ ',')
    (hitem : ∀ {s t rest : List Char} {item : α}, Item s item t → skipBlanks s ≠ closing :: rest)
    {s rest rest' : List Char} {items items' : List α}
    (hunique : ∀ item ∈ items, ∀ {s t t' : List Char} {item' : α}, Item s item t →
      Item s item' t' → item = item' ∧ t = t')
    (h : BeginsBody Item closing items s rest) (h' : BeginsBody Item closing items' s rest') :
    items = items' ∧ rest = rest' := by
  -- no item begins with the end
  have hlist : ∀ {items : List α} {rest t : List Char}, BeginsList Item closing s items rest →
      skipBlanks s ≠ closing :: t := by
    rintro items rest t (h | h) <;> exact hitem h
  cases h with
  | empty hend =>
      cases h' with
      | empty hend' => simp_all
      | list h' => exact absurd hend (hlist h')
  | list h =>
      cases h' with
      | empty hend' => exact absurd hend' (hlist h)
      | list h' => exact h.unique hclosing hunique h'

theorem BeginsMember.unique {s t t' : List Char} {member member' : String × Json}
    (hunique : ∀ {s t t' : List Char} {w : Json}, Begins s member.2 t → Begins s w t' →
      member.2 = w ∧ t = t')
    (h : BeginsMember s member t) (h' : BeginsMember s member' t') : member = member' ∧ t = t' := by
  cases h with
  | mk h hkey hcolon hvalue =>
      cases h' with
      | mk h' hkey' hcolon' hvalue' =>
          rw [h, List.cons.injEq] at h'
          obtain ⟨-, rfl⟩ := h'
          obtain ⟨rfl, rfl⟩ := hkey.unique hkey'
          rw [hcolon, List.cons.injEq] at hcolon'
          obtain ⟨-, rfl⟩ := hcolon'
          obtain ⟨rfl, rfl⟩ := hunique hvalue hvalue'
          exact ⟨rfl, rfl⟩

/-- A text begins with one value only, which ends at one place. -/
theorem Begins.unique {s rest rest' : List Char} {v w : Json} (hv : Begins s v rest)
    (hw : Begins s w rest') : v = w ∧ rest = rest' := by
  induction v using Json.induction generalizing s rest w rest' with
  | array items ih =>
      cases hv with
      | atom h => cases h
      | array h hitems =>
          obtain ⟨items', rfl, hitems'⟩ := (begins_array_iff h).mp hw
          obtain ⟨rfl, rfl⟩ := hitems.unique (by decide) Begins.skipBlanks_ne ih hitems'
          exact ⟨rfl, rfl⟩
  | object members ih =>
      cases hv with
      | atom h => cases h
      | object h hmembers =>
          obtain ⟨members', rfl, hmembers'⟩ := (begins_object_iff h).mp hw
          obtain ⟨rfl, rfl⟩ := hmembers.unique (by decide) BeginsMember.skipBlanks_ne
            (fun member hmember _ _ _ _ => BeginsMember.unique (ih member hmember)) hmembers'
          exact ⟨rfl, rfl⟩
  | _ =>
      cases hv with
      | atom h =>
          cases hw with
          | atom h' => exact h.unique h'
          | array h' | object h' => exact absurd h' (h.ne_cons (by simp))

/-- **A text is written for one document only.** -/
theorem IsWritten.unique {text : String} {v w : Json} (hv : IsWritten text v)
    (hw : IsWritten text w) : v = w := by
  obtain ⟨rest, hv, -⟩ := hv
  obtain ⟨rest', hw, -⟩ := hw
  exact (hv.unique hw).1

end DocumentSql.Json
