import DocumentSql.Proofs.Lexical.Spelling
import DocumentSql.Text.Pieces

/-!
# Lists, parentheses and spaces

How the tokens of a larger text are put together from those of its parts: with a separator
between them, between parentheses, with spaces around them. Two tokens never run into each other
when one of them is a blank, a parenthesis or a comma, so that each way keeps the parts readable;
and each is matched by the way in which the texts of the parts are put together.

* `toList_joinWith_eq_spell`: joined texts are spelled by joined tokens.
* `readable_commaList`, `Readable.parenthesized`: what is put together can be read back.
-/

set_option autoImplicit false

namespace DocumentSql.Lexical

/-! ## Delimiters -/

/-- The token keeps those around it apart: a blank, a parenthesis or a comma. -/
def Token.IsDelimiter : Token → Prop
  | .blank c => isSpace c
  | .sign text => text ∈ ["(", ")", ","]
  | _ => False

theorem Token.IsDelimiter.isValid {t : Token} (h : t.IsDelimiter) : t.IsValid := by
  cases t with
  | blank c => exact h
  | sign text =>
      simp only [IsDelimiter, List.mem_cons, List.not_mem_nil, or_false] at h
      rcases h with rfl | rfl | rfl <;> simp [IsValid, plainSigns]
  | _ => exact h.elim

theorem Token.IsDelimiter.apart {t : Token} (h : t.IsDelimiter) (u : Token) : t.Apart u := by
  intro c _
  cases t with
  | blank c => exact trivial
  | sign text =>
      simp only [IsDelimiter, List.mem_cons, List.not_mem_nil, or_false] at h
      rcases h with rfl | rfl | rfl <;> simp [EndsBefore, closedSigns]
  | _ => exact h.elim

/-- A delimiter is a character that goes on with no other token. -/
theorem Token.IsDelimiter.text_eq {t : Token} (h : t.IsDelimiter) :
    ∃ c, t.text = [c] ∧ isWordChar c = false ∧
      ∀ d ∈ [backtick, '"', '\x27', '.', '=', '>', '<'], c ≠ d := by
  cases t with
  | blank c =>
      refine ⟨c, rfl, isWordChar_of_isSpace h, ?_⟩
      rintro d hd rfl
      have hspace : [backtick, '"', '\x27', '.', '=', '>', '<'].all (fun d => !isSpace d) := by
        decide
      have hc := List.all_eq_true.mp hspace c hd
      rw [IsDelimiter] at h
      rw [h] at hc
      cases hc
  | sign text =>
      simp only [IsDelimiter, List.mem_cons, List.not_mem_nil, or_false] at h
      rcases h with rfl | rfl | rfl
      · exact ⟨'(', rfl, by decide, by simp [backtick]⟩
      · exact ⟨')', rfl, by decide, by simp [backtick]⟩
      · exact ⟨',', rfl, by decide, by simp [backtick]⟩
  | _ => exact h.elim

theorem Token.IsValid.apart {t u : Token} (ht : t.IsValid) (hu : u.IsDelimiter) :
    t.Apart u := by
  obtain ⟨c, hc, hword, hne⟩ := hu.text_eq
  intro d hd
  rw [hc, List.head?_cons, Option.mem_some_iff] at hd
  subst hd
  cases t with
  | blank c => exact trivial
  | name content => exact hne backtick (by simp)
  | string mark content =>
      rcases ht.1 with rfl | rfl
      · exact hne '"' (by simp)
      · exact hne '\x27' (by simp)
  | number text => exact ⟨hword, hne '.' (by simp)⟩
  | word text => exact hword
  | sign text => exact .inr ⟨hne '=' (by simp), hne '>' (by simp), hne '<' (by simp)⟩

/-- Readable lists may be put together where one of them has a delimiter at the joint. -/
theorem Readable.append {ts us : List Token} (hts : Readable ts) (hus : Readable us)
    (h : (∀ t ∈ ts.getLast?, t.IsDelimiter) ∨ ∀ u ∈ us.head?, u.IsDelimiter) :
    Readable (ts ++ us) := by
  refine ⟨?_, List.isChain_append.mpr ⟨hts.2, hus.2, ?_⟩⟩
  · intro t ht
    rcases List.mem_append.mp ht with ht | ht
    · exact hts.1 t ht
    · exact hus.1 t ht
  · intro t ht u hu
    rcases h with h | h
    · exact (h t ht).apart u
    · exact (hts.1 t (List.mem_of_getLast? ht)).apart (h u hu)

/-! ## Separators -/

/-- A readable list that begins and ends with a delimiter. -/
structure IsSeparator (ts : List Token) : Prop where
  readable : Readable ts
  ne_nil : ts ≠ []
  head : ∀ t ∈ ts.head?, t.IsDelimiter
  getLast : ∀ t ∈ ts.getLast?, t.IsDelimiter

theorem Readable.append_separator {ts sep us : List Token} (hts : Readable ts)
    (hsep : IsSeparator sep) (hus : Readable us) : Readable (ts ++ (sep ++ us)) := by
  refine hts.append (hsep.readable.append hus (.inl hsep.getLast)) (.inr ?_)
  rw [List.head?_append_of_ne_nil _ hsep.ne_nil]
  exact hsep.head

theorem readable_intercalate {sep : List Token} (hsep : IsSeparator sep)
    {parts : List (List Token)} (h : ∀ part ∈ parts, Readable part) :
    Readable (sep.intercalate parts) := by
  induction parts with
  | nil => exact readable_nil
  | cons part parts ih =>
      have hpart := h part List.mem_cons_self
      have hparts := ih fun p hp => h p (List.mem_cons_of_mem part hp)
      cases parts with
      | nil => simpa using hpart
      | cons p ps =>
          rw [List.intercalate_cons_cons, List.append_assoc]
          exact hpart.append_separator hsep hparts

/-! ## Joined texts -/

namespace Token

/-- A single space. -/
def space : Token := .blank ' '

def comma : Token := .sign ","

def leftParen : Token := .sign "("

def rightParen : Token := .sign ")"

@[simp] theorem text_space : space.text = [' '] := rfl

@[simp] theorem text_comma : comma.text = [','] := rfl

@[simp] theorem text_leftParen : leftParen.text = ['('] := rfl

@[simp] theorem text_rightParen : rightParen.text = [')'] := rfl

theorem isDelimiter_space : space.IsDelimiter := rfl

theorem isDelimiter_comma : comma.IsDelimiter := by
  simp [comma, IsDelimiter]

theorem isDelimiter_leftParen : leftParen.IsDelimiter := by
  simp [leftParen, IsDelimiter]

theorem isDelimiter_rightParen : rightParen.IsDelimiter := by
  simp [rightParen, IsDelimiter]

end Token

theorem isSeparator_space : IsSeparator [Token.space] :=
  ⟨Token.isDelimiter_space.isValid.readable, by simp,
    by simpa using Token.isDelimiter_space, by simpa using Token.isDelimiter_space⟩

theorem isSeparator_comma_space : IsSeparator [Token.comma, Token.space] :=
  ⟨Token.isDelimiter_comma.isValid.readable.append Token.isDelimiter_space.isValid.readable
      (.inl (by simpa using Token.isDelimiter_comma)), by simp,
    by simpa using Token.isDelimiter_comma, by simpa using Token.isDelimiter_space⟩

/-- Tokens with spaces between and around them. -/
def spaced (ts : List Token) : List Token := .space :: ts.flatMap fun t => [t, .space]

theorem isSeparator_spaced {ts : List Token} (h : ∀ t ∈ ts, t.IsValid) :
    IsSeparator (spaced ts) := by
  induction ts with
  | nil => exact isSeparator_space
  | cons t ts ih =>
      have ht : Readable [t] := (h t List.mem_cons_self).readable
      have hts := ih fun u hu => h u (List.mem_cons_of_mem t hu)
      have heq : spaced (t :: ts) = [Token.space] ++ ([t] ++ spaced ts) := rfl
      refine ⟨?_, by simp [spaced], by simpa [spaced] using Token.isDelimiter_space, ?_⟩
      · rw [heq]
        exact isSeparator_space.readable.append (ht.append hts.readable (.inr hts.head))
          (.inl isSeparator_space.getLast)
      · intro u hu
        refine hts.getLast u ?_
        rw [heq, ← List.append_assoc, List.getLast?_append_of_ne_nil _ hts.ne_nil] at hu
        exact hu

theorem isSeparator_words (words : List String)
    (h : ∀ word ∈ words, word.toList ≠ [] ∧ word.toList.all Char.isUpper = true) :
    IsSeparator (spaced (words.map .word)) := by
  refine isSeparator_spaced ?_
  intro t ht
  obtain ⟨word, hword, rfl⟩ := List.mem_map.mp ht
  exact Token.isValid_word (h word hword).1 (h word hword).2

theorem isSeparator_equals : IsSeparator (spaced [.sign "="]) := by
  refine isSeparator_spaced ?_
  simp [Token.IsValid, plainSigns]

/-- Tokens between parentheses. -/
def parenthesized (ts : List Token) : List Token := Token.leftParen :: (ts ++ [Token.rightParen])

theorem Readable.parenthesized {ts : List Token} (h : Readable ts) :
    Readable (parenthesized ts) := by
  have hright : Readable (ts ++ [Token.rightParen]) :=
    h.append Token.isDelimiter_rightParen.isValid.readable
      (.inr (by simpa using Token.isDelimiter_rightParen))
  exact Token.isDelimiter_leftParen.isValid.readable.append hright
    (.inl (by simpa using Token.isDelimiter_leftParen))

theorem spell_parenthesized (ts : List Token) :
    spell (parenthesized ts) = '(' :: (spell ts ++ [')']) := by
  simp [parenthesized]

theorem significant_parenthesized (ts : List Token) :
    significant (parenthesized ts) = parenthesized (significant ts) := by
  simp [significant, parenthesized, Token.isBlank, Token.leftParen, Token.rightParen]

theorem intercalate_cons_eq_flatMap {α : Type} (sep part : List α) (parts : List (List α)) :
    sep.intercalate (part :: parts) = part ++ parts.flatMap fun p => sep ++ p := by
  induction parts generalizing part with
  | nil => simp
  | cons p ps ih =>
      calc sep.intercalate (part :: p :: ps)
          = part ++ sep ++ sep.intercalate (p :: ps) := List.intercalate_cons_cons
        _ = part ++ sep ++ (p ++ ps.flatMap fun q => sep ++ q) := by rw [ih]
        _ = part ++ (p :: ps).flatMap fun q => sep ++ q := by simp

/-- The blanks among the tokens are spaces. -/
def OnlySpaces (ts : List Token) : Prop := ∀ t ∈ ts, t.isBlank = true → t = .space

theorem onlySpaces_append_iff {ts us : List Token} :
    OnlySpaces (ts ++ us) ↔ OnlySpaces ts ∧ OnlySpaces us :=
  List.forall_mem_append

theorem OnlySpaces.parenthesized {ts : List Token} (h : OnlySpaces ts) :
    OnlySpaces (parenthesized ts) := by
  refine List.forall_mem_cons.mpr ⟨nofun, onlySpaces_append_iff.mpr ⟨h, ?_⟩⟩
  exact List.forall_mem_singleton.mpr nofun

theorem onlySpaces_intercalate {sep : List Token} (hsep : OnlySpaces sep)
    {parts : List (List Token)} (h : ∀ part ∈ parts, OnlySpaces part) :
    OnlySpaces (sep.intercalate parts) := by
  cases parts with
  | nil => exact nofun
  | cons part parts =>
      obtain ⟨hpart, hparts⟩ := List.forall_mem_cons.mp h
      rw [intercalate_cons_eq_flatMap]
      refine onlySpaces_append_iff.mpr ⟨hpart, ?_⟩
      intro t ht
      obtain ⟨p, hp, ht⟩ := List.mem_flatMap.mp ht
      exact onlySpaces_append_iff.mpr ⟨hsep, hparts p hp⟩ t ht

/-- What is done to a list piece by piece is done to a joined list part by part. -/
theorem intercalate_of_append {α β : Type} {f : List α → List β} (hnil : f [] = [])
    (happend : ∀ as bs, f (as ++ bs) = f as ++ f bs) (sep : List α) (parts : List (List α)) :
    f (sep.intercalate parts) = (f sep).intercalate (parts.map f) := by
  induction parts with
  | nil => exact hnil
  | cons part parts ih =>
      cases parts with
      | nil => simp
      | cons p ps =>
          calc f (sep.intercalate (part :: p :: ps))
              = f part ++ f sep ++ f (sep.intercalate (p :: ps)) := by
                rw [List.intercalate_cons_cons, happend, happend]
            _ = f part ++ f sep ++ (f sep).intercalate ((p :: ps).map f) := by rw [ih]
            _ = (f sep).intercalate ((part :: p :: ps).map f) := by
                simp only [List.map_cons, List.intercalate_cons_cons]

theorem significant_intercalate (sep : List Token) (parts : List (List Token)) :
    significant (sep.intercalate parts) = (significant sep).intercalate (parts.map significant) :=
  intercalate_of_append significant_nil significant_append sep parts

theorem spell_intercalate (sep : List Token) (parts : List (List Token)) :
    spell (sep.intercalate parts) = (spell sep).intercalate (parts.map spell) :=
  intercalate_of_append spell_nil spell_append sep parts

theorem toList_joinWith (separator : String) (texts : List String) :
    (Text.joinWith separator texts).toList =
      separator.toList.intercalate (texts.map String.toList) := by
  induction texts with
  | nil => rfl
  | cons text texts ih =>
      cases texts with
      | nil => simp [Text.joinWith]
      | cons t ts =>
          rw [Text.joinWith, String.toList_append, String.toList_append, ih]
          · simp only [List.map_cons, List.intercalate_cons_cons]
          · simp

/-- Joined texts are spelled by joined tokens. -/
theorem toList_joinWith_eq_spell {separator : String} {texts : List String} {sep : List Token}
    {parts : List (List Token)} (hsep : separator.toList = spell sep)
    (hparts : texts.map String.toList = parts.map spell) :
    (Text.joinWith separator texts).toList = spell (sep.intercalate parts) := by
  rw [toList_joinWith, spell_intercalate, hsep, hparts]

/-- Tokens with commas between them. -/
def commaList (parts : List (List Token)) : List Token :=
  [Token.comma, Token.space].intercalate parts

theorem significant_commaList (parts : List (List Token)) :
    significant (commaList parts) = [Token.comma].intercalate (parts.map significant) := by
  rw [commaList, significant_intercalate]
  rfl

theorem readable_commaList {parts : List (List Token)} (h : ∀ part ∈ parts, Readable part) :
    Readable (commaList parts) :=
  readable_intercalate isSeparator_comma_space h

theorem commaList_ne_nil {part : List Token} (h : part ≠ []) (parts : List (List Token)) :
    commaList (part :: parts) ≠ [] := by
  rw [commaList, intercalate_cons_eq_flatMap]
  simp [h]

theorem toList_joinWith_comma {texts : List String} {parts : List (List Token)}
    (h : texts.map String.toList = parts.map spell) :
    (Text.joinWith ", " texts).toList = spell (commaList parts) :=
  toList_joinWith_eq_spell rfl h

end DocumentSql.Lexical
