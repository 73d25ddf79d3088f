import DocumentSql.Json.Parser
import DocumentSql.Proofs.Result

/-!
# How strings are written

The spelling of a string between its quotes, said without the reader. A character stands for
itself, or a letter stands for it behind a backslash, or the digits of its number do. A character
beyond the first `2 ^ 16` has the digits of two halves. The two marks and the control characters do
not stand for themselves.

* `Json.readString_eq_ok_iff`: the reader takes what is spelled so, up to the closing quote.
-/

set_option autoImplicit false

namespace DocumentSql.Json

/-! ## Spelling -/

/-- The letters that stand for a character behind a backslash. -/
def escapes : List (Char × Char) :=
  [ ('"', '"'), ('\\', '\\'), ('/', '/'), ('b', '\x08'), ('f', '\x0c'), ('n', '\n'), ('r', '\r')
  , ('t', '\t') ]

/-- Four hexadecimal digits, of either case, and their value. -/
inductive FourDigits : List Char → Nat → Prop where
  | mk {a b c d : Char} {x y z w : Nat} (ha : Text.hexValue? a = some x)
      (hb : Text.hexValue? b = some y) (hc : Text.hexValue? c = some z)
      (hd : Text.hexValue? d = some w) :
      FourDigits [a, b, c, d] (((x * 16 + y) * 16 + z) * 16 + w)

/-- What stands behind a backslash, and the character that it stands for. -/
inductive SpellsEscaped : List Char → Char → Prop where
  | letter {l c : Char} (h : (l, c) ∈ escapes) : SpellsEscaped [l] c
  | number {ds : List Char} {c : Char} (h : FourDigits ds c.toNat) : SpellsEscaped ('u' :: ds) c
  | halves {ds es : List Char} {m n : Nat} {c : Char} (hds : FourDigits ds m)
      (hes : FourDigits es n) (hm : 0xD800 ≤ m ∧ m < 0xDC00) (hn : 0xDC00 ≤ n ∧ n < 0xE000)
      (hc : c.toNat = 0x10000 + (m - 0xD800) * 0x400 + (n - 0xDC00)) :
      SpellsEscaped ('u' :: (ds ++ '\\' :: 'u' :: es)) c

/-- A character and its spelling. -/
inductive SpellsChar : List Char → Char → Prop where
  | plain {c : Char} (hquote : c ≠ '"') (hslash : c ≠ '\\') (hcontrol : 0x20 ≤ c.toNat) :
      SpellsChar [c] c
  | escaped {s : List Char} {c : Char} (h : SpellsEscaped s c) : SpellsChar ('\\' :: s) c

/-- Characters and their spelling, one after the other. -/
inductive SpellsText : List Char → List Char → Prop where
  | nil : SpellsText [] []
  | cons {s t : List Char} {c : Char} {cs : List Char} (hc : SpellsChar s c)
      (hcs : SpellsText t cs) : SpellsText (s ++ t) (c :: cs)

/-- Behind an opening quote stand the spelling of the text and the closing quote. -/
def BeginsString (s : List Char) (text : String) (rest : List Char) : Prop :=
  ∃ body, s = body ++ '"' :: rest ∧ SpellsText body text.toList

/-! ## The reader's steps -/

theorem expect_eq_ok_iff {word s rest : List Char} :
    expect word s = .ok rest ↔ s = word ++ rest := by
  induction word generalizing s with
  | nil => simp [expect]
  | cons c word ih =>
      cases s with
      | nil => simp [expect]
      | cons d s =>
          by_cases hcd : c = d <;> simp [expect, hcd, ih, eq_comm]

theorem hexValue?_lt {c : Char} {n : Nat} (h : Text.hexValue? c = some n) : n < 16 := by
  simp only [Text.hexValue?, Char.isDigit, Bool.and_eq_true, decide_eq_true_eq, Char.le_def,
    UInt32.le_iff_toNat_le, ge_iff_le] at h
  simp only [Char.toNat] at h
  -- the ranges of digits and letters, as numbers
  change (if 48 ≤ c.val.toNat ∧ c.val.toNat ≤ 57 then some (c.val.toNat - 48)
    else if 97 ≤ c.val.toNat ∧ c.val.toNat ≤ 102 then some (c.val.toNat - 97 + 10)
    else if 65 ≤ c.val.toNat ∧ c.val.toNat ≤ 70 then some (c.val.toNat - 65 + 10)
    else none) = some n at h
  grind

theorem FourDigits.lt {ds : List Char} {n : Nat} (h : FourDigits ds n) : n < 0x10000 := by
  cases h with
  | mk ha hb hc hd =>
      have hx := hexValue?_lt ha
      have hy := hexValue?_lt hb
      have hz := hexValue?_lt hc
      have hw := hexValue?_lt hd
      omega

theorem length_le_byteCount (s : List Char) : s.length ≤ byteCount s := by
  induction s with
  | nil => exact Nat.le_refl 0
  | cons c s ih =>
      have hsize := c.utf8Size_pos
      rw [List.length_cons, byteCount]
      omega

theorem readUnit_eq_ok_iff {s rest : List Char} {n : Nat} :
    readUnit s = .ok (n, rest) ↔ ∃ ds, FourDigits ds n ∧ s = ds ++ rest := by
  constructor
  · intro h
    unfold readUnit at h
    split at h
    · cases h
    · split at h
      · next a b c d rest' _ =>
          split at h
          · next x y z w ha hb hc hd =>
              cases h
              exact ⟨[a, b, c, d], .mk ha hb hc hd, rfl⟩
          · cases h
      · cases h
  · rintro ⟨_, @⟨a, b, c, d, x, y, z, w, ha, hb, hc, hd⟩, rfl⟩
    have hlength : 4 ≤ ([a, b, c, d] ++ rest).length := by simp
    have hcount : ¬ byteCount ([a, b, c, d] ++ rest) < 4 :=
      Nat.not_lt.mpr (Nat.le_trans hlength (length_le_byteCount _))
    unfold readUnit
    rw [if_neg hcount]
    simp only [List.cons_append, List.nil_append, ha, hb, hc, hd]

theorem isLeading_iff {n : Nat} : isLeading n = true ↔ 0xD800 ≤ n ∧ n < 0xDC00 := by
  simp [isLeading]

theorem isTrailing_iff {n : Nat} : isTrailing n = true ↔ 0xDC00 ≤ n ∧ n < 0xE000 := by
  simp [isTrailing]

theorem toNat_ofNat {n : Nat} (h : n.isValidChar) : (Char.ofNat n).toNat = n := by
  rw [Char.ofNat, dif_pos h]
  rfl

theorem readCodePoint_number {ds : List Char} {c : Char} (h : FourDigits ds c.toNat)
    (rest : List Char) : readCodePoint (ds ++ rest) = .ok (c, rest) := by
  -- the number of a character is no half of a pair
  have hvalid : c.toNat.isValidChar := c.valid
  unfold Nat.isValidChar at hvalid
  have htrailing : ¬ isTrailing c.toNat = true := by
    rw [isTrailing_iff]
    omega
  have hleading : ¬ isLeading c.toNat = true := by
    rw [isLeading_iff]
    omega
  refine bind_eq_ok_iff.mpr ⟨_, readUnit_eq_ok_iff.mpr ⟨ds, h, rfl⟩, ?_⟩
  simp only
  rw [if_neg htrailing, if_neg hleading, Char.ofNat_toNat]

theorem readCodePoint_halves {ds es : List Char} {m n : Nat} {c : Char} (hds : FourDigits ds m)
    (hes : FourDigits es n) (hm : 0xD800 ≤ m ∧ m < 0xDC00) (hn : 0xDC00 ≤ n ∧ n < 0xE000)
    (hc : c.toNat = 0x10000 + (m - 0xD800) * 0x400 + (n - 0xDC00)) (rest : List Char) :
    readCodePoint (ds ++ '\\' :: 'u' :: (es ++ rest)) = .ok (c, rest) := by
  have htrailing : ¬ isTrailing m = true := by
    rw [isTrailing_iff]
    omega
  refine bind_eq_ok_iff.mpr ⟨_, readUnit_eq_ok_iff.mpr ⟨ds, hds, rfl⟩, ?_⟩
  simp only
  rw [if_neg htrailing, if_pos (isLeading_iff.mpr hm)]
  refine bind_eq_ok_iff.mpr ⟨es ++ rest, expect_eq_ok_iff.mpr rfl, ?_⟩
  refine bind_eq_ok_iff.mpr ⟨(n, rest), readUnit_eq_ok_iff.mpr ⟨es, hes, rfl⟩, ?_⟩
  simp only
  rw [if_pos (isTrailing_iff.mpr hn), ← hc, Char.ofNat_toNat]

/-- What is read behind the letter is a character by its number, or by two halves of it. -/
theorem exists_spellsEscaped_of_readCodePoint {s rest : List Char} {c : Char}
    (h : readCodePoint s = .ok (c, rest)) :
    ∃ t, SpellsEscaped ('u' :: t) c ∧ s = t ++ rest := by
  obtain ⟨⟨m, s₁⟩, hm, hfirst⟩ := bind_eq_ok_iff.mp h
  obtain ⟨ds, hds, rfl⟩ := readUnit_eq_ok_iff.mp hm
  simp only at hfirst
  split at hfirst
  · cases hfirst
  · next htrailing =>
    split at hfirst
    · next hleading =>
      obtain ⟨s₂, hmarks, hpair⟩ := bind_eq_ok_iff.mp hfirst
      obtain ⟨⟨n, s₃⟩, hn, hsecond⟩ := bind_eq_ok_iff.mp hpair
      obtain ⟨es, hes, rfl⟩ := readUnit_eq_ok_iff.mp hn
      rw [expect_eq_ok_iff.mp hmarks]
      simp only at hsecond
      split at hsecond
      · next hhalf =>
        rw [Except.ok.injEq, Prod.mk.injEq] at hsecond
        obtain ⟨rfl, rfl⟩ := hsecond
        rw [isLeading_iff] at hleading
        rw [isTrailing_iff] at hhalf
        have hvalid : (0x10000 + (m - 0xD800) * 0x400 + (n - 0xDC00)).isValidChar := by
          unfold Nat.isValidChar
          omega
        refine ⟨ds ++ '\\' :: 'u' :: es, .halves hds hes hleading hhalf ?_, by simp⟩
        rw [toNat_ofNat hvalid]
      · cases hsecond
    · next hleading =>
      cases hfirst
      rw [isTrailing_iff] at htrailing
      rw [isLeading_iff] at hleading
      have hlt := hds.lt
      have hvalid : m.isValidChar := by
        unfold Nat.isValidChar
        omega
      exact ⟨ds, .number (by rwa [toNat_ofNat hvalid]), rfl⟩

/-! ## The reader -/

/-- **What is read behind a backslash.** -/
theorem readEscape_eq_ok_iff {s rest : List Char} {c : Char} :
    readEscape s = .ok (c, rest) ↔ ∃ t, SpellsEscaped t c ∧ s = t ++ rest := by
  constructor
  · intro h
    unfold readEscape at h
    split at h
    all_goals first
      | cases h
        exact ⟨[_], .letter (by simp [escapes]), rfl⟩
      | skip
    · cases h
    · next s =>
        obtain ⟨t, ht, rfl⟩ := exists_spellsEscaped_of_readCodePoint h
        exact ⟨'u' :: t, ht, rfl⟩
    · cases h
  · rintro ⟨t, h, rfl⟩
    cases h with
    | letter hmem =>
        simp only [escapes, List.mem_cons, Prod.mk.injEq, List.not_mem_nil, or_false] at hmem
        rcases hmem with ⟨rfl, rfl⟩ | ⟨rfl, rfl⟩ | ⟨rfl, rfl⟩ | ⟨rfl, rfl⟩ | ⟨rfl, rfl⟩ |
          ⟨rfl, rfl⟩ | ⟨rfl, rfl⟩ | ⟨rfl, rfl⟩ <;> rfl
    | number hds => exact readCodePoint_number hds rest
    | halves hds hes hm hn hc =>
        have hread := readCodePoint_halves hds hes hm hn hc rest
        simpa [readEscape] using hread

/-- Characters that are read up to a closing quote are spelled in front of it. -/
theorem exists_spellsText_of_readCharsWith {fuel : Nat} {s rest cs : List Char}
    (h : readCharsWith fuel s = .ok (cs, rest)) :
    ∃ body, s = body ++ '"' :: rest ∧ SpellsText body cs := by
  induction fuel generalizing s cs with
  | zero => cases h
  | succ fuel ih =>
      unfold readCharsWith at h
      split at h
      · cases h
      · cases h
      · cases h
        exact ⟨[], rfl, .nil⟩
      · next fuel' s₁ hfuel =>
          cases hfuel
          obtain ⟨⟨c, s₂⟩, hc, h⟩ := bind_eq_ok_iff.mp h
          obtain ⟨⟨cs', s₃⟩, hcs, h⟩ := bind_eq_ok_iff.mp h
          cases h
          obtain ⟨t, ht, rfl⟩ := readEscape_eq_ok_iff.mp hc
          obtain ⟨body, rfl, hbody⟩ := ih hcs
          exact ⟨'\\' :: t ++ body, by simp, .cons (.escaped ht) hbody⟩
      · next fuel' c s₁ hquote hslash hfuel =>
          cases hfuel
          split at h
          · cases h
          · next hcontrol =>
              obtain ⟨⟨cs', s₃⟩, hcs, h⟩ := bind_eq_ok_iff.mp h
              cases h
              obtain ⟨body, rfl, hbody⟩ := ih hcs
              have hc : SpellsChar [c] c := .plain hquote hslash (Nat.not_lt.mp hcontrol)
              exact ⟨[c] ++ body, rfl, .cons hc hbody⟩

/-- Characters that are spelled are read, with fuel for each of them and for the quote. -/
theorem SpellsText.readCharsWith_eq_ok {body cs : List Char} (h : SpellsText body cs)
    (rest : List Char) (fuel : Nat) (hfuel : body.length < fuel) :
    readCharsWith fuel (body ++ '"' :: rest) = .ok (cs, rest) := by
  induction h generalizing fuel with
  | nil =>
      obtain ⟨fuel, rfl⟩ := Nat.exists_eq_add_of_lt hfuel
      rfl
  | @cons s t c cs hc hcs ih =>
      cases fuel with
      | zero => omega
      | succ fuel =>
          rw [List.length_append] at hfuel
          rw [List.append_assoc]
          cases hc with
          | plain hquote hslash hcontrol =>
              rw [List.length_singleton] at hfuel
              have hrest := ih fuel (by omega)
              rw [List.singleton_append, readCharsWith, if_neg (Nat.not_lt.mpr hcontrol), hrest]
              · rfl
              · exact hquote
              · exact hslash
          | @escaped s c hc =>
              rw [List.length_cons] at hfuel
              have hrest := ih fuel (by omega)
              rw [List.cons_append, readCharsWith]
              refine bind_eq_ok_iff.mpr ⟨_, readEscape_eq_ok_iff.mpr ⟨s, hc, rfl⟩, ?_⟩
              exact bind_eq_ok_iff.mpr ⟨_, hrest, rfl⟩

/-- **The strings that are read** are those that are spelled, with their closing quote. -/
theorem readString_eq_ok_iff {s rest : List Char} {text : String} :
    readString s = .ok (text, rest) ↔ BeginsString s text rest := by
  constructor
  · intro h
    obtain ⟨⟨cs, s'⟩, hcs, h⟩ := bind_eq_ok_iff.mp h
    cases h
    obtain ⟨body, rfl, hbody⟩ := exists_spellsText_of_readCharsWith hcs
    exact ⟨body, rfl, by rwa [String.toList_ofList]⟩
  · rintro ⟨body, rfl, hbody⟩
    have hread := hbody.readCharsWith_eq_ok rest (body ++ '"' :: rest).length (by simp)
    refine bind_eq_ok_iff.mpr ⟨_, hread, ?_⟩
    simp only [String.ofList_toList]

end DocumentSql.Json
