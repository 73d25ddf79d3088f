import DocumentSql.Json.Parser
import DocumentSql.Proofs.Lexical.Spelling
import DocumentSql.Proofs.Result

/-!
# How numbers are written

The spelling of a number without its sign, said without the reader: digits without a zero in front
of others, a point with digits, and an exponent, the last two of which may be missing. The number
goes as far as its spelling can. Which number it is, is what its parts make together,
`Json.numberOf`.

* `Json.readNumber_eq_ok_iff`: the reader takes what is spelled so.
-/

set_option autoImplicit false

namespace DocumentSql.Json

/-! ## Spelling -/

/-- Decimal digits, at least one. -/
def IsDigits (ds : List Char) : Prop := ds ≠ [] ∧ ∀ c ∈ ds, c.isDigit = true

/-- The digits left of the point: a single zero, or digits that begin with another one. -/
def IsWhole (ds : List Char) : Prop := IsDigits ds ∧ (ds.head? = some '0' → ds = ['0'])

/-- A point with the digits right of it, or nothing. -/
inductive SpellsFraction : List Char → Option (List Char) → Prop where
  | none : SpellsFraction [] none
  | some {ds : List Char} (h : IsDigits ds) : SpellsFraction ('.' :: ds) (some ds)

/-- Digits with a sign, or without one, and their value. -/
inductive SpellsSigned : List Char → Int → Prop where
  | unsigned {ds : List Char} (h : IsDigits ds) : SpellsSigned ds (valueOf ds)
  | plus {ds : List Char} (h : IsDigits ds) : SpellsSigned ('+' :: ds) (valueOf ds)
  | minus {ds : List Char} (h : IsDigits ds) : SpellsSigned ('-' :: ds) (-(valueOf ds : Int))

/-- An exponent behind its letter, or nothing. -/
inductive SpellsExponent : List Char → Option Int → Prop where
  | none : SpellsExponent [] none
  | some {letter : Char} {s : List Char} {e : Int} (hletter : letter = 'e' ∨ letter = 'E')
      (h : SpellsSigned s e) : SpellsExponent (letter :: s) (some e)

/-- The text goes on with no digit. -/
def NoDigit (rest : List Char) : Prop := ∀ c ∈ rest.head?, c.isDigit = false

/-- The text goes on with none of these characters. -/
def NoneOf (cs rest : List Char) : Prop := ∀ c ∈ rest.head?, c ∉ cs

/-- A number with these parts ends where the text goes on: with no digit, with no point or letter
of an exponent if it has no exponent, except that there is one point only. -/
structure EndsNumber (fraction : Option (List Char)) (exponent : Option Int) (rest : List Char) :
    Prop where
  digits : NoDigit rest
  point : fraction = none → exponent = none → NoneOf ['.'] rest
  letter : exponent = none → NoneOf ['e', 'E'] rest

/-- The text begins with a number whose sign stands in front of it. -/
inductive BeginsNumber (negative : Bool) : List Char → JsonNumber → List Char → Prop where
  | mk {whole point power rest : List Char} {fraction : Option (List Char)}
      {exponent : Option Int} {n : JsonNumber} (hwhole : IsWhole whole)
      (hfraction : SpellsFraction point fraction) (hexponent : SpellsExponent power exponent)
      (hend : EndsNumber fraction exponent rest)
      (hn : numberOf negative whole fraction exponent = .ok n) :
      BeginsNumber negative (whole ++ (point ++ (power ++ rest))) n rest

/-! ## The reader -/

theorem IsDigits.exists_cons {ds : List Char} (h : IsDigits ds) :
    ∃ d t, ds = d :: t ∧ d.isDigit = true := by
  obtain ⟨hne, hds⟩ := h
  obtain ⟨d, t, rfl⟩ := List.exists_cons_of_ne_nil hne
  exact ⟨d, t, rfl, hds d List.mem_cons_self⟩

theorem readDigits_eq_ok_iff {s ds rest : List Char} :
    readDigits s = .ok (ds, rest) ↔ IsDigits ds ∧ s = ds ++ rest ∧ NoDigit rest := by
  constructor
  · intro h
    unfold readDigits at h
    split at h
    · cases h
    · next hne =>
        cases h
        refine ⟨⟨hne, List.all_eq_true.mp List.all_takeWhile⟩, ?_, ?_⟩
        · exact List.takeWhile_append_dropWhile.symm
        · intro c hc
          have hnot := List.head?_dropWhile_not Char.isDigit s
          rw [Option.mem_def.mp hc] at hnot
          simpa using hnot
  · rintro ⟨⟨hne, hds⟩, rfl, hrest⟩
    obtain ⟨htake, hdrop⟩ := Lexical.span_append hds hrest
    unfold readDigits
    rw [htake, hdrop]
    cases ds with
    | nil => exact absurd rfl hne
    | cons d ds => rfl

theorem readWhole_eq_ok_iff {s ds rest : List Char} :
    readWhole s = .ok (ds, rest) ↔ IsWhole ds ∧ s = ds ++ rest ∧ NoDigit rest := by
  rw [readWhole, bind_eq_ok_iff]
  constructor
  · rintro ⟨⟨ds', rest'⟩, hdigits, h⟩
    obtain ⟨hds, hs, hrest⟩ := readDigits_eq_ok_iff.mp hdigits
    simp only at h
    split at h
    · cases h
    · next hzero =>
        cases h
        refine ⟨⟨hds, fun hhead => ?_⟩, hs, hrest⟩
        -- a zero in front of another digit would have been refused
        match ds with
        | [] => cases hhead
        | [d] => simpa using hhead
        | d :: e :: ds =>
            rw [List.head?_cons, Option.some.injEq] at hhead
            exact absurd (by rw [hhead]) (hzero e ds)
  · rintro ⟨⟨hds, hzero⟩, hs, hrest⟩
    refine ⟨(ds, rest), readDigits_eq_ok_iff.mpr ⟨hds, hs, hrest⟩, ?_⟩
    simp only
    split
    · cases hzero rfl
    · rfl

/-- What may stand behind a fraction that is written, or missing. -/
structure EndsFraction (fraction : Option (List Char)) (rest : List Char) : Prop where
  digits : fraction ≠ none → NoDigit rest
  point : fraction = none → NoneOf ['.'] rest

theorem readFraction_eq_ok_iff {s rest : List Char} {fraction : Option (List Char)} :
    readFraction s = .ok (fraction, rest) ↔
      ∃ point, SpellsFraction point fraction ∧ s = point ++ rest ∧ EndsFraction fraction rest := by
  constructor
  · intro h
    unfold readFraction at h
    split at h
    · obtain ⟨⟨ds, rest'⟩, hdigits, h⟩ := bind_eq_ok_iff.mp h
      cases h
      obtain ⟨hds, rfl, hrest⟩ := readDigits_eq_ok_iff.mp hdigits
      exact ⟨'.' :: ds, .some hds, rfl, fun _ => hrest, by simp⟩
    · next hpoint =>
        cases h
        refine ⟨[], .none, rfl, by simp, fun _ c hc => ?_⟩
        rintro (_ | ⟨_, ⟨⟩⟩)
        obtain ⟨t, rfl⟩ := List.head?_eq_some_iff.mp hc
        exact hpoint t rfl
  · rintro ⟨point, hpoint, rfl, hend⟩
    cases hpoint with
    | none =>
        unfold readFraction
        split
        · next t ht => exact absurd (hend.point rfl '.' (by simp_all)) (by simp)
        · rfl
    | some hds =>
        refine bind_eq_ok_iff.mpr ⟨_, readDigits_eq_ok_iff.mpr ⟨hds, rfl, ?_⟩, rfl⟩
        exact hend.digits (by simp)

theorem readSigned_eq_ok_iff {s rest : List Char} {e : Int} :
    readSigned s = .ok (e, rest) ↔
      ∃ t, SpellsSigned t e ∧ s = t ++ rest ∧ NoDigit rest := by
  constructor
  · intro h
    unfold readSigned at h
    split at h
    all_goals
      obtain ⟨⟨ds, rest'⟩, hdigits, h⟩ := bind_eq_ok_iff.mp h
      cases h
      obtain ⟨hds, rfl, hrest⟩ := readDigits_eq_ok_iff.mp hdigits
    · exact ⟨'-' :: ds, .minus hds, rfl, hrest⟩
    · exact ⟨'+' :: ds, .plus hds, rfl, hrest⟩
    · exact ⟨ds, .unsigned hds, rfl, hrest⟩
  · rintro ⟨t, ht, rfl, hrest⟩
    cases ht with
    | @unsigned ds hds =>
        have hread := readDigits_eq_ok_iff.mpr ⟨hds, rfl, hrest⟩
        obtain ⟨d, t, rfl, hd⟩ := hds.exists_cons
        unfold readSigned
        -- no digit is a sign
        split
        · next heq =>
            cases heq
            exact absurd hd (by decide)
        · next heq =>
            cases heq
            exact absurd hd (by decide)
        · exact bind_eq_ok_iff.mpr ⟨_, hread, rfl⟩
    | plus hds =>
        exact bind_eq_ok_iff.mpr ⟨_, readDigits_eq_ok_iff.mpr ⟨hds, rfl, hrest⟩, rfl⟩
    | minus hds =>
        exact bind_eq_ok_iff.mpr ⟨_, readDigits_eq_ok_iff.mpr ⟨hds, rfl, hrest⟩, rfl⟩

/-- What may stand behind an exponent that is written, or missing. -/
structure EndsExponent (exponent : Option Int) (rest : List Char) : Prop where
  digits : exponent ≠ none → NoDigit rest
  letter : exponent = none → NoneOf ['e', 'E'] rest

theorem readExponent_eq_ok_iff {s rest : List Char} {exponent : Option Int} :
    readExponent s = .ok (exponent, rest) ↔
      ∃ power, SpellsExponent power exponent ∧ s = power ++ rest ∧
        EndsExponent exponent rest := by
  constructor
  · intro h
    unfold readExponent at h
    split at h
    · obtain ⟨⟨e, rest'⟩, hsigned, h⟩ := bind_eq_ok_iff.mp h
      cases h
      obtain ⟨t, ht, rfl, hrest⟩ := readSigned_eq_ok_iff.mp hsigned
      exact ⟨'e' :: t, .some (.inl rfl) ht, rfl, fun _ => hrest, by simp⟩
    · obtain ⟨⟨e, rest'⟩, hsigned, h⟩ := bind_eq_ok_iff.mp h
      cases h
      obtain ⟨t, ht, rfl, hrest⟩ := readSigned_eq_ok_iff.mp hsigned
      exact ⟨'E' :: t, .some (.inr rfl) ht, rfl, fun _ => hrest, by simp⟩
    · next hsmall hcapital =>
        cases h
        refine ⟨[], .none, rfl, by simp, fun _ c hc hmem => ?_⟩
        obtain ⟨t, rfl⟩ := List.head?_eq_some_iff.mp hc
        rcases List.mem_pair.mp hmem with rfl | rfl
        · exact hsmall t rfl
        · exact hcapital t rfl
  · rintro ⟨power, hpower, rfl, hend⟩
    cases hpower with
    | none =>
        unfold readExponent
        split
        · next t ht => exact absurd (hend.letter rfl 'e' (by simp_all)) (by simp)
        · next t ht => exact absurd (hend.letter rfl 'E' (by simp_all)) (by simp)
        · rfl
    | @some letter t e hletter ht =>
        have hread := readSigned_eq_ok_iff.mpr ⟨t, ht, rfl, hend.digits (by simp)⟩
        rcases hletter with rfl | rfl <;> exact bind_eq_ok_iff.mpr ⟨_, hread, rfl⟩

theorem noDigit_cons_iff {c : Char} {t : List Char} : NoDigit (c :: t) ↔ c.isDigit = false := by
  simp [NoDigit]

theorem noneOf_cons_iff {cs t : List Char} {c : Char} : NoneOf cs (c :: t) ↔ c ∉ cs := by
  simp [NoneOf]

/-- A number ends where each of its parts does. -/
theorem endsNumber_iff {point power rest : List Char} {fraction : Option (List Char)}
    {exponent : Option Int} (hfraction : SpellsFraction point fraction)
    (hexponent : SpellsExponent power exponent) :
    EndsNumber fraction exponent rest ↔
      NoDigit (point ++ (power ++ rest)) ∧ EndsFraction fraction (power ++ rest) ∧
        EndsExponent exponent rest := by
  -- a part that is written begins with a character that ends the part in front of it
  have hdot : ∀ t, NoDigit ('.' :: t) := fun t => noDigit_cons_iff.mpr (by decide)
  have hletter : ∀ letter t, letter = 'e' ∨ letter = 'E' →
      NoDigit (letter :: t) ∧ NoneOf ['.'] (letter :: t) := by
    rintro letter t (rfl | rfl) <;>
      exact ⟨noDigit_cons_iff.mpr (by decide), noneOf_cons_iff.mpr (by decide)⟩
  constructor
  · rintro ⟨hdigits, hpoint, hrest⟩
    refine ⟨?_, ⟨?_, ?_⟩, fun _ => hdigits, hrest⟩
    all_goals cases hfraction <;> cases hexponent <;> simp_all
  · rintro ⟨hdigits, ⟨hfractionDigits, hpoint⟩, hexponentDigits, hrest⟩
    refine ⟨?_, ?_, hrest⟩
    all_goals cases hfraction <;> cases hexponent <;> simp_all

/-- **The numbers that are read** are those that are spelled, up to their ends. -/
theorem readNumber_eq_ok_iff {negative : Bool} {s rest : List Char} {n : JsonNumber} :
    readNumber negative s = .ok (.number n, rest) ↔ BeginsNumber negative s n rest := by
  constructor
  · intro h
    obtain ⟨⟨whole, s₁⟩, hread, h⟩ := bind_eq_ok_iff.mp h
    obtain ⟨⟨fraction, s₂⟩, hreadFraction, h⟩ := bind_eq_ok_iff.mp h
    obtain ⟨⟨exponent, s₃⟩, hreadExponent, h⟩ := bind_eq_ok_iff.mp h
    obtain ⟨n', hn, h⟩ := bind_eq_ok_iff.mp h
    cases h
    obtain ⟨hwhole, rfl, hdigits⟩ := readWhole_eq_ok_iff.mp hread
    obtain ⟨point, hfraction, rfl, hfractionEnd⟩ := readFraction_eq_ok_iff.mp hreadFraction
    obtain ⟨power, hexponent, rfl, hexponentEnd⟩ := readExponent_eq_ok_iff.mp hreadExponent
    have hend := (endsNumber_iff hfraction hexponent).mpr ⟨hdigits, hfractionEnd, hexponentEnd⟩
    exact .mk hwhole hfraction hexponent hend hn
  · rintro ⟨hwhole, hfraction, hexponent, hend, hn⟩
    obtain ⟨hdigits, hfractionEnd, hexponentEnd⟩ := (endsNumber_iff hfraction hexponent).mp hend
    refine bind_eq_ok_iff.mpr ⟨_, readWhole_eq_ok_iff.mpr ⟨hwhole, rfl, hdigits⟩, ?_⟩
    refine bind_eq_ok_iff.mpr
      ⟨_, readFraction_eq_ok_iff.mpr ⟨_, hfraction, rfl, hfractionEnd⟩, ?_⟩
    refine bind_eq_ok_iff.mpr
      ⟨_, readExponent_eq_ok_iff.mpr ⟨_, hexponent, rfl, hexponentEnd⟩, ?_⟩
    exact bind_eq_ok_iff.mpr ⟨_, hn, rfl⟩

end DocumentSql.Json
