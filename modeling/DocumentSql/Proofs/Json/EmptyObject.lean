import DocumentSql.Json.Parser
import DocumentSql.Proofs.Result

/-!
# The text of the object without members

Blanks may stand before, between and after the two braces of an object without members, and
nothing else may. No other text is read as this object: a member that was read stays, also when
a later member has the same key.

* `Json.read_eq_object_nil_iff`: the texts that are read as the object without members.
-/

set_option autoImplicit false

namespace DocumentSql.Json

/-- The text without its blanks. -/
def withoutBlanks (cs : List Char) : List Char := cs.filter fun c => !isBlank c

/-- A text of the object without members. -/
def IsEmptyObject (text : String) : Prop := withoutBlanks text.toList = ['\x7b', '\x7d']

instance (text : String) : Decidable (IsEmptyObject text) :=
  inferInstanceAs (Decidable (withoutBlanks text.toList = ['\x7b', '\x7d']))

/-! ## Blanks -/

theorem withoutBlanks_skipBlanks (cs : List Char) :
    withoutBlanks (skipBlanks cs) = withoutBlanks cs := by
  induction cs with
  | nil => rfl
  | cons c cs ih =>
      by_cases hc : isBlank c
      · have hskip : skipBlanks (c :: cs) = skipBlanks cs := List.dropWhile_cons_of_pos hc
        rw [hskip, ih]
        simp [withoutBlanks, hc]
      · have hskip : skipBlanks (c :: cs) = c :: cs := List.dropWhile_cons_of_neg hc
        rw [hskip]

/-- What is left behind blanks does not begin with one. -/
theorem not_isBlank_of_skipBlanks {cs rest : List Char} {c : Char}
    (h : skipBlanks cs = c :: rest) : isBlank c = false := by
  have hne : cs.dropWhile isBlank ≠ [] := by
    intro hnil
    rw [skipBlanks, hnil] at h
    cases h
  have hhead := List.head_dropWhile_not isBlank hne
  simp only [skipBlanks] at h
  simpa [h] using hhead

/-- The first character that is not blank is where the blanks end. -/
theorem exists_skipBlanks_eq_cons {cs ds : List Char} {c : Char}
    (h : withoutBlanks cs = c :: ds) :
    ∃ rest, skipBlanks cs = c :: rest ∧ withoutBlanks rest = ds := by
  rw [← withoutBlanks_skipBlanks] at h
  cases hskip : skipBlanks cs with
  | nil =>
      rw [hskip] at h
      cases h
  | cons d rest =>
      have hd := not_isBlank_of_skipBlanks hskip
      rw [hskip] at h
      simp only [withoutBlanks, List.filter_cons, hd, Bool.not_false, if_true,
        List.cons.injEq] at h
      exact ⟨rest, by rw [h.1], h.2⟩

theorem skipBlanks_eq_nil_iff (cs : List Char) : skipBlanks cs = [] ↔ withoutBlanks cs = [] := by
  constructor
  · intro h
    rw [← withoutBlanks_skipBlanks, h]
    rfl
  · intro h
    cases hskip : skipBlanks cs with
    | nil => rfl
    | cons c rest =>
        have hc := not_isBlank_of_skipBlanks hskip
        rw [← withoutBlanks_skipBlanks, hskip] at h
        simp [withoutBlanks, hc] at h

theorem withoutBlanks_of_skipBlanks {cs rest : List Char} {c : Char}
    (h : skipBlanks cs = c :: rest) : withoutBlanks cs = c :: withoutBlanks rest := by
  have hc := not_isBlank_of_skipBlanks h
  rw [← withoutBlanks_skipBlanks, h]
  simp [withoutBlanks, hc]

/-! ## Members -/

theorem put_ne_nil {α : Type} (key : String) (value : α) (entries : List (String × α)) :
    Entries.put key value entries ≠ [] := by
  cases entries with
  | nil => simp [Entries.put]
  | cons entry rest =>
      rw [Entries.put]
      split <;> simp

/-- What is read between braces has a member. -/
theorem ne_nil_of_readMembersWith {fuel room : Nat} {seen members : List (String × Json)}
    {s rest : List Char} (h : readMembersWith fuel room seen s = .ok (members, rest)) :
    members ≠ [] := by
  induction fuel generalizing seen s with
  | zero =>
      rw [readMembersWith] at h
      cases h
  | succ fuel ih =>
      rw [readMembersWith] at h
      split at h
      · next s' =>
          obtain ⟨⟨key, s₁⟩, -, h⟩ := bind_eq_ok_iff.mp h
          obtain ⟨s₂, -, h⟩ := bind_eq_ok_iff.mp h
          obtain ⟨⟨value, s₃⟩, -, h⟩ := bind_eq_ok_iff.mp h
          -- the member is among the seen ones, which are returned or handed on
          simp only at h
          split at h
          · cases h
            exact put_ne_nil key value seen
          · exact ih h
          · cases h
      · cases h

theorem number_of_readNumber {negative : Bool} {s rest : List Char} {v : Json}
    (h : readNumber negative s = .ok (v, rest)) : ∃ n, v = .number n := by
  obtain ⟨⟨whole, s₁⟩, -, h⟩ := bind_eq_ok_iff.mp h
  obtain ⟨⟨fraction, s₂⟩, -, h⟩ := bind_eq_ok_iff.mp h
  obtain ⟨⟨exponent, s₃⟩, -, h⟩ := bind_eq_ok_iff.mp h
  obtain ⟨n, -, h⟩ := bind_eq_ok_iff.mp h
  cases h
  exact ⟨n, rfl⟩

/-! ## Values -/

/-- Only two braces are read as the object without members. -/
theorem braces_of_readValueWith {fuel room : Nat} {s rest : List Char}
    (h : readValueWith fuel room s = .ok (.object [], rest)) :
    ∃ t, skipBlanks s = '\x7b' :: t ∧ skipBlanks t = '\x7d' :: rest := by
  cases fuel with
  | zero =>
      rw [readValueWith] at h
      cases h
  | succ fuel =>
      rw [readValueWith] at h
      split at h
      · cases h
      · obtain ⟨s', -, h⟩ := bind_eq_ok_iff.mp h
        cases h
      · obtain ⟨s', -, h⟩ := bind_eq_ok_iff.mp h
        cases h
      · obtain ⟨s', -, h⟩ := bind_eq_ok_iff.mp h
        cases h
      · obtain ⟨⟨text, s'⟩, -, h⟩ := bind_eq_ok_iff.mp h
        cases h
      · obtain ⟨n, hn⟩ := number_of_readNumber h
        cases hn
      · -- an array
        split at h
        · cases h
        · split at h
          · cases h
          · cases h
          · obtain ⟨⟨items, s'⟩, -, h⟩ := bind_eq_ok_iff.mp h
            cases h
      · next t hbrace =>
          split at h
          · cases h
          · split at h
            · next s' hclose =>
                cases h
                exact ⟨t, hbrace, hclose⟩
            · obtain ⟨⟨members, s'⟩, hmembers, h⟩ := bind_eq_ok_iff.mp h
              cases h
              exact absurd rfl (ne_nil_of_readMembersWith hmembers)
      · split at h
        · obtain ⟨n, hn⟩ := number_of_readNumber h
          cases hn
        · cases h

/-- Two braces are read as the object without members. -/
theorem readValueWith_of_braces {s t rest : List Char} (hopen : skipBlanks s = '\x7b' :: t)
    (hclose : skipBlanks t = '\x7d' :: rest) (fuel room : Nat) :
    readValueWith (fuel + 1) (room + 1) s = .ok (.object [], rest) := by
  rw [readValueWith, hopen]
  simp only [hclose]

/-- **The texts that are read as the object without members.** -/
theorem read_eq_object_nil_iff (text : String) :
    read text = .ok (.object []) ↔ IsEmptyObject text := by
  constructor
  · intro h
    obtain ⟨⟨value, s⟩, hvalue, h⟩ := bind_eq_ok_iff.mp h
    simp only at h
    split at h
    · next hend =>
        cases h
        obtain ⟨t, hopen, hclose⟩ := braces_of_readValueWith hvalue
        have hblank : withoutBlanks s = [] := (skipBlanks_eq_nil_iff s).mp hend
        show withoutBlanks text.toList = ['\x7b', '\x7d']
        rw [withoutBlanks_of_skipBlanks hopen, withoutBlanks_of_skipBlanks hclose, hblank]
    · cases h
  · intro h
    obtain ⟨t, hopen, ht⟩ := exists_skipBlanks_eq_cons h
    obtain ⟨s, hclose, hs⟩ := exists_skipBlanks_eq_cons ht
    have hend : skipBlanks s = [] := (skipBlanks_eq_nil_iff s).mpr hs
    have hvalue := readValueWith_of_braces hopen hclose (2 * text.toList.length + 1) 126
    refine bind_eq_ok_iff.mpr ⟨_, hvalue, ?_⟩
    simp only [hend]

end DocumentSql.Json
