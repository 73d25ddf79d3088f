import DocumentSql.Monitor.Log
import Mathlib.Tactic.ByContra

/-!
# Where a long text is cut

The statement log cuts a text between two characters. A character takes at most four bytes, and
only the first of them may stand behind a place where a text can be cut. So the search downwards
from the greatest length passes at most three places inside a character before it comes to one
between two characters, and it never gets below the first byte, which begins a character or ends
an empty text. What is kept is the longest beginning of whole characters that is short enough.

* `StatementLog.placeBelow?_spec`: where the search ends.
* `StatementLog.isLongestBeginning_cut`: what is kept of a text.
* `StatementLog.shorten_between_characters`: what is reported of a text.
-/

set_option autoImplicit false

namespace DocumentSql.StatementLog

/-! ## The search -/

theorem placeAt?_eq_some_iff {sql : String} {i : Nat} {place : sql.Pos} :
    placeAt? sql i = some place ↔ place.offset.byteIdx = i := by
  unfold placeAt?
  constructor
  · intro h
    split at h
    · cases h
      rfl
    · cases h
  · rintro rfl
    have hvalid : String.Pos.Raw.isValid sql place.offset :=
      String.Pos.Raw.isValid_eq_true_iff.mpr place.isValid
    rw [dif_pos hvalid]

/-- Where nothing is found, there is no place. -/
theorem ne_of_placeAt?_eq_none {sql : String} {i : Nat} (h : placeAt? sql i = none)
    (place : sql.Pos) : place.offset.byteIdx ≠ i := by
  intro hplace
  rw [placeAt?_eq_some_iff.mpr hplace] at h
  cases h

/-- **Where the search ends:** at a place, after bytes behind which there was none. -/
theorem placeBelow?_spec {sql : String} {i : Nat} {place : sql.Pos}
    (h : placeBelow? sql i = some place) :
    place.offset.byteIdx ≤ i ∧ ∀ j, place.offset.byteIdx < j → j ≤ i → placeAt? sql j = none := by
  induction i with
  | zero =>
      have hplace : place.offset.byteIdx = 0 := placeAt?_eq_some_iff.mp h
      refine ⟨by omega, fun j hj hle => ?_⟩
      omega
  | succ i ih =>
      rw [placeBelow?] at h
      split at h
      · next found hfound =>
          cases h
          have hplace : place.offset.byteIdx = i + 1 := placeAt?_eq_some_iff.mp hfound
          refine ⟨by omega, fun j hj hle => ?_⟩
          omega
      · next hnone =>
          obtain ⟨hle, hbetween⟩ := ih h
          refine ⟨by omega, fun j hj hj' => ?_⟩
          by_cases hlast : j = i + 1
          · rw [hlast, hnone]
          · exact hbetween j hj (by omega)

/-- The search finds a place, from wherever it starts. -/
theorem exists_placeBelow? (sql : String) (i : Nat) : ∃ place, placeBelow? sql i = some place :=
  Option.isSome_iff_exists.mp (isSome_placeBelow? sql i)

/-- No place within the bytes comes after the one that is found. -/
theorem le_of_placeBelow? {sql : String} {i : Nat} {place other : sql.Pos}
    (h : placeBelow? sql i = some place) (hother : other.offset.byteIdx ≤ i) : other ≤ place := by
  rw [String.Pos.le_iff, String.Pos.Raw.le_iff]
  by_contra hlt
  have hnone := (placeBelow?_spec h).2 other.offset.byteIdx (by omega) hother
  exact ne_of_placeAt?_eq_none hnone other rfl

/-! ## What is kept -/

/-- The longest beginning of a text that takes at most `max` bytes, in whole characters. -/
structure IsLongestBeginning (max : Nat) (sql p : String) : Prop where
  begins : ∃ rest, sql = p ++ rest
  fits : p.utf8ByteSize ≤ max
  longest : ∀ q rest, sql = q ++ rest → q.utf8ByteSize ≤ max → ∃ more, p = q ++ more

/-- The place behind a beginning of a text. -/
theorem exists_splits {sql q rest : String} (h : sql = q ++ rest) :
    ∃ place : sql.Pos, place.Splits q rest := by
  have hvalid : String.Pos.Raw.IsValid sql q.rawEndPos := by
    rw [h]
    exact String.Pos.Raw.isValid_rawEndPos.append_right rest
  exact ⟨⟨q.rawEndPos, hvalid⟩, h, rfl⟩

theorem isLongestBeginning_of_placeBelow? {sql p rest : String} {max : Nat} {place : sql.Pos}
    (h : placeBelow? sql max = some place) (hplace : place.Splits p rest) :
    IsLongestBeginning max sql p := by
  have hsize : place.offset.byteIdx = p.utf8ByteSize := by
    rw [hplace.offset_eq_rawEndPos]
    rfl
  refine ⟨⟨rest, hplace.eq_append⟩, ?_, fun q more hq hfits => ?_⟩
  · rw [← hsize]
    exact (placeBelow?_spec h).1
  · obtain ⟨other, hother⟩ := exists_splits hq
    have hle : other ≤ place := by
      refine le_of_placeBelow? h ?_
      rw [hother.offset_eq_rawEndPos]
      exact hfits
    obtain ⟨between, heq, -⟩ := (hother.le_iff_exists_eq_append hplace).mp hle
    exact ⟨between, heq⟩

/-- **What is kept of a text** is its longest beginning that fits. -/
theorem isLongestBeginning_cut (sql : String) (max : Nat) :
    IsLongestBeginning max sql (cut sql max) :=
  isLongestBeginning_of_placeBelow? (Option.some_get _).symm (String.Pos.splits _)

/-- A character more would be too long, so that at most three bytes are lost. -/
theorem IsLongestBeginning.le_add_three {max : Nat} {sql p : String}
    (h : IsLongestBeginning max sql p) (hlong : max < sql.utf8ByteSize) :
    max ≤ p.utf8ByteSize + 3 := by
  obtain ⟨rest, hrest⟩ := h.begins
  obtain ⟨place, hplace⟩ := exists_splits hrest
  have hne : place ≠ sql.endPos := by
    rw [ne_eq, hplace.eq_endPos_iff]
    rintro rfl
    have hfits := h.fits
    rw [hrest, String.append_empty] at hlong
    omega
  -- the next character, and the beginning that ends with it
  obtain ⟨rest', hnext⟩ := hplace.exists_eq_singleton_append hne
  generalize place.get hne = c at hnext
  have hbeginning : sql = (p ++ String.singleton c) ++ rest' := by
    rw [hrest, hnext, String.append_assoc]
  have hsize : (p ++ String.singleton c).utf8ByteSize = p.utf8ByteSize + c.utf8Size := by
    rw [String.utf8ByteSize_append, String.utf8ByteSize_singleton]
  have hfour : c.utf8Size ≤ 4 := c.utf8Size_le_four
  have hpos : 0 < c.utf8Size := c.utf8Size_pos
  by_contra hmax
  obtain ⟨more, hmore⟩ := h.longest _ _ hbeginning (by omega)
  have hlonger : p.utf8ByteSize = (p ++ String.singleton c).utf8ByteSize + more.utf8ByteSize := by
    rw [← String.utf8ByteSize_append, ← hmore]
  omega

theorem shorten_of_maxBytes {log : StatementLog} {max : Nat} (hmax : log.maxBytes = some max)
    (sql : String) :
    log.shorten sql = if sql.utf8ByteSize ≤ max then sql else cut sql max ++ "..." := by
  rw [shorten, hmax]

/-- **What is reported of a text:** the text itself unless it is too long, and else its longest
beginning that fits, with three dots. The search for the end of the beginning always finds a
place, and looks at no byte below it. -/
theorem shorten_between_characters (log : StatementLog) (sql : String) :
    ((∀ max, log.maxBytes = some max → sql.utf8ByteSize ≤ max) → log.shorten sql = sql) ∧
    (∀ max, log.maxBytes = some max → max < sql.utf8ByteSize →
      ∃ p, log.shorten sql = p ++ "..." ∧ IsLongestBeginning max sql p ∧
        max ≤ p.utf8ByteSize + 3) ∧
    ∀ max, ∃ place : sql.Pos, placeBelow? sql max = some place ∧
      cut sql max = (sql.sliceTo place).copy ∧ place.offset.byteIdx ≤ max ∧
      ∀ i, place.offset.byteIdx < i → i ≤ max → placeAt? sql i = none := by
  refine ⟨fun hfits => ?_, fun max hmax hlong => ?_, fun max => ?_⟩
  · cases hmax : log.maxBytes with
    | none => rw [shorten, hmax]
    | some max => rw [shorten_of_maxBytes hmax, if_pos (hfits max hmax)]
  · have hkept := isLongestBeginning_cut sql max
    refine ⟨cut sql max, ?_, hkept, hkept.le_add_three hlong⟩
    rw [shorten_of_maxBytes hmax, if_neg (by omega)]
  · obtain ⟨place, hplace⟩ := exists_placeBelow? sql max
    obtain ⟨hle, hbetween⟩ := placeBelow?_spec hplace
    refine ⟨place, hplace, ?_, hle, hbetween⟩
    simp only [cut, hplace, Option.get_some]

/-- A limit inside a character of two bytes. -/
theorem shorten_between_characters_accent :
    let log : StatementLog := ⟨none, some 8⟩
    let sql := "SELECT é FROM"
    8 < sql.utf8ByteSize ∧ log.shorten sql = "SELECT ..." ∧
      ∃ p, log.shorten sql = p ++ "..." ∧ IsLongestBeginning 8 sql p ∧ 8 ≤ p.utf8ByteSize + 3 :=
  ⟨by decide, by decide +kernel,
    (shorten_between_characters ⟨none, some 8⟩ "SELECT é FROM").2.1 8 rfl (by decide)⟩

end DocumentSql.StatementLog
