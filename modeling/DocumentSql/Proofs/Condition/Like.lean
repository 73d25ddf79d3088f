import Mathlib.Data.List.Infix

/-!
# Patterns with wildcards

How the server compares a text with a pattern: a percent sign stands for any characters, an
underscore for any single one, and a backslash takes the meaning from the character after it.
A word between percent signs is looked for anywhere in a text, but as a pattern: where it has one
of these three characters, there is a text in which the pattern is found and the word is not.

* `Pattern.like_between_iff`: a word without them is found where it stands.
* `Pattern.exists_like_not_infix`: a word with one of them is found elsewhere, too.
-/

set_option autoImplicit false

namespace DocumentSql.Pattern

/-- What a pattern asks for at one place. -/
inductive Item where
  /-- Any number of characters. -/
  | anything
  /-- Any single character. -/
  | anyChar
  | char (c : Char)
deriving DecidableEq

/-- The items of a pattern. A backslash at its end stands for itself. -/
def items : List Char → List Item
  | [] => []
  | ['\\'] => [.char '\\']
  | '\\' :: c :: cs => .char c :: items cs
  | '%' :: cs => .anything :: items cs
  | '_' :: cs => .anyChar :: items cs
  | c :: cs => .char c :: items cs

/-- The whole text is what the items ask for. -/
def accepts : List Item → List Char → Bool
  | [], text => text.isEmpty
  | .anything :: rest, text => text.tails.any (accepts rest)
  | .anyChar :: rest, _ :: text => accepts rest text
  | .char c :: rest, d :: text => c = d && accepts rest text
  | _ :: _, [] => false

/-- A text is LIKE a pattern. -/
def like (pattern text : String) : Bool := accepts (items pattern.toList) text.toList

/-- The characters with a meaning of their own. -/
def special : List Char := ['%', '_', '\\']

/-! ## Items -/

theorem items_cons {c : Char} (h : c ∉ special) (cs : List Char) :
    items (c :: cs) = .char c :: items cs := by
  simp only [special, List.mem_cons, List.not_mem_nil, or_false, not_or] at h
  rw [items] <;> simp_all

/-- Characters without a meaning of their own stand for themselves. -/
theorem items_append {word : List Char} (h : ∀ c ∈ word, c ∉ special) (rest : List Char) :
    items (word ++ rest) = word.map .char ++ items rest := by
  induction word with
  | nil => rfl
  | cons c cs ih =>
      have hcs : ∀ d ∈ cs, d ∉ special := fun d hd => h d (List.mem_cons_of_mem c hd)
      rw [List.cons_append, items_cons (h c List.mem_cons_self), ih hcs]
      rfl

/-! ## Matching -/

theorem accepts_anything_iff {rest : List Item} {text : List Char} :
    accepts (.anything :: rest) text = true ↔
      ∃ skipped found, skipped ++ found = text ∧ accepts rest found = true := by
  rw [accepts, List.any_eq_true]
  constructor
  · rintro ⟨found, hfound, haccepts⟩
    obtain ⟨skipped, hskipped⟩ := (List.mem_tails ..).mp hfound
    exact ⟨skipped, found, hskipped, haccepts⟩
  · rintro ⟨skipped, found, rfl, haccepts⟩
    exact ⟨found, (List.mem_tails ..).mpr (List.suffix_append ..), haccepts⟩

theorem accepts_chars_iff {word : List Char} {rest : List Item} {text : List Char} :
    accepts (word.map .char ++ rest) text = true ↔
      ∃ after, word ++ after = text ∧ accepts rest after = true := by
  induction word generalizing text with
  | nil => simp
  | cons c cs ih =>
      rw [List.map_cons, List.cons_append]
      cases text with
      | nil => simp [accepts]
      | cons d text =>
          simp only [accepts, Bool.and_eq_true, decide_eq_true_eq, ih, List.cons_append,
            List.cons.injEq]
          constructor
          · rintro ⟨rfl, after, rfl, haccepts⟩
            exact ⟨after, ⟨rfl, rfl⟩, haccepts⟩
          · rintro ⟨after, ⟨rfl, rfl⟩, haccepts⟩
            exact ⟨rfl, after, rfl, haccepts⟩

/-! ## A word between percent signs -/

/-- **A word without a special character** is found exactly where it stands. -/
theorem like_between_iff {word : String} (h : ∀ c ∈ word.toList, c ∉ special) (text : String) :
    like ("%" ++ word ++ "%") text = true ↔ word.toList <:+: text.toList := by
  have hitems : items ("%" ++ word ++ "%").toList =
      .anything :: (word.toList.map .char ++ [.anything]) := by
    have hpattern : ("%" ++ word ++ "%").toList = '%' :: (word.toList ++ ['%']) := by simp
    rw [hpattern, items, items_append h]
    rfl
  have hrest : ∀ after : List Char, accepts [.anything] after = true := by
    intro after
    exact accepts_anything_iff.mpr ⟨after, [], List.append_nil after, rfl⟩
  rw [like, hitems, accepts_anything_iff]
  constructor
  · rintro ⟨before, found, htext, haccepts⟩
    obtain ⟨after, rfl, -⟩ := accepts_chars_iff.mp haccepts
    exact ⟨before, after, by rw [List.append_assoc, htext]⟩
  · rintro ⟨before, after, htext⟩
    refine ⟨before, word.toList ++ after, by rw [← List.append_assoc, htext], ?_⟩
    exact accepts_chars_iff.mpr ⟨after, rfl, hrest after⟩

/-- A text in which the pattern of a word is found: nothing for anything, and each backslash
is gone. At the end of the word it would have taken the meaning from a percent sign. -/
def sample : List Char → List Char
  | [] => []
  | ['\\'] => ['%']
  | '\\' :: c :: cs => c :: sample cs
  | '%' :: cs => sample cs
  | '_' :: cs => 'a' :: sample cs
  | c :: cs => c :: sample cs

/-- The last case of a sample is about an ordinary character. -/
theorem not_mem_special {c : Char} {cs : List Char} (hlast : c = '\\' → cs = [] → False)
    (hescape : ∀ d ds, c = '\\' → cs = d :: ds → False) (hpercent : c ≠ '%')
    (hunderscore : c ≠ '_') : c ∉ special := by
  simp only [special, List.mem_cons, List.not_mem_nil, or_false, not_or]
  refine ⟨hpercent, hunderscore, ?_⟩
  rintro rfl
  cases cs with
  | nil => exact hlast rfl rfl
  | cons d ds => exact hescape d ds rfl rfl

theorem accepts_sample (word : List Char) :
    accepts (items (word ++ ['%'])) (sample word) = true := by
  fun_induction sample word with
  | case1 => rfl
  | case2 => rfl
  | case3 c cs ih => simpa [items, accepts] using ih
  | case4 cs ih => exact accepts_anything_iff.mpr ⟨[], sample cs, rfl, ih⟩
  | case5 cs ih => exact ih
  | case6 c cs hlast hescape hpercent hunderscore ih =>
      have hordinary := not_mem_special hlast hescape hpercent hunderscore
      rw [List.cons_append, items_cons hordinary]
      simpa [accepts] using ih

theorem length_sample_le (word : List Char) : (sample word).length ≤ word.length := by
  fun_induction sample word <;> simp_all <;> omega

/-- Only a word without a special character is its own sample. -/
theorem not_special_of_sample_eq {word : List Char} (h : sample word = word) :
    ∀ c ∈ word, c ∉ special := by
  fun_induction sample word with
  | case1 => simp
  | case2 => exact absurd h (by decide)
  | case3 c cs ih =>
      -- a pair of the word is one character of the sample
      have hlength := congrArg List.length h
      have hle := length_sample_le cs
      simp only [List.length_cons] at hlength
      omega
  | case4 cs ih =>
      have hlength := congrArg List.length h
      have hle := length_sample_le cs
      simp only [List.length_cons] at hlength
      omega
  | case5 cs ih =>
      injection h with hhead htail
      exact absurd hhead (by decide)
  | case6 c cs hlast hescape hpercent hunderscore ih =>
      injection h with _ htail
      exact List.forall_mem_cons.mpr
        ⟨not_mem_special hlast hescape hpercent hunderscore, ih htail⟩

/-- **A word with a special character** is found where it does not stand. -/
theorem exists_like_not_infix {word : String} (h : ∃ c ∈ word.toList, c ∈ special) :
    ∃ text : String, like ("%" ++ word ++ "%") text = true ∧ ¬ word.toList <:+: text.toList := by
  obtain ⟨c, hc, hspecial⟩ := h
  refine ⟨String.ofList (sample word.toList), ?_, ?_⟩
  · have hpattern : ("%" ++ word ++ "%").toList = '%' :: (word.toList ++ ['%']) := by simp
    rw [like, hpattern, String.toList_ofList, items]
    exact accepts_anything_iff.mpr ⟨[], _, rfl, accepts_sample word.toList⟩
  · rw [String.toList_ofList]
    intro hinfix
    -- the sample is not longer than the word, so it could only be the word itself
    have heq : word.toList = sample word.toList :=
      hinfix.eq_of_length_le (length_sample_le word.toList)
    exact not_special_of_sample_eq heq.symm c hc hspecial

end DocumentSql.Pattern
