import DocumentSql.Proofs.Lexical.Lexer

/-!
# Reading back a list of tokens

When a list of tokens is the list of tokens of its own spelling: each token has to be one that
can stand in a text, and none may run into the next one.

* `lex_spell`: such a list is read back from its spelling.
-/

set_option autoImplicit false

namespace DocumentSql.Lexical

/-! ## Tokens that can stand in a text -/

/-- A mark that ends the string is only found behind `content`, whatever comes after it. -/
def Sealed (mark : Char) (content : List Char) : Prop :=
  ∀ rest, scanQuoted true mark (content ++ rest) =
    (scanQuoted true mark rest).map fun found => (content ++ found.1, found.2)

/-- The spelling of a number: a sign, digits, a fraction and an exponent. All but the digits
may be missing. -/
structure NumberSpelling where
  negative : Bool
  whole : List Char
  fraction : List Char
  exponent : List Char
  whole_ne_nil : whole ≠ []
  whole_digits : ∀ c ∈ whole, c.isDigit
  fraction_digits : fraction = [] ∨
    ∃ digits, fraction = '.' :: digits ∧ ∀ c ∈ digits, c.isDigit
  exponent_digits : exponent = [] ∨
    ∃ sign digits, exponent = 'e' :: sign :: digits ∧ (sign = '+' ∨ sign = '-') ∧
      digits ≠ [] ∧ ∀ c ∈ digits, c.isDigit

/-- The characters of a number. -/
def NumberSpelling.text (n : NumberSpelling) : List Char :=
  (if n.negative then ['-'] else []) ++ n.whole ++ n.fraction ++ n.exponent

/-- The signs of statements. -/
def plainSigns : List String := ["(", ")", ",", ".", "=", "!=", "<", "<=", ">", ">=", "*"]

/-- The signs that end where they end, whatever comes next. -/
def closedSigns : List String := ["(", ")", ",", "."]

namespace Token

/-- The token can stand in a text. -/
def IsValid : Token → Prop
  | .blank c => isSpace c
  | .name content => backtick ∉ content.toList
  | .string mark content => (mark = '"' ∨ mark = '\x27') ∧ Sealed mark content.toList
  | .number text => ∃ n : NumberSpelling, text.toList = n.text
  | .word text => ∃ c cs, text.toList = c :: cs ∧ c.isDigit = false ∧
      isWordChar c ∧ ∀ d ∈ cs, isWordChar d
  | .sign text => text ∈ plainSigns

/-- The token ends where `c` follows. -/
def EndsBefore (c : Char) : Token → Prop
  | .blank _ => True
  | .name _ => c ≠ backtick
  | .string mark _ => c ≠ mark
  | .number _ => isWordChar c = false ∧ c ≠ '.'
  | .word _ => isWordChar c = false
  | .sign text => text ∈ closedSigns ∨ (c ≠ '=' ∧ c ≠ '>' ∧ c ≠ '<')

/-- Two tokens do not run into each other. -/
def Apart (t u : Token) : Prop := ∀ c ∈ u.text.head?, t.EndsBefore c

end Token

/-! ## Characters -/

theorem isWordChar_of_isSpace {c : Char} (h : isSpace c = true) : isWordChar c = false := by
  simp only [isSpace, Bool.or_eq_true, decide_eq_true_eq, Bool.and_eq_true] at h
  rcases h with rfl | ⟨hlow, hhigh⟩
  · decide
  · have hc : c = Char.ofNat c.toNat := (Char.ofNat_toNat c).symm
    generalize c.toNat = n at hc hlow hhigh
    have hn : n = 9 ∨ n = 10 ∨ n = 11 ∨ n = 12 ∨ n = 13 := by omega
    rcases hn with rfl | rfl | rfl | rfl | rfl <;> (subst hc; decide)

theorem isSpace_of_isWordChar {c : Char} (h : isWordChar c = true) : isSpace c = false := by
  by_contra hspace
  rw [isWordChar_of_isSpace (by simpa using hspace)] at h
  cases h

theorem isWordChar_of_isDigit {c : Char} (h : c.isDigit = true) : isWordChar c = true := by
  simp [isWordChar, Char.isAlphanum, h]

/-- A list is cut where its first part, all of whose members are in `p`, ends. -/
theorem span_append {α : Type} {p : α → Bool} {as bs : List α} (has : ∀ a ∈ as, p a)
    (hbs : ∀ b ∈ bs.head?, p b = false) :
    (as ++ bs).takeWhile p = as ∧ (as ++ bs).dropWhile p = bs := by
  rw [List.takeWhile_append_of_pos has, List.dropWhile_append_of_pos has]
  cases bs with
  | nil => simp
  | cons b bs =>
      have hb : p b = false := hbs b rfl
      simp [hb]

/-! ## Quoted text -/

theorem scanQuoted_cons {escapes : Bool} {mark c : Char} (cs : List Char) (hmark : c ≠ mark)
    (hescape : (escapes && c = '\\') = false) :
    scanQuoted escapes mark (c :: cs) =
      (scanQuoted escapes mark cs).map fun found => (c :: found.1, found.2) := by
  cases cs with
  | nil => simp [scanQuoted, hmark]
  | cons d cs => rw [scanQuoted, if_neg hmark, if_neg (by simpa using hescape)]

theorem scanQuoted_escaped {mark : Char} (hmark : '\\' ≠ mark) (c : Char) (cs : List Char) :
    scanQuoted true mark ('\\' :: c :: cs) =
      (scanQuoted true mark cs).map fun found => ('\\' :: c :: found.1, found.2) := by
  rw [scanQuoted, if_neg hmark, if_pos (by decide)]

theorem scanQuoted_mark {escapes : Bool} {mark : Char} {rest : List Char}
    (h : ∀ c ∈ rest.head?, c ≠ mark) :
    scanQuoted escapes mark (mark :: rest) = some ([], rest) := by
  cases rest with
  | nil => simp [scanQuoted]
  | cons c rest => rw [scanQuoted, if_pos rfl, if_neg (h c rfl)]

theorem scanQuoted_name {content rest : List Char} (hcontent : backtick ∉ content)
    (h : ∀ c ∈ rest.head?, c ≠ backtick) :
    scanQuoted false backtick (content ++ backtick :: rest) = some (content, rest) := by
  induction content with
  | nil => exact scanQuoted_mark h
  | cons c content ih =>
      rw [List.mem_cons, not_or] at hcontent
      rw [List.cons_append, scanQuoted_cons _ (Ne.symm hcontent.1) rfl, ih hcontent.2]
      rfl

theorem sealed_nil (mark : Char) : Sealed mark [] := by
  intro rest
  simp

theorem Sealed.append {mark : Char} {as bs : List Char} (has : Sealed mark as)
    (hbs : Sealed mark bs) : Sealed mark (as ++ bs) := by
  intro rest
  rw [List.append_assoc, has, hbs, Option.map_map]
  congr 1
  funext found
  simp

theorem sealed_singleton {mark c : Char} (hmark : c ≠ mark) (hescape : c ≠ '\\') :
    Sealed mark [c] := by
  intro rest
  exact scanQuoted_cons rest hmark (by simpa using hescape)

theorem sealed_escaped {mark : Char} (hmark : '\\' ≠ mark) (c : Char) :
    Sealed mark ['\\', c] := by
  intro rest
  exact scanQuoted_escaped hmark c rest

theorem scanQuoted_sealed {mark : Char} {content rest : List Char} (hcontent : Sealed mark content)
    (h : ∀ c ∈ rest.head?, c ≠ mark) :
    scanQuoted true mark (content ++ mark :: rest) = some (content, rest) := by
  rw [hcontent, scanQuoted_mark h]
  simp

/-! ## Numbers -/

theorem scanDigits_eq {digits rest : List Char} (hdigits : ∀ c ∈ digits, c.isDigit)
    (h : ∀ c ∈ rest.head?, c.isDigit = false) :
    scanDigits (digits ++ rest) = (digits, rest) := by
  obtain ⟨htake, hdrop⟩ := span_append hdigits h
  rw [scanDigits, htake, hdrop]

theorem scanSign_of_isDigit {c : Char} {cs : List Char} (h : c.isDigit = true) :
    scanSign (c :: cs) = ([], c :: cs) := by
  unfold scanSign
  split
  · next heq => cases heq; exact absurd h (by decide)
  · next heq => cases heq; exact absurd h (by decide)
  · rfl

namespace NumberSpelling

/-- What may follow a number. -/
def Ends (rest : List Char) : Prop := ∀ c ∈ rest.head?, isWordChar c = false ∧ c ≠ '.'

theorem scanExponent_eq (n : NumberSpelling) {rest : List Char} (h : Ends rest) :
    scanExponent (n.exponent ++ rest) = (n.exponent, rest) := by
  rcases n.exponent_digits with hnil | ⟨sign, digits, hexp, hsign, hne, hdigits⟩
  · rw [hnil, List.nil_append]
    cases rest with
    | nil => rfl
    | cons c rest =>
        have hc : (c = 'e' || c = 'E') = false := by
          obtain ⟨hword, -⟩ := h c rfl
          by_contra hcontra
          simp only [Bool.not_eq_false, Bool.or_eq_true, decide_eq_true_eq] at hcontra
          rcases hcontra with rfl | rfl <;> exact absurd hword (by decide)
        simp [scanExponent, hc]
  · have hrest : ∀ c ∈ rest.head?, c.isDigit = false := by
      intro c hc
      by_contra hcontra
      have := isWordChar_of_isDigit (c := c) (by simpa using hcontra)
      rw [(h c hc).1] at this
      cases this
    have hscan := scanDigits_eq hdigits hrest
    rw [hexp]
    rcases hsign with rfl | rfl <;> simp [scanExponent, scanSign, hscan, hne]

theorem head_exponent_append (n : NumberSpelling) {rest : List Char} (h : Ends rest) :
    ∀ c ∈ (n.exponent ++ rest).head?, c.isDigit = false ∧ c ≠ '.' := by
  intro c hc
  rcases n.exponent_digits with hnil | ⟨sign, digits, hexp, -⟩
  · rw [hnil, List.nil_append] at hc
    refine ⟨?_, (h c hc).2⟩
    by_contra hcontra
    have := isWordChar_of_isDigit (c := c) (by simpa using hcontra)
    rw [(h c hc).1] at this
    cases this
  · rw [hexp] at hc
    simp only [List.cons_append, List.head?_cons, Option.mem_def, Option.some.injEq] at hc
    subst hc
    decide

theorem scanFraction_eq (n : NumberSpelling) {rest : List Char} (h : Ends rest) :
    scanFraction (n.fraction ++ (n.exponent ++ rest)) = (n.fraction, n.exponent ++ rest) := by
  have hhead := n.head_exponent_append h
  rcases n.fraction_digits with hnil | ⟨digits, hfrac, hdigits⟩
  · rw [hnil, List.nil_append]
    unfold scanFraction
    split
    · next cs heq =>
        rw [heq] at hhead
        exact absurd rfl (hhead '.' rfl).2
    · rfl
  · rw [hfrac, List.cons_append, scanFraction,
      scanDigits_eq hdigits (fun c hc => (hhead c hc).1)]

theorem head_fraction_append (n : NumberSpelling) {rest : List Char} (h : Ends rest) :
    ∀ c ∈ (n.fraction ++ (n.exponent ++ rest)).head?, c.isDigit = false := by
  intro c hc
  rcases n.fraction_digits with hnil | ⟨digits, hfrac, hdigits⟩
  · rw [hnil, List.nil_append] at hc
    exact (n.head_exponent_append h c hc).1
  · rw [hfrac] at hc
    simp only [List.cons_append, List.head?_cons, Option.mem_def, Option.some.injEq] at hc
    subst hc
    decide

theorem scanNumber_eq (n : NumberSpelling) {rest : List Char} (h : Ends rest) :
    scanNumber (n.text ++ rest) = some (n.text, rest) := by
  have hsign : scanSign (n.text ++ rest) = (if n.negative then ['-'] else [],
      n.whole ++ (n.fraction ++ (n.exponent ++ rest))) := by
    cases hneg : n.negative with
    | true => simp [text, hneg, scanSign]
    | false =>
        obtain ⟨d, ds, hwhole⟩ := List.exists_cons_of_ne_nil n.whole_ne_nil
        have hd : d.isDigit = true := n.whole_digits d (by simp [hwhole])
        simp [text, hneg, hwhole, scanSign_of_isDigit hd]
  have hdigits := scanDigits_eq n.whole_digits (n.head_fraction_append h)
  have hword : (rest.head?.any isWordChar) = false := by
    cases rest with
    | nil => rfl
    | cons c rest => exact (h c rfl).1
  simp only [scanNumber, hsign, hdigits, n.scanFraction_eq h, n.scanExponent_eq h, hword,
    Bool.or_false]
  rw [if_neg (by simpa using n.whole_ne_nil)]
  rfl

end NumberSpelling

/-! ## One token in front of a text -/

/-- A text begins with the token `t`, and `rest` follows. -/
def BeginsWith (t : Token) (rest : List Char) : Prop :=
  ∃ c cs, t.text ++ rest = c :: cs ∧ scan c cs = some (t, rest)

theorem beginsWith_blank {c : Char} (h : isSpace c = true) (rest : List Char) :
    BeginsWith (.blank c) rest :=
  ⟨c, rest, rfl, by rw [scan, if_pos h]⟩

theorem beginsWith_name {content : String} (hcontent : backtick ∉ content.toList)
    {rest : List Char} (h : ∀ c ∈ rest.head?, c ≠ backtick) :
    BeginsWith (.name content) rest := by
  refine ⟨backtick, content.toList ++ backtick :: rest, by simp [Token.text], ?_⟩
  rw [scan, if_neg (by decide), if_neg (by simp [opensComment, backtick]), if_pos rfl,
    scanQuoted_name hcontent h]
  simp

theorem beginsWith_string {mark : Char} (hmark : mark = '"' ∨ mark = '\x27') {content : String}
    (hcontent : Sealed mark content.toList) {rest : List Char}
    (h : ∀ c ∈ rest.head?, c ≠ mark) : BeginsWith (.string mark content) rest := by
  refine ⟨mark, content.toList ++ mark :: rest, by simp [Token.text], ?_⟩
  have hspace : isSpace mark = false := by rcases hmark with rfl | rfl <;> decide
  have hcomment : ∀ cs, opensComment (mark :: cs) = false := by
    rcases hmark with rfl | rfl <;> intro cs <;> simp [opensComment]
  have hname : mark ≠ backtick := by rcases hmark with rfl | rfl <;> decide
  rw [scan, if_neg (by simp [hspace]), if_neg (by simp [hcomment]), if_neg hname,
    if_pos (by simpa using hmark), scanQuoted_sealed hcontent h]
  simp

theorem scan_of_isWordChar {c : Char} {cs : List Char} (h : isWordChar c = true) :
    scan c cs = if beginsNumber c cs then
        (scanNumber (c :: cs)).map fun found => (.number (String.ofList found.1), found.2)
      else some (.word (String.ofList (c :: cs.takeWhile isWordChar)),
        cs.dropWhile isWordChar) := by
  -- every branch before that of numbers asks for a character that no word has
  have hne : ∀ d, isWordChar d = false → c ≠ d := by
    rintro d hd rfl
    rw [h] at hd
    cases hd
  have hcomment : opensComment (c :: cs) = false := by
    unfold opensComment
    split
    · next heq => cases heq; exact absurd rfl (hne '#' (by decide))
    · next heq => cases heq; exact absurd rfl (hne '-' (by decide))
    · next heq => cases heq; exact absurd rfl (hne '/' (by decide))
    · rfl
  rw [scan, if_neg (by simp [isSpace_of_isWordChar h]), if_neg (by simp [hcomment]),
    if_neg (hne backtick (by decide)),
    if_neg (by simp [hne '"' (by decide), hne '\x27' (by decide)]), if_pos h]

theorem beginsWith_number (n : NumberSpelling) {rest : List Char} (h : NumberSpelling.Ends rest) :
    BeginsWith (.number (String.ofList n.text)) rest := by
  have hscan := n.scanNumber_eq h
  obtain ⟨d, ds, hwhole⟩ := List.exists_cons_of_ne_nil n.whole_ne_nil
  have hd : d.isDigit = true := n.whole_digits d (by simp [hwhole])
  -- a number begins with its sign or with its first digit, and `scan` asks for either
  cases hneg : n.negative with
  | true =>
      have htext : n.text = '-' :: d :: (ds ++ n.fraction ++ n.exponent) := by
        simp [NumberSpelling.text, hneg, hwhole]
      refine ⟨'-', d :: (ds ++ n.fraction ++ n.exponent ++ rest), by simp [Token.text, htext], ?_⟩
      have hne : d ≠ '-' := by
        rintro rfl
        exact absurd hd (by decide)
      rw [htext] at hscan ⊢
      rw [scan, if_neg (by decide), if_neg (by simp [opensComment, hne]), if_neg (by decide),
        if_neg (by decide), if_pos (by simp [beginsNumber, hd])]
      simp only [List.cons_append] at hscan
      rw [hscan]
      rfl
  | false =>
      have htext : n.text = d :: (ds ++ n.fraction ++ n.exponent) := by
        simp [NumberSpelling.text, hneg, hwhole]
      refine ⟨d, ds ++ n.fraction ++ n.exponent ++ rest, by simp [Token.text, htext], ?_⟩
      rw [htext] at hscan ⊢
      rw [scan_of_isWordChar (isWordChar_of_isDigit hd), if_pos (by simp [beginsNumber, hd])]
      simp only [List.cons_append] at hscan
      rw [hscan]
      rfl

theorem beginsWith_word {text : String} {c : Char} {cs : List Char} (htext : text.toList = c :: cs)
    (hdigit : c.isDigit = false) (hc : isWordChar c = true) (hcs : ∀ d ∈ cs, isWordChar d)
    {rest : List Char} (h : ∀ d ∈ rest.head?, isWordChar d = false) :
    BeginsWith (.word text) rest := by
  refine ⟨c, cs ++ rest, by simp [Token.text, htext], ?_⟩
  have hnumber : beginsNumber c (cs ++ rest) = false := by
    have hminus : c ≠ '-' := by
      rintro rfl
      exact absurd hc (by decide)
    have hplus : c ≠ '+' := by
      rintro rfl
      exact absurd hc (by decide)
    simp [beginsNumber, hdigit, hminus, hplus]
  obtain ⟨htake, hdrop⟩ := span_append hcs h
  rw [scan_of_isWordChar hc, if_neg (by simp [hnumber]), htake, hdrop, ← htext]
  simp

theorem beginsWith_sign {text : String} (htext : text ∈ plainSigns) {rest : List Char}
    (h : ∀ c ∈ rest.head?, text ∈ closedSigns ∨ (c ≠ '=' ∧ c ≠ '>' ∧ c ≠ '<')) :
    BeginsWith (.sign text) rest := by
  simp only [plainSigns, List.mem_cons, List.not_mem_nil, or_false] at htext
  cases rest with
  | nil =>
      rcases htext with rfl | rfl | rfl | rfl | rfl | rfl | rfl | rfl | rfl | rfl | rfl
      all_goals exact ⟨_, _, rfl, rfl⟩
  | cons c rest =>
      have hc := (h c rfl).resolve_left
      rcases htext with rfl | rfl | rfl | rfl | rfl | rfl | rfl | rfl | rfl | rfl | rfl
      · exact ⟨_, _, rfl, rfl⟩
      · exact ⟨_, _, rfl, rfl⟩
      · exact ⟨_, _, rfl, rfl⟩
      · exact ⟨_, _, rfl, rfl⟩
      · exact ⟨_, _, rfl, rfl⟩
      · exact ⟨_, _, rfl, rfl⟩
      -- longer signs begin with these three, so that the next character counts
      · obtain ⟨heq, hgt, hlt⟩ := hc (by decide)
        refine ⟨'<', c :: rest, rfl, ?_⟩
        show some (scanMark '<' (c :: rest)) = _
        simp [scanMark, compoundSigns, heq.symm, hgt.symm, hlt.symm]
      · obtain ⟨heq, hgt, hlt⟩ := hc (by decide)
        refine ⟨'<', '=' :: c :: rest, rfl, ?_⟩
        show some (scanMark '<' ('=' :: c :: rest)) = _
        simp [scanMark, compoundSigns, hgt.symm]
      · obtain ⟨heq, hgt, hlt⟩ := hc (by decide)
        refine ⟨'>', c :: rest, rfl, ?_⟩
        show some (scanMark '>' (c :: rest)) = _
        simp [scanMark, compoundSigns, heq.symm, hgt.symm]
      · exact ⟨_, _, rfl, rfl⟩
      · exact ⟨_, _, rfl, rfl⟩

theorem Token.IsValid.beginsWith {t : Token} (ht : t.IsValid) {rest : List Char}
    (h : ∀ c ∈ rest.head?, t.EndsBefore c) : BeginsWith t rest := by
  cases t with
  | blank c => exact beginsWith_blank ht rest
  | name content => exact beginsWith_name ht h
  | string mark content => exact beginsWith_string ht.1 ht.2 h
  | number text =>
      obtain ⟨n, hn⟩ := ht
      have htext : text = String.ofList n.text := by rw [← hn, String.ofList_toList]
      rw [htext]
      exact beginsWith_number n h
  | word text =>
      obtain ⟨c, cs, htext, hdigit, hc, hcs⟩ := ht
      exact beginsWith_word htext hdigit hc hcs h
  | sign text => exact beginsWith_sign ht h

/-! ## Lists of tokens -/

/-- The tokens can stand in a text one after the other. -/
def Readable (ts : List Token) : Prop := (∀ t ∈ ts, t.IsValid) ∧ ts.IsChain Token.Apart

theorem readable_nil : Readable [] := by
  simp [Readable]

theorem Token.IsValid.readable {t : Token} (h : t.IsValid) : Readable [t] := by
  simpa [Readable] using h

theorem Token.IsValid.text_ne_nil {t : Token} (ht : t.IsValid) : t.text ≠ [] := by
  cases t with
  | number text =>
      obtain ⟨n, hn⟩ := ht
      simp [Token.text, hn, NumberSpelling.text, n.whole_ne_nil]
  | word text =>
      obtain ⟨c, cs, htext, -⟩ := ht
      simp [Token.text, htext]
  | sign text =>
      have hne : ∀ s ∈ plainSigns, s.toList ≠ [] := by decide
      exact hne text ht
  | _ => simp [Token.text]

theorem spell_eq_nil_iff {ts : List Token} (h : ∀ t ∈ ts, t.IsValid) : spell ts = [] ↔ ts = [] := by
  cases ts with
  | nil => simp
  | cons t ts =>
      have hne : t.text ≠ [] := (h t List.mem_cons_self).text_ne_nil
      simp [hne]

/-- What follows a token in the spelling of a list begins with the next token. -/
theorem endsBefore_head_spell {t : Token} {us : List Token} (hus : ∀ u ∈ us, u.IsValid)
    (h : ∀ u ∈ us.head?, t.Apart u) : ∀ c ∈ (spell us).head?, t.EndsBefore c := by
  cases us with
  | nil => simp
  | cons u us =>
      have hne : u.text ≠ [] := (hus u List.mem_cons_self).text_ne_nil
      intro c hc
      refine h u rfl c ?_
      rw [spell_cons, List.head?_append_of_ne_nil _ hne] at hc
      exact hc

/-- **A readable list is the list of tokens of its spelling.** -/
theorem lex_spell {ts : List Token} (h : Readable ts) : lex (spell ts) = some ts := by
  obtain ⟨hvalid, hchain⟩ := h
  induction ts with
  | nil => simp
  | cons t ts ih =>
      rw [List.isChain_cons] at hchain
      have hts : ∀ u ∈ ts, u.IsValid := fun u hu => hvalid u (List.mem_cons_of_mem t hu)
      -- what follows `t` begins with the next token, which `t` does not run into
      obtain ⟨c, cs, htext, hscan⟩ := (hvalid t List.mem_cons_self).beginsWith
        (endsBefore_head_spell hts hchain.1)
      rw [spell_cons, htext, lex_cons hscan, ih hts hchain.2]
      rfl

/-! ## Words -/

/-- A word of capital letters can stand in a text. -/
theorem Token.isValid_word {text : String} (hne : text.toList ≠ [])
    (hupper : text.toList.all Char.isUpper = true) : (Token.word text).IsValid := by
  have h : ∀ c ∈ text.toList, c.isUpper := List.all_eq_true.mp hupper
  have hword : ∀ c ∈ text.toList, isWordChar c := by
    intro c hc
    have hletter : c.isAlpha = true := by
      show (c.isUpper || c.isLower) = true
      rw [h c hc, Bool.true_or]
    simp [isWordChar, Char.isAlphanum, hletter]
  obtain ⟨c, cs, htext⟩ := List.exists_cons_of_ne_nil hne
  rw [htext] at h hword
  refine ⟨c, cs, htext, ?_, hword c List.mem_cons_self,
    fun d hd => hword d (List.mem_cons_of_mem c hd)⟩
  have hc : decide (c.val ≥ 'A'.val ∧ c.val ≤ 'Z'.val) = true := h c List.mem_cons_self
  simp only [ge_iff_le, decide_eq_true_eq, UInt32.le_iff_toNat_le] at hc
  simp only [Char.isDigit, ge_iff_le, Bool.and_eq_false_imp, decide_eq_true_eq,
    decide_eq_false_iff_not, UInt32.le_iff_toNat_le]
  have hzero : ('A' : Char).val.toNat = 65 := rfl
  have hnine : ('9' : Char).val.toNat = 57 := rfl
  omega

end DocumentSql.Lexical
