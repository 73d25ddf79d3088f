import DocumentSql.Proofs.Entries
import DocumentSql.Proofs.Json.EmptyObject
import DocumentSql.Proofs.Json.Written

/-!
# What the reader keeps of a document

The reader keeps a written document up to repeated keys: of several members of an object with the
same key, the last one counts, and it stands where the key came first. Nothing else is changed, at
any depth.

* `Json.readValueWith_succ_eq_ok`: what the reader does in one step.
* `Json.exists_isWritten_of_read`: the document that is read was written.
-/

set_option autoImplicit false

namespace DocumentSql

namespace Json

/-! ## What is kept -/

mutual

/-- What the reader keeps of a written document. -/
def settle : Json → Json
  | .null => .null
  | .bool b => .bool b
  | .number n => .number n
  | .string s => .string s
  | .array items => .array (settleItems items)
  | .object members => .object (Entries.settle (settleValues members))

/-- What is kept of items. -/
def settleItems : List Json → List Json
  | [] => []
  | item :: items => item.settle :: settleItems items

/-- Members with what is kept of their values. -/
def settleValues : List (String × Json) → List (String × Json)
  | [] => []
  | (key, value) :: members => (key, value.settle) :: settleValues members

end

theorem settleItems_eq_map (items : List Json) : settleItems items = items.map settle := by
  induction items with
  | nil => rfl
  | cons item items ih => rw [settleItems, ih, List.map_cons]

theorem settleValues_eq_map (members : List (String × Json)) :
    settleValues members = members.map (Prod.map id settle) := by
  induction members with
  | nil => rfl
  | cons member members ih => rw [settleValues, ih, List.map_cons, Prod.map, id]

theorem settle_array (items : List Json) : settle (.array items) = .array (items.map settle) := by
  rw [settle, settleItems_eq_map]

theorem settle_object (members : List (String × Json)) :
    settle (.object members) = .object (Entries.settle (members.map (Prod.map id settle))) := by
  rw [settle, settleValues_eq_map]

/-- A value that holds no other is kept as it is written. -/
theorem BeginsAtom.exists_begins {s rest : List Char} {v : Json}
    (h : BeginsAtom (skipBlanks s) v rest) : ∃ w, Begins s w rest ∧ w.settle = v := by
  refine ⟨v, .atom h, ?_⟩
  cases h <;> rfl

/-! ## What is read was written -/

/-- A word that is read is the one that stands for the value. -/
theorem readWord_eq_ok_iff {word s rest : List Char} {v w : Json} :
    (do let s ← expect word s; .ok (v, s) : Reading (Json × List Char)) = .ok (w, rest) ↔
      v = w ∧ s = word ++ rest := by
  simp only [bind_eq_ok_iff, expect_eq_ok_iff, Except.ok.injEq, Prod.mk.injEq]
  constructor
  · rintro ⟨t, hs, hv, rfl⟩
    exact ⟨hv, hs⟩
  · rintro ⟨hv, hs⟩
    exact ⟨rest, hs, hv, rfl⟩

theorem skipBlanks_skipBlanks (s : List Char) : skipBlanks (skipBlanks s) = skipBlanks s := by
  cases h : skipBlanks s with
  | nil => rfl
  | cons c rest => exact List.dropWhile_cons_of_neg (by simp [not_isBlank_of_skipBlanks h])

theorem Begins.of_skipBlanks {s rest : List Char} {v : Json} (h : Begins (skipBlanks s) v rest) :
    Begins s v rest := by
  cases h with
  | atom h => exact .atom (skipBlanks_skipBlanks s ▸ h)
  | array h hitems => exact .array (skipBlanks_skipBlanks s ▸ h) hitems
  | object h hmembers => exact .object (skipBlanks_skipBlanks s ▸ h) hmembers

theorem BeginsMember.of_skipBlanks {s rest : List Char} {member : String × Json}
    (h : BeginsMember (skipBlanks s) member rest) : BeginsMember s member rest := by
  cases h with
  | mk h hkey hcolon hvalue => exact .mk (skipBlanks_skipBlanks s ▸ h) hkey hcolon hvalue

theorem BeginsList.of_skipBlanks {α : Type} {Item : List Char → α → List Char → Prop}
    {closing : Char}
    (hitem : ∀ {s t : List Char} {item : α}, Item (skipBlanks s) item t → Item s item t)
    {s rest : List Char} {items : List α} (h : BeginsList Item closing (skipBlanks s) items rest) :
    BeginsList Item closing s items rest := by
  cases h with
  | last h hend => exact .last (hitem h) hend
  | next h hcomma hitems => exact .next (hitem h) hcomma hitems

/-! ## One step of the reader -/

/-- **A value that is read** holds no other, or it is a container, for which there is room, with
what is read in it. -/
theorem readValueWith_succ_eq_ok {fuel room : Nat} {s rest : List Char} {v : Json}
    (h : readValueWith (fuel + 1) room s = .ok (v, rest)) :
    BeginsAtom (skipBlanks s) v rest ∨
    (∃ room' t vs, room = room' + 1 ∧ skipBlanks s = '[' :: t ∧ v = .array vs ∧
      ((vs = [] ∧ skipBlanks t = ']' :: rest) ∨
        readItemsWith fuel room' (skipBlanks t) = .ok (vs, rest))) ∨
    ∃ room' t vs, room = room' + 1 ∧ skipBlanks s = '\x7b' :: t ∧ v = .object vs ∧
      ((vs = [] ∧ skipBlanks t = '\x7d' :: rest) ∨
        readMembersWith fuel room' [] (skipBlanks t) = .ok (vs, rest)) := by
  rw [readValueWith] at h
  split at h
  · cases h
  · next t hs =>
      obtain ⟨rfl, rfl⟩ := readWord_eq_ok_iff.mp h
      exact .inl (.null hs)
  · next t hs =>
      obtain ⟨rfl, rfl⟩ := readWord_eq_ok_iff.mp h
      exact .inl (.true hs)
  · next t hs =>
      obtain ⟨rfl, rfl⟩ := readWord_eq_ok_iff.mp h
      exact .inl (.false hs)
  · next t hs =>
      obtain ⟨⟨text, t'⟩, htext, h⟩ := bind_eq_ok_iff.mp h
      cases h
      exact .inl (.string hs (readString_eq_ok_iff.mp htext))
  · next t hs =>
      obtain ⟨n, rfl⟩ := number_of_readNumber h
      exact .inl (.negative hs (readNumber_eq_ok_iff.mp h))
  · next t hs =>
      -- an array: no room for it, none of its items, or the end of the text, or some items
      refine .inr (.inl ?_)
      split at h
      · cases h
      · next room' =>
          split at h
          · next hend =>
              cases h
              exact ⟨room', t, [], rfl, hs, rfl, .inl ⟨rfl, hend⟩⟩
          · cases h
          · obtain ⟨⟨vs, t'⟩, hvs, h⟩ := bind_eq_ok_iff.mp h
            cases h
            exact ⟨room', t, vs, rfl, hs, rfl, .inr hvs⟩
  · next t hs =>
      refine .inr (.inr ?_)
      split at h
      · cases h
      · next room' =>
          split at h
          · next hend =>
              cases h
              exact ⟨room', t, [], rfl, hs, rfl, .inl ⟨rfl, hend⟩⟩
          · obtain ⟨⟨vs, t'⟩, hvs, h⟩ := bind_eq_ok_iff.mp h
            cases h
            exact ⟨room', t, vs, rfl, hs, rfl, .inr hvs⟩
  · next c t hs =>
      split at h
      · obtain ⟨n, rfl⟩ := number_of_readNumber h
        exact .inl (.natural (hs ▸ readNumber_eq_ok_iff.mp h))
      · cases h

/-- **Items that are read** are one, or one and more behind a comma. -/
theorem readItemsWith_succ_eq_ok {fuel room : Nat} {s rest : List Char} {vs : List Json}
    (h : readItemsWith (fuel + 1) room s = .ok (vs, rest)) :
    ∃ v t, readValueWith fuel room s = .ok (v, t) ∧
      ((vs = [v] ∧ skipBlanks t = ']' :: rest) ∨
        ∃ u more, vs = v :: more ∧ skipBlanks t = ',' :: u ∧
          readItemsWith fuel room u = .ok (more, rest)) := by
  rw [readItemsWith] at h
  obtain ⟨⟨v, t⟩, hv, h⟩ := bind_eq_ok_iff.mp h
  refine ⟨v, t, hv, ?_⟩
  simp only at h
  split at h
  · next hend =>
      cases h
      exact .inl ⟨rfl, hend⟩
  · next u hcomma =>
      obtain ⟨⟨more, t'⟩, hmore, h⟩ := bind_eq_ok_iff.mp h
      cases h
      exact .inr ⟨u, more, rfl, hcomma, hmore⟩
  · cases h

/-- **Members that are read** are put after those seen before: one, or one and more behind a
comma. -/
theorem readMembersWith_succ_eq_ok {fuel room : Nat} {s rest : List Char}
    {seen vs : List (String × Json)}
    (h : readMembersWith (fuel + 1) room seen s = .ok (vs, rest)) :
    ∃ t key t₁ t₂ v t₃, skipBlanks s = '"' :: t ∧ BeginsString t key t₁ ∧
      skipBlanks t₁ = ':' :: t₂ ∧ readValueWith fuel room t₂ = .ok (v, t₃) ∧
      ((vs = Entries.put key v seen ∧ skipBlanks t₃ = '\x7d' :: rest) ∨
        ∃ u, skipBlanks t₃ = ',' :: u ∧
          readMembersWith fuel room (Entries.put key v seen) u = .ok (vs, rest)) := by
  rw [readMembersWith] at h
  split at h
  · next t hs =>
      obtain ⟨⟨key, t₁⟩, hkey, h⟩ := bind_eq_ok_iff.mp h
      obtain ⟨t₂, hcolon, h⟩ := bind_eq_ok_iff.mp h
      obtain ⟨⟨v, t₃⟩, hv, h⟩ := bind_eq_ok_iff.mp h
      refine ⟨t, key, t₁, t₂, v, t₃, hs, readString_eq_ok_iff.mp hkey,
        expect_eq_ok_iff.mp hcolon, hv, ?_⟩
      simp only at h
      split at h
      · next hend =>
          cases h
          exact .inl ⟨rfl, hend⟩
      · next u hcomma => exact .inr ⟨u, hcomma, h⟩
      · cases h
  · cases h

/-! ## All steps -/

/-- With this much fuel, the reader reads what was written and keeps it settled. -/
structure ReadsWritten (fuel : Nat) : Prop where
  value : ∀ {room : Nat} {s rest : List Char} {v : Json},
    readValueWith fuel room s = .ok (v, rest) → ∃ w, Begins s w rest ∧ w.settle = v
  items : ∀ {room : Nat} {s rest : List Char} {vs : List Json},
    readItemsWith fuel room s = .ok (vs, rest) →
      ∃ ws, BeginsList Begins ']' s ws rest ∧ ws.map settle = vs
  members : ∀ {room : Nat} {s rest : List Char} {seen vs : List (String × Json)},
    readMembersWith fuel room seen s = .ok (vs, rest) →
      ∃ ws, BeginsList BeginsMember '\x7d' s ws rest ∧
        Entries.putAll seen (ws.map (Prod.map id settle)) = vs

theorem ReadsWritten.value_succ {fuel : Nat} (ih : ReadsWritten fuel) {room : Nat}
    {s rest : List Char} {v : Json} (h : readValueWith (fuel + 1) room s = .ok (v, rest)) :
    ∃ w, Begins s w rest ∧ w.settle = v := by
  rcases readValueWith_succ_eq_ok h with
    hatom | ⟨room', t, vs, -, hs, rfl, hvs⟩ | ⟨room', t, vs, -, hs, rfl, hvs⟩
  · exact BeginsAtom.exists_begins hatom
  · rcases hvs with ⟨rfl, hend⟩ | hvs
    · exact ⟨_, .array hs (.empty hend), rfl⟩
    · obtain ⟨ws, hws, rfl⟩ := ih.items hvs
      exact ⟨_, .array hs (.list (hws.of_skipBlanks Begins.of_skipBlanks)), settle_array ws⟩
  · rcases hvs with ⟨rfl, hend⟩ | hvs
    · exact ⟨_, .object hs (.empty hend), rfl⟩
    · obtain ⟨ws, hws, rfl⟩ := ih.members hvs
      exact ⟨_, .object hs (.list (hws.of_skipBlanks BeginsMember.of_skipBlanks)),
        settle_object ws⟩

theorem ReadsWritten.items_succ {fuel : Nat} (ih : ReadsWritten fuel) {room : Nat}
    {s rest : List Char} {vs : List Json}
    (h : readItemsWith (fuel + 1) room s = .ok (vs, rest)) :
    ∃ ws, BeginsList Begins ']' s ws rest ∧ ws.map settle = vs := by
  obtain ⟨v, t, hv, hend⟩ := readItemsWith_succ_eq_ok h
  obtain ⟨w, hw, rfl⟩ := ih.value hv
  rcases hend with ⟨rfl, hend⟩ | ⟨u, more, rfl, hcomma, hmore⟩
  · exact ⟨[w], .last hw hend, rfl⟩
  · obtain ⟨ws, hws, rfl⟩ := ih.items hmore
    exact ⟨w :: ws, .next hw hcomma hws, rfl⟩

theorem ReadsWritten.members_succ {fuel : Nat} (ih : ReadsWritten fuel) {room : Nat}
    {s rest : List Char} {seen vs : List (String × Json)}
    (h : readMembersWith (fuel + 1) room seen s = .ok (vs, rest)) :
    ∃ ws, BeginsList BeginsMember '\x7d' s ws rest ∧
      Entries.putAll seen (ws.map (Prod.map id settle)) = vs := by
  obtain ⟨t, key, t₁, t₂, v, t₃, hs, hkey, hcolon, hv, hend⟩ := readMembersWith_succ_eq_ok h
  obtain ⟨w, hw, rfl⟩ := ih.value hv
  have hmember : BeginsMember s (key, w) t₃ := .mk hs hkey hcolon hw
  rcases hend with ⟨rfl, hend⟩ | ⟨u, hcomma, hmore⟩
  · exact ⟨[(key, w)], .last hmember hend, rfl⟩
  · obtain ⟨ws, hws, rfl⟩ := ih.members hmore
    exact ⟨(key, w) :: ws, .next hmember hcomma hws, rfl⟩

theorem readsWritten (fuel : Nat) : ReadsWritten fuel := by
  induction fuel with
  | zero =>
      refine ⟨?_, ?_, ?_⟩
      · intro room s rest v h
        rw [readValueWith] at h
        cases h
      · intro room s rest vs h
        rw [readItemsWith] at h
        cases h
      · intro room s rest seen vs h
        rw [readMembersWith] at h
        cases h
  | succ fuel ih => exact ⟨ih.value_succ, ih.items_succ, ih.members_succ⟩

/-- **Nothing is lost** where no key is written twice. -/
theorem settle_eq_self {v : Json} (h : v.HasDistinctKeys) : v.settle = v := by
  induction v using Json.induction with
  | array items ih =>
      rw [hasDistinctKeys_array_iff] at h
      have hitems : items.map settle = items.map id :=
        List.map_congr_left fun v hv => ih v hv (h v hv)
      rw [settle_array, hitems, List.map_id]
  | object members ih =>
      rw [hasDistinctKeys_object_iff] at h
      have hmembers : members.map (Prod.map id settle) = members.map id :=
        List.map_congr_left fun m hm => Prod.ext rfl (ih m hm (h.2 m hm))
      rw [settle_object, hmembers, List.map_id, Entries.settle_eq_self h.1]
  | _ => rfl

/-- **The document that is read was written,** and is what the reader keeps of it. -/
theorem exists_isWritten_of_read {text : String} {v : Json} (h : read text = .ok v) :
    ∃ w, IsWritten text w ∧ w.settle = v := by
  obtain ⟨⟨v', rest⟩, hvalue, h⟩ := bind_eq_ok_iff.mp h
  simp only at h
  split at h
  · next hend =>
      cases h
      obtain ⟨w, hw, rfl⟩ := (readsWritten _).value hvalue
      exact ⟨w, ⟨rest, hw, hend⟩, rfl⟩
  · cases h

end Json

end DocumentSql
