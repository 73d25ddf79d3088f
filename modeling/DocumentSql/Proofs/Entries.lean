import DocumentSql.Entries

/-!
# Entries of which the last counts

Of several entries with the same key the last one counts, and it stands where the key came first.
That is what is left of a list of entries when they are put into an empty list one after the
other.

* `Entries.mem_settle_iff`: the entries that count.
* `Entries.isLast_concat_iff`: what one more entry changes.
* `Entries.keys_put_eq_eraseDups`: the order of the keys.
-/

set_option autoImplicit false

namespace DocumentSql.Entries

variable {α : Type}

/-- The value stands under the key. -/
def IsMember (entries : List (String × α)) (key : String) (value : α) : Prop :=
  (key, value) ∈ entries

/-- The value stands under the key, and no entry after it has this key. -/
def IsLast (entries : List (String × α)) (key : String) (value : α) : Prop :=
  ∃ before after, entries = before ++ (key, value) :: after ∧ key ∉ keys after

/-- The entries put into a list one after the other. -/
def putAll (kept entries : List (String × α)) : List (String × α) :=
  entries.foldl (fun kept entry => put entry.1 entry.2 kept) kept

/-- The last entry of each key, in the order in which the keys first come. -/
def settle (entries : List (String × α)) : List (String × α) := putAll [] entries

theorem isLast_cons_iff {entries : List (String × α)} {k key : String} {v value : α} :
    IsLast ((k, v) :: entries) key value ↔
      IsLast entries key value ∨ (k = key ∧ v = value ∧ key ∉ keys entries) := by
  constructor
  · rintro ⟨before, after, h, hafter⟩
    cases before with
    | nil =>
        cases h
        exact .inr ⟨rfl, rfl, hafter⟩
    | cons entry before =>
        rw [List.cons_append, List.cons.injEq] at h
        exact .inl ⟨before, after, h.2, hafter⟩
  · rintro (⟨before, after, rfl, hafter⟩ | ⟨rfl, rfl, hafter⟩)
    · exact ⟨(k, v) :: before, after, rfl, hafter⟩
    · exact ⟨[], entries, rfl, hafter⟩

theorem keys_map {β : Type} (f : α → β) (entries : List (String × α)) :
    keys (entries.map (Prod.map id f)) = keys entries := by
  simp [keys]

theorem isLast_map_iff {β : Type} {f : α → β} {entries : List (String × α)} {key : String}
    {b : β} :
    IsLast (entries.map (Prod.map id f)) key b ↔ ∃ a, IsLast entries key a ∧ f a = b := by
  constructor
  · rintro ⟨before, after, h, hafter⟩
    obtain ⟨before, rest, rfl, rfl, hrest⟩ := List.map_eq_append_iff.mp h
    obtain ⟨⟨k, a⟩, after, rfl, heq, rfl⟩ := List.map_eq_cons_iff.mp hrest
    cases heq
    rw [keys_map] at hafter
    exact ⟨a, ⟨before, after, rfl, hafter⟩, rfl⟩
  · rintro ⟨a, ⟨before, after, rfl, hafter⟩, rfl⟩
    exact ⟨before.map (Prod.map id f), after.map (Prod.map id f), by simp, by rwa [keys_map]⟩

theorem eq_or_mem_of_mem_put {entries : List (String × α)} {key : String} {value : α}
    {entry : String × α} (h : entry ∈ put key value entries) :
    entry = (key, value) ∨ entry ∈ entries := by
  induction entries with
  | nil => exact .inl (List.mem_singleton.mp h)
  | cons first rest ih =>
      obtain ⟨k, v⟩ := first
      by_cases hk : k = key
      · rw [put, if_pos hk, hk, List.mem_cons] at h
        exact h.imp_right (List.mem_cons_of_mem _)
      · rw [put, if_neg hk, List.mem_cons] at h
        rcases h with rfl | h
        · exact .inr List.mem_cons_self
        · exact (ih h).imp_right (List.mem_cons_of_mem _)

theorem nodup_keys_put {entries : List (String × α)} (h : (keys entries).Nodup) (key : String)
    (value : α) : (keys (put key value entries)).Nodup := by
  rw [keys_put]
  split
  · exact h
  · next hkey =>
      refine List.nodup_append.mpr ⟨h, by simp, ?_⟩
      rintro k hk _ hkey' rfl
      rw [List.mem_singleton.mp hkey'] at hk
      exact hkey hk

/-- The entry that was put counts, and those of other keys do. -/
theorem mem_put_iff {entries : List (String × α)} (h : (keys entries).Nodup) {k key : String}
    {v value : α} :
    (key, value) ∈ put k v entries ↔
      (k = key ∧ v = value) ∨ (k ≠ key ∧ (key, value) ∈ entries) := by
  induction entries with
  | nil => simp [put, eq_comm]
  | cons entry rest ih =>
      obtain ⟨k', v'⟩ := entry
      rw [keys, List.map_cons, List.nodup_cons] at h
      by_cases hk : k' = k
      · -- the entry of the key is replaced, and no other has this key
        have hrest : (key, value) ∈ rest → k ≠ key := by
          rintro hmem rfl
          subst hk
          exact h.1 (List.mem_map.mpr ⟨_, hmem, rfl⟩)
        rw [put, if_pos hk]
        grind
      · rw [put, if_neg hk, List.mem_cons, ih h.2]
        grind

theorem mem_putAll_iff {kept entries : List (String × α)} (h : (keys kept).Nodup) {key : String}
    {value : α} :
    (key, value) ∈ putAll kept entries ↔
      IsLast entries key value ∨ ((key, value) ∈ kept ∧ key ∉ keys entries) := by
  induction entries generalizing kept with
  | nil => simp [putAll, IsLast, keys]
  | cons entry entries ih =>
      obtain ⟨k, v⟩ := entry
      show (key, value) ∈ putAll (put k v kept) entries ↔ _
      rw [ih (nodup_keys_put h k v), mem_put_iff h, isLast_cons_iff]
      simp [keys]
      grind

/-- **The entries that count** are the last ones of their keys. -/
theorem mem_settle_iff {entries : List (String × α)} {key : String} {value : α} :
    (key, value) ∈ settle entries ↔ IsLast entries key value := by
  rw [settle, mem_putAll_iff (by simp [keys])]
  simp

/-- An entry with a new key comes behind the others. -/
theorem put_of_notMem {entries : List (String × α)} {key : String} (h : key ∉ keys entries)
    (value : α) : put key value entries = entries ++ [(key, value)] := by
  induction entries with
  | nil => rfl
  | cons entry rest ih =>
      obtain ⟨k, v⟩ := entry
      rw [keys, List.map_cons, List.mem_cons, not_or] at h
      rw [put, if_neg (Ne.symm h.1), ih h.2, List.cons_append]

/-- Entries with new keys come behind the others, one after the other. -/
theorem putAll_eq_append {kept entries : List (String × α)}
    (h : (keys (kept ++ entries)).Nodup) : putAll kept entries = kept ++ entries := by
  -- by induction on what is still to be put; each entry joins those that are kept
  induction entries generalizing kept with
  | nil => simp [putAll]
  | cons entry entries ih =>
      have hkey : entry.1 ∉ keys kept := by
        intro hmem
        rw [keys, List.map_append, List.map_cons] at h
        exact (List.nodup_append.mp h).2.2 _ hmem _ List.mem_cons_self rfl
      have happend : kept ++ entry :: entries = (kept ++ [entry]) ++ entries := by simp
      show putAll (put entry.1 entry.2 kept) entries = _
      rw [put_of_notMem hkey, happend]
      exact ih (happend ▸ h)

/-- Entries without repeated keys are kept as they are. -/
theorem settle_eq_self {entries : List (String × α)} (h : (keys entries).Nodup) :
    settle entries = entries := by
  rw [settle, putAll_eq_append (by simpa using h), List.nil_append]

theorem put_map {β : Type} (f : String → α → β) (key : String) (value : α)
    (entries : List (String × α)) :
    (put key value entries).map (fun entry => (entry.1, f entry.1 entry.2)) =
      put key (f key value) (entries.map fun entry => (entry.1, f entry.1 entry.2)) := by
  induction entries with
  | nil => rfl
  | cons entry rest ih =>
      obtain ⟨k, v⟩ := entry
      by_cases hk : k = key
      · simp [put, hk]
      · simp [put, hk, ih]

theorem putAll_map {β : Type} (f : String → α → β) (kept entries : List (String × α)) :
    putAll (kept.map fun entry => (entry.1, f entry.1 entry.2))
        (entries.map fun entry => (entry.1, f entry.1 entry.2)) =
      (putAll kept entries).map fun entry => (entry.1, f entry.1 entry.2) := by
  induction entries generalizing kept with
  | nil => rfl
  | cons entry entries ih =>
      show putAll (put entry.1 (f entry.1 entry.2) _) _ = _
      rw [← put_map]
      exact ih _

/-- What is made of each entry is made of those that count. -/
theorem settle_map {β : Type} (f : String → α → β) (entries : List (String × α)) :
    settle (entries.map fun entry => (entry.1, f entry.1 entry.2)) =
      (settle entries).map fun entry => (entry.1, f entry.1 entry.2) :=
  putAll_map f [] entries

/-- One entry more counts for its own key and for no other. -/
theorem isLast_concat_iff {entries : List (String × α)} {k key : String} {v value : α} :
    IsLast (entries ++ [(k, v)]) key value ↔
      (k = key ∧ v = value) ∨ (k ≠ key ∧ IsLast entries key value) := by
  induction entries with
  | nil =>
      rw [List.nil_append, isLast_cons_iff]
      simp [IsLast, keys]
  | cons entry entries ih =>
      rw [List.cons_append, isLast_cons_iff, isLast_cons_iff, ih]
      simp [keys]
      grind

/-! ## Looking keys up -/

theorem get?_eq_none_iff {entries : List (String × α)} {key : String} :
    get? key entries = none ↔ key ∉ keys entries := by
  induction entries with
  | nil => simp [get?, keys]
  | cons entry rest ih =>
      obtain ⟨k, v⟩ := entry
      by_cases hk : k = key
      · simp [get?, keys, hk]
      · rw [get?, if_neg hk, ih]
        simp [keys, Ne.symm hk]

/-- Where no key is twice, each value is found under its key. -/
theorem get?_eq_some_iff {entries : List (String × α)} (h : (keys entries).Nodup) {key : String}
    {value : α} : get? key entries = some value ↔ (key, value) ∈ entries := by
  refine ⟨mem_of_get?, fun hmem => ?_⟩
  induction entries with
  | nil => cases hmem
  | cons entry rest ih =>
      obtain ⟨k, v⟩ := entry
      rw [keys, List.map_cons, List.nodup_cons] at h
      rw [List.mem_cons, Prod.mk.injEq] at hmem
      rcases hmem with ⟨rfl, rfl⟩ | hmem
      · rw [get?, if_pos rfl]
      · have hne : k ≠ key := by
          rintro rfl
          exact h.1 (List.mem_map.mpr ⟨_, hmem, rfl⟩)
        rw [get?, if_neg hne]
        exact ih h.2 hmem

/-- The keys stay those of a list in the order in which they first come. -/
theorem keys_put_eq_eraseDups {entries : List (String × α)} {written : List String}
    (h : keys entries = written.eraseDups) (key : String) (value : α) :
    keys (put key value entries) = (written ++ [key]).eraseDups := by
  rw [keys_put, List.eraseDups_append, h]
  by_cases hkey : key ∈ written
  · rw [if_pos (List.mem_eraseDups.mpr hkey)]
    simp [List.removeAll, hkey]
  · rw [if_neg fun hmem => hkey (List.mem_eraseDups.mp hmem)]
    simp [List.removeAll, hkey, List.eraseDups_cons]

end DocumentSql.Entries
