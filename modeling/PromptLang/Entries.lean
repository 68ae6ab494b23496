/-! Association lists that keep the order of first insertion. Writing a key that is present replaces its value in
place; a new key goes to the end. With distinct keys to start from, the keys stay distinct. -/

namespace PromptLang

/-- Named values in insertion order. -/
abbrev Entries (α : Type) := List (String × α)

namespace Entries

variable {α : Type}

def keys (es : Entries α) : List String := es.map Prod.fst

def get? (key : String) : Entries α → Option α
  | [] => none
  | (k, v) :: rest => if k = key then some v else get? key rest

def has (key : String) (es : Entries α) : Bool := (es.get? key).isSome

def insert (key : String) (value : α) : Entries α → Entries α
  | [] => [(key, value)]
  | (k, v) :: rest => if k = key then (k, value) :: rest else (k, v) :: insert key value rest

def insertAll (es new : Entries α) : Entries α :=
  new.foldl (fun acc kv => acc.insert kv.1 kv.2) es

/-- The entries of a list in which a later value replaces an earlier one of its key. -/
def ofList (kvs : List (String × α)) : Entries α := insertAll [] kvs

@[simp] theorem get?_nil (key : String) : get? key ([] : Entries α) = none := rfl

theorem get?_insert_self (key : String) (value : α) (es : Entries α) :
    (es.insert key value).get? key = some value := by
  induction es with
  | nil => simp [insert, get?]
  | cons kv rest ih =>
    obtain ⟨k, v⟩ := kv
    by_cases h : k = key <;> simp [insert, get?, h, ih]

theorem get?_insert_of_ne {key other : String} (h : other ≠ key) (value : α) (es : Entries α) :
    (es.insert key value).get? other = es.get? other := by
  induction es with
  | nil => simp [insert, get?, h.symm]
  | cons kv rest ih =>
    obtain ⟨k, v⟩ := kv
    by_cases hk : k = key
    · subst hk; simp [insert, get?, h.symm]
    · simp [insert, get?, hk, ih]

/-- A present key keeps its place and a new one comes last. -/
theorem keys_insert (key : String) (value : α) (es : Entries α) :
    (es.insert key value).keys = if key ∈ es.keys then es.keys else es.keys ++ [key] := by
  induction es with
  | nil => simp [insert, keys]
  | cons kv rest ih =>
    obtain ⟨k, v⟩ := kv
    by_cases h : k = key
    · simp [insert, keys, h]
    · by_cases hm : key ∈ rest.map Prod.fst <;> simp_all [insert, keys, Ne.symm h]

theorem get?_append (key : String) (before after : Entries α) :
    get? key (before ++ after) = (get? key before).or (get? key after) := by
  induction before with
  | nil => rfl
  | cons kv rest ih =>
    obtain ⟨k, v⟩ := kv
    by_cases h : k = key <;> simp [get?, h, ih]

theorem get?_eq_none {key : String} {es : Entries α} (h : key ∉ es.keys) : es.get? key = none := by
  induction es with
  | nil => rfl
  | cons kv rest ih =>
    obtain ⟨k, v⟩ := kv
    simp only [keys, List.map_cons, List.mem_cons, not_or] at h
    rw [get?, if_neg (Ne.symm h.1), ih h.2]

theorem get?_of_mem {es : Entries α} (distinct : es.keys.Nodup) {kv : String × α} (h : kv ∈ es) :
    es.get? kv.1 = some kv.2 := by
  induction es with
  | nil => cases h
  | cons first rest ih =>
    obtain ⟨k, v⟩ := first
    rw [keys, List.map_cons, List.nodup_cons] at distinct
    rcases List.mem_cons.1 h with rfl | h
    · simp [get?]
    · have hne : k ≠ kv.1 := fun heq => distinct.1 (List.mem_map.2 ⟨kv, h, heq.symm⟩)
      rw [get?, if_neg hne]
      exact ih distinct.2 h

theorem insert_of_notMem {key : String} {es : Entries α} (h : key ∉ es.keys) (value : α) :
    es.insert key value = es ++ [(key, value)] := by
  induction es with
  | nil => rfl
  | cons kv rest ih =>
    obtain ⟨k, v⟩ := kv
    simp only [keys, List.map_cons, List.mem_cons, not_or] at h
    rw [insert, if_neg (Ne.symm h.1), ih h.2]
    rfl

/-- A present key has its place, and writing the key changes the value there and nothing else. -/
theorem split_of_get? {key : String} {es : Entries α} {old : α} (h : es.get? key = some old) :
    ∃ before after, es = before ++ (key, old) :: after ∧
      ∀ value, es.insert key value = before ++ (key, value) :: after := by
  induction es with
  | nil => cases h
  | cons kv rest ih =>
    obtain ⟨k, v⟩ := kv
    by_cases hk : k = key
    · subst hk
      obtain rfl : v = old := by simpa [get?] using h
      exact ⟨[], rest, rfl, fun value => by simp [insert]⟩
    · rw [get?, if_neg hk] at h
      obtain ⟨before, after, hrest, hinsert⟩ := ih h
      refine ⟨(k, v) :: before, after, by rw [hrest]; rfl, fun value => ?_⟩
      rw [insert, if_neg hk, hinsert]
      rfl

theorem mem_of_get? {key : String} {es : Entries α} {value : α} (h : es.get? key = some value) : (key, value) ∈ es := by
  obtain ⟨before, after, rfl, -⟩ := split_of_get? h
  exact List.mem_append_right before List.mem_cons_self

theorem insert_of_get? {key : String} {es : Entries α} {value : α} (h : es.get? key = some value) : es.insert key value = es := by
  obtain ⟨before, after, hes, hinsert⟩ := split_of_get? h
  rw [hinsert value, hes]

theorem notMem_keys_of_get? {key : String} {es : Entries α} (h : es.get? key = none) : key ∉ es.keys := by
  induction es with
  | nil => exact List.not_mem_nil
  | cons kv rest ih =>
    obtain ⟨k, v⟩ := kv
    by_cases hk : k = key
    · simp [get?, hk] at h
    · rw [get?, if_neg hk] at h
      exact fun hmem => (List.mem_cons.1 hmem).elim (fun heq => hk heq.symm) (ih h)

theorem insert_insert (key : String) (first second : α) (es : Entries α) :
    (es.insert key first).insert key second = es.insert key second := by
  induction es with
  | nil => simp [insert]
  | cons kv rest ih =>
    obtain ⟨k, v⟩ := kv
    by_cases hk : k = key <;> simp [insert, hk, ih]

theorem insertAll_of_distinct {es new : Entries α} (h : (es ++ new).keys.Nodup) : es.insertAll new = es ++ new := by
  induction new generalizing es with
  | nil => simp [insertAll]
  | cons kv new ih =>
    have hkey : kv.1 ∉ es.keys := by
      rw [keys, List.map_append, List.nodup_append] at h
      exact fun hmem => h.2.2 kv.1 hmem kv.1 (by simp) rfl
    have hstep : es.insertAll (kv :: new) = (es.insert kv.1 kv.2).insertAll new := rfl
    rw [hstep, insert_of_notMem hkey, ih (by simpa using h), List.append_assoc]
    rfl

theorem ofList_of_distinct {es : Entries α} (h : es.keys.Nodup) : ofList es = es := insertAll_of_distinct h

end Entries

end PromptLang
