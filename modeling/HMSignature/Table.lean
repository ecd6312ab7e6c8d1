/-!
# Tables in order of insertion

A table is a list of entries that is built with `insert`: a new key goes to the end, a key that is there keeps its
place and takes the new value. Records, environments, constraints and the resolver's memory are tables, because the
order of their entries shows in texts and messages.

1. `keys_insert_of_mem`, `keys_insert_of_not_mem`: overwriting keeps the order, a fresh key comes last;
2. `get?_insert`: the last value written under a key is the one that is found;
3. `nodup_keys_ofList`: a table built from any list of entries has distinct keys.
-/

namespace HMSignature

universe u v

/-- Entries in order of first insertion. -/
abbrev Table (κ : Type u) (α : Type v) := List (κ × α)

namespace Table

variable {κ : Type u} {α : Type v} [BEq κ]

/-- The keys, in order. -/
def keys (table : Table κ α) : List κ :=
  table.map (·.1)

/-- The value under a key. -/
def get? : Table κ α → κ → Option α
  | [], _ => none
  | (key, value) :: rest, wanted => if key == wanted then some value else get? rest wanted

/-- Writes a value under a key. -/
def insert : Table κ α → κ → α → Table κ α
  | [], key, value => [(key, value)]
  | (k, v) :: rest, key, value =>
      if k == key then (k, value) :: rest else (k, v) :: insert rest key value

/-- Writes entries one after the other. -/
def insertAll (table : Table κ α) (entries : List (κ × α)) : Table κ α :=
  entries.foldl (fun written entry => written.insert entry.1 entry.2) table

/-- The table of a list of entries: of a repeated key the first place and the last value. -/
def ofList (entries : List (κ × α)) : Table κ α :=
  insertAll [] entries

/-- Removes a key. -/
def erase (table : Table κ α) (key : κ) : Table κ α :=
  table.filter fun entry => !(entry.1 == key)

/-- Appends a value to the list under a key. -/
def push (table : Table κ (List α)) (key : κ) (value : α) : Table κ (List α) :=
  table.insert key ((table.get? key).getD [] ++ [value])

/-! ## Lookup and order after a write -/

section Lawful

variable [LawfulBEq κ]

theorem get?_insert (table : Table κ α) (key wanted : κ) (value : α) :
    (table.insert key value).get? wanted =
      if key == wanted then some value else table.get? wanted := by
  induction table with
  | nil => simp [insert, get?]
  | cons entry rest ih =>
      obtain ⟨k, v⟩ := entry
      by_cases same : k = key
      · subst same
        by_cases hit : k = wanted <;> simp [insert, get?, hit]
      · by_cases hit : k = wanted
        · subst hit
          simp [insert, get?, same, Ne.symm same]
        · simp [insert, get?, same, hit, ih]

theorem keys_insert_of_mem {table : Table κ α} {key : κ} (value : α) (present : key ∈ table.keys) :
    (table.insert key value).keys = table.keys := by
  induction table with
  | nil => simp [keys] at present
  | cons entry rest ih =>
      obtain ⟨k, v⟩ := entry
      by_cases same : k = key
      · simp [insert, keys, same]
      · have later : key ∈ keys rest := by
          simp only [keys, List.map_cons, List.mem_cons] at present
          exact present.resolve_left (Ne.symm same)
        have kept := ih later
        simp only [keys] at kept
        simp [insert, keys, same, kept]

theorem keys_insert_of_not_mem {table : Table κ α} {key : κ} (value : α)
    (fresh : key ∉ table.keys) :
    (table.insert key value).keys = table.keys ++ [key] := by
  induction table with
  | nil => simp [insert, keys]
  | cons entry rest ih =>
      obtain ⟨k, v⟩ := entry
      simp only [keys, List.map_cons, List.mem_cons, not_or] at fresh
      have appended := ih fresh.2
      simp only [keys] at appended
      simp [insert, keys, Ne.symm fresh.1, appended]

theorem nodup_keys_insert {table : Table κ α} (distinct : table.keys.Nodup) (key : κ) (value : α) :
    (table.insert key value).keys.Nodup := by
  by_cases present : key ∈ table.keys
  · rw [keys_insert_of_mem value present]
    exact distinct
  · rw [keys_insert_of_not_mem value present, List.nodup_append]
    refine ⟨distinct, by simp, ?_⟩
    intro known knownMember other otherMember
    rw [List.mem_singleton] at otherMember
    rintro rfl
    exact present (otherMember ▸ knownMember)

theorem nodup_keys_insertAll (entries : List (κ × α)) {table : Table κ α}
    (distinct : table.keys.Nodup) : (table.insertAll entries).keys.Nodup := by
  induction entries generalizing table with
  | nil => exact distinct
  | cons entry rest ih => exact ih (nodup_keys_insert distinct entry.1 entry.2)

theorem nodup_keys_ofList (entries : List (κ × α)) : (ofList entries).keys.Nodup :=
  nodup_keys_insertAll entries (by simp [keys])

end Lawful

end Table

end HMSignature
