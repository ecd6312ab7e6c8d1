import HMSignature.Table
import Mathlib.Data.List.Induction
/-!
# What a table holds

Results:
1. `mem_of_get?`: a value that is found is in the table, under its key;
2. `mem_of_mem_ofList`: every entry of a table is in the list that it is built from;
3. `map_ofList`: changing the values and building the table can be done in either order;
4. `ofList_of_nodup`: a list with distinct keys is its own table;
5. `pairwise_mergeSort`: entries in the order of their keys;
6. `keys_insert_eraseDups`, `keys_remember_eraseDups`, `keys_insertAll_eraseDups`: keys are in the order in which they
   are written first;
7. `eq_map_keys`, `eq_of_get?`: a table is told by its keys and by what is found under them;
8. `ofList_append`: the table of two lists is the one of the first list, updated by the one of the second.
-/

namespace HMSignature.Table

variable {α κ : Type} [BEq κ] [LawfulBEq κ]

theorem mem_of_get? {table : Table String α} {key : String} {value : α}
    (h : table.get? key = some value) : (key, value) ∈ table := by
  induction table with
  | nil => cases h
  | cons entry rest ih =>
    obtain ⟨k, v⟩ := entry
    rw [Table.get?] at h
    split at h
    · rename_i same
      cases h
      cases beq_iff_eq.mp same
      exact List.mem_cons_self
    · exact List.mem_cons_of_mem _ (ih h)

/-- An entry after a write was there before or is the new one. -/
theorem mem_of_mem_insert {table : Table String α} {key : String} {value : α} {entry : String × α}
    (h : entry ∈ table.insert key value) : entry = (key, value) ∨ entry ∈ table := by
  induction table with
  | nil => exact .inl (List.mem_singleton.mp h)
  | cons first rest ih =>
    obtain ⟨k, v⟩ := first
    rw [Table.insert] at h
    split at h
    · rename_i same
      rcases List.mem_cons.mp h with rfl | inRest
      · exact .inl (by rw [beq_iff_eq.mp same])
      · exact .inr (List.mem_cons_of_mem _ inRest)
    · rcases List.mem_cons.mp h with rfl | inRest
      · exact .inr List.mem_cons_self
      · exact (ih inRest).imp_right (List.mem_cons_of_mem _)

theorem mem_of_mem_insertAll {table : Table String α} {entries : List (String × α)} {entry : String × α}
    (h : entry ∈ table.insertAll entries) : entry ∈ table ∨ entry ∈ entries := by
  induction entries generalizing table with
  | nil => exact .inl h
  | cons first rest ih =>
    rcases ih h with written | inRest
    · rcases mem_of_mem_insert written with rfl | known
      · exact .inr List.mem_cons_self
      · exact .inl known
    · exact .inr (List.mem_cons_of_mem _ inRest)

/-- Every entry of a table is in the list that it is built from. -/
theorem mem_of_mem_ofList {entries : List (String × α)} {entry : String × α} (h : entry ∈ Table.ofList entries) :
    entry ∈ entries := by
  rcases mem_of_mem_insertAll h with inEmpty | written
  · cases inEmpty
  · exact written

/-- Changing all values commutes with writing them. -/
theorem map_insert {β : Type} (f : α → β) (table : Table String α) (key : String) (value : α) :
    (table.insert key value).map (fun entry => (entry.1, f entry.2)) =
      Table.insert (table.map fun entry => (entry.1, f entry.2)) key (f value) := by
  induction table with
  | nil => rfl
  | cons first rest ih =>
    obtain ⟨k, v⟩ := first
    simp only [Table.insert, List.map_cons]
    split
    · rfl
    · rw [List.map_cons, ih]

theorem map_ofList {β : Type} (f : α → β) (entries : List (String × α)) :
    (Table.ofList entries).map (fun entry => (entry.1, f entry.2)) =
      Table.ofList (entries.map fun entry => (entry.1, f entry.2)) := by
  suffices general : ∀ table : Table String α,
      (table.insertAll entries).map (fun entry => (entry.1, f entry.2)) =
        Table.insertAll (table.map fun entry => (entry.1, f entry.2))
          (entries.map fun entry => (entry.1, f entry.2)) from general []
  induction entries with
  | nil => exact fun table => rfl
  | cons first rest ih =>
    intro table
    simp only [Table.insertAll, List.foldl_cons, List.map_cons] at ih ⊢
    rw [ih, Table.map_insert]

theorem get?_of_mem {table : Table κ α} (distinct : table.keys.Nodup) {key : κ} {value : α}
    (member : (key, value) ∈ table) : table.get? key = some value := by
  induction table with
  | nil => cases member
  | cons first rest ih =>
    obtain ⟨k, v⟩ := first
    rw [keys, List.map_cons, List.nodup_cons] at distinct
    rw [get?]
    rcases List.mem_cons.mp member with same | inRest
    · cases same
      rw [if_pos (beq_self_eq_true key)]
    · have differ : k ≠ key := by
        rintro rfl
        exact distinct.1 (List.mem_map.mpr ⟨_, inRest, rfl⟩)
      rw [if_neg (by simpa using differ)]
      exact ih distinct.2 inRest

theorem insert_of_not_mem {table : Table κ α} {key : κ} (fresh : key ∉ table.keys) (value : α) :
    table.insert key value = table ++ [(key, value)] := by
  induction table with
  | nil => rfl
  | cons first rest ih =>
    obtain ⟨k, v⟩ := first
    rw [keys, List.map_cons, List.mem_cons, not_or] at fresh
    rw [insert, if_neg (by simpa using Ne.symm fresh.1), ih fresh.2, List.cons_append]

theorem insertAll_of_nodup {table entries : Table String α} (distinct : (table ++ entries).keys.Nodup) :
    table.insertAll entries = table ++ entries := by
  induction entries generalizing table with
  | nil => exact (List.append_nil table).symm
  | cons first rest ih =>
    obtain ⟨key, value⟩ := first
    have whole : table ++ (key, value) :: rest = (table ++ [(key, value)]) ++ rest := by simp
    have fresh : key ∉ table.keys := by
      rw [keys, List.map_append, List.nodup_append] at distinct
      exact fun known => distinct.2.2 key known key List.mem_cons_self rfl
    show (table.insert key value).insertAll rest = _
    rw [insert_of_not_mem fresh, whole]
    exact ih (whole ▸ distinct)

/-- The entries of a table can be put in the order of their keys. -/
theorem pairwise_mergeSort (table : Table String α) :
    (table.mergeSort fun a b => a.1 ≤ b.1).Pairwise fun a b => a.1 ≤ b.1 := by
  have trans (a b c : String × α) : decide (a.1 ≤ b.1) = true → decide (b.1 ≤ c.1) = true →
      decide (a.1 ≤ c.1) = true := by simpa using String.le_trans
  have total (a b : String × α) : (decide (a.1 ≤ b.1) || decide (b.1 ≤ a.1)) = true := by
    simpa using String.le_total a.1 b.1
  simpa using List.pairwise_mergeSort trans total table

/-- A list with distinct keys is its own table. -/
theorem ofList_of_nodup {entries : Table String α} (distinct : entries.keys.Nodup) : ofList entries = entries :=
  insertAll_of_nodup distinct

/-! ## Keys in the order in which they come first -/

theorem eraseDups_concat_of_mem {seen : List κ} {a : κ} (known : a ∈ seen) :
    (seen ++ [a]).eraseDups = seen.eraseDups := by
  rw [List.eraseDups_append]
  simp [List.removeAll, known]

theorem eraseDups_concat_of_not_mem {seen : List κ} {a : κ} (new : a ∉ seen) :
    (seen ++ [a]).eraseDups = seen.eraseDups ++ [a] := by
  rw [List.eraseDups_append]
  simp [List.removeAll, new, List.eraseDups_cons]

/-- A key is written behind those that were written before, if it is new. -/
theorem keys_insert_eraseDups {table : Table κ α} {seen : List κ} (keys : table.keys = seen.eraseDups) (key : κ)
    (value : α) : (table.insert key value).keys = (seen ++ [key]).eraseDups := by
  by_cases known : key ∈ seen
  · have present : key ∈ table.keys := by rwa [keys, List.mem_eraseDups]
    rw [keys_insert_of_mem value present, keys, eraseDups_concat_of_mem known]
  · have fresh : key ∉ table.keys := by rwa [keys, List.mem_eraseDups]
    rw [keys_insert_of_not_mem value fresh, keys, eraseDups_concat_of_not_mem known]

/-- Writes a value under a key that is not there yet. -/
def remember (table : Table κ α) (key : κ) (value : α) : Table κ α :=
  match table.get? key with
  | some _ => table
  | none => table.insert key value

theorem mem_keys_iff {table : Table κ α} {key : κ} : key ∈ table.keys ↔ ∃ value, table.get? key = some value := by
  induction table with
  | nil => simp [keys, get?]
  | cons entry rest ih =>
    obtain ⟨k, v⟩ := entry
    rw [keys, List.map_cons, List.mem_cons, get?]
    by_cases same : k = key
    · simp [same]
    · rw [if_neg (by simpa using same), ← ih]
      exact or_iff_right (Ne.symm same)

theorem keys_remember_eraseDups {table : Table κ α} {seen : List κ} (keys : table.keys = seen.eraseDups) (key : κ)
    (value : α) : (table.remember key value).keys = (seen ++ [key]).eraseDups := by
  unfold remember
  cases found : table.get? key with
  | some known =>
    have present : key ∈ seen := by
      rw [← List.mem_eraseDups, ← keys]
      exact mem_keys_iff.mpr ⟨known, found⟩
    rw [eraseDups_concat_of_mem present]
    exact keys
  | none => exact keys_insert_eraseDups keys key value

/-- Nothing that was there is changed. -/
theorem prefix_remember (table : Table κ α) (key : κ) (value : α) : table <+: table.remember key value := by
  unfold remember
  cases found : table.get? key with
  | some known => exact List.prefix_refl _
  | none =>
    have fresh : key ∉ table.keys := by
      rw [mem_keys_iff, found]
      exact nofun
    rw [insert_of_not_mem fresh]
    exact List.prefix_append _ _

theorem keys_insertAll_eraseDups {table : Table κ α} {seen : List κ} (keys : table.keys = seen.eraseDups)
    (entries : List (κ × α)) : (table.insertAll entries).keys = (seen ++ entries.map (·.1)).eraseDups := by
  induction entries generalizing table seen with
  | nil => rw [List.map_nil, List.append_nil, ← keys, insertAll, List.foldl_nil]
  | cons entry rest ih =>
    rw [List.map_cons, List.append_cons]
    exact ih (keys_insert_eraseDups keys entry.1 entry.2)

/-- The keys of a table are those of the list that it is built from, each in the place where it comes first. -/
theorem keys_ofList (entries : List (κ × α)) : (ofList entries).keys = (entries.map (·.1)).eraseDups := by
  have none : keys ([] : Table κ α) = ([] : List κ).eraseDups := rfl
  rw [ofList, keys_insertAll_eraseDups none, List.nil_append]

/-- The distinct elements of a list are the keys of a table, and those are distinct. -/
theorem nodup_eraseDups (l : List κ) : l.eraseDups.Nodup := by
  have keys : (ofList (l.map fun a => (a, ()))).keys = l.eraseDups := by
    rw [keys_ofList, List.map_map]
    exact congrArg _ (List.map_id l)
  rw [← keys]
  exact nodup_keys_ofList _

theorem eraseDups_eraseDups (l : List κ) : l.eraseDups.eraseDups = l.eraseDups := by
  induction l using List.reverseRecOn with
  | nil => rfl
  | append_singleton l a ih =>
    by_cases known : a ∈ l
    · rw [eraseDups_concat_of_mem known, ih]
    · have new : a ∉ l.eraseDups := by rwa [List.mem_eraseDups]
      rw [eraseDups_concat_of_not_mem known, eraseDups_concat_of_not_mem new, ih]

/-- The distinct elements of two lists can be told from those of each. -/
theorem eraseDups_append_eraseDups (l l' : List κ) : (l.eraseDups ++ l'.eraseDups).eraseDups = (l ++ l').eraseDups := by
  induction l' using List.reverseRecOn with
  | nil => rw [List.eraseDups_nil, List.append_nil, List.append_nil, eraseDups_eraseDups]
  | append_singleton l' a ih =>
    by_cases known : a ∈ l'
    · have before : a ∈ l ++ l' := List.mem_append_right l known
      rw [eraseDups_concat_of_mem known, ih, ← List.append_assoc, eraseDups_concat_of_mem before]
    · rw [eraseDups_concat_of_not_mem known, ← List.append_assoc, ← List.append_assoc]
      by_cases before : a ∈ l
      · have left : a ∈ l.eraseDups ++ l'.eraseDups := List.mem_append_left _ (List.mem_eraseDups.mpr before)
        rw [eraseDups_concat_of_mem left, eraseDups_concat_of_mem (List.mem_append_left _ before), ih]
      · have new : a ∉ l ++ l' := by simp [before, known]
        have new' : a ∉ l.eraseDups ++ l'.eraseDups := by simpa using new
        rw [eraseDups_concat_of_not_mem new, eraseDups_concat_of_not_mem new', ih]

/-- A table is told by its keys and by what is found under them. -/
theorem eq_map_keys {table : Table κ α} (distinct : table.keys.Nodup) (otherwise : α) :
    table = table.keys.map fun key => (key, (table.get? key).getD otherwise) := by
  induction table with
  | nil => rfl
  | cons entry rest ih =>
    obtain ⟨k, v⟩ := entry
    rw [keys, List.map_cons, List.nodup_cons] at distinct
    have later : ∀ key ∈ keys rest, (get? ((k, v) :: rest) key).getD otherwise = (get? rest key).getD otherwise := by
      intro key member
      have differ : k ≠ key := by
        rintro rfl
        exact distinct.1 member
      rw [get?, if_neg (by simpa using differ)]
    have whole : rest = (keys rest).map fun key => (key, (get? ((k, v) :: rest) key).getD otherwise) := by
      rw [List.map_congr_left fun key member => by rw [later key member]]
      exact ih distinct.2
    rw [keys, List.map_cons, List.map_cons, get?, if_pos (beq_self_eq_true k)]
    exact congrArg _ whole

/-- Two tables with the same keys in the same order, and with the same under each, are one. -/
theorem eq_of_get? {table table' : Table κ α} (distinct : table.keys.Nodup) (keys : table.keys = table'.keys)
    (values : ∀ key, table.get? key = table'.get? key) : table = table' := by
  by_cases empty : table = []
  · subst empty
    exact (List.map_eq_nil_iff.mp keys.symm).symm
  · obtain ⟨entry, -⟩ := List.exists_mem_of_ne_nil table empty
    calc table = table.keys.map fun key => (key, (table.get? key).getD entry.2) := eq_map_keys distinct entry.2
      _ = table'.keys.map fun key => (key, (table'.get? key).getD entry.2) := by simp only [keys, values]
      _ = table' := (eq_map_keys (keys ▸ distinct) entry.2).symm

/-! ## Two lists of entries -/

omit [LawfulBEq κ] in
theorem insertAll_concat (table : Table κ α) (entries : List (κ × α)) (entry : κ × α) :
    table.insertAll (entries ++ [entry]) = (table.insertAll entries).insert entry.1 entry.2 :=
  List.foldl_append

/-- Under each key is what the entries write there last, and else what was there before. -/
theorem get?_insertAll (table : Table κ α) (entries : List (κ × α)) (key : κ) :
    (table.insertAll entries).get? key = ((ofList entries).get? key).or (table.get? key) := by
  induction entries using List.reverseRecOn with
  | nil => rfl
  | append_singleton entries entry ih =>
    rw [ofList, insertAll_concat, insertAll_concat, get?_insert, get?_insert, ih, ofList]
    split <;> rfl

theorem ofList_append (entries more : Table String α) :
    ofList (entries ++ more) = (ofList entries).insertAll (ofList more) := by
  have inOrder : ofList (entries ++ more) = (ofList entries).insertAll more := List.foldl_append
  refine eq_of_get? (nodup_keys_ofList _) ?keys fun key => ?values
  case keys =>
    have first : (ofList entries).keys = (entries.map (·.1)).eraseDups.eraseDups := by
      rw [keys_ofList, eraseDups_eraseDups]
    have second : (ofList more).map (·.1) = (more.map (·.1)).eraseDups := keys_ofList more
    rw [keys_insertAll_eraseDups first, second, keys_ofList, List.map_append, eraseDups_append_eraseDups]
  case values => rw [inOrder, get?_insertAll, get?_insertAll, ofList_of_nodup (nodup_keys_ofList more)]

end HMSignature.Table
