import HMSignature.Descriptor.Fingerprint
import HMSignature.Proofs.Descriptor.Equality
import Mathlib.Data.List.Nodup
import Mathlib.Data.List.Perm.Subperm
import Mathlib.Data.String.Basic
/-!
# Equal types are those with equal fingerprints

A fingerprint says everything about a type that its equality looks at, and nothing else: identities of constructors,
names and arities of variables, and the fields of a record in the order of their names. So two types are equal exactly
if their fingerprints are the same.

Results:
1. `mergeSort_eq_iff`: lists of fields are put in the same order exactly if they have the same entries;
2. `Ty.same_iff_fingerprint_eq`: types are equal exactly if their fingerprints are the same.
-/

namespace HMSignature

/-! ## Entries in the order of their keys -/

namespace Table

variable {α : Type}

/-- Two entries of a table with one key are the same. -/
theorem eq_of_mem_of_key_eq {table : Table String α} (distinct : table.keys.Nodup) {entry entry' : String × α}
    (member : entry ∈ table) (member' : entry' ∈ table) (sameKey : entry.1 = entry'.1) : entry = entry' := by
  obtain ⟨key, value⟩ := entry
  obtain ⟨key', value'⟩ := entry'
  cases sameKey
  have found := get?_of_mem distinct member
  rw [get?_of_mem distinct member'] at found
  cases found
  rfl

/-- Tables are put in the same order of keys exactly if they are as long as each other and one is in the other. -/
theorem mergeSort_eq_iff {table table' : Table String α} (distinct : table.keys.Nodup) :
    table.mergeSort (fun a b => a.1 ≤ b.1) = table'.mergeSort (fun a b => a.1 ≤ b.1) ↔
      table.length = table'.length ∧ table ⊆ table' := by
  constructor
  · intro same
    have perm : table.Perm table' :=
      (table.mergeSort_perm _).symm.trans (same ▸ table'.mergeSort_perm _)
    exact ⟨perm.length_eq, perm.subset⟩
  · rintro ⟨sameLength, inside⟩
    have perm : table.Perm table' :=
      (List.subperm_of_subset (List.Nodup.of_map _ distinct) inside).perm_of_length_le (Nat.le_of_eq sameLength.symm)
    refine List.Perm.eq_of_pairwise ?_ table.pairwise_mergeSort table'.pairwise_mergeSort ?_
    · intro entry entry' member member' le ge
      rw [List.mem_mergeSort] at member member'
      exact eq_of_mem_of_key_eq distinct member (perm.mem_iff.mpr member') (le_antisymm le ge)
    · exact (table.mergeSort_perm _).trans (perm.trans (table'.mergeSort_perm _).symm)

end Table

/-! ## Operators -/

theorem Operator.same_iff_fingerprint_eq (op op' : Operator) :
    op.same op' = true ↔ op.fingerprint = op'.fingerprint := by
  cases op <;> cases op' <;> simp [same, fingerprint]

namespace Ty

/-- Only an operator without parameters has the fingerprint of an operator. -/
theorem fingerprint_eq_operator_iff {t : Ty} {op : Operator} :
    t.fingerprint = op.fingerprint ↔ ∃ own : Operator, t = .operation own [] ∧ own.same op = true := by
  match t with
  | operation own [] =>
    rw [fingerprint, ← Operator.same_iff_fingerprint_eq]
    constructor
    · intro same
      exact ⟨own, rfl, same⟩
    · rintro ⟨own', whole, same⟩
      cases whole
      exact same
  | operation own (_ :: _) => cases op <;> simp [fingerprint, Operator.fingerprint]
  | var name => cases op <;> simp [fingerprint, Operator.fingerprint]
  | record fields => cases op <;> simp [fingerprint, Operator.fingerprint]

/-- Only an operator without parameters equals one. -/
theorem same_bare_iff {op : Operator} {t : Ty} :
    (operation op []).same t = true ↔ ∃ own : Operator, t = .operation own [] ∧ own.same op = true := by
  match t with
  | operation own [] => simp [same, sameAll, op.same_comm own]
  | operation _ (_ :: _) => simp [same, sameAll]
  | var _ => simp [same]
  | record _ => simp [same]

/-! ## Types -/

theorem fieldFingerprints_eq (fields : List (String × Ty)) :
    fieldFingerprints fields = fields.map fun field => (field.1, field.2.fingerprint) := by
  induction fields with
  | nil => rfl
  | cons field rest ih => rw [fieldFingerprints, ih, List.map_cons]

theorem keys_fieldFingerprints (fields : List (String × Ty)) :
    Table.keys (fieldFingerprints fields) = Table.keys fields := by
  rw [fieldFingerprints_eq, Table.keys, Table.keys, List.map_map]
  rfl

theorem length_fieldFingerprints (fields : List (String × Ty)) : (fieldFingerprints fields).length = fields.length := by
  rw [fieldFingerprints_eq, List.length_map]

theorem mem_fieldFingerprints {fields : List (String × Ty)} {name : String} {f : Fingerprint} :
    (name, f) ∈ fieldFingerprints fields ↔ ∃ t, (name, t) ∈ fields ∧ t.fingerprint = f := by
  rw [fieldFingerprints_eq, List.mem_map]
  constructor
  · rintro ⟨⟨_, t⟩, member, same⟩
    cases same
    exact ⟨t, member, rfl⟩
  · rintro ⟨t, member, rfl⟩
    exact ⟨(name, t), member, rfl⟩

/-- Records have the same fingerprint exactly if they have as many fields and each of the first is one of the second. -/
theorem fingerprint_record_eq_iff {fields fields' : List (String × Ty)} (distinct : (Table.keys fields).Nodup) :
    (record fields).fingerprint = (record fields').fingerprint ↔
      fields.length = fields'.length ∧ fieldFingerprints fields ⊆ fieldFingerprints fields' := by
  rw [← keys_fieldFingerprints] at distinct
  rw [fingerprint, fingerprint, Fingerprint.record.injEq, Table.mergeSort_eq_iff distinct, length_fieldFingerprints,
    length_fieldFingerprints]

mutual

/-- Types are equal exactly if their fingerprints are the same. -/
theorem same_iff_fingerprint_eq (s t : Ty) (hs : s.Distinct) (ht : t.Distinct) :
    s.same t = true ↔ s.fingerprint = t.fingerprint := by
  match s, t with
  | operation op [], t => exact same_bare_iff.trans (eq_comm.trans fingerprint_eq_operator_iff).symm
  | operation op (first :: rest), operation op' (first' :: rest') => 
    simp only [same, sameAll, Bool.and_eq_true, fingerprint, Fingerprint.applied.injEq, List.cons.injEq]
    rw [Operator.same_iff_fingerprint_eq, same_iff_fingerprint_eq first first' hs.1 ht.1,
      sameAll_iff_fingerprints_eq rest rest' hs.2 ht.2]
  | operation op (first :: rest), operation op' [] =>
    cases op' <;> simp [same, sameAll, fingerprint, Operator.fingerprint]
  | operation _ (_ :: _), var _ => simp [same, fingerprint]
  | operation _ (_ :: _), record _ => simp [same, fingerprint]
  | var _, operation op [] => cases op <;> simp [same, fingerprint, Operator.fingerprint]
  | var _, operation _ (_ :: _) => simp [same, fingerprint]
  | var _, var _ => simp [same, fingerprint]
  | var _, record _ => simp [same, fingerprint]
  | record _, operation op [] => cases op <;> simp [same, fingerprint, Operator.fingerprint]
  | record _, operation _ (_ :: _) => simp [same, fingerprint]
  | record _, var _ => simp [same, fingerprint]
  | record fields, record fields' =>
    rw [fingerprint_record_eq_iff hs.1, same, Bool.and_eq_true, beq_iff_eq,
      sameFields_iff_subset fields fields' hs.2 ht]

theorem sameAll_iff_fingerprints_eq (ss ts : List Ty) (hs : AllDistinct ss) (ht : AllDistinct ts) :
    sameAll ss ts = true ↔ fingerprints ss = fingerprints ts := by
  match ss, ts with
  | [], [] => simp [sameAll]
  | [], _ :: _ => simp [sameAll, fingerprints]
  | _ :: _, [] => simp [sameAll, fingerprints]
  | s :: rest, t :: rest' =>
    simp only [sameAll, Bool.and_eq_true, fingerprints, List.cons.injEq]
    rw [same_iff_fingerprint_eq s t hs.1 ht.1, sameAll_iff_fingerprints_eq rest rest' hs.2 ht.2]

/-- Fields are found with equal types in a record exactly if their fingerprints are among those of its fields. -/
theorem sameFields_iff_subset (fields fields' : List (String × Ty)) (hs : FieldsDistinct fields)
    (ht : (record fields').Distinct) :
    sameFields fields fields' = true ↔ fieldFingerprints fields ⊆ fieldFingerprints fields' := by
  match fields with
  | [] => simp [sameFields, fieldFingerprints]
  | (name, s) :: rest =>
    rw [sameFields, Bool.and_eq_true, sameFields_iff_subset rest fields' hs.2 ht, fieldFingerprints, List.cons_subset,
      mem_fieldFingerprints]
    refine and_congr_left fun _ => ?_
    cases found : Table.get? fields' name with
    | none =>
      constructor
      · intro h
        cases h
      · rintro ⟨t, member, -⟩
        rw [Table.get?_of_mem ht.1 member] at found
        cases found
    | some t =>
      have member := Table.mem_of_get? found
      have distinct : t.Distinct := fieldsDistinct_iff.mp ht.2 (name, t) member
      constructor
      · intro same
        exact ⟨t, member, ((same_iff_fingerprint_eq s t hs.1 distinct).mp same).symm⟩
      · rintro ⟨t', member', same⟩
        -- The table has one entry under the name.
        rw [Table.get?_of_mem ht.1 member'] at found
        cases found
        exact (same_iff_fingerprint_eq s t hs.1 distinct).mpr same.symm

end

end Ty

end HMSignature
