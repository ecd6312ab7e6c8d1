import HMSignature.Proofs.Descriptor.Abstraction
import HMSignature.Proofs.Descriptor.Inherited
import Mathlib.Data.List.Forall2
/-!
# Saturated types

In a saturated type every operator that is applied, at any depth, has as many parameters as slots. An application checks
this for its own operator, so that a type which is made of saturated types is saturated. That the parameters and the
fields of a type are types, and not operators by themselves, needs no check later on: each of them is asked for the type
that it stands for when it is put in, and an operator that stands for none is refused.

Results:
1. `Ty.pairsAll_slots?`: where an operator has as many parameters as slots, no parameter gets lost between the slots;
2. `Ty.inherited_saturated`: being saturated is inherited from the parts;
3. `Operator.apply_eq_ok_iff_instances`, `Operator.apply_fails_iff`: what an application gives, and when it fails;
4. `Descriptor.record_eq_ok_iff_instances`: what a record gives;
5. `Constructor.make_succeeds_iff`, `Operator.makeVar_succeeds_iff`: which operators can be made.
-/

namespace HMSignature

/-! ## Slots -/

/-- No two slots of an operator have one name. -/
theorem Operator.nodup_keys (op : Operator) : op.keys.Nodup := by
  have few : ∀ n ≤ 2, ((List.range n).map fun i => "$" ++ toString (i + 1)).Nodup := by decide
  exact few op.arity op.arity_le_two

namespace Ty

/-- Slots in which all parameters of an operator are, each under the number of its slot and with the extractor of its
own slot. No two keys are the same, so that a table of the slots has all of them. -/
structure PairsAll (op : Operator) (params : List Ty) (slots : List (String × Extractor × Ty)) : Prop where
  length : slots.length = params.length
  table : Table.ofList slots = slots
  paired : ∀ (i : Nat) (param : Ty), params[i]? = some param →
    ∃ extractor, op.extractors[i]? = some extractor ∧ slots[i]? = some ("$" ++ toString (i + 1), extractor, param)

theorem pairsAll_slots? {op : Operator} {params : List Ty} (filled : params.length = op.arity) :
    ∃ slots, (operation op params).slots? = some slots ∧ PairsAll op params slots := by
  refine ⟨op.keys.zip (op.extractors.zip params), rfl, ?length, ?table, ?paired⟩
  case length => simp [op.length_keys, op.length_extractors, filled]
  case table =>
    refine Table.ofList_of_nodup ?_
    rw [Table.keys, List.map_fst_zip (by simp [op.length_keys, op.length_extractors, filled])]
    exact op.nodup_keys
  case paired =>
    intro i param inside
    obtain ⟨lt, -⟩ := List.getElem?_eq_some_iff.mp inside
    have inSlots : i < op.extractors.length := by rw [op.length_extractors, ← filled]; exact lt
    refine ⟨op.extractors[i], List.getElem?_eq_getElem inSlots, List.getElem?_zip_eq_some.mpr ⟨?_, ?_⟩⟩
    · rw [Operator.keys, List.getElem?_map, List.getElem?_range (filled ▸ lt)]
      rfl
    · exact List.getElem?_zip_eq_some.mpr ⟨List.getElem?_eq_getElem inSlots, inside⟩

/-! ## Types in types -/

/-- A type occurs in another one: it is that type, or it occurs in one of its parameters or fields. -/
inductive OccursIn (part : Ty) : Ty → Prop
  | whole : OccursIn part part
  | param {op : Operator} {params : List Ty} {t : Ty} :
      t ∈ params → OccursIn part t → OccursIn part (.operation op params)
  | field {fields : List (String × Ty)} {field : String × Ty} :
      field ∈ fields → OccursIn part field.2 → OccursIn part (.record fields)

/-- Every operator that is applied in the type has as many parameters as slots. -/
def Saturated (t : Ty) : Prop :=
  ∀ (op : Operator) (params : List Ty), OccursIn (.operation op params) t → params.length = op.arity

theorem inherited_saturated : Inherited Saturated where
  operation op params filled all := by
    intro op' params' occurs
    cases occurs with
    | whole => exact filled
    | param member inside => exact all _ member op' params' inside
  var name := by
    intro op params occurs
    cases occurs
  record fields _ all := by
    intro op params occurs
    cases occurs with
    | field member inside => exact all _ member op params inside

end Ty

/-! ## Applications -/

/-- The type that a descriptor stands for: a type for itself, and a constructor without slots for the type that it
makes. -/
def Ty.IsInstanceOf (d : Descriptor) (t : Ty) : Prop :=
  d = .type t ∨ ∃ c, d = .operator (.constructor c) ∧ c.extractors.length = 0 ∧ t = .operation (.constructor c) []

theorem Descriptor.toTys_eq_ok_iff {ds : List Descriptor} {ts : List Ty} :
    toTys ds = .ok ts ↔ List.Forall₂ Ty.IsInstanceOf ds ts := by
  induction ds generalizing ts with
  | nil =>
    rw [List.forall₂_nil_left_iff]
    exact ok_eq_ok_iff
  | cons d rest ih =>
    rw [toTys_cons_eq_ok_iff, List.forall₂_cons_left_iff]
    simp only [ih, toTy_eq_ok_iff, Ty.IsInstanceOf]

namespace Operator

variable {op : Operator} {ds : List Descriptor}

/-- An application puts the types that its parameters stand for into the slots. -/
theorem apply_eq_ok_iff_instances {t : Ty} :
    op.apply ds = .ok t ↔
      ∃ params, List.Forall₂ Ty.IsInstanceOf ds params ∧ params.length = op.arity ∧ t = .operation op params := by
  rw [apply_eq_ok_iff]
  exact exists_congr fun params => and_congr_left' Descriptor.toTys_eq_ok_iff

theorem isOfParameters_of_apply {e : BuildError} (fails : op.apply ds = .error e) : e.isOfParameters = true := by
  rcases bind_eq_error_iff.mp fails with fails | ⟨params, -, fails⟩
  · obtain ⟨d, -, fails⟩ := Descriptor.exists_of_toTys_eq_error fails
    exact Descriptor.isOfParameters_of_toTy fails
  · rw [saturate] at fails
    split at fails
    · cases fails
    · cases fails
      rfl

/-- An application fails with an error about parameters exactly if one of them is an operator that does not stand for a
type, or if there are more or fewer of them than slots. -/
theorem apply_fails_iff :
    (∃ e, op.apply ds = .error e ∧ e.isOfParameters = true) ↔ (∃ d ∈ ds, d.Incomplete) ∨ ds.length ≠ op.arity := by
  constructor
  · rintro ⟨e, fails, -⟩
    by_contra fits
    rw [not_or, not_not] at fits
    have all : ∀ d ∈ ds, d.Stands := fun d member => Descriptor.stands_iff.mpr fun h => fits.1 ⟨d, member, h⟩
    obtain ⟨t, applied⟩ := Descriptor.exists_apply all fits.2.symm
    rw [applied] at fails
    cases fails
  · intro unfit
    cases outcome : op.apply ds with
    | error e => exact ⟨e, rfl, isOfParameters_of_apply outcome⟩
    | ok t =>
      obtain ⟨params, stands, filled, -⟩ := apply_eq_ok_iff.mp outcome
      rcases unfit with ⟨d, member, incomplete⟩ | miscounted
      · exact absurd incomplete (Descriptor.stands_iff.mp (Descriptor.stands_of_toTys stands d member))
      · exact absurd ((Descriptor.length_of_toTys stands).symm.trans filled) miscounted

end Operator

/-- A record has under each name the type that the field stands for. -/
theorem Descriptor.record_eq_ok_iff_instances {fields : Table String Descriptor} {t : Ty} :
    record fields = .ok t ↔
      ∃ types, List.Forall₂ Ty.IsInstanceOf (fields.map (·.2)) types ∧ t = .record (fields.keys.zip types) := by
  rw [record_eq_ok_iff]
  exact exists_congr fun types => and_congr_left' toTys_eq_ok_iff

/-! ## Operators -/

theorem Constructor.make_succeeds_iff {id : Nat} {name url : String} {test : Datum → Datum}
    {extractors : List Extractor} :
    (∃ c, make id name url test extractors = .ok c) ↔ extractors.length ≤ 2 := by
  unfold make
  split
  · rename_i bound
    exact iff_of_true ⟨_, rfl⟩ bound
  · rename_i exceeded
    exact iff_of_false nofun exceeded

theorem Operator.makeVar_succeeds_iff {name : String} {slots : Int} :
    (∃ op, makeVar name slots = .ok op) ↔ slots ≤ 2 := by
  unfold makeVar
  split
  · exact iff_of_true ⟨_, rfl⟩ (by omega)
  · exact iff_of_false nofun (by omega)

end HMSignature
