import HMSignature.Proofs.Descriptor.Construct
import HMSignature.Proofs.Table
/-!
# Properties that types inherit from their parts

Types are only ever made from types that are there already: by an operator whose slots they fill, or as the fields of a
record, of which no two have one name. So a property that such a type has as soon as its parts have it goes through
every way to build types.

Results:
1. `Ty.Inherited.of_toTy`, `Ty.Inherited.of_toTys`: what stands for types that have the property;
2. `Ty.Inherited.of_apply`, `Ty.Inherited.arrows`, `Ty.Inherited.of_record`: what is built from them.
-/

namespace HMSignature

/-- A property that a type has whenever its parts have it. -/
structure Ty.Inherited (P : Ty → Prop) : Prop where
  operation : ∀ (op : Operator) (params : List Ty), params.length = op.arity → (∀ t ∈ params, P t) →
    P (.operation op params)
  var : ∀ name : String, P (.var name)
  record : ∀ fields : List (String × Ty), (Table.keys fields).Nodup → (∀ field ∈ fields, P field.2) →
    P (.record fields)

/-- A descriptor with a property of types: an operator by itself is not a type yet. -/
def Descriptor.Has (P : Ty → Prop) : Descriptor → Prop
  | operator _ => True
  | type t => P t

namespace Ty.Inherited

open Descriptor (toTys)

variable {P : Ty → Prop} (inherited : Inherited P)

include inherited

theorem of_toTy {d : Descriptor} {t : Ty} (has : d.Has P) (stands : d.toTy = .ok t) : P t := by
  rcases Descriptor.toTy_eq_ok_iff.mp stands with rfl | ⟨c, -, filled, rfl⟩
  · exact has
  · exact inherited.operation (.constructor c) [] filled.symm (by simp)

theorem of_toTys {ds : List Descriptor} {ts : List Ty} (all : ∀ d ∈ ds, d.Has P) (stands : toTys ds = .ok ts) :
    ∀ t ∈ ts, P t := by
  induction ds generalizing ts with
  | nil =>
    cases stands
    simp
  | cons d rest ih =>
    obtain ⟨t, others, first, hothers, rfl⟩ := Descriptor.toTys_cons_eq_ok_iff.mp stands
    rw [List.forall_mem_cons] at all
    exact List.forall_mem_cons.mpr ⟨inherited.of_toTy all.1 first, ih all.2 hothers⟩

theorem of_apply {op : Operator} {ds : List Descriptor} {t : Ty} (all : ∀ d ∈ ds, d.Has P)
    (applied : op.apply ds = .ok t) : P t := by
  obtain ⟨ts, stands, filled, rfl⟩ := Operator.apply_eq_ok_iff.mp applied
  exact inherited.operation op ts filled (inherited.of_toTys all stands)

theorem array {element : Ty} (h : P element) : P (.array element) :=
  inherited.operation (.constructor Builtin.array) [element] rfl (List.forall_mem_singleton.mpr h)

theorem arrow {input output : Ty} (h : P input) (h' : P output) : P (.arrow input output) :=
  inherited.operation (.constructor Builtin.function) [input, output] rfl
    (List.forall_mem_cons.mpr ⟨h, List.forall_mem_singleton.mpr h'⟩)

theorem arrows {inputs : List Ty} {output : Ty} (all : ∀ t ∈ inputs, P t) (h : P output) :
    P (.arrows inputs output) := by
  induction inputs with
  | nil => exact h
  | cons input rest ih =>
    rw [List.forall_mem_cons] at all
    exact inherited.arrow all.1 (ih all.2)

/-- The fields of a record come from a table, so that their names differ. -/
theorem of_record {items : List (String × Descriptor)} {t : Ty} (all : ∀ item ∈ items, item.2.Has P)
    (built : Descriptor.record (Table.ofList items) = .ok t) : P t := by
  obtain ⟨ts, stands, rfl⟩ := Descriptor.record_eq_ok_iff.mp built
  have sameLength : (Table.ofList items).keys.length = ts.length := by
    rw [Descriptor.length_of_toTys stands, Table.keys, List.length_map, List.length_map]
  have parts : ∀ t ∈ ts, P t := by
    refine inherited.of_toTys ?_ stands
    rw [List.forall_mem_map]
    exact fun item member => all item (Table.mem_of_mem_ofList member)
  refine inherited.record _ ?_ ?_
  · rw [Table.keys, List.map_fst_zip (Nat.le_of_eq sameLength)]
    exact Table.nodup_keys_ofList items
  · exact fun field member => parts field.2 (List.of_mem_zip member).2

end Ty.Inherited

end HMSignature
