import HMSignature.Descriptor.Construct
import HMSignature.Proofs.Except
import HMSignature.Proofs.Table
/-!
# When a type can be built

For each way to build a type: when it succeeds, and what it gives then.

Results:
1. `Descriptor.toTy_eq_ok_iff`, `Descriptor.toTys_cons_eq_ok_iff`: what stands for a type by itself;
2. `Operator.apply_eq_ok_iff`: applications;
3. `Descriptor.functionType_concat_eq_ok_iff`, `Descriptor.record_eq_ok_iff`: functions and records;
4. `Descriptor.exists_apply` and the lemmas beside it: each way succeeds on what stands for types.
-/

namespace HMSignature

theorem Operator.saturate_eq_ok_iff {op : Operator} {params : List Ty} {t : Ty} :
    op.saturate params = .ok t ↔ params.length = op.arity ∧ t = .operation op params := by
  unfold Operator.saturate
  split
  · rename_i filled
    exact ok_eq_ok_iff_of filled
  · rename_i unfilled
    exact error_eq_ok_iff_of unfilled

namespace Descriptor

/-- A type stands for itself, and a constructor without slots for the type that it makes. -/
theorem toTy_eq_ok_iff {d : Descriptor} {t : Ty} :
    d.toTy = .ok t ↔ d = .type t ∨
      ∃ c, d = .operator (.constructor c) ∧ c.extractors.length = 0 ∧ t = .operation (.constructor c) [] := by
  constructor
  · intro stands
    cases d with
    | type t' =>
      cases stands
      exact .inl rfl
    | operator op =>
      cases op with
      | constructor c =>
        obtain ⟨filled, rfl⟩ := Operator.saturate_eq_ok_iff.mp stands
        exact .inr ⟨c, rfl, filled.symm, rfl⟩
      | var name arity bound => cases stands
  · rintro (rfl | ⟨c, rfl, filled, rfl⟩)
    · rfl
    · exact Operator.saturate_eq_ok_iff.mpr ⟨filled.symm, rfl⟩

theorem toTys_cons_eq_ok_iff {d : Descriptor} {rest : List Descriptor} {ts : List Ty} :
    toTys (d :: rest) = .ok ts ↔ ∃ t others, d.toTy = .ok t ∧ toTys rest = .ok others ∧ ts = t :: others :=
  bind_bind_eq_ok_iff

theorem toTys_append_eq_ok_iff {ds ds' : List Descriptor} {ts : List Ty} :
    toTys (ds ++ ds') = .ok ts ↔ ∃ us us', toTys ds = .ok us ∧ toTys ds' = .ok us' ∧ ts = us ++ us' := by
  induction ds generalizing ts with
  | nil =>
    constructor
    · intro stands
      exact ⟨[], ts, rfl, stands, rfl⟩
    · rintro ⟨us, us', stands, stands', rfl⟩
      cases stands
      exact stands'
  | cons d rest ih =>
    rw [List.cons_append, toTys_cons_eq_ok_iff]
    constructor
    · rintro ⟨t, others, first, hothers, rfl⟩
      obtain ⟨us, us', stands, stands', rfl⟩ := ih.mp hothers
      exact ⟨t :: us, us', toTys_cons_eq_ok_iff.mpr ⟨t, us, first, stands, rfl⟩, stands', rfl⟩
    · rintro ⟨us, us', stands, stands', rfl⟩
      obtain ⟨t, others, first, hothers, rfl⟩ := toTys_cons_eq_ok_iff.mp stands
      exact ⟨t, others ++ us', first, ih.mpr ⟨others, us', hothers, stands', rfl⟩, rfl⟩

theorem toTys_singleton_eq_ok_iff {d : Descriptor} {ts : List Ty} :
    toTys [d] = .ok ts ↔ ∃ t, d.toTy = .ok t ∧ ts = [t] := by
  rw [toTys_cons_eq_ok_iff]
  constructor
  · rintro ⟨t, others, first, none, rfl⟩
    cases none
    exact ⟨t, first, rfl⟩
  · rintro ⟨t, first, rfl⟩
    exact ⟨t, [], first, rfl, rfl⟩

theorem length_of_toTys {ds : List Descriptor} {ts : List Ty} (stands : toTys ds = .ok ts) : ts.length = ds.length := by
  induction ds generalizing ts with
  | nil =>
    cases stands
    rfl
  | cons d rest ih =>
    obtain ⟨t, others, -, hothers, rfl⟩ := toTys_cons_eq_ok_iff.mp stands
    rw [List.length_cons, List.length_cons, ih hothers]

end Descriptor

theorem Operator.apply_eq_ok_iff {op : Operator} {ds : List Descriptor} {t : Ty} :
    op.apply ds = .ok t ↔
      ∃ ts, Descriptor.toTys ds = .ok ts ∧ ts.length = op.arity ∧ t = .operation op ts := by
  rw [Operator.apply, bind_eq_ok_iff]
  exact exists_congr fun ts => and_congr_right fun _ => saturate_eq_ok_iff

namespace Descriptor

/-- The last type is the output, and the ones before it are the inputs. -/
theorem functionType_eq_ok_iff {ds : List Descriptor} {t : Ty} :
    functionType ds = .ok t ↔ ∃ inputs output, toTys ds = .ok (inputs ++ [output]) ∧ t = .arrows inputs output := by
  rw [functionType, bind_eq_ok_iff]
  constructor
  · rintro ⟨ts, stands, h⟩
    split at h
    · cases h
    · rename_i output inputs reversed
      rw [List.reverse_eq_cons_iff] at reversed
      exact ⟨inputs.reverse, output, reversed ▸ stands, ok_eq_ok_iff.mp h⟩
  · rintro ⟨inputs, output, stands, rfl⟩
    refine ⟨inputs ++ [output], stands, ?_⟩
    rw [List.reverse_append, List.reverse_singleton, List.singleton_append]
    show Except.ok (Ty.arrows inputs.reverse.reverse output) = _
    rw [List.reverse_reverse]

/-- The function type of the inputs and the output. -/
theorem functionType_concat_eq_ok_iff {ds : List Descriptor} {d : Descriptor} {t : Ty} :
    functionType (ds ++ [d]) = .ok t ↔
      ∃ inputs output, toTys ds = .ok inputs ∧ d.toTy = .ok output ∧ t = .arrows inputs output := by
  rw [functionType_eq_ok_iff]
  refine exists_congr fun inputs => exists_congr fun output => ?_
  rw [← and_assoc]
  refine and_congr_left fun _ => ?_
  rw [toTys_append_eq_ok_iff]
  constructor
  · rintro ⟨us, us', stands, last, whole⟩
    obtain ⟨t, stands', rfl⟩ := toTys_singleton_eq_ok_iff.mp last
    obtain ⟨rfl, same⟩ := List.append_inj' whole rfl
    cases same
    exact ⟨stands, stands'⟩
  · rintro ⟨stands, stands'⟩
    exact ⟨inputs, [output], stands, toTys_singleton_eq_ok_iff.mpr ⟨output, stands', rfl⟩, rfl⟩

theorem record_eq_ok_iff {fields : Table String Descriptor} {t : Ty} :
    record fields = .ok t ↔ ∃ ts, toTys (fields.map (·.2)) = .ok ts ∧ t = .record (fields.keys.zip ts) := by
  rw [record, bind_eq_ok_iff]
  exact exists_congr fun ts => and_congr_right fun _ => ok_eq_ok_iff

end Descriptor

/-! ## What stands for a type -/

namespace Descriptor

/-- The descriptor stands for a type by itself. -/
def Stands (d : Descriptor) : Prop := ∃ t, d.toTy = .ok t

/-- Without slots the descriptor stands for a type. -/
def Sound (d : Descriptor) : Prop := d.arity = 0 → d.Stands

theorem Stands.sound {d : Descriptor} (h : d.Stands) : d.Sound :=
  fun _ => h

theorem stands_type (t : Ty) : Stands (.type t) :=
  ⟨t, rfl⟩

/-- Only a variable operator can be unsound. -/
theorem sound_of_ne {d : Descriptor} (h : ∀ name bound, d ≠ .operator (.var name 0 bound)) : d.Sound := by
  intro noSlots
  cases d with
  | type t => exact stands_type t
  | operator op =>
    cases op with
    | constructor c => exact ⟨_, toTy_eq_ok_iff.mpr (.inr ⟨c, rfl, noSlots, rfl⟩)⟩
    | var name count bound =>
      obtain rfl : count = 0 := noSlots
      exact absurd rfl (h name bound)

theorem exists_toTys {ds : List Descriptor} (all : ∀ d ∈ ds, d.Stands) : ∃ ts, toTys ds = .ok ts := by
  induction ds with
  | nil => exact ⟨[], rfl⟩
  | cons d rest ih =>
    rw [List.forall_mem_cons] at all
    obtain ⟨t, first⟩ := all.1
    obtain ⟨ts, others⟩ := ih all.2
    exact ⟨t :: ts, toTys_cons_eq_ok_iff.mpr ⟨t, ts, first, others, rfl⟩⟩

theorem exists_apply {op : Operator} {ds : List Descriptor} (all : ∀ d ∈ ds, d.Stands) (filled : op.arity = ds.length) :
    ∃ t, op.apply ds = .ok t := by
  obtain ⟨ts, stands⟩ := exists_toTys all
  exact ⟨_, Operator.apply_eq_ok_iff.mpr ⟨ts, stands, (length_of_toTys stands).trans filled.symm, rfl⟩⟩

theorem exists_functionType {ds : List Descriptor} (all : ∀ d ∈ ds, d.Stands) (nonempty : ds ≠ []) :
    ∃ t, functionType ds = .ok t := by
  obtain ⟨others, last, rfl⟩ : ∃ others last, ds = others ++ [last] :=
    ⟨_, _, (List.dropLast_concat_getLast nonempty).symm⟩
  rw [List.forall_mem_append, List.forall_mem_singleton] at all
  obtain ⟨inputs, hinputs⟩ := exists_toTys all.1
  obtain ⟨output, houtput⟩ := all.2
  exact ⟨_, functionType_concat_eq_ok_iff.mpr ⟨inputs, output, hinputs, houtput, rfl⟩⟩

theorem exists_record {items : List (String × Descriptor)} (all : ∀ item ∈ items, item.2.Stands) :
    ∃ t, record (Table.ofList items) = .ok t := by
  have fields : ∀ d ∈ (Table.ofList items).map (·.2), d.Stands := by
    rintro _ inside
    obtain ⟨item, member, rfl⟩ := List.mem_map.mp inside
    exact all item (Table.mem_of_mem_ofList member)
  obtain ⟨ts, stands⟩ := exists_toTys fields
  exact ⟨_, record_eq_ok_iff.mpr ⟨ts, stands, rfl⟩⟩

end Descriptor

end HMSignature
