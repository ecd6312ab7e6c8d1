import HMSignature.Proofs.Descriptor.Construct
import HMSignature.Proofs.Descriptor.Inherited
import HMSignature.Proofs.Table
/-!
# Equality of types

Results:
1. `Ty.same_self`: a type equals itself;
2. `Ty.not_same_arrow`: but never a function from itself;
3. `Descriptor.equals_of_toTy`: a descriptor equals the type that it stands for;
4. `Ty.inherited_distinct`, `Descriptor.equals_self`: every type that is built has distinct fields, so that it equals
   itself as a descriptor.
-/

namespace HMSignature

theorem Operator.same_self (op : Operator) : op.same op = true := by
  cases op with
  | constructor c => exact beq_self_eq_true c.id
  | var name arity bound =>
    show (name == name && arity == arity) = true
    rw [beq_self_eq_true, beq_self_eq_true, Bool.and_self]

theorem Operator.same_comm (a b : Operator) : a.same b = b.same a := by
  cases a with
  | constructor c =>
    cases b with
    | constructor c' => exact Bool.beq_comm
    | var name arity bound => rfl
  | var name arity bound =>
    cases b with
    | constructor c' => rfl
    | var name' arity' bound' =>
      show (name == name' && arity == arity') = (name' == name && arity' == arity)
      rw [Bool.beq_comm (a := name), Bool.beq_comm (a := arity)]

namespace Ty

mutual

/-- The fields of every record in the type have distinct names. -/
def Distinct : Ty → Prop
  | operation _ params => AllDistinct params
  | var _ => True
  | record fields => (Table.keys fields).Nodup ∧ FieldsDistinct fields

def AllDistinct : List Ty → Prop
  | [] => True
  | t :: rest => Distinct t ∧ AllDistinct rest

def FieldsDistinct : List (String × Ty) → Prop
  | [] => True
  | (_, t) :: rest => Distinct t ∧ FieldsDistinct rest

end

mutual

theorem same_self (t : Ty) (h : t.Distinct) : t.same t = true := by
  cases t with
  | operation op params =>
    rw [same, op.same_self, Bool.true_and]
    exact sameAll_self params h
  | var name => exact beq_self_eq_true name
  | record fields =>
    rw [same, beq_self_eq_true, Bool.true_and]
    exact sameFields_self fields h.2 fields fun name t member => Table.get?_of_mem h.1 member

theorem sameAll_self (ts : List Ty) (h : AllDistinct ts) : sameAll ts ts = true := by
  cases ts with
  | nil => rfl
  | cons t rest =>
    rw [sameAll, same_self t h.1, Bool.true_and]
    exact sameAll_self rest h.2

/-- Fields are found again in every record that has them. -/
theorem sameFields_self (fields : List (String × Ty)) (h : FieldsDistinct fields) (whole : List (String × Ty))
    (found : ∀ name t, (name, t) ∈ fields → Table.get? whole name = some t) : sameFields fields whole = true := by
  match fields with
  | [] => rfl
  | (name, t) :: rest =>
    rw [sameFields, found name t List.mem_cons_self]
    show (same t t && sameFields rest whole) = true
    rw [same_self t h.1, Bool.true_and]
    exact sameFields_self rest h.2 whole fun name' t' member => found name' t' (List.mem_cons_of_mem _ member)

end

/-! ## Distinct fields -/

theorem allDistinct_iff {ts : List Ty} : AllDistinct ts ↔ ∀ t ∈ ts, t.Distinct := by
  induction ts with
  | nil => simp [AllDistinct]
  | cons t rest ih => rw [AllDistinct, ih, List.forall_mem_cons]

theorem fieldsDistinct_iff {fields : List (String × Ty)} :
    FieldsDistinct fields ↔ ∀ field ∈ fields, field.2.Distinct := by
  induction fields with
  | nil => simp [FieldsDistinct]
  | cons field rest ih => rw [FieldsDistinct, ih, List.forall_mem_cons]

theorem inherited_distinct : Inherited Distinct where
  operation _ _ _ all := allDistinct_iff.mpr all
  var _ := trivial
  record _ distinct all := ⟨distinct, fieldsDistinct_iff.mpr all⟩

/-! ## Functions -/

/-- How many first parameters there are inside of each other. -/
def leftDepth : Ty → Nat
  | operation _ (first :: _) => leftDepth first + 1
  | _ => 0

theorem leftDepth_eq_of_same {s t : Ty} (h : s.same t = true) : s.leftDepth = t.leftDepth := by
  match s, t with
  | operation _ [], operation _ [] => rfl
  | operation op (first :: others), operation op' (first' :: others') =>
    have params := (Bool.and_eq_true_iff.mp h).2
    have firsts : first.same first' = true := (Bool.and_eq_true_iff.mp params).1
    exact congrArg (· + 1) (leftDepth_eq_of_same firsts)
  | operation _ [], operation _ (_ :: _) => exact absurd h (by simp [same, sameAll])
  | operation _ (_ :: _), operation _ [] => exact absurd h (by simp [same, sameAll])
  | operation _ _, var _ => cases h
  | operation _ _, record _ => cases h
  | var _, operation _ _ => cases h
  | var _, var _ => rfl
  | var _, record _ => cases h
  | record _, operation _ _ => cases h
  | record _, var _ => cases h
  | record _, record _ => rfl

/-- No function has itself as its input. -/
theorem not_same_arrow (input output : Ty) : input.same (.arrow input output) = false := by
  rw [Bool.eq_false_iff]
  intro same
  exact absurd (leftDepth_eq_of_same same) (Nat.ne_of_lt (Nat.lt_succ_self _))

theorem same_arrow (input input' output output' : Ty) :
    (arrow input output).same (arrow input' output') = (input.same input' && output.same output') := by
  rw [arrow, arrow, same, Operator.same_self, Bool.true_and, sameAll, sameAll, sameAll, Bool.and_true]

theorem arrows_concat (inputs : List Ty) (last output : Ty) :
    arrows (inputs ++ [last]) output = arrows inputs (arrow last output) :=
  List.foldr_append

theorem not_same_arrows (inputs : List Ty) {output output' : Ty} (differ : output.same output' = false) :
    (arrows inputs output).same (arrows inputs output') = false := by
  induction inputs with
  | nil => exact differ
  | cons input rest ih =>
    show (arrow input (arrows rest output)).same (arrow input (arrows rest output')) = false
    rw [same_arrow, ih, Bool.and_false]

theorem same_unit_comm (t : Ty) : t.same .unit = unit.same t := by
  cases t with
  | operation op params =>
    rw [unit, same, same, op.same_comm]
    cases params <;> rfl
  | var name => rfl
  | record fields => rfl

end Ty

theorem Descriptor.equals_type (s t : Ty) : (Descriptor.type s).equals (.type t) = .ok (s.same t) := by
  cases s <;> rfl

theorem Descriptor.equals_self {d : Descriptor} (h : d.Has Ty.Distinct) : d.equals d = .ok true := by
  cases d with
  | operator op =>
    cases op with
    | constructor c => exact congrArg Except.ok (Operator.same_self _)
    | var name arity bound => exact congrArg Except.ok (Operator.same_self _)
  | type t => rw [equals_type, Ty.same_self t h]

/-- A descriptor equals the type that it stands for. -/
theorem Descriptor.equals_of_toTy {d : Descriptor} {t : Ty} (h : t.Distinct) (stands : d.toTy = .ok t) :
    d.equals (.type t) = .ok true := by
  rcases toTy_eq_ok_iff.mp stands with rfl | ⟨c, rfl, filled, rfl⟩
  · cases t with
    | operation op params => exact congrArg Except.ok (Ty.same_self _ h)
    | var name => exact congrArg Except.ok (Ty.same_self _ h)
    | record fields => exact congrArg Except.ok (Ty.same_self _ h)
  · have noSlots : c.extractors.isEmpty = true := List.isEmpty_iff_length_eq_zero.mpr filled
    rw [equals, if_pos noSlots, Operator.same_self]
    rfl

/-- A descriptor equals the unit type if the type that it stands for does. -/
theorem Descriptor.equals_unit_iff {d : Descriptor} {t : Ty} (stands : d.toTy = .ok t) :
    d.equals (.operator (.constructor Builtin.unit)) = .ok true ↔ t.same .unit = true := by
  rcases toTy_eq_ok_iff.mp stands with rfl | ⟨c, rfl, -, rfl⟩
  · cases t with
    | operation op params => exact ok_eq_ok_iff.trans eq_comm
    | var name => exact ok_eq_ok_iff.trans eq_comm
    | record fields => exact ok_eq_ok_iff.trans eq_comm
  · rw [Ty.unit, Ty.same, Ty.sameAll, Bool.and_true]
    exact ok_eq_ok_iff.trans eq_comm

end HMSignature
