import HMSignature.Descriptor.Equality
import HMSignature.Proofs.Descriptor.Construct
/-!
# Operators in types

An operator is mentioned in a type where it is applied, at any depth: in the type itself, in a parameter, or in a field.
Building a type mentions what its parts mention and the operator that is applied, and nothing else.

Results:
1. `mentions_of_toTy`: what stands for a type mentions what the type mentions;
2. `mentions_of_apply`, `mentions_of_record`, `Ty.mentions_arrows`: what the ways to build a type mention.
-/

namespace HMSignature

namespace Ty

mutual

/-- The operator is applied in the type. -/
def mentions (op : Operator) : Ty → Bool
  | operation other params => other.same op || anyMentions op params
  | var _ => false
  | record fields => anyFieldMentions op fields

def anyMentions (op : Operator) : List Ty → Bool
  | [] => false
  | t :: rest => mentions op t || anyMentions op rest

def anyFieldMentions (op : Operator) : List (String × Ty) → Bool
  | [] => false
  | (_, t) :: rest => mentions op t || anyFieldMentions op rest

end

theorem anyMentions_eq (op : Operator) (ts : List Ty) : anyMentions op ts = ts.any (mentions op) := by
  induction ts with
  | nil => rfl
  | cons t rest ih => rw [anyMentions, ih, List.any_cons]

theorem anyFieldMentions_eq (op : Operator) (fields : List (String × Ty)) :
    anyFieldMentions op fields = fields.any fun field => field.2.mentions op := by
  induction fields with
  | nil => rfl
  | cons field rest ih => rw [anyFieldMentions, ih, List.any_cons]

theorem mentions_operation (op other : Operator) (params : List Ty) :
    (operation other params).mentions op = (other.same op || params.any (mentions op)) := by
  rw [mentions, anyMentions_eq]

theorem mentions_record (op : Operator) (fields : List (String × Ty)) :
    (record fields).mentions op = fields.any fun field => field.2.mentions op := by
  rw [mentions, anyFieldMentions_eq]

theorem mentions_arrow {op : Operator} (other : (Operator.constructor Builtin.function).same op = false)
    (input output : Ty) : (arrow input output).mentions op = (input.mentions op || output.mentions op) := by
  rw [arrow, mentions_operation, other, Bool.false_or, List.any_cons, List.any_cons, List.any_nil, Bool.or_false]

theorem mentions_arrows {op : Operator} (other : (Operator.constructor Builtin.function).same op = false)
    (inputs : List Ty) (output : Ty) : (arrows inputs output).mentions op = (inputs ++ [output]).any (mentions op) := by
  induction inputs with
  | nil => exact (Bool.or_false _).symm
  | cons input rest ih =>
    show (arrow input (arrows rest output)).mentions op = _
    rw [mentions_arrow other, ih, List.cons_append, List.any_cons]

end Ty

namespace Descriptor

/-- The operator is the descriptor itself, or is applied in the type that it is. -/
def mentions (op : Operator) : Descriptor → Bool
  | operator other => other.same op
  | type t => t.mentions op

section Mentions

variable {op : Operator}

/-- What stands for a type mentions what the type mentions. -/
theorem mentions_of_toTy {d : Descriptor} {t : Ty} (stands : d.toTy = .ok t) : t.mentions op = d.mentions op := by
  rcases toTy_eq_ok_iff.mp stands with rfl | ⟨c, rfl, -, rfl⟩
  · rfl
  · rw [Ty.mentions_operation]
    exact Bool.or_false _

theorem any_mentions_of_toTys {ds : List Descriptor} {ts : List Ty} (stands : toTys ds = .ok ts) :
    ts.any (Ty.mentions op) = ds.any (mentions op) := by
  induction ds generalizing ts with
  | nil =>
    cases stands
    rfl
  | cons d rest ih =>
    obtain ⟨t, others, first, hothers, rfl⟩ := toTys_cons_eq_ok_iff.mp stands
    rw [List.any_cons, List.any_cons, mentions_of_toTy first, ih hothers]

theorem mentions_of_apply {other : Operator} {ds : List Descriptor} {t : Ty} (applied : other.apply ds = .ok t) :
    t.mentions op = (other.same op || ds.any (mentions op)) := by
  obtain ⟨ts, stands, -, rfl⟩ := Operator.apply_eq_ok_iff.mp applied
  rw [Ty.mentions_operation, any_mentions_of_toTys stands]

theorem mentions_of_record {fields : Table String Descriptor} {t : Ty} (built : record fields = .ok t) :
    t.mentions op = fields.any fun field => field.2.mentions op := by
  obtain ⟨ts, stands, rfl⟩ := record_eq_ok_iff.mp built
  have sameLength : fields.keys.length = ts.length := by
    rw [length_of_toTys stands, Table.keys, List.length_map, List.length_map]
  have values : (fields.keys.zip ts).map (·.2) = ts := List.map_snd_zip (Nat.le_of_eq sameLength.symm)
  have mentioned : ts.any (Ty.mentions op) = (fields.map (·.2)).any (mentions op) := any_mentions_of_toTys stands
  rw [← values, List.any_map, List.any_map] at mentioned
  rw [Ty.mentions_record]
  exact mentioned

end Mentions

end Descriptor

end HMSignature
