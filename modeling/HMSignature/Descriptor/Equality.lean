import HMSignature.Descriptor.Basic
/-!
# Equality of descriptors

Constructors are equal by identity and variables by name and arity. Types are equal when they are built alike from
equal operators; the order of the fields of a record does not count. A constructor without slots equals the type that
it makes.
-/

namespace HMSignature

/-- Whether two operators are the same. -/
def Operator.same : Operator → Operator → Bool
  | constructor a, constructor b => a.id == b.id
  | var a m _, var b n _ => a == b && m == n
  | _, _ => false

namespace Ty

mutual

/-- Whether two types are equal. -/
def same : Ty → Ty → Bool
  | operation op params, operation op' params' => op.same op' && sameAll params params'
  | var name, var name' => name == name'
  | record fields, record fields' => fields.length == fields'.length && sameFields fields fields'
  | _, _ => false

/-- Whether two lists of types are equal one by one. -/
def sameAll : List Ty → List Ty → Bool
  | [], [] => true
  | t :: ts, t' :: ts' => same t t' && sameAll ts ts'
  | _, _ => false

/-- Whether every field is in a record, with an equal type. -/
def sameFields : List (String × Ty) → List (String × Ty) → Bool
  | [], _ => true
  | (name, t) :: rest, fields =>
      (match Table.get? fields name with
        | some t' => same t t'
        | none => false) && sameFields rest fields

end

end Ty

end HMSignature
