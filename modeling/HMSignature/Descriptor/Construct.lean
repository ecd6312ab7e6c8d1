import HMSignature.Descriptor.Text
import HMSignature.Text.Wording
/-!
# Building types

The ways to build operators and types from others. Wherever a descriptor is used as a parameter it has to stand for a
type by itself: a constructor does if it has no slots, a variable operator never does. An application takes as many
parameters as the operator has slots.
-/

namespace HMSignature

/-- Why something cannot be built. -/
inductive BuildError where
  /-- An operator has at most two slots. -/
  | tooManySlots (name : String)
  /-- An application to the wrong number of parameters. -/
  | wrongCount (name : String) (expected given : Nat)
  /-- A variable operator without parameters in the place of a type. -/
  | needsParameters (name : String)
  /-- A function type of no types. -/
  | noTypes
  /-- An application of what is not an operator. -/
  | notApplicable
  /-- A keyword field with the name of one of the constructor's own parameters. -/
  | reservedField (name : String)
  /-- A name that nothing is bound to. -/
  | unbound (name : String)
deriving DecidableEq, Repr

/-- The wording of an error. -/
def BuildError.message : BuildError → String
  | tooManySlots name => "Type operator " ++ name ++ " cannot take more than two parameters"
  | wrongCount name expected given =>
      name ++ " takes " ++ toString expected ++ " " ++ Text.counted "parameter" expected ++ "; " ++
        toString given ++ " given"
  | needsParameters name =>
      "Type variable " ++ name ++ " cannot be used as a type without providing parameters"
  | noTypes => "no types"
  | notApplicable => "not an operator"
  | reservedField name => "reserved field " ++ name
  | unbound name => "unbound name " ++ name

/-! ## Operators -/

/-- A constructor with the given slots. -/
def Constructor.make (id : Nat) (name url : String) (test : Datum → Datum)
    (extractors : List Extractor) : Except BuildError Constructor :=
  if bound : extractors.length ≤ 2 then .ok ⟨id, name, url, test, extractors, bound⟩
  else .error (.tooManySlots name)

/-- A variable operator; a negative number of slots counts as none. -/
def Operator.makeVar (name : String) (slots : Int) : Except BuildError Operator :=
  if bound : slots.toNat ≤ 2 then .ok (.var name slots.toNat bound)
  else .error (.tooManySlots name)

/-! ## Types -/

namespace Operator

/-- An operator in all its slots filled with types. -/
def saturate (op : Operator) (params : List Ty) : Except BuildError Ty :=
  if params.length = op.arity then .ok (.operation op params)
  else .error (.wrongCount op.name op.arity params.length)

/-- The type that an operator stands for by itself. -/
def toTy : Operator → Except BuildError Ty
  | constructor c => (constructor c).saturate []
  | var name _ _ => .error (.needsParameters name)

end Operator

namespace Descriptor

/-- The type that a descriptor stands for by itself. -/
def toTy : Descriptor → Except BuildError Ty
  | operator op => op.toTy
  | type t => .ok t

/-- The types that descriptors stand for, from left to right. -/
def toTys : List Descriptor → Except BuildError (List Ty)
  | [] => .ok []
  | d :: rest => do
      let t ← d.toTy
      let ts ← toTys rest
      return t :: ts

end Descriptor

/-- An operator applied to parameters. -/
def Operator.apply (op : Operator) (params : List Descriptor) : Except BuildError Ty := do
  op.saturate (← Descriptor.toTys params)

namespace Ty

/-- The type of functions from one type to another. -/
def arrow (input output : Ty) : Ty :=
  operation (.constructor Builtin.function) [input, output]

/-- The type of lists. -/
def array (element : Ty) : Ty :=
  operation (.constructor Builtin.array) [element]

/-- The unit type. -/
def unit : Ty :=
  operation (.constructor Builtin.unit) []

/-- The curried function from the given inputs, first to last, to an output. -/
def arrows (inputs : List Ty) (output : Ty) : Ty :=
  inputs.foldr arrow output

end Ty

namespace Descriptor

/-- The function type from one descriptor to another. -/
def arrow (input output : Descriptor) : Except BuildError Ty := do
  let i ← input.toTy
  let o ← output.toTy
  return .arrow i o

/-- The curried function from several inputs to an output, built from the last input on. -/
def arrows : List Descriptor → Descriptor → Except BuildError Ty
  | [], output => output.toTy
  | [input], output => arrow input output
  | input :: rest, output => do
      let inner ← arrows rest output
      arrow input (.type inner)

/-- The curried function type of a sequence of types, with the last one as the output. -/
def functionType (types : List Descriptor) : Except BuildError Ty := do
  match (← toTys types).reverse with
  | [] => throw .noTypes
  | output :: inputs => return .arrows inputs.reverse output

/-- The record with the given fields. -/
def record (fields : Table String Descriptor) : Except BuildError Ty := do
  let types ← toTys (fields.map (·.2))
  return .record (fields.keys.zip types)

/-- Whether two descriptors are equal, asked of the left one. A type asks a nullary operator for the type it stands
for, so that the question itself may fail. -/
def equals : Descriptor → Descriptor → Except BuildError Bool
  | operator a, operator b => .ok (a.same b)
  | operator (.constructor c), type (.operation op params) =>
      if c.extractors.isEmpty then .ok (op.same (.constructor c) && params.isEmpty) else .ok false
  | operator _, type _ => .ok false
  | type (.operation op params), operator b =>
      if b.arity = 0 then do
        let t ← b.toTy
        return (Ty.operation op params).same t
      else .ok false
  | type _, operator _ => .ok false
  | type a, type b => .ok (a.same b)

end Descriptor

end HMSignature
