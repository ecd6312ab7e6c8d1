import HMSignature.Descriptor.Construct
import HMSignature.Supply
/-!
# Expressions for descriptors

Every way to build a descriptor, written down as an expression. Evaluating one looks names up in a scope, then among
the built-in types, and hands a fresh identity to each new constructor. Parts are evaluated from left to right, before
what they are parts of.
-/

namespace HMSignature

/-- The slots of a new constructor: a number of them, or one extractor for each. -/
inductive Slots where
  | count (n : Int)
  | extractors (list : List Extractor)

/-- The extractors of the slots; a negative number of slots counts as none. -/
def Slots.toList : Slots → List Extractor
  | count n => List.replicate n.toNat .nothing
  | extractors list => list

/-- How a descriptor is built. -/
inductive Expression where
  /-- What a name is bound to. -/
  | named (name : String)
  /-- A new constructor. -/
  | constructor (name url : String) (slots : Slots)
  | var (name : String)
  | variableOperator (name : String) (slots : Int)
  | apply (op : Expression) (args : List Expression)
  /-- A record with fields in a list and further fields by keyword. -/
  | record (fields keywords : List (String × Expression))
  | arrow (input output : Expression)
  /-- The arrow, asked of its output. -/
  | arrowTo (output input : Expression)
  /-- A tuple of inputs before an output. -/
  | arrows (inputs : List Expression) (output : Expression)
  | functionType (types : List Expression)
  /-- The type that a descriptor stands for. -/
  | standing (e : Expression)

/-- What names are bound to. -/
abbrev Scope := Table String Descriptor

/-- Building with a supply of identities. -/
abbrev Build (α : Type) := Supplied BuildError α

/-- A building step that needs no identity. -/
def Build.lift {α : Type} (result : Except BuildError α) : Build α :=
  StateT.lift result

namespace Scope

/-- What a name is bound to, or else the built-in type of that name. -/
def find (scope : Scope) (name : String) : Except BuildError Descriptor :=
  match scope.get? name with
  | some d => .ok d
  | none =>
      match Table.get? Builtin.table name with
      | some c => .ok (.operator (.constructor c))
      | none => .error (.unbound name)

end Scope

namespace Descriptor

/-- A descriptor applied to parameters. -/
def applyTo (d : Descriptor) (params : List Descriptor) : Except BuildError Descriptor :=
  match d with
  | operator op => type <$> op.apply params
  | type _ => .error .notApplicable

/-- The record of fields and keyword fields; the latter may not take the names of the constructor's own parameters. -/
def recordWith (fields keywords : List (String × Descriptor)) : Except BuildError Descriptor :=
  match keywords.find? fun field => field.1 = "self" ∨ field.1 = "fields" with
  | some field => .error (.reservedField field.1)
  | none => type <$> record ((Table.ofList fields).insertAll (Table.ofList keywords))

end Descriptor

namespace Expression

mutual

/-- The descriptor that an expression builds. -/
def eval (scope : Scope) : Expression → Build Descriptor
  | named name => Build.lift (scope.find name)
  | constructor name url slots => do
      let id ← freshId
      let c ← Build.lift (Constructor.make id name url (Value.decides fun _ => true) slots.toList)
      return .operator (.constructor c)
  | var name => return .type (.var name)
  | variableOperator name slots => do
      return .operator (← Build.lift (Operator.makeVar name slots))
  | apply op args => do
      let head ← eval scope op
      let params ← evalAll scope args
      Build.lift (head.applyTo params)
  | record fields keywords => do
      let fields ← evalFields scope fields
      let keywords ← evalFields scope keywords
      Build.lift (Descriptor.recordWith fields keywords)
  | arrow input output => do
      let i ← eval scope input
      let o ← eval scope output
      return .type (← Build.lift (i.arrow o))
  | arrowTo output input => do
      let o ← eval scope output
      let i ← eval scope input
      return .type (← Build.lift (i.arrow o))
  | arrows inputs output => do
      let is ← evalAll scope inputs
      let o ← eval scope output
      return .type (← Build.lift (Descriptor.arrows is o))
  | functionType types => do
      let ts ← evalAll scope types
      return .type (← Build.lift (Descriptor.functionType ts))
  | standing e => do
      let d ← eval scope e
      return .type (← Build.lift d.toTy)

/-- The descriptors that expressions build, from left to right. -/
def evalAll (scope : Scope) : List Expression → Build (List Descriptor)
  | [] => return []
  | e :: rest => do
      let d ← eval scope e
      let ds ← evalAll scope rest
      return d :: ds

/-- The descriptors of fields, from left to right. -/
def evalFields (scope : Scope) : List (String × Expression) → Build (List (String × Descriptor))
  | [] => return []
  | (name, e) :: rest => do
      let d ← eval scope e
      let ds ← evalFields scope rest
      return (name, d) :: ds

end

/-- Binds names one after the other, each in the scope of those before it. -/
def bindAll (scope : Scope) : List (String × Expression) → Build Scope
  | [] => return scope
  | (name, e) :: rest => do
      let d ← eval scope e
      bindAll (scope.insert name d) rest

end Expression

end HMSignature
