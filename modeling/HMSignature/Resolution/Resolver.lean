import HMSignature.Environment
import HMSignature.Grammar.Entry
import HMSignature.Resolution.Error
/-!
# From trees to types

A resolver turns the nodes of a tree into descriptors. It remembers the variables that it has met, so that every
occurrence in a signature is one variable, and it keeps what it remembers also when a node fails. The empty brackets of
a function without parameters resolve to a mark that is left out of every list of parameters.

A type inside another type has to stand by itself, so a constructor with slots must be applied there; at the top it may
stay unapplied.
-/

namespace HMSignature

/-- The mark of the empty brackets, as an operator or as the type it stands for. -/
def Descriptor.isThunk : Descriptor → Bool
  | operator op => op.same (.constructor Builtin.thunk)
  | type t => t.same (.operation (.constructor Builtin.thunk) [])

namespace Resolver

/-- The variables met so far, and the variable operators by name and number of parameters. -/
structure Memory where
  typeVariables : Table String Ty
  operators : Table (String × Nat) Operator

/-- Nothing is remembered. -/
def Memory.empty : Memory := ⟨[], []⟩

/-- A step of a resolver: what it remembers outlives a failure. -/
abbrev Resolving (α : Type) := ExceptT ResolutionError (StateM Memory) α

/-- A building step inside a resolution. -/
def build {α : Type} : Except BuildError α → Resolving α
  | .ok a => pure a
  | .error e => throw (.unbuildable e)

/-- What a name stands for. -/
def lookup (types : Table String Descriptor) (name : String) : Resolving Descriptor :=
  match types.get? name with
  | some d => pure d
  | none => throw (.unknownType name types.keys)

/-- The variable of a name. -/
def typeVariable (name : String) : Resolving Ty := do
  match (← get).typeVariables.get? name with
  | some t => return t
  | none =>
      modify fun memory =>
        { memory with typeVariables := memory.typeVariables.insert name (.var name) }
      return .var name

/-- The variable operator of a name with one or two parameters. -/
def variableOperator (name : String) (count : Nat) : Resolving Operator := do
  match (← get).operators.get? (name, count) with
  | some op => return op
  | none =>
      if bound : 1 ≤ count ∧ count ≤ 2 then
        let op := Operator.var name count bound.2
        modify fun memory =>
          { memory with operators := memory.operators.insert (name, count) op }
        return op
      else throw (.arityMismatch name 2 count)

/-- A descriptor in the place of a parameter: an operator with slots must be applied there. -/
def asParam (text : String) (d : Descriptor) : Resolving Descriptor :=
  if d.arity = 0 then pure d else throw (.arityMismatch text d.arity 0)

/-- The operator that a named item applies: its own, or the one of a type that is made by one. -/
def operatorOf? : Descriptor → Option Operator
  | .operator op => some op
  | .type (.operation op _) => some op
  | .type _ => none

/-- A named item applied to parameters. -/
def applyNamed (types : Table String Descriptor) (name : String) (params : List Descriptor) :
    Resolving Descriptor := do
  match operatorOf? (← lookup types name) with
  | none => throw (.arityMismatch name 0 params.length)
  | some op =>
      if op.arity = params.length then return .type (← build (op.apply params))
      else throw (.arityMismatch name op.arity params.length)

/-- A function from its segments; missing ones are units. -/
def functionOf : List Descriptor → Resolving Descriptor
  | [] => return .type (.arrow .unit .unit)
  | [output] => do return .type (.arrow .unit (← build output.toTy))
  | types => do return .type (← build (Descriptor.functionType types))

mutual

/-- Resolves a node as if it were of the given kind. -/
def resolveAs (types : Table String Descriptor) (kind : Grammar.Kind) :
    Grammar.Entry → Resolving Descriptor
  | .node _ text children =>
      match kind with
      | .constructor =>
          if children.isEmpty then lookup types text
          else do applyNamed types text (← resolveParams types children)
      | .function => do functionOf (← resolveParams types children)
      | .list =>
          match children with
          | [] => throw .missingChild
          | element :: _ => do
              let d ← resolveAs types element.kind element
              let d ← asParam element.text d
              return .type (.array (← build d.toTy))
      | .record => do
          let fields ← resolveFields types children
          return .type (← build (Descriptor.record (Table.ofList fields)))
      | .var => do return .type (← typeVariable text)
      | .constrained => do
          let params ← resolveParams types children
          let op ← variableOperator text params.length
          return .type (← build (op.apply params))
      | .thunk => return .operator (.constructor Builtin.thunk)
      | kind => throw (.unrecognizedNode kind.label)

/-- Resolves parameters and leaves the marks of empty brackets out. -/
def resolveParams (types : Table String Descriptor) :
    List Grammar.Entry → Resolving (List Descriptor)
  | [] => return []
  | entry :: rest => do
      let d ← resolveAs types entry.kind entry
      let d ← asParam entry.text d
      let ds ← resolveParams types rest
      return if d.isThunk then ds else d :: ds

/-- Resolves the fields of a record: the name of each node and the type of its first child. -/
def resolveFields (types : Table String Descriptor) :
    List Grammar.Entry → Resolving (List (String × Descriptor))
  | [] => return []
  | .node _ _ [] :: _ => throw .missingChild
  | .node _ name (type :: _) :: rest => do
      let d ← resolveAs types type.kind type
      let d ← asParam type.text d
      let ds ← resolveFields types rest
      return (name, d) :: ds

end

/-- Resolves a node. -/
def resolve (types : Table String Descriptor) (entry : Grammar.Entry) : Resolving Descriptor :=
  resolveAs types entry.kind entry

/-- Resolves a node in the place of a parameter. -/
def resolveParam (types : Table String Descriptor) (entry : Grammar.Entry) :
    Resolving Descriptor := do
  asParam entry.text (← resolve types entry)

/-- Resolves top-level entries and leaves the marks of empty brackets out. -/
def resolveAll (types : Table String Descriptor) :
    List Grammar.Entry → Resolving (List Descriptor)
  | [] => return []
  | entry :: rest => do
      let d ← resolve types entry
      let ds ← resolveAll types rest
      return if d.isThunk then ds else d :: ds

/-- The outcome of a step that remembers nothing before it. -/
def fresh {α : Type} (step : Resolving α) : Except ResolutionError α :=
  (step.run .empty).1

end Resolver

end HMSignature
