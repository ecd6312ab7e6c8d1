import HMSignature.Descriptor.Builtin
import HMSignature.Descriptor.Construct
import HMSignature.TypeClass.Basic
/-!
# Environments

Types and type classes are looked up by their short names. Of several items with one short name the last one counts,
in the place of the first.

An index asks its items for their names one after the other. An operator with slots is asked with unknown types in
them; this cannot fail, so that `types` and `typeClasses` are what an index gives.
-/

namespace HMSignature

/-! ## The names of items -/

namespace Descriptor

/-- A descriptor with nothing missing: an operator with slots is applied to unknown types. -/
def completed : Descriptor → Except BuildError Descriptor
  | operator op =>
      if op.arity = 0 then .ok (operator op)
      else type <$> op.apply (List.replicate op.arity (operator (.constructor Builtin.unknown)))
  | type t => .ok (type t)

/-- The name that a descriptor is indexed under: the short name that it has when nothing is missing. -/
def indexName (d : Descriptor) : Except BuildError String := do
  let complete ← d.completed
  return complete.shortName

end Descriptor

/-- The name that a type class is indexed under. -/
def TypeClass.indexName (c : TypeClass) : Except BuildError String :=
  .ok c.shortName

/-! ## Items by name -/

namespace Environment

/-- Writes items into a table one after the other, each under the name that it gives. -/
def indexInto {α : Type} (indexName : α → Except BuildError String) (table : Table String α) :
    List α → Except BuildError (Table String α)
  | [] => .ok table
  | item :: rest => do
      let name ← indexName item
      indexInto indexName (table.insert name item) rest

/-- The table of items under the names that they give. -/
def index {α : Type} (indexName : α → Except BuildError String) (items : List α) :
    Except BuildError (Table String α) :=
  indexInto indexName [] items

/-- Types by short name. -/
def types (items : List Descriptor) : Table String Descriptor :=
  Table.ofList (items.map fun item => (item.shortName, item))

/-- Type classes by short name. -/
def typeClasses (items : List TypeClass) : Table String TypeClass :=
  Table.ofList (items.map fun item => (item.shortName, item))

/-- The default environment of types. -/
def default : List Descriptor :=
  Builtin.environment.map fun c => .operator (.constructor c)

end Environment

end HMSignature
