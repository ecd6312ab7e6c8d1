import HMSignature.Name
import HMSignature.Value.Capability
/-!
# Descriptors of types

A type operator takes up to two parameters. It is either a constructor, which is known by its identity, or a variable,
which is known by its name and its arity. Applied to as many types as it has slots it is a type; type variables and
records are types as well. A descriptor is an operator or a type; an operator without slots can stand for the type
that it makes.
-/

namespace HMSignature

/-! ## Slots -/

/-- Why a value has no members to extract. -/
inductive ExtractionError where
  /-- One cannot go through the members, or through what the value gives for them. -/
  | notIterable
  /-- The value has nothing of that name. -/
  | noAttribute
deriving DecidableEq, Repr

/-- For a member of an applied type, the values that must be members of one of its parameters. -/
abbrev Extractor := Datum → Except ExtractionError (List Datum)

namespace Extractor

/-- Nothing is known about the members. -/
def nothing : Extractor := fun _ => .ok []

/-- The members of a sequence. -/
def elements : Extractor := fun value => value.elements?.elim (.error .notIterable) .ok

/-- The members that a value gives under a name. An object may have something of that name, but nothing that one can go
through. -/
def named (name : String) (members? : Datum → Option (List Datum)) : Extractor := fun value =>
  match members? value with
  | some members => .ok members
  | none => .error (if value.hasAttribute name then .notIterable else .noAttribute)

/-- The keys of a dictionary. -/
def keys : Extractor := named "keys" Value.keys?

/-- The values of a dictionary. -/
def values : Extractor := named "values" Value.values?

/-- The value itself is the one member. -/
def only : Extractor := fun value => .ok [value]

end Extractor

/-! ## Operators -/

/-- A type constructor with one extractor for each of its slots. -/
structure Constructor where
  /-- Two constructors are the same exactly when they have one identity. -/
  id : Nat
  name : String
  url : String
  /-- The membership test: a value belongs to the type if the answer counts as true. -/
  test : Datum → Datum
  extractors : List Extractor
  arity_le : extractors.length ≤ 2

/-- A type constructor or a variable that stands for one. -/
inductive Operator where
  | constructor (c : Constructor)
  | var (name : String) (arity : Nat) (arity_le : arity ≤ 2)

namespace Operator

def name : Operator → String
  | constructor c => c.name
  | var name _ _ => name

def url : Operator → String
  | constructor c => c.url
  | var _ _ _ => ""

/-- The number of slots. -/
def arity : Operator → Nat
  | constructor c => c.extractors.length
  | var _ arity _ => arity

def extractors : Operator → List Extractor
  | constructor c => c.extractors
  | var _ arity _ => List.replicate arity .nothing

/-- The membership test; a variable admits everything. -/
def test : Operator → Datum → Datum
  | constructor c => c.test
  | var _ _ _ => Value.decides fun _ => true

/-- Whether a value belongs to the type of an operator. -/
def admits (op : Operator) (value : Datum) : Bool :=
  (op.test value).isTrue

/-- The names of the slots. -/
def keys (op : Operator) : List String :=
  (List.range op.arity).map fun i => "$" ++ toString (i + 1)

theorem arity_le_two (op : Operator) : op.arity ≤ 2 := by
  cases op with
  | constructor c => exact c.arity_le
  | var _ _ bound => exact bound

theorem length_extractors (op : Operator) : op.extractors.length = op.arity := by
  cases op <;> simp [extractors, arity]

theorem length_keys (op : Operator) : op.keys.length = op.arity := by
  simp [keys]

end Operator

/-! ## Types -/

/-- A type. The fields of a record keep their order for display. -/
inductive Ty where
  | operation (op : Operator) (params : List Ty)
  | var (name : String)
  | record (fields : List (String × Ty))

/-- A type operator or a type. -/
inductive Descriptor where
  | operator (op : Operator)
  | type (t : Ty)

namespace Ty

/-- The name of a type: of an applied operator its name. -/
def name : Ty → String
  | operation op _ => op.name
  | var name => name
  | record _ => "Record"

/-- The slots of an applied operator with their extractors and the types in them. -/
def slots? : Ty → Option (List (String × Extractor × Ty))
  | operation op params => some (op.keys.zip (op.extractors.zip params))
  | _ => none

end Ty

namespace Descriptor

def name : Descriptor → String
  | operator op => op.name
  | type t => t.name

/-- The name that signatures use. -/
def shortName (d : Descriptor) : String :=
  HMSignature.shortName d.name

/-- The number of parameters that are still missing. -/
def arity : Descriptor → Nat
  | operator op => op.arity
  | type _ => 0

end Descriptor

end HMSignature
