import HMSignature.Descriptor.Expression
import HMSignature.Environment
/-!
# Sources of types and type classes

A command line can name sources of types and type classes beyond the default ones. A source is a module, whose
attributes are there, or a file of declarations, which makes new types and classes each time it is loaded. Attributes
are taken in the order of their names, and only operators, applied operators and type classes among them count.
-/

namespace HMSignature.CommandLine

/-- What an attribute of a source is. -/
inductive Attribute where
  | type (d : Descriptor)
  | typeClass (c : TypeClass)

/-- What a file declares. -/
inductive Declaration where
  | type (name : String) (slots : Int)
  | typeClass (name : String)

/-- The modules and files there are. -/
structure Sources where
  modules : Table String (List (String × Attribute))
  files : Table String (List (String × Declaration))

/-- No sources. -/
def Sources.empty : Sources := ⟨[], []⟩

/-- Why a source cannot be loaded. -/
inductive SourceError where
  | emptyReference
  /-- A reference with a dot in front is relative to nothing. -/
  | relativeReference (reference : String)
  | missing (reference : String)
  /-- A declaration cannot be made. -/
  | unbuildable (error : BuildError)
deriving DecidableEq, Repr

/-- The wording of an error. -/
def SourceError.message : SourceError → String
  | emptyReference => "empty source"
  | relativeReference reference => "relative source " ++ reference
  | missing reference => "no source " ++ reference
  | unbuildable error => error.message

/-- Loading with a supply of identities. -/
abbrev Loading (α : Type) := Supplied SourceError α

/-- The attribute that a declaration makes. -/
def Declaration.make : Declaration → Loading Attribute
  | type name slots => fun next =>
      match (Expression.constructor name "" (.count slots)).eval [] next with
      | .ok (d, next) => .ok (.type d, next)
      | .error e => .error (.unbuildable e)
  | typeClass name => return .typeClass (.ofDependencies name "" [])

/-- The attributes that declarations make, in the order of the file. -/
def makeAll : List (String × Declaration) → Loading (List (String × Attribute))
  | [] => return []
  | (name, declaration) :: rest => do
      let made ← declaration.make
      let others ← makeAll rest
      return (name, made) :: others

/-- What a signature can refer to. -/
structure Catalog where
  environment : List Descriptor
  typeClasses : List TypeClass

namespace Catalog

/-- The default environment and the standard classes. -/
def default (typeClasses : List TypeClass) : Catalog :=
  ⟨Environment.default, typeClasses⟩

/-- A type that counts: an operator, applied or not. -/
def type? : Attribute → Option Descriptor
  | .type (.operator op) => some (.operator op)
  | .type (.type (.operation op params)) => some (.type (.operation op params))
  | _ => none

def typeClass? : Attribute → Option TypeClass
  | .typeClass c => some c
  | _ => none

/-- Adds the attributes of a source in the order of their names; of a repeated name the last one counts. -/
def extend (catalog : Catalog) (attributes : List (String × Attribute)) : Catalog :=
  let found := ((Table.ofList attributes).mergeSort fun a b => a.1 ≤ b.1).map (·.2)
  ⟨catalog.environment ++ found.filterMap type?, catalog.typeClasses ++ found.filterMap typeClass?⟩

end Catalog

namespace Sources

/-- The attributes of a source; a module comes before a file of the same name. -/
def load (sources : Sources) (reference : String) : Loading (List (String × Attribute)) :=
  if reference.isEmpty then throw .emptyReference
  else if reference.startsWith "." then throw (.relativeReference reference)
  else
    match sources.modules.get? reference, sources.files.get? reference with
    | some attributes, _ => return attributes
    | none, some declarations => makeAll declarations
    | none, none => throw (.missing reference)

/-- Loads sources one after the other into a catalog. -/
def loadAll (sources : Sources) (catalog : Catalog) : List String → Loading Catalog
  | [] => return catalog
  | reference :: rest => do
      let attributes ← sources.load reference
      loadAll sources (catalog.extend attributes) rest

end Sources

end HMSignature.CommandLine
