import HMSignature.Descriptor.Construct
import HMSignature.Grammar.Error
import HMSignature.Table
/-!
# Errors of resolving a signature

The names and the counts of a signature have to agree with the environment. Messages spell counts as words and list
what is available in the order of the environment.
-/

namespace HMSignature

/-- Why a tree or a constraint has no resolution. -/
inductive ResolutionError where
  | unknownType (name : String) (available : List String)
  | unknownTypeClass (name : String) (available : List String)
  /-- A type is applied to a wrong number of types. -/
  | arityMismatch (name : String) (expected actual : Nat)
  /-- A node of a kind that stands for no type. -/
  | unrecognizedNode (label : String)
  /-- A node without the child that its kind needs. -/
  | missingChild
  /-- The resolved parts do not make a type. -/
  | unbuildable (error : BuildError)
deriving DecidableEq, Repr

namespace ResolutionError

/-- The wording of an error. -/
def message : ResolutionError → String
  | unknownType name available =>
      "Type " ++ name ++ " not found in env. Available types are: " ++ ", ".intercalate available
  | unknownTypeClass name available =>
      "Type class " ++ name ++ " not found. Available type classes are: " ++
        ", ".intercalate available
  | arityMismatch name expected actual =>
      "Type " ++ name ++ " expects " ++ Text.spelled expected ++ " " ++
        Text.counted "argument" expected ++ ", got " ++ Text.spelled actual
  | unrecognizedNode label => "Don't know what to do with signature entry " ++ label
  | missingChild => "missing child"
  | unbuildable error => error.message

end ResolutionError

/-- Why a text has no resolution. -/
inductive SignatureError where
  | syntactic (error : Grammar.ParseError)
  | semantic (error : ResolutionError)
deriving DecidableEq, Repr

end HMSignature
