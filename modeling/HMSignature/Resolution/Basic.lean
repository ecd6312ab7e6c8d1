import HMSignature.Grammar.Parser
import HMSignature.Resolution.Constraints
import HMSignature.Resolution.Resolver
import HMSignature.Text.Quoted
/-!
# Resolving a signature

The resolution of a signature has its name, its constraints with the classes they name, and the types of its
parameters and its result. A text is read first, then its constraints are resolved, then its types.
-/

namespace HMSignature

/-- A signature with everything in it resolved. -/
structure Resolution where
  name : String
  constraints : Obligations
  types : List Descriptor

namespace Resolution

/-- Resolves a signature against type classes and an environment of types. -/
def ofText (classes : List TypeClass) (environment : List Descriptor) (text : String) :
    Except SignatureError Resolution := do
  let signature ← (Grammar.parse text).mapError .syntactic
  let constraints ← (Obligations.ofConstraints (Environment.typeClasses classes)
    signature.constraints).mapError .semantic
  let types ← (Resolver.fresh (Resolver.resolveAll (Environment.types environment)
    signature.entries)).mapError .semantic
  return ⟨signature.name, constraints, types⟩

/-- Items between brackets. -/
def bracketedList (items : List String) : String :=
  "[" ++ ", ".intercalate items ++ "]"

/-- A resolution in one line, for the log. -/
def describe (resolution : Resolution) : String :=
  let constraints := resolution.constraints.map fun entry =>
    Text.quoted entry.1 ++ ": " ++ bracketedList (entry.2.map (·.name))
  "Resolution(name=" ++ Text.quoted resolution.name ++
    ", constraints=\x7b" ++ ", ".intercalate constraints ++
    "\x7d, types=" ++ bracketedList (resolution.types.map (·.text false)) ++ ")"

end Resolution

end HMSignature
