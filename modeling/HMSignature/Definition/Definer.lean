import HMSignature.Config
import HMSignature.Definition.Basic
/-!
# Definers

A definer holds an environment of types and a list of type classes, and makes definitions whose signatures are resolved
against them at once.
-/

namespace HMSignature

/-- What definitions are made against. -/
structure Definer where
  environment : List Descriptor
  typeClasses : List TypeClass
  checkTypes : Flag

namespace Definer

variable {β α : Type}

/-- Resolves a signature. -/
def resolve (definer : Definer) (text : String) : Except SignatureError Resolution :=
  Resolution.ofText definer.typeClasses definer.environment text

/-- Whether the top-level entries of a signature include empty brackets. -/
def hasThunk (text : String) : Except SignatureError Bool := do
  let signature ← (Grammar.parse text).mapError .syntactic
  return signature.entries.any fun entry => entry.kind = .thunk

/-- Defines a function by its signature. -/
def define (definer : Definer) (text : String) (curried : Bool) (f : Definable β α) :
    Except SignatureError (Definition β α) := do
  let resolution ← definer.resolve text
  let thunk ← hasThunk text
  return .make f resolution definer.checkTypes (.bool curried) [] (.bool thunk)

end Definer

/-- A definer with the default environment and the configured request for checks where these are not given, and the
cache of the configuration afterwards. -/
def Definer.create (loader : Config.Loader) (surroundings : Config.Surroundings)
    (environment : Option (List Descriptor)) (typeClasses : List TypeClass) (checkTypes : Option Flag) :
    Except ConfigError Definer × Config.Surroundings :=
  let make (checks : Flag) : Definer :=
    ⟨environment.getD Environment.default, typeClasses, checks⟩
  match checkTypes with
  | some checks => (.ok (make checks), surroundings)
  | none =>
      match surroundings.current loader with
      | (.ok config, surroundings) => (.ok (make (.bool config.checkTypes)), surroundings)
      | (.error e, surroundings) => (.error e, surroundings)

end HMSignature
