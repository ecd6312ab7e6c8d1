import HMSignature.Resolution.Basic
/-!
# Definitions

A definition binds a resolved signature to an implementation. It takes arguments in any grouping and holds the ones it
has until there are as many as its signature has parameters; then the implementation is called, with all of them at
once or, when it is curried, with one after the other.

What functions and values are stays open: `β` is what an implementation does and `α` are the values. How they are
called is told by a `Convention`.

An implementation may carry attributes that have the same names as the parts of a definition. They win over the values
that the definition is made with, each time one is made, also by a partial application. Even what is called can be such
an attribute. Nobody checks them, so a flag may be any value: it is kept as it is, and is up when the value counts as
true. A definition can be defined once more, and has all its parts as attributes then.

1. `make_definition`: so what is made around a definition is that definition again;
2. `Definable.call_definition`: what is defined is called as a definition is, if it is one.
-/

namespace HMSignature

universe u

/-- A yes or no that is kept as the value it was given as. -/
abbrev Flag := Datum

mutual

/-- Attributes that win over the parts of a definition. -/
structure Attributes (β α : Type) where
  func : Option (Definable β α)
  resolution : Option Resolution
  checkTypes : Option Flag
  curried : Option Flag
  args : Option (List α)
  thunk : Option Flag

/-- What is called: its behaviour, its own name and documentation, and its attributes. -/
structure Implementation (β α : Type) where
  behaviour : β
  name : String
  doc : Option String
  attributes : Attributes β α

/-- A signature with what it is for and the arguments it has so far. -/
structure Definition (β α : Type) where
  /-- What is called with the arguments. -/
  func : Definable β α
  resolution : Resolution
  /-- A request to check arguments, for whoever consumes the definition. -/
  checkTypes : Flag
  /-- What is called takes its arguments one at a time. -/
  curried : Flag
  args : List α
  /-- The signature has empty brackets among its top-level entries. -/
  thunk : Flag
  /-- The name of what the definition was made around. -/
  funcName : String
  /-- The documentation of what the definition was made around. -/
  doc : Option String

/-- What can be defined: an implementation, or a definition once more. -/
inductive Definable (β α : Type) where
  | implementation (f : Implementation β α)
  | definition (d : Definition β α)

end

/-- No attributes. -/
def Attributes.none {β α : Type} : Attributes β α := ⟨.none, .none, .none, .none, .none, .none⟩

namespace Definable

variable {β α : Type}

/-- The attributes of what is defined: of a definition these are all its parts. -/
def attributes : Definable β α → Attributes β α
  | .implementation f => f.attributes
  | .definition d =>
      ⟨some d.func, some d.resolution, some d.checkTypes, some d.curried, some d.args, some d.thunk⟩

def name : Definable β α → String
  | .implementation f => f.name
  | .definition d => d.funcName

def doc : Definable β α → Option String
  | .implementation f => f.doc
  | .definition d => d.doc

end Definable

/-- The complaint about more arguments than a definition has parameters. -/
structure Excess where
  name : String
  expected : Nat
  given : Nat
deriving DecidableEq, Repr

/-- The wording of the complaint. -/
def Excess.message (e : Excess) : String :=
  e.name ++ " takes " ++ toString e.expected ++ " " ++ Text.counted "argument" e.expected ++ "; " ++
    toString e.given ++ " given"

namespace Definition

variable {β α : Type}

/-- A definition around what is defined: it takes the name and the documentation of that, and its attributes win. -/
def make (func : Definable β α) (resolution : Resolution) (checkTypes curried : Flag) (args : List α) (thunk : Flag) :
    Definition β α :=
  let attributes := func.attributes
  { func := attributes.func.getD func
    resolution := attributes.resolution.getD resolution
    checkTypes := attributes.checkTypes.getD checkTypes
    curried := attributes.curried.getD curried
    args := attributes.args.getD args
    thunk := attributes.thunk.getD thunk
    funcName := func.name
    doc := func.doc }

/-- Nothing of what a definition is made with outlasts the parts of the definition that it is made around. -/
theorem make_definition (d : Definition β α) (resolution : Resolution) (checkTypes curried : Flag) (args : List α)
    (thunk : Flag) : make (.definition d) resolution checkTypes curried args thunk = d := by
  cases d
  rfl

/-! ## Description -/

def name (d : Definition β α) : String :=
  d.resolution.name

def constraints (d : Definition β α) : Obligations :=
  d.resolution.constraints

def types (d : Definition β α) : List Descriptor :=
  d.resolution.types

/-- The number of parameters: all types but the last. -/
def arity (d : Definition β α) : Nat :=
  d.types.length - 1

/-- One segment of a signature in writing: a function in brackets. -/
def segmentText (t : Descriptor) : String :=
  Ty.bracketed t.isFunction (t.text false)

/-- The signature in writing; a definition without parameters by empty brackets has them in front. -/
def signatureText (d : Definition β α) : String :=
  let segments := d.types.map segmentText
  d.name ++ " :: " ++ " -> ".intercalate (if d.thunk.isTrue then "()" :: segments else segments)

/-- A definition in writing. -/
def describe (d : Definition β α) : String :=
  "<Definition " ++ d.signatureText ++ ">"

/-! ## Calls -/

/-- What further arguments make of a definition. -/
inductive Supply (β α : Type) where
  /-- There are more arguments than parameters. -/
  | excess (given : Nat)
  /-- Arguments are missing. -/
  | waiting (d : Definition β α)
  /-- All arguments are there. -/
  | ready (args : List α)

/-- Adds arguments to the ones a definition has. -/
def supply (d : Definition β α) (more : List α) : Supply β α :=
  let args := d.args ++ more
  if d.arity < args.length then .excess args.length
  else if args.length < d.arity then
    .waiting (make d.func d.resolution d.checkTypes d.curried args d.thunk)
  else .ready args

/-- How functions are called in a monad `m`, and how a definition is a value. -/
structure Convention (m : Type → Type u) (β α : Type) where
  /-- Runs the behaviour of an implementation. -/
  run : β → List α → m α
  /-- Calls a value. -/
  call : α → List α → m α
  /-- Makes a definition a value. -/
  ofDefinition : Definition β α → m α
  /-- Fails because there are too many arguments. -/
  refuse : Excess → m α

variable {m : Type → Type u} [Monad m]

/-- Calls what a definition is made around with all arguments, when `callFunc` is how that is called. -/
def invokeBy (convention : Convention m β α) (callFunc : List α → m α) (d : Definition β α) (args : List α) : m α :=
  match d.curried.isTrue, args with
  | true, first :: rest => do
      let result ← callFunc [first]
      rest.foldlM (fun function arg => convention.call function [arg]) result
  | _, args => callFunc args

/-- Calls a definition with further arguments, when `callFunc` is how what it is made around is called. -/
def callBy (convention : Convention m β α) (callFunc : List α → m α) (d : Definition β α) (more : List α) : m α :=
  match d.supply more with
  | .excess given => convention.refuse ⟨d.name, d.arity, given⟩
  | .waiting d' => convention.ofDefinition d'
  | .ready args => d.invokeBy convention callFunc args

end Definition

/-- Calls what is defined. -/
def Definable.call {β α : Type} {m : Type → Type u} [Monad m] (convention : Definition.Convention m β α) :
    Definable β α → List α → m α
  | .implementation f, args => convention.run f.behaviour args
  | .definition d@⟨func, _, _, _, _, _, _, _⟩, more => d.callBy convention (Definable.call convention func) more
termination_by structural f => f

namespace Definition

variable {β α : Type} {m : Type → Type u} [Monad m]

/-- Calls what a definition is made around with all arguments. -/
def invoke (convention : Convention m β α) (d : Definition β α) (args : List α) : m α :=
  d.invokeBy convention (d.func.call convention) args

/-- Calls a definition with further arguments. -/
def call (convention : Convention m β α) (d : Definition β α) (more : List α) : m α :=
  d.callBy convention (d.func.call convention) more

end Definition

theorem Definable.call_definition {β α : Type} {m : Type → Type u} [Monad m]
    (convention : Definition.Convention m β α) (d : Definition β α) (more : List α) :
    (Definable.definition d).call convention more = d.call convention more := by
  cases d
  rfl

end HMSignature
