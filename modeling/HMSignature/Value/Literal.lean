import HMSignature.Supply
import HMSignature.Value.Basic
import HMSignature.Value.Decimal
/-!
# Literals

Values written down. A literal is evaluated from left to right, the key of an entry before its value. Each occurrence of
something with an identity makes a new thing; only a name gives the same thing each time. A dictionary or a set takes
its keys one by one, and the first one that cannot be a key ends the evaluation.
-/

namespace HMSignature

/-- How a value is written. -/
inductive Literal where
  | null
  | bool (b : Bool)
  | int (n : Int)
  /-- A floating-point number as text. -/
  | float (written : String)
  /-- The floating-point number nearest to a decimal. -/
  | decimal (digits exponent : Int)
  | text (s : String)
  | list (elements : List Literal)
  | tuple (elements : List Literal)
  | set (elements : List Literal)
  | dict (entries : List (Literal × Literal))
  | date (written : String)
  | datetime (written : String)
  | exception (message : String)
  /-- A function of which nothing is known. -/
  | function
  | object (shape : Shape)
  /-- What a name is bound to. -/
  | named (name : String)

/-- Why a literal has no value. -/
inductive LiteralError where
  /-- A text that should write a number, a day or a moment does not. -/
  | malformed (written : String)
  /-- A key of a dictionary or an element of a set can change. -/
  | notKey
  | unbound (name : String)
deriving DecidableEq, Repr

/-- Evaluating with a supply of identities. -/
abbrev Evaluation (α : Type) := Supplied LiteralError α

namespace Literal

variable {φ : Type}

/-- What a text writes, or the complaint about it. -/
def readAs {α : Type} (written : String) (read? : String → Option α) : Evaluation α :=
  (read? written).elim (throw (.malformed written)) pure

/-- A value that is to be a key. -/
def asKey (value : Value φ) : Evaluation (Value φ) :=
  if value.isKey then pure value else throw .notKey

/-- The floating-point number that a text writes. -/
def floatOf : Numeral → Evaluation (Value φ)
  | .number x => return .float x
  | .notANumber => return .nan (← freshId)

mutual

/-- The value of a literal, where names are bound in a scope and `external` stands for every unknown function. -/
def eval (scope : Table String (Value φ)) (external : φ) : Literal → Evaluation (Value φ)
  | null => return .null
  | bool b => return .bool b
  | int n => return .int n
  | float written => do floatOf (← readAs written Numeral.ofText?)
  | decimal digits exponent => return .float (.ofDecimal (digits < 0) digits.natAbs exponent)
  | text s => return .text s
  | list elements => do
      let values ← evalAll scope external elements
      return .list values
  | tuple elements => do
      let values ← evalAll scope external elements
      return .tuple values
  | set elements => do
      let values ← evalSet scope external [] elements
      return .set values.keys
  | dict entries => do
      let values ← evalDict scope external [] entries
      return .dict values
  | date written => return .date (← readAs written Timestamp.day?)
  | datetime written => return .datetime (← readAs written Timestamp.moment?)
  | exception message => return .exception (← freshId) message
  | function => return .function (← freshId) external
  | object shape => return .object (← freshId) shape
  | named name => (scope.get? name).elim (throw (.unbound name)) pure

/-- The values of literals, from left to right. -/
def evalAll (scope : Table String (Value φ)) (external : φ) :
    List Literal → Evaluation (List (Value φ))
  | [] => return []
  | literal :: rest => do
      let value ← eval scope external literal
      let values ← evalAll scope external rest
      return value :: values

/-- The elements of a set, after the ones it has already. -/
def evalSet (scope : Table String (Value φ)) (external : φ) (held : Table (Value φ) Unit) :
    List Literal → Evaluation (Table (Value φ) Unit)
  | [] => return held
  | literal :: rest => do
      let value ← asKey (← eval scope external literal)
      evalSet scope external (held.insert value ()) rest

/-- The entries of a dictionary, after the ones it has already. -/
def evalDict (scope : Table String (Value φ)) (external : φ) (held : Table (Value φ) (Value φ)) :
    List (Literal × Literal) → Evaluation (Table (Value φ) (Value φ))
  | [] => return held
  | (key, literal) :: rest => do
      let key ← eval scope external key
      let value ← eval scope external literal
      let key ← asKey key
      evalDict scope external (held.insert key value) rest

end

/-- The value of a literal in which nothing is named and functions are not looked into. -/
def toDatum (literal : Literal) : Except LiteralError Datum :=
  (·.1) <$> (literal.eval [] ()).run 0

end Literal

end HMSignature
