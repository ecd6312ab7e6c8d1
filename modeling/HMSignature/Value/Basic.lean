import HMSignature.Table
import HMSignature.Value.Floating
import HMSignature.Value.Timestamp
/-!
# Values

The data that types and type classes are tested on and that defined functions take and give. What a function is stays
open: the type of values has it as a parameter, and tests only ask whether there is one.

Two values are the same key when they are equal as numbers, whatever their kinds, or equal as data. What has no data to
compare by has an identity instead: functions, exceptions, objects, and what is not a number. Dictionaries and sets keep
the first of several same keys; a dictionary keeps the last value written under it.

1. `sameKey_self`: every value that can be a key is the same key as itself.
-/

namespace HMSignature

/-- What an object has: methods of its class, methods of its own, and attributes that are not methods. -/
structure Shape where
  classMethods : List String
  methods : List String
  attributes : List String
  /-- What the class says when it is asked whether the object counts as true, unless it fails then. A class without a
  method for this question is not asked. -/
  truth : Option Bool
deriving DecidableEq, Repr

/-- The class says itself which of its members are equal, or where they are found. -/
def Shape.hasOwnEquality (shape : Shape) : Bool :=
  shape.classMethods.contains "__eq__" || shape.classMethods.contains "__hash__"

/-- The class says itself which of its members count as true. -/
def Shape.hasOwnTruth (shape : Shape) : Bool :=
  shape.classMethods.contains "__bool__" || shape.classMethods.contains "__len__"

/-- A value with functions from `φ`. -/
inductive Value (φ : Type) where
  | null
  | bool (b : Bool)
  | int (n : Int)
  | float (x : Floating)
  /-- A floating-point result that is not a number. -/
  | nan (id : Nat)
  | text (s : String)
  | list (elements : List (Value φ))
  | tuple (elements : List (Value φ))
  | set (elements : List (Value φ))
  | dict (entries : List (Value φ × Value φ))
  /-- A day. -/
  | date (day : Day)
  /-- A day with a time. -/
  | datetime (moment : Moment)
  | exception (id : Nat) (message : String)
  | function (id : Nat) (f : φ)
  | object (id : Nat) (shape : Shape)

/-- A value whose functions are not looked into. -/
abbrev Datum := Value Unit

namespace Value

variable {φ : Type}

/-! ## Equality of keys -/

/-- The amount of a finite number in the units of floating-point numbers; truth values count as one and zero. -/
def units? : Value φ → Option Int
  | bool b => some (if b then Floating.one else 0)
  | int n => some (n * Floating.one)
  | float x => x.units?
  | _ => none

mutual

/-- Whether two values are the same key. -/
def sameKey : Value φ → Value φ → Bool
  | null, null => true
  | int a, int b => a == b
  | float a, float b => a.sameNumber b
  | text a, text b => a == b
  | tuple as, tuple bs => sameKeys as bs
  | date a, date b => a == b
  | datetime a, datetime b => a.sameMoment b
  | nan a, nan b => a == b
  | exception a _, exception b _ => a == b
  | function a _, function b _ => a == b
  | object a _, object b _ => a == b
  | a, b =>
      match units? a, units? b with
      | some x, some y => x == y
      | _, _ => false

/-- Whether two lists of values are the same keys one by one. -/
def sameKeys : List (Value φ) → List (Value φ) → Bool
  | [], [] => true
  | a :: as, b :: bs => sameKey a b && sameKeys as bs
  | _, _ => false

end

/-- Keys of dictionaries are compared as keys. -/
instance : BEq (Value φ) := ⟨sameKey⟩

mutual

/-- A value that can be a key: one that never changes. A class that says itself what is equal gives no keys. -/
def isKey : Value φ → Bool
  | list _ | set _ | dict _ => false
  | tuple elements => areKeys elements
  | object _ shape => !shape.hasOwnEquality
  | _ => true

/-- Values that can all be keys. -/
def areKeys : List (Value φ) → Bool
  | [] => true
  | a :: as => isKey a && areKeys as

end

mutual

theorem sameKey_self {value : Value φ} (key : isKey value = true) : sameKey value value = true := by
  match value with
  | null => simp [sameKey]
  | bool b =>
      simp only [sameKey, units?]
      exact beq_self_eq_true _
  | int n => simp [sameKey]
  | float x => simp [sameKey]
  | nan id => simp [sameKey]
  | text s => simp [sameKey]
  | list _ => simp [isKey] at key
  | tuple elements =>
      simp only [isKey] at key
      simp only [sameKey]
      exact sameKeys_self key
  | set _ => simp [isKey] at key
  | dict _ => simp [isKey] at key
  | date day => simp [sameKey]
  | datetime moment => simp [sameKey]
  | exception id _ => simp [sameKey]
  | function id _ => simp [sameKey]
  | object id _ => simp [sameKey]

theorem sameKeys_self {values : List (Value φ)} (keys : areKeys values = true) :
    sameKeys values values = true := by
  match values with
  | [] => simp [sameKeys]
  | a :: as =>
      simp only [areKeys, Bool.and_eq_true] at keys
      simp [sameKeys, sameKey_self keys.1, sameKeys_self keys.2]

end

/-! ## Views -/

/-- Whether a value counts as true where a truth value is needed: zero, nothing and what is empty do not. An object
counts as what its class says, if the class has a say in this, and has no truth value when the class fails to say it. -/
def truth? : Value φ → Option Bool
  | null => some false
  | bool b => some b
  | int n => some (n != 0)
  | float x => some (x.units? != some 0)
  | text s => some (!s.isEmpty)
  | list elements => some (!elements.isEmpty)
  | tuple elements => some (!elements.isEmpty)
  | set elements => some (!elements.isEmpty)
  | dict entries => some (!entries.isEmpty)
  | object _ shape => if shape.hasOwnTruth then shape.truth else some true
  | _ => some true

/-- A value that surely counts as true. -/
def isTrue (value : Value φ) : Bool :=
  value.truth? = some true

/-- The values met when going through a value: characters of a text, keys of a dictionary. -/
def elements? : Value φ → Option (List (Value φ))
  | text s => some (s.toList.map fun c => text (String.singleton c))
  | list elements => some elements
  | tuple elements => some elements
  | set elements => some elements
  | dict entries => some (entries.map (·.1))
  | _ => none

/-- The keys of a dictionary. -/
def keys? : Value φ → Option (List (Value φ))
  | dict entries => some (entries.map (·.1))
  | _ => none

/-- The values of a dictionary. -/
def values? : Value φ → Option (List (Value φ))
  | dict entries => some (entries.map (·.2))
  | _ => none

end Value

end HMSignature
