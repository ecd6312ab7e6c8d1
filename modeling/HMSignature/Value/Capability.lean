import HMSignature.Value.Basic
import HMSignature.Value.Methods
/-!
# What values are and can do

The membership tests of the built-in types and the questions that the standard type classes ask: whether a value can
be called, whether it has a method, and whether the class of a value has one. What an object has itself hides what its
class has, so an attribute that is not a method hides a method of the class.
-/

namespace HMSignature.Value

variable {φ : Type}

/-- A test that answers yes or no. -/
def decides (holds : Value φ → Bool) (value : Value φ) : Value φ :=
  bool (holds value)

/-! ## Kinds -/

def isNull : Value φ → Bool
  | null => true
  | _ => false

def isBoolean : Value φ → Bool
  | bool _ => true
  | _ => false

/-- A whole number; truth values are none. -/
def isInteger : Value φ → Bool
  | int _ => true
  | _ => false

/-- A number of either kind; truth values are none. -/
def isNumber : Value φ → Bool
  | int _ | float _ | nan _ => true
  | _ => false

def isText : Value φ → Bool
  | text _ => true
  | _ => false

def isDictionary : Value φ → Bool
  | dict _ => true
  | _ => false

/-- A dictionary all of whose keys are texts. -/
def isTextMap : Value φ → Bool
  | dict entries => entries.all fun entry => entry.1.isText
  | _ => false

/-- A list or a tuple. -/
def isSequence : Value φ → Bool
  | list _ | tuple _ => true
  | _ => false

/-- The empty tuple. -/
def isUnit : Value φ → Bool
  | tuple [] => true
  | _ => false

/-- Whether a value is equal to the empty tuple. An object whose class compares it itself gives no answer. -/
def equalsUnit : Value φ → Value φ
  | object _ shape => if shape.classMethods.contains "__eq__" then null else bool false
  | value => bool value.isUnit

/-- A day, with or without a time. -/
def isDate : Value φ → Bool
  | date _ | datetime _ => true
  | _ => false

def isException : Value φ → Bool
  | exception _ _ => true
  | _ => false

/-- A function, or an object whose class makes it callable. -/
def isCallable : Value φ → Bool
  | function _ _ => true
  | object _ shape => shape.classMethods.contains "__call__"
  | _ => false

/-! ## Methods -/

/-- The methods of the class of an object: the ones it brings and the ones every class has. A class that says what is
equal, and not where it is found, takes away the method for the latter. -/
def methodsOfShape (shape : Shape) : List String :=
  let finding :=
    if shape.classMethods.contains "__eq__" && !shape.classMethods.contains "__hash__" then []
    else ["__hash__"]
  shape.classMethods ++ finding ++ Methods.shared

/-- The methods of the class of a value. -/
def classMethods : Value φ → List String
  | null => Methods.ofNull ++ Methods.shared
  | bool _ | int _ => Methods.ofInt ++ Methods.shared
  | float _ | nan _ => Methods.ofFloat ++ Methods.shared
  | text _ => Methods.ofText ++ Methods.shared
  | list _ => Methods.ofList ++ Methods.shared
  | tuple _ => Methods.ofTuple ++ Methods.shared
  | set _ => Methods.ofSet ++ Methods.shared
  | dict _ => Methods.ofDict ++ Methods.shared
  | date _ => Methods.ofDate ++ Methods.shared
  | datetime _ => Methods.ofDatetime ++ Methods.shared
  | exception _ _ => Methods.ofException ++ Methods.shared
  | function _ _ => Methods.ofFunction ++ Methods.shared
  | object _ shape => methodsOfShape shape

/-- The class of the value has the method. -/
def classHasMethod (value : Value φ) (name : String) : Bool :=
  value.classMethods.contains name

/-- The value has the method: its own, or one of its class that nothing hides. A class that looks all attributes up
itself hides everything. -/
def hasMethod (value : Value φ) (name : String) : Bool :=
  match value with
  | object _ shape =>
      !shape.classMethods.contains "__getattribute__" && !shape.attributes.contains name &&
        (shape.methods.contains name || value.classHasMethod name)
  | value => value.classHasMethod name

/-- An object has something of the name: a method, an attribute, or what its class makes up. -/
def hasAttribute (value : Value φ) (name : String) : Bool :=
  match value with
  | object _ shape =>
      (shape.classMethods ++ shape.methods ++ shape.attributes).contains name ||
        shape.classMethods.contains "__getattr__" ||
        shape.classMethods.contains "__getattribute__"
  | _ => false

end HMSignature.Value
