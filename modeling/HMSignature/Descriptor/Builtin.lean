import HMSignature.Descriptor.Basic
/-!
# Built-in types

The types that signatures can use without being told, and three helpers: the unknown parameter, the mark of a function
without parameters, and the arrow. Every built-in constructor has a small identity of its own; `firstFree` is the first
identity that is left for others.
-/

namespace HMSignature.Builtin

/-- A built-in type without slots. -/
def base (id : Nat) (name : String) (test : Datum → Datum) : Constructor :=
  ⟨id, name, "", test, [], by simp⟩

/-- Stands for a parameter that is not known. -/
def unknown : Constructor := base 0 "Unknown" (Value.decides fun _ => true)

/-- Marks the empty brackets of a function without parameters; nothing belongs to it. -/
def thunk : Constructor := base 1 "hmdef/Thunk" (Value.decides fun _ => false)

/-- The type of the empty tuple. -/
def unit : Constructor := base 2 "Unit" Value.equalsUnit

/-- The arrow. -/
def function : Constructor :=
  ⟨3, "Function", "", Value.decides Value.isCallable, [.nothing, .nothing], by simp⟩

/-- Lists, by the type of their elements. -/
def array : Constructor :=
  ⟨4, "Array", "", Value.decides Value.isSequence, [.elements], by simp⟩

/-- Dictionaries with texts as keys, by the type of their values. -/
def textMap : Constructor :=
  ⟨5, "StrMap", "", Value.decides Value.isTextMap, [.values], by simp⟩

def anything : Constructor := base 6 "Any" (Value.decides fun _ => true)

def null : Constructor := base 7 "Null" (Value.decides Value.isNull)

def boolean : Constructor := base 8 "Boolean" (Value.decides Value.isBoolean)

def number : Constructor := base 9 "Number" (Value.decides Value.isNumber)

def integer : Constructor := base 10 "Integer" (Value.decides Value.isInteger)

def text : Constructor := base 11 "String" (Value.decides Value.isText)

def object : Constructor := base 12 "Object" (Value.decides Value.isDictionary)

def date : Constructor := base 13 "Date" (Value.decides Value.isDate)

def error : Constructor := base 14 "Error" (Value.decides Value.isException)

/-- The first identity that no built-in constructor has. -/
def firstFree : Nat := 15

/-- The default environment. -/
def environment : List Constructor :=
  [anything, array, boolean, date, error, function, integer, null, number, object, textMap, text, unit]

/-- Every built-in constructor under the name that it is known by. -/
def table : List (String × Constructor) :=
  [("Unknown", unknown), ("Thunk", thunk), ("Unit", unit), ("Function", function), ("Array", array),
    ("StrMap", textMap), ("Any", anything), ("Null", null), ("Boolean", boolean),
    ("Number", number), ("Integer", integer), ("String", text), ("Object", object), ("Date", date),
    ("Error", error)]

theorem nodup_ids : (table.map fun entry => entry.2.id).Nodup := by decide

theorem id_lt_firstFree : ∀ entry ∈ table, entry.2.id < firstFree := by decide

end HMSignature.Builtin
