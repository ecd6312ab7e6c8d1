import HMSignature.Descriptor.Builtin
import HMSignature.Descriptor.Equality
/-!
# Types in writing

A type is written as signatures write it: functions with arrows, a function as a parameter of an arrow in brackets,
lists in square brackets, records in braces, and every other applied operator in front of its parameters. Where a text
would be ambiguous as the parameter of an application it is asked for in its nested form, which has brackets.

Only the built-in arrow and the built-in list type are written in their own way: another operator of the same name is
not.
-/

namespace HMSignature

namespace Operator

/-- The arrow of functions. -/
def isArrow (op : Operator) : Bool :=
  op.same (.constructor Builtin.function)

/-- The list type. -/
def isArray (op : Operator) : Bool :=
  op.same (.constructor Builtin.array)

end Operator

namespace Ty

/-- A function type. -/
def isFunction : Ty → Bool
  | operation op _ => op.isArrow
  | _ => false

/-- A text in brackets, where they are needed. -/
def bracketed (needed : Bool) (text : String) : String :=
  if needed then "(" ++ text ++ ")" else text

mutual

/-- A type in writing. -/
def text (nested : Bool) : Ty → String
  | var name => name
  | record fields =>
      if fields.isEmpty then "\x7b\x7d" else "\x7b " ++ ", ".intercalate (fieldTexts fields) ++ " \x7d"
  | operation op [] => op.name
  | operation op [param] =>
      if op.isArray then "[" ++ text false param ++ "]"
      else bracketed nested (op.name ++ " " ++ text true param)
  | operation op [first, second] =>
      if op.isArrow then
        bracketed nested (bracketed first.isFunction (text false first) ++ " -> " ++ text false second)
      else bracketed nested (op.name ++ " " ++ text true first ++ " " ++ text true second)
  | operation op params => bracketed nested (" ".intercalate (op.name :: nestedTexts params))

/-- Types in their nested form. -/
def nestedTexts : List Ty → List String
  | [] => []
  | t :: rest => text true t :: nestedTexts rest

/-- Fields in writing. -/
def fieldTexts : List (String × Ty) → List String
  | [] => []
  | (name, t) :: rest => (name ++ " :: " ++ text false t) :: fieldTexts rest

end

end Ty

namespace Descriptor

/-- A descriptor in writing: an operator by its name. -/
def text (nested : Bool) : Descriptor → String
  | operator op => op.name
  | type t => t.text nested

/-- The descriptor is a function type. -/
def isFunction : Descriptor → Bool
  | operator _ => false
  | type t => t.isFunction

end Descriptor

end HMSignature
