import HMSignature.Environment
import HMSignature.Grammar.Entry
import HMSignature.Resolution.Error
/-!
# Constraints by variable

The constraints of a signature, grouped: every constrained variable in the order of its first constraint, with the
classes that it must satisfy in the order in which they are declared, repetitions included.
-/

namespace HMSignature

/-- The classes that each variable must satisfy. -/
abbrev Obligations := Table String (List TypeClass)

namespace Obligations

/-- Adds one constraint. -/
def add (classes : Table String TypeClass) (obligations : Obligations)
    (constraint : Grammar.Constraint) : Except ResolutionError Obligations :=
  match classes.get? constraint.typeClass with
  | some c => .ok (Table.push obligations constraint.typeVar c)
  | none => .error (.unknownTypeClass constraint.typeClass classes.keys)

/-- Adds constraints in order, up to the first class that is not known. -/
def addAll (classes : Table String TypeClass) (obligations : Obligations) :
    List Grammar.Constraint → Except ResolutionError Obligations
  | [] => .ok obligations
  | constraint :: rest => do addAll classes (← obligations.add classes constraint) rest

/-- The obligations of a list of constraints. -/
def ofConstraints (classes : Table String TypeClass) (constraints : List Grammar.Constraint) :
    Except ResolutionError Obligations :=
  addAll classes [] constraints

end Obligations

end HMSignature
