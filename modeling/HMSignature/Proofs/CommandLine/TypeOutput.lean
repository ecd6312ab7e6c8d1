import HMSignature.CommandLine.Basic
import HMSignature.Proofs.Resolution.Translation
/-!
# The output of types

The constraints of a resolution are kept by variable, so a line for each entry is a line for each variable. A variable
gets its entry with its first constraint and keeps its place.

Result:
1. `typeLines_eq`: the lines are those of the variables in the order in which they are declared first.
-/

namespace HMSignature

open Grammar (Constraint)

namespace CommandLine

/-- The line of a constrained variable: its classes by name, without their namespaces. -/
def obligationLine (constraints : Obligations) (typeVar : String) : String :=
  "constraint: " ++ typeVar ++ " :: " ++
    ", ".intercalate (((constraints.get? typeVar).getD []).map fun c => shortName c.name)

/-- The variables that a signature constrains, where they are first declared. -/
def declaredVars (text : String) : List String :=
  match Grammar.parse text with
  | .ok s => (s.constraints.map Constraint.typeVar).eraseDups
  | .error _ => []

/-- The lines of a resolution: its name, its constrained variables and its types. -/
def resolutionLines (text : String) (r : Resolution) : List String :=
  ("name: " ++ r.name) :: ((declaredVars text).map (obligationLine r.constraints) ++
    r.types.map fun t => "type: " ++ t.text false)

/-- These lines are put out. -/
theorem typeLines_eq {classes : List TypeClass} {environment : List Descriptor} {text : String} {r : Resolution}
    (resolved : Resolution.ofText classes environment text = .ok r) : typeLines r = resolutionLines text r := by
  cases parsed : Grammar.parse text with
  | error e =>
    rw [Resolution.ofText_of_parse_error parsed] at resolved
    cases resolved
  | ok s =>
    obtain ⟨grouped, -, -⟩ := (Resolution.ofText_eq_ok_iff parsed).mp resolved
    have groups := Obligations.groups_of_ofConstraints grouped
    have lines : ∀ entry ∈ r.constraints,
        "constraint: " ++ entry.1 ++ " :: " ++ ", ".intercalate (entry.2.map (·.shortName)) =
          obligationLine r.constraints entry.1 := by
      rintro ⟨typeVar, found⟩ member
      rw [obligationLine, Table.get?_of_mem groups.nodup member]
      rfl
    have declared : declaredVars text = r.constraints.keys := by
      rw [groups.keys, declaredVars, parsed]
    rw [typeLines, resolutionLines, declared, List.map_congr_left lines, Table.keys, List.map_map]
    rfl

end CommandLine

end HMSignature
