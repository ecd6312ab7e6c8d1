import HMSignature.Grammar.Entry
import HMSignature.Text.Blank
/-!
# The outline of a tree

One line for each node, parents before children, with two blanks of indentation for each level: the kind, and the text
if there is one. No line ends in blanks.
-/

namespace HMSignature.Grammar.Entry

/-- The line of a node. -/
def outlineLine (depth : Nat) (kind : Kind) (text : String) : String :=
  Text.trimEnd (String.ofList (List.replicate (2 * depth) ' ') ++ kind.label ++ " " ++ text)

mutual

/-- The lines of a tree whose root is at the given depth. -/
def outline (depth : Nat) : Entry → List String
  | .node kind text children => outlineLine depth kind text :: outlines (depth + 1) children

/-- The lines of several trees. -/
def outlines (depth : Nat) : List Entry → List String
  | [] => []
  | entry :: rest => outline depth entry ++ outlines depth rest

end

end HMSignature.Grammar.Entry
