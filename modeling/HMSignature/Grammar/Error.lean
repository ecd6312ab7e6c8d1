/-!
# Errors of reading a signature

A reading fails at a token that may not stand where it stands, at a bracket that has no partner, or because there is
nothing to read.
-/

namespace HMSignature.Grammar

/-- Why a text is not a signature. -/
inductive ParseError where
  /-- A bracket without its partner. -/
  | mismatchedBracket (bracket : String)
  /-- There are no tokens at all. -/
  | empty
  /-- A token, or the end of the signature when there is none, where something else was expected. -/
  | unexpected (found : Option String) (expected : Option String)
deriving DecidableEq, Repr

namespace ParseError

/-- What was found, as a message names it. -/
def foundText : Option String → String
  | none => "end of signature"
  | some token => "token '" ++ token ++ "'"

/-- The wording of an error; an empty expectation is not worded. -/
def message : ParseError → String
  | mismatchedBracket bracket => "Mismatched bracket '" ++ bracket ++ "'."
  | empty => "Empty parse."
  | unexpected found expected =>
      match expected with
      | none => "Unexpected " ++ foundText found ++ "."
      | some "" => "Unexpected " ++ foundText found ++ "."
      | some wanted => "Unexpected " ++ foundText found ++ "; expected " ++ wanted ++ "."

end ParseError

end HMSignature.Grammar
