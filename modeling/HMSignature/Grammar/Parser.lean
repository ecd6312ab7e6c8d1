import HMSignature.Grammar.Entry
import HMSignature.Grammar.Token
/-!
# Reading a signature

Every reader takes the tokens that are left and gives a value with the tokens that are left then. The result carries
that these are fewer, so the recursion of the readers ends without a budget. A reader that fails tells the tokens that
were left at that point: a token that was taken before it turned out to be wrong is not among them.

The grammar, with `NAME` a name token, `UPPER` one that starts with a capital and `lower` one that does not:

    signature   ::= NAME '::' [context '=>'] type
    context     ::= constraint | '(' constraint (',' constraint)* ')'
    constraint  ::= UPPER lower
    type        ::= application ('->' application)*
    application ::= atom atom*
    atom        ::= UPPER | lower | '[' type ']' | '{' fields '}' | '(' ')' | '(' type ')'
    fields      ::= [field (',' field)*]
    field       ::= NAME '::' type
-/

namespace HMSignature.Grammar

/-- A failed reading: the error, and the tokens that were left. -/
structure Failure where
  error : ParseError
  rest : List Token
deriving DecidableEq, Repr

/-- A value that was read, and the tokens that are left: fewer than `bound`. -/
structure Reading (α : Type) (bound : Nat) where
  value : α
  rest : List Token
  shorter : rest.length < bound

/-- The outcome of a reader. -/
abbrev Outcome (α : Type) (bound : Nat) := Except Failure (Reading α bound)

namespace Read

/-! ## Single tokens -/

/-- Takes the next token. -/
def next : (tokens : List Token) → Outcome Token tokens.length
  | [] => .error ⟨.unexpected none none, []⟩
  | token :: rest => .ok ⟨token, rest, Nat.lt_succ_self _⟩

/-- Takes the next token if it is written as the given text. -/
def expect (wanted : String) : (tokens : List Token) → Outcome Unit tokens.length
  | [] => .error ⟨.unexpected none (some wanted), []⟩
  | token :: rest =>
      if token.text = wanted then .ok ⟨(), rest, Nat.lt_succ_self _⟩
      else .error ⟨.unexpected (some token.text) (some wanted), token :: rest⟩

/-- Takes the next token if it is the given closing bracket. -/
def close (bracket : String) : (tokens : List Token) → Outcome Unit tokens.length
  | [] => .error ⟨.mismatchedBracket bracket, []⟩
  | token :: rest =>
      if token.text = bracket then .ok ⟨(), rest, Nat.lt_succ_self _⟩
      else .error ⟨.mismatchedBracket bracket, token :: rest⟩

/-- Takes the name of a type class. -/
def className (tokens : List Token) : Outcome String tokens.length := do
  match ← next tokens with
  | ⟨.name text, rest, shorter⟩ =>
      if isCapitalized text then return ⟨text, rest, shorter⟩
      else throw ⟨.unexpected (some text) (some "type class"), rest⟩
  | ⟨token, rest, _⟩ => throw ⟨.unexpected (some token.text) (some "type class"), rest⟩

/-- Takes the name of a type variable. -/
def variableName (tokens : List Token) : Outcome String tokens.length := do
  match ← next tokens with
  | ⟨.name text, rest, shorter⟩ =>
      if isCapitalized text then throw ⟨.unexpected (some text) (some "type variable"), rest⟩
      else return ⟨text, rest, shorter⟩
  | ⟨token, rest, _⟩ => throw ⟨.unexpected (some token.text) (some "type variable"), rest⟩

/-- Takes a name, for the given use. -/
def name (role : String) (tokens : List Token) : Outcome String tokens.length := do
  match ← next tokens with
  | ⟨.name text, rest, shorter⟩ => return ⟨text, rest, shorter⟩
  | ⟨token, rest, _⟩ => throw ⟨.unexpected (some token.text) (some role), rest⟩

/-! ## Constraints -/

/-- A class and a variable. -/
def constraint (tokens : List Token) : Outcome Constraint tokens.length := do
  let ⟨typeClass, rest, shorter⟩ ← className tokens
  let ⟨typeVar, rest', shorter'⟩ ← variableName rest
  return ⟨⟨typeClass, typeVar⟩, rest', Nat.lt_trans shorter' shorter⟩

/-- The constraints that follow a comma each. -/
def constraintsTail (tokens : List Token) : Outcome (List Constraint) (tokens.length + 1) :=
  match tokens with
  | .comma :: rest => do
      let ⟨first, rest', _⟩ ← constraint rest
      let ⟨others, rest'', _⟩ ← constraintsTail rest'
      return ⟨first :: others, rest'', by simp only [List.length_cons]; omega⟩
  | tokens => .ok ⟨[], tokens, Nat.lt_succ_self _⟩
termination_by tokens.length

/-- One constraint, or several in brackets, and the double arrow after them. -/
def context (tokens : List Token) : Outcome (List Constraint) tokens.length :=
  match tokens with
  | .opening .round :: rest => do
      let ⟨first, rest₁, _⟩ ← constraint rest
      let ⟨others, rest₂, _⟩ ← constraintsTail rest₁
      let ⟨_, rest₃, _⟩ ← close ")" rest₂
      let ⟨_, rest₄, _⟩ ← expect "=>" rest₃
      return ⟨first :: others, rest₄, by simp only [List.length_cons]; omega⟩
  | tokens => do
      let ⟨first, rest₁, _⟩ ← constraint tokens
      let ⟨_, rest₂, _⟩ ← expect "=>" rest₁
      return ⟨[first], rest₂, by omega⟩

/-! ## Types -/

/-- Whether a token can start a parameter of an application. -/
def startsAtom : List Token → Bool
  | .name _ :: _ => true
  | .opening _ :: _ => true
  | _ => false

/-- The last of the tokens that were taken between two points of a reading. -/
def lastTaken (before after : List Token) : Option Token :=
  before[before.length - after.length - 1]?

/-- A name by itself: of a type when it starts with a capital, else of a variable. -/
def bareName (text : String) : Entry :=
  if isCapitalized text then .constructor text [] else .var text

mutual

/-- Applications joined by arrows. -/
def type (tokens : List Token) : Outcome Entry tokens.length := do
  let ⟨first, rest, _⟩ ← application tokens
  let ⟨others, rest', _⟩ ← segmentsTail rest
  return ⟨.joined (first :: others), rest', by omega⟩
termination_by (tokens.length, 3)

/-- The segments that follow an arrow each. -/
def segmentsTail (tokens : List Token) : Outcome (List Entry) (tokens.length + 1) :=
  match tokens with
  | .symbol "->" :: rest => do
      let ⟨first, rest', _⟩ ← application rest
      let ⟨others, rest'', _⟩ ← segmentsTail rest'
      return ⟨first :: others, rest'', by simp only [List.length_cons]; omega⟩
  | tokens => .ok ⟨[], tokens, Nat.lt_succ_self _⟩
termination_by (tokens.length, 0)

/-- An atom with the atoms that it is applied to. -/
def application (tokens : List Token) : Outcome Entry tokens.length := do
  let ⟨head, rest, shorter⟩ ← atom tokens
  let ⟨params, rest', shorter'⟩ ← parameters rest
  match params with
  | [] => return ⟨head, rest', by omega⟩
  | params =>
      match head.applied? params with
      | some entry => return ⟨entry, rest', by omega⟩
      | none => throw ⟨.unexpected ((lastTaken tokens rest').map Token.text) none, rest'⟩
termination_by (tokens.length, 2)

/-- The atoms that follow. -/
def parameters (tokens : List Token) : Outcome (List Entry) (tokens.length + 1) := do
  if startsAtom tokens then
    let ⟨first, rest, _⟩ ← atom tokens
    let ⟨others, rest', _⟩ ← parameters rest
    return ⟨first :: others, rest', by omega⟩
  else
    return ⟨[], tokens, Nat.lt_succ_self _⟩
termination_by (tokens.length, 2)

/-- A name, or a type, an element type or fields in brackets. -/
def atom (tokens : List Token) : Outcome Entry tokens.length :=
  match tokens with
  | [] => .error ⟨.unexpected none none, []⟩
  | .name text :: rest => .ok ⟨bareName text, rest, Nat.lt_succ_self _⟩
  | .opening .round :: .closing .round :: rest =>
      .ok ⟨.thunk, rest, by simp only [List.length_cons]; omega⟩
  | .opening .round :: rest => do
      let ⟨inner, rest', _⟩ ← type rest
      let ⟨_, rest'', _⟩ ← close ")" rest'
      return ⟨inner, rest'', by simp only [List.length_cons]; omega⟩
  | .opening .square :: rest => do
      let ⟨element, rest', _⟩ ← type rest
      let ⟨_, rest'', _⟩ ← close "]" rest'
      return ⟨.list element, rest'', by simp only [List.length_cons]; omega⟩
  | .opening .curly :: .closing .curly :: rest =>
      .ok ⟨.record [], rest, by simp only [List.length_cons]; omega⟩
  | .opening .curly :: rest => do
      let ⟨first, rest₁, _⟩ ← field rest
      let ⟨others, rest₂, _⟩ ← fieldsTail rest₁
      let ⟨_, rest₃, _⟩ ← close "\x7d" rest₂
      return ⟨.record (first :: others), rest₃, by simp only [List.length_cons]; omega⟩
  | .closing bracket :: rest => .error ⟨.mismatchedBracket (Token.closing bracket).text, rest⟩
  | token :: rest => .error ⟨.unexpected (some token.text) none, rest⟩
termination_by (tokens.length, 1)

/-- The fields that follow a comma each. -/
def fieldsTail (tokens : List Token) : Outcome (List Entry) (tokens.length + 1) :=
  match tokens with
  | .comma :: rest => do
      let ⟨first, rest', _⟩ ← field rest
      let ⟨others, rest'', _⟩ ← fieldsTail rest'
      return ⟨first :: others, rest'', by simp only [List.length_cons]; omega⟩
  | tokens => .ok ⟨[], tokens, Nat.lt_succ_self _⟩
termination_by (tokens.length, 0)

/-- A name and its type. -/
def field (tokens : List Token) : Outcome Entry tokens.length := do
  let ⟨label, rest, _⟩ ← name "field name" tokens
  let ⟨_, rest', _⟩ ← expect "::" rest
  let ⟨fieldType, rest'', _⟩ ← type rest'
  return ⟨.field label fieldType, rest'', by omega⟩
termination_by (tokens.length, 0)

end

/-! ## Signatures -/

/-- Nothing may follow a signature. -/
def finish : (tokens : List Token) → Except Failure Unit
  | [] => .ok ()
  | .closing bracket :: rest =>
      .error ⟨.mismatchedBracket (Token.closing bracket).text, .closing bracket :: rest⟩
  | token :: rest => .error ⟨.unexpected (some token.text) none, token :: rest⟩

/-- A whole signature. Constraints are read when `constrained`, which asks for a double arrow among all the tokens,
wherever it stands. -/
def signature (constrained : Bool) (tokens : List Token) : Except Failure Signature := do
  let ⟨label, rest₁, _⟩ ← name "function name" tokens
  let ⟨_, rest₂, _⟩ ← expect "::" rest₁
  let ⟨constraints, rest₃⟩ ←
    if constrained then (fun reading => (reading.value, reading.rest)) <$> context rest₂
    else pure ([], rest₂)
  let ⟨signatureType, rest₄, _⟩ ← type rest₃
  finish rest₄
  return ⟨label, constraints, signatureType⟩

end Read

/-- The signature that a list of tokens is. -/
def signatureOfTokens (tokens : List Token) : Except Failure Signature :=
  if tokens.isEmpty then .error ⟨.empty, []⟩
  else Read.signature (tokens.contains .implies) tokens

/-- The signature that a text is. -/
def parse (text : String) : Except ParseError Signature := do
  let tokens ← tokenize text
  match signatureOfTokens tokens with
  | .ok signature => return signature
  | .error failure => throw failure.error

end HMSignature.Grammar
