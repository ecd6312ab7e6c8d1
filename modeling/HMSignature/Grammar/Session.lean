import HMSignature.Grammar.Parser
/-!
# Reading in steps

A session holds the tokens of one text and a position in them. Each request runs one reader from there; the position
afterwards is where the reader stopped, also when it failed. The tokens never change, and only the request for a whole
signature looks at tokens before the position: at the question whether there is a double arrow at all.
-/

namespace HMSignature.Grammar

/-- Tokens, and how many of them have been taken. -/
structure Session where
  tokens : List Token
  position : Nat
deriving Repr

/-- What a session can be asked to read. -/
inductive Request where
  | peek
  | next
  | expect (text : String)
  | close (bracket : String)
  | signature
  | context
  | constraint
  | type
  | application
  | atom
  | field
deriving DecidableEq, Repr

/-- What a session answers. -/
inductive Answer where
  | nothing
  | token (text : Option String)
  | entry (entry : Entry)
  | constraint (constraint : Constraint)
  | constraints (constraints : List Constraint)
  | signature (signature : Signature)
deriving Repr

namespace Session

/-- A session at the start of a text. -/
def ofText (text : String) : Except ParseError Session := do
  return ⟨← tokenize text, 0⟩

/-- The tokens that are left. -/
def rest (session : Session) : List Token :=
  session.tokens.drop session.position

/-- The session with the given tokens left. -/
def leave (session : Session) (rest : List Token) : Session :=
  { session with position := session.tokens.length - rest.length }

/-- The result of a reader, and the session where it stopped. -/
def advance {α : Type} {bound : Nat} (session : Session) (answer : α → Answer) :
    Outcome α bound → Except ParseError Answer × Session
  | .ok reading => (.ok (answer reading.value), session.leave reading.rest)
  | .error failure => (.error failure.error, session.leave failure.rest)

/-- A whole signature from the position on. -/
def wholeSignature (session : Session) : Except ParseError Answer × Session :=
  if session.tokens.isEmpty then (.error .empty, session)
  else
    match Read.signature (session.tokens.contains .implies) session.rest with
    | .ok signature => (.ok (.signature signature), session.leave [])
    | .error failure => (.error failure.error, session.leave failure.rest)

/-- One step. -/
def run (session : Session) : Request → Except ParseError Answer × Session
  | .peek => (.ok (.token (session.rest.head?.map Token.text)), session)
  | .next => session.advance (fun token => .token (some token.text)) (Read.next session.rest)
  | .expect text => session.advance (fun _ => .nothing) (Read.expect text session.rest)
  | .close bracket => session.advance (fun _ => .nothing) (Read.close bracket session.rest)
  | .signature => session.wholeSignature
  | .context => session.advance .constraints (Read.context session.rest)
  | .constraint => session.advance .constraint (Read.constraint session.rest)
  | .type => session.advance .entry (Read.type session.rest)
  | .application => session.advance .entry (Read.application session.rest)
  | .atom => session.advance .entry (Read.atom session.rest)
  | .field => session.advance .entry (Read.field session.rest)

end Session

end HMSignature.Grammar
