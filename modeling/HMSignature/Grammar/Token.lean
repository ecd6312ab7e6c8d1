import HMSignature.Text.Alphanumeric
import HMSignature.Text.Blank
import HMSignature.Text.Uppercase
import HMSignature.Grammar.Error
/-!
# Tokens

A signature is cut where the class of its characters changes. A run of name characters is one token and so is a run
of symbol characters; brackets and the comma stand for themselves; blanks separate and are dropped. The first run of
characters of no class is an error.

1. `flatten_runs`: the runs of a text, put together, are the text;
2. `runs_uniform`: a run is not empty and all its characters have its class;
3. `runs_alternate`: neighbouring runs differ in class, so a run is as long as it can be.
-/

namespace HMSignature.Grammar

/-- The three pairs of brackets. -/
inductive Bracket where
  | round
  | square
  | curly
deriving DecidableEq, Repr

/-- The characters of a pair. -/
def Bracket.opening : Bracket → Char
  | round => '('
  | square => '['
  | curly => '\x7b'

def Bracket.closing : Bracket → Char
  | round => ')'
  | square => ']'
  | curly => '\x7d'

/-- The pieces of a signature. -/
inductive Token where
  /-- A run of name characters. -/
  | name (text : String)
  /-- A run of symbol characters, such as an arrow. -/
  | symbol (text : String)
  | opening (bracket : Bracket)
  | closing (bracket : Bracket)
  | comma
deriving DecidableEq, Repr

namespace Token

/-- A token as it is written. -/
def text : Token → String
  | name text => text
  | symbol text => text
  | opening bracket => String.singleton bracket.opening
  | closing bracket => String.singleton bracket.closing
  | comma => ","

/-- Between the segments of a function type. -/
def arrow : Token := symbol "->"

/-- Between a name and its type. -/
def typed : Token := symbol "::"

/-- Between the constraints and the type. -/
def implies : Token := symbol "=>"

/-- The token that a single character is by itself. -/
def ofSpecial? : Char → Option Token
  | '(' => some (opening .round)
  | ')' => some (closing .round)
  | '[' => some (opening .square)
  | ']' => some (closing .square)
  | '\x7b' => some (opening .curly)
  | '\x7d' => some (closing .curly)
  | ',' => some comma
  | _ => none

end Token

/-! ## Classes of characters -/

/-- What a character does in a signature. -/
inductive CharClass where
  | blank
  | name
  | symbol
  | special
  | unknown
deriving DecidableEq, Repr

namespace CharClass

/-- The characters that names may hold besides letters and numbers. -/
def isNameMark (c : Char) : Bool :=
  c = '_' || c = '$' || c = '\x27' || c = '.'

/-- The characters that symbols are made of. -/
def isSymbol (c : Char) : Bool :=
  c = ':' || c = '-' || c = '=' || c = '>'

/-- The class of a character. -/
def ofChar (c : Char) : CharClass :=
  if Text.isBlank c then blank
  else if Text.isAlphanumeric c || isNameMark c then name
  else if isSymbol c then symbol
  else if (Token.ofSpecial? c).isSome then special
  else unknown

/-- The name of a class. -/
def label : CharClass → String
  | blank => "space"
  | name => "name"
  | symbol => "symbol"
  | special => "special"
  | unknown => "unknown"

end CharClass

/-- Whether a text starts with a name character; an empty text has no answer. -/
def startsName? (text : String) : Option Bool :=
  text.toList.head?.map fun c => decide (CharClass.ofChar c = .name)

/-- Whether a name starts with a capital, as names of types and of type classes do. -/
def isCapitalized (text : String) : Bool :=
  text.toList.head?.any Text.isCapital

/-! ## Runs of one class -/

/-- A character in front of a list of runs: it joins the first run when the class is the same. -/
def joinRun (c : Char) : List (CharClass × List Char) → List (CharClass × List Char)
  | [] => [(CharClass.ofChar c, [c])]
  | (kind, run) :: rest =>
      if CharClass.ofChar c = kind then (kind, c :: run) :: rest
      else (CharClass.ofChar c, [c]) :: (kind, run) :: rest

/-- The longest runs of characters of one class, in order. -/
def runs : List Char → List (CharClass × List Char)
  | [] => []
  | c :: rest => joinRun c (runs rest)

theorem flatten_joinRun (c : Char) (groups : List (CharClass × List Char)) :
    (joinRun c groups).flatMap (·.2) = c :: groups.flatMap (·.2) := by
  cases groups with
  | nil => rfl
  | cons group rest =>
      obtain ⟨kind, run⟩ := group
      by_cases same : CharClass.ofChar c = kind <;> simp [joinRun, same]

theorem flatten_runs (chars : List Char) : (runs chars).flatMap (·.2) = chars := by
  induction chars with
  | nil => rfl
  | cons c rest ih => rw [runs, flatten_joinRun, ih]

/-- A run that is not empty and of one class. -/
def UniformRun (group : CharClass × List Char) : Prop :=
  group.2 ≠ [] ∧ ∀ c ∈ group.2, CharClass.ofChar c = group.1

theorem joinRun_uniform {c : Char} {groups : List (CharClass × List Char)}
    (uniform : ∀ group ∈ groups, UniformRun group) :
    ∀ group ∈ joinRun c groups, UniformRun group := by
  have alone : UniformRun (CharClass.ofChar c, [c]) := by simp [UniformRun]
  cases groups with
  | nil => simpa [joinRun] using alone
  | cons group rest =>
      obtain ⟨kind, run⟩ := group
      have first := uniform _ List.mem_cons_self
      intro other member
      by_cases same : CharClass.ofChar c = kind
      · simp only [joinRun, same, if_true, List.mem_cons] at member
        rcases member with rfl | member
        · refine ⟨by simp, ?_⟩
          intro d inside
          rcases List.mem_cons.mp inside with rfl | inside
          · exact same
          · exact first.2 d inside
        · exact uniform other (List.mem_cons_of_mem _ member)
      · simp only [joinRun, same, if_false, List.mem_cons] at member
        rcases member with rfl | member
        · exact alone
        · exact uniform other (List.mem_cons.mpr member)

theorem runs_uniform (chars : List Char) : ∀ group ∈ runs chars, UniformRun group := by
  induction chars with
  | nil => simp [runs]
  | cons c rest ih => exact joinRun_uniform ih

/-- Neighbouring runs differ in class. -/
def Alternating : List (CharClass × List Char) → Prop
  | first :: second :: rest => first.1 ≠ second.1 ∧ Alternating (second :: rest)
  | _ => True

theorem joinRun_alternating {c : Char} {groups : List (CharClass × List Char)}
    (alternating : Alternating groups) : Alternating (joinRun c groups) := by
  cases groups with
  | nil => simp [joinRun, Alternating]
  | cons group rest =>
      obtain ⟨kind, run⟩ := group
      by_cases same : CharClass.ofChar c = kind
      · cases rest with
        | nil => simp [joinRun, same, Alternating]
        | cons next more =>
            simp only [joinRun, same, if_true, Alternating] at alternating ⊢
            exact alternating
      · simp only [joinRun, same, if_false, Alternating]
        exact ⟨same, alternating⟩

theorem runs_alternate (chars : List Char) : Alternating (runs chars) := by
  induction chars with
  | nil => trivial
  | cons c rest ih => exact joinRun_alternating ih

/-! ## Tokens of a text -/

/-- The tokens of a run, or an error when its characters have no class. -/
def tokensOfRun : CharClass × List Char → Except ParseError (List Token)
  | (.blank, _) => .ok []
  | (.name, run) => .ok [.name (String.ofList run)]
  | (.symbol, run) => .ok [.symbol (String.ofList run)]
  | (.special, run) => .ok (run.filterMap Token.ofSpecial?)
  | (.unknown, run) => .error (.unexpected (some (String.ofList run)) none)

/-- The tokens of a list of runs, up to the first that has none. -/
def tokensOfRuns : List (CharClass × List Char) → Except ParseError (List Token)
  | [] => .ok []
  | run :: rest => do
      let first ← tokensOfRun run
      let others ← tokensOfRuns rest
      return first ++ others

/-- The tokens of a text. -/
def tokenize (text : String) : Except ParseError (List Token) :=
  tokensOfRuns (runs text.toList)

end HMSignature.Grammar
