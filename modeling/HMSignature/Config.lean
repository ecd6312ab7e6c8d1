import HMSignature.Table
import HMSignature.Value.Basic
/-!
# Configuration

Two settings: whether definitions ask for their arguments to be checked, and the level of the log. Each comes from a
keyword, or else from an environment variable, or else has a default. The names of both are compared without regard to
case; of several keywords that agree the first one counts, and of several variables the last one.

The configuration in force is loaded once and kept. A reload forgets it first, so that a reload which fails leaves
nothing behind. What keeps a configuration has any loader: it knows of loading only that the variables and the keywords
tell what comes of it.
-/

namespace HMSignature

/-- The settings. -/
structure Config where
  checkTypes : Bool
  logLevel : String
deriving DecidableEq, Repr

/-- A setting has a value that it cannot have. -/
inductive ConfigError where
  | invalid (setting : String)
deriving DecidableEq, Repr

/-- Why a variable cannot be set. -/
inductive VariableError where
  | emptyName
  /-- A name with an equals sign in it, or a name or value with a null character. -/
  | unusable
deriving DecidableEq, Repr

/-- Environment variables in order of their first assignment. -/
abbrev Variables := Table String String

namespace Config

/-- How settings are loaded: from variables and keywords, and from nothing else. -/
abbrev Loader := Variables → List (String × Datum) → Except ConfigError Config

/-! ## Reading settings -/

/-- A letter without its case, as far as names of settings go: the kelvin sign is a capital k, too. -/
def lowerChar (c : Char) : Char :=
  if c = '\u212a' then 'k' else c.toLower

/-- A name of a variable without its case. -/
def lowerName (name : String) : String :=
  String.ofList (name.toList.map lowerChar)

/-- The value of the last variable with a name, whatever its case. -/
def valueOf? (assigned : Variables) (name : String) : Option String :=
  (assigned.filter fun entry => lowerName entry.1 = lowerName name).getLast?.map (·.2)

/-- The value of the first keyword with a name, whatever its case. -/
def keyword? (keywords : List (String × Datum)) (name : String) : Option Datum :=
  (keywords.find? fun entry => lowerName entry.1 = lowerName name).map (·.2)

/-- The words for yes. -/
def yesWords : List String := ["1", "on", "t", "true", "y", "yes"]

/-- The words for no. -/
def noWords : List String := ["0", "off", "f", "false", "n", "no"]

/-- A truth value in words, whatever their case. -/
def boolOfText? (text : String) : Option Bool :=
  let word := String.ofList (text.toList.map Char.toLower)
  if yesWords.contains word then some true
  else if noWords.contains word then some false
  else none

/-- A truth value from a value: a truth value, a word for one, or one of the numbers zero and one. -/
def boolOfValue? : Datum → Option Bool
  | .bool b => some b
  | .text word => boolOfText? word
  | value =>
      if value.units? = some Floating.one then some true
      else if value.units? = some 0 then some false
      else none

/-- A text from a value: nothing but a text is one. -/
def textOfValue? : Datum → Option String
  | .text s => some s
  | _ => none

/-- The value of a setting: of the keyword, of the variable, or the default. -/
def setting {α : Type} (assigned : Variables) (keywords : List (String × Datum)) (name : String)
    (read : Datum → Option α) (otherwise : α) : Except ConfigError α :=
  let given :=
    match keyword? keywords name with
    | some value => some value
    | none => (valueOf? assigned ("HMDEF_" ++ name)).map .text
  match given with
  | none => .ok otherwise
  | some value => (read value).elim (.error (.invalid name)) .ok

/-- The configuration that variables and keywords give; other keywords do not count. -/
def load : Loader := fun assigned keywords => do
  let checkTypes ← setting assigned keywords "check_types" boolOfValue? true
  let logLevel ← setting assigned keywords "log_level" textOfValue? "WARNING"
  return ⟨checkTypes, logLevel⟩

/-! ## The configuration in force -/

/-- The variables of the moment, and the configuration that has been loaded. -/
structure Surroundings where
  assigned : Variables
  loaded : Option Config
deriving Repr

namespace Surroundings

/-- No variables, nothing loaded. -/
def initial : Surroundings := ⟨[], none⟩

/-- Sets a variable. -/
def set (s : Surroundings) (name value : String) : Except VariableError Surroundings :=
  if name.contains '\x00' || value.contains '\x00' || name.contains '=' then .error .unusable
  else if name.isEmpty then .error .emptyName
  else .ok { s with assigned := s.assigned.insert name value }

def unset (s : Surroundings) (name : String) : Surroundings :=
  { s with assigned := s.assigned.erase name }

/-- The configuration in force; it is loaded if there is none. -/
def current (loader : Loader) (s : Surroundings) : Except ConfigError Config × Surroundings :=
  match s.loaded with
  | some config => (.ok config, s)
  | none =>
      match loader s.assigned [] with
      | .ok config => (.ok config, { s with loaded := some config })
      | .error e => (.error e, s)

/-- Loads the configuration again. -/
def reload (loader : Loader) (s : Surroundings) : Except ConfigError Config × Surroundings :=
  current loader { s with loaded := none }

end Surroundings

end Config

end HMSignature
