import HMSignature.CommandLine.Arguments
import HMSignature.CommandLine.Sources
import HMSignature.Config
import HMSignature.Grammar.Outline
import HMSignature.Resolution.Basic
import HMSignature.TypeClass.Standard
/-!
# The command line

Two commands look at a signature: one shows its tree, the other the types that it resolves to, against the default
environment and the sources that are named. What is wrong with a signature is reported with the exit code one; what is
wrong with the arguments with the exit code two. A failure of the surroundings, that is of the configuration or of a
source, ends the run without a report.

The arguments in front of the command are read, and the level of the log is checked, before the command looks at its
own arguments; sources are loaded last. How arguments are read and how the configuration is loaded can be anything; the
program brings its own way for both.
-/

namespace HMSignature.CommandLine

/-- What a run leaves behind: an exit code and the lines of its two outputs. -/
structure Report where
  code : Nat
  output : List String
  log : List String
deriving DecidableEq, Repr

namespace Report

/-- Lines as text, each with its end. -/
def lineText (lines : List String) : String :=
  String.join (lines.map (· ++ "\n"))

end Report

/-- Why a run ends without a report. -/
inductive Failure where
  | config (error : ConfigError)
  | unknownLevel (name : String)
  | source (error : SourceError)
  /-- A signature whose parts do not make a type. -/
  | resolution (error : ResolutionError)
deriving DecidableEq, Repr

/-- The wording of a failure. -/
def Failure.message : Failure → String
  | config (.invalid setting) => "invalid setting " ++ setting
  | unknownLevel name => "Unknown level: " ++ Text.quoted name
  | source error => error.message
  | resolution error => error.message

/-- What a run finds: environment variables, sources, and the first identity that is free. -/
structure Setting where
  assigned : Variables
  sources : Sources
  firstFree : Nat

/-! ## Arguments -/

/-- What a command line has in front of its command: whether the run is verbose, words that name no command, and the
command, if there is one, with all arguments behind it. -/
structure Front where
  verbose : Bool
  words : List String
  command? : Option (Command × List String)

/-- How arguments are read. What cannot be read, or only asks for something to be shown, ends the run with a report. -/
structure Reader where
  /-- Reads a command line down to its command. -/
  front : List String → Except Report Front
  /-- Reads the arguments of a command: the sources that they name, and the signature. -/
  behind : Command → List String → Except Report (List String × String)
  /-- How the program is called. -/
  usage : List String

/-- How the program is called. -/
def usage : List String :=
  ["Usage: [-v | --verbose] parse SIGNATURE",
    "       [-v | --verbose] resolve [(-e | --env) SOURCE]... SIGNATURE"]

/-- A report on wrong arguments. -/
def misuse (error : UsageError) : Report :=
  ⟨2, ("Error: " ++ error.message) :: usage, []⟩

/-- A switch among the items only shows something. -/
def shows (items : List Item) : Bool :=
  (Item.flags items).any fun switch =>
    switch = .help ∨ switch = .helpAll ∨ switch = .version

/-- The items of arguments none of which only shows something. -/
def requested (names : Vocabulary) (args : List String) : Except Report (List Item) := do
  let found ← (items names args).mapError misuse
  if shows found then throw ⟨0, usage, []⟩ else return found

/-- The reader of the program. -/
def Reader.standard : Reader where
  front args := do
    let found ← requested .top args
    return ⟨(Item.flags found).contains .verbose, Item.words found, Item.command? found⟩
  behind command args := do
    let found ← requested (.of command) args
    match Item.words found with
    | [text] => return (Item.sources found, text)
    | words => throw (misuse (.wordCount words.length))
  usage := CommandLine.usage

/-! ## The log -/

/-- The names of levels. -/
def levels : List String :=
  ["CRITICAL", "FATAL", "ERROR", "WARN", "WARNING", "INFO", "DEBUG", "NOTSET"]

/-- The level at which resolved signatures are logged, or the lack of a level. -/
def logsResolutions (level : String) : Bool :=
  level = "DEBUG" ∨ level = "NOTSET"

/-- Whether resolved signatures are logged. The configured level does not matter if the run is verbose. -/
def logging (loader : Config.Loader) (setting : Setting) (verbose : Bool) : Except Failure Bool := do
  if verbose then return true
  let config ← (loader setting.assigned []).mapError .config
  if levels.contains config.logLevel then return logsResolutions config.logLevel
  else throw (.unknownLevel config.logLevel)

/-! ## Commands -/

/-- The lines that show a signature and its tree. -/
def treeLines (signature : Grammar.Signature) : List String :=
  ["name: " ++ signature.name] ++
    signature.constraints.map (fun c => "constraint: " ++ c.typeClass ++ " " ++ c.typeVar) ++
    signature.type.outline 0

/-- Shows the tree of a signature. -/
def parseReport (text : String) : Report :=
  match Grammar.parse text with
  | .ok signature => ⟨0, treeLines signature, []⟩
  | .error e => ⟨1, [], [e.message]⟩

/-- The lines that show a resolution. -/
def typeLines (resolution : Resolution) : List String :=
  ["name: " ++ resolution.name] ++
    resolution.constraints.map (fun entry =>
      "constraint: " ++ entry.1 ++ " :: " ++ ", ".intercalate (entry.2.map (·.shortName))) ++
    resolution.types.map fun t => "type: " ++ t.text false

/-- The line of the log on a resolved signature. -/
def logLine (text : String) (resolution : Resolution) : String :=
  "DEBUG:hmdef.signature:Resolved " ++ text ++ " to " ++ resolution.describe

/-- The errors that are about the signature itself. -/
def isReported : ResolutionError → Bool
  | .missingChild | .unbuildable _ => false
  | _ => true

/-- Shows the types of a signature. -/
def resolveReport (logs : Bool) (catalog : Catalog) (text : String) : Except Failure Report :=
  match Resolution.ofText catalog.typeClasses catalog.environment text with
  | .ok resolution =>
      return ⟨0, typeLines resolution, if logs then [logLine text resolution] else []⟩
  | .error (.syntactic e) => return ⟨1, [], [e.message]⟩
  | .error (.semantic e) =>
      if isReported e then return ⟨1, [], [e.message]⟩ else throw (.resolution e)

/-- Runs a command on its one signature. -/
def execute (setting : Setting) (logs : Bool) (command : Command) (sources : List String)
    (text : String) : Except Failure Report := do
  let loading := setting.sources.loadAll (.default TypeClass.standard) sources
  let (catalog, _) ← (loading setting.firstFree).mapError .source
  match command with
  | .parse => return parseReport text
  | .resolve => resolveReport logs catalog text

/-- Runs a command on its arguments. -/
def runCommand (reader : Reader) (setting : Setting) (logs : Bool) (command : Command) (args : List String) :
    Except Failure Report :=
  match reader.behind command args with
  | .error report => return report
  | .ok (sources, text) => execute setting logs command sources text

/-- Runs a command line, with any reader of arguments and any loader of the configuration. -/
def run (reader : Reader) (loader : Config.Loader) (setting : Setting) (args : List String) : Except Failure Report :=
  match reader.front args with
  | .error report => return report
  | .ok ⟨verbose, words, command?⟩ => do
      let logs ← logging loader setting verbose
      match words, command? with
      | word :: _, _ => return ⟨1, ["Unknown command " ++ word], []⟩
      | [], none => return ⟨1, reader.usage, []⟩
      | [], some (command, rest) => runCommand reader setting logs command rest

/-- Runs a command line as the program does. -/
def program : Setting → List String → Except Failure Report :=
  run .standard Config.load

end HMSignature.CommandLine
