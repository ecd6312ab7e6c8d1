import HMSignature.Table
/-!
# Arguments of a command line

Arguments are switches, values of switches, words and the name of a command, which hands all arguments after it to
that command. A switch behind two dashes has its value in the next argument or after an equals sign, one behind a
single dash in the rest of the argument or in the next one. Switches without a value can share an argument behind a
single dash. After two dashes alone every argument is a word.

What a switch without a value leaves of its argument is read again as an argument: `-vh` as `-v -h`, and `--help=x` as
`--help =x`.

1. `size_of_takeValue?`: taking a value leaves fewer characters to read, on which reading ends;
2. `read_map_word`: after two dashes nothing is a switch or a command.
-/

namespace HMSignature.CommandLine

/-- What can be done with a signature. -/
inductive Command where
  /-- Shows its tree. -/
  | parse
  /-- Shows its types. -/
  | resolve
deriving DecidableEq, Repr

inductive Switch where
  /-- Logs what happens. -/
  | verbose
  /-- Names a source of further types and type classes. -/
  | source
  | help
  | helpAll
  | version
deriving DecidableEq, Repr

/-- The names that arguments can have. Behind two dashes any name of a switch can stand, behind one dash those of one
letter. -/
structure Vocabulary where
  commands : List (List Char × Command)
  switches : List (List Char × Switch)

namespace Vocabulary

/-- The switches that only show something, by their long names. -/
def shown : List (List Char × Switch) :=
  [("help".toList, .help), ("help-all".toList, .helpAll), ("version".toList, .version)]

/-- The names in front of a command. -/
def top : Vocabulary where
  commands := [("parse".toList, .parse), ("resolve".toList, .resolve)]
  switches :=
    [("verbose".toList, .verbose), ("v".toList, .verbose), ("h".toList, .help)] ++ shown

/-- The names after a command. -/
def of : Command → Vocabulary
  | .parse => ⟨[], [("h".toList, .help), ("v".toList, .version)] ++ shown⟩
  | .resolve =>
      ⟨[], [("env".toList, .source), ("e".toList, .source), ("h".toList, .help),
        ("v".toList, .version)] ++ shown⟩

end Vocabulary

/-- What an argument, or two of them, come to. -/
inductive Item where
  /-- A switch without a value. -/
  | flag (switch : Switch)
  | source (reference : String)
  | word (text : String)
  /-- A command with all arguments after it. -/
  | command (command : Command) (rest : List String)
deriving DecidableEq, Repr

/-- Why arguments cannot be read. -/
inductive UsageError where
  | unknownSwitch (name : String)
  | missingValue (name : String)
  | repeatedSwitch
  | wordCount (given : Nat)
deriving DecidableEq, Repr

/-- The wording of an error. -/
def UsageError.message : UsageError → String
  | unknownSwitch name => "unknown switch " ++ name
  | missingValue name => "switch " ++ name ++ " needs a value"
  | repeatedSwitch => "a switch is given twice"
  | wordCount given => "expected one signature, got " ++ toString given

/-! ## Reading -/

/-- The number of characters to read, with one for the end of each argument. -/
def size : List (List Char) → Nat
  | [] => 0
  | arg :: rest => arg.length + 1 + size rest

/-- An argument in front of others, unless nothing is left of it. -/
def pushBack (left : List Char) (args : List (List Char)) : List (List Char) :=
  if left.isEmpty then args else left :: args

/-- The name of a long switch, without the dashes. -/
def longName (long : List Char) : List Char :=
  long.takeWhile (· ≠ '=')

/-- What a long switch leaves of its argument. -/
def afterLong (long : List Char) : List Char :=
  long.dropWhile (· ≠ '=')

/-- What a short switch without a value leaves of its argument. -/
def afterShort (more : List Char) : List Char :=
  if more.isEmpty then [] else '-' :: more

/-- The value of a long switch: it may follow an equals sign, which may stand alone. -/
def takeValue? : List (List Char) → Option (List Char × List (List Char))
  | [] => none
  | [['=']] => none
  | ['='] :: value :: rest => some (value, rest)
  | ('=' :: value) :: rest => some (value, rest)
  | value :: rest => some (value, rest)

theorem size_cons (arg : List Char) (args : List (List Char)) :
    size (arg :: args) = arg.length + 1 + size args :=
  rfl

theorem size_pushBack (left : List Char) (args : List (List Char)) :
    size (pushBack left args) ≤ left.length + 1 + size args := by
  unfold pushBack
  split
  · omega
  · exact Nat.le_of_eq (size_cons left args)

theorem size_of_takeValue? {args rest : List (List Char)} {value : List Char}
    (taken : takeValue? args = some (value, rest)) : size rest < size args := by
  unfold takeValue? at taken
  split at taken <;> simp at taken
  all_goals
    obtain ⟨rfl, rfl⟩ := taken
    simp only [size_cons]
    omega

theorem size_afterLong (long : List Char) (args : List (List Char)) :
    size (pushBack (afterLong long) args) < size (('-' :: '-' :: long) :: args) := by
  have pushed := size_pushBack (afterLong long) args
  have shorter : (afterLong long).length ≤ long.length :=
    (List.dropWhile_sublist (l := long) (· ≠ '=')).length_le
  simp only [size_cons, List.length_cons]
  omega

theorem size_afterShort (short : Char) (more : List Char) (args : List (List Char)) :
    size (pushBack (afterShort more) args) < size (('-' :: short :: more) :: args) := by
  have pushed := size_pushBack (afterShort more) args
  have shorter : (afterShort more).length ≤ more.length + 1 := by
    by_cases none : more.isEmpty <;> simp [afterShort, none]
  simp only [size_cons, List.length_cons]
  omega

/-- The items that arguments come to. -/
def read (names : Vocabulary) : List (List Char) → Except UsageError (List Item)
  | [] => .ok []
  | ['-'] :: _ => .error (.unknownSwitch "-")
  | ['-', '-'] :: rest => .ok (rest.map fun arg => .word (String.ofList arg))
  | ('-' :: '-' :: long) :: rest =>
      match Table.get? names.switches (longName long) with
      | none => .error (.unknownSwitch (String.ofList ('-' :: '-' :: longName long)))
      | some .source =>
          match _ : takeValue? (pushBack (afterLong long) rest) with
          | none => .error (.missingValue (String.ofList ('-' :: '-' :: longName long)))
          | some (value, rest') => (read names rest').map (.source (String.ofList value) :: ·)
      | some switch => (read names (pushBack (afterLong long) rest)).map (.flag switch :: ·)
  | ('-' :: short :: more) :: rest =>
      match Table.get? names.switches [short] with
      | none => .error (.unknownSwitch (String.ofList ['-', short]))
      | some .source =>
          match more, rest with
          | [], [] => .error (.missingValue (String.ofList ['-', short]))
          | [], value :: rest' => (read names rest').map (.source (String.ofList value) :: ·)
          | value, rest => (read names rest).map (.source (String.ofList value) :: ·)
      | some switch => (read names (pushBack (afterShort more) rest)).map (.flag switch :: ·)
  | word :: rest =>
      match Table.get? names.commands word with
      | some command => .ok [.command command (rest.map String.ofList)]
      | none => (read names rest).map (.word (String.ofList word) :: ·)
termination_by args => size args
decreasing_by
  · exact Nat.lt_trans (size_of_takeValue? (by assumption)) (size_afterLong long rest)
  · exact size_afterLong long rest
  · simp only [size_cons, List.length_cons]
    omega
  · simp only [size_cons, List.length_cons]
    omega
  · exact size_afterShort short more rest
  · simp only [size_cons]
    omega

theorem read_map_word (names : Vocabulary) (args : List (List Char)) :
    read names ("--".toList :: args) = .ok (args.map fun arg => .word (String.ofList arg)) := by
  simp [read]

/-! ## Views -/

namespace Item

/-- The switches without values among items. -/
def flags (items : List Item) : List Switch :=
  items.filterMap fun
    | flag switch => some switch
    | _ => none

/-- The named sources, in order. -/
def sources (items : List Item) : List String :=
  items.filterMap fun
    | source reference => some reference
    | _ => none

/-- The words, in order. -/
def words (items : List Item) : List String :=
  items.filterMap fun
    | word text => some text
    | _ => none

/-- The command with its arguments. -/
def command? (items : List Item) : Option (Command × List String) :=
  items.findSome? fun
    | command c rest => some (c, rest)
    | _ => none

end Item

/-- The items of a command line on which no switch without a value is given twice. -/
def items (names : Vocabulary) (args : List String) : Except UsageError (List Item) := do
  let items ← read names (args.map String.toList)
  if (Item.flags items).Nodup then return items else throw .repeatedSwitch

end HMSignature.CommandLine
