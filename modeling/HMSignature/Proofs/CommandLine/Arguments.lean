import HMSignature.CommandLine.Basic
import HMSignature.Proofs.Except
/-!
# How sources and words are given

A source is given behind a switch in four ways, with signatures in between. In whichever way and order, a command finds
the sources in order and the signatures in order. In front of the command there may be a switch for a verbose run. That
much is documented of reading arguments (`Reader.Documented`), and runs need to know no more of it.

Results:
1. `finds_of_gives`: what arguments give is what is found in them;
2. `Reader.documented_standard`: the reader of the program reads arguments as it is documented;
3. `run_of_asks`: with any reader that does, a run comes down to its command, with the log that the configuration or the
   switch asks for;
4. `run_parse` and `run_resolve`: what the commands do with one signature.
-/

namespace HMSignature.CommandLine

/-- The text is not taken for a switch. -/
def IsPlain (text : String) : Prop := text.toList.head? ≠ some '-'

instance (text : String) : Decidable (IsPlain text) :=
  inferInstanceAs (Decidable (_ ≠ _))

/-- The arguments of a command give the sources and the words, each in this order. -/
inductive Gives : List String → List String → List String → Prop
  | nothing : Gives [] [] []
  | word {text : String} {args sources words : List String} :
      IsPlain text → Gives args sources words → Gives (text :: args) sources (text :: words)
  | short {source : String} {args sources words : List String} :
      Gives args sources words → Gives ("-e" :: source :: args) (source :: sources) words
  | shortJoined {source : String} {args sources words : List String} :
      source ≠ "" → Gives args sources words → Gives (("-e" ++ source) :: args) (source :: sources) words
  | long {source : String} {args sources words : List String} :
      source.toList.head? ≠ some '=' → Gives args sources words →
      Gives ("--env" :: source :: args) (source :: sources) words
  | longJoined {source : String} {args sources words : List String} :
      source ≠ "" → Gives args sources words → Gives (("--env=" ++ source) :: args) (source :: sources) words

/-- The arguments in front of a command ask for a verbose run, or for nothing. -/
inductive Asks : Bool → List String → Prop
  | nothing : Asks false []
  | short : Asks true ["-v"]
  | long : Asks true ["--verbose"]

/-- The name of a command. -/
def Command.word : Command → String
  | parse => "parse"
  | resolve => "resolve"

/-- What is documented of reading arguments:

* `front`: behind the switch for a verbose run, if it is there, the name of a command hands all further arguments to it;
* `parse`: the command for trees takes a signature that does not look like a switch;
* `resolve`: the command for types finds its sources and its signature, in whichever way they are given. -/
structure Reader.Documented (reader : Reader) : Prop where
  front : ∀ {verbose : Bool} {top : List String}, Asks verbose top → ∀ (command : Command) (args : List String),
    reader.front (top ++ command.word :: args) = .ok ⟨verbose, [], some (command, args)⟩
  parse : ∀ {text : String}, IsPlain text → reader.behind .parse [text] = .ok ([], text)
  resolve : ∀ {args sources : List String} {text : String}, Gives args sources [text] →
    reader.behind .resolve args = .ok (sources, text)

/-! ## Reading arguments -/

section Reading

variable {names : Vocabulary}

theorem read_word {text : String} (plain : IsPlain text) (noCommand : Table.get? names.commands text.toList = none)
    (rest : List (List Char)) :
    read names (text.toList :: rest) = (read names rest).map (.word text :: ·) := by
  have noSwitch : ∀ more, text.toList ≠ '-' :: more := by
    intro more chars
    rw [IsPlain, chars] at plain
    exact plain rfl
  rw [read, noCommand, String.ofList_toList]
  all_goals intros; exact noSwitch _ ‹_›

/-- A source behind a long switch. -/
theorem read_long {long value : List Char} {rest rest' : List (List Char)} (named : long ≠ [])
    (isSource : Table.get? names.switches (longName long) = some .source)
    (taken : takeValue? (pushBack (afterLong long) rest) = some (value, rest')) :
    read names (('-' :: '-' :: long) :: rest) = (read names rest').map (.source (String.ofList value) :: ·) := by
  rw [read, isSource]
  · dsimp only
    split
    · rename_i none
      cases none.symm.trans taken
    · rename_i some
      cases some.symm.trans taken
      rfl
  · exact named

/-- A source behind a short switch. -/
theorem read_short {short : Char} (letter : short ≠ '-') (isSource : Table.get? names.switches [short] = some .source)
    (value : List Char) (rest : List (List Char)) :
    read names (['-', short] :: value :: rest) = (read names rest).map (.source (String.ofList value) :: ·) := by
  rw [read, isSource] <;> simp [letter]

/-- A source in one argument with a short switch. -/
theorem read_shortJoined {short : Char} (letter : short ≠ '-')
    (isSource : Table.get? names.switches [short] = some .source) {value : List Char} (nonempty : value ≠ [])
    (rest : List (List Char)) :
    read names (('-' :: short :: value) :: rest) = (read names rest).map (.source (String.ofList value) :: ·) := by
  rw [read, isSource] <;> simp [letter, nonempty]

theorem read_nil : read names [] = .ok [] := by
  rw [read]

end Reading

theorem takeValue?_cons {value : List Char} (noSign : value.head? ≠ some '=') (rest : List (List Char)) :
    takeValue? (value :: rest) = some (value, rest) := by
  rw [takeValue?]
  · rintro rfl
    exact absurd rfl noSign
  · rintro _ _ rfl
    exact absurd rfl noSign
  · rintro _ rfl
    exact absurd rfl noSign

/-- The command finds the sources and the words in what is read, and nothing else. -/
def Finds (args : List (List Char)) (sources words : List String) : Prop :=
  ∃ found, read (.of .resolve) args = .ok found ∧ Item.flags found = [] ∧ Item.sources found = sources ∧
    Item.words found = words

namespace Finds

variable {args args' : List (List Char)} {sources words : List String}

theorem word {text : String} (h : Finds args sources words)
    (first : read (.of .resolve) args' = (read (.of .resolve) args).map (.word text :: ·)) :
    Finds args' sources (text :: words) := by
  obtain ⟨found, hfound, flags, rfl, rfl⟩ := h
  exact ⟨.word text :: found, by rw [first, hfound]; rfl, flags, rfl, rfl⟩

theorem source {source : String} (h : Finds args sources words)
    (first : read (.of .resolve) args' = (read (.of .resolve) args).map (.source (String.ofList source.toList) :: ·)) :
    Finds args' (source :: sources) words := by
  obtain ⟨found, hfound, flags, rfl, rfl⟩ := h
  rw [String.ofList_toList] at first
  exact ⟨.source source :: found, by rw [first, hfound]; rfl, flags, rfl, rfl⟩

end Finds

/-- What arguments give is found in them. -/
theorem finds_of_gives {args sources words : List String} (h : Gives args sources words) :
    Finds (args.map String.toList) sources words := by
  induction h with
  | nothing => exact ⟨[], read_nil, rfl, rfl, rfl⟩
  | word plain _ ih => exact ih.word (read_word plain rfl _)
  | short _ ih => exact ih.source (read_short (by decide) rfl _ _)
  | @shortJoined source args _ _ nonempty _ ih =>
    have chars : ("-e" ++ source).toList = '-' :: 'e' :: source.toList := String.toList_append
    refine ih.source ?_
    rw [List.map_cons, chars]
    exact read_shortJoined (by decide) rfl (mt String.toList_eq_nil_iff.mp nonempty) _
  | long noSign _ ih =>
    refine ih.source ?_
    have name : "--env".toList = '-' :: '-' :: ['e', 'n', 'v'] := rfl
    rw [List.map_cons, List.map_cons, name]
    exact read_long (List.cons_ne_nil _ _) rfl (takeValue?_cons noSign _)
  | @longJoined source args _ _ nonempty _ ih =>
    have chars : ("--env=" ++ source).toList = '-' :: '-' :: 'e' :: 'n' :: 'v' :: '=' :: source.toList :=
      String.toList_append
    refine ih.source ?_
    rw [List.map_cons, chars]
    refine read_long (List.cons_ne_nil _ _) rfl ?_
    cases value : source.toList with
    | nil => exact absurd (String.toList_eq_nil_iff.mp value) nonempty
    | cons c cs => rfl

theorem read_command (command : Command) (args : List String) :
    read .top ((command.word :: args).map String.toList) = .ok [.command command args] := by
  have named : Table.get? Vocabulary.top.commands command.word.toList = some command := by
    cases command <;> rfl
  have noSwitch : ∀ more, command.word.toList ≠ '-' :: more := by
    cases command <;> nofun
  rw [List.map_cons, read, named]
  · simp [Function.comp_def]
  all_goals intros; exact noSwitch _ ‹_›

theorem read_verbose {verbose : Bool} {top : List String} (h : Asks verbose top) {rest : List (List Char)}
    {found : List Item} (hfound : read .top rest = .ok found) :
    read .top (top.map String.toList ++ rest) = .ok (if verbose then .flag .verbose :: found else found) := by
  cases h with
  | nothing => exact hfound
  -- The equations of `read` ask for more than a switch without a value needs, so it is unfolded here.
  | short =>
    have first : ["-v"].map String.toList ++ rest = ['-', 'v'] :: rest := rfl
    rw [first, read.eq_def]
    exact congrArg (Except.map (.flag .verbose :: ·)) hfound
  | long =>
    have first : ["--verbose"].map String.toList ++ rest = "--verbose".toList :: rest := rfl
    rw [first, read.eq_def]
    exact congrArg (Except.map (.flag .verbose :: ·)) hfound

theorem requested_of_read {names : Vocabulary} {args : List String} {found : List Item}
    (hfound : read names (args.map String.toList) = .ok found) (nodup : (Item.flags found).Nodup)
    (quiet : shows found = false) : requested names args = .ok found := by
  have items : items names args = .ok found := by
    rw [CommandLine.items, hfound, ok_bind, if_pos nodup]
    rfl
  rw [requested, items]
  show (if shows found = true then _ else _) = _
  rw [quiet]
  rfl

/-- The reader of the program reads arguments as it is documented. -/
theorem Reader.documented_standard : Reader.standard.Documented where
  front {verbose top} asks command args := by
    have found := read_verbose asks (read_command command args)
    rw [← List.map_append] at found
    show (requested .top _ >>= _) = _
    cases verbose with
    | false =>
      rw [requested_of_read found List.nodup_nil rfl]
      rfl
    | true =>
      rw [requested_of_read found (by simp [Item.flags]) rfl]
      rfl
  parse {text} plain := by
    have found : read (.of .parse) ([text].map String.toList) = .ok [.word text] := by
      rw [List.map_singleton, read_word plain rfl, read_nil]
      rfl
    show (requested (.of .parse) _ >>= _) = _
    rw [requested_of_read found List.nodup_nil rfl]
    rfl
  resolve {args sources text} gives := by
    obtain ⟨found, hfound, flags, rfl, words⟩ := finds_of_gives gives
    have all := requested_of_read hfound (flags ▸ List.nodup_nil) (by rw [shows, flags]; rfl)
    show (requested (.of .resolve) _ >>= _) = _
    rw [all, ok_bind, words]
    rfl

/-! ## Running commands -/

section Run

variable {reader : Reader} (documented : reader.Documented) {loader : Config.Loader} {setting : Setting}
  {verbose logs : Bool} {top : List String} {text : String}

include documented

/-- A run comes down to its command, with the log that is asked for. -/
theorem run_of_asks (started : logging loader setting verbose = .ok logs) (asks : Asks verbose top)
    (command : Command) (args : List String) :
    run reader loader setting (top ++ command.word :: args) = runCommand reader setting logs command args := by
  rw [run, documented.front asks]
  dsimp only
  rw [started]
  rfl

/-- A signature is shown as a tree. -/
theorem run_parse (started : logging loader setting verbose = .ok logs) (asks : Asks verbose top)
    (plain : IsPlain text) : run reader loader setting (top ++ ["parse", text]) = .ok (parseReport text) := by
  refine (run_of_asks documented started asks .parse [text]).trans ?_
  rw [runCommand, documented.parse plain]
  rfl

/-- A signature is shown as types. -/
theorem run_resolve (started : logging loader setting verbose = .ok logs) (asks : Asks verbose top)
    {args sources : List String} (gives : Gives args sources [text]) :
    run reader loader setting (top ++ "resolve" :: args) = execute setting logs .resolve sources text := by
  refine (run_of_asks documented started asks .resolve args).trans ?_
  rw [runCommand, documented.resolve gives]

end Run

end HMSignature.CommandLine
