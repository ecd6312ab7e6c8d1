import HMSignature.Proofs.CommandLine.Arguments
import HMSignature.Proofs.CommandLine.Reported
import HMSignature.Proofs.CommandLine.Sources
import HMSignature.Proofs.CommandLine.TypeOutput
/-!
# The command line and the library

A command reports what the library makes of a signature: its lines, or else the message of the error and no lines. What
the arguments add to the environment is what the sources have, and what is wrong with a signature is told before
anything is looked up, so that sources do not matter then. The log is no part of the output.

Any reader of arguments will do that reads them as it is documented, and any way to load the configuration.

Results:
1. `resolveReport_eq`: with a sound environment the types of a signature are reported, whatever they are;
2. `commands_agree`: both commands report what the library says, under every configuration and however verbose.
-/

namespace HMSignature

/-- The wording of an error. -/
def SignatureError.message : SignatureError → String
  | syntactic e => e.message
  | semantic e => e.message

namespace CommandLine

/-- A report on an outcome: the lines of a result, or nothing but the message of an error. -/
structure Reports {ε α : Type} (outcome : Except ε α) (lines : α → List String) (message : ε → String)
    (report : Report) : Prop where
  code_eq_zero_iff : report.code = 0 ↔ ∃ a, outcome = .ok a
  output_of_ok : ∀ a, outcome = .ok a → report.output = lines a
  eq_of_error : ∀ e, outcome = .error e → report = ⟨1, [], [message e]⟩

namespace Reports

variable {ε α : Type} {lines : α → List String} {message : ε → String}

theorem ok (a : α) (log : List String) : Reports (.ok a) lines message ⟨0, lines a, log⟩ where
  code_eq_zero_iff := ⟨fun _ => ⟨a, rfl⟩, fun _ => rfl⟩
  output_of_ok := by
    rintro _ ⟨⟩
    rfl
  eq_of_error := nofun

theorem error (e : ε) : Reports (.error e) lines message ⟨1, [], [message e]⟩ where
  code_eq_zero_iff := ⟨nofun, nofun⟩
  output_of_ok := nofun
  eq_of_error := by
    rintro _ ⟨⟩
    rfl

end Reports

/-- A run starts with these variables and arguments in front of the command: the configuration can be loaded, its level
is known, and the arguments ask for a verbose run or for nothing. -/
structure Starts (loader : Config.Loader) (assigned : Variables) (top : List String) : Prop where
  configured : ∃ config, loader assigned [] = .ok config ∧ config.logLevel ∈ levels
  asks : ∃ verbose, Asks verbose top

/-- A variable operator without slots. -/
def Attribute.IsBareVariable (a : Attribute) : Prop :=
  ∃ name bound, a = .type (.operator (.var name 0 bound))

theorem Starts.logging {loader : Config.Loader} {assigned : Variables} {top : List String}
    (h : Starts loader assigned top) (sources : Sources) (firstFree : Nat) :
    ∃ verbose logs, CommandLine.logging loader ⟨assigned, sources, firstFree⟩ verbose = .ok logs ∧
      Asks verbose top := by
  obtain ⟨config, loaded, known⟩ := h.configured
  obtain ⟨verbose, asks⟩ := h.asks
  cases verbose with
  | true => exact ⟨true, true, rfl, asks⟩
  | false =>
    refine ⟨false, logsResolutions config.logLevel, ?_, asks⟩
    have contains : levels.contains config.logLevel = true := List.contains_iff_mem.mpr known
    simp only [CommandLine.logging, loaded, Except.mapError, ok_bind, contains]
    rfl

/-! ## Environments -/

theorem sound_default : ∀ item ∈ Environment.default, item.Sound := by
  intro item member
  obtain ⟨c, -, rfl⟩ := List.mem_map.mp member
  exact Descriptor.sound_of_ne nofun

/-- What sources add is sound, if none of them has a bare variable. -/
theorem sound_added {modules listings : List (List (String × Attribute))}
    (listed : List.Forall₂ IsListing modules listings)
    (noBare : ∀ attributes ∈ modules, ∀ entry ∈ attributes, ¬entry.2.IsBareVariable) :
    ∀ item ∈ added Catalog.type? listings, item.Sound := by
  induction listed with
  | nil => nofun
  | @cons attributes listing _ _ first _ ih =>
    rw [List.forall_mem_cons] at noBare
    rw [Catalog.added_cons, List.forall_mem_append]
    refine ⟨?_, ih noBare.2⟩
    intro item member
    obtain ⟨a, inside, isType⟩ := List.mem_filterMap.mp member
    obtain ⟨entry, inListing, rfl⟩ := List.mem_map.mp inside
    have inSource := Table.mem_of_mem_ofList ((first.complete entry).mp inListing)
    refine Descriptor.sound_of_ne fun name bound same => noBare.1 entry inSource ⟨name, bound, ?_⟩
    subst same
    unfold Catalog.type? at isType
    split at isType
    · rename_i isOperator
      cases isType
      exact isOperator
    · cases isType
    · cases isType

/-! ## Reports -/

/-- The report on a resolution. -/
def reportOn (logs : Bool) (text : String) : Except SignatureError Resolution → Report
  | .ok r => ⟨0, typeLines r, if logs then [logLine text r] else []⟩
  | .error e => ⟨1, [], [e.message]⟩

theorem resolveReport_of_parse_error {text : String} {e : Grammar.ParseError} (parsed : Grammar.parse text = .error e)
    (logs : Bool) (catalog : Catalog) : resolveReport logs catalog text = .ok ⟨1, [], [e.message]⟩ := by
  rw [resolveReport, Resolution.ofText_of_parse_error parsed]
  rfl

/-- With a sound environment a signature is reported on, whatever becomes of it. -/
theorem resolveReport_eq {catalog : Catalog} (sound : ∀ item ∈ catalog.environment, item.Sound) (logs : Bool)
    (text : String) :
    resolveReport logs catalog text =
      .ok (reportOn logs text (Resolution.ofText catalog.typeClasses catalog.environment text)) := by
  unfold resolveReport
  cases outcome : Resolution.ofText catalog.typeClasses catalog.environment text with
  | ok r => rfl
  | error e =>
    cases e with
    | syntactic e => rfl
    | semantic e =>
      dsimp only
      rw [if_pos (isReported_of_ofText sound outcome)]
      rfl

theorem reports_parseReport (text : String) :
    Reports (Grammar.parse text) treeLines Grammar.ParseError.message (parseReport text) := by
  unfold parseReport
  cases Grammar.parse text with
  | ok s => exact .ok s []
  | error e => exact .error e

theorem reports_reportOn {classes : List TypeClass} {environment : List Descriptor} {text : String} (logs : Bool) :
    Reports (Resolution.ofText classes environment text) (resolutionLines text) SignatureError.message
      (reportOn logs text (Resolution.ofText classes environment text)) := by
  cases outcome : Resolution.ofText classes environment text with
  | ok r =>
    rw [reportOn, typeLines_eq outcome]
    exact .ok r _
  | error e => exact .error e

/-- Only the log depends on whether there is one, and only if there is a result. -/
theorem reportOn_eq (logs : Bool) (text : String) (outcome : Except SignatureError Resolution) :
    ∃ log, reportOn logs text outcome =
        ⟨(reportOn false text outcome).code, (reportOn false text outcome).output, log⟩ ∧
      ((reportOn false text outcome).code = 1 → log = (reportOn false text outcome).log) := by
  cases outcome with
  | ok r => exact ⟨_, rfl, nofun⟩
  | error e => exact ⟨_, rfl, fun _ => rfl⟩

section Commands

variable {reader : Reader} (documented : reader.Documented) {loader : Config.Loader}

include documented

variable {sources : Sources} {firstFree next : Nat} {references args : List String} {text : String}
  {modules listings : List (List (String × Attribute))}

/-- The command that shows types looks at its signature in the default environment with the sources behind it. -/
theorem run_resolve_listed {assigned : Variables} {verbose logs : Bool} {top : List String}
    (importable : (references.mapM sources.load).run firstFree = .ok (modules, next))
    (listed : List.Forall₂ IsListing modules listings) (gives : Gives args references [text])
    (started : logging loader ⟨assigned, sources, firstFree⟩ verbose = .ok logs) (asks : Asks verbose top) :
    run reader loader ⟨assigned, sources, firstFree⟩ (top ++ "resolve" :: args) =
      resolveReport logs ⟨Environment.default ++ added Catalog.type? listings,
        TypeClass.standard ++ added Catalog.typeClass? listings⟩ text := by
  have loaded : sources.loadAll (.default TypeClass.standard) references firstFree = .ok (_, next) :=
    Sources.loadAll_of_mapM importable listed
  rw [run_resolve documented started asks gives, execute, loaded]
  rfl

/-- Both commands report what the library makes of a signature, under every configuration and however verbose. What
cannot be read is reported alike by both, whatever the sources. This holds with every reader that reads arguments as it
is documented, and however the configuration is loaded. -/
theorem commands_agree (importable : (references.mapM sources.load).run firstFree = .ok (modules, next))
    (listed : List.Forall₂ IsListing modules listings) (plain : IsPlain text) (gives : Gives args references [text]) :
    ∃ tree : Report, Reports (Grammar.parse text) treeLines Grammar.ParseError.message tree ∧
      (∀ assigned top, Starts loader assigned top →
        run reader loader ⟨assigned, sources, firstFree⟩ (top ++ ["parse", text]) = .ok tree ∧
        (tree.code = 1 → run reader loader ⟨assigned, sources, firstFree⟩ (top ++ "resolve" :: args) = .ok tree)) ∧
      ((∀ attributes ∈ modules, ∀ entry ∈ attributes, ¬entry.2.IsBareVariable) →
        ∃ types : Report,
          Reports (Resolution.ofText (TypeClass.standard ++ added Catalog.typeClass? listings)
            (Environment.default ++ added Catalog.type? listings) text)
            (resolutionLines text) SignatureError.message types ∧
          ∀ assigned top, Starts loader assigned top →
            ∃ log, run reader loader ⟨assigned, sources, firstFree⟩ (top ++ "resolve" :: args) =
                .ok ⟨types.code, types.output, log⟩ ∧ (types.code = 1 → log = types.log)) := by
  refine ⟨parseReport text, reports_parseReport text, ?_, ?_⟩
  · intro assigned top starts
    obtain ⟨verbose, logs, started, asks⟩ := starts.logging sources firstFree
    refine ⟨run_parse documented started asks plain, fun failed => ?_⟩
    -- No hypothesis on the sources is needed: the resolver is not reached.
    rw [run_resolve_listed documented importable listed gives started asks]
    cases parsed : Grammar.parse text with
    | ok s =>
      rw [parseReport, parsed] at failed
      cases failed
    | error e =>
      rw [parseReport, parsed]
      exact resolveReport_of_parse_error parsed logs _
  · intro noBare
    refine ⟨_, reports_reportOn false, fun assigned top starts => ?_⟩
    obtain ⟨verbose, logs, started, asks⟩ := starts.logging sources firstFree
    obtain ⟨log, shown, sameLog⟩ := reportOn_eq logs text
      (Resolution.ofText (TypeClass.standard ++ added Catalog.typeClass? listings)
        (Environment.default ++ added Catalog.type? listings) text)
    refine ⟨log, ?_, sameLog⟩
    rw [run_resolve_listed documented importable listed gives started asks, ← shown]
    refine resolveReport_eq ?_ logs text
    exact List.forall_mem_append.mpr ⟨sound_default, sound_added listed noBare⟩

end Commands

theorem commands_agree_guess :
    ∃ log, program ⟨[], ⟨[("extra", [("ord", .typeClass TypeClass.ord),
          ("Unknown", .type (.operator (.constructor Builtin.unknown)))])], []⟩, Builtin.firstFree⟩
        ["-v", "resolve", "-eextra", "guess :: Ord a => a -> Unknown"] =
      .ok ⟨0, ["name: guess", "constraint: a :: Ord", "type: a", "type: Unknown"], log⟩ := by
  have parsed : Grammar.parse "guess :: Ord a => a -> Unknown" =
      .ok ⟨"guess", [⟨"Ord", "a"⟩], .function [.var "a", .constructor "Unknown" []]⟩ :=
    Grammar.parse_eq_ok_iff.mpr ⟨[.name "guess", .symbol "::", .name "Ord", .name "a", .symbol "=>", .name "a",
        .symbol "->", .name "Unknown"], by rfl,
      .constrained (.single (.mk (by decide) (by decide)))
        (.function (.bare (.lower (by decide))) (.more (.bare (.upper (by decide))) .none))⟩
  have resolved : Resolution.ofText (TypeClass.standard ++ [TypeClass.ord])
      (Environment.default ++ [.operator (.constructor Builtin.unknown)]) "guess :: Ord a => a -> Unknown" =
      .ok ⟨"guess", [("a", [TypeClass.ord])], [.type (.var "a"), .operator (.constructor Builtin.unknown)]⟩ :=
    (Resolution.ofText_eq_ok_iff parsed).mpr ⟨rfl, rfl, rfl⟩
  have importable : (["extra"].mapM (Sources.load ⟨[("extra", [("ord", .typeClass TypeClass.ord),
      ("Unknown", .type (.operator (.constructor Builtin.unknown)))])], []⟩)).run Builtin.firstFree =
      .ok ([[("ord", .typeClass TypeClass.ord), ("Unknown", .type (.operator (.constructor Builtin.unknown)))]],
        Builtin.firstFree) := by
    rw [List.mapM_cons, Sources.load, if_neg (by decide), if_neg (by simp)]
    rfl
  have listed : IsListing
      [("ord", .typeClass TypeClass.ord), ("Unknown", .type (.operator (.constructor Builtin.unknown)))]
      [("Unknown", .type (.operator (.constructor Builtin.unknown))), ("ord", .typeClass TypeClass.ord)] :=
    ⟨List.pairwise_pair.mpr (by decide), fun _ => (List.Perm.swap _ _ []).mem_iff⟩
  obtain ⟨-, -, -, types⟩ := commands_agree Reader.documented_standard importable (.cons listed .nil)
    (by decide : IsPlain "guess :: Ord a => a -> Unknown") (.shortJoined (by decide) (.word (by decide) .nothing))
  have noBare : ∀ attributes ∈ [[("ord", Attribute.typeClass TypeClass.ord),
      ("Unknown", .type (.operator (.constructor Builtin.unknown)))]], ∀ entry ∈ attributes,
      ¬entry.2.IsBareVariable := by
    rw [List.forall_mem_singleton, List.forall_mem_cons, List.forall_mem_singleton]
    exact ⟨nofun, nofun⟩
  obtain ⟨⟨code, output, _⟩, reports, runs⟩ := types noBare
  have starts : Starts Config.load [] ["-v"] := ⟨⟨_, rfl, by decide⟩, true, .short⟩
  obtain ⟨log, shown, -⟩ := runs [] ["-v"] starts
  have succeeds : code = 0 := reports.code_eq_zero_iff.mpr ⟨_, resolved⟩
  have lines : output = resolutionLines "guess :: Ord a => a -> Unknown" _ := reports.output_of_ok _ resolved
  have declared : declaredVars "guess :: Ord a => a -> Unknown" = ["a"] := by
    rw [declaredVars, parsed]
    rfl
  rw [resolutionLines, declared] at lines
  rw [succeeds, lines] at shown
  exact ⟨log, shown⟩

end CommandLine

end HMSignature
