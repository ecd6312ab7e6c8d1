import HMSignature.Definition.Definer
import Mathlib.Data.List.Induction
/-!
# The configuration in force

Variables are set and unset, settings are read with keywords, definers are created, and in between somebody asks for the
configuration or reloads it. The configuration that is in force then is the one of the last load, with the variables of
that moment, however long ago it was. A reload ends what was in force before it, also when it fails.

How settings are loaded does not matter, as long as only the variables and the keywords tell what comes of it. What a
load is can be told from the history alone: a reload that succeeds, or a question that is answered while nothing is in
force.

Results:
1. `run_ask_of_loaded`, `run_ask_of_empty`, `run_reload`, `loaded_run_of_not`: what a step does to the configuration
   that is kept;
2. `inForce_concat_iff`: what a step does to the load in force;
3. `loaded_after`: what is kept after any history is what the load in force has read;
4. `in_force_since_load`.
-/

namespace HMSignature.Config

/-! ## Histories -/

/-- A step of a program that uses settings. -/
inductive Step where
  | set (name value : String)
  | unset (name : String)
  /-- Reads settings with keywords. -/
  | build (keywords : List (String × Datum))
  /-- Asks for the configuration in force. -/
  | get
  | reload
  /-- Creates a definer, which asks for the configuration unless it is told whether to check. -/
  | create (environment : Option (List Descriptor)) (typeClasses : List TypeClass) (checkTypes : Option Flag)

/-- What a step gives. -/
inductive Answer where
  | done
  | refused (error : VariableError)
  | config (outcome : Except ConfigError Config)
  | definer (outcome : Except ConfigError Definer)

/-- The settings could be read. -/
def Answer.Succeeds : Answer → Prop
  | config (.ok _) => True
  | definer (.ok _) => True
  | _ => False

namespace Step

/-- What a step gives, and what is there afterwards. -/
def run (loader : Loader) (s : Surroundings) : Step → Answer × Surroundings
  | set name value =>
      match s.set name value with
      | .ok s' => (.done, s')
      | .error e => (.refused e, s)
  | unset name => (.done, s.unset name)
  | build keywords => (.config (loader s.assigned keywords), s)
  | get => (.config (s.current loader).1, (s.current loader).2)
  | reload => (.config (s.reload loader).1, (s.reload loader).2)
  | create environment typeClasses checkTypes =>
      let made := Definer.create loader s environment typeClasses checkTypes
      (.definer made.1, made.2)

/-- The step asks for the configuration in force. -/
def asks : Step → Bool
  | get => true
  | create _ _ none => true
  | _ => false

/-- What a step that asks gives, by the configuration that it finds. -/
def reply (outcome : Except ConfigError Config) : Step → Answer
  | create environment typeClasses _ =>
      .definer (outcome.map fun config =>
        ⟨environment.getD Environment.default, typeClasses, .bool config.checkTypes⟩)
  | _ => .config outcome

/-- The step reads settings or makes a definer without asking for the configuration in force. -/
def standsAlone : Step → Bool
  | build _ => true
  | create _ _ (some _) => true
  | _ => false

/-- What a step does to the variables. -/
def assign (assigned : Variables) : Step → Variables
  | set name value =>
      match Surroundings.set ⟨assigned, none⟩ name value with
      | .ok s => s.assigned
      | .error _ => assigned
  | unset name => assigned.erase name
  | _ => assigned

end Step

/-- The variables after a history. -/
def assignments (history : List Step) : Variables :=
  history.foldl Step.assign []

/-- What is there after a history. -/
def after (loader : Loader) (history : List Step) : Surroundings :=
  history.foldl (fun s step => (step.run loader s).2) .initial

/-- What a step gives after a history. -/
def answer (loader : Loader) (history : List Step) (step : Step) : Answer :=
  (step.run loader (after loader history)).1

/-- A step is a load if it is a reload that succeeds, or if it asks, succeeds, and there was no load since the last
reload or, without one, since the start. -/
def IsLoad (loader : Loader) (history : List Step) (step : Step) : Prop :=
  (answer loader history step).Succeeds ∧
    (step = .reload ∨ step.asks = true ∧
      ∀ before earlier since, (split : history = before ++ earlier :: since) → .reload ∉ since →
        ¬IsLoad loader before earlier)
termination_by history.length
decreasing_by simp [split]

/-- The load in force after a history came after the steps `before`, and no reload was tried since. -/
def InForce (loader : Loader) (history before : List Step) : Prop :=
  ∃ step since, history = before ++ step :: since ∧ .reload ∉ since ∧ IsLoad loader before step

variable {loader : Loader} {history before : List Step} {step : Step} {s : Surroundings} {config : Config}

theorem isLoad_iff :
    IsLoad loader history step ↔
      (answer loader history step).Succeeds ∧
        (step = .reload ∨ step.asks = true ∧ ∀ before, ¬InForce loader history before) := by
  rw [IsLoad]
  refine and_congr_right fun _ => or_congr_right (and_congr_right fun _ => ⟨?_, ?_⟩)
  · rintro noLoad before ⟨earlier, since, split, noReload, isLoad⟩
    exact noLoad before earlier since split noReload isLoad
  · intro noLoad before earlier since split noReload isLoad
    exact noLoad before ⟨earlier, since, split, noReload, isLoad⟩

/-! ## What a step does -/

theorem current_of_loaded (kept : s.loaded = some config) : s.current loader = (.ok config, s) := by
  rw [Surroundings.current, kept]

/-- If nothing is kept, the variables of the moment are read, and what they give is kept if it is valid. -/
theorem current_of_empty (empty : s.loaded = none) :
    s.current loader = (loader s.assigned [], { s with loaded := (loader s.assigned []).toOption }) := by
  obtain ⟨assigned, loaded⟩ := s
  cases empty
  rw [Surroundings.current]
  cases loader assigned [] <;> rfl

theorem create_eq (s : Surroundings) (environment : Option (List Descriptor)) (typeClasses : List TypeClass) :
    (Step.create environment typeClasses none).run loader s =
      ((Step.create environment typeClasses none).reply (s.current loader).1, (s.current loader).2) := by
  simp only [Step.run, Definer.create]
  rcases s.current loader with ⟨config | e, s'⟩ <;> rfl

theorem run_of_asks (asked : step.asks = true) :
    step.run loader s = (step.reply (s.current loader).1, (s.current loader).2) := by
  cases step with
  | get => rfl
  | create environment typeClasses checkTypes =>
    cases checkTypes with
    | none => exact create_eq s environment typeClasses
    | some checks => cases asked
  | _ => cases asked

/-- Who asks while a configuration is kept gets that one. -/
theorem run_ask_of_loaded (asked : step.asks = true) (kept : s.loaded = some config) :
    step.run loader s = (step.reply (.ok config), s) := by
  rw [run_of_asks asked, current_of_loaded kept]

theorem run_ask_of_empty (asked : step.asks = true) (empty : s.loaded = none) :
    step.run loader s = (step.reply (loader s.assigned []), { s with loaded := (loader s.assigned []).toOption }) := by
  rw [run_of_asks asked, current_of_empty empty]

/-- A reload reads the variables of the moment, whatever is kept. -/
theorem run_reload (s : Surroundings) :
    Step.reload.run loader s =
      (.config (loader s.assigned []), { s with loaded := (loader s.assigned []).toOption }) := by
  rw [Step.run, Surroundings.reload, current_of_empty rfl]

/-- Whether a variable can be set, and what it does, has nothing to do with what is kept. -/
theorem set_eq (s : Surroundings) (name value : String) :
    s.set name value =
      (Surroundings.set ⟨s.assigned, none⟩ name value).map fun s' => ⟨s'.assigned, s.loaded⟩ := by
  unfold Surroundings.set
  split
  · rfl
  · split <;> rfl

/-- The other steps leave what is kept. -/
theorem loaded_run_of_not (notAsked : step.asks = false) (notReload : step ≠ .reload) :
    (step.run loader s).2.loaded = s.loaded := by
  cases step with
  | set name value =>
    rw [Step.run, set_eq]
    cases Surroundings.set ⟨s.assigned, none⟩ name value <;> rfl
  | create environment typeClasses checkTypes =>
    cases checkTypes with
    | none => cases notAsked
    | some checks => rfl
  | get => cases notAsked
  | reload => exact absurd rfl notReload
  | _ => rfl

/-- Only setting and unsetting change the variables, and what is kept has no part in that. -/
theorem assigned_run (s : Surroundings) (step : Step) : (step.run loader s).2.assigned = step.assign s.assigned := by
  have ofCurrent : (s.current loader).2.assigned = s.assigned := by
    cases kept : s.loaded with
    | some config => rw [current_of_loaded kept]
    | none => rw [current_of_empty kept]
  cases step with
  | set name value =>
    rw [Step.run, Step.assign, set_eq]
    cases Surroundings.set ⟨s.assigned, none⟩ name value <;> rfl
  | get => exact ofCurrent
  | reload => rw [run_reload]; rfl
  | create environment typeClasses checkTypes =>
    cases checkTypes with
    | none => rw [create_eq]; exact ofCurrent
    | some checks => rfl
  | _ => rfl

theorem succeeds_reply {outcome : Except ConfigError Config} :
    (step.reply outcome).Succeeds ↔ ∃ config, outcome = .ok config := by
  cases outcome with
  | ok config => cases step <;> exact ⟨fun _ => ⟨config, rfl⟩, fun _ => trivial⟩
  | error e => cases step <;> exact ⟨False.elim, nofun⟩

/-! ## The load in force -/

theorem after_concat (history : List Step) (step : Step) :
    after loader (history ++ [step]) = (step.run loader (after loader history)).2 := by
  rw [after, List.foldl_append]
  rfl

theorem assigned_after (history : List Step) : (after loader history).assigned = assignments history := by
  induction history using List.reverseRecOn with
  | nil => rfl
  | append_singleton history step ih =>
    rw [after_concat, assigned_run, ih, assignments, assignments, List.foldl_append]
    rfl

/-- A reload gives what the variables of the moment give. -/
theorem answer_reload (history : List Step) :
    answer loader history .reload = .config (loader (assignments history) []) := by
  rw [answer, run_reload, assigned_after]

/-- One more step leaves the load in force as it is, unless it is a load itself or a reload. -/
theorem inForce_concat_iff :
    InForce loader (history ++ [step]) before ↔
      (before = history ∧ IsLoad loader history step) ∨ (step ≠ .reload ∧ InForce loader history before) := by
  refine ⟨?_, ?_⟩
  · rintro ⟨earlier, since, split, noReload, isLoad⟩
    cases since using List.reverseRecOn with
    | nil =>
      obtain ⟨rfl, same⟩ := List.append_inj' split rfl
      cases same
      exact .inl ⟨rfl, isLoad⟩
    | append_singleton others last =>
      rw [← List.cons_append, ← List.append_assoc] at split
      obtain ⟨rfl, same⟩ := List.append_inj' split rfl
      cases same
      rw [List.mem_append, List.mem_singleton, not_or] at noReload
      exact .inr ⟨Ne.symm noReload.2, earlier, others, rfl, noReload.1, isLoad⟩
  · rintro (⟨rfl, isLoad⟩ | ⟨notReload, earlier, since, rfl, noReload, isLoad⟩)
    · exact ⟨step, [], rfl, List.not_mem_nil, isLoad⟩
    · refine ⟨earlier, since ++ [step], by simp, ?_, isLoad⟩
      rw [List.mem_append, List.mem_singleton]
      exact not_or.mpr ⟨noReload, notReload.symm⟩

/-- The step tries to load the configuration: always, or when it finds none. -/
def Step.attempts (step : Step) : Prop :=
  step = .reload ∨ step.asks = true

/-- What an attempt gives when nothing is kept, or is kept no longer. -/
theorem run_attempt (attempt : step.attempts) (empty : step = .reload ∨ s.loaded = none) :
    step.run loader s = (step.reply (loader s.assigned []), { s with loaded := (loader s.assigned []).toOption }) := by
  rcases attempt with rfl | asked
  · exact run_reload s
  · rcases empty with rfl | empty
    · cases asked
    · exact run_ask_of_empty asked empty

/-- A load reads the variables of the moment, and keeps what they give. -/
theorem loaded_of_isLoad (isLoad : IsLoad loader history step)
    (empty : step = .reload ∨ (after loader history).loaded = none) :
    ∃ config, loader (assignments history) [] = .ok config ∧
      (after loader (history ++ [step])).loaded = some config := by
  obtain ⟨succeeds, kind⟩ := isLoad_iff.mp isLoad
  have attempt : step.attempts := kind.imp_right And.left
  rw [answer, run_attempt attempt empty, succeeds_reply, assigned_after] at succeeds
  obtain ⟨config, valid⟩ := succeeds
  refine ⟨config, valid, ?_⟩
  rw [after_concat, run_attempt attempt empty, assigned_after, valid]
  rfl

/-- An attempt that fails keeps nothing, and nothing is left of what was kept before. -/
theorem loaded_of_fails (attempt : step.attempts) (fails : ¬(answer loader history step).Succeeds) :
    (after loader (history ++ [step])).loaded = none := by
  have empty : step = .reload ∨ (after loader history).loaded = none := by
    refine attempt.imp_right fun asked => ?_
    cases kept : (after loader history).loaded with
    | none => rfl
    | some config =>
      -- Who asks while a configuration is kept does not fail.
      rw [answer, run_ask_of_loaded asked kept, succeeds_reply] at fails
      exact absurd ⟨config, rfl⟩ fails
  rw [answer, run_attempt attempt empty, succeeds_reply] at fails
  rw [after_concat, run_attempt attempt empty]
  cases outcome : loader (after loader history).assigned [] with
  | ok config => exact absurd ⟨config, outcome⟩ fails
  | error e => rfl

/-- What is kept is what the load in force has read; if no load is in force, nothing is kept. -/
theorem loaded_after (history : List Step) :
    (∀ before, InForce loader history before →
      ∃ config, loader (assignments before) [] = .ok config ∧ (after loader history).loaded = some config) ∧
      ((∀ before, ¬InForce loader history before) → (after loader history).loaded = none) := by
  induction history using List.reverseRecOn with
  | nil =>
    refine ⟨?_, fun _ => rfl⟩
    rintro before ⟨step, since, split, -, -⟩
    exact absurd split.symm (List.append_ne_nil_of_right_ne_nil _ (List.cons_ne_nil _ _))
  | append_singleton history step ih =>
    obtain ⟨known, unknown⟩ := ih
    refine ⟨fun before inForce => ?_, fun noLoad => ?_⟩
    · rcases inForce_concat_iff.mp inForce with ⟨rfl, isLoad⟩ | ⟨notReload, earlier⟩
      · exact loaded_of_isLoad isLoad ((isLoad_iff.mp isLoad).2.imp_right fun asks => unknown asks.2)
      · obtain ⟨config, valid, kept⟩ := known before earlier
        refine ⟨config, valid, ?_⟩
        rw [after_concat]
        cases asked : step.asks with
        | true => rw [run_ask_of_loaded asked kept, kept]
        | false => rw [loaded_run_of_not asked notReload, kept]
    · have notLoad : ¬IsLoad loader history step :=
        fun isLoad => noLoad history (inForce_concat_iff.mpr (.inl ⟨rfl, isLoad⟩))
      by_cases again : step = .reload
      · exact loaded_of_fails (.inl again) fun succeeds => notLoad (isLoad_iff.mpr ⟨succeeds, .inl again⟩)
      · have still : ∀ before, ¬InForce loader history before := fun before earlier =>
          noLoad before (inForce_concat_iff.mpr (.inr ⟨again, earlier⟩))
        cases asked : step.asks with
        | true =>
          exact loaded_of_fails (.inr asked) fun succeeds => notLoad (isLoad_iff.mpr ⟨succeeds, .inr ⟨asked, still⟩⟩)
        | false => rw [after_concat, loaded_run_of_not asked again, unknown still]

/-- As long as nobody tries to load the configuration, what is kept stays. -/
theorem loaded_after_append {since : List Step} (quiet : ∀ step ∈ since, ¬step.attempts) :
    (after loader (history ++ since)).loaded = (after loader history).loaded := by
  induction since using List.reverseRecOn with
  | nil => rw [List.append_nil]
  | append_singleton since step ih =>
    rw [List.forall_mem_append, List.forall_mem_singleton] at quiet
    have notAsked : step.asks = false := Bool.eq_false_iff.mpr fun asked => quiet.2 (.inr asked)
    rw [← List.append_assoc, after_concat, loaded_run_of_not notAsked fun again => quiet.2 (.inl again), ih quiet.1]

/-- Reading settings with keywords and making a definer that is told whether to check have nothing to do with what is
kept. -/
theorem run_alone (alone : step.standsAlone = true) (s : Surroundings) (kept : Option Config) :
    step.run loader { s with loaded := kept } = ((step.run loader s).1, { s with loaded := kept }) := by
  cases step with
  | build keywords => rfl
  | create environment typeClasses checkTypes =>
    cases checkTypes with
    | none => cases alone
    | some checks => rfl
  | _ => cases alone

/-- The configuration in force is the one of the last load. Whoever asks after a load, with no reload tried in between,
gets what the variables gave at that load, whatever has been set, unset and read since. While no load is in force,
whoever asks gets what the variables of the moment give. An attempt that fails keeps nothing, so whoever asks next reads
the variables then, and fails exactly if they are invalid. Reading settings with keywords and making a definer that is
told whether to check neither look at what is kept nor change it. -/
theorem in_force_since_load (loader : Loader) (history : List Step) :
    (∀ before step since, history = before ++ step :: since → IsLoad loader before step → .reload ∉ since →
        ∃ config, loader (assignments before) [] = .ok config ∧
          ∀ ask : Step, ask.asks = true → answer loader history ask = ask.reply (.ok config)) ∧
      ((∀ before, ¬InForce loader history before) →
        ∀ ask : Step, ask.asks = true → answer loader history ask = ask.reply (loader (assignments history) [])) ∧
      (∀ before step since, history = before ++ step :: since → step.attempts → ¬(answer loader before step).Succeeds →
        (∀ later ∈ since, ¬later.attempts) →
        (after loader (before ++ [step])).loaded = none ∧
          ∀ ask : Step, ask.asks = true → answer loader history ask = ask.reply (loader (assignments history) []) ∧
            ((answer loader history ask).Succeeds ↔ ∃ config, loader (assignments history) [] = .ok config)) ∧
      ∀ step : Step, step.standsAlone = true → ∀ kept,
        step.run loader { after loader history with loaded := kept } =
          ((step.run loader (after loader history)).1, { after loader history with loaded := kept }) := by
  have read (empty : (after loader history).loaded = none) (ask : Step) (asked : ask.asks = true) :
      answer loader history ask = ask.reply (loader (assignments history) []) := by
    rw [answer, run_ask_of_empty asked empty, assigned_after]
  refine ⟨?load, fun noLoad => read ((loaded_after history).2 noLoad), ?failure, fun step alone => run_alone alone _⟩
  case load =>
    intro before step since split isLoad noReload
    obtain ⟨config, valid, kept⟩ := (loaded_after history).1 before ⟨step, since, split, noReload, isLoad⟩
    refine ⟨config, valid, fun ask asked => ?_⟩
    rw [answer, run_ask_of_loaded asked kept]
  case failure =>
    intro before step since split attempt fails quiet
    have empty := loaded_of_fails attempt fails
    have still : (after loader history).loaded = none := by
      rw [split, List.append_cons, loaded_after_append quiet, empty]
    exact ⟨empty, fun ask asked => ⟨read still ask asked, read still ask asked ▸ succeeds_reply⟩⟩

/-- A load, after which the variable becomes invalid: the configuration stays. A reload then fails, and with the
variable unset the default is read. -/
theorem in_force_since_load_invalid :
    let loaded := [Step.set "HMDEF_CHECK_TYPES" "no", .reload, .set "HMDEF_CHECK_TYPES" "maybe", .build []]
    let failed := loaded ++ [.reload, .unset "HMDEF_CHECK_TYPES"]
    answer load loaded .get = .config (.ok ⟨false, "WARNING"⟩) ∧
      answer load failed .get = .config (.ok ⟨true, "WARNING"⟩) := by
  have no : assignments [Step.set "HMDEF_CHECK_TYPES" "no"] = [("HMDEF_CHECK_TYPES", "no")] := by
    simp [assignments, Step.assign, Surroundings.set, String.contains_char_eq, Table.insert]
  have maybe : assignments [Step.set "HMDEF_CHECK_TYPES" "no", .reload, .set "HMDEF_CHECK_TYPES" "maybe", .build []] =
      [("HMDEF_CHECK_TYPES", "maybe")] := by
    simp [assignments, Step.assign, Surroundings.set, String.contains_char_eq, Table.insert]
  have nothing : assignments [Step.set "HMDEF_CHECK_TYPES" "no", .reload, .set "HMDEF_CHECK_TYPES" "maybe", .build [],
      .reload, .unset "HMDEF_CHECK_TYPES"] = [] := by
    simp [assignments, Step.assign, Surroundings.set, String.contains_char_eq, Table.insert, Table.erase]
  have isLoad : IsLoad load [.set "HMDEF_CHECK_TYPES" "no"] .reload := by
    refine isLoad_iff.mpr ⟨?_, .inl rfl⟩
    rw [answer_reload, no]
    trivial
  have fails : ¬(answer load [Step.set "HMDEF_CHECK_TYPES" "no", .reload, .set "HMDEF_CHECK_TYPES" "maybe", .build []]
      .reload).Succeeds := by
    rw [answer_reload, maybe]
    exact id
  refine ⟨?_, ?_⟩
  · obtain ⟨config, valid, gives⟩ := (in_force_since_load load _).1 _ _
      [.set "HMDEF_CHECK_TYPES" "maybe", .build []] rfl isLoad (by simp)
    rw [no] at valid
    cases valid
    exact gives .get rfl
  · obtain ⟨-, gives⟩ := (in_force_since_load load _).2.2.1 _ _ [.unset "HMDEF_CHECK_TYPES"] rfl (.inl rfl) fails
      (by simp [Step.attempts, Step.asks])
    exact (gives .get rfl).1.trans (congrArg (fun assigned => Answer.config (load assigned [])) nothing)

end HMSignature.Config
