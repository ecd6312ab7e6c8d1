import HMSignature.Proofs.Definition.Grouping
import HMSignature.Proofs.Resolution.Translation
/-!
# Curried functions

A function of several arguments can be written as functions of one argument inside each other. A definition around the
outermost of them, made as a curried one, takes its arguments as the definition around the function itself does: in any
grouping, and none of the functions is called before the last argument is there. Then each of them is called once, from
the outside in, and the innermost one does what the function does.

How functions are made and called stays open. All that is asked is that a function which is made to take the next
argument takes it when it is called.

Results:
1. `invoke_curried`: the functions are entered in order, with one argument each;
2. `curried_eq_uncurried`: the definitions around a function and around its curried version cannot be told apart;
3. `Callable.listing`: the functions that give the list of their arguments are such a pair.
-/

namespace HMSignature

namespace Definition

variable {β α : Type} {m : Type → Type} [Monad m]

/-! ## Functions inside each other -/

/-- What a function does once it has some of `n` arguments: all that is to be done when they are complete, and otherwise
it gives the function that takes the next one. -/
def proceed (n : Nat) (body level : List α → m α) (held : List α) : m α :=
  if held.length = n then body held else level held

/-- A function of `n` arguments and its curried version, that is `n` functions of one argument inside each other. -/
structure Currying (convention : Convention m β α) (n : Nat) (function curried : β) where
  /-- Notes a call of the function itself. -/
  note : List α → m Unit
  /-- Notes a call of one of the functions inside each other, with its argument. -/
  enter : α → m Unit
  /-- What is done with all arguments. -/
  body : List α → m α
  /-- Makes the function that has some arguments and takes the next one. -/
  level : List α → m α
  run_function : ∀ args : List α, args.length = n → convention.run function args = do
    note args
    body args
  run_curried : ∀ arg : α, convention.run curried [arg] = do
    enter arg
    proceed n body level [arg]
  call_level : ∀ (held : List α) (arg : α), held ≠ [] → held.length < n →
    (do
      let f ← level held
      convention.call f [arg]) = do
      let _ ← level held
      enter arg
      proceed n body level (held ++ [arg])

namespace Currying

variable {convention : Convention m β α} {n : Nat} {function curried : β}

/-- Enters the functions that are left one after the other, with one argument each. Each one but the last gives the next
one. -/
def descend (c : Currying convention n function curried) (held : List α) : List α → m Unit
  | [] => pure ()
  | [arg] => c.enter arg
  | arg :: next :: rest => do
      c.enter arg
      let _ ← c.level (held ++ [arg])
      c.descend (held ++ [arg]) (next :: rest)

variable [LawfulMonad m] (c : Currying convention n function curried)

/-- The functions inside a function take the arguments that are left, and the last one does all that is to be done. -/
theorem foldlM_level (held : List α) (arg : α) (rest : List α) (some : held ≠ [])
    (complete : (held ++ arg :: rest).length = n) :
    (do
      let f ← c.level held
      (arg :: rest).foldlM (fun f arg => convention.call f [arg]) f) = (do
      let _ ← c.level held
      c.descend held (arg :: rest)
      c.body (held ++ arg :: rest)) := by
  have missing : held.length < n := by
    rw [List.length_append, List.length_cons] at complete
    omega
  simp only [List.foldlM_cons]
  rw [← bind_assoc, c.call_level held arg some missing]
  cases rest with
  | nil =>
    rw [proceed, if_pos complete]
    simp [descend]
  | cons next rest =>
    have more : (held ++ [arg]).length ≠ n := by
      simp only [List.length_append, List.length_cons, List.length_nil] at complete ⊢
      omega
    have inner := foldlM_level (held ++ [arg]) next rest (by simp) (by simpa using complete)
    rw [proceed, if_neg more]
    simp only [descend, bind_assoc, List.append_assoc, List.singleton_append] at inner ⊢
    rw [inner]

end Currying

/-- Of a curried definition the functions are entered in order, and then the whole is done. -/
theorem invoke_curried [LawfulMonad m] {convention : Convention m β α} {n : Nat} {function : β} {d : Definition β α}
    {f : Implementation β α} (around : d.func = .implementation f) (c : Currying convention n function f.behaviour)
    (curried : d.curried.isTrue = true) {args : List α} (some : args ≠ []) (complete : args.length = n) :
    d.invoke convention args = (do
      c.descend [] args
      c.body args) := by
  cases args with
  | nil => exact absurd rfl some
  | cons arg rest =>
    unfold invoke invokeBy
    rw [curried, around]
    dsimp only
    rw [Definable.call, c.run_curried]
    cases rest with
    | nil =>
      rw [proceed, if_pos complete]
      simp [Currying.descend]
    | cons next rest =>
      have more : [arg].length ≠ n := by
        simp only [List.length_cons, List.length_nil] at complete ⊢
        omega
      have inner := c.foldlM_level [arg] next rest (by simp) complete
      rw [proceed, if_neg more]
      simp only [Currying.descend, bind_assoc, List.nil_append, List.singleton_append] at inner ⊢
      rw [inner]

/-! ## Definitions around them -/

/-- A text that can be resolved can be read. -/
theorem parse_of_resolve {definer : Definer} {text : String} {r : Resolution}
    (resolved : definer.resolve text = .ok r) :
    ∃ s, Grammar.parse text = .ok s := by
  cases parsed : Grammar.parse text with
  | ok s => exact ⟨s, rfl⟩
  | error e =>
    rw [Definer.resolve, Resolution.ofText_of_parse_error parsed] at resolved
    cases resolved

/-- A plain definition without arguments comes to hold what it is called with, as long as it waits. -/
theorem reached_of_new {d : Definition β α} (plain : d.Plain) (new : d.args = []) (groups : List (List α))
    (waiting : groups = [] ∨ groups.flatten.length < d.arity) : Reached d groups (d.holding groups.flatten) := by
  cases groups with
  | nil =>
    rw [List.flatten_nil, holding_of_args new]
    exact .start
  | cons group groups =>
    have total : (d.args ++ (group :: groups).flatten).length < d.arity := by
      rw [new, List.nil_append]
      exact waiting.resolve_left (List.cons_ne_nil _ _)
    have reached := reached_holding plain group groups total
    rwa [new, List.nil_append] at reached

/-- A curried function makes no difference to callers. Around a function and around its curried version, neither with
attributes, a signature with parameters makes definitions that come to hold the same arguments when they are called with
the same groups of arguments, too few in all, and then nothing is run. With the next group both still wait, or both are
refused with the same complaint, or both do all that is to be done with the same arguments: the function is called once
with all of them, and the functions of the curried version are entered one after the other, with one of them each. -/
theorem curried_eq_uncurried (definer : Definer) (text : String) (r : Resolution) (n : Nat)
    (resolved : definer.resolve text = .ok r) (arity : r.types.length - 1 = n) (positive : 1 ≤ n)
    (f c : Implementation β α) (plain : f.attributes = .none) (plain' : c.attributes = .none) :
    ∃ d d' : Definition β α,
      definer.define text false (.implementation f) = .ok d ∧ definer.define text true (.implementation c) = .ok d' ∧
      ∀ groups : List (List α), groups = [] ∨ groups.flatten.length < n →
        ∃ p p' : Definition β α, Reached d groups p ∧ Reached d' groups p' ∧
          p.args = groups.flatten ∧ p'.args = groups.flatten ∧
          ∀ (m : Type → Type) [Monad m] [LawfulMonad m] (convention : Convention m β α)
            (version : Currying convention n f.behaviour c.behaviour) (group : List α),
            ((groups.flatten ++ group).length < n →
              p.call convention group = convention.ofDefinition (p.holding (groups.flatten ++ group)) ∧
              p'.call convention group = convention.ofDefinition (p'.holding (groups.flatten ++ group))) ∧
            (n < (groups.flatten ++ group).length →
              ∃ e : Excess, p.call convention group = convention.refuse e ∧
                p'.call convention group = convention.refuse e) ∧
            ((groups.flatten ++ group).length = n →
              p.call convention group = (do
                version.note (groups.flatten ++ group)
                version.body (groups.flatten ++ group)) ∧
              p'.call convention group = (do
                version.descend [] (groups.flatten ++ group)
                version.body (groups.flatten ++ group))) := by
  obtain ⟨s, parsed⟩ := parse_of_resolve resolved
  have made := define_of_resolve parsed resolved false (.implementation f : Definable β α)
  have made' := define_of_resolve parsed resolved true (.implementation c : Definable β α)
  rw [defined_of_plain _ _ _ _ plain] at made
  rw [defined_of_plain _ _ _ _ plain'] at made'
  refine ⟨_, _, made, made', fun groups waiting => ?_⟩
  obtain ⟨around, new, notCurried, isPlain⟩ := of_define plain made
  obtain ⟨around', new', isCurried, isPlain'⟩ := of_define plain' made'
  -- Both definitions have the name and the number of parameters of the one resolution.
  have waits : groups = [] ∨ groups.flatten.length < r.types.length - 1 := by rwa [arity]
  refine ⟨_, _, reached_of_new isPlain new groups waits, reached_of_new isPlain' new' groups waits, rfl, rfl, ?_⟩
  intro m _ _ convention version group
  refine ⟨fun few => ?_, fun many => ?_, fun complete => ?_⟩
  · rw [← arity] at few
    exact ⟨call_of_lt convention (plain_holding isPlain _) few, call_of_lt convention (plain_holding isPlain' _) few⟩
  · rw [← arity] at many
    exact ⟨_, call_of_gt convention many, call_of_gt convention many⟩
  · have full := complete.trans arity.symm
    have some : groups.flatten ++ group ≠ [] := by
      rintro none
      rw [none, List.length_nil] at complete
      omega
    constructor
    · rw [call_of_eq convention full]
      refine (invoke_of_not_curried convention (congrArg Value.isTrue notCurried) _).trans ?_
      exact (congrArg (Definable.call convention · _) around).trans (version.run_function _ complete)
    · rw [call_of_eq convention full]
      exact invoke_curried around' version (congrArg Value.isTrue isCurried) some complete

end Definition

/-! ## Live functions that give the list of their arguments -/

namespace Callable

open Definition (Currying proceed)

/-- Makes the function of one argument that has some of `n` arguments. -/
def listingLevel (n : Nat) (held : List LiveValue) : Running LiveValue :=
  toValue (.implementation ⟨.curry (n - held.length) held, "fn", none, .none⟩)

theorem curried_eq_proceed (n : Nat) {held : List LiveValue} (bound : held.length ≤ n) :
    curried (n - held.length) held = proceed n (fun args => return .list args) (listingLevel n) held := by
  unfold proceed
  by_cases full : held.length = n
  · rw [if_pos full, full, Nat.sub_self]
    rfl
  · obtain ⟨missing, h⟩ : ∃ missing, n - held.length = missing + 1 := ⟨n - held.length - 1, by omega⟩
    rw [if_neg full, listingLevel, h]
    rfl

/-- The function that lists its arguments, and its curried version. -/
def listing (scope : LiveScope) (depth n : Nat) (positive : 1 ≤ n) :
    Currying (convention scope (callWithin scope depth)) n .collect (.curry n []) where
  note := logCall
  enter arg := logCall [arg]
  body args := return .list args
  level := listingLevel n
  run_function _ _ := rfl
  run_curried arg := by
    have first := curried_eq_proceed n (show [arg].length ≤ n from positive)
    rw [← first]
    rfl
  call_level held arg _ missing := by
    have bound : (held ++ [arg]).length ≤ n := by
      rw [List.length_append, List.length_singleton]
      exact missing
    have next := curried_eq_proceed n bound
    have left : n - held.length - 1 = n - (held ++ [arg]).length := by
      rw [List.length_append, List.length_singleton]
      omega
    rw [← next, ← left]
    cases depth <;> rfl

/-- Each function of the curried version is logged with its one argument, and each but the last makes the next one. -/
theorem run_descend_listing (scope : LiveScope) (depth n : Nat) (positive : 1 ≤ n) (held args : List LiveValue)
    (trace : Trace) :
    ((listing scope depth n positive).descend held args).run trace =
      (.ok (), ⟨trace.calls ++ args.map ([·]), trace.next + (args.length - 1)⟩) := by
  induction args generalizing held trace with
  | nil => simp [Currying.descend]; rfl
  | cons arg rest ih =>
    cases rest with
    | nil => rfl
    | cons next rest =>
      have step : ((listing scope depth n positive).descend held (arg :: next :: rest)).run trace =
          ((listing scope depth n positive).descend (held ++ [arg]) (next :: rest)).run
            ⟨trace.calls ++ [[arg]], trace.next + 1⟩ := by
        rw [Currying.descend]
        rfl
      have count : trace.next + 1 + ((next :: rest).length - 1) = trace.next + ((arg :: next :: rest).length - 1) := by
        simp only [List.length_cons]
        omega
      rw [step, ih, count, List.append_assoc]
      rfl

end Callable

theorem Definition.curried_eq_uncurried_add :
    ∃ d d' p p' : LiveDefinition,
      (Definer.mk Environment.default [] (.bool true)).define "add :: Number -> Number -> Number" false
        (.implementation ⟨.collect, "add", none, .none⟩) = .ok d ∧
      (Definer.mk Environment.default [] (.bool true)).define "add :: Number -> Number -> Number" true
        (.implementation ⟨.curry 2 [], "add", none, .none⟩) = .ok d' ∧
      Reached d [[], [.int 1]] p ∧ Reached d' [[], [.int 1]] p' ∧
      ∀ (scope : LiveScope) (depth : Nat) (trace : Trace),
        (p.call (Callable.convention scope (Callable.callWithin scope depth)) [.int 2]).run trace =
          (.ok (.list [.int 1, .int 2]), ⟨trace.calls ++ [[.int 1, .int 2]], trace.next⟩) ∧
        (p'.call (Callable.convention scope (Callable.callWithin scope depth)) [.int 2]).run trace =
          (.ok (.list [.int 1, .int 2]), ⟨trace.calls ++ [[.int 1], [.int 2]], trace.next + 1⟩) := by
  have parsed : Grammar.parse "add :: Number -> Number -> Number" =
      .ok ⟨"add", [], .function [.constructor "Number" [], .constructor "Number" [], .constructor "Number" []]⟩ := by
    refine Grammar.parse_eq_ok_iff.mpr
      ⟨[.name "add", .symbol "::", .name "Number", .symbol "->", .name "Number", .symbol "->", .name "Number"],
        by rfl, .free ?_⟩
    have number (rest : List Grammar.Token) :
        Grammar.ApplicationAt (.name "Number" :: rest) (.constructor "Number" []) rest := .bare (.upper (by decide))
    exact .function (number _) (.more (number _) (.more (number _) .none))
  have resolved : (Definer.mk Environment.default [] (.bool true)).resolve "add :: Number -> Number -> Number" =
      .ok ⟨"add", [], List.replicate 3 (.operator (.constructor Builtin.number))⟩ :=
    (Resolution.ofText_eq_ok_iff parsed).mpr ⟨rfl, rfl, rfl⟩
  obtain ⟨d, d', made, made', calls⟩ := curried_eq_uncurried _ _ _ 2 resolved rfl (by decide)
    (⟨.collect, "add", none, .none⟩ : Implementation Behaviour LiveValue) ⟨.curry 2 [], "add", none, .none⟩ rfl rfl
  obtain ⟨p, p', reached, reached', -, -, next⟩ := calls [[], [.int 1]] (.inr (by decide))
  refine ⟨d, d', p, p', made, made', reached, reached', fun scope depth trace => ?_⟩
  obtain ⟨atOnce, inTurn⟩ :=
    (next _ _ (Callable.listing scope depth 2 (by decide)) [.int 2]).2.2 rfl
  rw [atOnce, inTurn]
  refine ⟨rfl, ?_⟩
  rw [run_bind, Callable.run_descend_listing]
  rfl

end HMSignature
