import HMSignature.Definition.Callable
import HMSignature.Proofs.Grammar.Completeness
/-!
# Arguments in any grouping

A definition that waits for arguments gives another definition for some of them, the same one but for what it holds.
So only the arguments in order count, and not where one call ends and the next one begins. An implementation without
attributes of its own is what makes this true: attributes would win again over the parts of each new definition.

Results:
1. `call_of_lt`, `call_of_eq`, `call_of_gt`: what one call does;
2. `reached_holding`: what a run of calls comes to;
3. `call_in_groups`: calls with groups of arguments come to the call with all of them;
4. `run_callAll`: nothing is run while a live definition waits.
-/

namespace HMSignature

/-- The top-level entries of the signature include empty brackets. -/
def Grammar.Signature.hasThunk (s : Signature) : Bool :=
  s.entries.any fun entry => entry.kind = .thunk

namespace Definition

variable {β α : Type}

/-- Nothing wins over a part of the definition when it is made anew around what it calls: that has no attributes, and
its name and documentation are there already. -/
structure Plain (d : Definition β α) : Prop where
  attributes : d.func.attributes = .none
  funcName : d.func.name = d.funcName
  doc : d.func.doc = d.doc

/-- The definition with other arguments. -/
def holding (d : Definition β α) (args : List α) : Definition β α :=
  { d with args }

theorem holding_of_args {d : Definition β α} {args : List α} (held : d.args = args) : d.holding args = d := by
  subst held
  cases d
  rfl

theorem plain_holding {d : Definition β α} (plain : d.Plain) (args : List α) : (d.holding args).Plain :=
  ⟨plain.attributes, plain.funcName, plain.doc⟩

theorem make_eq_holding {d : Definition β α} (plain : d.Plain) (args : List α) :
    make d.func d.resolution d.checkTypes d.curried args d.thunk = d.holding args := by
  unfold make
  rw [plain.attributes, plain.funcName, plain.doc]
  rfl

/-! ## One call -/

section Call

universe u

variable {m : Type → Type u} [Monad m] (convention : Convention m β α)
variable {d : Definition β α} {more : List α}

/-- With arguments missing, a call only makes the definition that holds more of them. -/
theorem call_of_lt (plain : d.Plain) (waiting : (d.args ++ more).length < d.arity) :
    d.call convention more = convention.ofDefinition (d.holding (d.args ++ more)) := by
  unfold call callBy supply
  rw [if_neg (Nat.not_lt.mpr (Nat.le_of_lt waiting)), if_pos waiting, make_eq_holding plain]

theorem call_of_eq (complete : (d.args ++ more).length = d.arity) :
    d.call convention more = d.invoke convention (d.args ++ more) := by
  unfold call callBy supply
  rw [if_neg (by omega), if_neg (by omega)]
  rfl

theorem call_of_gt (excess : d.arity < (d.args ++ more).length) :
    d.call convention more = convention.refuse ⟨d.name, d.arity, (d.args ++ more).length⟩ := by
  unfold call callBy supply
  rw [if_pos excess]

theorem invoke_of_not_curried (notCurried : d.curried.isTrue = false) (args : List α) :
    d.invoke convention args = d.func.call convention args := by
  unfold invoke invokeBy
  rw [notCurried]

end Call

/-! ## A run of calls -/

/-- Groups of arguments, one after the other, come to a definition. The call with each group does nothing but make the
next definition, whatever functions are and however they are called. -/
inductive Reached : Definition β α → List (List α) → Definition β α → Prop
  | start {d : Definition β α} : Reached d [] d
  | call {d p p' : Definition β α} {group : List α} {groups : List (List α)} :
      (∀ (m : Type → Type) [Monad m] (convention : Convention m β α),
        d.call convention group = convention.ofDefinition p) →
      Reached p groups p' → Reached d (group :: groups) p'

/-- A definition that still waits afterwards has come to hold all the arguments in order, and is the same otherwise. -/
theorem reached_holding {d : Definition β α} (plain : d.Plain) (group : List α) (groups : List (List α))
    (waiting : (d.args ++ (group :: groups).flatten).length < d.arity) :
    Reached d (group :: groups) (d.holding (d.args ++ (group :: groups).flatten)) := by
  induction groups generalizing d group with
  | nil =>
    rw [List.flatten_singleton] at waiting ⊢
    exact .call (fun m _ convention => call_of_lt convention plain waiting) .start
  | cons next groups ih =>
    rw [List.flatten_cons, ← List.append_assoc] at waiting ⊢
    have first : (d.args ++ group).length < d.arity := by
      rw [List.length_append] at waiting
      omega
    -- The definition that holds one group more is plain again, and is called with the groups left.
    have others := @ih (d.holding (d.args ++ group)) (plain_holding plain _) next waiting
    exact .call (fun m _ convention => call_of_lt convention plain first) others

/-! ## Definitions made by a definer -/

/-- What a definer makes of a resolved signature. -/
def defined (definer : Definer) (r : Resolution) (curried thunk : Bool) (f : Definable β α) : Definition β α :=
  .make f r definer.checkTypes (.bool curried) [] (.bool thunk)

theorem resolution_defined (definer : Definer) (r : Resolution) (curried thunk : Bool) {f : Implementation β α}
    (plain : f.attributes.resolution = none) :
    (defined definer r curried thunk (.implementation f)).resolution = r :=
  congrArg (·.getD r) plain

/-- Around an implementation without attributes all parts are those that the definition is made with. -/
theorem defined_of_plain (definer : Definer) (r : Resolution) (curried thunk : Bool) {f : Implementation β α}
    (plain : f.attributes = .none) :
    defined definer r curried thunk (.implementation f) =
      ⟨.implementation f, r, definer.checkTypes, .bool curried, [], .bool thunk, f.name, f.doc⟩ := by
  have nothing : (Definable.implementation f).attributes = .none := plain
  rw [defined, make, nothing]
  rfl

theorem hasThunk_of_parse {text : String} {s : Grammar.Signature} (parsed : Grammar.parse text = .ok s) :
    Definer.hasThunk text = .ok s.hasThunk := by
  rw [Definer.hasThunk, parsed]
  rfl

/-- A definition can be made of every text that resolves. -/
theorem define_of_resolve {definer : Definer} {text : String} {s : Grammar.Signature} {r : Resolution}
    (parsed : Grammar.parse text = .ok s) (resolved : definer.resolve text = .ok r) (curried : Bool)
    (f : Definable β α) : definer.define text curried f = .ok (defined definer r curried s.hasThunk f) := by
  rw [Definer.define, resolved, ok_bind, hasThunk_of_parse parsed, ok_bind]
  rfl

/-- And of no other text. -/
theorem resolve_of_define {definer : Definer} {text : String} {curried : Bool} {f : Definable β α} {d : Definition β α}
    (made : definer.define text curried f = .ok d) :
    ∃ s r, Grammar.parse text = .ok s ∧ definer.resolve text = .ok r ∧ d = defined definer r curried s.hasThunk f := by
  obtain ⟨r, resolved, -⟩ := bind_eq_ok_iff.mp made
  cases parsed : Grammar.parse text with
  | error e =>
    rw [Definer.resolve, Resolution.ofText, parsed] at resolved
    cases resolved
  | ok s =>
    rw [define_of_resolve parsed resolved] at made
    exact ⟨s, r, rfl, resolved, (Except.ok.inj made).symm⟩

/-- What a definer makes around an implementation without attributes. -/
theorem of_define {definer : Definer} {text : String} {curried : Bool} {f : Implementation β α} {d : Definition β α}
    (plain : f.attributes = .none) (made : definer.define text curried (.implementation f) = .ok d) :
    d.func = .implementation f ∧ d.args = [] ∧ d.curried = .bool curried ∧ d.Plain := by
  obtain ⟨s, r, -, -, rfl⟩ := resolve_of_define made
  rw [defined_of_plain definer r curried s.hasThunk plain]
  exact ⟨rfl, rfl, rfl, plain, rfl, rfl⟩

/-- Arguments may be given in any grouping. A definition around a plain function that is called with groups of
arguments, too few in all, comes to a definition that holds them in order and is the same otherwise, and nothing is
run. The call that completes the arguments runs the function on all of them, as the one call with all of them does, and
a call with too many arguments is refused. -/
theorem call_in_groups (definer : Definer) (text : String) (f : Implementation β α) (d : Definition β α)
    (plain : f.attributes = .none) (made : definer.define text false (.implementation f) = .ok d)
    (groups : List (List α)) (waiting : groups = [] ∨ groups.flatten.length < d.arity) :
    ∃ p, Reached d groups p ∧
      (p.args = groups.flatten ∧ p.name = d.name ∧ p.types = d.types ∧ p.constraints = d.constraints ∧
        p.arity = d.arity ∧ p.signatureText = d.signatureText ∧ p.checkTypes = d.checkTypes ∧
        p.curried = d.curried ∧ p.thunk = d.thunk) ∧
      ∀ (group : List α) (m : Type → Type) [Monad m] (convention : Convention m β α),
        ((groups.flatten ++ group).length < d.arity →
          p.call convention group = convention.ofDefinition (p.holding (groups.flatten ++ group))) ∧
        ((groups.flatten ++ group).length = d.arity →
          p.call convention group = convention.run f.behaviour (groups.flatten ++ group) ∧
          p.call convention group = d.call convention (groups.flatten ++ group)) ∧
        (d.arity < (groups.flatten ++ group).length →
          ∃ e : Excess, p.call convention group = convention.refuse e ∧
            e.message = d.name ++ " takes " ++ toString d.arity ++ " " ++ Text.counted "argument" d.arity ++ "; " ++
              toString (groups.flatten ++ group).length ++ " given") := by
  obtain ⟨around, empty, curried, plain⟩ := of_define plain made
  have notCurried : d.curried.isTrue = false := by rw [curried]; rfl
  have calls {m : Type → Type} [Monad m] (convention : Convention m β α) (args : List α) :
      d.func.call convention args = convention.run f.behaviour args := by
    rw [around]
    rfl
  have reached : Reached d groups (d.holding groups.flatten) := by
    cases groups with
    | nil =>
      rw [List.flatten_nil, holding_of_args empty]
      exact .start
    | cons group groups =>
      have total : (d.args ++ (group :: groups).flatten).length < d.arity := by
        rw [empty, List.nil_append]
        exact waiting.resolve_left (List.cons_ne_nil _ _)
      have reached := reached_holding plain group groups total
      rwa [empty, List.nil_append] at reached
  refine ⟨d.holding groups.flatten, reached, ⟨rfl, rfl, rfl, rfl, rfl, rfl, rfl, rfl, rfl⟩, ?_⟩
  intro group m _ convention
  refine ⟨fun few => ?_, fun complete => ?_, fun many => ?_⟩
  · exact call_of_lt convention (plain_holding plain _) few
  · have inGroups : (d.holding groups.flatten).call convention group =
        convention.run f.behaviour (groups.flatten ++ group) :=
      calc (d.holding groups.flatten).call convention group
        _ = (d.holding groups.flatten).invoke convention (groups.flatten ++ group) := call_of_eq convention complete
        _ = d.func.call convention (groups.flatten ++ group) := invoke_of_not_curried convention notCurried _
        _ = convention.run f.behaviour (groups.flatten ++ group) := calls convention _
    have atOnce : d.call convention (groups.flatten ++ group) =
        convention.run f.behaviour (groups.flatten ++ group) := by
      rw [call_of_eq convention (by rw [empty, List.nil_append, complete]), empty, List.nil_append]
      exact (invoke_of_not_curried convention notCurried _).trans (calls convention _)
    exact ⟨inGroups, inGroups.trans atOnce.symm⟩
  · exact ⟨_, call_of_gt convention many, rfl⟩

theorem call_in_groups_add :
    ∃ d p : Definition Unit Nat,
      (Definer.mk Environment.default [] (.bool true)).define "add :: Number -> Number -> Number" false
        (.implementation ⟨(), "add", none, .none⟩) = .ok d ∧
      Reached d [[], [1]] p ∧ p.args = [1] ∧
      ∀ convention : Convention Option Unit Nat, p.call convention [2] = convention.run () [1, 2] := by
  have parsed : Grammar.parse "add :: Number -> Number -> Number" =
      .ok ⟨"add", [], .function [.constructor "Number" [], .constructor "Number" [], .constructor "Number" []]⟩ := by
    refine Grammar.parse_eq_ok_iff.mpr
      ⟨[.name "add", .symbol "::", .name "Number", .symbol "->", .name "Number", .symbol "->", .name "Number"],
        by rfl, .free ?_⟩
    have number (rest : List Grammar.Token) :
        Grammar.ApplicationAt (.name "Number" :: rest) (.constructor "Number" []) rest := .bare (.upper (by decide))
    exact .function (number _) (.more (number _) (.more (number _) .none))
  have made : (Definer.mk Environment.default [] (.bool true)).define "add :: Number -> Number -> Number" false
      (.implementation ⟨(), "add", none, .none⟩) =
        .ok (.make (.implementation ⟨(), "add", none, .none⟩)
          ⟨"add", [], List.replicate 3 (.operator (.constructor Builtin.number))⟩
          (.bool true) (.bool false) [] (.bool false) : Definition Unit Nat) := by
    rw [Definer.define, Definer.resolve, Resolution.ofText, Definer.hasThunk, parsed]
    rfl
  obtain ⟨p, reached, ⟨args, -⟩, calls⟩ := call_in_groups _ _ _ _ rfl made [[], [1]] (.inr (by decide))
  refine ⟨_, p, made, reached, args, fun convention => ?_⟩
  exact ((calls [2] Option convention).2.1 rfl).1

end Definition

/-! ## Live definitions -/

namespace Callable

/-- Calls a value with groups of arguments, and what comes of each call with the next group. -/
def callAll (scope : LiveScope) (depth : Nat) (value : LiveValue) (groups : List (List LiveValue)) :
    Running LiveValue :=
  groups.foldlM (callWithin scope depth) value

theorem callWithin_definition (scope : LiveScope) (depth id : Nat) (d : LiveDefinition) (args : List LiveValue) :
    callWithin scope (depth + 1) (.function id (.definition d)) args =
      d.call (convention scope (callWithin scope depth)) args :=
  rfl

/-- While a live definition waits, each call takes an identity for the next definition, and none is logged: the trace of
the calls so far stays as it is, and the last call does what it does on the definition that holds all arguments before
it. -/
theorem run_callAll (scope : LiveScope) (depth : Nat) {d : LiveDefinition} (plain : d.Plain)
    (groups : List (List LiveValue)) (last : List LiveValue)
    (waiting : groups = [] ∨ (d.args ++ groups.flatten).length < d.arity) (id : Nat) (trace : Trace) :
    (callAll scope (depth + 1) (.function id (.definition d)) (groups ++ [last])).run trace =
      ((d.holding (d.args ++ groups.flatten)).call (convention scope (callWithin scope depth)) last).run
        ⟨trace.calls, trace.next + groups.length⟩ := by
  induction groups generalizing d id trace with
  | nil =>
    have same : d.holding (d.args ++ [].flatten) = d :=
      Definition.holding_of_args (by rw [List.flatten_nil, List.append_nil])
    simp only [same, callAll, List.nil_append, List.foldlM_cons, List.foldlM_nil, bind_pure, callWithin_definition]
    rfl
  | cons group groups ih =>
    have total := waiting.resolve_left (List.cons_ne_nil _ _)
    rw [List.flatten_cons, ← List.append_assoc] at total
    have first : (d.args ++ group).length < d.arity := by
      rw [List.length_append] at total
      omega
    -- The next definition is known under the identity that this call takes.
    have others := @ih (d.holding (d.args ++ group)) (Definition.plain_holding plain _) (.inr total) trace.next
      ⟨trace.calls, trace.next + 1⟩
    rw [List.cons_append, callAll, List.foldlM_cons, run_bind, callWithin_definition,
      Definition.call_of_lt _ plain first, List.flatten_cons, ← List.append_assoc, List.length_cons,
      Nat.add_comm groups.length, ← Nat.add_assoc]
    exact others

end Callable

end HMSignature
