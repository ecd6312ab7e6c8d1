import HMSignature.Proofs.Descriptor.Equality
import HMSignature.Proofs.Resolution.Inherited
import Mathlib.Data.List.Forall2
/-!
# One resolver for many trees

A resolver may be asked again and again, for all sorts of nodes, and what it remembers grows with each call, also with
one that fails. Nobody can tell: every call has the outcome that it would have as the first one.

Results:
1. `faithful_memoryAfter`: the memory of a resolver stays faithful through all its calls;
2. `outcomes_eq_fresh`: so each call has the outcome of a fresh resolver;
3. `outcomes_alike_fresh`: the errors are the same, and the descriptors are equal and read alike.
-/

namespace HMSignature.Resolver

open Grammar (Entry Kind)

/-! ## Calls -/

/-- What a resolver is asked for. -/
inductive Call where
  /-- A node, by its kind. -/
  | node (entry : Entry)
  /-- A node as if it were of the given kind. -/
  | nodeAs (kind : Kind) (entry : Entry)
  /-- A node in the place of a parameter. -/
  | param (entry : Entry)
  /-- Top-level entries. -/
  | all (entries : List Entry)
  | params (entries : List Entry)
  /-- What a name stands for. -/
  | item (name : String)

/-- The step of a call. One that asks for a single descriptor gives a list of one. -/
def Call.step (types : Table String Descriptor) : Call → Resolving (List Descriptor)
  | node entry => do return [← resolve types entry]
  | nodeAs kind entry => do return [← resolveAs types kind entry]
  | param entry => do return [← resolveParam types entry]
  | all entries => resolveAll types entries
  | params entries => resolveParams types entries
  | item name => do return [← lookup types name]

/-- The outcomes of calls of one resolver. Each call finds what the calls before it remembered, also those that
failed. -/
def outcomes (types : Table String Descriptor) (memory : Memory) :
    List Call → List (Except ResolutionError (List Descriptor))
  | [] => []
  | call :: rest =>
      let result := (call.step types).run memory
      result.1 :: outcomes types result.2 rest

/-- What a resolver remembers after calls. -/
def memoryAfter (types : Table String Descriptor) (memory : Memory) : List Call → Memory
  | [] => memory
  | call :: rest => memoryAfter types ((call.step types).run memory).2 rest

/-- Outcomes that cannot be told apart: one error, and so one message, or descriptors that are equal in turn and have
the same texts. -/
def Alike : Except ResolutionError (List Descriptor) → Except ResolutionError (List Descriptor) → Prop
  | .ok ds, .ok ds' =>
      List.Forall₂ (fun d d' => d.equals d' = .ok true ∧ ∀ nested : Bool, d.text nested = d'.text nested) ds ds'
  | .error e, .error e' => e = e'
  | _, _ => False

/-! ## What calls remember -/

section Memory

variable (types : Table String Descriptor)

theorem transparent_step (call : Call) : Transparent (call.step types) := by
  cases call with
  | node entry => exact transparent_bind (transparent_resolve types entry) fun d => transparent_pure [d]
  | nodeAs kind entry => exact transparent_bind (transparent_resolveAs types kind entry) fun d => transparent_pure [d]
  | param entry => exact transparent_bind (transparent_resolveParam types entry) fun d => transparent_pure [d]
  | all entries => exact transparent_resolveAll types entries
  | params entries => exact transparent_resolveParams types entries
  | item name => exact transparent_bind (transparent_lookup types name) fun d => transparent_pure [d]

theorem faithful_memoryAfter {memory : Memory} (faithful : memory.Faithful) (calls : List Call) :
    (memoryAfter types memory calls).Faithful := by
  induction calls generalizing memory with
  | nil => exact faithful
  | cons call rest ih => exact ih (transparent_step types call memory faithful).2

/-- Each call has the outcome of a fresh resolver. -/
theorem outcomes_eq_fresh {memory : Memory} (faithful : memory.Faithful) (calls : List Call) :
    outcomes types memory calls = calls.map fun call => fresh (call.step types) := by
  induction calls generalizing memory with
  | nil => rfl
  | cons call rest ih =>
    obtain ⟨same, kept⟩ := transparent_step types call memory faithful
    rw [outcomes, List.map_cons, same, ih kept]

end Memory

/-! ## What calls give -/

section Outcomes

variable {types : Table String Descriptor}

theorem itemsHave_types {P : Ty → Prop} {environment : List Descriptor} (all : ∀ item ∈ environment, item.Has P) :
    ItemsHave P (Environment.types environment) :=
  fun _ item found => all item (Environment.mem_of_get? found).1

theorem fresh_single {step : Resolving Descriptor} (h : Transparent step) {ds : List Descriptor}
    (gives : fresh (do return [← step]) = .ok ds) : ∃ d, fresh step = .ok d ∧ ds = [d] := by
  rw [fresh_bind h fun d => transparent_pure [d], bind_eq_ok_iff] at gives
  obtain ⟨d, first, single⟩ := gives
  exact ⟨d, first, ok_eq_ok_iff.mp single⟩

theorem has_of_step {P : Ty → Prop} (inherited : Ty.Inherited P) (items : ItemsHave P types) {call : Call}
    {ds : List Descriptor} (gives : fresh (call.step types) = .ok ds) : ∀ d ∈ ds, d.Has P := by
  cases call with
  | node entry =>
    obtain ⟨d, resolved, rfl⟩ := fresh_single (transparent_resolve types entry) gives
    exact List.forall_mem_singleton.mpr (has_of_resolve inherited items resolved)
  | nodeAs kind entry =>
    obtain ⟨d, resolved, rfl⟩ := fresh_single (transparent_resolveAs types kind entry) gives
    exact List.forall_mem_singleton.mpr (has_of_resolveAs inherited items resolved)
  | param entry =>
    obtain ⟨d, resolved, rfl⟩ := fresh_single (transparent_resolveParam types entry) gives
    exact List.forall_mem_singleton.mpr (has_of_resolveParam inherited items resolved)
  | all entries => exact has_of_resolveAll inherited items gives
  | params entries => exact has_of_resolveParams inherited items gives
  | item name =>
    obtain ⟨d, found, rfl⟩ := fresh_single (transparent_lookup types name) gives
    exact List.forall_mem_singleton.mpr (items name d (fresh_lookup_eq_ok_iff.mp found))

/-- An outcome is like itself if the fields of all records in it have distinct names. -/
theorem alike_self {outcome : Except ResolutionError (List Descriptor)}
    (distinct : ∀ ds, outcome = .ok ds → ∀ d ∈ ds, d.Has Ty.Distinct) : Alike outcome outcome := by
  cases outcome with
  | error e => exact rfl
  | ok ds =>
    refine List.forall₂_same.mpr fun d member => ?_
    exact ⟨Descriptor.equals_self (distinct ds rfl d member), fun nested => rfl⟩

end Outcomes

/-- What a resolver remembers does not show. All calls of one resolver, whatever they ask for and whichever of them
fail, have the outcomes that they have with a fresh resolver each: the same errors, or descriptors that are equal and
read alike. So a resolver that has had any calls still resolves every tree as a fresh one does. -/
theorem outcomes_alike_fresh (types : Table String Descriptor) (distinct : ItemsHave Ty.Distinct types)
    (calls : List Call) :
    List.Forall₂ Alike (outcomes types .empty calls) (calls.map fun call => fresh (call.step types)) ∧
      ∀ call : Call,
        Alike ((call.step types).run (memoryAfter types .empty calls)).1 (fresh (call.step types)) := by
  have alike (call : Call) : Alike (fresh (call.step types)) (fresh (call.step types)) :=
    alike_self fun ds gives => has_of_step Ty.inherited_distinct distinct gives
  constructor
  · rw [outcomes_eq_fresh types faithful_empty]
    refine List.forall₂_same.mpr ?_
    rw [List.forall_mem_map]
    exact fun call _ => alike call
  · intro call
    rw [(transparent_step types call _ (faithful_memoryAfter types faithful_empty calls)).1]
    exact alike call

/-- A variable of three types fails after it was remembered as a variable of one. -/
theorem outcomes_alike_fresh_afterFailure :
    ∃ (types : Table String Descriptor) (calls : List Call),
      types = Environment.types [.type (.record [("x", .var "a"), ("y", .var "b")])] ∧
      calls = [.node (.constrained "f" [.var "a"]), .param (.constrained "f" [.var "a", .var "b", .var "a"]),
        .all [.constructor "Record" [], .constrained "f" [.var "a"]]] ∧
      (outcomes types .empty calls)[1]? = some (.error (.arityMismatch "f" 2 3)) ∧
      List.Forall₂ Alike (outcomes types .empty calls) (calls.map fun call => fresh (call.step types)) := by
  have distinct : ItemsHave Ty.Distinct (Environment.types [.type (.record [("x", .var "a"), ("y", .var "b")])]) :=
    itemsHave_types (List.forall_mem_singleton.mpr ⟨by decide, trivial, trivial, trivial⟩)
  exact ⟨_, _, rfl, rfl, by rfl, (outcomes_alike_fresh _ distinct _).1⟩

end HMSignature.Resolver
