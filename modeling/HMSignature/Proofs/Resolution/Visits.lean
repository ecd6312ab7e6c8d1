import HMSignature.Proofs.Resolution.Sharing
import HMSignature.Proofs.Resolution.Standing
import HMSignature.Proofs.Table
import Mathlib.Data.List.Induction
/-!
# What a resolver remembers

A resolver remembers the variables that it has come to, and the variables applied to types that it has completed. Both
can be told from the trees alone, without the memory: a tree is gone through from left to right, up to the first node
that fails; a variable counts when it is reached, and one that is applied to types when they are resolved and it is
applied to them.

Results:
1. `records_resolveAs` and its companions: what a step remembers is what it visits;
2. `memoryAfter_eq`: so the memory after calls is the one after all their visits;
3. `keys_meet`, `prefix_meet`: what is remembered after visits, in which order, and that nothing is forgotten;
4. `memory_records_visits`.
-/

namespace HMSignature.Resolver

open Grammar (Entry Kind)

/-! ## Visits -/

/-- A visit of a node that is worth remembering. -/
inductive Visit where
  | var (name : String)
  /-- A variable that is applied to types, and how many they are. -/
  | operator (name : String) (count : Nat)

namespace Visit

def var? : Visit → Option String
  | var name => some name
  | operator _ _ => none

def operator? : Visit → Option (String × Nat)
  | var _ => none
  | operator name count => some (name, count)

/-- A variable is applied to one or two types. -/
def Fits : Visit → Prop
  | var _ => True
  | operator _ count => 1 ≤ count ∧ count ≤ 2

end Visit

/-- Visits that take place if a step before them succeeds. -/
def ifOk {α : Type} (outcome : Except ResolutionError α) (visits : List Visit) : List Visit :=
  match outcome with
  | .ok _ => visits
  | .error _ => []

/-- The visit of a variable that is applied to types, when they are resolved and it is applied to them. The empty
brackets do not count. -/
def completed (types : Table String Descriptor) (name : String) (params : List Entry) : List Visit :=
  match fresh (resolveParams types params), fresh (resolve types (.constrained name params)) with
  | .ok ds, .ok _ => [.operator name ds.length]
  | _, _ => []

mutual

/-- The visits when a node is resolved as if it were of the given kind. -/
def visitsAs (types : Table String Descriptor) (kind : Kind) : Entry → List Visit
  | .node _ text children =>
      match kind with
      | .constructor => paramVisits types children
      | .function => paramVisits types children
      | .list =>
          match children with
          | [] => []
          | element :: _ => visitsAs types element.kind element
      | .record => fieldVisits types children
      | .var => [.var text]
      | .constrained => paramVisits types children ++ completed types text children
      | _ => []

/-- The visits of parameters, up to the first one that fails. -/
def paramVisits (types : Table String Descriptor) : List Entry → List Visit
  | [] => []
  | entry :: rest => visitsAs types entry.kind entry ++ ifOk (fresh (resolveParam types entry)) (paramVisits types rest)

/-- The visits of the fields of a record, up to the first one that fails. -/
def fieldVisits (types : Table String Descriptor) : List Entry → List Visit
  | [] => []
  | .node _ _ [] :: _ => []
  | .node _ _ (type :: _) :: rest =>
      visitsAs types type.kind type ++ ifOk (fresh (resolveParam types type)) (fieldVisits types rest)

end

/-- The visits of top-level entries, up to the first one that fails. -/
def entryVisits (types : Table String Descriptor) : List Entry → List Visit
  | [] => []
  | entry :: rest => visitsAs types entry.kind entry ++ ifOk (fresh (resolve types entry)) (entryVisits types rest)

/-- The visits of a call. -/
def Call.visits (types : Table String Descriptor) : Call → List Visit
  | node entry => visitsAs types entry.kind entry
  | nodeAs kind entry => visitsAs types kind entry
  | param entry => visitsAs types entry.kind entry
  | all entries => entryVisits types entries
  | params entries => paramVisits types entries
  | item _ => []

/-! ## What is remembered of a visit -/

/-- What is remembered when a node is visited. -/
def Memory.meet (memory : Memory) : Visit → Memory
  | .var name => ((typeVariable name).run memory).2
  | .operator name count => ((variableOperator name count).run memory).2

theorem meet_var (memory : Memory) (name : String) :
    memory.meet (.var name) =
      { memory with typeVariables := memory.typeVariables.remember name (.var name) } := by
  rw [Memory.meet, run_typeVariable, Table.remember]
  cases memory.typeVariables.get? name <;> rfl

theorem meet_operator (memory : Memory) (name : String) {count : Nat} (bound : 1 ≤ count ∧ count ≤ 2) :
    memory.meet (.operator name count) =
      { memory with operators := memory.operators.remember (name, count) (.var name count bound.2) } := by
  rw [Memory.meet, run_variableOperator, dif_pos bound, Table.remember]
  cases memory.operators.get? (name, count) <;> rfl

/-- A step remembers what it visits, as long as the memory holds what it should. -/
def Records {α : Type} (step : Resolving α) (visits : List Visit) : Prop :=
  (∀ memory : Memory, memory.Faithful → (step.run memory).2 = visits.foldl Memory.meet memory) ∧
    ∀ visit ∈ visits, visit.Fits

section Steps

variable {α β : Type}

theorem records_pure (a : α) : Records (pure a : Resolving α) [] :=
  ⟨fun _ _ => rfl, nofun⟩

theorem records_throw (e : ResolutionError) : Records (throw e : Resolving α) [] :=
  ⟨fun _ _ => rfl, nofun⟩

/-- A step after another one visits something only if the first one succeeds. -/
theorem records_bind {step : Resolving α} {next : α → Resolving β} {visits visits' : List Visit}
    (transparent : Transparent step) (first : Records step visits)
    (second : ∀ a, fresh step = .ok a → Records (next a) visits') :
    Records (step >>= next) (visits ++ ifOk (fresh step) visits') := by
  cases outcome : fresh step with
  | error e =>
    refine ⟨fun memory faithful => ?_, (List.append_nil visits).symm ▸ first.2⟩
    obtain ⟨same, -⟩ := transparent memory faithful
    rw [ifOk, List.append_nil, ← first.1 memory faithful, run_bind]
    rw [outcome] at same
    cases hrun : step.run memory with
    | mk result after =>
      rw [hrun] at same
      cases same
      rfl
  | ok a =>
    obtain ⟨runs, fits⟩ := second a outcome
    refine ⟨fun memory faithful => ?_, List.forall_mem_append.mpr ⟨first.2, fits⟩⟩
    obtain ⟨same, kept⟩ := transparent memory faithful
    rw [ifOk, List.foldl_append, ← first.1 memory faithful, ← runs _ kept, run_bind]
    rw [outcome] at same
    cases hrun : step.run memory with
    | mk result after =>
      rw [hrun] at same
      cases same
      rfl

theorem ifOk_nil (outcome : Except ResolutionError α) : ifOk outcome [] = [] := by
  cases outcome <;> rfl

/-- A step that visits nothing, after another one. -/
theorem records_bind_silent {step : Resolving α} {next : α → Resolving β} {visits : List Visit}
    (transparent : Transparent step) (first : Records step visits) (second : ∀ a, Records (next a) []) :
    Records (step >>= next) visits := by
  have both := records_bind transparent first fun a _ => second a
  rwa [ifOk_nil, List.append_nil] at both

end Steps

/-! ## Steps that visit nothing -/

theorem records_build {α : Type} (outcome : Except BuildError α) : Records (build outcome) [] := by
  cases outcome with
  | ok a => exact records_pure a
  | error e => exact records_throw _

theorem records_made (f : Ty → Ty) (outcome : Except BuildError Ty) : Records (made f outcome) [] :=
  records_bind_silent (transparent_build outcome) (records_build outcome) fun _ => records_pure _

theorem records_lookup (types : Table String Descriptor) (name : String) : Records (lookup types name) [] := by
  unfold lookup
  cases types.get? name with
  | some d => exact records_pure d
  | none => exact records_throw _

theorem records_asParam (text : String) (d : Descriptor) : Records (asParam text d) [] := by
  unfold asParam
  split
  · exact records_pure d
  · exact records_throw _

theorem records_applyItem (name : String) (params : List Descriptor) (item : Descriptor) :
    Records (applyItem name params item) [] := by
  unfold applyItem
  cases operatorOf? item with
  | none => exact records_throw _
  | some op =>
    dsimp only
    split
    · exact records_made _ _
    · exact records_throw _

theorem records_applyNamed (types : Table String Descriptor) (name : String) (params : List Descriptor) :
    Records (applyNamed types name params) [] :=
  records_bind_silent (transparent_lookup types name) (records_lookup types name) (records_applyItem name params)

theorem records_functionOf (types : List Descriptor) : Records (functionOf types) [] := by
  unfold functionOf
  split
  · exact records_pure _
  · exact records_made _ _
  · exact records_made _ _

/-! ## Nodes -/

section Nodes

variable {types : Table String Descriptor}

theorem records_typeVariable (name : String) : Records (typeVariable name) [.var name] :=
  ⟨fun _ _ => rfl, List.forall_mem_singleton.mpr trivial⟩

/-- One or two types that are resolved make a type when a variable is applied to them, as every one of them stands for a
type. -/
theorem exists_resolve_constrained (items : ItemsSound types) (name : String) {params : List Entry}
    {ds : List Descriptor} (resolved : fresh (resolveParams types params) = .ok ds)
    (bound : 1 ≤ ds.length ∧ ds.length ≤ 2) : ∃ d, fresh (resolve types (.constrained name params)) = .ok d := by
  have filled : (Operator.var name ds.length bound.2).arity = ds.length := rfl
  obtain ⟨t, applied⟩ := Descriptor.exists_apply (stands_of_resolveParams items resolved) filled
  refine ⟨.type t, ?_⟩
  rw [fresh_resolve_constrained, resolved, ok_bind, fresh_variableOperator, dif_pos bound, ok_bind, applied]
  rfl

/-- A variable is remembered with the number of types that it is applied to, if there are one or two. -/
theorem records_applied (items : ItemsSound types) (name : String) {params : List Entry} {ds : List Descriptor}
    (resolved : fresh (resolveParams types params) = .ok ds) :
    Records (variableOperator name ds.length >>= fun op => made id (op.apply ds)) (completed types name params) := by
  refine records_bind_silent (transparent_variableOperator name ds.length) ?_ fun op => records_made id (op.apply ds)
  by_cases bound : 1 ≤ ds.length ∧ ds.length ≤ 2
  · obtain ⟨d, complete⟩ := exists_resolve_constrained items name resolved bound
    simp only [completed, resolved, complete]
    exact ⟨fun _ _ => rfl, List.forall_mem_singleton.mpr bound⟩
  · have fails : fresh (resolve types (.constrained name params)) = .error (.arityMismatch name 2 ds.length) := by
      rw [fresh_resolve_constrained, resolved, ok_bind, fresh_variableOperator, dif_neg bound]
      rfl
    simp only [completed, resolved, fails]
    refine ⟨fun memory faithful => ?_, nofun⟩
    rw [run_variableOperator, dif_neg bound]
    cases memory.operators.get? (name, ds.length) <;> rfl

theorem records_resolveParam {entry : Entry} {visits : List Visit} (node : Records (resolve types entry) visits) :
    Records (resolveParam types entry) visits :=
  records_bind_silent (transparent_resolve types entry) node (records_asParam entry.text)

mutual

theorem records_resolveAs (items : ItemsSound types) (kind : Kind) (entry : Entry) :
    Records (resolveAs types kind entry) (visitsAs types kind entry) := by
  obtain ⟨_, text, children⟩ := entry
  cases kind with
  | constructor =>
    rw [resolveAs, visitsAs]
    split
    · rename_i empty
      rw [List.isEmpty_iff.mp empty, paramVisits]
      exact records_lookup types text
    · exact records_bind_silent (transparent_resolveParams types children) (records_resolveParams items children)
        fun ds => records_applyNamed types text ds
  | function =>
    rw [resolveAs, visitsAs]
    exact records_bind_silent (transparent_resolveParams types children) (records_resolveParams items children)
      records_functionOf
  | list =>
    cases children with
    | nil => exact records_throw _
    | cons element _ =>
      rw [resolveAs, visitsAs]
      refine records_bind_silent (transparent_resolveAs types element.kind element)
        (records_resolveAs items element.kind element) fun d => ?_
      exact records_bind_silent (transparent_asParam element.text d) (records_asParam element.text d) fun d =>
        records_made _ _
  | record =>
    rw [resolveAs, visitsAs]
    exact records_bind_silent (transparent_resolveFields types children) (records_resolveFields items children)
      fun fields => records_made _ _
  | var =>
    rw [resolveAs, visitsAs]
    exact records_bind_silent (transparent_typeVariable text) (records_typeVariable text) fun t => records_pure _
  | constrained =>
    rw [resolveAs, visitsAs]
    have both := records_bind (transparent_resolveParams types children) (records_resolveParams items children)
      fun ds resolved => records_applied items text resolved
    -- What is not resolved is not completed either.
    have only : ifOk (fresh (resolveParams types children)) (completed types text children) =
        completed types text children := by
      cases resolved : fresh (resolveParams types children) with
      | ok ds => rfl
      | error e => rw [completed, resolved]; rfl
    rwa [only] at both
  | thunk => exact records_pure _
  | field => exact records_throw _
  | other label => exact records_throw _

theorem records_resolveParams (items : ItemsSound types) (entries : List Entry) :
    Records (resolveParams types entries) (paramVisits types entries) := by
  cases entries with
  | nil => exact records_pure _
  | cons entry rest =>
    have first := records_resolveParam (records_resolveAs items entry.kind entry)
    rw [resolveParams_cons, paramVisits]
    refine records_bind (transparent_resolveParam types entry) first fun d _ => ?_
    exact records_bind_silent (transparent_resolveParams types rest) (records_resolveParams items rest) fun ds =>
      records_pure _

theorem records_resolveFields (items : ItemsSound types) (entries : List Entry) :
    Records (resolveFields types entries) (fieldVisits types entries) := by
  match entries with
  | [] => exact records_pure _
  | .node _ _ [] :: _ => exact records_throw _
  | .node _ name (type :: _) :: rest =>
    have first := records_resolveParam (records_resolveAs items type.kind type)
    rw [resolveFields_cons, fieldVisits]
    refine records_bind (transparent_resolveParam types type) first fun d _ => ?_
    exact records_bind_silent (transparent_resolveFields types rest) (records_resolveFields items rest) fun ds =>
      records_pure _

end

theorem records_resolve (items : ItemsSound types) (entry : Entry) :
    Records (resolve types entry) (visitsAs types entry.kind entry) :=
  records_resolveAs items entry.kind entry

theorem records_resolveAll (items : ItemsSound types) (entries : List Entry) :
    Records (resolveAll types entries) (entryVisits types entries) := by
  induction entries with
  | nil => exact records_pure _
  | cons entry rest ih =>
    rw [resolveAll, entryVisits]
    refine records_bind (transparent_resolve types entry) (records_resolve items entry) fun d _ => ?_
    exact records_bind_silent (transparent_resolveAll types rest) ih fun ds => records_pure _

theorem records_single {step : Resolving Descriptor} {visits : List Visit} (transparent : Transparent step)
    (records : Records step visits) : Records (do return [← step]) visits :=
  records_bind_silent transparent records fun d => records_pure [d]

theorem records_step (items : ItemsSound types) (call : Call) : Records (call.step types) (call.visits types) := by
  cases call with
  | node entry => exact records_single (transparent_resolve types entry) (records_resolve items entry)
  | nodeAs kind entry =>
    exact records_single (transparent_resolveAs types kind entry) (records_resolveAs items kind entry)
  | param entry =>
    exact records_single (transparent_resolveParam types entry) (records_resolveParam (records_resolve items entry))
  | all entries => exact records_resolveAll items entries
  | params entries => exact records_resolveParams items entries
  | item name => exact records_single (transparent_lookup types name) (records_lookup types name)

/-- What a resolver remembers after calls is what it remembers of the visits of all of them. -/
theorem memoryAfter_eq (items : ItemsSound types) {memory : Memory} (faithful : memory.Faithful) (calls : List Call) :
    memoryAfter types memory calls = (calls.flatMap (Call.visits types)).foldl Memory.meet memory := by
  induction calls generalizing memory with
  | nil => rfl
  | cons call rest ih =>
    rw [memoryAfter, ih (transparent_step types call memory faithful).2, (records_step items call).1 memory faithful,
      List.flatMap_cons, List.foldl_append]

theorem fits_of_mem_visits (items : ItemsSound types) (calls : List Call) :
    ∀ visit ∈ calls.flatMap (Call.visits types), visit.Fits := by
  rw [List.forall_mem_flatMap]
  exact fun call _ => (records_step items call).2

end Nodes

/-! ## The memory after visits -/

section After

variable {visits : List Visit}

/-- What is remembered is what has been visited, in the order of the first visits. -/
theorem keys_meet (fits : ∀ visit ∈ visits, visit.Fits) :
    (visits.foldl Memory.meet .empty).typeVariables.keys = (visits.filterMap Visit.var?).eraseDups ∧
      (visits.foldl Memory.meet .empty).operators.keys = (visits.filterMap Visit.operator?).eraseDups := by
  induction visits using List.reverseRecOn with
  | nil => exact ⟨rfl, rfl⟩
  | append_singleton visits visit ih =>
    rw [List.forall_mem_append, List.forall_mem_singleton] at fits
    obtain ⟨typeVariables, operators⟩ := ih fits.1
    rw [List.foldl_append, List.filterMap_append, List.filterMap_append]
    cases visit with
    | var name =>
      rw [List.foldl_cons, meet_var]
      exact ⟨Table.keys_remember_eraseDups typeVariables name _,
        operators.trans (congrArg List.eraseDups (List.append_nil _).symm)⟩
    | operator name count =>
      rw [List.foldl_cons, meet_operator _ _ fits.2]
      exact ⟨typeVariables.trans (congrArg List.eraseDups (List.append_nil _).symm),
        Table.keys_remember_eraseDups operators (name, count) _⟩

/-- Nothing is forgotten. -/
theorem prefix_meet (memory : Memory) (fits : ∀ visit ∈ visits, visit.Fits) :
    memory.typeVariables <+: (visits.foldl Memory.meet memory).typeVariables ∧
      memory.operators <+: (visits.foldl Memory.meet memory).operators := by
  induction visits generalizing memory with
  | nil => exact ⟨List.prefix_refl _, List.prefix_refl _⟩
  | cons visit visits ih =>
    rw [List.forall_mem_cons] at fits
    obtain ⟨typeVariables, operators⟩ := ih (memory.meet visit) fits.2
    cases visit with
    | var name =>
      rw [meet_var] at typeVariables operators
      rw [List.foldl_cons, meet_var]
      exact ⟨(Table.prefix_remember _ _ _).trans typeVariables, operators⟩
    | operator name count =>
      rw [meet_operator _ _ fits.1] at typeVariables operators
      rw [List.foldl_cons, meet_operator _ _ fits.1]
      exact ⟨typeVariables, (Table.prefix_remember _ _ _).trans operators⟩

/-- Under every key there is what is made for it. -/
theorem Memory.Faithful.eq_of_mem {memory : Memory} (faithful : memory.Faithful)
    (typeVariables : memory.typeVariables.keys.Nodup) (operators : memory.operators.keys.Nodup) :
    (∀ entry ∈ memory.typeVariables, entry.2 = .var entry.1) ∧
      ∀ entry ∈ memory.operators, ∃ bound : 1 ≤ entry.1.2 ∧ entry.1.2 ≤ 2, entry.2 = .var entry.1.1 entry.1.2 bound.2 :=
  ⟨fun (name, t) present => faithful.typeVariables name t (Table.get?_of_mem typeVariables present),
    fun ((name, count), op) present => faithful.operators name count op (Table.get?_of_mem operators present)⟩

end After

theorem memoryAfter_append (types : Table String Descriptor) (memory : Memory) (calls more : List Call) :
    memoryAfter types memory (calls ++ more) = memoryAfter types (memoryAfter types memory calls) more := by
  induction calls generalizing memory with
  | nil => rfl
  | cons call rest ih => exact ih _

/-- After any calls, of which some may have failed, a resolver remembers exactly what it has visited: the distinct names
of the variables that it has come to, in the order in which it has come to them first, and the distinct names of the
variables that it has applied to types, with the number of these, in the order in which they were completed first. Under
each of them there is the variable of that name, and the operator of that name with as many slots, one or two. Later
calls only write behind that. -/
theorem memory_records_visits (types : Table String Descriptor)
    (notBare : ∀ key item, types.get? key = some item → ∀ name bound, item ≠ .operator (.var name 0 bound))
    (calls : List Call) :
    let memory := memoryAfter types .empty calls
    let visits := calls.flatMap (Call.visits types)
    memory.typeVariables.keys = (visits.filterMap Visit.var?).eraseDups ∧
      memory.operators.keys = (visits.filterMap Visit.operator?).eraseDups ∧
      (∀ entry ∈ memory.typeVariables, entry.2 = .var entry.1) ∧
      (∀ entry ∈ memory.operators, (entry.1.2 = 1 ∨ entry.1.2 = 2) ∧ entry.2.arity = entry.1.2 ∧
        ∃ bound, entry.2 = .var entry.1.1 entry.1.2 bound) ∧
      ∀ more : List Call, memory.typeVariables <+: (memoryAfter types .empty (calls ++ more)).typeVariables ∧
        memory.operators <+: (memoryAfter types .empty (calls ++ more)).operators := by
  intro memory visits
  have items : ItemsSound types := fun key item found => Descriptor.sound_of_ne (notBare key item found)
  have faithful : memory.Faithful := faithful_memoryAfter types faithful_empty calls
  have keys := keys_meet (fits_of_mem_visits items calls)
  rw [← memoryAfter_eq items faithful_empty calls] at keys
  obtain ⟨typeVariables, operators⟩ := keys
  have made := faithful.eq_of_mem (typeVariables ▸ Table.nodup_eraseDups _) (operators ▸ Table.nodup_eraseDups _)
  refine ⟨typeVariables, operators, made.1, fun entry present => ?_, fun more => ?_⟩
  · obtain ⟨bound, operator⟩ := made.2 entry present
    exact ⟨by omega, operator ▸ rfl, bound.2, operator⟩
  · rw [memoryAfter_append, memoryAfter_eq items faithful more]
    exact prefix_meet memory (fits_of_mem_visits items more)

/-- In the first call `g` is completed before `f`, inside of which it is. The second call fails at `h`, which is applied
to three types: these are remembered, `h` is not, and `e` is not reached. -/
theorem memory_records_visits_afterFailure :
    let calls := [.node (.constrained "f" [.constrained "g" [.var "a"], .var "b"]),
      .all [.constrained "f" [.var "c", .thunk], .constrained "h" [.var "a", .var "d", .var "b"], .var "e"]]
    let memory := memoryAfter (Environment.types [.type .unit]) .empty calls
    memory.typeVariables.keys = ["a", "b", "c", "d"] ∧ memory.operators.keys = [("g", 1), ("f", 2), ("f", 1)] := by
  have notBare : ∀ key item, (Environment.types [.type .unit]).get? key = some item →
      ∀ name bound, item ≠ .operator (.var name 0 bound) := by
    intro key item found name bound
    have only := List.mem_singleton.mp (Environment.mem_of_get? found).1
    exact only ▸ nofun
  intro calls memory
  obtain ⟨typeVariables, operators, -⟩ := memory_records_visits _ notBare calls
  exact ⟨typeVariables.trans (by rfl), operators.trans (by rfl)⟩

end HMSignature.Resolver
