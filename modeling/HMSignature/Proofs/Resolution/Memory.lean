import HMSignature.Proofs.Except
import HMSignature.Resolution.Resolver
/-!
# What a resolver remembers does not matter

A resolver finds a variable again under its name, and a variable operator under its name and its number of parameters.
As long as it finds what it would make otherwise, no step can tell a memory from an empty one.

Results:
1. `transparent_resolveAs` and its companions: every step gives on a faithful memory what it gives on an empty one, and
   leaves a faithful memory behind, also when it fails;
2. `fresh_bind`: so the outcome of a sequence of steps is the sequence of their outcomes;
3. `fresh_resolveParams_cons` and the other equations: the outcome of each step from the outcomes of its parts.
-/

namespace HMSignature.Resolver

open Grammar (Entry Kind)

/-- A memory that holds under every key what would be made for it. -/
structure Memory.Faithful (memory : Memory) : Prop where
  typeVariables : ∀ (name : String) (t : Ty), memory.typeVariables.get? name = some t → t = .var name
  operators : ∀ (name : String) (count : Nat) (op : Operator), memory.operators.get? (name, count) = some op →
    ∃ bound : 1 ≤ count ∧ count ≤ 2, op = .var name count bound.2

theorem faithful_empty : Memory.empty.Faithful := by
  constructor
  · intro name t found
    cases found
  · intro name count op found
    cases found

/-- A step whose outcome does not depend on what is remembered, and that keeps the memory faithful. -/
def Transparent {α : Type} (step : Resolving α) : Prop :=
  ∀ memory : Memory, memory.Faithful → (step.run memory).1 = fresh step ∧ (step.run memory).2.Faithful

/-! ## Sequences of steps -/

section Steps

variable {α β γ : Type}

theorem transparent_pure (a : α) : Transparent (pure a : Resolving α) :=
  fun _ faithful => ⟨rfl, faithful⟩

theorem transparent_throw (e : ResolutionError) : Transparent (throw e : Resolving α) :=
  fun _ faithful => ⟨rfl, faithful⟩

/-- The first step leaves a faithful memory, on which the second one is as on an empty one. -/
theorem run_bind_of_transparent {step : Resolving α} {next : α → Resolving β} (h : Transparent step)
    (h' : ∀ a, Transparent (next a)) {memory : Memory} (faithful : memory.Faithful) :
    ((step >>= next).run memory).1 = (fresh step >>= fun a => fresh (next a)) ∧
      ((step >>= next).run memory).2.Faithful := by
  obtain ⟨same, kept⟩ := h memory faithful
  rw [run_bind, ← same]
  cases hrun : step.run memory with
  | mk outcome after =>
    rw [hrun] at kept
    cases outcome with
    | ok a => exact h' a after kept
    -- A failure does not undo what was remembered before it.
    | error e => exact ⟨rfl, kept⟩

theorem fresh_bind {step : Resolving α} {next : α → Resolving β} (h : Transparent step)
    (h' : ∀ a, Transparent (next a)) : fresh (step >>= next) = fresh step >>= fun a => fresh (next a) :=
  (run_bind_of_transparent h h' faithful_empty).1

theorem transparent_bind {step : Resolving α} {next : α → Resolving β} (h : Transparent step)
    (h' : ∀ a, Transparent (next a)) : Transparent (step >>= next) := by
  intro memory faithful
  rw [fresh_bind h h']
  exact run_bind_of_transparent h h' faithful

theorem fresh_bind_pure {step : Resolving α} {next : Resolving β} (h : Transparent step) (h' : Transparent next)
    (f : α → β → γ) :
    fresh (do let a ← step; let b ← next; return f a b) = (do
      let a ← fresh step
      let b ← fresh next
      .ok (f a b)) := by
  rw [fresh_bind h fun a => transparent_bind h' fun b => transparent_pure (f a b)]
  exact congrArg _ (funext fun a => fresh_bind h' fun b => transparent_pure (f a b))

end Steps

/-! ## Variables -/

theorem run_typeVariable (name : String) (memory : Memory) :
    (typeVariable name).run memory =
      match memory.typeVariables.get? name with
      | some t => (.ok t, memory)
      | none => (.ok (.var name), { memory with typeVariables := memory.typeVariables.insert name (.var name) }) := by
  rw [typeVariable, run_bind]
  show (match memory.typeVariables.get? name with
    | some t => (pure t : Resolving Ty)
    | none => _).run memory = _
  cases memory.typeVariables.get? name <;> rfl

theorem run_variableOperator (name : String) (count : Nat) (memory : Memory) :
    (variableOperator name count).run memory =
      match memory.operators.get? (name, count) with
      | some op => (.ok op, memory)
      | none =>
          if bound : 1 ≤ count ∧ count ≤ 2 then
            let op := Operator.var name count bound.2
            (.ok op, { memory with operators := memory.operators.insert (name, count) op })
          else (.error (.arityMismatch name 2 count), memory) := by
  rw [variableOperator, run_bind]
  show (match memory.operators.get? (name, count) with
    | some op => (pure op : Resolving Operator)
    | none => _).run memory = _
  cases memory.operators.get? (name, count) with
  | some op => rfl
  | none =>
    by_cases bound : 1 ≤ count ∧ count ≤ 2
    · simp only [dif_pos bound]
      rfl
    · simp only [dif_neg bound]
      rfl

theorem fresh_typeVariable (name : String) : fresh (typeVariable name) = .ok (.var name) := by
  rw [fresh, run_typeVariable]
  rfl

theorem fresh_variableOperator (name : String) (count : Nat) :
    fresh (variableOperator name count) =
      if bound : 1 ≤ count ∧ count ≤ 2 then .ok (.var name count bound.2)
      else .error (.arityMismatch name 2 count) := by
  rw [fresh, run_variableOperator]
  by_cases bound : 1 ≤ count ∧ count ≤ 2
  · simp only [dif_pos bound]
    rfl
  · simp only [dif_neg bound]
    rfl

theorem Memory.Faithful.insertVariable {memory : Memory} (faithful : memory.Faithful) (name : String) :
    Memory.Faithful { memory with typeVariables := memory.typeVariables.insert name (.var name) } := by
  refine ⟨?_, faithful.operators⟩
  intro other t found
  rw [Table.get?_insert] at found
  split at found
  · rename_i same
    cases found
    rw [beq_iff_eq.mp same]
  · exact faithful.typeVariables other t found

theorem Memory.Faithful.insertOperator {memory : Memory} (faithful : memory.Faithful) (name : String) (count : Nat)
    (bound : 1 ≤ count ∧ count ≤ 2) :
    Memory.Faithful
      { memory with operators := memory.operators.insert (name, count) (.var name count bound.2) } := by
  refine ⟨faithful.typeVariables, ?_⟩
  intro other count' op found
  rw [Table.get?_insert] at found
  split at found
  · rename_i same
    cases found
    cases beq_iff_eq.mp same
    exact ⟨bound, rfl⟩
  · exact faithful.operators other count' op found

theorem transparent_typeVariable (name : String) : Transparent (typeVariable name) := by
  intro memory faithful
  rw [fresh_typeVariable, run_typeVariable]
  cases found : memory.typeVariables.get? name with
  | some t => exact ⟨congrArg Except.ok (faithful.typeVariables name t found), faithful⟩
  | none => exact ⟨rfl, faithful.insertVariable name⟩

theorem transparent_variableOperator (name : String) (count : Nat) : Transparent (variableOperator name count) := by
  intro memory faithful
  rw [fresh_variableOperator, run_variableOperator]
  cases found : memory.operators.get? (name, count) with
  | some op =>
    -- What is remembered was made once, so its number of parameters passed the check.
    obtain ⟨bound, rfl⟩ := faithful.operators name count op found
    simp only [dif_pos bound]
    exact ⟨trivial, faithful⟩
  | none =>
    by_cases bound : 1 ≤ count ∧ count ≤ 2
    · simp only [dif_pos bound]
      exact ⟨trivial, faithful.insertOperator name count bound⟩
    · simp only [dif_neg bound]
      exact ⟨trivial, faithful⟩

/-! ## Steps without variables -/

theorem transparent_build {α : Type} (outcome : Except BuildError α) : Transparent (build outcome) := by
  cases outcome with
  | ok a => exact transparent_pure a
  | error e => exact transparent_throw _

/-- The step that makes a type out of one that has to be built. -/
def made (f : Ty → Ty) (outcome : Except BuildError Ty) : Resolving Descriptor := do
  return .type (f (← build outcome))

theorem transparent_made (f : Ty → Ty) (outcome : Except BuildError Ty) : Transparent (made f outcome) :=
  transparent_bind (transparent_build outcome) fun _ => transparent_pure _

theorem transparent_lookup (types : Table String Descriptor) (name : String) : Transparent (lookup types name) := by
  unfold lookup
  cases types.get? name with
  | some d => exact transparent_pure d
  | none => exact transparent_throw _

theorem transparent_asParam (text : String) (d : Descriptor) : Transparent (asParam text d) := by
  unfold asParam
  split
  · exact transparent_pure d
  · exact transparent_throw _

/-- What a name stands for, applied to parameters. -/
def applyItem (name : String) (params : List Descriptor) (item : Descriptor) : Resolving Descriptor :=
  match operatorOf? item with
  | none => throw (.arityMismatch name 0 params.length)
  | some op =>
      if op.arity = params.length then made id (op.apply params)
      else throw (.arityMismatch name op.arity params.length)

theorem applyNamed_eq (types : Table String Descriptor) (name : String) (params : List Descriptor) :
    applyNamed types name params = lookup types name >>= applyItem name params :=
  rfl

theorem transparent_applyItem (name : String) (params : List Descriptor) (item : Descriptor) :
    Transparent (applyItem name params item) := by
  unfold applyItem
  cases operatorOf? item with
  | none => exact transparent_throw _
  | some op =>
    dsimp only
    split
    · exact transparent_made _ _
    · exact transparent_throw _

theorem transparent_applyNamed (types : Table String Descriptor) (name : String) (params : List Descriptor) :
    Transparent (applyNamed types name params) :=
  transparent_bind (transparent_lookup types name) (transparent_applyItem name params)

theorem transparent_functionOf (types : List Descriptor) : Transparent (functionOf types) := by
  unfold functionOf
  split
  · exact transparent_pure _
  · exact transparent_made _ _
  · exact transparent_made _ _

/-! ## Nodes -/

mutual

theorem transparent_resolveAs (types : Table String Descriptor) (kind : Kind) (entry : Entry) :
    Transparent (resolveAs types kind entry) := by
  obtain ⟨_, text, children⟩ := entry
  cases kind with
  | constructor =>
    rw [resolveAs]
    split
    · exact transparent_lookup types text
    · exact transparent_bind (transparent_resolveParams types children) fun ds => transparent_applyNamed types text ds
  | function =>
    rw [resolveAs]
    exact transparent_bind (transparent_resolveParams types children) fun ds => transparent_functionOf ds
  | list =>
    cases children with
    | nil => exact transparent_throw _
    | cons element _ =>
      rw [resolveAs]
      refine transparent_bind (transparent_resolveAs types element.kind element) fun d => ?_
      refine transparent_bind (transparent_asParam element.text d) fun d => ?_
      exact transparent_made _ _
  | record =>
    rw [resolveAs]
    refine transparent_bind (transparent_resolveFields types children) fun fields => ?_
    exact transparent_made _ _
  | var =>
    rw [resolveAs]
    exact transparent_bind (transparent_typeVariable text) fun t => transparent_pure _
  | constrained =>
    rw [resolveAs]
    refine transparent_bind (transparent_resolveParams types children) fun ds => ?_
    refine transparent_bind (transparent_variableOperator text ds.length) fun op => ?_
    exact transparent_made _ _
  | thunk => exact transparent_pure _
  | field => exact transparent_throw _
  | other label => exact transparent_throw _

theorem transparent_resolveParams (types : Table String Descriptor) (entries : List Entry) :
    Transparent (resolveParams types entries) := by
  cases entries with
  | nil => exact transparent_pure _
  | cons entry rest =>
    rw [resolveParams]
    refine transparent_bind (transparent_resolveAs types entry.kind entry) fun d => ?_
    refine transparent_bind (transparent_asParam entry.text d) fun d => ?_
    exact transparent_bind (transparent_resolveParams types rest) fun ds => transparent_pure _

theorem transparent_resolveFields (types : Table String Descriptor) (entries : List Entry) :
    Transparent (resolveFields types entries) := by
  match entries with
  | [] => exact transparent_pure _
  | .node _ _ [] :: _ => exact transparent_throw _
  | .node _ name (type :: _) :: rest =>
    rw [resolveFields]
    refine transparent_bind (transparent_resolveAs types type.kind type) fun d => ?_
    refine transparent_bind (transparent_asParam type.text d) fun d => ?_
    exact transparent_bind (transparent_resolveFields types rest) fun fields => transparent_pure _

end

theorem transparent_resolve (types : Table String Descriptor) (entry : Entry) : Transparent (resolve types entry) :=
  transparent_resolveAs types entry.kind entry

theorem transparent_resolveParam (types : Table String Descriptor) (entry : Entry) :
    Transparent (resolveParam types entry) :=
  transparent_bind (transparent_resolve types entry) (transparent_asParam entry.text)

theorem transparent_resolveAll (types : Table String Descriptor) (entries : List Entry) :
    Transparent (resolveAll types entries) := by
  induction entries with
  | nil => exact transparent_pure _
  | cons entry rest ih =>
    refine transparent_bind (transparent_resolve types entry) fun d => ?_
    exact transparent_bind ih fun ds => transparent_pure _

/-! ## Outcomes -/

theorem fresh_made (f : Ty → Ty) (outcome : Except BuildError Ty) :
    fresh (made f outcome) = (fun t => .type (f t)) <$> outcome.mapError .unbuildable := by
  cases outcome <;> rfl

theorem fresh_made_eq_ok_iff {f : Ty → Ty} {outcome : Except BuildError Ty} {d : Descriptor} :
    fresh (made f outcome) = .ok d ↔ ∃ t, outcome = .ok t ∧ d = .type (f t) := by
  constructor
  · intro h
    cases outcome with
    | error e => cases h
    | ok t =>
      cases h
      exact ⟨t, rfl, rfl⟩
  · rintro ⟨t, rfl, rfl⟩
    rfl

theorem fresh_lookup (types : Table String Descriptor) (name : String) :
    fresh (lookup types name) =
      match types.get? name with
      | some d => .ok d
      | none => .error (.unknownType name types.keys) := by
  unfold lookup
  cases types.get? name <;> rfl

theorem fresh_asParam (text : String) (d : Descriptor) :
    fresh (asParam text d) = if d.arity = 0 then .ok d else .error (.arityMismatch text d.arity 0) := by
  unfold asParam
  split <;> rfl

theorem fresh_applyNamed (types : Table String Descriptor) (name : String) (params : List Descriptor) :
    fresh (applyNamed types name params) =
      fresh (lookup types name) >>= fun item => fresh (applyItem name params item) := by
  rw [applyNamed_eq, fresh_bind (transparent_lookup types name) (transparent_applyItem name params)]

theorem fresh_applyItem (name : String) (params : List Descriptor) (item : Descriptor) :
    fresh (applyItem name params item) =
      match operatorOf? item with
      | none => .error (.arityMismatch name 0 params.length)
      | some op =>
          if op.arity = params.length then .type <$> (op.apply params).mapError .unbuildable
          else .error (.arityMismatch name op.arity params.length) := by
  unfold applyItem
  cases operatorOf? item with
  | none => rfl
  | some op =>
    dsimp only
    split
    · exact fresh_made _ _
    · rfl

theorem fresh_resolve_constructor (types : Table String Descriptor) (name : String) (children : List Entry) :
    fresh (resolve types (.constructor name children)) =
      if children.isEmpty then fresh (lookup types name)
      else fresh (resolveParams types children) >>= fun ds => fresh (applyNamed types name ds) := by
  show fresh (resolveAs types .constructor (.node .constructor name children)) = _
  rw [resolveAs]
  split
  · rfl
  · exact fresh_bind (transparent_resolveParams types children) fun ds => transparent_applyNamed types name ds

theorem fresh_resolve_function (types : Table String Descriptor) (segments : List Entry) :
    fresh (resolve types (.function segments)) =
      fresh (resolveParams types segments) >>= fun ds => fresh (functionOf ds) := by
  show fresh (resolveAs types .function (.node .function "" segments)) = _
  rw [resolveAs]
  exact fresh_bind (transparent_resolveParams types segments) transparent_functionOf

/-- The descriptor of a node in the place of a parameter. -/
theorem fresh_resolveParam (types : Table String Descriptor) (entry : Entry) :
    fresh (resolveParam types entry) = fresh (resolve types entry) >>= fun d => fresh (asParam entry.text d) :=
  fresh_bind (transparent_resolve types entry) (transparent_asParam entry.text)

theorem fresh_resolve_list (types : Table String Descriptor) (element : Entry) :
    fresh (resolve types (.list element)) =
      fresh (resolveParam types element) >>= fun d => fresh (made .array d.toTy) := by
  have step : resolve types (.list element) = resolveParam types element >>= fun d => made .array d.toTy := by
    show resolveAs types .list (.node .list "" [element]) = _
    rw [resolveAs, resolveParam, bind_assoc]
    rfl
  rw [step]
  exact fresh_bind (transparent_resolveParam types element) fun d => transparent_made .array d.toTy

theorem fresh_resolve_record (types : Table String Descriptor) (fields : List Entry) :
    fresh (resolve types (.record fields)) =
      fresh (resolveFields types fields) >>= fun ds => fresh (made id (Descriptor.record (Table.ofList ds))) := by
  show fresh (resolveAs types .record (.node .record "" fields)) = _
  rw [resolveAs]
  exact fresh_bind (transparent_resolveFields types fields) fun ds => transparent_made id _

theorem fresh_resolve_var (types : Table String Descriptor) (name : String) :
    fresh (resolve types (.var name)) = .ok (.type (.var name)) := by
  show fresh (resolveAs types .var (.node .var name [])) = _
  rw [resolveAs, fresh_bind (transparent_typeVariable name) fun t => transparent_pure _, fresh_typeVariable]
  rfl

theorem fresh_resolve_constrained (types : Table String Descriptor) (name : String) (params : List Entry) :
    fresh (resolve types (.constrained name params)) = (do
      let ds ← fresh (resolveParams types params)
      let op ← fresh (variableOperator name ds.length)
      fresh (made id (op.apply ds))) := by
  show fresh (resolveAs types .constrained (.node .constrained name params)) = _
  rw [resolveAs, fresh_bind (transparent_resolveParams types params)]
  · refine congrArg _ (funext fun ds => ?_)
    exact fresh_bind (transparent_variableOperator name ds.length) fun op => transparent_made id (op.apply ds)
  · intro ds
    exact transparent_bind (transparent_variableOperator name ds.length) fun op => transparent_made id (op.apply ds)

theorem fresh_resolve_thunk (types : Table String Descriptor) :
    fresh (resolve types .thunk) = .ok (.operator (.constructor Builtin.thunk)) :=
  rfl

theorem resolveParams_cons (types : Table String Descriptor) (entry : Entry) (rest : List Entry) :
    resolveParams types (entry :: rest) = (do
      let d ← resolveParam types entry
      let ds ← resolveParams types rest
      return if d.isThunk then ds else d :: ds) := by
  rw [resolveParams, resolveParam, bind_assoc]
  rfl

theorem fresh_resolveParams_cons (types : Table String Descriptor) (entry : Entry) (rest : List Entry) :
    fresh (resolveParams types (entry :: rest)) = (do
      let d ← fresh (resolveParam types entry)
      let ds ← fresh (resolveParams types rest)
      .ok (if d.isThunk then ds else d :: ds)) := by
  rw [resolveParams_cons]
  exact fresh_bind_pure (transparent_resolveParam types entry) (transparent_resolveParams types rest) _

theorem resolveFields_cons (types : Table String Descriptor) (kind : Kind) (name : String) (type : Entry)
    (others rest : List Entry) :
    resolveFields types (.node kind name (type :: others) :: rest) = (do
      let d ← resolveParam types type
      let ds ← resolveFields types rest
      return (name, d) :: ds) := by
  rw [resolveFields, resolveParam, bind_assoc]
  rfl

theorem fresh_resolveFields_cons (types : Table String Descriptor) (name : String) (type : Entry)
    (rest : List Entry) :
    fresh (resolveFields types (.field name type :: rest)) = (do
      let d ← fresh (resolveParam types type)
      let ds ← fresh (resolveFields types rest)
      .ok ((name, d) :: ds)) := by
  rw [Entry.field, resolveFields_cons]
  exact fresh_bind_pure (transparent_resolveParam types type) (transparent_resolveFields types rest) _

theorem fresh_resolveAll_cons (types : Table String Descriptor) (entry : Entry) (rest : List Entry) :
    fresh (resolveAll types (entry :: rest)) = (do
      let d ← fresh (resolve types entry)
      let ds ← fresh (resolveAll types rest)
      .ok (if d.isThunk then ds else d :: ds)) := by
  rw [resolveAll]
  exact fresh_bind_pure (transparent_resolve types entry) (transparent_resolveAll types rest) _

/-! ## Several nodes in a row -/

section Rows

variable {types : Table String Descriptor} {entry : Entry} {rest : List Entry}

theorem fresh_resolveParams_cons_eq_ok_iff {ds : List Descriptor} :
    fresh (resolveParams types (entry :: rest)) = .ok ds ↔
      ∃ d others, fresh (resolveParam types entry) = .ok d ∧ fresh (resolveParams types rest) = .ok others ∧
        ds = if d.isThunk then others else d :: others := by
  rw [fresh_resolveParams_cons]
  exact bind_bind_eq_ok_iff

theorem fresh_resolveFields_cons_eq_ok_iff {name : String} {items : List (String × Descriptor)} :
    fresh (resolveFields types (.field name entry :: rest)) = .ok items ↔
      ∃ d others, fresh (resolveParam types entry) = .ok d ∧ fresh (resolveFields types rest) = .ok others ∧
        items = (name, d) :: others := by
  rw [fresh_resolveFields_cons]
  exact bind_bind_eq_ok_iff

theorem fresh_resolveAll_cons_eq_ok_iff {ds : List Descriptor} :
    fresh (resolveAll types (entry :: rest)) = .ok ds ↔
      ∃ d others, fresh (resolve types entry) = .ok d ∧ fresh (resolveAll types rest) = .ok others ∧
        ds = if d.isThunk then others else d :: others := by
  rw [fresh_resolveAll_cons]
  exact bind_bind_eq_ok_iff

end Rows

end HMSignature.Resolver
