import HMSignature.Proofs.Except
import HMSignature.Proofs.Grammar.Shape
import HMSignature.Proofs.Table
import HMSignature.Resolution.Resolver
/-!
# Valid trees and what they stand for

Whether a tree has a resolution can be told node by node: a name has to be known, and an application has to have as
many parameters as what it applies has slots. What a tree stands for is put together from what its children stand for,
with nothing checked and nothing remembered.

Results:
1. `valid_false_iff`: a part of a type is valid if it is so at the top and what it stands for has no slots;
2. `toTy_translation`: then it stands for a type;
3. `isThunk_translation`: only the empty brackets stand for the mark of empty brackets.
-/

namespace HMSignature

/-! ## Environments -/

/-- What is found in an environment is one of its items, under its short name. -/
theorem Environment.mem_of_get? {environment : List Descriptor} {name : String} {item : Descriptor}
    (found : (Environment.types environment).get? name = some item) : item ∈ environment ∧ item.shortName = name := by
  have written := Table.mem_of_mem_ofList (Table.mem_of_get? found)
  obtain ⟨known, inEnvironment, same⟩ := List.mem_map.mp written
  cases same
  exact ⟨inEnvironment, rfl⟩

/-- An item for an environment: not the mark of empty brackets, which no name may stand for, and no variable operator
that has no slots and yet cannot stand for a type. A type that is made by an operator fills the slots of it. -/
structure Descriptor.Ordinary (item : Descriptor) : Prop where
  notThunk : item.equals (.operator (.constructor Builtin.thunk)) = .ok false
  notBare : ∀ (name : String) (bound : 0 ≤ 2), item ≠ .operator (.var name 0 bound)
  saturated : ∀ (op : Operator) (params : List Ty), item = .type (.operation op params) → params.length = op.arity

/-- An item that is not the mark of empty brackets. A type that is made by an operator fills the slots of it. -/
structure Descriptor.Unmarked (item : Descriptor) : Prop where
  notThunk : item.equals (.operator (.constructor Builtin.thunk)) = .ok false
  saturated : ∀ (op : Operator) (params : List Ty), item = .type (.operation op params) → params.length = op.arity

theorem Descriptor.Ordinary.unmarked {item : Descriptor} (h : item.Ordinary) : item.Unmarked :=
  ⟨h.notThunk, h.saturated⟩

/-- Being the mark is being equal to it. -/
theorem Descriptor.equals_thunk (d : Descriptor) :
    d.equals (.operator (.constructor Builtin.thunk)) = .ok d.isThunk := by
  cases d with
  | operator op => cases op <;> rfl
  | type t => cases t <;> rfl

theorem Descriptor.ordinary_of_default {item : Descriptor} (member : item ∈ Environment.default) : item.Ordinary := by
  obtain ⟨c, inEnvironment, rfl⟩ := List.mem_map.mp member
  have other : ∀ c ∈ Builtin.environment, (c.id == Builtin.thunk.id) = false := by decide
  refine ⟨?_, nofun, nofun⟩
  exact congrArg Except.ok (other c inEnvironment)

theorem Descriptor.Unmarked.isThunk {item : Descriptor} (h : item.Unmarked) : item.isThunk = false := by
  have same := h.notThunk
  rw [item.equals_thunk] at same
  exact Except.ok.inj same

namespace Resolver

open Grammar (Entry Kind IsTree AreTrees AreFields)

/-- A table of ordinary items. -/
def OrdinaryTable (types : Table String Descriptor) : Prop :=
  ∀ (name : String) (item : Descriptor), types.get? name = some item → item.Ordinary

theorem ordinaryTable_types {environment : List Descriptor} (ordinary : ∀ item ∈ environment, item.Ordinary) :
    OrdinaryTable (Environment.types environment) := by
  intro name item found
  exact ordinary item (Environment.mem_of_get? found).1

/-! ## Valid trees -/

/-- The children that are not empty brackets. -/
def proper (entries : List Entry) : List Entry :=
  entries.filter fun entry => entry.kind ≠ .thunk

/-- A node that is valid by itself. A bare name at the top may stand for something with slots; as a part of a type it
may not. -/
def NodeValid (types : Table String Descriptor) (top : Bool) : Entry → Prop
  | .node .constructor name [] => ∃ item, types.get? name = some item ∧ (top = true ∨ item.arity = 0)
  | .node .constructor name (first :: others) =>
      ∃ item op, types.get? name = some item ∧ operatorOf? item = some op ∧
        op.arity = (proper (first :: others)).length
  | .node .constrained _ children => (proper children).length = 1 ∨ (proper children).length = 2
  | _ => True

mutual

/-- The nodes of a tree. -/
def nodes : Entry → List Entry
  | .node kind text children => .node kind text children :: nodesOf children

/-- The nodes of several trees. -/
def nodesOf : List Entry → List Entry
  | [] => []
  | entry :: rest => nodes entry ++ nodesOf rest

end

/-- A tree with only valid nodes; its root may be at the top. -/
def Valid (types : Table String Descriptor) (top : Bool) (entry : Entry) : Prop :=
  NodeValid types top entry ∧ ∀ node ∈ nodesOf entry.children, NodeValid types false node

/-! ## The translation -/

/-- The type that a descriptor without slots stands for. -/
def standing : Descriptor → Ty
  | .operator op => .operation op []
  | .type t => t

/-- The type of a function from its segments; missing ones are units. -/
def functionTy : List Ty → Ty
  | [] => .arrow .unit .unit
  | [output] => .arrow .unit output
  | input :: more :: others =>
      .arrows (input :: more :: others).dropLast ((input :: more :: others).getLast (List.cons_ne_nil _ _))

/-- The operator that a name applies. Names that apply nothing do not occur in valid trees. -/
def namedOperator (types : Table String Descriptor) (name : String) : Operator :=
  ((types.get? name).bind operatorOf?).getD (.constructor Builtin.unit)

/-- The operator that a variable applies. A variable of more than two types does not occur in valid trees. -/
def appliedVariable (name : String) (count : Nat) : Operator :=
  .var name (min count 2) (Nat.min_le_right count 2)

mutual

/-- What a tree stands for. -/
def translation (types : Table String Descriptor) : Entry → Descriptor
  | .node kind text children =>
      match kind with
      | .constructor =>
          if children.isEmpty then (types.get? text).getD (.type .unit)
          else .type (.operation (namedOperator types text) ((parameters types children).map standing))
      | .function => .type (functionTy ((parameters types children).map standing))
      | .list => .type (.array (standing (element types children)))
      | .record => .type (.record (Table.ofList ((fields types children).map fun field => (field.1, standing field.2))))
      | .var => .type (.var text)
      | .constrained =>
          let params := (parameters types children).map standing
          .type (.operation (appliedVariable text params.length) params)
      | .thunk => .operator (.constructor Builtin.thunk)
      | _ => .type .unit

/-- What the children that are not empty brackets stand for. -/
def parameters (types : Table String Descriptor) : List Entry → List Descriptor
  | [] => []
  | entry :: rest =>
      if entry.kind = .thunk then parameters types rest
      else translation types entry :: parameters types rest

/-- What the element of a list stands for. -/
def element (types : Table String Descriptor) : List Entry → Descriptor
  | [] => .type .unit
  | entry :: _ => translation types entry

/-- The names of fields with what their types stand for. -/
def fields (types : Table String Descriptor) : List Entry → List (String × Descriptor)
  | [] => []
  | .node _ _ [] :: rest => fields types rest
  | .node _ name (type :: _) :: rest => (name, translation types type) :: fields types rest

end

/-! ## Parts of valid trees -/

theorem nodes_eq (entry : Entry) : nodes entry = entry :: nodesOf entry.children := by
  cases entry
  rw [nodes]
  rfl

theorem forall_nodesOf (P : Entry → Prop) (entries : List Entry) :
    (∀ node ∈ nodesOf entries, P node) ↔
      ∀ entry ∈ entries, P entry ∧ ∀ node ∈ nodesOf entry.children, P node := by
  induction entries with
  | nil => simp [nodesOf]
  | cons entry rest ih =>
    rw [nodesOf, nodes_eq, List.forall_mem_append, ih, List.forall_mem_cons, List.forall_mem_cons]

theorem proper_cons (entry : Entry) (rest : List Entry) :
    proper (entry :: rest) = if entry.kind = .thunk then proper rest else entry :: proper rest := by
  unfold proper
  rw [List.filter_cons]
  by_cases mark : entry.kind = .thunk <;> simp [mark]

section Parts

variable {types : Table String Descriptor}

/-- A tree is valid if its root and its children are. -/
theorem valid_iff_children {top : Bool} {entry : Entry} :
    Valid types top entry ↔ NodeValid types top entry ∧ ∀ child ∈ entry.children, Valid types false child := by
  rw [Valid, forall_nodesOf]
  rfl

theorem valid_field_iff {name : String} {type : Entry} :
    Valid types false (.field name type) ↔ Valid types false type := by
  rw [valid_iff_children]
  exact ⟨fun h => h.2 type List.mem_cons_self, fun h => ⟨trivial, fun child member => List.mem_singleton.mp member ▸ h⟩⟩

theorem parameters_eq (entries : List Entry) :
    parameters types entries = (proper entries).map (translation types) := by
  induction entries with
  | nil => simp [parameters, proper]
  | cons entry rest ih =>
    rw [parameters, ih, proper_cons]
    split <;> rfl

theorem length_parameters (entries : List Entry) : (parameters types entries).length = (proper entries).length := by
  rw [parameters_eq, List.length_map]

theorem translation_name {name : String} {item : Descriptor} (found : types.get? name = some item) :
    translation types (.constructor name []) = item := by
  show (types.get? name).getD (.type .unit) = item
  rw [found]
  rfl

theorem namedOperator_eq {name : String} {item : Descriptor} {op : Operator} (found : types.get? name = some item)
    (applies : operatorOf? item = some op) : namedOperator types name = op := by
  rw [namedOperator, found, Option.bind_some, applies]
  rfl

theorem appliedVariable_eq (name : String) {count : Nat} (bound : count ≤ 2) :
    appliedVariable name count = .var name count bound := by
  unfold appliedVariable
  congr
  exact Nat.min_eq_left bound

/-- As a part of a type a tree has to be valid at the top, and its translation has to have no slots. -/
theorem valid_false_iff {entry : Entry} (h : IsTree entry) :
    Valid types false entry ↔ Valid types true entry ∧ (translation types entry).arity = 0 := by
  -- Only a bare name may stand for something with slots; every other node stands for a type.
  cases h with
  | @constructor name params =>
    cases params with
    | nil =>
      constructor
      · rintro ⟨⟨item, found, top | bare⟩, below⟩
        · cases top
        · rw [translation_name found]
          exact ⟨⟨⟨item, found, .inl rfl⟩, below⟩, bare⟩
      · rintro ⟨⟨⟨item, found, _⟩, below⟩, bare⟩
        rw [translation_name found] at bare
        exact ⟨⟨item, found, .inr bare⟩, below⟩
    | cons first others => exact ⟨fun valid => ⟨valid, rfl⟩, fun valid => valid.1⟩
  | _ => exact ⟨fun valid => ⟨valid, rfl⟩, fun valid => valid.1⟩

/-! ## Descriptors that stand for types -/

theorem toTy_eq_standing {d : Descriptor} (bare : d.arity = 0)
    (notBare : ∀ (name : String) (bound : 0 ≤ 2), d ≠ .operator (.var name 0 bound)) :
    d.toTy = .ok (standing d) := by
  cases d with
  | type t => rfl
  | operator op =>
    cases op with
    | constructor c =>
      have filled : (Operator.constructor c).arity = 0 := bare
      show (Operator.constructor c).saturate [] = _
      rw [Operator.saturate, filled, if_pos List.length_nil]
      rfl
    | var name arity bound =>
      cases (show arity = 0 from bare)
      exact absurd rfl (notBare name bound)

theorem toTys_eq_standing {ds : List Descriptor} (h : ∀ d ∈ ds, d.toTy = .ok (standing d)) :
    Descriptor.toTys ds = .ok (ds.map standing) := by
  induction ds with
  | nil => rfl
  | cons d rest ih =>
    rw [List.forall_mem_cons] at h
    rw [Descriptor.toTys, h.1, ok_bind, ih h.2]
    rfl

theorem toTy_translation (ordinary : OrdinaryTable types) {entry : Entry} (h : IsTree entry)
    (valid : Valid types false entry) :
    (translation types entry).toTy = .ok (standing (translation types entry)) := by
  refine toTy_eq_standing ((valid_false_iff h).mp valid).2 ?_
  intro name bound same
  cases h with
  | @constructor typeName params =>
    cases params with
    | nil =>
      obtain ⟨⟨item, found, _⟩, _⟩ := valid
      rw [translation_name found] at same
      exact (ordinary typeName item found).notBare name bound same
    | cons first others => cases same
  | thunk => cases same
  | _ => cases same

/-! ## The mark of empty brackets -/

theorem isThunk_functionTy (ts : List Ty) : (Descriptor.type (functionTy ts)).isThunk = false := by
  match ts with
  | [] => rfl
  | [output] => rfl
  | input :: more :: others => rfl

/-- What another item applies never makes the mark. -/
theorem isThunk_application {item : Descriptor} {op : Operator} {params : List Ty} (unmarked : item.Unmarked)
    (applies : operatorOf? item = some op) (filled : op.arity = params.length) :
    (Descriptor.type (.operation op params)).isThunk = false := by
  show (op.same (.constructor Builtin.thunk) && Ty.sameAll params []) = false
  have other := unmarked.isThunk
  cases item with
  | operator own =>
    cases applies
    rw [show op.same (.constructor Builtin.thunk) = false from other, Bool.false_and]
  | type t =>
    cases t with
    | operation own given =>
      cases applies
      -- Without parameters the application is the item itself, which is not the mark.
      have saturated := unmarked.saturated op given rfl
      cases params with
      | nil =>
        cases given with
        | nil => exact other
        | cons _ _ => rw [filled] at saturated; cases saturated
      | cons _ _ => exact Bool.and_false _
    | var name => cases applies
    | record fields => cases applies

/-- Only the empty brackets stand for the mark. -/
theorem isThunk_translation (ordinary : OrdinaryTable types) {entry : Entry} (h : IsTree entry)
    (valid : Valid types true entry) : (translation types entry).isThunk = decide (entry.kind = .thunk) := by
  cases h with
  | @constructor name params =>
    cases params with
    | nil =>
      obtain ⟨⟨item, found, _⟩, _⟩ := valid
      rw [translation_name found, (ordinary name item found).unmarked.isThunk]
      rfl
    | cons first others =>
      obtain ⟨⟨item, op, found, applies, filled⟩, _⟩ := valid
      show Descriptor.isThunk (.type (.operation (namedOperator types name) _)) = _
      rw [namedOperator_eq found applies]
      refine isThunk_application (ordinary name item found).unmarked applies ?_
      rw [filled, List.length_map, length_parameters]
  | function segments => exact isThunk_functionTy _
  | list element => rfl
  | record fields => rfl
  | var name => rfl
  | constrained name params => rfl
  | thunk => rfl

end Parts

end Resolver

end HMSignature
