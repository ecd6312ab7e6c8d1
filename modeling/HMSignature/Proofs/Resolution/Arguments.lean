import HMSignature.Proofs.Resolution.Translation
import Mathlib.Data.List.Forall2
/-!
# The arguments of applications

The head of an application takes as many types as the operator has slots that it stands for; a variable takes one or
two. What is compared with that is the number of arguments without the empty brackets among them. So an application
with a wrong number of arguments is rejected, unless it has the right number without its empty brackets.

Results:
1. `nodeValid_iff`: a node is valid if its name is known, or else its head takes its arguments without empty brackets;
2. `exists_ofText_iff`: a text has a resolution exactly if all applications in it are of that kind and its names are
   known;
3. `ofText_misapplied`: wrong numbers of arguments are rejected, and nothing but empty brackets is discarded.
-/

namespace HMSignature

namespace Resolver

open Grammar (Entry IsTree)

/-- A name of a type with arguments, or a variable with them. -/
def IsApplication : Entry → Prop
  | .node .constructor _ (_ :: _) => True
  | .node .constrained _ _ => True
  | _ => False

section Heads

variable {types : Table String Descriptor}

/-- The operator that the head of an application applies to so many types. -/
inductive Applies (types : Table String Descriptor) : Entry → Nat → Operator → Prop
  | named {name : String} {arguments : List Entry} {item : Descriptor} {op : Operator} :
      types.get? name = some item → operatorOf? item = some op →
      Applies types (.constructor name arguments) op.arity op
  | var {name : String} {arguments : List Entry} {count : Nat} (bound : count ≤ 2) : 1 ≤ count →
      Applies types (.constrained name arguments) count (.var name count bound)

/-- An application whose head does not take as many types as it is written with. -/
def Misapplied (types : Table String Descriptor) (node : Entry) : Prop :=
  IsApplication node ∧ ∀ op, ¬Applies types node node.children.length op

/-- The head of the application takes as many types as there are arguments without the empty brackets. -/
def Filled (types : Table String Descriptor) (node : Entry) : Prop :=
  ∃ op, Applies types node (proper node.children).length op

/-- The name of a node that is no application is known. At the top it may stand for something with slots. -/
def NameValid (types : Table String Descriptor) (top : Bool) : Entry → Prop
  | .node .constructor name [] => ∃ item, types.get? name = some item ∧ (top = true ∨ item.arity = 0)
  | _ => True

theorem proper_eq_self {entries : List Entry} (solid : ∀ entry ∈ entries, entry.kind ≠ .thunk) :
    proper entries = entries := by
  unfold proper
  exact List.filter_eq_self.mpr fun entry member => decide_eq_true (solid entry member)

theorem applies_constructor_iff {name : String} {arguments : List Entry} {count : Nat} {op : Operator} :
    Applies types (.constructor name arguments) count op ↔
      ∃ item, types.get? name = some item ∧ operatorOf? item = some op ∧ op.arity = count := by
  constructor
  · intro h
    cases h with
    | named found applies => exact ⟨_, found, applies, rfl⟩
  · rintro ⟨item, found, applies, rfl⟩
    exact .named found applies

theorem applies_constrained_iff {name : String} {arguments : List Entry} {count : Nat} {op : Operator} :
    Applies types (.constrained name arguments) count op ↔
      (count = 1 ∨ count = 2) ∧ op = appliedVariable name count := by
  constructor
  · intro h
    cases h with
    | var bound some => exact ⟨by omega, (appliedVariable_eq name bound).symm⟩
  · rintro ⟨few, rfl⟩
    have bound : count ≤ 2 := by omega
    rw [appliedVariable_eq name bound]
    exact .var bound (by omega)

/-- A node is valid if it is an application that is filled, or else its name is known. -/
theorem nodeValid_iff {top : Bool} {node : Entry} :
    NodeValid types top node ↔ NameValid types top node ∧ (IsApplication node → Filled types node) := by
  obtain ⟨kind, text, children⟩ := node
  cases kind with
  | constructor =>
    cases children with
    | nil => exact ⟨fun valid => ⟨valid, nofun⟩, fun valid => valid.1⟩
    | cons first others =>
      constructor
      · rintro ⟨item, op, found, applies, filled⟩
        exact ⟨trivial, fun _ => ⟨op, applies_constructor_iff.mpr ⟨item, found, applies, filled⟩⟩⟩
      · rintro ⟨-, filled⟩
        obtain ⟨op, applies⟩ := filled trivial
        obtain ⟨item, found, applies, filled⟩ := applies_constructor_iff.mp applies
        exact ⟨item, op, found, applies, filled⟩
  | constrained =>
    constructor
    · intro few
      exact ⟨trivial, fun _ => ⟨_, applies_constrained_iff.mpr ⟨few, rfl⟩⟩⟩
    · rintro ⟨-, filled⟩
      obtain ⟨op, applies⟩ := filled trivial
      exact (applies_constrained_iff.mp applies).1
  | _ => exact ⟨fun _ => ⟨trivial, nofun⟩, fun _ => trivial⟩

/-- An application of an operator stands for it with what the arguments stand for, without the empty brackets. -/
theorem translation_application {node : Entry} {op : Operator}
    (application : IsApplication node) (applies : Applies types node (proper node.children).length op) :
    translation types node =
      .type (.operation op ((proper node.children).map fun child => standing (translation types child))) := by
  have arguments (children : List Entry) : (parameters types children).map standing =
      (proper children).map fun child => standing (translation types child) := by
    rw [parameters_eq, List.map_map]
    rfl
  obtain ⟨kind, text, children⟩ := node
  unfold IsApplication at application
  split at application
  · rename_i name first others same
    cases same
    obtain ⟨item, found, applies, -⟩ := applies_constructor_iff.mp applies
    show Descriptor.type (.operation (namedOperator types _) _) = _
    rw [namedOperator_eq found applies, arguments]
    rfl
  · rename_i name params same
    cases same
    show Descriptor.type (.operation (appliedVariable _ _) _) = _
    rw [List.length_map, length_parameters, (applies_constrained_iff.mp applies).2, arguments]
    rfl
  · contradiction

/-! ## All nodes of a tree -/

mutual

/-- What a node hands on to its children holds of all nodes below it. -/
theorem forall_nodes_of_children {P : Entry → Prop} (step : ∀ entry, P entry → ∀ child ∈ entry.children, P child)
    {entry : Entry} (root : P entry) : ∀ node ∈ nodes entry, P node := by
  cases entry with
  | node kind text children =>
    rw [nodes, List.forall_mem_cons]
    exact ⟨root, forall_nodesOf_of_children step (step _ root)⟩

theorem forall_nodesOf_of_children {P : Entry → Prop} (step : ∀ entry, P entry → ∀ child ∈ entry.children, P child)
    {entries : List Entry} (roots : ∀ entry ∈ entries, P entry) : ∀ node ∈ nodesOf entries, P node := by
  cases entries with
  | nil => exact nofun
  | cons entry rest =>
    rw [List.forall_mem_cons] at roots
    rw [nodesOf, List.forall_mem_append]
    exact ⟨forall_nodes_of_children step roots.1, forall_nodesOf_of_children step roots.2⟩

end

/-- The applications of a type are those of its top-level entries: a function is none. -/
theorem forall_application_iff {type : Entry} {P : Entry → Prop} :
    (∀ node ∈ nodes type, IsApplication node → P node) ↔ ∀ node ∈ nodesOf type.entries, IsApplication node → P node := by
  rw [Entry.entries]
  split
  · next isFunction =>
    have none : ¬IsApplication type := by
      obtain ⟨kind, text, children⟩ := type
      cases isFunction
      exact id
    rw [nodes_eq, List.forall_mem_cons]
    exact ⟨fun h => h.2, fun h => ⟨fun application => absurd application none, h⟩⟩
  · rw [nodesOf, nodesOf, List.append_nil]

/-- A valid tree, or a field of one. -/
inductive Sound (types : Table String Descriptor) : Entry → Prop
  | tree {entry : Entry} : IsTree entry → Valid types true entry → Sound types entry
  | field {name : String} {type : Entry} : IsTree type → Valid types false type → Sound types (.field name type)

theorem Sound.child {entry : Entry} (h : Sound types entry) : ∀ child ∈ entry.children, Sound types child := by
  intro child member
  cases h with
  | tree isTree valid =>
    have validChild := (valid_iff_children.mp valid).2 child member
    have ofTree (isTree : IsTree child) : Sound types child := .tree isTree ((valid_false_iff isTree).mp validChild).1
    cases isTree with
    | constructor _ params => exact ofTree (params.isTree member)
    | function segments => exact ofTree (segments.isTree member)
    | list element => exact ofTree (List.mem_singleton.mp member ▸ element)
    | record fields =>
      obtain ⟨name, type, rfl, isTree⟩ := fields.isField member
      exact .field isTree (valid_field_iff.mp validChild)
    | var _ => cases member
    | constrained _ params => exact ofTree (params.isTree member)
    | thunk => cases member
  | field isTree valid =>
    cases List.mem_singleton.mp member
    exact .tree isTree ((valid_false_iff isTree).mp valid).1

/-- An application in a valid tree is valid, and so are its arguments. -/
theorem Sound.application {node : Entry} (h : Sound types node) (application : IsApplication node) :
    (IsTree node ∧ Valid types true node) ∧ ∀ child ∈ node.children, IsTree child ∧ Valid types false child := by
  cases h with
  | field _ _ => contradiction
  | tree isTree valid =>
    refine ⟨⟨isTree, valid⟩, fun child member => ⟨?_, (valid_iff_children.mp valid).2 child member⟩⟩
    cases isTree with
    | constructor _ params => exact params.isTree member
    | constrained _ params => exact params.isTree member
    | _ => contradiction

/-- The names of several trees are known. -/
def NamesValid (types : Table String Descriptor) (entries : List Entry) : Prop :=
  ∀ entry ∈ entries, NameValid types true entry ∧ ∀ node ∈ nodesOf entry.children, NameValid types false node

/-- Trees are valid if their names are known and all applications in them are filled. -/
theorem forall_valid_iff {entries : List Entry} :
    (∀ entry ∈ entries, Valid types true entry) ↔
      NamesValid types entries ∧ ∀ node ∈ nodesOf entries, IsApplication node → Filled types node := by
  have each (entry : Entry) : Valid types true entry ↔
      (NameValid types true entry ∧ ∀ node ∈ nodesOf entry.children, NameValid types false node) ∧
      (IsApplication entry → Filled types entry) ∧
        ∀ node ∈ nodesOf entry.children, IsApplication node → Filled types node := by
    simp only [Valid, nodeValid_iff, forall_and, and_and_and_comm]
  rw [forall_nodesOf]
  simp only [each, NamesValid, forall_and]

end Heads

end Resolver

namespace Resolution

open Grammar (Entry IsTree Signature)
open Resolver

/-- Resolving discards nothing that is written but empty brackets. -/
structure Complete (types : Table String Descriptor) (s : Signature) (r : Resolution) : Prop where
  /-- The types are those of the top-level entries. -/
  entries : List.Forall₂ (fun entry d => fresh (resolve types entry) = .ok d) (proper s.entries) r.types
  /-- An application stands for an operator with as many types as it has slots: one for each argument. -/
  arguments : ∀ node ∈ nodes s.type, IsApplication node → ∃ op params,
    Applies types node params.length op ∧ fresh (resolve types node) = .ok (.type (.operation op params)) ∧
    List.Forall₂ (fun child t => ∃ d, fresh (resolve types child) = .ok d ∧ d.toTy = .ok t) (proper node.children) params

section Reading

variable {classes : List TypeClass} {environment : List Descriptor} {text : String} {s : Signature}

/-- A text that can be read has a resolution exactly if its names are known and all applications in it are filled. -/
theorem exists_ofText_iff (ordinary : ∀ item ∈ environment, item.Ordinary) (parsed : Grammar.parse text = .ok s) :
    (∃ r, ofText classes environment text = .ok r) ↔
      (∀ constraint ∈ s.constraints, ∃ c, (Environment.typeClasses classes).get? constraint.typeClass = some c) ∧
      NamesValid (Environment.types environment) s.entries ∧
      ∀ node ∈ nodes s.type, IsApplication node → Filled (Environment.types environment) node := by
  have resolves := fresh_resolveAll_eq_ok_iff (ordinaryTable_types ordinary) (Grammar.isTree_of_parse parsed).entries
  have grouped := Obligations.addAll_succeeds_iff (Environment.typeClasses classes) s.constraints []
  rw [forall_application_iff, show s.type.entries = s.entries from rfl, ← forall_valid_iff, ← grouped]
  constructor
  · rintro ⟨r, h⟩
    obtain ⟨hconstraints, htypes, -⟩ := (ofText_eq_ok_iff parsed).mp h
    exact ⟨⟨_, hconstraints⟩, ((resolves _).mp htypes).1⟩
  · rintro ⟨⟨constraints, hconstraints⟩, valid⟩
    exact ⟨⟨s.name, constraints, _⟩, (ofText_eq_ok_iff parsed).mpr ⟨hconstraints, (resolves _).mpr ⟨valid, rfl⟩, rfl⟩⟩

/-- What is found by resolving has all arguments that are written, but for empty brackets. -/
theorem complete_of_ofText (ordinary : ∀ item ∈ environment, item.Ordinary) (parsed : Grammar.parse text = .ok s)
    {r : Resolution} (h : ofText classes environment text = .ok r) :
    Complete (Environment.types environment) s r := by
  have items := ordinaryTable_types ordinary
  have areTrees := (Grammar.isTree_of_parse parsed).entries
  obtain ⟨valid, types⟩ := (fresh_resolveAll_eq_ok_iff items areTrees _).mp ((ofText_eq_ok_iff parsed).mp h).2.1
  obtain ⟨-, -, filled⟩ := (exists_ofText_iff ordinary parsed).mp ⟨r, h⟩
  have resolved {entry : Entry} (isTree : IsTree entry) (valid : Valid (Environment.types environment) true entry) :
      fresh (resolve (Environment.types environment) entry) = .ok (translation (Environment.types environment) entry) :=
    (translates items isTree _).mpr ⟨valid, rfl⟩
  constructor
  · rw [types, parameters_eq, List.forall₂_map_right_iff]
    refine List.forall₂_same.mpr fun entry member => ?_
    have inEntries := (List.mem_filter.mp member).1
    exact resolved (areTrees.isTree inEntries) (valid entry inEntries)
  · have sound : ∀ node ∈ nodesOf s.entries, Sound (Environment.types environment) node :=
      forall_nodesOf_of_children (fun _ => Sound.child) fun entry member =>
        .tree (areTrees.isTree member) (valid entry member)
    rw [forall_application_iff] at filled ⊢
    intro node member application
    obtain ⟨op, applies⟩ := filled node member application
    obtain ⟨⟨isTree, validNode⟩, arguments⟩ := (sound node member).application application
    refine ⟨op, (proper node.children).map fun child => standing (translation (Environment.types environment) child),
      ?_, ?_, ?_⟩
    · rwa [List.length_map]
    · rw [resolved isTree validNode, translation_application application applies]
    · rw [List.forall₂_map_right_iff]
      refine List.forall₂_same.mpr fun child member => ?_
      obtain ⟨isTree, valid⟩ := arguments child (List.mem_filter.mp member).1
      exact ⟨_, resolved isTree ((valid_false_iff isTree).mp valid).1, toTy_translation items isTree valid⟩

end Reading

/-- An application with a wrong number of arguments, none of them empty brackets, is rejected wherever it stands. In
general a text has a resolution exactly if its names are known and every application is filled by its arguments without
the empty brackets among them, which are all that is discarded. -/
theorem ofText_misapplied (classes : List TypeClass) (environment : List Descriptor) (text : String) (s : Signature)
    (ordinary : ∀ item ∈ environment, item.Ordinary) (parsed : Grammar.parse text = .ok s) :
    (∀ node ∈ nodes s.type, Misapplied (Environment.types environment) node →
      (∀ child ∈ node.children, child.kind ≠ .thunk) → ∃ e, ofText classes environment text = .error e) ∧
    ((∃ r, ofText classes environment text = .ok r) ↔
      (∀ constraint ∈ s.constraints, ∃ c, (Environment.typeClasses classes).get? constraint.typeClass = some c) ∧
      NamesValid (Environment.types environment) s.entries ∧
      ∀ node ∈ nodes s.type, IsApplication node → Filled (Environment.types environment) node) ∧
    ∀ r, ofText classes environment text = .ok r → Complete (Environment.types environment) s r := by
  refine ⟨?_, exists_ofText_iff ordinary parsed, fun r => complete_of_ofText ordinary parsed⟩
  rintro node member ⟨application, misapplied⟩ solid
  cases outcome : ofText classes environment text with
  | error e => exact ⟨e, rfl⟩
  | ok r =>
    obtain ⟨-, -, filled⟩ := (exists_ofText_iff ordinary parsed).mp ⟨r, outcome⟩
    obtain ⟨op, applies⟩ := filled node member application
    rw [proper_eq_self solid] at applies
    exact absurd applies (misapplied op)

theorem ofText_misapplied_variable : ∃ e, ofText [] Environment.default "f :: [m a b c]" = .error e := by
  have parsed : Grammar.parse "f :: [m a b c]" =
      .ok ⟨"f", [], .list (.constrained "m" [.var "a", .var "b", .var "c"])⟩ := by
    refine Grammar.parse_eq_ok_iff.mpr
      ⟨[.name "f", .symbol "::", .opening .square, .name "m", .name "a", .name "b", .name "c", .closing .square],
        by rfl, .free ?_⟩
    exact .single (.bare (.list (.single (.lower (.lower (by decide)) (.more (.lower (by decide))
      (.more (.lower (by decide)) (.more (.lower (by decide)) .none)))))))
  refine (ofText_misapplied [] Environment.default _ _ (fun _ => Descriptor.ordinary_of_default) parsed).1
    (.constrained "m" [.var "a", .var "b", .var "c"]) (List.mem_cons_of_mem _ List.mem_cons_self) ⟨trivial, ?_⟩ ?_
  · intro op applies
    exact absurd (applies_constrained_iff.mp applies).1 (by decide)
  · show ∀ child ∈ [Entry.var "a", .var "b", .var "c"], child.kind ≠ .thunk
    decide

/-- Empty brackets do not count as an argument: a map of numbers with them is a map of numbers. -/
theorem misapplied_with_brackets :
    (∀ item ∈ Environment.default, item.Ordinary ∧ ∃ c, item = .operator (.constructor c)) ∧
    ∃ s node r, Grammar.parse "f :: StrMap Number () -> Number" = .ok s ∧ node ∈ nodes s.type ∧
      Misapplied (Environment.types Environment.default) node ∧
      Applies (Environment.types Environment.default) node 1 (.constructor Builtin.textMap) ∧
      node.children.length = 2 ∧
      ofText [] Environment.default "f :: StrMap Number () -> Number" = .ok r := by
  have parsed : Grammar.parse "f :: StrMap Number () -> Number" =
      .ok ⟨"f", [], .function [.constructor "StrMap" [.constructor "Number" [], .thunk], .constructor "Number" []]⟩ := by
    refine Grammar.parse_eq_ok_iff.mpr
      ⟨[.name "f", .symbol "::", .name "StrMap", .name "Number", .opening .round, .closing .round, .symbol "->",
        .name "Number"], by rfl, .free ?_⟩
    exact .function (.upper (.upper (by decide)) (.more (.upper (by decide)) (.more .thunk .none)))
      (.more (.bare (.upper (by decide))) .none)
  refine ⟨fun item member => ⟨Descriptor.ordinary_of_default member, ?_⟩, _,
    .constructor "StrMap" [.constructor "Number" [], .thunk], ⟨"f", [], [
      .type (.operation (.constructor Builtin.textMap) [.operation (.constructor Builtin.number) []]),
      .operator (.constructor Builtin.number)]⟩,
    parsed, List.mem_cons_of_mem _ List.mem_cons_self, ⟨trivial, ?_⟩,
    applies_constructor_iff.mpr ⟨_, rfl, rfl, rfl⟩, rfl,
    (ofText_eq_ok_iff parsed).mpr ⟨rfl, rfl, rfl⟩⟩
  · obtain ⟨c, -, rfl⟩ := List.mem_map.mp member
    exact ⟨c, rfl⟩
  · intro op applies
    obtain ⟨item, found, applies, filled⟩ := applies_constructor_iff.mp applies
    cases found
    cases applies
    cases filled

end Resolution

end HMSignature
