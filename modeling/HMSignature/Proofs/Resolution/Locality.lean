import HMSignature.Proofs.Environment
import HMSignature.Proofs.Resolution.Translation
import HMSignature.TypeClass.Standard
/-!
# Only the names that are used count

A signature names types in its tree and type classes in its constraints. What it resolves to depends on an environment
through these names only: two environments in which they stand for the same give the same resolution or fail for the
same cause. A complaint about an unknown name also lists the names that are available, and nothing but this list can
differ.

Results:
1. `sameCause_resolve`: two tables that agree on the names in a tree;
2. `ofText_eq_of_used`: two environments and two lists of classes that agree on the names in a text, such as those that
   arise from each other by changes that cannot be seen through these names.
-/

namespace HMSignature

/-! ## Causes of failures -/

/-- The error without the names that are available. -/
def ResolutionError.cause : ResolutionError → ResolutionError
  | .unknownType name _ => .unknownType name []
  | .unknownTypeClass name _ => .unknownTypeClass name []
  | error => error

/-- The error without the names that are available. -/
def SignatureError.cause : SignatureError → SignatureError
  | .syntactic error => .syntactic error
  | .semantic error => .semantic error.cause

/-- Both succeed with the same, or both fail for the same cause. -/
def SameCause {α : Type} (x y : Except ResolutionError α) : Prop :=
  x.mapError ResolutionError.cause = y.mapError ResolutionError.cause

theorem SameCause.bind {α β : Type} {x y : Except ResolutionError α} {f g : α → Except ResolutionError β}
    (first : SameCause x y) (second : ∀ a, SameCause (f a) (g a)) : SameCause (x >>= f) (y >>= g) :=
  mapError_bind_congr first second

theorem SameCause.semantic {α : Type} {x y : Except ResolutionError α} (same : SameCause x y) :
    (x.mapError SignatureError.semantic).mapError SignatureError.cause =
      (y.mapError SignatureError.semantic).mapError SignatureError.cause := by
  have wrapped := congrArg (Except.mapError SignatureError.semantic) same
  rw [mapError_mapError, mapError_mapError] at wrapped
  rw [mapError_mapError, mapError_mapError]
  exact wrapped

/-! ## Trees -/

namespace Resolver

open Grammar (Entry Kind)

/-- Two tables in which the names of types in these nodes stand for the same. -/
def AgreeOn (types types' : Table String Descriptor) (within : List Entry) : Prop :=
  ∀ node ∈ within, node.kind = .constructor → types.get? node.text = types'.get? node.text

section Tables

variable {types types' : Table String Descriptor}

theorem AgreeOn.mono {inner outer : List Entry} (agree : AgreeOn types types' outer) (sub : inner ⊆ outer) :
    AgreeOn types types' inner :=
  fun node member => agree node (sub member)

theorem sameCause_lookup {name : String} (same : types.get? name = types'.get? name) :
    SameCause (fresh (lookup types name)) (fresh (lookup types' name)) := by
  rw [fresh_lookup, fresh_lookup, same]
  cases types'.get? name <;> rfl

theorem sameCause_applyNamed {name : String} (same : types.get? name = types'.get? name) (ds : List Descriptor) :
    SameCause (fresh (applyNamed types name ds)) (fresh (applyNamed types' name ds)) := by
  rw [fresh_applyNamed, fresh_applyNamed]
  exact (sameCause_lookup same).bind fun _ => rfl

theorem sameCause_param {entry : Entry}
    (same : SameCause (fresh (resolve types entry)) (fresh (resolve types' entry))) :
    SameCause (fresh (resolveParam types entry)) (fresh (resolveParam types' entry)) := by
  rw [fresh_resolveParam, fresh_resolveParam]
  exact same.bind fun _ => rfl

mutual

/-- What a tree resolves to depends on the names of types in it only. -/
theorem sameCause_resolve {entry : Entry} (agree : AgreeOn types types' (nodes entry)) :
    SameCause (fresh (resolve types entry)) (fresh (resolve types' entry)) := by
  obtain ⟨kind, text, children⟩ := entry
  have below : AgreeOn types types' (nodesOf children) := agree.mono (List.subset_cons_self _ _)
  cases kind with
  | constructor =>
    have same : types.get? text = types'.get? text := agree _ List.mem_cons_self rfl
    change SameCause (fresh (resolve types (.constructor text children)))
      (fresh (resolve types' (.constructor text children)))
    rw [fresh_resolve_constructor, fresh_resolve_constructor]
    split
    · exact sameCause_lookup same
    · exact (sameCause_resolveParams below).bind (sameCause_applyNamed same)
  | function =>
    change SameCause (fresh (resolve types (.function children))) (fresh (resolve types' (.function children)))
    rw [fresh_resolve_function, fresh_resolve_function]
    exact (sameCause_resolveParams below).bind fun _ => rfl
  | list =>
    match children with
    | [] =>
      change SameCause (fresh (resolveAs types .list (.node .list text [])))
        (fresh (resolveAs types' .list (.node .list text [])))
      rw [resolveAs, resolveAs]
      rfl
    | element :: others =>
      change SameCause (fresh (resolve types (.list element))) (fresh (resolve types' (.list element)))
      rw [fresh_resolve_list, fresh_resolve_list]
      have first := sameCause_resolve (below.mono (List.subset_append_left _ _))
      exact (sameCause_param first).bind fun _ => rfl
  | record =>
    change SameCause (fresh (resolve types (.record children))) (fresh (resolve types' (.record children)))
    rw [fresh_resolve_record, fresh_resolve_record]
    exact (sameCause_resolveFields below).bind fun _ => rfl
  | var =>
    change SameCause (fresh (resolve types (.var text))) (fresh (resolve types' (.var text)))
    rw [fresh_resolve_var, fresh_resolve_var]
    rfl
  | constrained =>
    change SameCause (fresh (resolve types (.constrained text children)))
      (fresh (resolve types' (.constrained text children)))
    rw [fresh_resolve_constrained, fresh_resolve_constrained]
    exact (sameCause_resolveParams below).bind fun _ => rfl
  | thunk => rfl
  | field => rfl
  | other label => rfl

theorem sameCause_resolveParams {entries : List Entry} (agree : AgreeOn types types' (nodesOf entries)) :
    SameCause (fresh (resolveParams types entries)) (fresh (resolveParams types' entries)) := by
  match entries with
  | [] => rfl
  | entry :: rest =>
    rw [fresh_resolveParams_cons, fresh_resolveParams_cons]
    refine (sameCause_param (sameCause_resolve (agree.mono (List.subset_append_left _ _)))).bind fun d => ?_
    exact (sameCause_resolveParams (agree.mono (List.subset_append_right _ _))).bind fun _ => rfl

theorem sameCause_resolveFields {entries : List Entry} (agree : AgreeOn types types' (nodesOf entries)) :
    SameCause (fresh (resolveFields types entries)) (fresh (resolveFields types' entries)) := by
  match entries with
  | [] => rfl
  | .node _ _ [] :: _ =>
    rw [resolveFields, resolveFields]
    rfl
  | .node kind name (type :: others) :: rest =>
    change SameCause (fresh (resolveFields types (.field name type :: rest)))
      (fresh (resolveFields types' (.field name type :: rest)))
    rw [fresh_resolveFields_cons, fresh_resolveFields_cons]
    -- The type of the field is the first of the nodes below the field.
    have inside : nodes type ⊆ nodesOf (.node kind name (type :: others) :: rest) := by
      intro node member
      exact List.mem_append_left _ (List.mem_cons_of_mem _ (List.mem_append_left _ member))
    refine (sameCause_param (sameCause_resolve (agree.mono inside))).bind fun d => ?_
    exact (sameCause_resolveFields (agree.mono (List.subset_append_right _ _))).bind fun _ => rfl

end

theorem sameCause_resolveAll {entries : List Entry} (agree : AgreeOn types types' (nodesOf entries)) :
    SameCause (fresh (resolveAll types entries)) (fresh (resolveAll types' entries)) := by
  induction entries with
  | nil => rfl
  | cons entry rest ih =>
    rw [fresh_resolveAll_cons, fresh_resolveAll_cons]
    refine (sameCause_resolve (agree.mono (List.subset_append_left _ _))).bind fun d => ?_
    exact (ih (agree.mono (List.subset_append_right _ _))).bind fun _ => rfl

end Tables

/-- The nodes of the top-level entries are nodes of the whole type. -/
theorem nodesOf_entries_subset (type : Entry) : nodesOf type.entries ⊆ nodes type := by
  intro node member
  rw [Entry.entries] at member
  split at member
  · rw [nodes_eq]
    exact List.mem_cons_of_mem _ member
  · rwa [nodesOf, nodesOf, List.append_nil] at member

end Resolver

/-! ## Constraints -/

/-- What constraints resolve to depends on the names of classes in them only. -/
theorem Obligations.sameCause_addAll {classes classes' : Table String TypeClass} {constraints : List Grammar.Constraint}
    (agree : ∀ constraint ∈ constraints, classes.get? constraint.typeClass = classes'.get? constraint.typeClass)
    (obligations : Obligations) :
    SameCause (addAll classes obligations constraints) (addAll classes' obligations constraints) := by
  induction constraints generalizing obligations with
  | nil => rfl
  | cons constraint rest ih =>
    rw [List.forall_mem_cons] at agree
    have first : SameCause (obligations.add classes constraint) (obligations.add classes' constraint) := by
      rw [add, add, agree.1]
      cases classes'.get? constraint.typeClass <;> rfl
    exact first.bind (ih agree.2)

/-! ## Texts -/

namespace Resolution

open Environment (lastNamed Change)

/-- A name of a type that occurs in the tree of a text. -/
def UsesType (text name : String) : Prop :=
  ∃ s, Grammar.parse text = .ok s ∧ ∃ node ∈ Resolver.nodes s.type, node.kind = .constructor ∧ node.text = name

/-- A name of a type class that occurs in the constraints of a text. -/
def UsesClass (text name : String) : Prop :=
  ∃ s, Grammar.parse text = .ok s ∧ ∃ constraint ∈ s.constraints, constraint.typeClass = name

variable {classes classes' : List TypeClass} {environment environment' : List Descriptor} {text : String}

theorem sameCause_of_used
    (sameTypes : ∀ name, UsesType text name →
      lastNamed Descriptor.shortName name environment = lastNamed Descriptor.shortName name environment')
    (sameClasses : ∀ name, UsesClass text name →
      lastNamed TypeClass.shortName name classes = lastNamed TypeClass.shortName name classes') :
    (ofText classes environment text).mapError SignatureError.cause =
      (ofText classes' environment' text).mapError SignatureError.cause := by
  cases parsed : Grammar.parse text with
  | error e =>
    rw [ofText_of_parse_error parsed, ofText_of_parse_error parsed]
  | ok s =>
    have classesAgree : ∀ constraint ∈ s.constraints, (Environment.typeClasses classes).get? constraint.typeClass =
        (Environment.typeClasses classes').get? constraint.typeClass := by
      intro constraint member
      rw [Environment.get?_typeClasses, Environment.get?_typeClasses]
      exact sameClasses _ ⟨s, parsed, constraint, member, rfl⟩
    have typesAgree : Resolver.AgreeOn (Environment.types environment) (Environment.types environment')
        (Resolver.nodes s.type) := by
      intro node member isName
      rw [Environment.get?_types, Environment.get?_types]
      exact sameTypes _ ⟨s, parsed, node, member, isName, rfl⟩
    have constraints := Obligations.sameCause_addAll classesAgree []
    have types := Resolver.sameCause_resolveAll (typesAgree.mono (Resolver.nodesOf_entries_subset s.type))
    rw [ofText_of_parse parsed, ofText_of_parse parsed]
    exact mapError_bind_congr constraints.semantic fun _ => mapError_bind_congr types.semantic fun _ => rfl

/-- A resolution depends on the environment through the names that the text uses only. Two environments and two lists of
classes in which these names stand for the same, if for anything, give the same resolution or fail for the same cause.
So do two that arise from each other by changes that cannot be seen through these names: another order of items with
distinct names, items of other names more or less, and items more or less that later ones of the same name cover. -/
theorem ofText_eq_of_used (classes classes' : List TypeClass) (environment environment' : List Descriptor)
    (text : String) :
    ((∀ name, UsesType text name →
        lastNamed Descriptor.shortName name environment = lastNamed Descriptor.shortName name environment') →
      (∀ name, UsesClass text name →
        lastNamed TypeClass.shortName name classes = lastNamed TypeClass.shortName name classes') →
      (ofText classes environment text).mapError SignatureError.cause =
        (ofText classes' environment' text).mapError SignatureError.cause) ∧
    (Relation.EqvGen (Change Descriptor.shortName (UsesType text)) environment environment' →
      Relation.EqvGen (Change TypeClass.shortName (UsesClass text)) classes classes' →
      (ofText classes environment text).mapError SignatureError.cause =
        (ofText classes' environment' text).mapError SignatureError.cause) := by
  refine ⟨sameCause_of_used, fun types classes => sameCause_of_used ?_ ?_⟩
  · exact fun name used => Environment.lastNamed_of_eqvGen types used
  · exact fun name used => Environment.lastNamed_of_eqvGen classes used

theorem ofText_eq_of_used_count :
    ∃ r, ofText TypeClass.standard Environment.default "count :: Ord a => [a] -> Number" = .ok r ∧
      ofText [TypeClass.ord] [.operator (.constructor Builtin.number)] "count :: Ord a => [a] -> Number" = .ok r ∧
      ofText (.ofDependencies "Ord" "" [] :: TypeClass.standard)
        (.operator (.constructor Builtin.unknown) :: Environment.default.reverse)
        "count :: Ord a => [a] -> Number" = .ok r := by
  have parsed : Grammar.parse "count :: Ord a => [a] -> Number" =
      .ok ⟨"count", [⟨"Ord", "a"⟩], .function [.list (.var "a"), .constructor "Number" []]⟩ := by
    refine Grammar.parse_eq_ok_iff.mpr
      ⟨[.name "count", .symbol "::", .name "Ord", .name "a", .symbol "=>", .opening .square, .name "a",
        .closing .square, .symbol "->", .name "Number"], by rfl, ?_⟩
    refine .constrained (.single (.mk (by decide) (by decide))) ?_
    exact .function (.bare (.list (.single (.bare (.lower (by decide)))))) (.more (.bare (.upper (by decide))) .none)
  have resolved : ofText TypeClass.standard Environment.default "count :: Ord a => [a] -> Number" =
      .ok ⟨"count", [("a", [TypeClass.ord])], [.type (.array (.var "a")), .operator (.constructor Builtin.number)]⟩ :=
    (ofText_eq_ok_iff parsed).mpr ⟨rfl, rfl, rfl⟩
  have usedType : ∀ name, UsesType "count :: Ord a => [a] -> Number" name → name = "Number" := by
    rintro name ⟨s, h, node, member, isName, rfl⟩
    cases parsed.symm.trans h
    change node ∈ [_, .list (.var "a"), .var "a", .constructor "Number" []] at member
    simp only [List.mem_cons, List.not_mem_nil, or_false] at member
    rcases member with rfl | rfl | rfl | rfl
    · cases isName
    · cases isName
    · cases isName
    · rfl
  have usedClass : ∀ name, UsesClass "count :: Ord a => [a] -> Number" name → name = "Ord" := by
    rintro name ⟨s, h, constraint, member, rfl⟩
    cases parsed.symm.trans h
    rw [List.mem_singleton.mp member]
  have unknownUnused : ¬UsesType "count :: Ord a => [a] -> Number" "Unknown" :=
    fun used => absurd (usedType _ used) (by decide)
  have types : Relation.EqvGen (Change Descriptor.shortName (UsesType "count :: Ord a => [a] -> Number"))
      Environment.default (.operator (.constructor Builtin.unknown) :: Environment.default.reverse) := by
    refine .trans _ Environment.default.reverse _ (.rel _ _ ?_) (.rel _ _ ?_)
    · exact .reorder (List.reverse_perm _).symm (by decide)
    · exact @Change.addUnused _ _ _ [] _ _ unknownUnused
  have classes : Relation.EqvGen (Change TypeClass.shortName (UsesClass "count :: Ord a => [a] -> Number"))
      TypeClass.standard (.ofDependencies "Ord" "" [] :: TypeClass.standard) :=
    .rel _ _ (@Change.addCovered _ _ _ [] [TypeClass.setoid] _ _ TypeClass.ord rfl)
  have few := (ofText_eq_of_used TypeClass.standard [TypeClass.ord] Environment.default
    [.operator (.constructor Builtin.number)] "count :: Ord a => [a] -> Number").1
    (fun name used => by rw [usedType name used]; rfl) (fun name used => by rw [usedClass name used]; rfl)
  have changed := (ofText_eq_of_used _ _ _ _ "count :: Ord a => [a] -> Number").2 types classes
  rw [resolved] at few changed
  exact ⟨_, resolved, mapError_eq_ok_iff.mp few.symm, mapError_eq_ok_iff.mp changed.symm⟩

end Resolution

end HMSignature
