import HMSignature.Proofs.Descriptor.Renaming
import HMSignature.Proofs.Resolution.Sharing
import HMSignature.Proofs.Resolution.Standing
/-!
# Renaming variables in signatures

The variables of a tree can be renamed before it is resolved, or in what it resolves to. It makes no difference, not
even when two variables get one name: a resolver that takes them for one then remembers less, but what it remembers
under a name is what it would make for it. The items of the environment have to be without variables, because nothing
renames these in a tree.

Results:
1. `applyItem_rename`, `functionOf_rename` and the lemmas beside them: renaming in single steps;
2. `resolve_rename`, `resolveParams_rename`, `resolveFields_rename`: renaming in trees;
3. `resolveAll_rename_variables`: renaming in signatures, with the errors.
-/

namespace HMSignature

open Grammar (Entry Kind IsTree AreTrees AreFields Signature isCapitalized)

/-! ## Trees and errors with other names -/

namespace Grammar.Entry

mutual

/-- A tree with other names for its variables, applied or not. -/
def rename (ρ : String → String) : Entry → Entry
  | node kind text children =>
      node kind (if kind = .var ∨ kind = .constrained then ρ text else text) (renameAll ρ children)

def renameAll (ρ : String → String) : List Entry → List Entry
  | [] => []
  | entry :: rest => rename ρ entry :: renameAll ρ rest

end

variable {ρ : String → String}

theorem isEmpty_renameAll (entries : List Entry) : (renameAll ρ entries).isEmpty = entries.isEmpty := by
  cases entries <;> rfl

theorem entries_rename (entry : Entry) : (entry.rename ρ).entries = renameAll ρ entry.entries := by
  obtain ⟨kind, text, children⟩ := entry
  cases kind <;> rfl

theorem rename_constructor (name : String) (params : List Entry) :
    (constructor name params).rename ρ = constructor name (renameAll ρ params) :=
  rfl

theorem rename_function (segments : List Entry) : (function segments).rename ρ = function (renameAll ρ segments) :=
  rfl

theorem rename_list (element : Entry) : (list element).rename ρ = list (element.rename ρ) :=
  rfl

theorem rename_record (fields : List Entry) : (record fields).rename ρ = record (renameAll ρ fields) :=
  rfl

theorem rename_field (name : String) (type : Entry) : (field name type).rename ρ = field name (type.rename ρ) :=
  rfl

theorem rename_var (name : String) : (var name).rename ρ = var (ρ name) :=
  rfl

theorem rename_constrained (name : String) (params : List Entry) :
    (constrained name params).rename ρ = constrained (ρ name) (renameAll ρ params) :=
  rfl

end Grammar.Entry

/-- An error with another name in it, if that is the name of a variable. Only a variable that is applied to a wrong
number of types can be named in one. -/
def ResolutionError.rename (ρ : String → String) : ResolutionError → ResolutionError
  | arityMismatch name expected actual =>
      arityMismatch (if isCapitalized name then name else ρ name) expected actual
  | e => e

/-- An outcome with other names for the variables in what it gives, which `f` renames, or in the error. -/
def renamed {α : Type} (ρ : String → String) (f : α → α) (outcome : Except ResolutionError α) :
    Except ResolutionError α :=
  (outcome.map f).mapError (ResolutionError.rename ρ)

namespace Resolver

variable {ρ : String → String} {types : Table String Descriptor}

/-- Steps that give renamed outcomes, one after the other. -/
theorem renamed_bind {α β : Type} {f : α → α} {g : β → β} {first first' : Except ResolutionError α}
    {next next' : α → Except ResolutionError β} (h : first' = renamed ρ f first)
    (h' : ∀ a, first = .ok a → next' (f a) = renamed ρ g (next a)) :
    first' >>= next' = renamed ρ g (first >>= next) := by
  subst h
  cases first with
  | error e => rfl
  | ok a => exact h' a rfl

/-- No item of the table has variables. -/
def ItemsGround (types : Table String Descriptor) : Prop :=
  ∀ (name : String) (item : Descriptor), types.get? name = some item → item.isGround = true

theorem ItemsGround.sound (ground : ItemsGround types) : ItemsSound types := by
  intro name item found
  refine Descriptor.sound_of_ne fun name' bound same => ?_
  have isGround := ground name item found
  rw [same] at isGround
  cases isGround

/-! ## Single steps -/

theorem isThunk_rename (d : Descriptor) : (d.rename ρ).isThunk = d.isThunk := by
  cases d with
  | operator op => cases op <;> rfl
  | type t =>
    cases t with
    | operation op params =>
      -- Renaming keeps constructors and variables apart, and the number of parameters.
      cases op <;> cases params <;> rfl
    | var name => rfl
    | record fields => rfl

/-- The marks that are left out are the same. -/
theorem map_kept (d : Descriptor) (ds : List Descriptor) :
    (if (d.rename ρ).isThunk then ds.map (Descriptor.rename ρ) else d.rename ρ :: ds.map (Descriptor.rename ρ)) =
      (if d.isThunk then ds else d :: ds).map (Descriptor.rename ρ) := by
  rw [isThunk_rename]
  split <;> rfl

theorem functionTy_rename (ts : List Ty) : (functionTy ts).rename ρ = functionTy (ts.map (Ty.rename ρ)) := by
  match ts with
  | [] => rfl
  | [output] => rfl
  | input :: more :: others =>
    rw [functionTy, Ty.rename_arrows]
    have last := List.getLast_map (f := Ty.rename ρ) (l := input :: more :: others) (List.cons_ne_nil _ _)
    exact congrArg₂ Ty.arrows List.map_dropLast last.symm

theorem functionOf_rename {ds : List Descriptor} (all : ∀ d ∈ ds, d.Stands) :
    fresh (functionOf (ds.map (Descriptor.rename ρ))) = renamed ρ (Descriptor.rename ρ) (fresh (functionOf ds)) := by
  obtain ⟨ts, stands⟩ := Descriptor.exists_toTys all
  rw [fresh_functionOf stands, fresh_functionOf (Descriptor.toTys_rename stands), ← functionTy_rename]
  rfl

theorem made_rename {f : Ty → Ty} {outcome outcome' : Except BuildError Ty} {t : Ty} (built : outcome = .ok t)
    (built' : outcome' = .ok (t.rename ρ)) (same : f (t.rename ρ) = (f t).rename ρ) :
    fresh (made f outcome') = renamed ρ (Descriptor.rename ρ) (fresh (made f outcome)) := by
  subst built built'
  exact congrArg (fun t => Except.ok (Descriptor.type t)) same

theorem lookup_rename (ground : ItemsGround types) (name : String) :
    fresh (lookup types name) = renamed ρ (Descriptor.rename ρ) (fresh (lookup types name)) := by
  rw [fresh_lookup]
  split
  · rename_i item found
    exact congrArg Except.ok (Descriptor.rename_of_isGround (ground name item found)).symm
  · rfl

/-- The operator that an item without variables applies is not a variable. -/
theorem isGround_of_operatorOf? {item : Descriptor} {op : Operator} (ground : item.isGround = true)
    (applies : operatorOf? item = some op) : op.isGround = true := by
  cases item with
  | operator own =>
    cases applies
    exact ground
  | type t =>
    cases t with
    | operation own params =>
      cases applies
      exact (Bool.and_eq_true _ _ ▸ ground).1
    | var name => cases applies
    | record fields => cases applies

theorem applyItem_rename {name : String} {item : Descriptor} {ds : List Descriptor}
    (capital : isCapitalized name = true) (ground : item.isGround = true) (all : ∀ d ∈ ds, d.Stands) :
    fresh (applyItem name (ds.map (Descriptor.rename ρ)) item) =
      renamed ρ (Descriptor.rename ρ) (fresh (applyItem name ds item)) := by
  have unnamed (expected : Nat) : Except.error (.arityMismatch name expected ds.length) =
      renamed ρ (Descriptor.rename ρ) (.error (.arityMismatch name expected ds.length)) := by
    rw [renamed, Except.map, Except.mapError, ResolutionError.rename, if_pos capital]
  rw [fresh_applyItem, fresh_applyItem, List.length_map]
  cases applies : operatorOf? item with
  | none => exact unnamed 0
  | some op =>
    dsimp only
    split
    · rename_i filled
      obtain ⟨t, applied⟩ := Descriptor.exists_apply all filled
      have applied' : op.apply (ds.map (Descriptor.rename ρ)) = .ok (t.rename ρ) := by
        rw [← Operator.rename_of_isGround (isGround_of_operatorOf? ground applies)]
        exact Operator.apply_rename applied
      rw [applied, applied']
      rfl
    · exact unnamed op.arity

theorem applyNamed_rename (ground : ItemsGround types) {name : String}
    {ds : List Descriptor} (capital : isCapitalized name = true) (all : ∀ d ∈ ds, d.Stands) :
    fresh (applyNamed types name (ds.map (Descriptor.rename ρ))) =
      renamed ρ (Descriptor.rename ρ) (fresh (applyNamed types name ds)) := by
  rw [fresh_applyNamed, fresh_applyNamed]
  refine renamed_bind (lookup_rename ground name) fun item found => ?_
  have isGround := ground name item (fresh_lookup_eq_ok_iff.mp found)
  rw [Descriptor.rename_of_isGround isGround]
  exact applyItem_rename capital isGround all

/-- A variable is applied under its new name. -/
theorem applyVariable_rename {name : String} {ds : List Descriptor} (lower : isCapitalized name = false)
    (all : ∀ d ∈ ds, d.Stands) :
    (do
      let op ← fresh (variableOperator (ρ name) (ds.map (Descriptor.rename ρ)).length)
      fresh (made id (op.apply (ds.map (Descriptor.rename ρ))))) =
      renamed ρ (Descriptor.rename ρ) (do
        let op ← fresh (variableOperator name ds.length)
        fresh (made id (op.apply ds))) := by
  rw [List.length_map, fresh_variableOperator, fresh_variableOperator]
  split
  · rename_i bound
    obtain ⟨t, applied⟩ : ∃ t, (Operator.var name ds.length bound.2).apply ds = .ok t :=
      Descriptor.exists_apply all rfl
    exact made_rename applied (Operator.apply_rename applied) rfl
  · show Except.error _ = Except.error (ResolutionError.rename ρ (.arityMismatch name 2 ds.length))
    rw [ResolutionError.rename, lower]
    rfl

/-- Only a name can be left with slots, and names of types are not renamed. -/
theorem resolveParam_rename {entry : Entry} (tree : IsTree entry)
    (node : fresh (resolve types (entry.rename ρ)) = renamed ρ (Descriptor.rename ρ) (fresh (resolve types entry))) :
    fresh (resolveParam types (entry.rename ρ)) =
      renamed ρ (Descriptor.rename ρ) (fresh (resolveParam types entry)) := by
  rw [fresh_resolveParam, fresh_resolveParam]
  refine renamed_bind node fun d resolved => ?_
  rw [fresh_asParam, fresh_asParam, Descriptor.arity_rename]
  split
  · rfl
  · rename_i slots
    cases d with
    | type t => exact absurd rfl slots
    | operator op =>
      rcases operator_of_resolveAs resolved with ⟨named, -⟩ | rfl
      · cases tree with
        | @constructor name params isName trees =>
          show Except.error (.arityMismatch name op.arity 0) =
            Except.error (ResolutionError.rename ρ (.arityMismatch name op.arity 0))
          rw [ResolutionError.rename, if_pos isName.2]
        | _ => cases named
      · exact absurd rfl slots

/-! ## Trees -/

-- The induction is on the shape of the tree: names in errors are told apart by their first letters.
mutual

theorem resolve_rename (ground : ItemsGround types) {entry : Entry} : IsTree entry →
    fresh (resolve types (entry.rename ρ)) = renamed ρ (Descriptor.rename ρ) (fresh (resolve types entry))
  | .constructor isName params => by
    rw [Entry.rename_constructor, fresh_resolve_constructor, fresh_resolve_constructor, Entry.isEmpty_renameAll]
    split
    · exact lookup_rename ground _
    · refine renamed_bind (resolveParams_rename ground params) fun ds resolved => ?_
      exact applyNamed_rename ground isName.2 (stands_of_resolveParams ground.sound resolved)
  | .function segments => by
    rw [Entry.rename_function, fresh_resolve_function, fresh_resolve_function]
    refine renamed_bind (resolveParams_rename ground segments) fun ds resolved => ?_
    exact functionOf_rename (stands_of_resolveParams ground.sound resolved)
  | .list element => by
    rw [Entry.rename_list, fresh_resolve_list, fresh_resolve_list]
    refine renamed_bind (resolveParam_rename element (resolve_rename ground element)) fun d resolved => ?_
    obtain ⟨t, stands⟩ := stands_of_resolveParam ground.sound resolved
    exact made_rename stands (Descriptor.toTy_rename stands) (Ty.rename_array t).symm
  | .record fields => by
    rw [Entry.rename_record, fresh_resolve_record, fresh_resolve_record]
    refine renamed_bind (resolveFields_rename ground fields) fun items resolved => ?_
    obtain ⟨t, built⟩ := Descriptor.exists_record (stands_of_resolveFields ground.sound resolved)
    exact made_rename built (Descriptor.record_rename built) rfl
  | .var _ => by
    rw [Entry.rename_var, fresh_resolve_var, fresh_resolve_var]
    rfl
  | .constrained isName params => by
    rw [Entry.rename_constrained, fresh_resolve_constrained, fresh_resolve_constrained]
    refine renamed_bind (resolveParams_rename ground params) fun ds resolved => ?_
    exact applyVariable_rename isName.2 (stands_of_resolveParams ground.sound resolved)
  | .thunk => rfl

theorem resolveParams_rename (ground : ItemsGround types) {entries : List Entry} : AreTrees entries →
    fresh (resolveParams types (Entry.renameAll ρ entries)) =
      renamed ρ (List.map (Descriptor.rename ρ)) (fresh (resolveParams types entries))
  | .nil => rfl
  | .cons first others => by
    rw [Entry.renameAll, fresh_resolveParams_cons, fresh_resolveParams_cons]
    refine renamed_bind (resolveParam_rename first (resolve_rename ground first)) fun d _ => ?_
    exact renamed_bind (resolveParams_rename ground others) fun ds _ => congrArg Except.ok (map_kept d ds)

theorem resolveFields_rename (ground : ItemsGround types) {entries : List Entry} : AreFields entries →
    fresh (resolveFields types (Entry.renameAll ρ entries)) =
      renamed ρ (List.map (Prod.map id (Descriptor.rename ρ))) (fresh (resolveFields types entries))
  | .nil => rfl
  | .cons _ type others => by
    rw [Entry.renameAll, Entry.rename_field, fresh_resolveFields_cons, fresh_resolveFields_cons]
    refine renamed_bind (resolveParam_rename type (resolve_rename ground type)) fun d _ => ?_
    exact renamed_bind (resolveFields_rename ground others) fun items _ => rfl

end

theorem resolveAll_rename (ground : ItemsGround types) {entries : List Entry} (trees : AreTrees entries) :
    fresh (resolveAll types (Entry.renameAll ρ entries)) =
      renamed ρ (List.map (Descriptor.rename ρ)) (fresh (resolveAll types entries)) := by
  induction entries with
  | nil => rfl
  | cons entry rest ih =>
    cases trees with
    | cons first others =>
      rw [Entry.renameAll, fresh_resolveAll_cons, fresh_resolveAll_cons]
      refine renamed_bind (resolve_rename ground first) fun d _ => ?_
      exact renamed_bind (ih others) fun ds _ => congrArg Except.ok (map_kept d ds)

/-! ## Signatures -/

/-- Two resolvers, whatever they have been asked for before, on an environment without variables. One gets the top-level
entries of a signature with other names for the variables, the other one the entries as they are. The first one gives
what the second one gives, with the variables renamed there; and it fails exactly when the second one fails, with the
same error for the new name. The new names need not differ. -/
theorem resolveAll_rename_variables (environment : List Descriptor)
    (ground : ∀ item ∈ environment, item.isGround = true) {text : String} {s : Signature}
    (parsed : Grammar.parse text = .ok s) (ρ : String → String) (calls calls' : List Call) :
    let types := Environment.types environment
    let before := ((resolveAll types (s.type.rename ρ).entries).run (memoryAfter types .empty calls)).1
    let after := ((resolveAll types s.entries).run (memoryAfter types .empty calls')).1
    before = (after.map (List.map (Descriptor.rename ρ))).mapError (ResolutionError.rename ρ) := by
  intro types before after
  have items : ItemsGround types := fun _ item found => ground item (Environment.mem_of_get? found).1
  have hbefore : before = fresh (resolveAll types (Entry.renameAll ρ s.entries)) := by
    rw [Signature.entries, ← Entry.entries_rename]
    exact (transparent_resolveAll types _ _ (faithful_memoryAfter types faithful_empty calls)).1
  have hafter : after = fresh (resolveAll types s.entries) :=
    (transparent_resolveAll types _ _ (faithful_memoryAfter types faithful_empty calls')).1
  rw [hbefore, hafter]
  exact resolveAll_rename items (Grammar.isTree_of_parse parsed).entries

/-- Two applied variables become one, with a resolver that has met the new name with two parameters. With three
parameters the new name is in the error. -/
theorem resolveAll_rename_variables_merged :
    let types := Environment.types Environment.default
    let memory := memoryAfter types .empty [.node (.constrained "h" [.var "a", .var "b"])]
    let ρ : String → String := fun _ => "h"
    (∃ s, Grammar.parse "t :: f a -> g b" = .ok s ∧
      ((resolveAll types (s.type.rename ρ).entries).run memory).1 =
        .ok [.type (.operation (.var "h" 1 (by decide)) [.var "h"]),
          .type (.operation (.var "h" 1 (by decide)) [.var "h"])]) ∧
    ∃ s, Grammar.parse "t :: f a b a" = .ok s ∧
      ((resolveAll types (s.type.rename ρ).entries).run memory).1 = .error (.arityMismatch "h" 2 3) := by
  have ground : ∀ item ∈ Environment.default, item.isGround = true := by
    intro item member
    obtain ⟨c, -, rfl⟩ := List.mem_map.mp member
    rfl
  have applied : Grammar.parse "t :: f a -> g b" =
      .ok ⟨"t", [], .function [.constrained "f" [.var "a"], .constrained "g" [.var "b"]]⟩ := by
    refine Grammar.parse_eq_ok_iff.mpr
      ⟨[.name "t", .symbol "::", .name "f", .name "a", .symbol "->", .name "g", .name "b"], by rfl, .free ?_⟩
    have unary {f a : String} {rest : List Grammar.Token} (hf : isCapitalized f = false)
        (ha : isCapitalized a = false) : Grammar.ApplicationAt (.name f :: .name a :: rest) (.constrained f [.var a]) rest :=
      .lower (.lower hf) (.more (.lower ha) .none)
    exact .function (unary (by decide) (by decide)) (.more (unary (by decide) (by decide)) .none)
  have misapplied : Grammar.parse "t :: f a b a" =
      .ok ⟨"t", [], .constrained "f" [.var "a", .var "b", .var "a"]⟩ := by
    refine Grammar.parse_eq_ok_iff.mpr
      ⟨[.name "t", .symbol "::", .name "f", .name "a", .name "b", .name "a"], by rfl, .free (.single ?_)⟩
    refine .lower (.lower (by decide)) (.more (.lower (by decide)) (.more (.lower (by decide)) ?_))
    exact .more (.lower (by decide)) .none
  refine ⟨⟨_, applied, ?_⟩, ⟨_, misapplied, ?_⟩⟩
  · rw [resolveAll_rename_variables Environment.default ground applied (fun _ => "h")
      [.node (.constrained "h" [.var "a", .var "b"])] []]
    rfl
  · rw [resolveAll_rename_variables Environment.default ground misapplied (fun _ => "h")
      [.node (.constrained "h" [.var "a", .var "b"])] []]
    rfl

end Resolver

end HMSignature
