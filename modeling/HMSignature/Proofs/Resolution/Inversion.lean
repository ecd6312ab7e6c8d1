import HMSignature.Proofs.Resolution.Function
import HMSignature.Proofs.Resolution.Translation
/-!
# What a node resolves to

Each kind of node comes to its descriptor in its own way: a name is looked up, everything else is built from what the
children resolve to. What is true of everything that nodes resolve to can be told by these cases.

Results:
1. `makes_of_resolveAs`: there are no others;
2. `operator_of_resolveAs`: only names and empty brackets resolve to operators.
-/

namespace HMSignature.Resolver

open Grammar (Entry Kind)

variable {types : Table String Descriptor}

/-- How a node with the given text and children comes to a descriptor, by the kind that it is taken for. -/
inductive Makes (types : Table String Descriptor) (text : String) (children : List Entry) : Kind → Descriptor → Prop
  | name {item : Descriptor} : types.get? text = some item → Makes types text children .constructor item
  | applied {ds : List Descriptor} {item : Descriptor} {op : Operator} {t : Ty} :
      fresh (resolveParams types children) = .ok ds → types.get? text = some item → operatorOf? item = some op →
      op.arity = ds.length → op.apply ds = .ok t → Makes types text children .constructor (.type t)
  | function {ds : List Descriptor} {d : Descriptor} :
      fresh (resolveParams types children) = .ok ds → fresh (functionOf ds) = .ok d →
      Makes types text children .function d
  | list {element : Entry} {others : List Entry} {d : Descriptor} {t : Ty} :
      children = element :: others → fresh (resolveParam types element) = .ok d → d.toTy = .ok t →
      Makes types text children .list (.type (.array t))
  | record {fields : List (String × Descriptor)} {t : Ty} :
      fresh (resolveFields types children) = .ok fields → Descriptor.record (Table.ofList fields) = .ok t →
      Makes types text children .record (.type t)
  | var : Makes types text children .var (.type (.var text))
  | constrained {ds : List Descriptor} {t : Ty} :
      fresh (resolveParams types children) = .ok ds → ds.length = 1 ∨ ds.length = 2 →
      (appliedVariable text ds.length).apply ds = .ok t → Makes types text children .constrained (.type t)
  | thunk : Makes types text children .thunk (.operator (.constructor Builtin.thunk))

theorem makes_of_resolveAs {kind own : Kind} {text : String} {children : List Entry} {d : Descriptor}
    (h : fresh (resolveAs types kind (.node own text children)) = .ok d) : Makes types text children kind d := by
  cases kind with
  | constructor =>
    change fresh (resolve types (.constructor text children)) = .ok d at h
    rw [fresh_resolve_constructor] at h
    split at h
    · exact .name (fresh_lookup_eq_ok_iff.mp h)
    · obtain ⟨ds, resolved, h⟩ := bind_eq_ok_iff.mp h
      obtain ⟨item, op, t, found, applies, filled, applied, rfl⟩ := fresh_applyNamed_iff.mp h
      exact .applied resolved found applies filled applied
  | function =>
    change fresh (resolve types (.function children)) = .ok d at h
    rw [fresh_resolve_function] at h
    obtain ⟨ds, resolved, h⟩ := bind_eq_ok_iff.mp h
    exact .function resolved h
  | list =>
    cases children with
    | nil => cases h
    | cons element others =>
      change fresh (resolve types (.list element)) = .ok d at h
      rw [fresh_resolve_list] at h
      obtain ⟨item, resolved, h⟩ := bind_eq_ok_iff.mp h
      obtain ⟨t, stands, rfl⟩ := fresh_made_eq_ok_iff.mp h
      exact .list rfl resolved stands
  | record =>
    change fresh (resolve types (.record children)) = .ok d at h
    rw [fresh_resolve_record] at h
    obtain ⟨fields, resolved, h⟩ := bind_eq_ok_iff.mp h
    obtain ⟨t, built, rfl⟩ := fresh_made_eq_ok_iff.mp h
    exact .record resolved built
  | var =>
    change fresh (resolve types (.var text)) = .ok d at h
    rw [fresh_resolve_var] at h
    cases h
    exact .var
  | constrained =>
    change fresh (resolve types (.constrained text children)) = .ok d at h
    rw [fresh_resolve_constrained] at h
    obtain ⟨ds, resolved, h⟩ := bind_eq_ok_iff.mp h
    obtain ⟨op, isVariable, h⟩ := bind_eq_ok_iff.mp h
    obtain ⟨t, applied, rfl⟩ := fresh_made_eq_ok_iff.mp h
    obtain ⟨count, rfl⟩ := fresh_variableOperator_eq_ok_iff.mp isVariable
    exact .constrained resolved count applied
  | thunk =>
    cases h
    exact .thunk
  | field => cases h
  | other label => cases h

/-- Of all nodes only names and empty brackets resolve to operators. -/
theorem operator_of_resolveAs {kind : Kind} {entry : Entry} {op : Operator}
    (h : fresh (resolveAs types kind entry) = .ok (.operator op)) :
    (kind = .constructor ∧ types.get? entry.text = some (.operator op)) ∨ op = .constructor Builtin.thunk := by
  obtain ⟨_, text, children⟩ := entry
  cases makes_of_resolveAs h with
  | name found => exact .inl ⟨rfl, found⟩
  | function _ built =>
    obtain ⟨_, _, _, -, built⟩ := fresh_functionOf_eq_ok_iff.mp built
    cases built
  | thunk => exact .inr rfl

end HMSignature.Resolver
