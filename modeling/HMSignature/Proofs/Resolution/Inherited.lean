import HMSignature.Proofs.Descriptor.Inherited
import HMSignature.Proofs.Resolution.Inversion
/-!
# Resolved types inherit from the items of the table

A resolver takes types from its table and builds others from them. So a property that types inherit from their parts
comes from the items of the table to everything that any tree resolves to, whether or not the tree was ever read from a
text.

Results:
1. `has_of_resolveAs` and its companions: the property of what one step gives;
2. `has_of_resolveParam`, `has_of_resolveAll`: and of what is resolved as a parameter or at the top.
-/

namespace HMSignature.Resolver

open Grammar (Entry Kind)

variable {P : Ty → Prop} {types : Table String Descriptor}

/-- Every item of the table has the property. -/
def ItemsHave (P : Ty → Prop) (types : Table String Descriptor) : Prop :=
  ∀ (name : String) (item : Descriptor), types.get? name = some item → item.Has P

theorem has_of_functionOf (inherited : Ty.Inherited P) {ds : List Descriptor} {d : Descriptor}
    (all : ∀ d ∈ ds, d.Has P) (h : fresh (functionOf ds) = .ok d) : d.Has P := by
  obtain ⟨input, inputs, output, stands, rfl⟩ := fresh_functionOf_eq_ok_iff.mp h
  have parts := inherited.of_toTys (forall_mem_padded trivial all) stands
  rw [List.forall_mem_cons, List.forall_mem_append, List.forall_mem_singleton] at parts
  exact inherited.arrow parts.1 (inherited.arrows parts.2.1 parts.2.2)

/-- What is left when marks are left out has the property if all of it has. -/
theorem forall_mem_kept {p : Descriptor → Prop} {d : Descriptor} {ds : List Descriptor} (first : p d)
    (all : ∀ d ∈ ds, p d) : ∀ d' ∈ (if d.isThunk then ds else d :: ds), p d' := by
  split
  · exact all
  · exact List.forall_mem_cons.mpr ⟨first, all⟩

mutual

theorem has_of_resolveAs (inherited : Ty.Inherited P) (items : ItemsHave P types) {kind : Kind} {entry : Entry}
    {d : Descriptor} (h : fresh (resolveAs types kind entry) = .ok d) : d.Has P := by
  match entry with
  | .node _ text children =>
  cases makes_of_resolveAs h with
  | name found => exact items text d found
  | applied resolved _ _ _ applied => exact inherited.of_apply (has_of_resolveParams inherited items resolved) applied
  | function resolved built => exact has_of_functionOf inherited (has_of_resolveParams inherited items resolved) built
  | list below resolved stands =>
    subst below
    have has := has_of_resolveAs inherited items (fresh_resolveParam_eq_ok_iff.mp resolved).1
    exact inherited.array (inherited.of_toTy has stands)
  | record resolved built => exact inherited.of_record (has_of_resolveFields inherited items resolved) built
  | var => exact inherited.var text
  | constrained resolved _ applied => exact inherited.of_apply (has_of_resolveParams inherited items resolved) applied
  | thunk => trivial
termination_by sizeOf entry

theorem has_of_resolveParams (inherited : Ty.Inherited P) (items : ItemsHave P types) {entries : List Entry}
    {ds : List Descriptor} (h : fresh (resolveParams types entries) = .ok ds) : ∀ d ∈ ds, d.Has P := by
  match entries with
  | [] =>
    cases h
    simp
  | entry :: rest =>
    obtain ⟨d, others, resolved, hothers, rfl⟩ := fresh_resolveParams_cons_eq_ok_iff.mp h
    have first := (fresh_resolveParam_eq_ok_iff.mp resolved).1
    exact forall_mem_kept (has_of_resolveAs inherited items first) (has_of_resolveParams inherited items hothers)
termination_by sizeOf entries

theorem has_of_resolveFields (inherited : Ty.Inherited P) (items : ItemsHave P types) {entries : List Entry}
    {fields : List (String × Descriptor)} (h : fresh (resolveFields types entries) = .ok fields) :
    ∀ field ∈ fields, field.2.Has P := by
  match entries with
  | [] =>
    cases h
    simp
  | .node _ _ [] :: _ => cases h
  | .node _ name (type :: _) :: rest =>
    change fresh (resolveFields types (.field name type :: rest)) = .ok fields at h
    obtain ⟨d, others, resolved, hothers, rfl⟩ := fresh_resolveFields_cons_eq_ok_iff.mp h
    have first := (fresh_resolveParam_eq_ok_iff.mp resolved).1
    exact List.forall_mem_cons.mpr
      ⟨has_of_resolveAs inherited items first, has_of_resolveFields inherited items hothers⟩
termination_by sizeOf entries

end

theorem has_of_resolve (inherited : Ty.Inherited P) (items : ItemsHave P types) {entry : Entry} {d : Descriptor}
    (h : fresh (resolve types entry) = .ok d) : d.Has P :=
  has_of_resolveAs inherited items h

theorem has_of_resolveParam (inherited : Ty.Inherited P) (items : ItemsHave P types) {entry : Entry}
    {d : Descriptor} (h : fresh (resolveParam types entry) = .ok d) : d.Has P :=
  has_of_resolve inherited items (fresh_resolveParam_eq_ok_iff.mp h).1

theorem has_of_resolveAll (inherited : Ty.Inherited P) (items : ItemsHave P types) {entries : List Entry}
    {ds : List Descriptor} (h : fresh (resolveAll types entries) = .ok ds) : ∀ d ∈ ds, d.Has P := by
  induction entries generalizing ds with
  | nil =>
    cases h
    simp
  | cons entry rest ih =>
    obtain ⟨d, others, first, hothers, rfl⟩ := fresh_resolveAll_cons_eq_ok_iff.mp h
    exact forall_mem_kept (has_of_resolve inherited items first) (ih hothers)

end HMSignature.Resolver
