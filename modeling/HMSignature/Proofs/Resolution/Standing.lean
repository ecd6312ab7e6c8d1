import HMSignature.Proofs.Resolution.Inherited
/-!
# Resolved parts stand for types

Most nodes resolve to types. Only a name may stand for an operator, and the empty brackets resolve to one. So what has
no slots stands for a type by itself, unless an item of the table does not.

Results:
1. `sound_of_resolve`: what a node without slots stands for;
2. `stands_of_resolveParams`, `stands_of_resolveFields`: what is resolved as a part stands for a type.
-/

namespace HMSignature.Resolver

open Grammar (Entry)

/-- Every item of the table is sound. -/
def ItemsSound (types : Table String Descriptor) : Prop :=
  ∀ (name : String) (item : Descriptor), types.get? name = some item → item.Sound

variable {types : Table String Descriptor}

/-- Only a variable operator without slots cannot stand for a type where no slots are left. -/
theorem itemsSound_types {environment : List Descriptor}
    (notBare : ∀ item ∈ environment, ∀ name bound, item ≠ .operator (.var name 0 bound)) :
    ItemsSound (Environment.types environment) :=
  fun _ item found => Descriptor.sound_of_ne (notBare item (Environment.mem_of_get? found).1)

theorem sound_of_resolve (items : ItemsSound types) {entry : Entry} {d : Descriptor}
    (resolved : fresh (resolve types entry) = .ok d) : d.Sound := by
  cases d with
  | type t => exact (Descriptor.stands_type t).sound
  | operator op =>
    rcases operator_of_resolveAs resolved with ⟨-, found⟩ | rfl
    · exact items entry.text _ found
    · exact Descriptor.sound_of_ne fun _ _ => nofun

theorem stands_of_resolveParam (items : ItemsSound types) {entry : Entry} {d : Descriptor}
    (resolved : fresh (resolveParam types entry) = .ok d) : d.Stands :=
  let ⟨node, bare⟩ := fresh_resolveParam_eq_ok_iff.mp resolved
  sound_of_resolve items node bare

theorem stands_of_resolveParams (items : ItemsSound types) {entries : List Entry} {ds : List Descriptor}
    (resolved : fresh (resolveParams types entries) = .ok ds) : ∀ d ∈ ds, d.Stands := by
  induction entries generalizing ds with
  | nil =>
    cases resolved
    exact List.forall_mem_nil _
  | cons entry rest ih =>
    obtain ⟨d, others, first, hothers, rfl⟩ := fresh_resolveParams_cons_eq_ok_iff.mp resolved
    exact forall_mem_kept (stands_of_resolveParam items first) (ih hothers)

theorem stands_of_resolveFields (items : ItemsSound types) {entries : List Entry} {fields : List (String × Descriptor)}
    (resolved : fresh (resolveFields types entries) = .ok fields) : ∀ field ∈ fields, field.2.Stands := by
  induction entries generalizing fields with
  | nil =>
    cases resolved
    exact List.forall_mem_nil _
  | cons entry rest ih =>
    obtain ⟨kind, name, children⟩ := entry
    cases children with
    | nil => cases resolved
    | cons type others =>
      change fresh (resolveFields types (.field name type :: rest)) = .ok fields at resolved
      obtain ⟨d, others, first, hothers, rfl⟩ := fresh_resolveFields_cons_eq_ok_iff.mp resolved
      exact List.forall_mem_cons.mpr ⟨stands_of_resolveParam items first, ih hothers⟩

end HMSignature.Resolver
