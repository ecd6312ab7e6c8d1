import HMSignature.CommandLine.Basic
import HMSignature.Proofs.Grammar.Shape
import HMSignature.Proofs.Resolution.Standing
/-!
# Errors that are reported

The command line reports an error that is about the signature and breaks off at any other. The others are about trees
with missing children, which no text has, and about parts that do not make a type. A part of a type is a descriptor
without slots, and those stand for types by themselves except for variable operators without slots. So there are only
errors to report if no item of the environment is such an operator.

Results:
1. `IsTree.settles`: a node resolves to what can be a part of a type or fails with an error that is reported;
2. `isReported_of_ofText`: so does a signature.
-/

namespace HMSignature

open Grammar (Entry IsTree AreTrees AreFields Signature)
open CommandLine (isReported)

/-! ## Outcomes -/

/-- The outcome has the property, or is an error that is reported. -/
def Settles {α : Type} (good : α → Prop) : Except ResolutionError α → Prop
  | .ok a => good a
  | .error e => isReported e = true

theorem Settles.bind {α β : Type} {good : α → Prop} {good' : β → Prop} {x : Except ResolutionError α}
    {f : α → Except ResolutionError β} (first : Settles good x) (second : ∀ a, good a → Settles good' (f a)) :
    Settles good' (x >>= f) := by
  cases x with
  | error e => exact first
  | ok a => exact second a first

theorem Settles.sound {outcome : Except ResolutionError Descriptor} (h : Settles Descriptor.Stands outcome) :
    Settles Descriptor.Sound outcome := by
  cases outcome with
  | error e => exact h
  | ok d => exact Descriptor.Stands.sound h

namespace Resolver

section Steps

variable {types : Table String Descriptor}

theorem settles_made {f : Ty → Ty} {outcome : Except BuildError Ty} (built : ∃ t, outcome = .ok t) :
    Settles Descriptor.Stands (fresh (made f outcome)) := by
  obtain ⟨t, rfl⟩ := built
  exact Descriptor.stands_type (f t)

theorem settles_lookup (sound : ItemsSound types) (name : String) :
    Settles Descriptor.Sound (fresh (lookup types name)) := by
  rw [fresh_lookup]
  split
  · exact sound name _ ‹_›
  · rfl

theorem settles_asParam {text : String} {d : Descriptor} (sound : d.Sound) :
    Settles Descriptor.Stands (fresh (asParam text d)) := by
  rw [fresh_asParam]
  split
  · rename_i noSlots
    exact sound noSlots
  · rfl

theorem settles_applyNamed (sound : ItemsSound types) (name : String) {ds : List Descriptor}
    (all : ∀ d ∈ ds, d.Stands) : Settles Descriptor.Stands (fresh (applyNamed types name ds)) := by
  rw [fresh_applyNamed]
  refine (settles_lookup sound name).bind fun item _ => ?_
  rw [fresh_applyItem]
  split
  · rfl
  · split
    · rename_i filled
      obtain ⟨t, applied⟩ := Descriptor.exists_apply all filled
      rw [applied]
      exact Descriptor.stands_type t
    · rfl

theorem settles_functionOf {ds : List Descriptor} (all : ∀ d ∈ ds, d.Stands) :
    Settles Descriptor.Stands (fresh (functionOf ds)) := by
  rw [fresh_functionOf_eq]
  -- Missing segments are units, so there is a type for the output.
  have nonempty : padded ds ≠ [] := List.length_pos_iff.mp (Nat.lt_of_lt_of_le Nat.two_pos (two_le_length_padded ds))
  exact settles_made (Descriptor.exists_functionType (forall_mem_padded ⟨.unit, rfl⟩ all) nonempty)

theorem settles_applyVariable (name : String) {ds : List Descriptor} (all : ∀ d ∈ ds, d.Stands) :
    Settles Descriptor.Stands (do
      let op ← fresh (variableOperator name ds.length)
      fresh (made id (op.apply ds))) := by
  rw [fresh_variableOperator]
  split
  · exact settles_made (Descriptor.exists_apply all rfl)
  · rfl

end Steps

/-! ## Nodes -/

section Nodes

variable {types : Table String Descriptor}

theorem settles_param {entry : Entry} (node : Settles Descriptor.Sound (fresh (resolve types entry))) :
    Settles Descriptor.Stands (fresh (resolveParam types entry)) := by
  rw [fresh_resolveParam]
  exact node.bind fun _ => settles_asParam

mutual

/-- A node of a well-formed tree resolves to something sound, or fails with an error that is reported. -/
theorem settles_resolve (items : ItemsSound types) {entry : Entry} :
    IsTree entry → Settles Descriptor.Sound (fresh (resolve types entry))
  | .constructor _ params => by
    rw [fresh_resolve_constructor]
    split
    · exact settles_lookup items _
    · exact ((settles_resolveParams items params).bind fun _ => settles_applyNamed items _).sound
  | .function segments => by
    rw [fresh_resolve_function]
    exact ((settles_resolveParams items segments).bind fun _ => settles_functionOf).sound
  | .list element => by
    rw [fresh_resolve_list]
    exact ((settles_param (settles_resolve items element)).bind fun _ => settles_made).sound
  | .record fields => by
    rw [fresh_resolve_record]
    exact ((settles_resolveFields items fields).bind fun _ all => settles_made (Descriptor.exists_record all)).sound
  | .var _ => by
    rw [fresh_resolve_var]
    exact (Descriptor.stands_type _).sound
  | .constrained _ params => by
    rw [fresh_resolve_constrained]
    exact ((settles_resolveParams items params).bind fun _ => settles_applyVariable _).sound
  | .thunk => fun _ => ⟨_, rfl⟩

theorem settles_resolveParams (items : ItemsSound types) {entries : List Entry} :
    AreTrees entries → Settles (fun ds => ∀ d ∈ ds, d.Stands) (fresh (resolveParams types entries))
  | .nil => nofun
  | .cons first others => by
    rw [fresh_resolveParams_cons]
    refine (settles_param (settles_resolve items first)).bind fun d stands => ?_
    exact (settles_resolveParams items others).bind fun ds all => forall_mem_kept stands all

theorem settles_resolveFields (items : ItemsSound types) {entries : List Entry} :
    AreFields entries → Settles (fun fields => ∀ field ∈ fields, field.2.Stands) (fresh (resolveFields types entries))
  | .nil => nofun
  | .cons _ type others => by
    rw [fresh_resolveFields_cons]
    refine (settles_param (settles_resolve items type)).bind fun d stands => ?_
    exact (settles_resolveFields items others).bind fun ds all => List.forall_mem_cons.mpr ⟨stands, all⟩

end

theorem settles_resolveAll (items : ItemsSound types) {entries : List Entry} (trees : AreTrees entries) :
    Settles (fun _ => True) (fresh (resolveAll types entries)) := by
  induction entries with
  | nil => trivial
  | cons entry rest ih =>
    cases trees with
    | cons first others =>
      rw [fresh_resolveAll_cons]
      exact (settles_resolve items first).bind fun d _ => (ih others).bind fun ds _ => trivial

end Nodes

end Resolver

/-! ## Signatures -/

theorem Obligations.settles_addAll (classes : Table String TypeClass) (obligations : Obligations)
    (constraints : List Grammar.Constraint) : Settles (fun _ => True) (addAll classes obligations constraints) := by
  induction constraints generalizing obligations with
  | nil => trivial
  | cons constraint rest ih =>
    have first : Settles (fun _ => True) (obligations.add classes constraint) := by
      unfold add
      split <;> trivial
    exact first.bind fun added _ => ih added

/-- Whatever is wrong with the types of a signature is reported. -/
theorem isReported_of_ofText {classes : List TypeClass} {environment : List Descriptor}
    (sound : ∀ item ∈ environment, item.Sound) {text : String} {e : ResolutionError}
    (h : Resolution.ofText classes environment text = .error (.semantic e)) : isReported e = true := by
  cases parsed : Grammar.parse text with
  | error failure =>
    rw [Resolution.ofText_of_parse_error parsed] at h
    cases h
  | ok s =>
    have items : Resolver.ItemsSound (Environment.types environment) :=
      fun name item found => sound item (Environment.mem_of_get? found).1
    have types : Settles (fun _ => True)
        (Resolver.fresh (Resolver.resolveAll (Environment.types environment) s.entries)) :=
      Resolver.settles_resolveAll items (Grammar.isTree_of_parse parsed).entries
    have constraints := Obligations.settles_addAll (Environment.typeClasses classes) [] s.constraints
    rw [Resolution.ofText_of_parse parsed] at h
    cases grouped : Obligations.ofConstraints (Environment.typeClasses classes) s.constraints with
    | error failure =>
      rw [grouped] at h
      cases h
      rwa [← Obligations.ofConstraints, grouped] at constraints
    | ok obligations =>
      rw [grouped] at h
      cases resolved : Resolver.fresh (Resolver.resolveAll (Environment.types environment) s.entries) with
      | error failure =>
        rw [resolved] at h
        cases h
        rwa [resolved] at types
      | ok ds =>
        rw [resolved] at h
        cases h

end HMSignature
