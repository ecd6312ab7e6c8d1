import HMSignature.Proofs.Descriptor.Construct
import HMSignature.Proofs.Resolution.Memory
/-!
# Functions from segments

A resolver builds a function from the segments that it has not left out, however many there are. A single one is the
output, and the unit type stands for what is missing. So a function is always built from at least two segments, with
units in front of those that remain.

Results:
1. `fresh_functionOf_eq`: missing segments are units;
2. `fresh_functionOf_eq_ok_iff`: so what is built has inputs, and the last segment is its output;
3. `padded_concat`: what the inputs are, if the last segment is given.
-/

namespace HMSignature.Resolver

/-- The unit type, as the environments have it. -/
def unitItem : Descriptor :=
  .operator (.constructor Builtin.unit)

/-- The segments that remain, with units in front in the place of missing ones. -/
def padded : List Descriptor → List Descriptor
  | [] => [unitItem, unitItem]
  | [d] => [unitItem, d]
  | ds => ds

/-- The inputs that there are, or the unit type alone. -/
def orUnit (inputs : List Descriptor) : List Descriptor :=
  if inputs.isEmpty then [unitItem] else inputs

/-- A curried function type as the outcome of a step. -/
def functionOutcome (ds : List Descriptor) : Except ResolutionError Descriptor :=
  fresh (made id (Descriptor.functionType ds))

/-! ## Segments with units -/

theorem orUnit_concat (ds : List Descriptor) (d : Descriptor) : orUnit (ds ++ [d]) = ds ++ [d] := by
  unfold orUnit
  rw [if_neg (by simp)]

/-- Of what remains the last descriptor is the output. -/
theorem padded_concat (ds : List Descriptor) (d : Descriptor) : padded (ds ++ [d]) = orUnit ds ++ [d] := by
  match ds with
  | [] => rfl
  | [input] => rfl
  | input :: more :: others => rfl

theorem two_le_length_padded (ds : List Descriptor) : 2 ≤ (padded ds).length := by
  match ds with
  | [] => exact Nat.le_refl 2
  | [d] => exact Nat.le_refl 2
  | input :: more :: others => exact Nat.le_add_left 2 others.length

theorem forall_mem_padded {p : Descriptor → Prop} (unit : p unitItem) {ds : List Descriptor} (all : ∀ d ∈ ds, p d) :
    ∀ d ∈ padded ds, p d := by
  match ds with
  | [] => exact List.forall_mem_cons.mpr ⟨unit, List.forall_mem_singleton.mpr unit⟩
  | [output] => exact List.forall_mem_cons.mpr ⟨unit, all⟩
  | input :: more :: others => exact all

theorem any_padded {p : Descriptor → Bool} (unit : p unitItem = false) (ds : List Descriptor) :
    (padded ds).any p = ds.any p := by
  match ds with
  | [] => rw [padded, List.any_cons, List.any_cons, unit, Bool.false_or, Bool.false_or]
  | [output] => rw [padded, List.any_cons, unit, Bool.false_or]
  | input :: more :: others => rfl

/-! ## Functions -/

theorem functionType_unit (output : Descriptor) :
    Descriptor.functionType [unitItem, output] = Ty.arrow .unit <$> output.toTy := by
  unfold Descriptor.functionType
  simp only [Descriptor.toTys]
  cases output.toTy <;> rfl

/-- A function is built from its segments with units in the place of missing ones. -/
theorem fresh_functionOf_eq (ds : List Descriptor) : fresh (functionOf ds) = functionOutcome (padded ds) := by
  match ds with
  | [] => rfl
  | [output] =>
    show fresh (made (.arrow .unit) output.toTy) = fresh (made id (Descriptor.functionType [unitItem, output]))
    rw [functionType_unit]
    cases output.toTy <;> rfl
  | input :: more :: others => rfl

/-- What is built is a function with at least one input. -/
theorem fresh_functionOf_eq_ok_iff {ds : List Descriptor} {d : Descriptor} :
    fresh (functionOf ds) = .ok d ↔
      ∃ input inputs output, Descriptor.toTys (padded ds) = .ok (input :: (inputs ++ [output])) ∧
        d = .type (.arrow input (.arrows inputs output)) := by
  rw [fresh_functionOf_eq, functionOutcome, fresh_made_eq_ok_iff]
  constructor
  · rintro ⟨t, built, rfl⟩
    obtain ⟨inputs, output, stands, rfl⟩ := Descriptor.functionType_eq_ok_iff.mp built
    have two := two_le_length_padded ds
    rw [← Descriptor.length_of_toTys stands] at two
    cases inputs with
    | nil => exact absurd two (Nat.not_succ_le_self 1)
    | cons input rest => exact ⟨input, rest, output, stands, rfl⟩
  · rintro ⟨input, inputs, output, stands, rfl⟩
    exact ⟨_, Descriptor.functionType_eq_ok_iff.mpr ⟨input :: inputs, output, stands, rfl⟩, rfl⟩

theorem functionOutcome_concat_eq_ok_iff {ds : List Descriptor} {d : Descriptor} {t : Ty} :
    functionOutcome (ds ++ [d]) = .ok (.type t) ↔
      ∃ inputs output, Descriptor.toTys ds = .ok inputs ∧ d.toTy = .ok output ∧ t = .arrows inputs output := by
  rw [functionOutcome, fresh_made_eq_ok_iff]
  constructor
  · rintro ⟨t', built, same⟩
    cases same
    exact Descriptor.functionType_concat_eq_ok_iff.mp built
  · intro parts
    exact ⟨t, Descriptor.functionType_concat_eq_ok_iff.mpr parts, rfl⟩

end HMSignature.Resolver
