import HMSignature.Proofs.Descriptor.Equality
import HMSignature.Proofs.Resolution.Mark
/-!
# The segments of a function

Inside another type a function is written segment by segment, and any segment may be empty brackets. They stand for no
input among the inputs, and for the unit type as the output. A resolver leaves all of them out alike and takes the last
segment that remains for the output. That keeps the output in its place unless the brackets stand for it: then the last
input moves there.

Results:
1. `padded_kept`: when the last segment is the output;
2. `same_shifted_iff`: a function with its last input as the output is hardly ever the function that is written;
3. `resolve_function_segments`: when the output of a function is kept, and what becomes of it otherwise.
-/

namespace HMSignature.Resolver

open Grammar (Entry)

/-- A segment of a function with what it resolves to. -/
abbrev Segment := Entry × Descriptor

/-- What the segments that are not empty brackets resolve to. -/
def kept (segments : List Segment) : List Descriptor :=
  (segments.filter fun segment => segment.1.kind ≠ .thunk).map (·.2)

/-- The inputs of a function: its parameters that are not empty brackets, or the unit type alone. -/
def inputs (parameters : List Segment) : List Descriptor :=
  orUnit (kept parameters)

/-- The output of a function: empty brackets are the unit type. -/
def output (last : Segment) : Descriptor :=
  if last.1.kind = .thunk then unitItem else last.2

/-! ## What remains of the segments -/

theorem kept_append (segments segments' : List Segment) :
    kept (segments ++ segments') = kept segments ++ kept segments' := by
  unfold kept
  rw [List.filter_append, List.map_append]

theorem kept_cons (segment : Segment) (rest : List Segment) :
    kept (segment :: rest) = if segment.1.kind = .thunk then kept rest else segment.2 :: kept rest := by
  unfold kept
  by_cases brackets : segment.1.kind = .thunk <;> simp [brackets]

theorem kept_singleton (segment : Segment) :
    kept [segment] = if segment.1.kind = .thunk then [] else [segment.2] :=
  kept_cons segment []

/-- The output stays in its place, unless it is empty brackets after an input. -/
theorem padded_kept {parameters : List Segment} {last : Segment}
    (inPlace : last.1.kind ≠ .thunk ∨ kept parameters = []) :
    padded (kept (parameters ++ [last])) = inputs parameters ++ [output last] := by
  rw [kept_append, kept_singleton, output, inputs]
  split
  · rename_i brackets
    rw [inPlace.resolve_left (not_not_intro brackets)]
    rfl
  · exact padded_concat _ _

/-! ## Functions of what remains -/

/-- Functions with the same types in them, once with the last one as the output and once with the unit type after it:
they are equal only if the one type in them is the unit type. -/
theorem same_shifted_iff {others : List Descriptor} {d : Descriptor} {t t' : Ty}
    (h : functionOutcome (orUnit others ++ [d]) = .ok (.type t))
    (h' : functionOutcome (orUnit (others ++ [d]) ++ [unitItem]) = .ok (.type t')) :
    t.same t' = true ↔ others = [] ∧ d.equals unitItem = .ok true := by
  rw [orUnit_concat] at h'
  obtain ⟨ins, out, stands, last, rfl⟩ := functionOutcome_concat_eq_ok_iff.mp h
  obtain ⟨ins', out', stands', unit, rfl⟩ := functionOutcome_concat_eq_ok_iff.mp h'
  obtain ⟨us, us', before, single, rfl⟩ := Descriptor.toTys_append_eq_ok_iff.mp stands'
  obtain ⟨u, last', rfl⟩ := Descriptor.toTys_singleton_eq_ok_iff.mp single
  cases Except.ok.inj (last.symm.trans last')
  obtain rfl : Ty.unit = out' := Except.ok.inj unit
  cases others with
  | nil =>
    cases before
    cases stands
    show (Ty.arrow .unit out).same (.arrow out .unit) = true ↔ _
    rw [unitItem, Descriptor.equals_unit_iff last, Ty.same_arrow, Ty.same_unit_comm, Bool.and_self]
    exact (and_iff_right rfl).symm
  | cons input rest =>
    cases Except.ok.inj (stands.symm.trans before)
    -- After the inputs that they have in common, one output is an input of the other.
    have differ : (Ty.arrows ins out).same (Ty.arrows (ins ++ [out]) .unit) = false := by
      rw [Ty.arrows_concat]
      exact Ty.not_same_arrows ins (Ty.not_same_arrow out .unit)
    rw [differ]
    exact ⟨nofun, fun both => absurd both.1 (List.cons_ne_nil _ _)⟩

section Segments

variable {types : Table String Descriptor}

/-- Of segments that all resolve those that are not empty brackets remain. -/
theorem fresh_resolveParams_of_segments (unmarked : Unmarked types) {segments : List Segment}
    (resolved : ∀ segment ∈ segments, fresh (resolveParam types segment.1) = .ok segment.2) :
    fresh (resolveParams types (segments.map (·.1))) = .ok (kept segments) := by
  induction segments with
  | nil => rfl
  | cons segment rest ih =>
    rw [List.forall_mem_cons] at resolved
    have mark := isThunk_of_resolve unmarked (fresh_resolveParam_eq_ok_iff.mp resolved.1).1
    refine fresh_resolveParams_cons_eq_ok_iff.mpr ⟨segment.2, kept rest, resolved.1, ih resolved.2, ?_⟩
    rw [kept_cons, mark]
    simp only [decide_eq_true_eq]

/-- The output of a function inside another type. If it is something else than empty brackets, or if no input is left,
then the function is built from its inputs and its output. Empty brackets after an input are dropped: then the last
input takes the place of the output, and the function is the one that is written only if that input is the unit type
and the only one. -/
theorem resolve_function_segments (environment : List Descriptor) (unmarked : ∀ item ∈ environment, item.Unmarked)
    (parameters : List Segment) (last : Segment)
    (resolved : ∀ segment ∈ parameters ++ [last],
      fresh (resolveParam (Environment.types environment) segment.1) = .ok segment.2)
    (memory : Memory) (faithful : memory.Faithful) :
    let outcome := ((resolve (Environment.types environment)
      (.function ((parameters ++ [last]).map (·.1)))).run memory).1
    (last.1.kind ≠ .thunk ∨ kept parameters = [] → outcome = functionOutcome (inputs parameters ++ [output last])) ∧
    ∀ (others : List Descriptor) (d : Descriptor), last.1.kind = .thunk → kept parameters = others ++ [d] →
      outcome = functionOutcome (orUnit others ++ [d]) ∧
      ∀ t t' : Ty, outcome = .ok (.type t) →
        functionOutcome (inputs parameters ++ [output last]) = .ok (.type t') →
        (t.same t' = true ↔ others = [] ∧ d.equals unitItem = .ok true) := by
  intro outcome
  have built : outcome = functionOutcome (padded (kept (parameters ++ [last]))) := by
    show ((resolve _ _).run memory).1 = _
    rw [(transparent_resolve _ _ memory faithful).1, fresh_resolve_function,
      fresh_resolveParams_of_segments (unmarked_types unmarked) resolved, ok_bind, fresh_functionOf_eq]
  refine ⟨fun inPlace => ?_, fun others d brackets before => ?_⟩
  · rw [built, padded_kept inPlace]
  · have shifted : outcome = functionOutcome (orUnit others ++ [d]) := by
      rw [built, kept_append, kept_singleton, if_pos brackets, List.append_nil, before, padded_concat]
    refine ⟨shifted, fun t t' h h' => ?_⟩
    rw [inputs, before, output, if_pos brackets] at h'
    exact same_shifted_iff (shifted ▸ h) h'

theorem resolve_function_segments_between :
    fresh (resolve (Environment.types Environment.default) (.function [.var "a", .thunk, .var "b"])) =
      .ok (.type (.arrow (.var "a") (.var "b"))) := by
  have resolved : ∀ segment ∈ [(.var "a", .type (.var "a")), (.thunk, .operator Builtin.mark)] ++
      [(.var "b", .type (.var "b"))],
      fresh (resolveParam (Environment.types Environment.default) segment.1) = .ok segment.2 := by
    rw [List.cons_append, List.cons_append, List.nil_append, List.forall_mem_cons, List.forall_mem_cons,
      List.forall_mem_singleton]
    exact ⟨rfl, rfl, rfl⟩
  have unmarked : ∀ item ∈ Environment.default, item.Unmarked :=
    fun _ member => (Descriptor.ordinary_of_default member).unmarked
  exact (resolve_function_segments _ unmarked _ _ resolved .empty faithful_empty).1 (.inl (by decide))

/-- A function from a number to nothing becomes one from nothing to a number. -/
theorem output_moves_after_input :
    (∀ item ∈ Environment.default, item.Unmarked) ∧
    (∀ segment ∈ [(.constructor "Number" [], .operator (.constructor Builtin.number)),
        (.thunk, .operator Builtin.mark)],
      fresh (resolveParam (Environment.types Environment.default) segment.1) = .ok segment.2) ∧
    ∃ t t' : Ty,
      fresh (resolve (Environment.types Environment.default) (.function [.constructor "Number" [], .thunk])) =
        .ok (.type t) ∧
      functionOutcome (inputs [(.constructor "Number" [], .operator (.constructor Builtin.number))] ++
        [output (.thunk, .operator Builtin.mark)]) = .ok (.type t') ∧
      t.same t' = false := by
  refine ⟨fun _ member => (Descriptor.ordinary_of_default member).unmarked, ?_, ?_⟩
  · rw [List.forall_mem_cons, List.forall_mem_singleton]
    exact ⟨rfl, rfl⟩
  · exact ⟨.arrow .unit (.operation (.constructor Builtin.number) []),
      .arrow (.operation (.constructor Builtin.number) []) .unit, rfl, rfl, by decide⟩

end Segments

end HMSignature.Resolver
