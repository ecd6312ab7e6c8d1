import HMSignature.Proofs.Resolution.Sharing
import HMSignature.Proofs.Resolution.Standing
/-!
# The segments of a function, at the top and as a whole

The segments of a function at the top of a signature are resolved one by one to a list, where operators may keep their
slots. The same node inside of another type is resolved to one type, and every segment has to stand for a type then.
Both traverse the segments from the left and leave the same ones out. So where no segment is left with slots, either
both fail with one error, or the whole is the function of what the list holds.

Results:
1. `fresh_resolveParams_eq`: the two traversals, if no segment is left with slots;
2. `top_level_agrees`: the list and the whole.
-/

namespace HMSignature

/-- A function whose inputs, one after the other, and whose output are the given types. Units stand for missing ones. -/
def Ty.IsFunctionOf (t : Ty) : List Ty → Prop
  | [] => t = .arrow .unit .unit
  | [output] => t = .arrow .unit output
  | ts => ∃ inputs output, ts = inputs ++ [output] ∧ t = .arrows inputs output

namespace Resolver

open Grammar (Entry Signature)

section Views

variable {types : Table String Descriptor}

theorem isFunctionOf_functionTy (ts : List Ty) : (functionTy ts).IsFunctionOf ts := by
  match ts with
  | [] => rfl
  | [output] => rfl
  | input :: more :: others => exact ⟨_, _, (List.dropLast_concat_getLast (List.cons_ne_nil _ _)).symm, rfl⟩

/-! ## The two traversals -/

/-- Segments that are not left with slots resolve alike in both ways, up to the first error. -/
theorem fresh_resolveParams_eq {entries : List Entry}
    (applied : ∀ entry ∈ entries, ∀ d, fresh (resolve types entry) = .ok d → d.arity = 0) :
    fresh (resolveParams types entries) = fresh (resolveAll types entries) := by
  induction entries with
  | nil => rfl
  | cons entry rest ih =>
    rw [List.forall_mem_cons] at applied
    have first : fresh (resolveParam types entry) = fresh (resolve types entry) := by
      rw [fresh_resolveParam]
      cases resolved : fresh (resolve types entry) with
      | error e => rfl
      | ok d => rw [ok_bind, fresh_asParam, if_pos (applied.1 d resolved)]
    rw [fresh_resolveParams_cons, fresh_resolveAll_cons, first, ih applied.2]

end Views

/-! ## The list and the whole -/

/-- Two resolvers, whatever they have been asked for before, one for the top-level entries of a signature and one for
the function as a whole. Unless an item is a variable operator without slots, or an entry resolves to an operator that
is left with slots, they succeed together, and the function has the types that the entries stand for as its inputs and
its output; or they fail together, with the same error. -/
theorem top_level_agrees (environment : List Descriptor)
    (notBare : ∀ item ∈ environment, ∀ name bound, item ≠ .operator (.var name 0 bound)) {text : String} {s : Signature}
    (parsed : Grammar.parse text = .ok s) (function : s.type.kind = .function)
    (applied : ∀ entry ∈ s.entries, ∀ d,
      fresh (resolve (Environment.types environment) entry) = .ok d → d.arity = 0)
    (calls calls' : List Call) :
    let types := Environment.types environment
    let flat := ((resolveAll types s.entries).run (memoryAfter types .empty calls)).1
    let whole := ((resolve types s.type).run (memoryAfter types .empty calls')).1
    ((∃ ds, flat = .ok ds) ↔ ∃ d, whole = .ok d) ∧ (∀ e, flat = .error e ↔ whole = .error e) ∧
      ∀ ds, flat = .ok ds →
        ∃ ts t, Descriptor.toTys ds = .ok ts ∧ whole = .ok (.type t) ∧ t.IsFunctionOf ts := by
  intro types flat whole
  have items : ItemsSound types := itemsSound_types notBare
  obtain ⟨segments, node⟩ : ∃ segments, s.type = .function segments := by
    have tree := Grammar.isTree_of_parse parsed
    generalize s.type = node at tree function
    cases tree with
    | function _ => exact ⟨_, rfl⟩
    | _ => cases function
  have asList : flat = fresh (resolveAll types s.entries) :=
    (transparent_resolveAll types _ _ (faithful_memoryAfter types faithful_empty calls)).1
  have asWhole : whole = fresh (resolveAll types s.entries) >>= fun ds => fresh (functionOf ds) := by
    have parts : s.entries = segments := by rw [Signature.entries, node]; rfl
    show ((resolve types s.type).run _).1 = _
    rw [(transparent_resolve types _ _ (faithful_memoryAfter types faithful_empty calls')).1, node,
      fresh_resolve_function, ← parts, fresh_resolveParams_eq applied]
  rw [asList, asWhole]
  cases resolved : fresh (resolveAll types s.entries) with
  | error e =>
    refine ⟨⟨nofun, nofun⟩, fun e' => ⟨fun h => ?_, fun h => ?_⟩, nofun⟩
    · cases h
      rfl
    · cases h
      rfl
  | ok ds =>
    rw [← fresh_resolveParams_eq applied] at resolved
    obtain ⟨ts, stands⟩ := Descriptor.exists_toTys (stands_of_resolveParams items resolved)
    rw [ok_bind, fresh_functionOf stands]
    refine ⟨⟨fun _ => ⟨_, rfl⟩, fun _ => ⟨_, rfl⟩⟩, fun e => ⟨nofun, nofun⟩, ?_⟩
    rintro ds' same
    cases same
    exact ⟨ts, functionTy ts, stands, rfl, isFunctionOf_functionTy ts⟩

/-- The brackets between two inputs are left out in both views, also by resolvers that know variables already. -/
theorem top_level_agrees_between :
    let types := Environment.types Environment.default
    let memory := memoryAfter types .empty [.node (.var "a")]
    ∃ s, Grammar.parse "f :: Number -> () -> a" = .ok s ∧
      ((resolveAll types s.entries).run memory).1 =
        .ok [.operator (.constructor Builtin.number), .type (.var "a")] ∧
      ∃ ts t, Descriptor.toTys [.operator (.constructor Builtin.number), .type (.var "a")] = .ok ts ∧
        ((resolve types s.type).run memory).1 = .ok (.type t) ∧ t.IsFunctionOf ts := by
  intro types memory
  have parsed : Grammar.parse "f :: Number -> () -> a" =
      .ok ⟨"f", [], .function [.constructor "Number" [], .thunk, .var "a"]⟩ := by
    refine Grammar.parse_eq_ok_iff.mpr
      ⟨[.name "f", .symbol "::", .name "Number", .symbol "->", .opening .round, .closing .round, .symbol "->",
        .name "a"], by rfl, .free ?_⟩
    exact .function (.bare (.upper (by decide))) (.more (.bare .thunk) (.more (.bare (.lower (by decide))) .none))
  have notBare : ∀ item ∈ Environment.default, ∀ name bound, item ≠ .operator (.var name 0 bound) :=
    fun _ member => (Descriptor.ordinary_of_default member).notBare
  have applied : ∀ entry ∈ [Entry.constructor "Number" [], .thunk, .var "a"], ∀ d,
      fresh (resolve types entry) = .ok d → d.arity = 0 := by
    rw [List.forall_mem_cons, List.forall_mem_cons, List.forall_mem_singleton]
    refine ⟨fun d h => ?_, fun d h => ?_, fun d h => ?_⟩
    · cases (show Except.ok (Descriptor.operator (.constructor Builtin.number)) = .ok d from h)
      rfl
    · cases h
      rfl
    · cases h
      rfl
  have agree := top_level_agrees Environment.default notBare parsed rfl applied [.node (.var "a")] [.node (.var "a")]
  have flat : ((resolveAll types [.constructor "Number" [], .thunk, .var "a"]).run memory).1 =
      .ok [.operator (.constructor Builtin.number), .type (.var "a")] := by rfl
  exact ⟨_, parsed, flat, agree.2.2 _ flat⟩

end Resolver

end HMSignature
