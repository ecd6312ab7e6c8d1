import HMSignature.Proofs.Definition.Currying
import HMSignature.Proofs.Definition.Signature
/-!
# How many arguments a definition takes

A definition counts its parameters by its types: they are all of them but the last, which is taken for the result. Empty
brackets have no type, wherever they stand. So the count is the one that is written as long as the result has a type. If
the result is empty brackets, then the last parameter is taken for it.

Results:
1. `arity_eq_iff`: empty brackets in the place of the result cost a parameter;
2. `arity_of_resolve`: so that is when a definition takes another number of arguments than its signature has parameters.
-/

namespace HMSignature.Definition

open Grammar (Entry)

variable {β α : Type}

/-- The last type of the definition is what the entry resolves to. -/
def ResultIs (types : Table String Descriptor) (entry : Entry) (d : Definition β α) : Prop :=
  ∃ t, d.types.getLast? = some t ∧ Resolver.fresh (Resolver.resolve types entry) = .ok t

/-! ## Types and entries -/

theorem exists_getLast?_of_forall₂ {γ δ : Type} {R : γ → δ → Prop} {cs : List γ} {c : γ} {ds : List δ}
    (h : List.Forall₂ R (cs ++ [c]) ds) : ∃ d, ds.getLast? = some d ∧ R c d := by
  have reversed := List.forall₂_reverse_iff.mpr h
  rw [List.reverse_append, List.reverse_singleton, List.singleton_append] at reversed
  rw [List.getLast?_eq_head?_reverse]
  cases hds : ds.reverse with
  | nil =>
    rw [hds] at reversed
    cases reversed
  | cons d others =>
    rw [hds] at reversed
    cases reversed with
    | cons last _ => exact ⟨d, rfl, last⟩

theorem proper_concat (entries : List Entry) (last : Entry) :
    Resolver.proper (entries ++ [last]) =
      if last.kind = .thunk then Resolver.proper entries else Resolver.proper entries ++ [last] := by
  unfold Resolver.proper
  rw [List.filter_append]
  by_cases brackets : last.kind = .thunk <;> simp [brackets]

section Counting

variable {types : Table String Descriptor} {d : Definition β α} {parameters : List Entry} {result : Entry}

/-- Of the entries that have a type all but the last are parameters. -/
theorem arity_of_concat {others : List Entry} {last : Entry}
    (h : List.Forall₂ (fun entry t => Resolver.fresh (Resolver.resolve types entry) = .ok t) (others ++ [last])
      d.types) :
    d.arity = others.length ∧ d.ResultIs types last := by
  refine ⟨?_, exists_getLast?_of_forall₂ h⟩
  rw [arity, ← h.length_eq, List.length_append, List.length_singleton, Nat.add_sub_cancel]

/-- Empty brackets in the place of the result cost a parameter, if there is one. -/
theorem arity_eq_iff
    (h : List.Forall₂ (fun entry t => Resolver.fresh (Resolver.resolve types entry) = .ok t)
      (Resolver.proper (parameters ++ [result])) d.types) :
    d.arity = (Resolver.proper parameters).length ↔ result.kind ≠ .thunk ∨ Resolver.proper parameters = [] := by
  rw [proper_concat] at h
  split at h
  · -- The result has no type, so the last parameter that has one takes its place.
    rename_i brackets
    rcases List.eq_nil_or_concat' (Resolver.proper parameters) with none | ⟨others, last, some⟩
    · rw [none] at h
      have noTypes := List.forall₂_nil_left_iff.mp h
      rw [none, arity, noTypes]
      exact ⟨fun _ => .inr rfl, fun _ => rfl⟩
    · rw [some] at h ⊢
      rw [(arity_of_concat h).1, List.length_append]
      refine ⟨fun same => absurd same (Nat.ne_of_lt (Nat.lt_succ_self _)), ?_⟩
      rintro (typed | none)
      · exact absurd brackets typed
      · exact absurd none (List.concat_ne_nil last others)
  · rename_i typed
    exact ⟨fun _ => .inl typed, fun _ => (arity_of_concat h).1⟩

end Counting

/-! ## Definitions of resolved signatures -/

/-- A definition can be made of every signature that resolves. Around a function without a resolution of its own, it
takes as many arguments as there are parameters written that are not empty brackets, exactly if the result is not empty
brackets or there is no such parameter. Its last type is what the result resolves to, unless the result is empty
brackets: then it is what the last parameter resolves to, which the definition does not take. -/
theorem arity_of_resolve (definer : Definer) (text : String) (r : Resolution) (curried : Bool) (f : Implementation β α)
    (plain : f.attributes.resolution = none) (unmarked : ∀ item ∈ definer.environment, item.Unmarked)
    (resolved : definer.resolve text = .ok r) :
    ∃ (s : Grammar.Signature) (d : Definition β α) (parameters : List Entry) (result : Entry),
      Grammar.parse text = .ok s ∧ definer.define text curried (.implementation f) = .ok d ∧
      s.entries = parameters ++ [result] ∧
      (d.arity = (Resolver.proper parameters).length ↔ result.kind ≠ .thunk ∨ Resolver.proper parameters = []) ∧
      (result.kind ≠ .thunk → d.ResultIs (Environment.types definer.environment) result) ∧
      ∀ others last, result.kind = .thunk → Resolver.proper parameters = others ++ [last] →
        d.arity = others.length ∧ d.ResultIs (Environment.types definer.environment) last := by
  obtain ⟨s, parsed⟩ := parse_of_resolve resolved
  have made := define_of_resolve parsed resolved curried (.implementation f : Definable β α)
  have nonempty : s.entries ≠ [] := entries_ne_nil (Grammar.isTree_of_parse parsed)
  obtain ⟨parameters, result, entries⟩ := (List.eq_nil_or_concat' s.entries).resolve_left nonempty
  have each := Resolver.forall₂_of_resolveAll (Resolver.unmarked_types unmarked)
    ((Resolution.ofText_eq_ok_iff parsed).mp resolved).2.1
  have types : (defined definer r curried s.hasThunk (.implementation f)).types = r.types :=
    congrArg Resolution.types (resolution_defined definer r curried s.hasThunk plain)
  rw [entries, ← types] at each
  refine ⟨s, _, parameters, result, parsed, made, entries, arity_eq_iff each, ?_, ?_⟩
  · intro typed
    rw [proper_concat, if_neg typed] at each
    exact (arity_of_concat each).2
  · intro others last brackets some
    rw [proper_concat, if_pos brackets, some] at each
    exact arity_of_concat each

theorem arity_of_resolve_at :
    ∃ d : Definition Unit Nat,
      (Definer.mk Environment.default [] (.bool true)).define "at :: () -> [a] -> Number -> a" false
        (.implementation ⟨(), "fn", none, .none⟩) = .ok d ∧
      d.arity = 2 ∧ d.types.getLast? = some (.type (.var "a")) := by
  have parsed : Grammar.parse "at :: () -> [a] -> Number -> a" =
      .ok ⟨"at", [], .function [.thunk, .list (.var "a"), .constructor "Number" [], .var "a"]⟩ := by
    refine Grammar.parse_eq_ok_iff.mpr
      ⟨[.name "at", .symbol "::", .opening .round, .closing .round, .symbol "->", .opening .square, .name "a",
        .closing .square, .symbol "->", .name "Number", .symbol "->", .name "a"], by rfl, .free ?_⟩
    have a (rest : List Grammar.Token) : Grammar.AtomAt (.name "a" :: rest) (.var "a") rest := .lower (by decide)
    exact .function (.bare .thunk) (.more (.bare (.list (.single (.bare (a _)))))
      (.more (.bare (.upper (by decide))) (.more (.bare (a _)) .none)))
  have resolved : (Definer.mk Environment.default [] (.bool true)).resolve "at :: () -> [a] -> Number -> a" =
      .ok ⟨"at", [], [.type (.array (.var "a")), .operator (.constructor Builtin.number), .type (.var "a")]⟩ :=
    (Resolution.ofText_eq_ok_iff parsed).mpr ⟨rfl, rfl, rfl⟩
  have unmarked : ∀ item ∈ Environment.default, item.Unmarked :=
    fun _ member => (Descriptor.ordinary_of_default member).unmarked
  obtain ⟨s, d, parameters, result, parsed', made, entries, counts, last, -⟩ :=
    arity_of_resolve _ _ _ false (⟨(), "fn", none, .none⟩ : Implementation Unit Nat) rfl unmarked resolved
  cases parsed.symm.trans parsed'
  obtain ⟨rfl, same⟩ := List.append_inj'
    (show [Entry.thunk, .list (.var "a"), .constructor "Number" []] ++ [.var "a"] = _ from entries) rfl
  cases same
  obtain ⟨t, isLast, isVariable⟩ := last nofun
  cases isVariable
  exact ⟨d, made, counts.mpr (.inl nofun), isLast⟩

/-- The definition of a signature with one parameter and empty brackets as its result takes no argument. -/
theorem arity_without_result :
    (∀ item ∈ Environment.default, item.Unmarked) ∧
    ∃ (s : Grammar.Signature) (d : Definition Unit Nat),
      Grammar.parse "foo :: Number -> ()" = .ok s ∧
      (Definer.mk Environment.default [] (.bool true)).define "foo :: Number -> ()" false
        (.implementation ⟨(), "fn", none, .none⟩) = .ok d ∧
      (Resolver.proper s.entries.dropLast).length = 1 ∧ d.arity = 0 ∧
      ∀ convention : Convention Option Unit Nat, d.call convention [7] = convention.refuse ⟨"foo", 0, 1⟩ := by
  have parsed : Grammar.parse "foo :: Number -> ()" =
      .ok ⟨"foo", [], .function [.constructor "Number" [], .thunk]⟩ := by
    refine Grammar.parse_eq_ok_iff.mpr
      ⟨[.name "foo", .symbol "::", .name "Number", .symbol "->", .opening .round, .closing .round], by rfl, .free ?_⟩
    exact .function (.bare (.upper (by decide))) (.more (.bare .thunk) .none)
  have resolved : (Definer.mk Environment.default [] (.bool true)).resolve "foo :: Number -> ()" =
      .ok ⟨"foo", [], [.operator (.constructor Builtin.number)]⟩ :=
    (Resolution.ofText_eq_ok_iff parsed).mpr ⟨rfl, rfl, rfl⟩
  exact ⟨fun _ member => (Descriptor.ordinary_of_default member).unmarked, _, _, parsed,
    define_of_resolve parsed resolved false _, rfl, rfl, fun _ => rfl⟩

end HMSignature.Definition
