import HMSignature.Proofs.Definition.Grouping
import HMSignature.Proofs.Resolution.Legible
/-!
# The signature of a definition in writing

A definition writes its signature anew from its types, with brackets around each of them that is a function, and with
empty brackets in front if its own signature had some. Read back, the text has one entry for each of these, so it says
the same. But a text that is nothing than a function in brackets is the function without them, and its inputs are
parameters then.

Results:
1. `Writable.parse`: what the signature of a definition is read as;
2. `Descriptor.Legible.recovers`: each type is read back as one that equals it;
3. `resolve_signatureText`: the signature says the same as the definition, unless its one type is a function.
-/

namespace HMSignature

open Grammar (Entry IsName IsTree Reads)

/-! ## Types as segments -/

/-- The tree that a descriptor is read back as. -/
def Descriptor.tree : Descriptor → Entry
  | .operator op => .constructor op.name []
  | .type t => t.tree

section Segments

variable {types : Table String Descriptor}

theorem Descriptor.Legible.reads {d : Descriptor} (legible : d.Legible types) :
    Reads Grammar.ApplicationAt (Definition.segmentText d) d.tree := by
  cases legible with
  | operator found isTypeName genuine => exact (Reads.upper isTypeName).bare
  | type readable => exact readable.phrases.segment

theorem segmentText_of_toTy {d : Descriptor} {t : Ty} (readable : Readable types t) (stands : d.toTy = .ok t) :
    Definition.segmentText d = Definition.segmentText (.type t) := by
  rcases Descriptor.toTy_eq_ok_iff.mp stands with rfl | ⟨c, rfl, -, rfl⟩
  · rfl
  · have notArrow : (Operator.constructor c).isArrow = false := by
      cases readable with
      | constructor named _ _ => exact named.isArrow
    show c.name = Ty.bracketed (Operator.constructor c).isArrow c.name
    rw [notArrow]
    rfl

/-- A descriptor is read back as another one that equals it and has the same text. -/
structure Recovers (types : Table String Descriptor) (d d' : Descriptor) : Prop where
  resolves : Resolver.fresh (Resolver.resolve types d.tree) = .ok d'
  isThunk : d'.isThunk = false
  equals : d'.equals d = .ok true
  text : Definition.segmentText d' = Definition.segmentText d

theorem Descriptor.Legible.recovers {d : Descriptor} (legible : d.Legible types) : ∃ d', Recovers types d d' := by
  cases legible with
  | @operator c found isTypeName genuine =>
    refine ⟨.operator (.constructor c), ?_, genuine.not_thunk isTypeName, ?_, rfl⟩
    · show Resolver.fresh (Resolver.resolve types (.constructor c.name [])) = _
      rw [Resolver.fresh_resolve_constructor, if_pos List.isEmpty_nil]
      exact Resolver.fresh_lookup_eq_ok_iff.mpr found
    · exact congrArg Except.ok (Operator.same_self _)
  | @type t readable =>
    obtain ⟨d', resolved, stands, other⟩ := (Resolver.restores_of_readable readable).param
    exact ⟨d', (Resolver.fresh_resolveParam_eq_ok_iff.mp resolved).1, other,
      equals_of_toTy readable.distinct stands, segmentText_of_toTy readable stands⟩

theorem recovers_all {ds : List Descriptor} (legible : ∀ d ∈ ds, d.Legible types) :
    ∃ ds', List.Forall₂ (Recovers types) ds ds' := by
  induction ds with
  | nil => exact ⟨[], .nil⟩
  | cons d rest ih =>
    rw [List.forall_mem_cons] at legible
    obtain ⟨d', first⟩ := legible.1.recovers
    obtain ⟨others, hothers⟩ := ih legible.2
    exact ⟨d' :: others, .cons first hothers⟩

theorem fresh_resolveAll_of_recovers {ds ds' : List Descriptor} (h : List.Forall₂ (Recovers types) ds ds') :
    Resolver.fresh (Resolver.resolveAll types (ds.map Descriptor.tree)) = .ok ds' := by
  induction h with
  | nil => rfl
  | @cons d d' _ others first _ ih =>
    refine Resolver.fresh_resolveAll_cons_eq_ok_iff.mpr ⟨d', others, first.resolves, ih, ?_⟩
    rw [first.isThunk]
    rfl

theorem segmentTexts_of_recovers {ds ds' : List Descriptor} (h : List.Forall₂ (Recovers types) ds ds') :
    ds'.map Definition.segmentText = ds.map Definition.segmentText := by
  induction h with
  | nil => rfl
  | cons first _ ih => rw [List.map_cons, List.map_cons, first.text, ih]

/-- What is read back is not empty brackets. -/
theorem kind_of_recovers (unmarked : Resolver.Unmarked types) {ds ds' : List Descriptor}
    (h : List.Forall₂ (Recovers types) ds ds') : ∀ entry ∈ ds.map Descriptor.tree, entry.kind ≠ .thunk := by
  induction h with
  | nil => exact nofun
  | cons first _ ih =>
    have mark := Resolver.isThunk_of_resolve unmarked first.resolves
    rw [first.isThunk] at mark
    exact List.forall_mem_cons.mpr ⟨of_decide_eq_false mark.symm, ih⟩

/-- Only the tree of a function is a function. -/
theorem Descriptor.Legible.kind {d : Descriptor} (legible : d.Legible types) (other : d.isFunction = false) :
    d.tree.kind ≠ .function := by
  cases legible with
  | operator found isTypeName genuine => exact nofun
  | type readable =>
    cases readable with
    | arrow h h' => cases other
    | array h => exact nofun
    | constructor named filled hs =>
      rw [Descriptor.tree, tree_application named.prefixed]
      exact nofun
    | @constrained name arity bound params isName positive filled hs =>
      rw [Descriptor.tree, tree_application (prefixed_var isName arity bound)]
      exact nofun
    | var isName => exact nofun
    | record distinct hs => exact nofun

theorem Readable.isArrow {t : Ty} (readable : Readable types t) (function : t.isFunction = true) :
    ∃ input output, t = .arrow input output ∧ Readable types input ∧ Readable types output := by
  cases readable with
  | arrow h h' => exact ⟨_, _, rfl, h, h'⟩
  | array h => cases function
  | constructor named filled hs =>
    rw [Ty.isFunction, named.isArrow] at function
    cases function
  | constrained isName positive filled hs => cases function
  | var isName => cases function
  | record distinct hs => cases function

/-- At the top a function is its inputs and its output. -/
theorem resolveAll_arrow {input output : Ty} (h : Readable types input) (h' : Readable types output) :
    ∃ inputs last ds, inputs ≠ [] ∧ Ty.arrow input output = .arrows inputs last ∧
      Resolver.fresh (Resolver.resolveAll types (Ty.arrow input output).tree.entries) = .ok ds ∧
      Descriptor.toTys ds = .ok (inputs ++ [last]) := by
  obtain ⟨inputs, last, stand, rebuilt⟩ := (Resolver.restores_of_readable h').segments
  obtain ⟨ds, resolved, stands⟩ := ((Resolver.restores_of_readable h).param.cons stand).resolveAll
  refine ⟨input :: inputs, last, ds, List.cons_ne_nil _ _, congrArg _ rebuilt.symm, ?_, stands⟩
  rw [Ty.tree_arrow]
  exact resolved

end Segments

/-! ## The signature as a text -/

theorem entries_joined {entries : List Entry} (single : ∀ entry, entries = [entry] → entry.kind ≠ .function) :
    (Entry.joined entries).entries = entries := by
  match entries with
  | [] => rfl
  | [entry] =>
    show Entry.entries entry = _
    rw [Entry.entries, if_neg (single entry rfl)]
  | first :: second :: others => rfl

theorem entries_ne_nil {entry : Entry} (h : IsTree entry) : entry.entries ≠ [] := by
  cases h <;> exact List.cons_ne_nil _ _

namespace Definition

variable {β α : Type} {d : Definition β α} {types : Table String Descriptor}

/-- The entries that the signature of a definition is written from. -/
def entries (d : Definition β α) : List Entry :=
  if d.thunk.isTrue then .thunk :: d.types.map Descriptor.tree else d.types.map Descriptor.tree

/-- The signature of the definition has a text that can be read. -/
structure Writable (types : Table String Descriptor) (d : Definition β α) : Prop where
  isName : IsName d.name
  legible : ∀ t ∈ d.types, t.Legible types
  nonempty : d.entries ≠ []

/-- The signature of a definition is read as its entries, joined by arrows. -/
theorem Writable.parse (h : d.Writable types) :
    Grammar.parse d.signatureText = .ok ⟨d.name, [], .joined d.entries⟩ := by
  have segments : List.Forall₂ (Reads Grammar.ApplicationAt) (d.types.map segmentText)
      (d.types.map Descriptor.tree) := by
    rw [List.forall₂_map_left_iff, List.forall₂_map_right_iff, List.forall₂_same]
    exact fun t member => (h.legible t member).reads
  refine Grammar.parse_of_reads h.isName (Reads.joined ?_ h.nonempty)
  unfold entries
  split
  · exact .cons Reads.thunk.bare segments
  · exact segments

/-! ## Reading the signature back -/

/-- The definition has one type, which is a function, and no empty brackets. -/
def LoneFunction (d : Definition β α) : Prop :=
  d.thunk.isTrue = false ∧ ∃ t, d.types = [t] ∧ t.isFunction = true

theorem entries_of_lone {t : Descriptor} (noBrackets : d.thunk.isTrue = false) (single : d.types = [t]) :
    d.entries = [t.tree] := by
  rw [entries, noBrackets, single]
  rfl

/-- A single entry is a function only if the one type is. -/
theorem kind_of_entries (legible : ∀ t ∈ d.types, t.Legible types) (notLone : ¬d.LoneFunction) (entry : Entry)
    (single : d.entries = [entry]) : entry.kind ≠ .function := by
  unfold entries at single
  split at single
  · obtain ⟨rfl, -⟩ := List.cons.inj single
    exact nofun
  · rename_i noBrackets
    obtain ⟨t, one, rfl⟩ := List.map_eq_singleton_iff.mp single
    refine (legible t (one ▸ List.mem_cons_self)).kind (Bool.eq_false_iff.mpr fun function => ?_)
    exact notLone ⟨Bool.eq_false_iff.mpr noBrackets, t, one, function⟩

theorem fresh_resolveAll_entries {ts : List Descriptor} (recovered : List.Forall₂ (Recovers types) d.types ts) :
    Resolver.fresh (Resolver.resolveAll types d.entries) = .ok ts := by
  have rest := fresh_resolveAll_of_recovers recovered
  unfold entries
  split
  · exact Resolver.fresh_resolveAll_cons_eq_ok_iff.mpr ⟨_, ts, Resolver.fresh_resolve_thunk types, rest, rfl⟩
  · exact rest

/-- Among the entries there are empty brackets exactly if the definition says so. -/
theorem any_thunk_entries (unmarked : Resolver.Unmarked types) {ts : List Descriptor}
    (recovered : List.Forall₂ (Recovers types) d.types ts) :
    (d.entries.any fun entry => entry.kind = .thunk) = d.thunk.isTrue := by
  have rest : ((d.types.map Descriptor.tree).any fun entry => entry.kind = .thunk) = false := by
    rw [List.any_eq_false]
    intro entry member
    rw [decide_eq_true_eq]
    exact kind_of_recovers unmarked recovered entry member
  unfold entries
  split
  · rename_i brackets
    rw [List.any_cons, brackets]
    rfl
  · rename_i noBrackets
    rw [rest, Bool.eq_false_iff.mpr noBrackets]

/-- The types that the signature of a definition is read back with. -/
theorem fresh_resolveAll_signature (legible : ∀ t ∈ d.types, t.Legible types) :
    ∃ ts, Resolver.fresh (Resolver.resolveAll types (Entry.joined d.entries).entries) = .ok ts ∧
      (¬d.LoneFunction → (Entry.joined d.entries).entries = d.entries ∧ List.Forall₂ (Recovers types) d.types ts) ∧
      (d.LoneFunction → ∃ inputs output, inputs ≠ [] ∧ d.types = [.type (.arrows inputs output)] ∧
        Descriptor.toTys ts = .ok (inputs ++ [output])) := by
  by_cases lone : d.LoneFunction
  · obtain ⟨noBrackets, t, single, function⟩ := id lone
    cases legible t (single ▸ List.mem_cons_self) with
    | operator found isTypeName genuine => cases function
    | type readable =>
      obtain ⟨input, output, rfl, h, h'⟩ := readable.isArrow function
      obtain ⟨inputs, last, ds, nonempty, whole, resolved, stands⟩ := resolveAll_arrow h h'
      rw [entries_of_lone noBrackets single]
      exact ⟨ds, resolved, fun notLone => absurd lone notLone,
        fun _ => ⟨inputs, last, nonempty, whole ▸ single, stands⟩⟩
  · obtain ⟨ts, recovered⟩ := recovers_all legible
    have separate := entries_joined (kind_of_entries legible lone)
    refine ⟨ts, ?_, fun _ => ⟨separate, recovered⟩, fun isLone => absurd isLone lone⟩
    rw [separate]
    exact fresh_resolveAll_entries recovered

/-- The other definition has equal types, and is called and written alike. -/
structure Restates (d d' : Definition β α) : Prop where
  types : List.Forall₂ (fun t' t => t'.equals t = .ok true) d'.types d.types
  arity : d'.arity = d.arity
  thunk : d'.thunk = d.thunk
  signatureText : d'.signatureText = d.signatureText

/-- The other definition takes the inputs of the function that is the one type of the definition. -/
structure Unfolds (d d' : Definition β α) (inputs : List Ty) (output : Ty) : Prop where
  nonempty : inputs ≠ []
  function : d.types = [.type (.arrows inputs output)]
  types : Descriptor.toTys d'.types = .ok (inputs ++ [output])
  arity : d.arity = 0
  arity' : d'.arity = inputs.length

theorem Restates.of_recovers {d' : Definition β α} (name : d'.name = d.name) (thunk : d'.thunk = d.thunk)
    (recovered : List.Forall₂ (Recovers types) d.types d'.types) : d.Restates d' := by
  refine ⟨recovered.flip.imp fun _ _ h => h.equals, ?_, thunk, ?_⟩
  · rw [Definition.arity, Definition.arity, recovered.length_eq]
  · rw [Definition.signatureText, Definition.signatureText, name, thunk, segmentTexts_of_recovers recovered]

theorem Unfolds.of_toTys {d' : Definition β α} {inputs : List Ty} {output : Ty} (nonempty : inputs ≠ [])
    (function : d.types = [.type (.arrows inputs output)])
    (stands : Descriptor.toTys d'.types = .ok (inputs ++ [output])) : d.Unfolds d' inputs output := by
  refine ⟨nonempty, function, stands, ?_, ?_⟩
  · rw [Definition.arity, function]
    rfl
  · rw [Definition.arity, ← Descriptor.length_of_toTys stands, List.length_append]
    rfl

theorem Unfolds.not_restates {d' : Definition β α} {inputs : List Ty} {output : Ty} (h : d.Unfolds d' inputs output) :
    ¬d.Restates d' := by
  intro restates
  have same := restates.arity
  rw [h.arity, h.arity'] at same
  exact h.nonempty (List.length_eq_zero_iff.mp same)

theorem isTrue_bool (b : Bool) : (Value.bool b : Flag).isTrue = b := by
  cases b <;> rfl

/-- Something is written for every signature. -/
theorem entries_ne_nil_of_resolved (unmarked : Resolver.Unmarked types) {s : Grammar.Signature} (isTree : IsTree s.type)
    (resolved : Resolver.fresh (Resolver.resolveAll types s.entries) = .ok d.types)
    (flag : d.thunk = .bool s.hasThunk) : d.entries ≠ [] := by
  unfold entries
  split
  · exact List.cons_ne_nil _ _
  · rename_i noBrackets
    rw [flag, isTrue_bool, Grammar.Signature.hasThunk, List.any_eq_true, not_exists] at noBrackets
    have all : Resolver.proper s.entries = s.entries := by
      refine List.filter_eq_self.mpr fun entry member => decide_eq_true fun brackets => ?_
      exact noBrackets entry ⟨member, decide_eq_true brackets⟩
    have count := Resolver.length_of_resolveAll unmarked resolved
    rw [all] at count
    intro none
    rw [List.map_eq_nil_iff] at none
    rw [none, List.length_nil] at count
    exact entries_ne_nil isTree (List.length_eq_zero_iff.mp count.symm)

/-- What has been resolved can be written. -/
theorem writable_of_define {definer : Definer} (names : NamesConstructors (Environment.types definer.environment))
    {text : String} {s : Grammar.Signature} {curried : Bool} {f : Implementation β α} (plain : f.attributes = .none)
    (parsed : Grammar.parse text = .ok s) (keepsNone : ∀ entry ∈ s.entries, Resolver.KeepsNone entry)
    (made : definer.define text curried (.implementation f) = .ok d) :
    d.Writable (Environment.types definer.environment) ∧ d.thunk = .bool s.hasThunk := by
  obtain ⟨s', r, parsed', resolved, rfl⟩ := resolve_of_define made
  cases parsed.symm.trans parsed'
  obtain ⟨-, types, name⟩ := (Resolution.ofText_eq_ok_iff parsed).mp resolved
  have isTree := Grammar.isTree_of_parse parsed
  rw [defined_of_plain definer r curried s.hasThunk plain]
  refine ⟨⟨?_, ?_, ?_⟩, rfl⟩
  · show IsName r.name
    rw [name]
    exact Grammar.isName_of_parse parsed
  · exact Resolver.legible_of_resolveAll names isTree.entries keepsNone types
  · exact entries_ne_nil_of_resolved names.unmarked isTree types rfl

/-- The signature of a definition in writing. In an environment of constructors that are told apart by their names, if
no list and no field has empty brackets in it, it resolves with the same definer, to the same name. The definition that
is made from it, whatever it is made around, says the same as the one before, unless the one type of that is a function:
then the inputs of the function have become parameters. -/
theorem resolve_signatureText (definer : Definer) (constructors : List Constructor) (nameable : Nameable constructors)
    (environment : definer.environment = Environment.ofConstructors constructors) (text : String)
    (s : Grammar.Signature) (curried : Bool) (f : Implementation β α) (d : Definition β α)
    (plain : f.attributes = .none) (parsed : Grammar.parse text = .ok s)
    (keepsNone : ∀ entry ∈ s.entries, Resolver.KeepsNone entry)
    (made : definer.define text curried (.implementation f) = .ok d) :
    ∃ r, definer.resolve d.signatureText = .ok r ∧ r.name = d.name ∧
      ∀ (curried' : Bool) (g : Implementation β α), g.attributes = .none →
        ∃ d', definer.define d.signatureText curried' (.implementation g) = .ok d' ∧ d'.resolution = r ∧
          (d.Restates d' ↔ ¬d.LoneFunction) ∧
          (d.LoneFunction → ∃ inputs output, d.Unfolds d' inputs output) := by
  have names : NamesConstructors (Environment.types definer.environment) :=
    environment ▸ namesConstructors_types nameable
  obtain ⟨writable, flag⟩ := writable_of_define names plain parsed keepsNone made
  obtain ⟨ts, resolved, separate, lone⟩ := fresh_resolveAll_signature writable.legible
  have again : definer.resolve d.signatureText = .ok ⟨d.name, [], ts⟩ :=
    (Resolution.ofText_eq_ok_iff writable.parse).mpr ⟨rfl, resolved, rfl⟩
  refine ⟨_, again, rfl, fun curried' g plain' => ?_⟩
  obtain ⟨d', remade, hd'⟩ : ∃ d', definer.define d.signatureText curried' (.implementation g) = .ok d' ∧
      d' = defined definer _ curried' _ (.implementation g) :=
    ⟨_, define_of_resolve writable.parse again curried' _, rfl⟩
  rw [defined_of_plain _ _ _ _ plain'] at hd'
  have restated : d'.resolution = ⟨d.name, [], ts⟩ := congrArg Definition.resolution hd'
  have renamed : d'.name = d.name := by rw [Definition.name, restated]
  have retyped : d'.types = ts := congrArg Resolution.types restated
  rw [← retyped] at separate lone
  have unfolds (isLone : d.LoneFunction) : ∃ inputs output, d.Unfolds d' inputs output := by
    obtain ⟨inputs, output, some, function, stands⟩ := lone isLone
    exact ⟨inputs, output, .of_toTys some function stands⟩
  refine ⟨d', remade, restated, ⟨fun restates isLone => ?_, fun notLone => ?_⟩, unfolds⟩
  · obtain ⟨inputs, output, unfolded⟩ := unfolds isLone
    exact unfolded.not_restates restates
  · obtain ⟨same, recovered⟩ := separate notLone
    have flag' : d'.thunk = d.thunk := by
      refine (congrArg Definition.thunk hd').trans ?_
      rw [Grammar.Signature.hasThunk, Grammar.Signature.entries, same, any_thunk_entries names.unmarked recovered,
        flag, isTrue_bool]
    exact .of_recovers renamed flag' recovered

/-- The empty brackets of a signature move to its front. -/
theorem resolve_signatureText_each :
    ∃ d d' : Definition Unit Nat,
      (Definer.mk Environment.default [] (.bool true)).define "each :: (a -> Number) -> [a] -> ()" false
        (.implementation ⟨(), "fn", none, .none⟩) = .ok d ∧
      d.signatureText = "each :: () -> (a -> Number) -> [a]" ∧
      (Definer.mk Environment.default [] (.bool true)).define d.signatureText false
        (.implementation ⟨(), "fn", none, .none⟩) = .ok d' ∧ d.Restates d' := by
  have parsed : Grammar.parse "each :: (a -> Number) -> [a] -> ()" =
      .ok ⟨"each", [], .function
        [.function [.var "a", .constructor "Number" []], .list (.var "a"), .thunk]⟩ := by
    refine Grammar.parse_eq_ok_iff.mpr
      ⟨[.name "each", .symbol "::", .opening .round, .name "a", .symbol "->", .name "Number", .closing .round,
        .symbol "->", .opening .square, .name "a", .closing .square, .symbol "->", .opening .round, .closing .round],
        by rfl, .free ?_⟩
    have a (rest : List Grammar.Token) : Grammar.AtomAt (.name "a" :: rest) (.var "a") rest := .lower (by decide)
    exact .function (.bare (.bracketed (.function (.bare (a _)) (.more (.bare (.upper (by decide))) .none))))
      (.more (.bare (.list (.single (.bare (a _))))) (.more (.bare .thunk) .none))
  have resolved : (Definer.mk Environment.default [] (.bool true)).resolve "each :: (a -> Number) -> [a] -> ()" =
      .ok ⟨"each", [], [.type (.arrow (.var "a") (.operation (.constructor Builtin.number) [])),
        .type (.array (.var "a"))]⟩ :=
    (Resolution.ofText_eq_ok_iff parsed).mpr ⟨rfl, rfl, rfl⟩
  have made := define_of_resolve parsed resolved false
    (.implementation (⟨(), "fn", none, .none⟩ : Implementation Unit Nat))
  obtain ⟨r, -, -, again⟩ := resolve_signatureText _ _ nameable_default rfl _ _ _ _ _ rfl parsed (by decide) made
  obtain ⟨d', remade, -, same, -⟩ := again false ⟨(), "fn", none, .none⟩ rfl
  refine ⟨_, d', made, by rfl, remade, same.mpr ?_⟩
  rintro ⟨noBrackets, -⟩
  exact absurd noBrackets (by decide)

/-- The arrow applied like any other type is a type without parameters, but it is not written like that. -/
theorem signatureText_of_lone_function :
    Nameable Builtin.environment ∧
    ∃ d d' : Definition Unit Nat,
      (Definer.mk Environment.default [] (.bool true)).define "f :: Function Number String" false
        (.implementation ⟨(), "fn", none, .none⟩) = .ok d ∧
      d.signatureText = "f :: (Number -> String)" ∧
      (Definer.mk Environment.default [] (.bool true)).define d.signatureText false
        (.implementation ⟨(), "fn", none, .none⟩) = .ok d' ∧
      d.types.length = 1 ∧ d'.types.length = 2 ∧ d.arity = 0 ∧ d'.arity = 1 := by
  have parsed : Grammar.parse "f :: Function Number String" =
      .ok ⟨"f", [], .constructor "Function" [.constructor "Number" [], .constructor "String" []]⟩ := by
    refine Grammar.parse_eq_ok_iff.mpr
      ⟨[.name "f", .symbol "::", .name "Function", .name "Number", .name "String"], by rfl, .free ?_⟩
    exact .single (.upper (.upper (by decide)) (.more (.upper (by decide)) (.more (.upper (by decide)) .none)))
  have resolved : (Definer.mk Environment.default [] (.bool true)).resolve "f :: Function Number String" =
      .ok ⟨"f", [], [.type (.arrow (.operation (.constructor Builtin.number) [])
        (.operation (.constructor Builtin.text) []))]⟩ :=
    (Resolution.ofText_eq_ok_iff parsed).mpr ⟨rfl, rfl, rfl⟩
  have reparsed : Grammar.parse "f :: (Number -> String)" =
      .ok ⟨"f", [], .function [.constructor "Number" [], .constructor "String" []]⟩ := by
    refine Grammar.parse_eq_ok_iff.mpr
      ⟨[.name "f", .symbol "::", .opening .round, .name "Number", .symbol "->", .name "String", .closing .round],
        by rfl, .free ?_⟩
    exact .single (.bare (.bracketed
      (.function (.bare (.upper (by decide))) (.more (.bare (.upper (by decide))) .none))))
  have reresolved : (Definer.mk Environment.default [] (.bool true)).resolve "f :: (Number -> String)" =
      .ok ⟨"f", [], [.operator (.constructor Builtin.number), .operator (.constructor Builtin.text)]⟩ :=
    (Resolution.ofText_eq_ok_iff reparsed).mpr ⟨rfl, rfl, rfl⟩
  exact ⟨nameable_default, _, _, define_of_resolve parsed resolved false _, by rfl,
    define_of_resolve reparsed reresolved false _, rfl, rfl, rfl, rfl⟩

end Definition

end HMSignature
