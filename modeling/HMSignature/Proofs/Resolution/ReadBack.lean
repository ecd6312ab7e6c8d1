import HMSignature.Proofs.Descriptor.Equality
import HMSignature.Proofs.Resolution.Printing
import HMSignature.Proofs.Resolution.Translation
/-!
# Types are read back from their texts

The tree of a type resolves to the type: a name stands for the operator that it is looked up for, variables for
themselves, and a function is built again from its segments.

Results:
1. `restores_of_readable`: the tree of a readable type resolves to what stands for the type;
2. `resolve_parse_text`: reading a type in writing and resolving it gives a type that equals it.
-/

namespace HMSignature

open Grammar (Entry IsName IsTypeName IsVarName)

namespace Resolver

section Standing

variable {types : Table String Descriptor}

/-- As a parameter the tree resolves to what stands for the type. -/
def StandsFor (types : Table String Descriptor) (entry : Entry) (t : Ty) : Prop :=
  ∃ d, fresh (resolveParam types entry) = .ok d ∧ d.toTy = .ok t ∧ d.isThunk = false

/-- As parameters the trees resolve to what stands for the types. -/
def StandForAll (types : Table String Descriptor) (entries : List Entry) (ts : List Ty) : Prop :=
  ∃ ds, fresh (resolveParams types entries) = .ok ds ∧ Descriptor.toTys ds = .ok ts

/-- As fields the nodes resolve to what stands for the types of the fields. -/
def StandForFields (types : Table String Descriptor) (entries : List Entry) (fields : List (String × Ty)) : Prop :=
  ∃ items, fresh (resolveFields types entries) = .ok items ∧
    (∀ item ∈ items, item.2.toTy = .ok (standing item.2)) ∧ items.map (fun item => (item.1, standing item.2)) = fields

theorem fresh_resolveAll_of_resolveParams {entries : List Entry} {ds : List Descriptor}
    (h : fresh (resolveParams types entries) = .ok ds) : fresh (resolveAll types entries) = .ok ds := by
  induction entries generalizing ds with
  | nil => exact h
  | cons entry rest ih =>
    obtain ⟨d, others, first, hothers, rfl⟩ := fresh_resolveParams_cons_eq_ok_iff.mp h
    have alike := (fresh_resolveParam_eq_ok_iff.mp first).1
    exact fresh_resolveAll_cons_eq_ok_iff.mpr ⟨d, others, alike, ih hothers, rfl⟩

theorem standsFor_of_resolve {entry : Entry} {d : Descriptor} {t : Ty} (h : fresh (resolve types entry) = .ok d)
    (bare : d.arity = 0) (stands : d.toTy = .ok t) (other : d.isThunk = false) : StandsFor types entry t :=
  ⟨d, fresh_resolveParam_eq_ok_iff.mpr ⟨h, bare⟩, stands, other⟩

/-- What resolves as a parameter resolves alike at the top. -/
theorem StandsFor.resolve {entry : Entry} {t : Ty} (h : StandsFor types entry t) :
    ∃ d, fresh (resolve types entry) = .ok d ∧ d.toTy = .ok t := by
  obtain ⟨d, resolved, stands, -⟩ := h
  exact ⟨d, (fresh_resolveParam_eq_ok_iff.mp resolved).1, stands⟩

/-- What resolves as parameters resolves alike at the top. -/
theorem StandForAll.resolveAll {entries : List Entry} {ts : List Ty} (h : StandForAll types entries ts) :
    ∃ ds, fresh (Resolver.resolveAll types entries) = .ok ds ∧ Descriptor.toTys ds = .ok ts := by
  obtain ⟨ds, resolved, stands⟩ := h
  exact ⟨ds, fresh_resolveAll_of_resolveParams resolved, stands⟩

theorem standForAll_nil : StandForAll types [] [] :=
  ⟨[], rfl, rfl⟩

theorem StandsFor.cons {entry : Entry} {entries : List Entry} {t : Ty} {ts : List Ty} (h : StandsFor types entry t)
    (h' : StandForAll types entries ts) : StandForAll types (entry :: entries) (t :: ts) := by
  obtain ⟨d, resolved, stands, other⟩ := h
  obtain ⟨ds, resolved', stands'⟩ := h'
  refine ⟨d :: ds, fresh_resolveParams_cons_eq_ok_iff.mpr ⟨d, ds, resolved, resolved', ?_⟩, ?_⟩
  · rw [other]
    rfl
  · exact Descriptor.toTys_cons_eq_ok_iff.mpr ⟨t, ts, stands, stands', rfl⟩

theorem standing_of_toTy {d : Descriptor} {t : Ty} (stands : d.toTy = .ok t) : standing d = t := by
  rcases Descriptor.toTy_eq_ok_iff.mp stands with rfl | ⟨c, rfl, -, rfl⟩
  · rfl
  · rfl

theorem standForFields_nil : StandForFields types [] [] :=
  ⟨[], rfl, nofun, rfl⟩

theorem StandsFor.field {entry : Entry} {entries : List Entry} {t : Ty} {fields : List (String × Ty)} (name : String)
    (h : StandsFor types entry t) (h' : StandForFields types entries fields) :
    StandForFields types (.field name entry :: entries) ((name, t) :: fields) := by
  obtain ⟨d, resolved, stands, -⟩ := h
  obtain ⟨items, resolved', stands', rfl⟩ := h'
  have same := standing_of_toTy stands
  refine ⟨(name, d) :: items, ?_, ?_, ?_⟩
  · exact fresh_resolveFields_cons_eq_ok_iff.mpr ⟨d, items, resolved, resolved', rfl⟩
  · rw [List.forall_mem_cons, same]
    exact ⟨stands, stands'⟩
  · rw [List.map_cons, same]

/-- What the trees of a type resolve to, as one tree and segment by segment. -/
structure Restores (types : Table String Descriptor) (t : Ty) : Prop where
  param : StandsFor types t.tree t
  segments : ∃ inputs output, StandForAll types t.segments (inputs ++ [output]) ∧ Ty.arrows inputs output = t

theorem Restores.of_single {t : Ty} (single : t.segments = [t.tree]) (h : StandsFor types t.tree t) :
    Restores types t := by
  refine ⟨h, [], t, ?_, rfl⟩
  rw [single]
  exact h.cons standForAll_nil

theorem Restores.of_application {op : Operator} (prefixed : Prefixed op) {params : List Ty}
    (h : StandsFor types (op.node (Ty.trees params)) (.operation op params)) :
    Restores types (.operation op params) := by
  refine .of_single (segments_eq_tree prefixed params) ?_
  rw [tree_application prefixed]
  exact h

theorem functionTy_of_inputs (input : Ty) (inputs : List Ty) (output : Ty) :
    functionTy (input :: (inputs ++ [output])) = .arrow input (.arrows inputs output) := by
  cases inputs with
  | nil => rfl
  | cons more others =>
    show Ty.arrows ((input :: more :: others) ++ [output]).dropLast (((input :: more :: others) ++ [output]).getLast _) = _
    rw [List.dropLast_concat, List.getLast_concat]
    rfl

/-! ## Each kind of type -/

theorem restores_var (name : String) : Restores types (.var name) :=
  .of_single rfl (standsFor_of_resolve (fresh_resolve_var types name) rfl rfl rfl)

theorem restores_array {element : Ty} (h : Restores types element) : Restores types (.array element) := by
  obtain ⟨d, resolved, stands, -⟩ := h.param
  have whole : fresh (resolve types (.list element.tree)) = .ok (.type (.array element)) := by
    rw [fresh_resolve_list, resolved, ok_bind, fresh_made, stands]
    rfl
  exact .of_single rfl (standsFor_of_resolve whole rfl rfl rfl)

theorem restores_arrow {input output : Ty} (h : Restores types input) (h' : Restores types output) :
    Restores types (.arrow input output) := by
  -- An output that is a function is written without brackets, so its segments follow the input.
  obtain ⟨inputs, last, stand, rebuilt⟩ := h'.segments
  have whole := h.param.cons stand
  refine ⟨?_, input :: inputs, last, whole, congrArg _ rebuilt⟩
  obtain ⟨ds, resolved, stands⟩ := whole
  have function : fresh (resolve types (.function (input.tree :: output.segments))) = .ok (.type (.arrow input output)) := by
    rw [fresh_resolve_function, resolved, ok_bind, fresh_functionOf stands, functionTy_of_inputs, rebuilt]
  rw [Ty.tree_arrow]
  exact standsFor_of_resolve function rfl rfl rfl

/-- What the name of a constructor is looked up for stands for it by itself, if it has no slots. -/
theorem standsFor_name {c : Constructor} (named : c.Named types) (bare : c.extractors.length = 0) :
    StandsFor types (.constructor c.name []) (.operation (.constructor c) []) := by
  have resolved {item : Descriptor} (found : types.get? c.name = some item) :
      fresh (resolve types (.constructor c.name [])) = .ok item := by
    rw [fresh_resolve_constructor, if_pos List.isEmpty_nil]
    exact fresh_lookup_eq_ok_iff.mpr found
  rcases named.known with found | ⟨params, found, filled⟩
  · exact standsFor_of_resolve (resolved found) bare (toTy_eq_standing bare nofun) named.not_thunk
  · -- The name may be that of a type made by the constructor; without slots it is the type in question.
    cases List.length_eq_zero_iff.mp (filled.trans bare)
    exact standsFor_of_resolve (resolved found) rfl rfl named.isThunk_operation

theorem restores_constructor {c : Constructor} {params : List Ty} (named : c.Named types)
    (filled : params.length = c.extractors.length) (h : StandForAll types (Ty.trees params) params) :
    Restores types (.operation (.constructor c) params) := by
  refine .of_application named.prefixed ?_
  cases params with
  | nil => exact standsFor_name named filled.symm
  | cons first others =>
    obtain ⟨ds, resolved, stands⟩ := h
    have count := Descriptor.length_of_toTys stands
    have known : ∃ item, types.get? c.name = some item ∧ operatorOf? item = some (.constructor c) := by
      rcases named.known with found | ⟨params, found, -⟩
      · exact ⟨_, found, rfl⟩
      · exact ⟨_, found, rfl⟩
    obtain ⟨item, found, applies⟩ := known
    have whole : fresh (resolve types (.constructor c.name (Ty.trees (first :: others)))) =
        .ok (.type (.operation (.constructor c) (first :: others))) := by
      rw [fresh_resolve_constructor, if_neg (by simp [Ty.trees]), resolved, ok_bind]
      exact (fresh_applyNamed_eq_ok_iff stands).mpr ⟨item, _, found, applies, filled.symm.trans count, rfl⟩
    exact standsFor_of_resolve whole rfl rfl named.isThunk_operation

theorem restores_constrained {name : String} {arity : Nat} {bound : arity ≤ 2} {params : List Ty}
    (isName : IsVarName name) (positive : 1 ≤ arity) (filled : params.length = arity)
    (h : StandForAll types (Ty.trees params) params) : Restores types (.operation (.var name arity bound) params) := by
  obtain ⟨ds, resolved, stands⟩ := h
  subst filled
  have count := Descriptor.length_of_toTys stands
  have whole : fresh (resolve types (.constrained name (Ty.trees params))) =
      .ok (.type (.operation (.var name params.length bound) params)) := by
    have made : fresh (variableOperator name ds.length) = .ok (.var name params.length bound) := by
      rw [← count]
      exact fresh_variableOperator_eq_ok_iff.mpr ⟨by omega, (appliedVariable_eq name bound).symm⟩
    have applied : (Operator.var name params.length bound).apply ds = .ok (.operation (.var name params.length bound) params) :=
      apply_of_toTys stands count
    rw [fresh_resolve_constrained, resolved, ok_bind, made, ok_bind, applied, fresh_made]
    rfl
  exact .of_application (prefixed_var isName params.length bound) (standsFor_of_resolve whole rfl rfl rfl)

theorem restores_record {fields : List (String × Ty)} (distinct : (Table.keys fields).Nodup)
    (h : StandForFields types (Ty.fieldNodes fields) fields) : Restores types (.record fields) := by
  obtain ⟨items, resolved, stands, same⟩ := h
  have whole : fresh (resolve types (.record (Ty.fieldNodes fields))) = .ok (.type (.record fields)) := by
    rw [fresh_resolve_record, resolved, ok_bind, record_of_standing stands, same, Table.ofList_of_nodup distinct,
      fresh_made]
    rfl
  exact .of_single rfl (standsFor_of_resolve whole rfl rfl rfl)

mutual

/-- The tree of a readable type resolves to what stands for the type. -/
theorem restores_of_readable {t : Ty} : Readable types t → Restores types t
  | .arrow h h' => restores_arrow (restores_of_readable h) (restores_of_readable h')
  | .array h => restores_array (restores_of_readable h)
  | .constructor named filled hs => restores_constructor named filled (standForAll_of_readable hs)
  | .constrained isName positive filled hs =>
    restores_constrained isName positive filled (standForAll_of_readable hs)
  | .var _ => restores_var _
  | .record distinct hs => restores_record distinct (standForFields_of_readable hs)

theorem standForAll_of_readable {ts : List Ty} : AllReadable types ts → StandForAll types (Ty.trees ts) ts
  | .nil => standForAll_nil
  | .cons h hs => (restores_of_readable h).param.cons (standForAll_of_readable hs)

theorem standForFields_of_readable {fields : List (String × Ty)} :
    FieldsReadable types fields → StandForFields types (Ty.fieldNodes fields) fields
  | .nil => standForFields_nil
  | .cons _ h hs => (restores_of_readable h).param.field _ (standForFields_of_readable hs)

end

end Standing

end Resolver

/-! ## Reading back -/

section ReadBack

variable {types : Table String Descriptor}

mutual

theorem Readable.distinct {t : Ty} : Readable types t → t.Distinct
  | .arrow h h' => ⟨h.distinct, h'.distinct, trivial⟩
  | .array h => ⟨h.distinct, trivial⟩
  | .constructor _ _ hs => hs.distinct
  | .constrained _ _ _ hs => hs.distinct
  | .var _ => trivial
  | .record distinct hs => ⟨distinct, hs.distinct⟩

theorem AllReadable.distinct {ts : List Ty} : AllReadable types ts → Ty.AllDistinct ts
  | .nil => trivial
  | .cons h hs => ⟨h.distinct, hs.distinct⟩

theorem FieldsReadable.distinct {fields : List (String × Ty)} : FieldsReadable types fields → Ty.FieldsDistinct fields
  | .nil => trivial
  | .cons _ h hs => ⟨h.distinct, hs.distinct⟩

end

end ReadBack

/-- A type in writing is read back as itself. In either form, and after any name, the text of a readable type is a
signature without constraints whose tree resolves to a descriptor that stands for the type and equals it. -/
theorem resolve_parse_text (environment : List Descriptor) (t : Ty)
    (readable : Readable (Environment.types environment) t) (nested : Bool) (name : String) (isName : IsName name) :
    ∃ entry d, Grammar.parse (name ++ " :: " ++ t.text nested) = .ok ⟨name, [], entry⟩ ∧
      Resolver.fresh (Resolver.resolve (Environment.types environment) entry) = .ok d ∧
      d.toTy = .ok t ∧ d.equals (.type t) = .ok true := by
  have parsed := Grammar.parse_of_reads isName (readable.phrases.type nested)
  obtain ⟨d, resolved, stands⟩ := (Resolver.restores_of_readable readable).param.resolve
  exact ⟨t.tree, d, parsed, resolved, stands, Descriptor.equals_of_toTy readable.distinct stands⟩

theorem resolve_parse_text_textMap :
    ∃ entry d, Grammar.parse "f :: StrMap (a -> [b])" = .ok ⟨"f", [], entry⟩ ∧
      Resolver.fresh (Resolver.resolve (Environment.types Environment.default) entry) = .ok d ∧
      d.toTy = .ok (.operation (.constructor Builtin.textMap) [.arrow (.var "a") (.array (.var "b"))]) ∧
      d.equals (.type (.operation (.constructor Builtin.textMap) [.arrow (.var "a") (.array (.var "b"))])) =
        .ok true := by
  have named : Builtin.textMap.Named (Environment.types Environment.default) :=
    { genuine := Builtin.genuine (show ("StrMap", Builtin.textMap) ∈ Builtin.table by simp [Builtin.table])
      ne_function := by simp [Builtin.textMap, Builtin.function]
      ne_array := by simp [Builtin.textMap, Builtin.array]
      isTypeName := by decide
      known := .inl (by rfl) }
  have a : IsVarName "a" := by decide
  have b : IsVarName "b" := by decide
  have param : Readable (Environment.types Environment.default) (.arrow (.var "a") (.array (.var "b"))) :=
    .arrow (.var a) (.array (.var b))
  exact resolve_parse_text Environment.default
    (.operation (.constructor Builtin.textMap) [.arrow (.var "a") (.array (.var "b"))])
    (.constructor named rfl (.cons param .nil)) false "f" (by decide)

end HMSignature
