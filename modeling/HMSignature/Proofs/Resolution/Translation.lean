import HMSignature.Proofs.Descriptor.Construct
import HMSignature.Proofs.Resolution.Memory
import HMSignature.Proofs.Resolution.Obligations
import HMSignature.Proofs.Resolution.Validity
import HMSignature.Resolution.Basic
/-!
# Resolution is a checked translation

A resolver goes through a tree once, looks names up, counts parameters and builds types as it goes. It succeeds exactly
on the trees whose nodes are all valid, and gives what the tree stands for.

Results:
1. `translates`: a tree resolves exactly if its nodes are valid, and then to its translation;
2. `ofText_eq_translation`: so does a text, with the classes of its constraints.
-/

namespace HMSignature

namespace Resolver

open Grammar (Entry IsTree AreTrees AreFields)

section Parts

variable {types : Table String Descriptor}

/-! ## Building from valid parts -/

theorem apply_of_toTys {op : Operator} {ds : List Descriptor} {ts : List Ty} (stands : Descriptor.toTys ds = .ok ts)
    (filled : op.arity = ds.length) : op.apply ds = .ok (.operation op ts) :=
  Operator.apply_eq_ok_iff.mpr ⟨ts, stands, (Descriptor.length_of_toTys stands).trans filled.symm, rfl⟩

theorem fresh_lookup_eq_ok_iff {name : String} {d : Descriptor} :
    fresh (lookup types name) = .ok d ↔ types.get? name = some d := by
  rw [fresh_lookup]
  cases types.get? name with
  | some item => exact ⟨fun h => congrArg some (Except.ok.inj h), fun h => congrArg Except.ok (Option.some.inj h)⟩
  | none =>
    constructor
    · intro h
      cases h
    · intro h
      cases h

/-- What resolves as a parameter resolves alike at the top, and has no slots. -/
theorem fresh_resolveParam_eq_ok_iff {entry : Entry} {d : Descriptor} :
    fresh (resolveParam types entry) = .ok d ↔ fresh (resolve types entry) = .ok d ∧ d.arity = 0 := by
  rw [fresh_resolveParam, bind_eq_ok_iff]
  constructor
  · rintro ⟨item, resolved, h⟩
    rw [fresh_asParam] at h
    split at h
    · rename_i bare
      cases h
      exact ⟨resolved, bare⟩
    · cases h
  · rintro ⟨resolved, bare⟩
    exact ⟨d, resolved, by rw [fresh_asParam, if_pos bare]⟩

/-- A named item is applied if it has an operator with as many slots as there are parameters, and they can fill it. -/
theorem fresh_applyNamed_iff {name : String} {ds : List Descriptor} {d : Descriptor} :
    fresh (applyNamed types name ds) = .ok d ↔
      ∃ item op t, types.get? name = some item ∧ operatorOf? item = some op ∧ op.arity = ds.length ∧
        op.apply ds = .ok t ∧ d = .type t := by
  rw [fresh_applyNamed, bind_eq_ok_iff]
  constructor
  · rintro ⟨item, found, h⟩
    rw [fresh_applyItem] at h
    split at h
    · cases h
    · rename_i op applies
      split at h
      · rename_i filled
        obtain ⟨t, applied, rfl⟩ := fresh_made_eq_ok_iff.mp ((fresh_made id _).trans h)
        exact ⟨item, op, t, fresh_lookup_eq_ok_iff.mp found, applies, filled, applied, rfl⟩
      · cases h
  · rintro ⟨item, op, t, found, applies, filled, applied, rfl⟩
    refine ⟨item, fresh_lookup_eq_ok_iff.mpr found, ?_⟩
    rw [fresh_applyItem, applies]
    dsimp only
    rw [if_pos filled, applied]
    rfl

theorem fresh_applyNamed_eq_ok_iff {name : String} {ds : List Descriptor} {ts : List Ty} {d : Descriptor}
    (stands : Descriptor.toTys ds = .ok ts) :
    fresh (applyNamed types name ds) = .ok d ↔
      ∃ item op, types.get? name = some item ∧ operatorOf? item = some op ∧ op.arity = ds.length ∧
        d = .type (.operation op ts) := by
  rw [fresh_applyNamed_iff]
  constructor
  · rintro ⟨item, op, t, found, applies, filled, applied, rfl⟩
    rw [apply_of_toTys stands filled] at applied
    cases applied
    exact ⟨item, op, found, applies, filled, rfl⟩
  · rintro ⟨item, op, found, applies, filled, rfl⟩
    exact ⟨item, op, _, found, applies, filled, apply_of_toTys stands filled, rfl⟩

theorem fresh_functionOf {ds : List Descriptor} {ts : List Ty} (stands : Descriptor.toTys ds = .ok ts) :
    fresh (functionOf ds) = .ok (.type (functionTy ts)) := by
  have sameLength := Descriptor.length_of_toTys stands
  match ds, ts with
  | [], [] => rfl
  | [output], [t] =>
    obtain ⟨t', stands', h⟩ := bind_eq_ok_iff.mp stands
    cases h
    show fresh (made (.arrow .unit) output.toTy) = _
    rw [stands']
    rfl
  | input :: more :: others, t :: t' :: ts =>
    show fresh (made id (Descriptor.functionType (input :: more :: others))) = _
    -- The last segment is the output, and the ones before it are the inputs.
    rw [← List.dropLast_concat_getLast (List.cons_ne_nil t (t' :: ts))] at stands
    exact fresh_made_eq_ok_iff.mpr ⟨_, Descriptor.functionType_eq_ok_iff.mpr ⟨_, _, stands, rfl⟩, rfl⟩

theorem record_of_standing {items : List (String × Descriptor)}
    (stands : ∀ item ∈ items, item.2.toTy = .ok (standing item.2)) :
    Descriptor.record (Table.ofList items) =
      .ok (.record (Table.ofList (items.map fun item => (item.1, standing item.2)))) := by
  -- Of fields with the same name only one value stays, but it is one of those that were written.
  have values : ∀ d ∈ (Table.ofList items).map (·.2), d.toTy = .ok (standing d) := by
    intro d member
    obtain ⟨entry, inTable, rfl⟩ := List.mem_map.mp member
    exact stands entry (Table.mem_of_mem_ofList inTable)
  rw [Descriptor.record, toTys_eq_standing values, ok_bind, List.map_map, Table.keys, List.zip_map', ← Table.map_ofList]
  rfl

theorem toTys_parameters (ordinary : OrdinaryTable types) {entries : List Entry} (h : AreTrees entries)
    (valid : ∀ entry ∈ entries, Valid types false entry) :
    Descriptor.toTys (parameters types entries) = .ok ((parameters types entries).map standing) := by
  refine toTys_eq_standing ?_
  intro d member
  rw [parameters_eq] at member
  obtain ⟨entry, inProper, rfl⟩ := List.mem_map.mp member
  have inEntries := (List.mem_filter.mp inProper).1
  exact toTy_translation ordinary (h.isTree inEntries) (valid entry inEntries)

theorem toTy_fields (ordinary : OrdinaryTable types) {entries : List Entry} (h : AreFields entries)
    (valid : ∀ entry ∈ entries, Valid types false entry) :
    ∀ item ∈ fields types entries, item.2.toTy = .ok (standing item.2) := by
  induction entries with
  | nil =>
    intro item member
    cases member
  | cons entry rest ih =>
    cases h with
    | @cons name type _ _ isType areFields =>
      rw [List.forall_mem_cons, valid_field_iff] at valid
      intro item member
      rcases List.mem_cons.mp member with rfl | inRest
      · exact toTy_translation ordinary isType valid.1
      · exact ih areFields valid.2 item inRest

/-! ## Resolving is translating -/

/-- At the top the tree resolves exactly if it is valid, and then to its translation. -/
def Translates (types : Table String Descriptor) (entry : Entry) : Prop :=
  ∀ d, fresh (resolve types entry) = .ok d ↔ Valid types true entry ∧ d = translation types entry

/-- As parameters the trees resolve exactly if they are valid, and then to what they stand for. -/
def ParamsTranslate (types : Table String Descriptor) (entries : List Entry) : Prop :=
  ∀ ds, fresh (resolveParams types entries) = .ok ds ↔
    (∀ entry ∈ entries, Valid types false entry) ∧ ds = parameters types entries

/-- As fields the nodes resolve exactly if they are valid, and then to what their types stand for. -/
def FieldsTranslate (types : Table String Descriptor) (entries : List Entry) : Prop :=
  ∀ items, fresh (resolveFields types entries) = .ok items ↔
    (∀ entry ∈ entries, Valid types false entry) ∧ items = fields types entries

/-- A tree in the place of a parameter. -/
theorem Translates.param {entry : Entry} (h : IsTree entry) (resolves : Translates types entry) (d : Descriptor) :
    fresh (resolveParam types entry) = .ok d ↔ Valid types false entry ∧ d = translation types entry := by
  rw [fresh_resolveParam_eq_ok_iff, resolves d, valid_false_iff h]
  constructor
  · rintro ⟨⟨valid, rfl⟩, noSlots⟩
    exact ⟨⟨valid, noSlots⟩, rfl⟩
  · rintro ⟨⟨valid, noSlots⟩, rfl⟩
    exact ⟨⟨valid, rfl⟩, noSlots⟩

theorem translates_name (name : String) : Translates types (.constructor name []) := by
  intro d
  rw [fresh_resolve_constructor, if_pos List.isEmpty_nil, fresh_lookup_eq_ok_iff]
  constructor
  · intro found
    exact ⟨⟨⟨d, found, .inl rfl⟩, fun _ member => absurd member List.not_mem_nil⟩, (translation_name found).symm⟩
  · rintro ⟨⟨⟨item, found, _⟩, _⟩, rfl⟩
    rw [translation_name found, found]

theorem translates_constructor (ordinary : OrdinaryTable types) (name : String) {first : Entry} {others : List Entry}
    (h : AreTrees (first :: others)) (parts : ParamsTranslate types (first :: others)) :
    Translates types (.constructor name (first :: others)) := by
  intro d
  rw [fresh_resolve_constructor, if_neg (by simp), bind_eq_ok_iff_of_unique parts, valid_iff_children]
  constructor
  · rintro ⟨valid, applied⟩
    obtain ⟨item, op, found, applies, filled, rfl⟩ :=
      (fresh_applyNamed_eq_ok_iff (toTys_parameters ordinary h valid)).mp applied
    rw [length_parameters] at filled
    refine ⟨⟨⟨item, op, found, applies, filled⟩, valid⟩, ?_⟩
    rw [← namedOperator_eq found applies]
    rfl
  · rintro ⟨⟨⟨item, op, found, applies, filled⟩, valid⟩, rfl⟩
    rw [← @length_parameters types] at filled
    refine ⟨valid, (fresh_applyNamed_eq_ok_iff (toTys_parameters ordinary h valid)).mpr ?_⟩
    refine ⟨item, op, found, applies, filled, ?_⟩
    rw [← namedOperator_eq found applies]
    rfl

theorem translates_function (ordinary : OrdinaryTable types) {segments : List Entry} (h : AreTrees segments)
    (parts : ParamsTranslate types segments) : Translates types (.function segments) := by
  intro d
  rw [fresh_resolve_function, bind_eq_ok_iff_of_unique parts, valid_iff_children]
  constructor
  · rintro ⟨valid, made⟩
    rw [fresh_functionOf (toTys_parameters ordinary h valid), ok_eq_ok_iff] at made
    exact ⟨⟨trivial, valid⟩, made⟩
  · rintro ⟨⟨-, valid⟩, rfl⟩
    exact ⟨valid, fresh_functionOf (toTys_parameters ordinary h valid)⟩

theorem translates_list (ordinary : OrdinaryTable types) {element : Entry} (h : IsTree element)
    (part : Translates types element) : Translates types (.list element) := by
  intro d
  rw [fresh_resolve_list, bind_eq_ok_iff_of_unique (part.param h), @valid_iff_children _ true]
  constructor
  · rintro ⟨valid, made⟩
    rw [toTy_translation ordinary h valid, fresh_made] at made
    exact ⟨⟨trivial, fun child member => List.mem_singleton.mp member ▸ valid⟩, ok_eq_ok_iff.mp made⟩
  · rintro ⟨⟨-, valid⟩, rfl⟩
    have validElement := valid element List.mem_cons_self
    refine ⟨validElement, ?_⟩
    rw [toTy_translation ordinary h validElement, fresh_made]
    rfl

theorem translates_record (ordinary : OrdinaryTable types) {entries : List Entry} (h : AreFields entries)
    (parts : FieldsTranslate types entries) : Translates types (.record entries) := by
  intro d
  rw [fresh_resolve_record, bind_eq_ok_iff_of_unique parts, valid_iff_children]
  constructor
  · rintro ⟨valid, made⟩
    rw [record_of_standing (toTy_fields ordinary h valid), fresh_made] at made
    exact ⟨⟨trivial, valid⟩, ok_eq_ok_iff.mp made⟩
  · rintro ⟨⟨-, valid⟩, rfl⟩
    refine ⟨valid, ?_⟩
    rw [record_of_standing (toTy_fields ordinary h valid), fresh_made]
    rfl

theorem translates_var (name : String) : Translates types (.var name) := by
  intro d
  rw [fresh_resolve_var]
  exact ok_eq_ok_iff_of ⟨trivial, nofun⟩

theorem fresh_variableOperator_eq_ok_iff {name : String} {count : Nat} {op : Operator} :
    fresh (variableOperator name count) = .ok op ↔ (count = 1 ∨ count = 2) ∧ op = appliedVariable name count := by
  rw [fresh_variableOperator]
  by_cases bound : 1 ≤ count ∧ count ≤ 2
  · rw [dif_pos bound, appliedVariable_eq name bound.2]
    exact ok_eq_ok_iff_of (by omega)
  · rw [dif_neg bound]
    exact error_eq_ok_iff_of (by omega)

theorem translates_constrained (ordinary : OrdinaryTable types) (name : String) {params : List Entry}
    (h : AreTrees params) (parts : ParamsTranslate types params) : Translates types (.constrained name params) := by
  intro d
  rw [fresh_resolve_constrained, bind_eq_ok_iff_of_unique parts,
    bind_eq_ok_iff_of_unique fun op => fresh_variableOperator_eq_ok_iff, valid_iff_children, length_parameters]
  have applied (valid : ∀ entry ∈ params, Valid types false entry)
      (count : (proper params).length = 1 ∨ (proper params).length = 2) :
      (appliedVariable name (proper params).length).apply (parameters types params) =
        .ok (.operation (appliedVariable name (proper params).length) ((parameters types params).map standing)) := by
    refine apply_of_toTys (toTys_parameters ordinary h valid) ?_
    rw [length_parameters]
    exact Nat.min_eq_left (by omega)
  have whole : translation types (.constrained name params) =
      .type (.operation (appliedVariable name (proper params).length) ((parameters types params).map standing)) := by
    rw [← @length_parameters types, ← List.length_map (f := standing)]
    rfl
  rw [whole]
  constructor
  · rintro ⟨valid, count, made⟩
    rw [applied valid count, fresh_made] at made
    exact ⟨⟨count, valid⟩, ok_eq_ok_iff.mp made⟩
  · rintro ⟨⟨count, valid⟩, rfl⟩
    refine ⟨valid, count, ?_⟩
    rw [applied valid count, fresh_made]
    rfl

theorem translates_thunk : Translates types .thunk := by
  intro d
  rw [fresh_resolve_thunk]
  exact ok_eq_ok_iff_of ⟨trivial, nofun⟩

theorem paramsTranslate_nil : ParamsTranslate types [] := by
  intro ds
  exact ok_eq_ok_iff_of nofun

theorem paramsTranslate_cons (ordinary : OrdinaryTable types) {entry : Entry} {rest : List Entry} (h : IsTree entry)
    (part : Translates types entry) (parts : ParamsTranslate types rest) : ParamsTranslate types (entry :: rest) := by
  intro ds
  rw [fresh_resolveParams_cons, bind_eq_ok_iff_of_unique (part.param h), bind_eq_ok_iff_of_unique parts,
    ok_eq_ok_iff, List.forall_mem_cons, and_assoc]
  refine and_congr_right fun valid => ?_
  -- The resolver drops what equals the mark, the translation what is written as empty brackets.
  rw [isThunk_translation ordinary h ((valid_false_iff h).mp valid).1, parameters]
  simp only [decide_eq_true_eq]

theorem fieldsTranslate_nil : FieldsTranslate types [] := by
  intro items
  exact ok_eq_ok_iff_of nofun

theorem fieldsTranslate_cons (name : String) {type : Entry} {rest : List Entry} (h : IsTree type)
    (part : Translates types type) (parts : FieldsTranslate types rest) :
    FieldsTranslate types (.field name type :: rest) := by
  intro items
  rw [fresh_resolveFields_cons, bind_eq_ok_iff_of_unique (part.param h), bind_eq_ok_iff_of_unique parts,
    ok_eq_ok_iff, List.forall_mem_cons, valid_field_iff, and_assoc]
  rfl

mutual

/-- A tree resolves exactly if all its nodes are valid, and then to its translation. -/
theorem translates (ordinary : OrdinaryTable types) {entry : Entry} : IsTree entry → Translates types entry
  | .constructor _ .nil => translates_name _
  | .constructor _ (.cons h hs) =>
      translates_constructor ordinary _ (.cons h hs)
        (paramsTranslate_cons ordinary h (translates ordinary h) (paramsTranslate ordinary hs))
  | .function hs => translates_function ordinary hs (paramsTranslate ordinary hs)
  | .list h => translates_list ordinary h (translates ordinary h)
  | .record hs => translates_record ordinary hs (fieldsTranslate ordinary hs)
  | .var _ => translates_var _
  | .constrained _ hs => translates_constrained ordinary _ hs (paramsTranslate ordinary hs)
  | .thunk => translates_thunk

theorem paramsTranslate (ordinary : OrdinaryTable types) {entries : List Entry} :
    AreTrees entries → ParamsTranslate types entries
  | .nil => paramsTranslate_nil
  | .cons h hs => paramsTranslate_cons ordinary h (translates ordinary h) (paramsTranslate ordinary hs)

theorem fieldsTranslate (ordinary : OrdinaryTable types) {entries : List Entry} :
    AreFields entries → FieldsTranslate types entries
  | .nil => fieldsTranslate_nil
  | .cons _ h hs => fieldsTranslate_cons _ h (translates ordinary h) (fieldsTranslate ordinary hs)

end

/-- The top-level entries resolve exactly if all their nodes are valid, and then to what they stand for. -/
theorem fresh_resolveAll_eq_ok_iff (ordinary : OrdinaryTable types) {entries : List Entry} (h : AreTrees entries)
    (ds : List Descriptor) :
    fresh (resolveAll types entries) = .ok ds ↔
      (∀ entry ∈ entries, Valid types true entry) ∧ ds = parameters types entries := by
  induction entries generalizing ds with
  | nil => exact ok_eq_ok_iff_of nofun
  | cons entry rest ih =>
    cases h with
    | cons isTree areTrees =>
      rw [fresh_resolveAll_cons, bind_eq_ok_iff_of_unique (translates ordinary isTree),
        bind_eq_ok_iff_of_unique (ih areTrees), ok_eq_ok_iff, List.forall_mem_cons, and_assoc]
      refine and_congr_right fun valid => ?_
      rw [isThunk_translation ordinary isTree valid, parameters]
      simp only [decide_eq_true_eq]

end Parts

end Resolver

/-! ## Texts -/

namespace Resolution

open Grammar (Entry Signature)

section Reading

variable {classes : List TypeClass} {environment : List Descriptor} {text : String}

theorem ofText_of_parse_error {e : Grammar.ParseError} (parsed : Grammar.parse text = .error e) :
    ofText classes environment text = .error (.syntactic e) := by
  rw [ofText, parsed]
  rfl

/-- After a text has been read its constraints are resolved, and then its types. -/
theorem ofText_of_parse {s : Signature} (parsed : Grammar.parse text = .ok s) :
    ofText classes environment text = (do
      let constraints ← (Obligations.ofConstraints (Environment.typeClasses classes)
        s.constraints).mapError SignatureError.semantic
      let types ← (Resolver.fresh (Resolver.resolveAll (Environment.types environment)
        s.entries)).mapError SignatureError.semantic
      .ok ⟨s.name, constraints, types⟩) := by
  rw [ofText, parsed]
  rfl

/-- The resolution of a signature that has been read. -/
theorem ofText_eq_ok_iff {s : Signature} (parsed : Grammar.parse text = .ok s) {r : Resolution} :
    ofText classes environment text = .ok r ↔
      Obligations.ofConstraints (Environment.typeClasses classes) s.constraints = .ok r.constraints ∧
        Resolver.fresh (Resolver.resolveAll (Environment.types environment) s.entries) = .ok r.types ∧
        r.name = s.name := by
  rw [ofText_of_parse parsed]
  constructor
  · intro h
    obtain ⟨constraints, hconstraints, h⟩ := bind_eq_ok_iff.mp h
    obtain ⟨types, htypes, h⟩ := bind_eq_ok_iff.mp h
    cases h
    exact ⟨mapError_eq_ok_iff.mp hconstraints, mapError_eq_ok_iff.mp htypes, rfl⟩
  · rintro ⟨hconstraints, htypes, hname⟩
    obtain ⟨name, constraints, types⟩ := r
    cases hname
    refine bind_eq_ok_iff.mpr ⟨constraints, mapError_eq_ok_iff.mpr hconstraints, ?_⟩
    exact bind_eq_ok_iff.mpr ⟨types, mapError_eq_ok_iff.mpr htypes, rfl⟩

end Reading

/-- Resolving is translating. A text that can be read has a resolution exactly if the classes of its constraints are
known and all nodes of its tree are valid. The resolution has the name of the signature, its constraints by
variable, and what its top-level entries stand for, without the empty brackets among them. -/
theorem ofText_eq_translation (classes : List TypeClass) (environment : List Descriptor) (text : String)
    (s : Signature) (ordinary : ∀ item ∈ environment, item.Ordinary) (parsed : Grammar.parse text = .ok s) :
    ((∃ r, ofText classes environment text = .ok r) ↔
      (∀ constraint ∈ s.constraints, ∃ c, (Environment.typeClasses classes).get? constraint.typeClass = some c) ∧
      ∀ entry ∈ s.entries, Resolver.Valid (Environment.types environment) true entry) ∧
    ∀ r, ofText classes environment text = .ok r →
      r.name = s.name ∧
      Obligations.ofConstraints (Environment.typeClasses classes) s.constraints = .ok r.constraints ∧
      r.types = (Resolver.proper s.entries).map (Resolver.translation (Environment.types environment)) := by
  have resolves := Resolver.fresh_resolveAll_eq_ok_iff (Resolver.ordinaryTable_types ordinary)
    (Grammar.isTree_of_parse parsed).entries
  have grouped := Obligations.addAll_succeeds_iff (Environment.typeClasses classes) s.constraints []
  refine ⟨⟨?_, ?_⟩, ?_⟩
  · rintro ⟨r, h⟩
    obtain ⟨hconstraints, htypes, -⟩ := (ofText_eq_ok_iff parsed).mp h
    exact ⟨grouped.mp ⟨_, hconstraints⟩, ((resolves _).mp htypes).1⟩
  · rintro ⟨known, valid⟩
    obtain ⟨constraints, hconstraints⟩ := grouped.mpr known
    exact ⟨⟨s.name, constraints, _⟩, (ofText_eq_ok_iff parsed).mpr ⟨hconstraints, (resolves _).mpr ⟨valid, rfl⟩, rfl⟩⟩
  · intro r h
    obtain ⟨hconstraints, htypes, hname⟩ := (ofText_eq_ok_iff parsed).mp h
    exact ⟨hname, hconstraints, ((resolves _).mp htypes).2.trans (Resolver.parameters_eq _)⟩

theorem ofText_pick :
    ∃ r, ofText [] Environment.default "pick :: Number -> () -> [StrMap a]" = .ok r ∧ r.name = "pick" ∧
      r.types = [.operator (.constructor Builtin.number),
        .type (.array (.operation (.constructor Builtin.textMap) [.var "a"]))] := by
  have parsed : Grammar.parse "pick :: Number -> () -> [StrMap a]" =
      .ok ⟨"pick", [], .function [.constructor "Number" [], .thunk, .list (.constructor "StrMap" [.var "a"])]⟩ := by
    refine Grammar.parse_eq_ok_iff.mpr
      ⟨[.name "pick", .symbol "::", .name "Number", .symbol "->", .opening .round, .closing .round, .symbol "->",
        .opening .square, .name "StrMap", .name "a", .closing .square], by rfl, .free ?_⟩
    refine .function (.bare (.upper (by decide))) (.more (.bare .thunk) (.more (.bare (.list (.single ?_))) .none))
    exact .upper (.upper (by decide)) (.more (.lower (by decide)) .none)
  have whole := ofText_eq_translation [] Environment.default _ _ (fun item => Descriptor.ordinary_of_default) parsed
  have valid : ∀ entry ∈ [Entry.constructor "Number" [], .thunk, .list (.constructor "StrMap" [.var "a"])],
      Resolver.Valid (Environment.types Environment.default) true entry := by
    rw [List.forall_mem_cons, List.forall_mem_cons, List.forall_mem_singleton]
    refine ⟨⟨⟨.operator (.constructor Builtin.number), by rfl, .inl rfl⟩, nofun⟩, ⟨trivial, nofun⟩, ⟨trivial, ?_⟩⟩
    show ∀ node ∈ [Entry.constructor "StrMap" [.var "a"], .var "a"], Resolver.NodeValid _ false node
    rw [List.forall_mem_cons, List.forall_mem_singleton]
    exact ⟨⟨_, .constructor Builtin.textMap, by rfl, rfl, rfl⟩, trivial⟩
  obtain ⟨r, h⟩ := whole.1.mpr ⟨nofun, valid⟩
  obtain ⟨hname, -, htypes⟩ := whole.2 r h
  exact ⟨r, h, hname, htypes⟩

end Resolution

end HMSignature
