import HMSignature.Proofs.Resolution.Mark
import HMSignature.Proofs.Resolution.ReadBack
/-!
# What resolves can be written

In an environment of type constructors that are told apart by their names, everything that a tree resolves to has a
text that can be read, as long as no list and no field has empty brackets in it.

Results:
1. `namesConstructors_types`: in such an environment each name stands for the constructor of that name;
2. `legible_of_resolve`: what resolves against it is a constructor of the environment or a readable type;
3. `legible_of_resolveAll`: so are the types of a signature.
-/

namespace HMSignature

open Grammar (Entry IsName IsTypeName IsTree AreTrees AreFields)

/-! ## Environments of constructors -/

/-- Type constructors that are told apart by their names, which are names of types. The unit type is one of them; the
mark of empty brackets is not, since no token is its name. -/
structure Nameable (constructors : List Constructor) : Prop where
  distinct : (constructors.map (·.name)).Nodup
  isTypeName : ∀ c ∈ constructors, IsTypeName c.name
  genuine : ∀ c ∈ constructors, c.Genuine
  unit : Builtin.unit ∈ constructors

theorem nameable_default : Nameable Builtin.environment := by
  refine ⟨by decide, by decide, ?_, by simp [Builtin.environment]⟩
  intro c member
  have known : c ∈ Builtin.table.map (·.2) := by
    simp only [Builtin.environment, List.mem_cons, List.not_mem_nil, or_false] at member
    rcases member with rfl | rfl | rfl | rfl | rfl | rfl | rfl | rfl | rfl | rfl | rfl | rfl | rfl <;>
      simp [Builtin.table]
  obtain ⟨⟨name, _⟩, inTable, rfl⟩ := List.mem_map.mp known
  exact Builtin.genuine inTable

/-- The constructors as an environment. -/
def Environment.ofConstructors (constructors : List Constructor) : List Descriptor :=
  constructors.map fun c => .operator (.constructor c)

/-- A table in which names stand for the constructors of these names, and one of them is the unit type. -/
structure NamesConstructors (types : Table String Descriptor) : Prop where
  constructor : ∀ (name : String) (item : Descriptor), types.get? name = some item →
    ∃ c, item = .operator (.constructor c) ∧ c.name = name ∧ IsTypeName name ∧ c.Genuine
  unit : types.get? Builtin.unit.name = some (.operator (.constructor Builtin.unit))

theorem shortName_of_isName {name : String} (h : IsName name) : shortName name = name := by
  refine shortName_of_no_slash fun slash => ?_
  exact absurd (h.2 '/' slash) (by decide)

theorem types_ofConstructors {constructors : List Constructor} (nameable : Nameable constructors) :
    Environment.types (Environment.ofConstructors constructors) =
      constructors.map fun c => (c.name, .operator (.constructor c)) := by
  have entries : (Environment.ofConstructors constructors).map (fun item => (item.shortName, item)) =
      constructors.map fun c => (c.name, .operator (.constructor c)) := by
    rw [Environment.ofConstructors, List.map_map]
    refine List.map_congr_left fun c member => ?_
    show (shortName c.name, _) = _
    rw [shortName_of_isName (nameable.isTypeName c member).1]
  have distinct : (Table.keys (constructors.map fun c => (c.name, Descriptor.operator (.constructor c)))).Nodup := by
    rw [Table.keys, List.map_map]
    exact nameable.distinct
  rw [Environment.types, entries, Table.ofList_of_nodup distinct]

theorem namesConstructors_types {constructors : List Constructor} (nameable : Nameable constructors) :
    NamesConstructors (Environment.types (Environment.ofConstructors constructors)) := by
  rw [types_ofConstructors nameable]
  constructor
  · intro name item found
    obtain ⟨c, member, same⟩ := List.mem_map.mp (Table.mem_of_get? found)
    cases same
    exact ⟨c, rfl, rfl, nameable.isTypeName c member, nameable.genuine c member⟩
  · refine Table.get?_of_mem ?_ (List.mem_map.mpr ⟨Builtin.unit, nameable.unit, rfl⟩)
    rw [Table.keys, List.map_map]
    exact nameable.distinct

/-! ## Legible descriptors -/

section Legible

variable {types : Table String Descriptor}

theorem NamesConstructors.unmarked (names : NamesConstructors types) : Resolver.Unmarked types := by
  constructor
  · intro name item found
    obtain ⟨c, rfl, rfl, isTypeName, genuine⟩ := names.constructor name item found
    exact genuine.not_thunk isTypeName
  · intro name item op params found applies _
    obtain ⟨c, rfl, rfl, isTypeName, genuine⟩ := names.constructor name item found
    cases applies
    show ((Operator.constructor c).same (.constructor Builtin.thunk) && Ty.sameAll params []) = false
    rw [genuine.not_thunk isTypeName, Bool.false_and]

/-- A constructor that its name stands for, or a type that can be read. -/
inductive Descriptor.Legible (types : Table String Descriptor) : Descriptor → Prop
  | operator {c : Constructor} : types.get? c.name = some (.operator (.constructor c)) → IsTypeName c.name → c.Genuine →
      Legible types (.operator (.constructor c))
  | type {t : Ty} : Readable types t → Legible types (.type t)

theorem Constructor.Named.of_found {c : Constructor} (found : types.get? c.name = some (.operator (.constructor c)))
    (isTypeName : IsTypeName c.name) (genuine : c.Genuine) (ne_function : c ≠ Builtin.function)
    (ne_array : c ≠ Builtin.array) : c.Named types :=
  ⟨genuine, ne_function, ne_array, isTypeName, .inl found⟩

theorem Descriptor.Legible.readable {d : Descriptor} {t : Ty} (legible : d.Legible types) (stands : d.toTy = .ok t) :
    Readable types t := by
  cases legible with
  | type readable =>
    cases stands
    exact readable
  | @operator c found isTypeName genuine =>
    obtain ⟨filled, rfl⟩ := Operator.saturate_eq_ok_iff.mp stands
    have noSlots : c.extractors.length = 0 := filled.symm
    -- The arrow and the list type have slots.
    have ne_function : c ≠ Builtin.function := by
      rintro rfl
      cases noSlots
    have ne_array : c ≠ Builtin.array := by
      rintro rfl
      cases noSlots
    exact .constructor (.of_found found isTypeName genuine ne_function ne_array) filled .nil

theorem allReadable_of_toTys {ds : List Descriptor} {ts : List Ty} (legible : ∀ d ∈ ds, d.Legible types)
    (stands : Descriptor.toTys ds = .ok ts) : AllReadable types ts := by
  induction ds generalizing ts with
  | nil =>
    cases stands
    exact .nil
  | cons d rest ih =>
    rw [List.forall_mem_cons] at legible
    obtain ⟨t, others, first, hothers, rfl⟩ := Descriptor.toTys_cons_eq_ok_iff.mp stands
    exact .cons (legible.1.readable first) (ih legible.2 hothers)

theorem fieldsReadable_of_toTys {fields : List (String × Descriptor)} {ts : List Ty}
    (legible : ∀ field ∈ fields, IsName field.1 ∧ field.2.Legible types)
    (stands : Descriptor.toTys (fields.map (·.2)) = .ok ts) : FieldsReadable types ((Table.keys fields).zip ts) := by
  induction fields generalizing ts with
  | nil => exact .nil
  | cons field rest ih =>
    rw [List.forall_mem_cons] at legible
    obtain ⟨t, others, first, hothers, rfl⟩ := Descriptor.toTys_cons_eq_ok_iff.mp stands
    exact .cons legible.1.1 (legible.1.2.readable first) (ih legible.2 hothers)

theorem readable_arrows {inputs : List Ty} {output : Ty} (h : AllReadable types (inputs ++ [output])) :
    Readable types (.arrows inputs output) := by
  induction inputs with
  | nil =>
    cases h with
    | cons readable _ => exact readable
  | cons input rest ih =>
    cases h with
    | cons readable others => exact .arrow readable (ih others)

/-- What a name applies to readable types is readable; the arrow and the list type by their own forms. -/
theorem readable_application (names : NamesConstructors types) {name : String} {item : Descriptor} {op : Operator}
    {ts : List Ty} (found : types.get? name = some item) (applies : Resolver.operatorOf? item = some op)
    (filled : ts.length = op.arity) (readable : AllReadable types ts) : Readable types (.operation op ts) := by
  obtain ⟨c, rfl, rfl, isTypeName, genuine⟩ := names.constructor name item found
  cases applies
  by_cases function : c = Builtin.function
  · subst function
    match ts, readable with
    | [input, output], .cons h (.cons h' .nil) => exact .arrow h h'
  by_cases array : c = Builtin.array
  · subst array
    match ts, readable with
    | [element], .cons h .nil => exact .array h
  exact .constructor (.of_found found isTypeName genuine function array) filled readable

end Legible

/-! ## Resolving gives legible descriptors -/

namespace Resolver

section Legible

variable {types : Table String Descriptor}

theorem legible_functionOf (names : NamesConstructors types) {ds : List Descriptor} {d : Descriptor}
    (legible : ∀ d ∈ ds, d.Legible types) (h : fresh (functionOf ds) = .ok d) : d.Legible types := by
  have unit : unitItem.Legible types := by
    obtain ⟨c, same, -, isTypeName, genuine⟩ := names.constructor _ _ names.unit
    cases same
    exact .operator names.unit isTypeName genuine
  obtain ⟨input, inputs, output, stands, rfl⟩ := fresh_functionOf_eq_ok_iff.mp h
  have readable := allReadable_of_toTys (forall_mem_padded unit legible) stands
  exact .type (@readable_arrows _ (input :: inputs) output readable)

/-- What is left out need not be legible. -/
theorem legible_cons (names : NamesConstructors types) {entry : Entry} {d : Descriptor} {others : List Descriptor}
    (first : fresh (resolve types entry) = .ok d) (legible : entry.kind ≠ .thunk → d.Legible types)
    (rest : ∀ d ∈ others, d.Legible types) : ∀ d' ∈ (if d.isThunk then others else d :: others), d'.Legible types := by
  rw [isThunk_of_resolve names.unmarked first]
  by_cases brackets : entry.kind = .thunk
  · rw [if_pos (decide_eq_true brackets)]
    exact rest
  · rw [if_neg (by simpa using brackets)]
    exact List.forall_mem_cons.mpr ⟨legible brackets, rest⟩

mutual

/-- What resolves against constructors is legible, if it keeps no empty brackets. -/
theorem legible_of_resolve (names : NamesConstructors types) {entry : Entry} {d : Descriptor} :
    IsTree entry → entry.kind ≠ .thunk → KeepsNone entry → fresh (resolve types entry) = .ok d → d.Legible types
  | @IsTree.constructor name params isName hs, _, keepsNone, h => by
    rw [fresh_resolve_constructor] at h
    split at h
    · have found := fresh_lookup_eq_ok_iff.mp h
      obtain ⟨c, rfl, rfl, isTypeName, genuine⟩ := names.constructor _ _ found
      exact .operator found isTypeName genuine
    · obtain ⟨ds, resolved, h⟩ := bind_eq_ok_iff.mp h
      obtain ⟨item, op, t, found, applies, -, applied, rfl⟩ := fresh_applyNamed_iff.mp h
      obtain ⟨ts, stands, filled, rfl⟩ := Operator.apply_eq_ok_iff.mp applied
      have legible := legible_of_resolveParams names hs keepsNone.children resolved
      exact .type (readable_application names found applies filled (allReadable_of_toTys legible stands))
  | .function hs, _, keepsNone, h => by
    rw [fresh_resolve_function] at h
    obtain ⟨ds, resolved, h⟩ := bind_eq_ok_iff.mp h
    exact legible_functionOf names (legible_of_resolveParams names hs keepsNone.children resolved) h
  | @IsTree.list element isTree, _, keepsNone, h => by
    rw [fresh_resolve_list] at h
    obtain ⟨item, resolved, h⟩ := bind_eq_ok_iff.mp h
    obtain ⟨t, stands, rfl⟩ := fresh_made_eq_ok_iff.mp h
    obtain ⟨notBrackets, below⟩ := keepsNone.element
    have legible := legible_of_resolve names isTree notBrackets below (fresh_resolveParam_eq_ok_iff.mp resolved).1
    exact .type (.array (legible.readable stands))
  | @IsTree.record entries hs, _, keepsNone, h => by
    rw [fresh_resolve_record] at h
    obtain ⟨items, resolved, h⟩ := bind_eq_ok_iff.mp h
    obtain ⟨t, built, rfl⟩ := fresh_made_eq_ok_iff.mp h
    obtain ⟨ts, stands, rfl⟩ := Descriptor.record_eq_ok_iff.mp built
    have legible := legible_of_resolveFields names hs keepsNone.children resolved
    have fields : ∀ field ∈ Table.ofList items, IsName field.1 ∧ field.2.Legible types :=
      fun field member => legible field (Table.mem_of_mem_ofList member)
    refine .type (.record ?_ (fieldsReadable_of_toTys fields stands))
    have sameLength : (Table.keys (Table.ofList items)).length = ts.length := by
      rw [Descriptor.length_of_toTys stands, Table.keys, List.length_map, List.length_map]
    rw [Table.keys, List.map_fst_zip (Nat.le_of_eq sameLength)]
    exact Table.nodup_keys_ofList items
  | @IsTree.var name isVarName, _, _, h => by
    rw [fresh_resolve_var] at h
    cases h
    exact .type (.var isVarName)
  | @IsTree.constrained name first others isVarName hs, _, keepsNone, h => by
    rw [fresh_resolve_constrained] at h
    obtain ⟨ds, resolved, h⟩ := bind_eq_ok_iff.mp h
    obtain ⟨op, isVariable, h⟩ := bind_eq_ok_iff.mp h
    obtain ⟨t, applied, rfl⟩ := fresh_made_eq_ok_iff.mp h
    obtain ⟨ts, stands, filled, rfl⟩ := Operator.apply_eq_ok_iff.mp applied
    obtain ⟨count, rfl⟩ := fresh_variableOperator_eq_ok_iff.mp isVariable
    have legible := legible_of_resolveParams names hs keepsNone.children resolved
    have positive : 1 ≤ min ds.length 2 := by omega
    exact .type (.constrained isVarName positive filled (allReadable_of_toTys legible stands))
  | .thunk, notBrackets, _, _ => absurd rfl notBrackets

theorem legible_of_resolveParams (names : NamesConstructors types) {entries : List Entry} {ds : List Descriptor} :
    AreTrees entries → (∀ entry ∈ entries, KeepsNone entry) → fresh (resolveParams types entries) = .ok ds →
      ∀ d ∈ ds, d.Legible types
  | .nil, _, h => by
    cases h
    exact nofun
  | @AreTrees.cons entry rest isTree areTrees, keepsNone, h => by
    rw [List.forall_mem_cons] at keepsNone
    obtain ⟨d, others, resolved, hothers, rfl⟩ := fresh_resolveParams_cons_eq_ok_iff.mp h
    have first := (fresh_resolveParam_eq_ok_iff.mp resolved).1
    exact legible_cons names first (fun notBrackets => legible_of_resolve names isTree notBrackets keepsNone.1 first)
      (legible_of_resolveParams names areTrees keepsNone.2 hothers)

theorem legible_of_resolveFields (names : NamesConstructors types) {entries : List Entry}
    {items : List (String × Descriptor)} : AreFields entries → (∀ entry ∈ entries, KeepsNone entry) →
      fresh (resolveFields types entries) = .ok items → ∀ item ∈ items, IsName item.1 ∧ item.2.Legible types
  | .nil, _, h => by
    cases h
    exact nofun
  | @AreFields.cons name type rest isName isTree areFields, keepsNone, h => by
    rw [List.forall_mem_cons] at keepsNone
    obtain ⟨d, others, resolved, hothers, rfl⟩ := fresh_resolveFields_cons_eq_ok_iff.mp h
    obtain ⟨notBrackets, below⟩ := keepsNone.1.field
    have legible := legible_of_resolve names isTree notBrackets below (fresh_resolveParam_eq_ok_iff.mp resolved).1
    exact List.forall_mem_cons.mpr ⟨⟨isName, legible⟩, legible_of_resolveFields names areFields keepsNone.2 hothers⟩

end

theorem legible_of_resolveAll (names : NamesConstructors types) {entries : List Entry} {ds : List Descriptor}
    (areTrees : AreTrees entries) (keepsNone : ∀ entry ∈ entries, KeepsNone entry)
    (h : fresh (resolveAll types entries) = .ok ds) : ∀ d ∈ ds, d.Legible types := by
  induction entries generalizing ds with
  | nil =>
    cases h
    exact nofun
  | cons entry rest ih =>
    cases areTrees with
    | cons isTree areTrees =>
      rw [List.forall_mem_cons] at keepsNone
      obtain ⟨d, others, first, hothers, rfl⟩ := fresh_resolveAll_cons_eq_ok_iff.mp h
      exact legible_cons names first
        (fun notBrackets => legible_of_resolve names isTree notBrackets keepsNone.1 first)
        (ih areTrees keepsNone.2 hothers)

/-- Each entry that is not empty brackets gives one descriptor. -/
theorem length_of_resolveAll (unmarked : Unmarked types) {entries : List Entry} {ds : List Descriptor}
    (h : fresh (resolveAll types entries) = .ok ds) : ds.length = (proper entries).length :=
  (forall₂_of_resolveAll unmarked h).length_eq.symm

end Legible

end Resolver

end HMSignature
