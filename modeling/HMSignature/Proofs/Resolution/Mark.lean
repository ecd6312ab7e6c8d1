import HMSignature.Proofs.Descriptor.Mention
import HMSignature.Proofs.Resolution.Inversion
import Mathlib.Data.List.Forall2
/-!
# Where the mark of empty brackets stays

Empty brackets resolve to a mark. Among parameters, segments and top-level entries it is left out again, but the element
of a list and the type of a field are taken as they are: there the mark becomes a part of the type.

Results:
1. `isThunk_of_resolve`: only empty brackets resolve to the mark itself;
2. `mentions_of_resolve`: what a tree resolves to has the mark in it exactly if the tree keeps it;
3. `mark_survives_iff`: so do the types of a signature. Without empty brackets in lists and fields there is none.
-/

namespace HMSignature

open Grammar (Entry Kind IsTree AreTrees AreFields)

/-- The mark of empty brackets. -/
abbrev Builtin.mark : Operator := .constructor Builtin.thunk

namespace Resolver

/-! ## What resolves to the mark -/

/-- A table in which no name stands for the mark, and nothing that a name applies makes it. -/
structure Unmarked (types : Table String Descriptor) : Prop where
  named : ∀ (name : String) (item : Descriptor), types.get? name = some item → item.isThunk = false
  applied : ∀ (name : String) (item : Descriptor) (op : Operator) (params : List Ty), types.get? name = some item →
    operatorOf? item = some op → op.arity = params.length → (Descriptor.type (.operation op params)).isThunk = false

theorem unmarked_types {environment : List Descriptor} (unmarked : ∀ item ∈ environment, item.Unmarked) :
    Unmarked (Environment.types environment) := by
  constructor
  · intro name item found
    exact (unmarked item (Environment.mem_of_get? found).1).isThunk
  · intro name item op params found applies filled
    exact isThunk_application (unmarked item (Environment.mem_of_get? found).1) applies filled

section Mark

variable {types : Table String Descriptor}

theorem isThunk_of_functionOf {ds : List Descriptor} {d : Descriptor} (h : fresh (functionOf ds) = .ok d) :
    d.isThunk = false := by
  obtain ⟨input, inputs, output, -, rfl⟩ := fresh_functionOf_eq_ok_iff.mp h
  rfl

/-- Of all nodes only empty brackets resolve to the mark. -/
theorem isThunk_of_resolveAs (unmarked : Unmarked types) {kind : Kind} {entry : Entry} {d : Descriptor}
    (h : fresh (resolveAs types kind entry) = .ok d) : d.isThunk = decide (kind = .thunk) := by
  obtain ⟨_, text, children⟩ := entry
  cases makes_of_resolveAs h with
  | name found => exact unmarked.named text d found
  | @applied ds item op t _ found applies _ applied =>
    obtain ⟨ts, -, filled, rfl⟩ := Operator.apply_eq_ok_iff.mp applied
    exact unmarked.applied text item op ts found applies filled.symm
  | function _ built => exact isThunk_of_functionOf built
  | list _ _ _ => rfl
  | record _ built =>
    obtain ⟨ts, -, rfl⟩ := Descriptor.record_eq_ok_iff.mp built
    rfl
  | var => rfl
  | constrained _ _ applied =>
    obtain ⟨ts, -, -, rfl⟩ := Operator.apply_eq_ok_iff.mp applied
    rfl
  | thunk => rfl

theorem isThunk_of_resolve (unmarked : Unmarked types) {entry : Entry} {d : Descriptor}
    (h : fresh (resolve types entry) = .ok d) : d.isThunk = decide (entry.kind = .thunk) :=
  isThunk_of_resolveAs unmarked h

/-- Top-level entries resolve one by one, and those that are empty brackets are left out. -/
theorem forall₂_of_resolveAll (unmarked : Unmarked types) {entries : List Entry} {ds : List Descriptor}
    (h : fresh (resolveAll types entries) = .ok ds) :
    List.Forall₂ (fun entry d => fresh (resolve types entry) = .ok d) (proper entries) ds := by
  induction entries generalizing ds with
  | nil =>
    cases h
    exact .nil
  | cons entry rest ih =>
    obtain ⟨d, others, first, hothers, rfl⟩ := fresh_resolveAll_cons_eq_ok_iff.mp h
    rw [isThunk_of_resolve unmarked first, proper_cons]
    simp only [decide_eq_true_eq]
    split
    · exact ih hothers
    · exact .cons first (ih hothers)

end Mark

/-! ## Where a tree keeps the mark -/

mutual

/-- What the tree stands for has the mark in it: it is empty brackets, or keeps some. Of several fields with one name
the last one counts. -/
def hasMark : Entry → Bool
  | .node kind _ children =>
      match kind with
      | .constructor => anyHasMark children
      | .function => anyHasMark children
      | .list => elementHasMark children
      | .record => (Table.ofList (fieldMarks children)).any (·.2)
      | .constrained => anyHasMark children
      | .thunk => true
      | _ => false

/-- What is left of the entries has the mark in it, when those that are empty brackets are left out. -/
def anyHasMark : List Entry → Bool
  | [] => false
  | entry :: rest => (entry.kind ≠ .thunk && hasMark entry) || anyHasMark rest

/-- The element of a list, which is not left out. -/
def elementHasMark : List Entry → Bool
  | [] => false
  | entry :: _ => hasMark entry

/-- The types of fields by name, which are not left out. -/
def fieldMarks : List Entry → List (String × Bool)
  | [] => []
  | .node _ _ [] :: rest => fieldMarks rest
  | .node _ name (type :: _) :: rest => (name, hasMark type) :: fieldMarks rest

end

/-- No item of the table has the mark in it. -/
def MarkFree (types : Table String Descriptor) : Prop :=
  ∀ (name : String) (item : Descriptor), types.get? name = some item → item.mentions Builtin.mark = false

theorem markFree_types {environment : List Descriptor}
    (free : ∀ item ∈ environment, item.mentions Builtin.mark = false) : MarkFree (Environment.types environment) :=
  fun _ item found => free item (Environment.mem_of_get? found).1

theorem isThunk_of_mentions {d : Descriptor} (absent : d.mentions Builtin.mark = false) : d.isThunk = false := by
  cases d with
  | operator op => exact absent
  | type t =>
    cases t with
    | operation op params =>
      change (op.same Builtin.mark || Ty.anyMentions Builtin.mark params) = false at absent
      show (op.same Builtin.mark && Ty.sameAll params []) = false
      rw [(Bool.or_eq_false_iff.mp absent).1, Bool.false_and]
    | var name => rfl
    | record fields => rfl

theorem same_mark_of_operatorOf? {item : Descriptor} {op : Operator} (absent : item.mentions Builtin.mark = false)
    (applies : operatorOf? item = some op) : op.same Builtin.mark = false := by
  cases item with
  | operator own =>
    cases applies
    exact absent
  | type t =>
    cases t with
    | operation own params =>
      cases applies
      exact (Bool.or_eq_false_iff.mp absent).1
    | var name => cases applies
    | record fields => cases applies

section Mentions

variable {types : Table String Descriptor}

theorem MarkFree.unmarked (free : MarkFree types) : Unmarked types := by
  constructor
  · intro name item found
    exact isThunk_of_mentions (free name item found)
  · intro name item op params found applies _
    show (op.same Builtin.mark && Ty.sameAll params []) = false
    rw [same_mark_of_operatorOf? (free name item found) applies, Bool.false_and]

theorem mentions_of_functionOf {ds : List Descriptor} {d : Descriptor} (h : fresh (functionOf ds) = .ok d) :
    d.mentions Builtin.mark = ds.any (Descriptor.mentions Builtin.mark) := by
  obtain ⟨input, inputs, output, stands, rfl⟩ := fresh_functionOf_eq_ok_iff.mp h
  -- The unit type, which stands for what is missing, is not the mark.
  rw [← any_padded rfl ds, ← Descriptor.any_mentions_of_toTys stands]
  show (Ty.arrows (input :: inputs) output).mentions Builtin.mark = (input :: inputs ++ [output]).any _
  exact Ty.mentions_arrows rfl (input :: inputs) output

/-- Parameters resolve to what is left of them. -/
theorem any_mentions_cons {entry : Entry} {d : Descriptor} {rest : List Entry} {ds : List Descriptor}
    (mark : d.isThunk = decide (entry.kind = .thunk)) (first : d.mentions Builtin.mark = hasMark entry)
    (others : ds.any (Descriptor.mentions Builtin.mark) = anyHasMark rest) :
    (if d.isThunk then ds else d :: ds).any (Descriptor.mentions Builtin.mark) = anyHasMark (entry :: rest) := by
  rw [mark, anyHasMark]
  by_cases brackets : entry.kind = .thunk
  · simp [brackets, others]
  · simp [brackets, others, first]

mutual

/-- What a tree resolves to has the mark in it exactly if the tree keeps it. -/
theorem mentions_of_resolve (free : MarkFree types) {entry : Entry} {d : Descriptor} :
    IsTree entry → fresh (resolve types entry) = .ok d → d.mentions Builtin.mark = hasMark entry
  | @IsTree.constructor name params _ hs, h => by
    rw [fresh_resolve_constructor] at h
    split at h
    · rename_i noParams
      rw [List.isEmpty_iff.mp noParams]
      exact free name d (fresh_lookup_eq_ok_iff.mp h)
    · obtain ⟨ds, resolved, h⟩ := bind_eq_ok_iff.mp h
      obtain ⟨item, op, t, found, applies, -, applied, rfl⟩ := fresh_applyNamed_iff.mp h
      show t.mentions Builtin.mark = anyHasMark params
      rw [Descriptor.mentions_of_apply applied, same_mark_of_operatorOf? (free name item found) applies, Bool.false_or]
      exact any_mentions_of_resolveParams free hs resolved
  | .function hs, h => by
    rw [fresh_resolve_function] at h
    obtain ⟨ds, resolved, h⟩ := bind_eq_ok_iff.mp h
    exact (mentions_of_functionOf h).trans (any_mentions_of_resolveParams free hs resolved)
  | @IsTree.list element isTree, h => by
    rw [fresh_resolve_list] at h
    obtain ⟨item, resolved, h⟩ := bind_eq_ok_iff.mp h
    obtain ⟨t, stands, rfl⟩ := fresh_made_eq_ok_iff.mp h
    have inElement := mentions_of_resolve free isTree (fresh_resolveParam_eq_ok_iff.mp resolved).1
    show ((Operator.constructor Builtin.array).same Builtin.mark || (t.mentions Builtin.mark || false)) =
      hasMark element
    rw [Descriptor.mentions_of_toTy stands, inElement, Bool.or_false]
    rfl
  | @IsTree.record entries hs, h => by
    rw [fresh_resolve_record] at h
    obtain ⟨items, resolved, h⟩ := bind_eq_ok_iff.mp h
    obtain ⟨t, built, rfl⟩ := fresh_made_eq_ok_iff.mp h
    have marks := fieldMarks_of_resolveFields free hs resolved
    show t.mentions Builtin.mark = (Table.ofList (fieldMarks entries)).any (·.2)
    -- Whether a field has the mark can be asked before the fields with one name are put together or after.
    rw [Descriptor.mentions_of_record built, ← marks, ← Table.map_ofList, List.any_map]
    rfl
  | .var _, h => by
    rw [fresh_resolve_var] at h
    cases h
    rfl
  | @IsTree.constrained name first others _ hs, h => by
    rw [fresh_resolve_constrained] at h
    obtain ⟨ds, resolved, h⟩ := bind_eq_ok_iff.mp h
    obtain ⟨op, isVariable, h⟩ := bind_eq_ok_iff.mp h
    obtain ⟨t, applied, rfl⟩ := fresh_made_eq_ok_iff.mp h
    obtain ⟨-, rfl⟩ := fresh_variableOperator_eq_ok_iff.mp isVariable
    exact (Descriptor.mentions_of_apply applied).trans (any_mentions_of_resolveParams free hs resolved)
  | .thunk, h => by
    cases h
    rfl

theorem any_mentions_of_resolveParams (free : MarkFree types) {entries : List Entry} {ds : List Descriptor} :
    AreTrees entries → fresh (resolveParams types entries) = .ok ds →
      ds.any (Descriptor.mentions Builtin.mark) = anyHasMark entries
  | .nil, h => by
    cases h
    rfl
  | .cons isTree areTrees, h => by
    obtain ⟨d, others, resolved, hothers, rfl⟩ := fresh_resolveParams_cons_eq_ok_iff.mp h
    have first := (fresh_resolveParam_eq_ok_iff.mp resolved).1
    exact any_mentions_cons (isThunk_of_resolve free.unmarked first) (mentions_of_resolve free isTree first)
      (any_mentions_of_resolveParams free areTrees hothers)

theorem fieldMarks_of_resolveFields (free : MarkFree types) {entries : List Entry}
    {items : List (String × Descriptor)} : AreFields entries → fresh (resolveFields types entries) = .ok items →
      items.map (fun item => (item.1, item.2.mentions Builtin.mark)) = fieldMarks entries
  | .nil, h => by
    cases h
    rfl
  | .cons _ isTree areFields, h => by
    obtain ⟨d, others, resolved, hothers, rfl⟩ := fresh_resolveFields_cons_eq_ok_iff.mp h
    have first := mentions_of_resolve free isTree (fresh_resolveParam_eq_ok_iff.mp resolved).1
    rw [List.map_cons, first, fieldMarks_of_resolveFields free areFields hothers]
    rfl

end

theorem any_mentions_of_resolveAll (free : MarkFree types) {entries : List Entry} {ds : List Descriptor}
    (areTrees : AreTrees entries) (h : fresh (resolveAll types entries) = .ok ds) :
    ds.any (Descriptor.mentions Builtin.mark) = anyHasMark entries := by
  induction entries generalizing ds with
  | nil =>
    cases h
    rfl
  | cons entry rest ih =>
    cases areTrees with
    | cons isTree areTrees =>
      obtain ⟨d, others, first, hothers, rfl⟩ := fresh_resolveAll_cons_eq_ok_iff.mp h
      exact any_mentions_cons (isThunk_of_resolve free.unmarked first) (mentions_of_resolve free isTree first)
        (ih areTrees hothers)

end Mentions

/-! ## Trees that keep no empty brackets -/

/-- A list and a field have something else in them than empty brackets. -/
def NodeKeepsNone (node : Entry) : Prop :=
  node.kind = .list ∨ node.kind = .field → ∀ child ∈ node.children, child.kind ≠ .thunk

/-- No node of the tree keeps empty brackets. -/
def KeepsNone (entry : Entry) : Prop :=
  ∀ node ∈ nodes entry, NodeKeepsNone node

instance (node : Entry) : Decidable (NodeKeepsNone node) :=
  inferInstanceAs (Decidable (_ → _))

instance (entry : Entry) : Decidable (KeepsNone entry) :=
  inferInstanceAs (Decidable (∀ node ∈ nodes entry, NodeKeepsNone node))

theorem keepsNone_iff_children {entry : Entry} :
    KeepsNone entry ↔ NodeKeepsNone entry ∧ ∀ child ∈ entry.children, KeepsNone child := by
  unfold KeepsNone
  rw [nodes_eq, List.forall_mem_cons, forall_nodesOf]
  refine and_congr_right fun _ => forall₂_congr fun child _ => ?_
  rw [nodes_eq, List.forall_mem_cons]

theorem KeepsNone.children {entry : Entry} (h : KeepsNone entry) : ∀ child ∈ entry.children, KeepsNone child :=
  (keepsNone_iff_children.mp h).2

theorem KeepsNone.element {element : Entry} (h : KeepsNone (.list element)) :
    element.kind ≠ .thunk ∧ KeepsNone element := by
  obtain ⟨here, below⟩ := keepsNone_iff_children.mp h
  exact ⟨here (.inl rfl) element List.mem_cons_self, below element List.mem_cons_self⟩

theorem KeepsNone.field {name : String} {type : Entry} (h : KeepsNone (.field name type)) :
    type.kind ≠ .thunk ∧ KeepsNone type := by
  obtain ⟨here, below⟩ := keepsNone_iff_children.mp h
  exact ⟨here (.inr rfl) type List.mem_cons_self, below type List.mem_cons_self⟩

mutual

theorem hasMark_of_keepsNone {entry : Entry} :
    IsTree entry → KeepsNone entry → hasMark entry = decide (entry.kind = .thunk)
  | .constructor _ hs, h => anyHasMark_of_keepsNone hs h.children
  | .function hs, h => anyHasMark_of_keepsNone hs h.children
  | @IsTree.list element isTree, h => by
    show hasMark element = false
    rw [hasMark_of_keepsNone isTree h.element.2]
    exact decide_eq_false h.element.1
  | @IsTree.record entries hs, h => by
    show (Table.ofList (fieldMarks entries)).any (·.2) = false
    rw [List.any_eq_false]
    intro field member
    have absent := fieldMarks_of_keepsNone hs h.children field (Table.mem_of_mem_ofList member)
    rw [absent]
    exact Bool.false_ne_true
  | .var _, _ => rfl
  | .constrained _ hs, h => anyHasMark_of_keepsNone hs h.children
  | .thunk, _ => rfl

theorem anyHasMark_of_keepsNone {entries : List Entry} :
    AreTrees entries → (∀ entry ∈ entries, KeepsNone entry) → anyHasMark entries = false
  | .nil, _ => rfl
  | @AreTrees.cons entry rest isTree areTrees, h => by
    rw [List.forall_mem_cons] at h
    rw [anyHasMark, hasMark_of_keepsNone isTree h.1, anyHasMark_of_keepsNone areTrees h.2, Bool.or_false]
    by_cases brackets : entry.kind = .thunk <;> simp [brackets]

theorem fieldMarks_of_keepsNone {entries : List Entry} :
    AreFields entries → (∀ entry ∈ entries, KeepsNone entry) → ∀ field ∈ fieldMarks entries, field.2 = false
  | .nil, _ => nofun
  | @AreFields.cons name type rest _ isTree areFields, h => by
    rw [List.forall_mem_cons] at h
    have first : hasMark type = false := by
      rw [hasMark_of_keepsNone isTree h.1.field.2]
      exact decide_eq_false h.1.field.1
    show ∀ field ∈ (name, hasMark type) :: fieldMarks rest, field.2 = false
    exact List.forall_mem_cons.mpr ⟨first, fieldMarks_of_keepsNone areFields h.2⟩

end

end Resolver

/-! ## Signatures -/

namespace Resolution

open Grammar (Signature)

/-- The mark of empty brackets becomes a part of the types of a signature exactly where its tree keeps it: as the
element of a list or as the type of a field that no later field of the same name replaces. If no list and no field has
empty brackets in it, then the mark is in none of the types, at any depth. -/
theorem mark_survives_iff (classes : List TypeClass) (environment : List Descriptor) (text : String) (s : Signature)
    (r : Resolution) (free : ∀ item ∈ environment, item.mentions Builtin.mark = false)
    (parsed : Grammar.parse text = .ok s) (resolved : ofText classes environment text = .ok r) :
    ((∃ d ∈ r.types, d.mentions Builtin.mark = true) ↔ Resolver.anyHasMark s.entries = true) ∧
    ((∀ entry ∈ s.entries, Resolver.KeepsNone entry) → ∀ d ∈ r.types, d.mentions Builtin.mark = false) := by
  have areTrees : AreTrees s.entries := (Grammar.isTree_of_parse parsed).entries
  have mentioned := Resolver.any_mentions_of_resolveAll (Resolver.markFree_types free) areTrees
    ((ofText_eq_ok_iff parsed).mp resolved).2.1
  constructor
  · rw [← mentioned, List.any_eq_true]
  · intro none d member
    rw [Resolver.anyHasMark_of_keepsNone areTrees none, List.any_eq_false] at mentioned
    exact Bool.eq_false_iff.mpr (mentioned d member)

theorem default_without_mark : ∀ item ∈ Environment.default, item.mentions Builtin.mark = false := by
  decide

theorem mark_survives_iff_ask :
    ∃ r, ofText [] Environment.default "ask :: (() -> [a]) -> StrMap a -> ()" = .ok r ∧ r.types.length = 2 ∧
      ∀ d ∈ r.types, d.mentions Builtin.mark = false := by
  have parsed : Grammar.parse "ask :: (() -> [a]) -> StrMap a -> ()" =
      .ok ⟨"ask", [], .function [.function [.thunk, .list (.var "a")], .constructor "StrMap" [.var "a"], .thunk]⟩ := by
    refine Grammar.parse_eq_ok_iff.mpr
      ⟨[.name "ask", .symbol "::", .opening .round, .opening .round, .closing .round, .symbol "->", .opening .square,
        .name "a", .closing .square, .closing .round, .symbol "->", .name "StrMap", .name "a", .symbol "->",
        .opening .round, .closing .round], by rfl, .free ?_⟩
    have a (rest : List Grammar.Token) : Grammar.AtomAt (.name "a" :: rest) (.var "a") rest := .lower (by decide)
    have map (rest : List Grammar.Token) : Grammar.AtomAt (.name "StrMap" :: rest) (.constructor "StrMap" []) rest :=
      .upper (by decide)
    exact .function
      (.bare (.bracketed (.function (.bare .thunk) (.more (.bare (.list (.single (.bare (a _))))) .none))))
      (.more (.upper (map _) (.more (a _) .none)) (.more (.bare .thunk) .none))
  have resolved : ofText [] Environment.default "ask :: (() -> [a]) -> StrMap a -> ()" =
      .ok ⟨"ask", [], [.type (.arrow .unit (.array (.var "a"))),
        .type (.operation (.constructor Builtin.textMap) [.var "a"])]⟩ :=
    (ofText_eq_ok_iff parsed).mpr ⟨rfl, rfl, rfl⟩
  exact ⟨_, resolved, rfl, (mark_survives_iff _ _ _ _ _ default_without_mark parsed resolved).2 (by decide)⟩

/-- The brackets in a list stay as the mark, though no type of the environment mentions it. -/
theorem mark_survives_in_list :
    (∀ item ∈ Environment.default, item.mentions Builtin.mark = false) ∧
    ∃ r, ofText [] Environment.default "f :: [()] -> Number" = .ok r ∧
      ∃ d ∈ r.types, d.mentions Builtin.mark = true := by
  have parsed : Grammar.parse "f :: [()] -> Number" =
      .ok ⟨"f", [], .function [.list .thunk, .constructor "Number" []]⟩ := by
    refine Grammar.parse_eq_ok_iff.mpr
      ⟨[.name "f", .symbol "::", .opening .square, .opening .round, .closing .round, .closing .square, .symbol "->",
        .name "Number"], by rfl, .free ?_⟩
    exact .function (.bare (.list (.single (.bare .thunk)))) (.more (.bare (.upper (by decide))) .none)
  have resolved : ofText [] Environment.default "f :: [()] -> Number" =
      .ok ⟨"f", [], [.type (.array (.operation Builtin.mark [])), .operator (.constructor Builtin.number)]⟩ :=
    (ofText_eq_ok_iff parsed).mpr ⟨rfl, rfl, rfl⟩
  exact ⟨default_without_mark, _, resolved, _, List.mem_cons_self, by decide⟩

end Resolution

end HMSignature
