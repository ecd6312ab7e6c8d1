import HMSignature.Proofs.Grammar.Writing
import HMSignature.Resolution.Resolver
import Mathlib.Data.List.Nodup
/-!
# Types in writing

A type in writing has brackets where its tree needs them: around a function that is a parameter or an input, around an
application that is a parameter, and nowhere else. So its text is that of its tree.

Results:
1. `Readable.phrases`: the text of a type is that of its tree, in both forms;
2. `Constructor.Genuine.not_thunk`: a constructor that signatures name is not the mark of empty brackets.
-/

namespace HMSignature

open Grammar (Entry IsName IsTypeName IsVarName Reads)

/-! ## Readable types -/

/-- A constructor that is told apart by its identity: one with the identity of a built-in one is that one. -/
def Constructor.Genuine (c : Constructor) : Prop :=
  ∀ entry ∈ Builtin.table, c.id = entry.2.id → c = entry.2

theorem Builtin.genuine {name : String} {c : Constructor} (member : (name, c) ∈ Builtin.table) : c.Genuine := by
  intro other inTable same
  exact congrArg Prod.snd (List.inj_on_of_nodup_map Builtin.nodup_ids member inTable same)

/-- The name of the mark of empty brackets is not one token. -/
theorem Constructor.Genuine.not_thunk {c : Constructor} (genuine : c.Genuine) (isTypeName : IsTypeName c.name) :
    (Operator.constructor c).same (.constructor Builtin.thunk) = false := by
  refine beq_eq_false_iff_ne.mpr fun same => ?_
  have isThunk := genuine ("Thunk", Builtin.thunk) (by simp [Builtin.table]) same
  -- The mark is called by a path, and no name in a signature has a slash.
  have slash := isTypeName.1.2 '/' (by rw [isThunk]; decide)
  exact absurd slash (by decide)

/-- A constructor that signatures name: the name is one token, and stands for the constructor or for what it makes. -/
structure Constructor.Named (types : Table String Descriptor) (c : Constructor) : Prop where
  genuine : c.Genuine
  ne_function : c ≠ Builtin.function
  ne_array : c ≠ Builtin.array
  isTypeName : IsTypeName c.name
  known : types.get? c.name = some (.operator (.constructor c)) ∨
    ∃ params : List Ty, types.get? c.name = some (.type (.operation (.constructor c) params)) ∧
      params.length = c.extractors.length

mutual

/-- A type whose names can be read and are known. Its operators are filled, and the fields of its records have distinct
names. -/
inductive Readable (types : Table String Descriptor) : Ty → Prop
  | arrow {input output : Ty} : Readable types input → Readable types output → Readable types (.arrow input output)
  | array {element : Ty} : Readable types element → Readable types (.array element)
  | constructor {c : Constructor} {params : List Ty} :
      c.Named types → params.length = c.extractors.length → AllReadable types params →
      Readable types (.operation (.constructor c) params)
  | constrained {name : String} {arity : Nat} {bound : arity ≤ 2} {params : List Ty} :
      IsVarName name → 1 ≤ arity → params.length = arity → AllReadable types params →
      Readable types (.operation (.var name arity bound) params)
  | var {name : String} : IsVarName name → Readable types (.var name)
  | record {fields : List (String × Ty)} :
      (Table.keys fields).Nodup → FieldsReadable types fields → Readable types (.record fields)

inductive AllReadable (types : Table String Descriptor) : List Ty → Prop
  | nil : AllReadable types []
  | cons {t : Ty} {rest : List Ty} : Readable types t → AllReadable types rest → AllReadable types (t :: rest)

inductive FieldsReadable (types : Table String Descriptor) : List (String × Ty) → Prop
  | nil : FieldsReadable types []
  | cons {name : String} {t : Ty} {rest : List (String × Ty)} :
      IsName name → Readable types t → FieldsReadable types rest → FieldsReadable types ((name, t) :: rest)

end

/-! ## Trees of types -/

/-- An operator applied, as a node. -/
def Operator.node : Operator → List Entry → Entry
  | constructor c, params => .constructor c.name params
  | var name _ _, params => .constrained name params

namespace Ty

mutual

/-- The top-level entries of a type: the segments of a function, or else the tree of the type alone. -/
def segments : Ty → List Entry
  | var name => [.var name]
  | record fields => [.record (fieldNodes fields)]
  | operation op [] => [op.node []]
  | operation op [param] =>
      if op.isArray then [.list (.joined (segments param))] else [op.node [.joined (segments param)]]
  | operation op [first, second] =>
      if op.isArrow then .joined (segments first) :: segments second
      else [op.node [.joined (segments first), .joined (segments second)]]
  | operation op params => [op.node (trees params)]

/-- The trees of types. -/
def trees : List Ty → List Entry
  | [] => []
  | t :: rest => .joined (segments t) :: trees rest

/-- The nodes of fields. -/
def fieldNodes : List (String × Ty) → List Entry
  | [] => []
  | (name, t) :: rest => .field name (.joined (segments t)) :: fieldNodes rest

end

/-- The tree that a type is read back as. -/
def tree (t : Ty) : Entry :=
  .joined (segments t)

theorem segments_ne_nil (t : Ty) : t.segments ≠ [] := by
  match t with
  | var name => exact List.cons_ne_nil _ _
  | record fields => exact List.cons_ne_nil _ _
  | operation op [] => exact List.cons_ne_nil _ _
  | operation op [param] =>
    rw [segments]
    split <;> exact List.cons_ne_nil _ _
  | operation op [first, second] =>
    rw [segments]
    split <;> exact List.cons_ne_nil _ _
  | operation op (first :: second :: third :: others) => exact List.cons_ne_nil _ _

/-- The segments of the output follow the input. -/
theorem tree_arrow (input output : Ty) : (arrow input output).tree = .function (input.tree :: output.segments) := by
  show Entry.joined (input.tree :: output.segments) = _
  cases segments : output.segments with
  | nil => exact absurd segments output.segments_ne_nil
  | cons second others => rfl

end Ty

/-! ## The text of a type is that of its tree -/

section Phrases

variable {types : Table String Descriptor}

/-- What the two forms of the text of a type are read as. Only a function cannot be an application by itself. -/
structure Phrases (t : Ty) : Prop where
  nested : Reads Grammar.AtomAt (t.text true) t.tree
  application : t.isFunction = false → Reads Grammar.ApplicationAt (t.text false) t.tree
  segments : Reads Grammar.AllSegmentsAt (t.text false) t.segments

theorem Phrases.of_atom {t : Ty} (single : t.segments = [t.tree]) (nested : Reads Grammar.AtomAt (t.text true) t.tree)
    (plain : t.text false = t.text true) : Phrases t := by
  have bare := nested.bare
  rw [← plain] at bare
  exact ⟨nested, fun _ => bare, single ▸ bare.lastSegment⟩

/-- A text that needs brackets as a parameter. -/
theorem Phrases.of_application {t : Ty} (single : t.segments = [t.tree])
    (application : Reads Grammar.ApplicationAt (t.text false) t.tree)
    (brackets : t.text true = "(" ++ t.text false ++ ")") : Phrases t := by
  have type := application.lastSegment.type
  refine ⟨?_, fun _ => application, single ▸ application.lastSegment⟩
  rw [brackets]
  exact type.bracketed

theorem Phrases.type {t : Ty} (h : Phrases t) (nested : Bool) : Reads Grammar.TypeAt (t.text nested) t.tree := by
  cases nested with
  | false => exact h.segments.type
  | true => exact h.nested.bare.lastSegment.type

theorem phrases_var {name : String} (h : IsVarName name) : Phrases (.var name) :=
  .of_atom rfl (.lower h) rfl

theorem phrases_array {element : Ty} (h : Phrases element) : Phrases (.array element) :=
  .of_atom rfl h.segments.type.list rfl

/-- As a segment only a function needs brackets, since an application ends at the arrow. -/
theorem Phrases.segment {t : Ty} (h : Phrases t) :
    Reads Grammar.ApplicationAt (Ty.bracketed t.isFunction (t.text false)) t.tree := by
  cases function : t.isFunction with
  | true => exact h.segments.type.bracketed.bare
  | false => exact h.application function

theorem phrases_arrow {input output : Ty} (h : Phrases input) (h' : Phrases output) : Phrases (.arrow input output) := by
  have segments := h.segment.moreSegments h'.segments
  exact ⟨segments.type.bracketed, nofun, segments⟩

/-- The fields of a record that has some. -/
theorem phrases_record {fields : List (String × Ty)}
    (h : fields ≠ [] → Reads Grammar.AllFieldsAt (", ".intercalate (Ty.fieldTexts fields)) (Ty.fieldNodes fields)) :
    Phrases (.record fields) := by
  cases fields with
  | nil => exact .of_atom rfl .emptyRecord rfl
  | cons field rest => exact .of_atom rfl (h (List.cons_ne_nil _ _)).record rfl

/-- The operator stands in front of its parameters in writing. -/
structure Prefixed (op : Operator) : Prop where
  notArrow : op.isArrow = false
  notArray : op.isArray = false
  reads : ∀ {text : String} {first : Entry} {others : List Entry}, Reads Grammar.AtomsAt text (first :: others) →
    Reads Grammar.ApplicationAt (op.name ++ " " ++ text) (op.node (first :: others))

theorem segments_application {op : Operator} (prefixed : Prefixed op) (params : List Ty) :
    (Ty.operation op params).segments = [op.node (Ty.trees params)] := by
  match params with
  | [] => rfl
  | [param] =>
    rw [Ty.segments, prefixed.notArray]
    rfl
  | [first, second] =>
    rw [Ty.segments, prefixed.notArrow]
    rfl
  | first :: second :: third :: others => rfl

theorem tree_application {op : Operator} (prefixed : Prefixed op) (params : List Ty) :
    (Ty.operation op params).tree = op.node (Ty.trees params) := by
  rw [Ty.tree, segments_application prefixed]
  rfl

/-- An application is a single top-level entry. -/
theorem segments_eq_tree {op : Operator} (prefixed : Prefixed op) (params : List Ty) :
    (Ty.operation op params).segments = [(Ty.operation op params).tree] := by
  rw [tree_application prefixed, segments_application prefixed]

/-- An application in writing has its parameters in their nested form, and brackets where it is nested itself. -/
theorem phrases_application {op : Operator} (prefixed : Prefixed op) {params : List Ty} (nonempty : params ≠ [])
    (atMostTwo : params.length ≤ 2) (h : ∀ t ∈ params, Phrases t) : Phrases (.operation op params) := by
  have single := segments_eq_tree prefixed params
  match params with
  | [] => exact absurd rfl nonempty
  | [param] =>
    have reads := (h param List.mem_cons_self).nested.param
    have written (nested : Bool) : (Ty.operation op [param]).text nested =
        Ty.bracketed nested (op.name ++ " " ++ param.text true) := by
      rw [Ty.text, prefixed.notArray]
      rfl
    refine .of_application single ?_ ?_
    · rw [tree_application prefixed, written false]
      exact prefixed.reads reads
    · rw [written true, written false]
      rfl
  | [first, second] =>
    have reads := (h first List.mem_cons_self).nested.params (h second (by simp)).nested.param
    have written (nested : Bool) : (Ty.operation op [first, second]).text nested =
        Ty.bracketed nested (op.name ++ " " ++ (first.text true ++ " " ++ second.text true)) := by
      rw [Ty.text, prefixed.notArrow, ← String.append_assoc, ← String.append_assoc]
      rfl
    refine .of_application single ?_ ?_
    · rw [tree_application prefixed, written false]
      exact prefixed.reads reads
    · rw [written true, written false]
      rfl
  | first :: second :: third :: others => simp at atMostTwo

namespace Constructor.Named

variable {c : Constructor}

theorem isArrow (h : c.Named types) : (Operator.constructor c).isArrow = false := by
  refine beq_eq_false_iff_ne.mpr fun same => ?_
  exact h.ne_function (h.genuine ("Function", Builtin.function) (by simp [Builtin.table]) same)

theorem isArray (h : c.Named types) : (Operator.constructor c).isArray = false := by
  refine beq_eq_false_iff_ne.mpr fun same => ?_
  exact h.ne_array (h.genuine ("Array", Builtin.array) (by simp [Builtin.table]) same)

theorem not_thunk (h : c.Named types) : (Operator.constructor c).same (.constructor Builtin.thunk) = false :=
  h.genuine.not_thunk h.isTypeName

theorem isThunk_operation (h : c.Named types) {params : List Ty} :
    (Descriptor.type (.operation (.constructor c) params)).isThunk = false := by
  show ((Operator.constructor c).same (.constructor Builtin.thunk) && Ty.sameAll params []) = false
  rw [h.not_thunk, Bool.false_and]

theorem prefixed (h : c.Named types) : Prefixed (.constructor c) :=
  ⟨h.isArrow, h.isArray, fun params => .constructor h.isTypeName params⟩

end Constructor.Named

theorem prefixed_var {name : String} (h : IsVarName name) (arity : Nat) (bound : arity ≤ 2) :
    Prefixed (.var name arity bound) :=
  ⟨rfl, rfl, fun params => .constrained h params⟩

theorem phrases_constructor {c : Constructor} {params : List Ty} (named : c.Named types)
    (filled : params.length = c.extractors.length) (h : ∀ t ∈ params, Phrases t) :
    Phrases (.operation (.constructor c) params) := by
  cases params with
  | nil => exact .of_atom rfl (.upper named.isTypeName) rfl
  | cons first others =>
    exact phrases_application named.prefixed (List.cons_ne_nil _ _) (filled ▸ c.arity_le) h

mutual

/-- The text of a readable type is that of its tree. -/
theorem Readable.phrases {t : Ty} : Readable types t → Phrases t
  | .arrow h h' => phrases_arrow h.phrases h'.phrases
  | .array h => phrases_array h.phrases
  | .constructor named filled hs => phrases_constructor named filled hs.phrases
  | @Readable.constrained _ _ _ bound _ isName positive filled hs =>
    phrases_application (prefixed_var isName _ bound) (List.ne_nil_of_length_pos (filled ▸ positive)) (filled ▸ bound)
      hs.phrases
  | .var h => phrases_var h
  | .record _ hs => phrases_record hs.reads

theorem AllReadable.phrases {ts : List Ty} : AllReadable types ts → ∀ t ∈ ts, Phrases t
  | .nil => nofun
  | .cons h hs => List.forall_mem_cons.mpr ⟨h.phrases, hs.phrases⟩

theorem FieldsReadable.reads {fields : List (String × Ty)} : FieldsReadable types fields → fields ≠ [] →
    Reads Grammar.AllFieldsAt (", ".intercalate (Ty.fieldTexts fields)) (Ty.fieldNodes fields)
  | .nil, nonempty => absurd rfl nonempty
  | @FieldsReadable.cons _ name t rest isName h hs, _ => by
    have first := h.phrases.segments.type.field isName
    have others := hs.reads
    cases rest with
    | nil => exact first.lastField
    | cons field more =>
      obtain ⟨name', t'⟩ := field
      have whole := first.moreFields (others (List.cons_ne_nil _ _))
      rw [Ty.fieldTexts, ← String.intercalate_cons_cons] at whole
      exact whole

end

end Phrases

end HMSignature
