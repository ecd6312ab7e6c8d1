import HMSignature.Proofs.Grammar.Completeness
/-!
# The shape of the trees

Every kind of node has its own shape: a list has one element, a record holds fields and nothing else does, a variable
is a leaf, and names are capitalized exactly where they name types. What derives from a text is of this shape.

Results:
1. `TypeAt.isTree`: the tree of a type that is read is well formed;
2. `isTree_of_parse`: so is the tree of every signature;
3. `areConstraints_of_parse`: and so are its constraints.
-/

namespace HMSignature.Grammar

/-- The name of a type. -/
def IsTypeName (name : String) : Prop := IsName name ∧ isCapitalized name = true

/-- The name of a variable. -/
def IsVarName (name : String) : Prop := IsName name ∧ isCapitalized name = false

instance (name : String) : Decidable (IsTypeName name) :=
  inferInstanceAs (Decidable (_ ∧ _))

instance (name : String) : Decidable (IsVarName name) :=
  inferInstanceAs (Decidable (_ ∧ _))

mutual

/-- A well-formed tree. -/
inductive IsTree : Entry → Prop
  | constructor {name : String} {params : List Entry} :
      IsTypeName name → AreTrees params → IsTree (.constructor name params)
  | function {first second : Entry} {others : List Entry} :
      AreTrees (first :: second :: others) → IsTree (.function (first :: second :: others))
  | list {element : Entry} : IsTree element → IsTree (.list element)
  | record {fields : List Entry} : AreFields fields → IsTree (.record fields)
  | var {name : String} : IsVarName name → IsTree (.var name)
  | constrained {name : String} {first : Entry} {others : List Entry} :
      IsVarName name → AreTrees (first :: others) → IsTree (.constrained name (first :: others))
  | thunk : IsTree .thunk

/-- Well-formed trees. -/
inductive AreTrees : List Entry → Prop
  | nil : AreTrees []
  | cons {first : Entry} {others : List Entry} :
      IsTree first → AreTrees others → AreTrees (first :: others)

/-- Well-formed fields. -/
inductive AreFields : List Entry → Prop
  | nil : AreFields []
  | cons {name : String} {type : Entry} {others : List Entry} :
      IsName name → IsTree type → AreFields others → AreFields (.field name type :: others)

end

/-- A well-formed constraint. -/
structure IsConstraint (c : Constraint) : Prop where
  typeClass : IsTypeName c.typeClass
  typeVar : IsVarName c.typeVar

theorem AreTrees.isTree {entries : List Entry} (h : AreTrees entries) {entry : Entry} (member : entry ∈ entries) :
    IsTree entry := by
  induction entries with
  | nil => cases member
  | cons first others ih =>
    cases h with
    | cons isFirst areOthers =>
      rcases List.mem_cons.mp member with rfl | inOthers
      · exact isFirst
      · exact ih areOthers inOthers

theorem AreFields.isField {entries : List Entry} (h : AreFields entries) {entry : Entry} (member : entry ∈ entries) :
    ∃ name type, entry = .field name type ∧ IsTree type := by
  induction entries with
  | nil => cases member
  | cons first others ih =>
    cases h with
    | cons _ isTree areFields =>
      rcases List.mem_cons.mp member with rfl | inOthers
      · exact ⟨_, _, rfl, isTree⟩
      · exact ih areFields inOthers

theorem areTrees_singleton {entry : Entry} (h : IsTree entry) : AreTrees [entry] :=
  .cons h .nil

/-- The top-level entries of a tree are trees. -/
theorem IsTree.entries {entry : Entry} (h : IsTree entry) : AreTrees entry.entries := by
  cases h with
  | function segments => exact segments
  | constructor name params => exact areTrees_singleton (.constructor name params)
  | list element => exact areTrees_singleton (.list element)
  | record fields => exact areTrees_singleton (.record fields)
  | var name => exact areTrees_singleton (.var name)
  | constrained name params => exact areTrees_singleton (.constrained name params)
  | thunk => exact areTrees_singleton .thunk

mutual

theorem TypeAt.isTree {tokens rest : List Token} {entry : Entry} :
    TypeAt tokens entry rest → AllSpelled tokens → IsTree entry
  | .single h, spelled => h.isTree spelled
  | .function h hs, spelled => by
    have first := h.isTree spelled
    cases hs.areTrees (spelled.after h.passesOver) with
    | cons second others => exact .function (.cons first (.cons second others))

theorem SegmentsAt.areTrees {tokens rest : List Token} {entries : List Entry} :
    SegmentsAt tokens entries rest → AllSpelled tokens → AreTrees entries
  | .none, _ => .nil
  | .more h hs, spelled => .cons (h.isTree spelled.tail) (hs.areTrees (spelled.tail.after h.passesOver))

theorem ApplicationAt.isTree {tokens rest : List Token} {entry : Entry} :
    ApplicationAt tokens entry rest → AllSpelled tokens → IsTree entry
  | .bare h, spelled => h.isTree spelled
  | .upper h hs, spelled => by
    have others := hs.areTrees (spelled.after h.passesOver)
    -- The head is well formed by itself, and its name is all that is needed of it.
    cases h.isTree spelled with
    | constructor name _ => exact .constructor name others
  | .lower h hs, spelled => by
    have others := hs.areTrees (spelled.after h.passesOver)
    cases h.isTree spelled with
    | var name => exact .constrained name others

theorem AtomsAt.areTrees {tokens rest : List Token} {entries : List Entry} :
    AtomsAt tokens entries rest → AllSpelled tokens → AreTrees entries
  | .none, _ => .nil
  | .more h hs, spelled => .cons (h.isTree spelled) (hs.areTrees (spelled.after h.passesOver))

theorem AtomAt.isTree {tokens rest : List Token} {entry : Entry} :
    AtomAt tokens entry rest → AllSpelled tokens → IsTree entry
  | .upper capital, spelled => .constructor ⟨spelled _ List.mem_cons_self, capital⟩ .nil
  | .lower small, spelled => .var ⟨spelled _ List.mem_cons_self, small⟩
  | .list h, spelled => .list (h.isTree spelled.tail)
  | .emptyRecord, _ => .record .nil
  | .record h hs, spelled =>
      .record (h.areFields_cons spelled.tail (hs.areFields (spelled.tail.after h.passesOver)))
  | .thunk, _ => .thunk
  | .bracketed h, spelled => h.isTree spelled.tail

theorem FieldAt.areFields_cons {tokens rest : List Token} {entry : Entry} {others : List Entry} :
    FieldAt tokens entry rest → AllSpelled tokens → AreFields others → AreFields (entry :: others)
  | .mk h, spelled, fields => .cons (spelled _ List.mem_cons_self) (h.isTree spelled.tail.tail) fields

theorem FieldsAt.areFields {tokens rest : List Token} {entries : List Entry} :
    FieldsAt tokens entries rest → AllSpelled tokens → AreFields entries
  | .none, _ => .nil
  | .more h hs, spelled =>
      h.areFields_cons spelled.tail (hs.areFields (spelled.tail.after h.passesOver))

end

/-- The name of a signature is one token. -/
theorem isName_of_parse {text : String} {s : Signature} (h : parse text = .ok s) : IsName s.name := by
  obtain ⟨tokens, htokens, derived⟩ := parse_eq_ok_iff.mp h
  have spelled : AllSpelled tokens := spelled_of_tokenize htokens
  cases derived with
  | free type => exact spelled _ List.mem_cons_self
  | constrained context type => exact spelled _ List.mem_cons_self

theorem ConstraintAt.isConstraint {tokens rest : List Token} {c : Constraint} (h : ConstraintAt tokens c rest)
    (spelled : AllSpelled tokens) : IsConstraint c := by
  cases h with
  | mk capital small =>
    exact ⟨⟨spelled _ List.mem_cons_self, capital⟩, ⟨spelled.tail _ List.mem_cons_self, small⟩⟩

theorem ConstraintsAt.areConstraints {tokens rest : List Token} {constraints : List Constraint}
    (h : ConstraintsAt tokens constraints rest) (spelled : AllSpelled tokens) : ∀ c ∈ constraints, IsConstraint c := by
  induction h with
  | none => nofun
  | more first _ ih =>
    exact List.forall_mem_cons.mpr ⟨first.isConstraint spelled.tail, ih (spelled.tail.after first.passesOver)⟩

theorem ContextAt.areConstraints {tokens rest : List Token} {constraints : List Constraint}
    (h : ContextAt tokens constraints rest) (spelled : AllSpelled tokens) : ∀ c ∈ constraints, IsConstraint c := by
  cases h with
  | single only => exact List.forall_mem_singleton.mpr (only.isConstraint spelled)
  | several first others =>
    exact List.forall_mem_cons.mpr
      ⟨first.isConstraint spelled.tail, others.areConstraints (spelled.tail.after first.passesOver)⟩

/-- The constraints of a signature are well formed. -/
theorem areConstraints_of_parse {text : String} {s : Signature} (h : parse text = .ok s) :
    ∀ c ∈ s.constraints, IsConstraint c := by
  obtain ⟨tokens, htokens, derived⟩ := parse_eq_ok_iff.mp h
  have spelled : AllSpelled tokens := spelled_of_tokenize htokens
  cases derived with
  | free type => nofun
  | constrained context type => exact context.areConstraints spelled.tail.tail

/-- The tree of a signature is well formed. -/
theorem isTree_of_parse {text : String} {s : Signature} (h : parse text = .ok s) : IsTree s.type := by
  obtain ⟨tokens, htokens, derived⟩ := parse_eq_ok_iff.mp h
  have spelled : AllSpelled tokens := spelled_of_tokenize htokens
  cases derived with
  | free type => exact type.isTree spelled.tail.tail
  | constrained context type => exact type.isTree (spelled.tail.tail.after context.passesOver).tail

end HMSignature.Grammar
