import HMSignature.Grammar.Parser
/-!
# The grammar of signatures

The rules of the grammar as relations, told without the readers. `TypeAt tokens entry rest` says that a type with the
tree `entry` stands at the front of `tokens` and that `rest` follows it; the other relations are read alike. Nothing in
a rule looks at what follows, so a rule derives the tokens that stand before `rest`, whatever `rest` is.

The one condition beside the grammar is on applications: the tree of the head is the bare name of a type or of a
variable. Brackets around the head leave no trace in its tree, so they are allowed there.

Results:
1. `TypeAt.passesOver`: what follows a type is the end of the tokens it is read from, and no double arrow is in between;
2. `TypeAt.startsAtom`: a type starts with a name or an opening bracket;
3. `TypeAt.leaf_of_var`: a variable has no children.
-/

namespace HMSignature.Grammar

/-! ## Types -/

mutual

/-- A type: `application ('->' application)*`. A single application stands for itself, several make one function. -/
inductive TypeAt : List Token → Entry → List Token → Prop
  | single {tokens rest : List Token} {entry : Entry} :
      ApplicationAt tokens entry rest → TypeAt tokens entry rest
  | function {tokens rest rest' : List Token} {first second : Entry} {others : List Entry} :
      ApplicationAt tokens first rest → SegmentsAt rest (second :: others) rest' →
      TypeAt tokens (.function (first :: second :: others)) rest'

/-- The rest of a type: `('->' application)*`. -/
inductive SegmentsAt : List Token → List Entry → List Token → Prop
  | none {rest : List Token} : SegmentsAt rest [] rest
  | more {tokens rest rest' : List Token} {first : Entry} {others : List Entry} :
      ApplicationAt tokens first rest → SegmentsAt rest others rest' →
      SegmentsAt (.symbol "->" :: tokens) (first :: others) rest'

/-- An application: `atom atom*`, with the condition on the head. -/
inductive ApplicationAt : List Token → Entry → List Token → Prop
  | bare {tokens rest : List Token} {entry : Entry} :
      AtomAt tokens entry rest → ApplicationAt tokens entry rest
  | upper {tokens rest rest' : List Token} {name : String} {first : Entry} {others : List Entry} :
      AtomAt tokens (.constructor name []) rest → AtomsAt rest (first :: others) rest' →
      ApplicationAt tokens (.constructor name (first :: others)) rest'
  | lower {tokens rest rest' : List Token} {name : String} {first : Entry} {others : List Entry} :
      AtomAt tokens (.var name) rest → AtomsAt rest (first :: others) rest' →
      ApplicationAt tokens (.constrained name (first :: others)) rest'

/-- The parameters of an application: `atom*`. -/
inductive AtomsAt : List Token → List Entry → List Token → Prop
  | none {rest : List Token} : AtomsAt rest [] rest
  | more {tokens rest rest' : List Token} {first : Entry} {others : List Entry} :
      AtomAt tokens first rest → AtomsAt rest others rest' → AtomsAt tokens (first :: others) rest'

/-- An atom: `UPPER | lower | '[' type ']' | '{' fields '}' | '(' ')' | '(' type ')'`. -/
inductive AtomAt : List Token → Entry → List Token → Prop
  | upper {name : String} {rest : List Token} :
      isCapitalized name = true → AtomAt (.name name :: rest) (.constructor name []) rest
  | lower {name : String} {rest : List Token} :
      isCapitalized name = false → AtomAt (.name name :: rest) (.var name) rest
  | list {tokens rest : List Token} {element : Entry} :
      TypeAt tokens element (.closing .square :: rest) →
      AtomAt (.opening .square :: tokens) (.list element) rest
  | emptyRecord {rest : List Token} :
      AtomAt (.opening .curly :: .closing .curly :: rest) (.record []) rest
  | record {tokens rest rest' : List Token} {first : Entry} {others : List Entry} :
      FieldAt tokens first rest → FieldsAt rest others (.closing .curly :: rest') →
      AtomAt (.opening .curly :: tokens) (.record (first :: others)) rest'
  | thunk {rest : List Token} : AtomAt (.opening .round :: .closing .round :: rest) .thunk rest
  | bracketed {tokens rest : List Token} {inner : Entry} :
      TypeAt tokens inner (.closing .round :: rest) → AtomAt (.opening .round :: tokens) inner rest

/-- A field: `NAME '::' type`. -/
inductive FieldAt : List Token → Entry → List Token → Prop
  | mk {name : String} {tokens rest : List Token} {entry : Entry} :
      TypeAt tokens entry rest → FieldAt (.name name :: .symbol "::" :: tokens) (.field name entry) rest

/-- The further fields of a record: `(',' field)*`. -/
inductive FieldsAt : List Token → List Entry → List Token → Prop
  | none {rest : List Token} : FieldsAt rest [] rest
  | more {tokens rest rest' : List Token} {first : Entry} {others : List Entry} :
      FieldAt tokens first rest → FieldsAt rest others rest' →
      FieldsAt (.comma :: tokens) (first :: others) rest'

end

/-! ## Signatures -/

/-- A constraint: `UPPER lower`. -/
inductive ConstraintAt : List Token → Constraint → List Token → Prop
  | mk {typeClass typeVar : String} {rest : List Token} :
      isCapitalized typeClass = true → isCapitalized typeVar = false →
      ConstraintAt (.name typeClass :: .name typeVar :: rest) ⟨typeClass, typeVar⟩ rest

/-- Further constraints: `(',' constraint)*`. -/
inductive ConstraintsAt : List Token → List Constraint → List Token → Prop
  | none {rest : List Token} : ConstraintsAt rest [] rest
  | more {tokens rest rest' : List Token} {first : Constraint} {others : List Constraint} :
      ConstraintAt tokens first rest → ConstraintsAt rest others rest' →
      ConstraintsAt (.comma :: tokens) (first :: others) rest'

/-- The constraints of a signature: `constraint | '(' constraint (',' constraint)* ')'`. -/
inductive ContextAt : List Token → List Constraint → List Token → Prop
  | single {tokens rest : List Token} {c : Constraint} :
      ConstraintAt tokens c rest → ContextAt tokens [c] rest
  | several {tokens rest rest' : List Token} {first : Constraint} {others : List Constraint} :
      ConstraintAt tokens first rest → ConstraintsAt rest others (.closing .round :: rest') →
      ContextAt (.opening .round :: tokens) (first :: others) rest'

/-- A signature from its first to its last token: `NAME '::' [context '=>'] type`. -/
inductive SignatureOf : List Token → Signature → Prop
  | free {name : String} {tokens : List Token} {entry : Entry} :
      TypeAt tokens entry [] → SignatureOf (.name name :: .symbol "::" :: tokens) ⟨name, [], entry⟩
  | constrained {name : String} {tokens rest : List Token} {constraints : List Constraint} {entry : Entry} :
      ContextAt tokens constraints (.symbol "=>" :: rest) → TypeAt rest entry [] →
      SignatureOf (.name name :: .symbol "::" :: tokens) ⟨name, constraints, entry⟩

/-! ## What a phrase passes over -/

/-- From one point to another, with no double arrow on the way. -/
def PassesOver (tokens rest : List Token) : Prop :=
  ∃ passed, tokens = passed ++ rest ∧ .symbol "=>" ∉ passed

namespace PassesOver

theorem refl (tokens : List Token) : PassesOver tokens tokens :=
  ⟨[], rfl, List.not_mem_nil⟩

theorem trans {a b c : List Token} (h : PassesOver a b) (h' : PassesOver b c) : PassesOver a c := by
  obtain ⟨passed, rfl, absent⟩ := h
  obtain ⟨passed', rfl, absent'⟩ := h'
  refine ⟨passed ++ passed', (List.append_assoc ..).symm, ?_⟩
  rw [List.mem_append]
  exact fun inside => inside.elim absent absent'

theorem token {token : Token} {rest : List Token} (h : token ≠ .symbol "=>") : PassesOver (token :: rest) rest :=
  ⟨[token], rfl, fun inside => h (List.mem_singleton.mp inside).symm⟩

theorem suffix {tokens rest : List Token} (h : PassesOver tokens rest) : rest <:+ tokens := by
  obtain ⟨passed, rfl, -⟩ := h
  exact List.suffix_append _ _

end PassesOver

mutual

theorem TypeAt.passesOver {tokens rest : List Token} {entry : Entry} :
    TypeAt tokens entry rest → PassesOver tokens rest
  | .single h => h.passesOver
  | .function h hs => h.passesOver.trans hs.passesOver

theorem SegmentsAt.passesOver {tokens rest : List Token} {entries : List Entry} :
    SegmentsAt tokens entries rest → PassesOver tokens rest
  | .none => .refl _
  | .more h hs => (PassesOver.token (by decide)).trans (h.passesOver.trans hs.passesOver)

theorem ApplicationAt.passesOver {tokens rest : List Token} {entry : Entry} :
    ApplicationAt tokens entry rest → PassesOver tokens rest
  | .bare h => h.passesOver
  | .upper h hs => h.passesOver.trans hs.passesOver
  | .lower h hs => h.passesOver.trans hs.passesOver

theorem AtomsAt.passesOver {tokens rest : List Token} {entries : List Entry} :
    AtomsAt tokens entries rest → PassesOver tokens rest
  | .none => .refl _
  | .more h hs => h.passesOver.trans hs.passesOver

theorem AtomAt.passesOver {tokens rest : List Token} {entry : Entry} :
    AtomAt tokens entry rest → PassesOver tokens rest
  | .upper _ => .token (by simp)
  | .lower _ => .token (by simp)
  | .list h => (PassesOver.token (by simp)).trans (h.passesOver.trans (.token (by simp)))
  | .emptyRecord => (PassesOver.token (by simp)).trans (.token (by simp))
  | .record h hs =>
      (PassesOver.token (by simp)).trans (h.passesOver.trans (hs.passesOver.trans (.token (by simp))))
  | .thunk => (PassesOver.token (by simp)).trans (.token (by simp))
  | .bracketed h => (PassesOver.token (by simp)).trans (h.passesOver.trans (.token (by simp)))

theorem FieldAt.passesOver {tokens rest : List Token} {entry : Entry} :
    FieldAt tokens entry rest → PassesOver tokens rest
  | .mk h => (PassesOver.token (by simp)).trans ((PassesOver.token (by decide)).trans h.passesOver)

theorem FieldsAt.passesOver {tokens rest : List Token} {entries : List Entry} :
    FieldsAt tokens entries rest → PassesOver tokens rest
  | .none => .refl _
  | .more h hs => (PassesOver.token (by simp)).trans (h.passesOver.trans hs.passesOver)

end

theorem ConstraintAt.passesOver {tokens rest : List Token} {c : Constraint} (h : ConstraintAt tokens c rest) :
    PassesOver tokens rest := by
  cases h
  exact (PassesOver.token (by simp)).trans (.token (by simp))

theorem ConstraintsAt.passesOver {tokens rest : List Token} {constraints : List Constraint}
    (h : ConstraintsAt tokens constraints rest) : PassesOver tokens rest := by
  induction h with
  | none => exact .refl _
  | more h _ ih => exact (PassesOver.token (by simp)).trans (h.passesOver.trans ih)

theorem ContextAt.passesOver {tokens rest : List Token} {constraints : List Constraint}
    (h : ContextAt tokens constraints rest) : PassesOver tokens rest := by
  cases h with
  | single h => exact h.passesOver
  | several h hs => exact (PassesOver.token (by simp)).trans (h.passesOver.trans (hs.passesOver.trans (.token (by simp))))

/-! ## How a phrase starts -/

theorem AtomAt.startsAtom {tokens rest : List Token} {entry : Entry} (h : AtomAt tokens entry rest) :
    Read.startsAtom tokens = true := by
  cases h <;> rfl

theorem ApplicationAt.startsAtom {tokens rest : List Token} {entry : Entry} (h : ApplicationAt tokens entry rest) :
    Read.startsAtom tokens = true := by
  cases h with
  | bare h => exact h.startsAtom
  | upper h _ => exact h.startsAtom
  | lower h _ => exact h.startsAtom

theorem TypeAt.startsAtom {tokens rest : List Token} {entry : Entry} (h : TypeAt tokens entry rest) :
    Read.startsAtom tokens = true := by
  cases h with
  | single h => exact h.startsAtom
  | function h _ => exact h.startsAtom

/-! ## Trees of variables -/

mutual

theorem TypeAt.leaf_of_var {tokens rest : List Token} {name : String} {children : List Entry} :
    TypeAt tokens (.node .var name children) rest → children = []
  | .single h => h.leaf_of_var

theorem ApplicationAt.leaf_of_var {tokens rest : List Token} {name : String} {children : List Entry} :
    ApplicationAt tokens (.node .var name children) rest → children = []
  | .bare h => h.leaf_of_var

theorem AtomAt.leaf_of_var {tokens rest : List Token} {name : String} {children : List Entry} :
    AtomAt tokens (.node .var name children) rest → children = []
  | .lower _ => rfl
  | .bracketed h => h.leaf_of_var

end

end HMSignature.Grammar
