import HMSignature.Proofs.Grammar.Derivation
/-!
# Brackets that match

The brackets among some tokens match if every opening one has a closing one of its kind behind it, and those between
the two match by themselves. Whether they do can be told by going through the tokens with the brackets that are open.

Results:
1. `nested_iff`: brackets match exactly if they can be gone through and none is open in the end;
2. `SignatureOf.nested`: the brackets of a signature match.
-/

namespace HMSignature.Grammar

/-- A token that is no bracket. -/
def Token.IsPlain : Token → Prop
  | .opening _ => False
  | .closing _ => False
  | _ => True

/-- Brackets that match, with other tokens among them. -/
inductive Nested : List Token → Prop
  | nil : Nested []
  | plain {token : Token} {rest : List Token} : token.IsPlain → Nested rest → Nested (token :: rest)
  | pair {bracket : Bracket} {inner rest : List Token} :
      Nested inner → Nested rest → Nested (.opening bracket :: (inner ++ .closing bracket :: rest))

/-- The brackets that are open behind some tokens, the innermost one first. There is no answer if a bracket is closed
that is not the innermost one. -/
def openAfter : List Bracket → List Token → Option (List Bracket)
  | stack, [] => some stack
  | stack, .opening bracket :: rest => openAfter (bracket :: stack) rest
  | stack, .closing bracket :: rest => if stack.head? = some bracket then openAfter stack.tail rest else none
  | stack, _ :: rest => openAfter stack rest

theorem openAfter_plain {token : Token} (plain : token.IsPlain) (stack : List Bracket) (rest : List Token) :
    openAfter stack (token :: rest) = openAfter stack rest := by
  cases token with
  | opening bracket => cases plain
  | closing bracket => cases plain
  | _ => rfl

theorem openAfter_closing_self (bracket : Bracket) (stack : List Bracket) (rest : List Token) :
    openAfter (bracket :: stack) (.closing bracket :: rest) = openAfter stack rest :=
  if_pos rfl

/-- Only the innermost bracket can be closed. -/
theorem openAfter_closing_eq_some {stack stack' : List Bracket} {bracket : Bracket} {rest : List Token}
    (h : openAfter stack (.closing bracket :: rest) = some stack') :
    ∃ outer, stack = bracket :: outer ∧ openAfter outer rest = some stack' := by
  rw [openAfter] at h
  split at h
  · next innermost =>
    obtain ⟨outer, rfl⟩ := List.head?_eq_some_iff.mp innermost
    exact ⟨outer, rfl, h⟩
  · cases h

/-- Brackets that match leave those open that were. -/
theorem Nested.openAfter_append {tokens : List Token} (h : Nested tokens) (stack : List Bracket) (rest : List Token) :
    openAfter stack (tokens ++ rest) = openAfter stack rest := by
  induction h generalizing stack rest with
  | nil => rfl
  | plain isPlain _ ih => rw [List.cons_append, openAfter_plain isPlain, ih]
  | @pair bracket inner others _ _ ihInner ihOthers =>
    rw [List.cons_append, openAfter, List.append_assoc, ihInner, List.cons_append, openAfter_closing_self, ihOthers]

/-- Where nothing is open in the end, an open bracket is closed by one of its kind. -/
theorem exists_closing {bracket : Bracket} {stack : List Bracket} (tokens : List Token)
    (h : openAfter (bracket :: stack) tokens = some []) :
    ∃ inner rest, tokens = inner ++ .closing bracket :: rest ∧ Nested inner ∧ openAfter stack rest = some [] := by
  have skip {token : Token} {others : List Token} (eq : tokens = token :: others) (plain : token.IsPlain) :
      ∃ inner rest, tokens = inner ++ .closing bracket :: rest ∧ Nested inner ∧ openAfter stack rest = some [] := by
    rw [eq, openAfter_plain plain] at h
    obtain ⟨inner, rest, rfl, nested, after⟩ := exists_closing others h
    exact ⟨token :: inner, rest, eq, .plain plain nested, after⟩
  cases eq : tokens with
  | nil =>
    rw [eq] at h
    cases h
  | cons token others =>
    cases token with
    | opening other =>
      -- First the bracket that is opened here is closed, and then the one that was open.
      rw [eq, openAfter] at h
      obtain ⟨inner, rest, rfl, nested, h'⟩ := exists_closing others h
      obtain ⟨inner', rest', rfl, nested', after⟩ := exists_closing rest h'
      exact ⟨.opening other :: (inner ++ .closing other :: inner'), rest', by simp, .pair nested nested', after⟩
    | closing other =>
      rw [eq] at h
      obtain ⟨outer, same, after⟩ := openAfter_closing_eq_some h
      cases same
      exact ⟨[], others, rfl, .nil, after⟩
    | name text => exact eq ▸ skip eq trivial
    | symbol text => exact eq ▸ skip eq trivial
    | comma => exact eq ▸ skip eq trivial
termination_by tokens.length

theorem nested_of_openAfter (tokens : List Token) (h : openAfter [] tokens = some []) : Nested tokens := by
  match tokens with
  | [] => exact .nil
  | .opening bracket :: rest =>
    obtain ⟨inner, others, split, nested, after⟩ := exists_closing rest h
    have shorter : others.length < rest.length + 1 := by
      rw [split, List.length_append, List.length_cons]
      omega
    rw [split]
    exact .pair nested (nested_of_openAfter others after)
  | .closing bracket :: rest =>
    obtain ⟨outer, none, -⟩ := openAfter_closing_eq_some h
    cases none
  | .name text :: rest => exact .plain trivial (nested_of_openAfter rest h)
  | .symbol text :: rest => exact .plain trivial (nested_of_openAfter rest h)
  | .comma :: rest => exact .plain trivial (nested_of_openAfter rest h)
termination_by tokens.length

/-- Brackets match exactly if they can be gone through and none is open in the end. -/
theorem nested_iff {tokens : List Token} : Nested tokens ↔ openAfter [] tokens = some [] := by
  constructor
  · intro h
    have whole := h.openAfter_append [] []
    rwa [List.append_nil] at whole
  · exact nested_of_openAfter tokens

instance (tokens : List Token) : Decidable (Nested tokens) :=
  decidable_of_iff _ nested_iff.symm

/-! ## Phrases -/

/-- From one point to another, with matching brackets on the way. -/
def KeepsOpen (tokens rest : List Token) : Prop :=
  ∀ stack, openAfter stack tokens = openAfter stack rest

namespace KeepsOpen

theorem refl (tokens : List Token) : KeepsOpen tokens tokens :=
  fun _ => rfl

theorem trans {a b c : List Token} (h : KeepsOpen a b) (h' : KeepsOpen b c) : KeepsOpen a c :=
  fun stack => (h stack).trans (h' stack)

theorem plain {token : Token} {tokens rest : List Token} (isPlain : token.IsPlain) (h : KeepsOpen tokens rest) :
    KeepsOpen (token :: tokens) rest :=
  fun stack => (openAfter_plain isPlain stack tokens).trans (h stack)

theorem pair {bracket : Bracket} {tokens rest : List Token} (h : KeepsOpen tokens (.closing bracket :: rest)) :
    KeepsOpen (.opening bracket :: tokens) rest :=
  fun stack => (h (bracket :: stack)).trans (openAfter_closing_self bracket stack rest)

end KeepsOpen

mutual

theorem TypeAt.keepsOpen {tokens rest : List Token} {entry : Entry} :
    TypeAt tokens entry rest → KeepsOpen tokens rest
  | .single h => h.keepsOpen
  | .function h hs => h.keepsOpen.trans hs.keepsOpen

theorem SegmentsAt.keepsOpen {tokens rest : List Token} {entries : List Entry} :
    SegmentsAt tokens entries rest → KeepsOpen tokens rest
  | .none => .refl _
  | .more h hs => .plain trivial (h.keepsOpen.trans hs.keepsOpen)

theorem ApplicationAt.keepsOpen {tokens rest : List Token} {entry : Entry} :
    ApplicationAt tokens entry rest → KeepsOpen tokens rest
  | .bare h => h.keepsOpen
  | .upper h hs => h.keepsOpen.trans hs.keepsOpen
  | .lower h hs => h.keepsOpen.trans hs.keepsOpen

theorem AtomsAt.keepsOpen {tokens rest : List Token} {entries : List Entry} :
    AtomsAt tokens entries rest → KeepsOpen tokens rest
  | .none => .refl _
  | .more h hs => h.keepsOpen.trans hs.keepsOpen

theorem AtomAt.keepsOpen {tokens rest : List Token} {entry : Entry} :
    AtomAt tokens entry rest → KeepsOpen tokens rest
  | .upper _ => .plain trivial (.refl _)
  | .lower _ => .plain trivial (.refl _)
  | .list h => .pair h.keepsOpen
  | .emptyRecord => .pair (.refl _)
  | .record h hs => .pair (h.keepsOpen.trans hs.keepsOpen)
  | .thunk => .pair (.refl _)
  | .bracketed h => .pair h.keepsOpen

theorem FieldAt.keepsOpen {tokens rest : List Token} {entry : Entry} :
    FieldAt tokens entry rest → KeepsOpen tokens rest
  | .mk h => .plain trivial (.plain trivial h.keepsOpen)

theorem FieldsAt.keepsOpen {tokens rest : List Token} {entries : List Entry} :
    FieldsAt tokens entries rest → KeepsOpen tokens rest
  | .none => .refl _
  | .more h hs => .plain trivial (h.keepsOpen.trans hs.keepsOpen)

end

theorem ConstraintAt.keepsOpen {tokens rest : List Token} {c : Constraint} (h : ConstraintAt tokens c rest) :
    KeepsOpen tokens rest := by
  cases h
  exact .plain trivial (.plain trivial (.refl _))

theorem ConstraintsAt.keepsOpen {tokens rest : List Token} {constraints : List Constraint}
    (h : ConstraintsAt tokens constraints rest) : KeepsOpen tokens rest := by
  induction h with
  | none => exact .refl _
  | more h _ ih => exact .plain trivial (h.keepsOpen.trans ih)

theorem ContextAt.keepsOpen {tokens rest : List Token} {constraints : List Constraint}
    (h : ContextAt tokens constraints rest) : KeepsOpen tokens rest := by
  cases h with
  | single h => exact h.keepsOpen
  | several h hs => exact .pair (h.keepsOpen.trans hs.keepsOpen)

/-- The brackets of a signature match. -/
theorem SignatureOf.nested {tokens : List Token} {s : Signature} (h : SignatureOf tokens s) : Nested tokens := by
  cases h with
  | free h => exact .plain trivial (.plain trivial (nested_iff.mpr (h.keepsOpen [])))
  | constrained hc h =>
    have after : KeepsOpen _ [] := hc.keepsOpen.trans (.plain trivial h.keepsOpen)
    exact .plain trivial (.plain trivial (nested_iff.mpr (after [])))

end HMSignature.Grammar
