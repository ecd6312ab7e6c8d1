import HMSignature.Proofs.Grammar.Failure
import HMSignature.Proofs.Grammar.Nesting
/-!
# Points of a reading

A reading goes through its tokens and asks for one phrase after the other. Where it asks for which is told by the
grammar: by what stands before, and by the brackets that are open. What fails at such a point is what the reading fails
for.

Results:
1. `Expects.openAfter_eq`: the brackets that a point stands in are those that are open there;
2. `Expects.decides`: a failure at a point is the failure of the whole reading;
3. `Stuck.mismatch`: where a reading is stuck, it fails for the bracket.
-/

namespace HMSignature.Grammar

open Phrase Read

/-! ## Points of a reading -/

/-- `Expects whole phrase stack rest` says that a reading of `whole` has taken all tokens before `rest` and asks there
for a phrase, inside the brackets of `stack`, the innermost one first. -/
inductive Expects (whole : List Token) : Phrase → List Bracket → List Token → Prop
  -- NAME '::' [context '=>'] type
  | free {name : String} {tokens : List Token} :
      whole = .name name :: .symbol "::" :: tokens → .symbol "=>" ∉ tokens → Expects whole .type [] tokens
  | constrained {name : String} {tokens rest : List Token} {constraints : List Constraint} :
      whole = .name name :: .symbol "::" :: tokens → ContextAt tokens constraints (.symbol "=>" :: rest) →
      Expects whole .type [] rest
  -- type ::= application segments, segments ::= '->' type
  | application {stack : List Bracket} {tokens : List Token} :
      Expects whole .type stack tokens → Expects whole .application stack tokens
  | segments {stack : List Bracket} {tokens rest : List Token} {entry : Entry} :
      Expects whole .type stack tokens → ApplicationAt tokens entry rest → startsAtom rest = false →
      Expects whole .segments stack rest
  | arrow {stack : List Bracket} {tokens : List Token} :
      Expects whole .segments stack (.symbol "->" :: tokens) → Expects whole .type stack tokens
  -- application ::= atom parameters, parameters ::= atom parameters
  | head {stack : List Bracket} {tokens : List Token} :
      Expects whole .application stack tokens → Expects whole .atom stack tokens
  | parameters {stack : List Bracket} {tokens rest : List Token} {entry : Entry} :
      Expects whole .application stack tokens → AtomAt tokens entry rest → Expects whole .parameters stack rest
  | parameter {stack : List Bracket} {tokens : List Token} :
      Expects whole .parameters stack tokens → startsAtom tokens = true → Expects whole .atom stack tokens
  | moreParameters {stack : List Bracket} {tokens rest : List Token} {entry : Entry} :
      Expects whole .parameters stack tokens → AtomAt tokens entry rest → Expects whole .parameters stack rest
  -- what is inside of brackets, unless they are empty
  | round {stack : List Bracket} {tokens : List Token} :
      Expects whole .atom stack (.opening .round :: tokens) → (∀ rest, tokens ≠ .closing .round :: rest) →
      Expects whole .type (.round :: stack) tokens
  | square {stack : List Bracket} {tokens : List Token} :
      Expects whole .atom stack (.opening .square :: tokens) → Expects whole .type (.square :: stack) tokens
  | curly {stack : List Bracket} {tokens : List Token} :
      Expects whole .atom stack (.opening .curly :: tokens) → (∀ rest, tokens ≠ .closing .curly :: rest) →
      Expects whole .fields (.curly :: stack) tokens
  -- fields ::= field moreFields, moreFields ::= ',' fields, field ::= NAME '::' type
  | field {stack : List Bracket} {tokens : List Token} :
      Expects whole .fields (.curly :: stack) tokens → Expects whole .field (.curly :: stack) tokens
  | moreFields {stack : List Bracket} {tokens rest : List Token} {entry : Entry} :
      Expects whole .fields (.curly :: stack) tokens → FieldAt tokens entry rest → EndsType rest →
      Expects whole .moreFields (.curly :: stack) rest
  | comma {stack : List Bracket} {tokens : List Token} :
      Expects whole .moreFields (.curly :: stack) (.comma :: tokens) → Expects whole .fields (.curly :: stack) tokens
  | fieldType {stack : List Bracket} {name : String} {tokens : List Token} :
      Expects whole .field (.curly :: stack) (.name name :: .symbol "::" :: tokens) →
      Expects whole .type (.curly :: stack) tokens

/-- What is inside of the innermost bracket of `stack`, or outside of all brackets, is complete before `rest`, and
nothing there continues it. -/
inductive Completes (whole : List Token) : List Bracket → List Token → Prop
  | type {stack : List Bracket} {rest : List Token} :
      Expects whole .segments stack rest → stack.head? ≠ some .curly → (∀ rest', rest ≠ .symbol "->" :: rest') →
      Completes whole stack rest
  | fields {stack : List Bracket} {rest : List Token} :
      Expects whole .moreFields stack rest → (∀ rest', rest ≠ .comma :: rest') → Completes whole stack rest
  | constraints {name : String} {tokens middle rest : List Token} {first : Constraint} {others : List Constraint} :
      whole = .name name :: .symbol "::" :: .opening .round :: tokens → .symbol "=>" ∈ tokens →
      ConstraintAt tokens first middle → ConstraintsAt middle others rest → (∀ rest', rest ≠ .comma :: rest') →
      Completes whole [.round] rest

/-- Where a reading calls a bracket a mismatch. -/
inductive Stuck (whole : List Token) : Bracket → Prop
  /-- It is closed where an atom has to stand. -/
  | due {bracket : Bracket} {stack : List Bracket} {rest : List Token} :
      Expects whole .atom stack (.closing bracket :: rest) → Stuck whole bracket
  /-- It is open and its content complete, but it is not closed there. -/
  | unclosed {bracket : Bracket} {stack : List Bracket} {rest : List Token} :
      Completes whole (bracket :: stack) rest → rest.head? ≠ some (.closing bracket) → Stuck whole bracket
  /-- It is closed behind the whole signature. -/
  | surplus {bracket : Bracket} {rest : List Token} :
      Completes whole [] (.closing bracket :: rest) → Stuck whole bracket

section Points

variable {whole : List Token}

theorem Expects.allSpelled (spelled : AllSpelled whole) {phrase : Phrase} {stack : List Bracket} {tokens : List Token}
    (h : Expects whole phrase stack tokens) : AllSpelled tokens := by
  induction h with
  | free eq _ =>
    subst eq
    exact spelled.tail.tail
  | constrained eq context =>
    subst eq
    exact (spelled.tail.tail.after context.passesOver).tail
  | application _ ih => exact ih
  | segments _ first _ ih => exact ih.after first.passesOver
  | arrow _ ih => exact ih.tail
  | head _ ih => exact ih
  | parameters _ first ih => exact ih.after first.passesOver
  | parameter _ _ ih => exact ih
  | moreParameters _ first ih => exact ih.after first.passesOver
  | round _ _ ih => exact ih.tail
  | square _ ih => exact ih.tail
  | curly _ _ ih => exact ih.tail
  | field _ ih => exact ih
  | moreFields _ first _ ih => exact ih.after first.passesOver
  | comma _ ih => exact ih.tail
  | fieldType _ ih => exact ih.tail.tail

/-- The brackets of the stack are those that are open. -/
theorem Expects.openAfter_eq {phrase : Phrase} {stack : List Bracket} {tokens : List Token}
    (h : Expects whole phrase stack tokens) : openAfter [] whole = openAfter stack tokens := by
  induction h with
  | free eq _ =>
    subst eq
    rfl
  | constrained eq context =>
    subst eq
    exact context.keepsOpen []
  | application _ ih => exact ih
  | segments _ first _ ih => exact ih.trans (first.keepsOpen _)
  | arrow _ ih => exact ih
  | head _ ih => exact ih
  | parameters _ first ih => exact ih.trans (first.keepsOpen _)
  | parameter _ _ ih => exact ih
  | moreParameters _ first ih => exact ih.trans (first.keepsOpen _)
  | round _ _ ih => exact ih
  | square _ ih => exact ih
  | curly _ _ ih => exact ih
  | field _ ih => exact ih
  | moreFields _ first _ ih => exact ih.trans (first.keepsOpen _)
  | comma _ ih => exact ih
  | fieldType _ ih => exact ih

theorem Completes.allSpelled (spelled : AllSpelled whole) {stack : List Bracket} {rest : List Token}
    (h : Completes whole stack rest) : AllSpelled rest := by
  cases h with
  | type point _ _ => exact point.allSpelled spelled
  | fields point _ => exact point.allSpelled spelled
  | constraints eq _ first others _ =>
    subst eq
    exact (spelled.tail.tail.tail.after first.passesOver).after others.passesOver

theorem Completes.openAfter_eq {stack : List Bracket} {rest : List Token} (h : Completes whole stack rest) :
    openAfter [] whole = openAfter stack rest := by
  cases h with
  | type point _ _ => exact point.openAfter_eq
  | fields point _ => exact point.openAfter_eq
  | constraints eq _ first others _ =>
    subst eq
    exact (first.keepsOpen.trans others.keepsOpen) [.round]

/-! ## From the point to the whole -/

/-- Whether a phrase is all that is left inside of the innermost bracket. The type of a field is not. -/
def Phrase.IsContent : Phrase → List Bracket → Prop
  | .type, stack => stack.head? ≠ some .curly
  | .segments, stack => stack.head? ≠ some .curly
  | .fields, _ => True
  | .moreFields, _ => True
  | _, _ => False

/-- What has to follow is missing: the closing bracket or, outside of all brackets, the end. -/
def FailsBehind : List Bracket → List Token → Failure → Prop
  | [], rest, failure => finish rest = .error failure
  | bracket :: _, rest, failure => closes bracket rest = .error failure

/-- At this point of a reading of `whole` a failure is the failure of the whole reading. -/
structure Decides (whole : List Token) (phrase : Phrase) (stack : List Bracket) (tokens : List Token) : Prop where
  inside : ∀ failure, phrase.leaves tokens = .error failure → signatureOfTokens whole = .error failure
  behind : phrase.IsContent stack → ∀ rest failure, phrase.leaves tokens = .ok rest →
    FailsBehind stack rest failure → signatureOfTokens whole = .error failure

namespace Decides

variable {phrase phrase' : Phrase} {stack : List Bracket} {tokens tokens' : List Token}

theorem of_eq (h : Decides whole phrase stack tokens) (same : phrase.leaves tokens = phrase'.leaves tokens')
    (content : phrase'.IsContent stack → phrase.IsContent stack) : Decides whole phrase' stack tokens' := by
  refine ⟨fun failure failed => h.inside failure (same.trans failed), ?_⟩
  exact fun isContent rest failure left => h.behind (content isContent) rest failure (same.trans left)

/-- The content of brackets and their end belong to the atom that they make. -/
theorem bracket {bracket : Bracket} (h : Decides whole .atom stack (.opening bracket :: tokens))
    (made : atom.leaves (.opening bracket :: tokens) = phrase.leaves tokens >>= closes bracket) :
    Decides whole phrase (bracket :: stack) tokens := by
  refine ⟨fun failure failed => h.inside failure ?_, fun _ rest failure left failed => h.inside failure ?_⟩
  · rw [made, failed]
    rfl
  · rw [made, left]
    exact failed

end Decides

/-- After the constraints a failure of the type, or behind it, is the failure of the whole reading. -/
theorem decides_type {name : String} {tokens rest : List Token} {constraints : List Constraint}
    (read : constraintsOf (tokens.contains .implies) tokens = .ok (constraints, rest)) :
    Decides (.name name :: .symbol "::" :: tokens) .type [] rest :=
  ⟨fun _ failed => signatureOfTokens_eq_error_iff.mpr (.inr ⟨_, _, read, .inl failed⟩),
    fun _ rest' _ left failed => signatureOfTokens_eq_error_iff.mpr (.inr ⟨_, _, read, .inr ⟨rest', left, failed⟩⟩)⟩

theorem Expects.decides {phrase : Phrase} {stack : List Bracket} {tokens : List Token}
    (h : Expects whole phrase stack tokens) : Decides whole phrase stack tokens := by
  induction h with
  | free eq absent =>
    subst eq
    exact decides_type (constraintsOf_free absent)
  | constrained eq context =>
    subst eq
    have present := context.passesOver.suffix.subset List.mem_cons_self
    exact decides_type ((constraintsOf_asked present).trans (forget_context_of_contextAt context))
  | application _ ih =>
    refine ⟨fun failure failed => ih.inside failure ?_, nofun⟩
    rw [leaves_type]
    exact bind_eq_error_iff.mpr (.inl failed)
  | segments _ first ends ih =>
    refine ih.of_eq ?_ id
    rw [leaves_type, leaves_of_applicationAt first ends, ok_bind]
  | arrow _ ih => exact ih.of_eq (leaves_segments_arrow _) id
  | head _ ih => exact ⟨fun failure failed => ih.inside failure (leaves_application_of_atom failed), nofun⟩
  | parameters _ first ih =>
    exact ⟨fun failure failed => ih.inside failure (leaves_application_of_parameters (leaves_of_atomAt first) failed),
      nofun⟩
  | parameter _ starts ih =>
    refine ⟨fun failure failed => ih.inside failure ?_, nofun⟩
    rw [leaves_parameters_of_atom starts]
    exact bind_eq_error_iff.mpr (.inl failed)
  | moreParameters _ first ih =>
    refine ih.of_eq ?_ nofun
    rw [leaves_parameters_of_atom first.startsAtom, leaves_of_atomAt first, ok_bind]
  | round _ filled ih => exact ih.bracket (leaves_atom_round filled)
  | square _ ih => exact ih.bracket (leaves_atom_square _)
  | curly _ filled ih => exact ih.bracket (leaves_atom_curly filled)
  | field _ ih =>
    refine ⟨fun failure failed => ih.inside failure ?_, nofun⟩
    rw [leaves_fields]
    exact bind_eq_error_iff.mpr (.inl failed)
  | moreFields _ first ends ih =>
    refine ih.of_eq ?_ id
    rw [leaves_fields, leaves_of_fieldAt first ends, ok_bind]
  | comma _ ih => exact ih.of_eq (leaves_moreFields_comma _) id
  | fieldType _ ih => exact ih.of_eq (leaves_field_named _ _) fun isContent => absurd rfl isContent

theorem Completes.decides {stack : List Bracket} {rest : List Token} {failure : Failure}
    (h : Completes whole stack rest) (failed : FailsBehind stack rest failure) :
    signatureOfTokens whole = .error failure := by
  cases h with
  | type point content noArrow => exact point.decides.behind content rest failure (leaves_segments_end noArrow) failed
  | fields point noComma => exact point.decides.behind trivial rest failure (leaves_moreFields_end noComma) failed
  | constraints eq present first others noComma =>
    subst eq
    refine signatureOfTokens_eq_error_iff.mpr (.inl ?_)
    rw [constraintsOf_asked (List.mem_cons_of_mem _ present)]
    exact context_of_unclosed first others noComma failed

/-- Where a reading is stuck, it fails for the bracket. -/
theorem Stuck.mismatch (spelled : AllSpelled whole) {bracket : Bracket} (h : Stuck whole bracket) :
    ∃ rest, signatureOfTokens whole = .error ⟨.mismatchedBracket (Token.closing bracket).text, rest⟩ := by
  cases h with
  | due point => exact ⟨_, point.decides.inside _ (restOf_eq_error_iff.mpr (forget_atom_closing _ _))⟩
  | unclosed complete other => exact ⟨_, complete.decides (closes_of_other (complete.allSpelled spelled) other)⟩
  | surplus complete => exact ⟨_, complete.decides rfl⟩

end Points

end HMSignature.Grammar
