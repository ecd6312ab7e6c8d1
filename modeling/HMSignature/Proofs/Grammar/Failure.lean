import HMSignature.Proofs.Grammar.Phrase
/-!
# Where readings fail for a bracket

Most readings never fail for a bracket: names, symbols and constraints do not. What does so is an atom that is due, or
the end of brackets; every other phrase fails for a bracket only in one of its parts.

Results:
1. `application_mismatch`, `field_mismatch`, `context_mismatch`: in which of its parts a phrase fails;
2. `signatureOfTokens_eq_error_iff`: where a signature fails.
-/

namespace HMSignature.Grammar

open Read

/-! ## Readings without brackets -/

/-- A reading that does not fail for a bracket. -/
def NoMismatch {α : Type} (outcome : Except Failure α) : Prop :=
  ∀ failure, outcome = .error failure → ∀ text, failure.error ≠ .mismatchedBracket text

namespace NoMismatch

variable {α β : Type}

theorem ok (a : α) : NoMismatch (.ok a) :=
  nofun

theorem unexpected (found expected : Option String) (rest : List Token) :
    NoMismatch (.error ⟨.unexpected found expected, rest⟩ : Except Failure α) := by
  intro failure h
  cases h
  exact nofun

theorem bind {outcome : Except Failure α} {next : α → Except Failure β} (first : NoMismatch outcome)
    (others : ∀ a, outcome = .ok a → NoMismatch (next a)) : NoMismatch (outcome >>= next) := by
  intro failure h
  rcases bind_eq_error_iff.mp h with failed | ⟨a, read, failed⟩
  · exact first failure failed
  · exact others a read failure failed

end NoMismatch

theorem noMismatch_name (role : String) (tokens : List Token) : NoMismatch (name role tokens).forget := by
  cases tokens with
  | nil => exact .unexpected _ _ _
  | cons token rest =>
    cases token with
    | name text => exact .ok _
    | _ => exact .unexpected _ _ _

theorem noMismatch_expect (wanted : String) (tokens : List Token) : NoMismatch (expect wanted tokens).forget := by
  cases tokens with
  | nil => exact .unexpected _ _ _
  | cons token rest =>
    rw [expect]
    split
    · exact .ok _
    · exact .unexpected _ _ _

theorem noMismatch_className (tokens : List Token) : NoMismatch (className tokens).forget := by
  cases tokens with
  | nil => exact .unexpected _ _ _
  | cons token rest =>
    cases token with
    | name text =>
      rw [forget_className_name]
      split
      · exact .ok _
      · exact .unexpected _ _ _
    | _ => exact .unexpected _ _ _

theorem noMismatch_variableName (tokens : List Token) : NoMismatch (variableName tokens).forget := by
  cases tokens with
  | nil => exact .unexpected _ _ _
  | cons token rest =>
    cases token with
    | name text =>
      rw [forget_variableName_name]
      split
      · exact .unexpected _ _ _
      · exact .ok _
    | _ => exact .unexpected _ _ _

theorem noMismatch_constraint (tokens : List Token) : NoMismatch (constraint tokens).forget := by
  rw [forget_constraint]
  refine (noMismatch_className tokens).bind fun typeClass _ => ?_
  exact (noMismatch_variableName typeClass.2).bind fun _ _ => .ok _

theorem noMismatch_constraintsTail (tokens : List Token) : NoMismatch (constraintsTail tokens).forget := by
  by_cases comma : ∃ tokens', tokens = .comma :: tokens'
  · obtain ⟨tokens', eq⟩ := comma
    rw [eq, forget_constraintsTail_comma]
    refine (noMismatch_constraint tokens').bind fun first read => ?_
    have shorter : first.2.length < tokens.length := by
      rw [eq]
      exact Nat.lt_succ_of_lt (rest_lt_of_forget read)
    exact (noMismatch_constraintsTail first.2).bind fun _ _ => .ok _
  · rw [forget_constraintsTail_end fun rest' h' => comma ⟨rest', h'⟩]
    exact .ok _
termination_by tokens.length

theorem noMismatch_applicationOf (tokens : List Token) (head : Entry) (params : List Entry) (rest : List Token) :
    NoMismatch (applicationOf tokens head params rest) := by
  unfold applicationOf
  repeat' split
  · exact .ok _
  · exact .ok _
  · exact .unexpected _ _ _

/-! ## Where phrases fail -/

/-- An application fails for a bracket only in one of its parts. -/
theorem application_mismatch {tokens : List Token} {failure : Failure} {text : String}
    (h : Phrase.application.leaves tokens = .error failure) (mismatch : failure.error = .mismatchedBracket text) :
    Phrase.atom.leaves tokens = .error failure ∨
      ∃ rest, Phrase.atom.leaves tokens = .ok rest ∧ Phrase.parameters.leaves rest = .error failure := by
  have failed := restOf_eq_error_iff.mp h
  rw [forget_application] at failed
  rcases bind_eq_error_iff.mp failed with hhead | ⟨⟨head, rest⟩, hhead, h₁⟩
  · exact .inl (restOf_eq_error_iff.mpr hhead)
  rcases bind_eq_error_iff.mp h₁ with hparams | ⟨⟨params, rest'⟩, hparams, h₂⟩
  · exact .inr ⟨rest, restOf_eq_ok_iff.mpr ⟨_, hhead⟩, restOf_eq_error_iff.mpr hparams⟩
  · exact absurd mismatch (noMismatch_applicationOf _ _ _ _ _ h₂ _)

/-- What reads a name and then the two colons fails for a bracket only behind these. -/
theorem exists_named_of_mismatch {α : Type} {role : String} {tokens : List Token} {failure : Failure} {text : String}
    {typed : String × List Token → Except Failure α} {next : String → Unit × List Token → Except Failure α}
    (each : ∀ label rest, typed (label, rest) = (expect "::" rest).forget >>= next label) (spelled : AllSpelled tokens)
    (h : (name role tokens).forget >>= typed = .error failure) (mismatch : failure.error = .mismatchedBracket text) :
    ∃ label rest, tokens = .name label :: .symbol "::" :: rest := by
  rcases bind_eq_error_iff.mp h with failed | ⟨⟨label, rest⟩, hlabel, h₁⟩
  · exact absurd mismatch (noMismatch_name _ _ _ failed _)
  rw [each] at h₁
  rcases bind_eq_error_iff.mp h₁ with failed | ⟨⟨_, rest'⟩, htyped, -⟩
  · exact absurd mismatch (noMismatch_expect _ _ _ failed _)
  cases forget_name_eq_ok.mp hlabel
  cases eq_of_forget_expect typed_spelled spelled.tail htyped
  exact ⟨label, rest', rfl⟩

/-- A field fails for a bracket only in its type. -/
theorem field_mismatch {tokens : List Token} {failure : Failure} {text : String} (spelled : AllSpelled tokens)
    (h : Phrase.field.leaves tokens = .error failure) (mismatch : failure.error = .mismatchedBracket text) :
    ∃ label rest, tokens = .name label :: .symbol "::" :: rest ∧ Phrase.type.leaves rest = .error failure := by
  have failed := restOf_eq_error_iff.mp h
  rw [forget_field] at failed
  obtain ⟨label, rest, rfl⟩ := exists_named_of_mismatch (fun _ _ => rfl) spelled failed mismatch
  rw [Phrase.leaves_field_named] at h
  exact ⟨label, rest, rfl, h⟩

/-- No comma follows the constraints that are read. -/
theorem noComma_of_constraintsTail {tokens rest : List Token} {constraints : List Constraint}
    (h : (constraintsTail tokens).forget = .ok (constraints, rest)) : ∀ rest', rest ≠ .comma :: rest' := by
  by_cases comma : ∃ tokens', tokens = .comma :: tokens'
  · obtain ⟨tokens', eq⟩ := comma
    rw [eq, forget_constraintsTail_comma] at h
    obtain ⟨⟨first, rest₁⟩, hfirst, h₁⟩ := bind_eq_ok_iff.mp h
    obtain ⟨⟨others, rest₂⟩, hothers, h₂⟩ := bind_eq_ok_iff.mp h₁
    have shorter : rest₁.length < tokens.length := by
      rw [eq]
      exact Nat.lt_succ_of_lt (rest_lt_of_forget hfirst)
    cases h₂
    exact noComma_of_constraintsTail hothers
  · have ends : ∀ rest', tokens ≠ .comma :: rest' := fun rest' h' => comma ⟨rest', h'⟩
    rw [forget_constraintsTail_end ends] at h
    cases h
    exact ends
termination_by tokens.length

/-- Constraints fail for a bracket only where theirs has to be closed. -/
theorem context_mismatch {tokens : List Token} {failure : Failure} {text : String}
    (h : (context tokens).forget = .error failure) (mismatch : failure.error = .mismatchedBracket text) :
    ∃ tokens' first middle others rest, tokens = .opening .round :: tokens' ∧ ConstraintAt tokens' first middle ∧
      ConstraintsAt middle others rest ∧ (∀ rest', rest ≠ .comma :: rest') ∧ closes .round rest = .error failure := by
  by_cases round : ∃ tokens', tokens = .opening .round :: tokens'
  · obtain ⟨tokens', rfl⟩ := round
    rw [forget_context_round] at h
    rcases bind_eq_error_iff.mp h with failed | ⟨⟨first, middle⟩, hfirst, h₁⟩
    · exact absurd mismatch (noMismatch_constraint _ _ failed _)
    rcases bind_eq_error_iff.mp h₁ with failed | ⟨⟨others, rest⟩, hothers, h₂⟩
    · exact absurd mismatch (noMismatch_constraintsTail _ _ failed _)
    rcases bind_eq_error_iff.mp h₂ with failed | ⟨⟨_, rest'⟩, _, h₃⟩
    · exact ⟨tokens', first, middle, others, rest, rfl, constraintAt_of_forget hfirst, constraintsAt_of_forget hothers,
        noComma_of_constraintsTail hothers, restOf_eq_error_iff.mpr failed⟩
    rcases bind_eq_error_iff.mp h₃ with failed | ⟨_, _, h₄⟩
    · exact absurd mismatch (noMismatch_expect _ _ _ failed _)
    · cases h₄
  · rw [forget_context_single fun rest' h' => round ⟨rest', h'⟩] at h
    rcases bind_eq_error_iff.mp h with failed | ⟨⟨first, rest⟩, _, h₁⟩
    · exact absurd mismatch (noMismatch_constraint _ _ failed _)
    rcases bind_eq_error_iff.mp h₁ with failed | ⟨_, _, h₂⟩
    · exact absurd mismatch (noMismatch_expect _ _ _ failed _)
    · cases h₂

theorem context_of_unclosed {tokens middle rest : List Token} {c : Constraint} {others : List Constraint}
    {failure : Failure} (first : ConstraintAt tokens c middle) (more : ConstraintsAt middle others rest)
    (noComma : ∀ rest', rest ≠ .comma :: rest') (h : closes .round rest = .error failure) :
    (context (.opening .round :: tokens)).forget = .error failure := by
  rw [forget_context_round, forget_constraint_of_constraintAt first, ok_bind]
  refine bind_eq_error_iff.mpr (.inr ⟨_, forget_constraintsTail_of_constraintsAt more noComma, ?_⟩)
  exact bind_eq_error_iff.mpr (.inl (restOf_eq_error_iff.mp h))

/-! ## Signatures -/

theorem constraintsOf_free {tokens : List Token} (absent : .symbol "=>" ∉ tokens) :
    constraintsOf (tokens.contains .implies) tokens = .ok ([], tokens) := by
  have unasked : tokens.contains .implies = false := by
    rw [List.contains_eq_mem, decide_eq_false_iff_not]
    exact absent
  rw [constraintsOf, unasked]
  rfl

theorem constraintsOf_asked {tokens : List Token} (present : .symbol "=>" ∈ tokens) :
    constraintsOf (tokens.contains .implies) tokens = (context tokens).forget := by
  have asked : tokens.contains .implies = true := by
    rw [List.contains_eq_mem, decide_eq_true_eq]
    exact present
  rw [constraintsOf, asked]
  rfl

/-- Behind its name and the two colons a signature fails in its constraints, in its type, or behind it. -/
theorem signatureOfTokens_eq_error_iff {name : String} {tokens : List Token} {failure : Failure} :
    signatureOfTokens (.name name :: .symbol "::" :: tokens) = .error failure ↔
      constraintsOf (tokens.contains .implies) tokens = .error failure ∨
      ∃ constraints rest, constraintsOf (tokens.contains .implies) tokens = .ok (constraints, rest) ∧
        (Phrase.type.leaves rest = .error failure ∨
          ∃ rest', Phrase.type.leaves rest = .ok rest' ∧ finish rest' = .error failure) := by
  have asked : (Token.name name :: .symbol "::" :: tokens).contains .implies = tokens.contains .implies := rfl
  have typed := forget_expect_self (.symbol "::") tokens
  rw [signatureOfTokens, if_neg (by simp), asked, signature_eq, forget_name_self, ok_bind]
  show ((expect (Token.symbol "::").text _).forget >>= _) = _ ↔ _
  rw [typed, ok_bind, bind_eq_error_iff]
  refine or_congr_right ⟨?_, ?_⟩
  · rintro ⟨⟨constraints, rest⟩, read, h⟩
    refine ⟨constraints, rest, read, ?_⟩
    rcases bind_eq_error_iff.mp h with failed | ⟨⟨entry, rest'⟩, hentry, h'⟩
    · exact .inl (restOf_eq_error_iff.mpr failed)
    · rcases bind_eq_error_iff.mp h' with failed | ⟨_, _, h''⟩
      · exact .inr ⟨rest', restOf_eq_ok_iff.mpr ⟨entry, hentry⟩, failed⟩
      · cases h''
  · rintro ⟨constraints, rest, read, failed | ⟨rest', left, failed⟩⟩
    · exact ⟨_, read, bind_eq_error_iff.mpr (.inl (restOf_eq_error_iff.mp failed))⟩
    · obtain ⟨entry, hentry⟩ := restOf_eq_ok_iff.mp left
      refine ⟨_, read, bind_eq_error_iff.mpr (.inr ⟨_, hentry, ?_⟩)⟩
      exact bind_eq_error_iff.mpr (.inl failed)

/-- A reading that fails for a bracket has taken a name and the two colons. -/
theorem named_of_mismatch {tokens : List Token} {failure : Failure} {text : String} (spelled : AllSpelled tokens)
    (h : signatureOfTokens tokens = .error failure) (mismatch : failure.error = .mismatchedBracket text) :
    ∃ name rest, tokens = .name name :: .symbol "::" :: rest := by
  rw [signatureOfTokens] at h
  split at h
  · cases h
    cases mismatch
  · rw [signature_eq] at h
    exact exists_named_of_mismatch (fun _ _ => rfl) spelled h mismatch

end HMSignature.Grammar
