import HMSignature.Proofs.Grammar.Derivation
import HMSignature.Proofs.Grammar.Reader
import HMSignature.Proofs.Grammar.Spelling
/-!
# What is read stands there

Whatever a reader gives derives from the tokens that it took. The readers compare tokens by their texts, so the tokens
have to be spelled as their kinds say, which the tokens of a text are.

Results:
1. `typeAt_of_forget`: a type that is read stands at the front of the tokens;
2. `signatureOf_of_signature`: a signature that is read derives from all of them.
-/

namespace HMSignature.Grammar

/-- All tokens are spelled by characters of their classes. -/
def AllSpelled (tokens : List Token) : Prop := ∀ token ∈ tokens, token.Spelled

namespace AllSpelled

theorem tail {token : Token} {tokens : List Token} (h : AllSpelled (token :: tokens)) : AllSpelled tokens :=
  fun other member => h other (List.mem_cons_of_mem _ member)

theorem after {tokens rest : List Token} (h : AllSpelled tokens) (passes : PassesOver tokens rest) :
    AllSpelled rest :=
  fun other member => h other (passes.suffix.subset member)

end AllSpelled

namespace Read

/-- A token that is compared with the text of a well-spelled token is that token. -/
theorem eq_of_forget_expect {wanted : Token} {tokens rest : List Token} {u : Unit} (known : wanted.Spelled)
    (spelled : AllSpelled tokens) (h : (expect wanted.text tokens).forget = .ok (u, rest)) :
    tokens = wanted :: rest := by
  obtain ⟨token, rfl, same⟩ := forget_expect_eq_ok.mp h
  rw [Token.eq_of_text_eq (spelled token List.mem_cons_self) known same]

theorem eq_of_forget_close (bracket : Bracket) {tokens rest : List Token} {u : Unit}
    (spelled : AllSpelled tokens) (h : (close (Token.closing bracket).text tokens).forget = .ok (u, rest)) :
    tokens = .closing bracket :: rest := by
  obtain ⟨token, rfl, same⟩ := forget_close_eq_ok.mp h
  rw [Token.eq_of_text_eq (spelled token List.mem_cons_self) (Token.spelled_of_special rfl) same]

theorem typed_spelled : (Token.symbol "::").Spelled := by decide

theorem implies_spelled : (Token.symbol "=>").Spelled := by decide

theorem atomAt_bareName (text : String) (rest : List Token) : AtomAt (.name text :: rest) (bareName text) rest := by
  unfold bareName
  cases capital : isCapitalized text with
  | true => exact .upper capital
  | false => exact .lower capital

/-- An application that is accepted meets the condition on the head. -/
theorem applicationAt_of_applicationOf {tokens middle rest rest' : List Token} {head entry : Entry} {params : List Entry}
    (headAt : AtomAt tokens head middle) (paramsAt : AtomsAt middle params rest)
    (h : applicationOf tokens head params rest = .ok (entry, rest')) :
    ApplicationAt tokens entry rest' := by
  cases params with
  | nil =>
    cases paramsAt
    cases h
    exact .bare headAt
  | cons first others =>
    obtain ⟨kind, name, children⟩ := head
    cases kind with
    | constructor =>
      cases children with
      | nil =>
        cases h
        exact .upper headAt paramsAt
      | cons _ _ => cases h
    | var =>
      cases headAt.leaf_of_var
      cases h
      exact .lower headAt paramsAt
    | _ => cases h

/-! ## One rule at a time

Every bracket and every field holds a type that is shorter than the phrase it stands in. So each rule is shown for
phrases of at most `n` tokens under the assumption that types of less than `n` tokens are read soundly, and the
assumption goes away at the end. -/

/-- Types of less than `n` tokens are read soundly. -/
def SoundBelow (n : Nat) : Prop :=
  ∀ {tokens rest : List Token} {entry : Entry}, tokens.length < n → AllSpelled tokens →
    (type tokens).forget = .ok (entry, rest) → TypeAt tokens entry rest

section Rules

variable {n : Nat} {tokens rest : List Token}

theorem fieldAt_of_forget (below : SoundBelow n) {entry : Entry} (short : tokens.length ≤ n)
    (spelled : AllSpelled tokens) (h : (field tokens).forget = .ok (entry, rest)) : FieldAt tokens entry rest := by
  rw [forget_field] at h
  obtain ⟨⟨label, rest₁⟩, hlabel, h₁⟩ := bind_eq_ok_iff.mp h
  obtain ⟨⟨⟨⟩, rest₂⟩, htyped, h₂⟩ := bind_eq_ok_iff.mp h₁
  obtain ⟨⟨inner, rest₃⟩, hinner, h₃⟩ := bind_eq_ok_iff.mp h₂
  cases forget_name_eq_ok.mp hlabel
  cases eq_of_forget_expect typed_spelled spelled.tail htyped
  cases h₃
  simp only [List.length_cons] at short
  exact .mk (below (by omega) spelled.tail.tail hinner)

theorem fieldsAt_of_forget (below : SoundBelow n) {tokens rest : List Token} {entries : List Entry}
    (short : tokens.length ≤ n) (spelled : AllSpelled tokens)
    (h : (fieldsTail tokens).forget = .ok (entries, rest)) :
    FieldsAt tokens entries rest := by
  by_cases comma : ∃ tokens', tokens = .comma :: tokens'
  · obtain ⟨tokens', eq⟩ := comma
    rw [eq, forget_fieldsTail_comma] at h
    rw [eq] at short spelled
    obtain ⟨⟨first, rest₁⟩, hfirst, h₁⟩ := bind_eq_ok_iff.mp h
    obtain ⟨⟨others, rest₂⟩, hothers, h₂⟩ := bind_eq_ok_iff.mp h₁
    have shorter := rest_lt_of_forget hfirst
    simp only [List.length_cons] at short
    have firstAt := fieldAt_of_forget below (by omega) spelled.tail hfirst
    -- `tokens` stays a variable up to here: the recursion has to see that fewer of them are left.
    have decreasing : rest₁.length < tokens.length := by
      rw [eq, List.length_cons]
      omega
    have othersAt := fieldsAt_of_forget below (by omega) (spelled.tail.after firstAt.passesOver) hothers
    cases h₂
    rw [eq]
    exact .more firstAt othersAt
  · rw [forget_fieldsTail_end fun rest' h' => comma ⟨rest', h'⟩] at h
    cases h
    exact .none
termination_by tokens.length
decreasing_by exact decreasing

theorem roundAt_of_forget (below : SoundBelow n) {entry : Entry} (short : tokens.length < n)
    (spelled : AllSpelled tokens) (h : (atom (.opening .round :: tokens)).forget = .ok (entry, rest)) :
    AtomAt (.opening .round :: tokens) entry rest := by
  by_cases closes : ∃ tokens', tokens = .closing .round :: tokens'
  · obtain ⟨tokens', rfl⟩ := closes
    rw [forget_atom_thunk] at h
    cases h
    exact .thunk
  · rw [forget_atom_round fun rest' h' => closes ⟨rest', h'⟩] at h
    obtain ⟨⟨inner, rest₁⟩, hinner, h₁⟩ := bind_eq_ok_iff.mp h
    obtain ⟨⟨⟨⟩, rest₂⟩, hclose, h₂⟩ := bind_eq_ok_iff.mp h₁
    have innerAt := below short spelled hinner
    cases eq_of_forget_close .round (spelled.after innerAt.passesOver) hclose
    cases h₂
    exact .bracketed innerAt

theorem squareAt_of_forget (below : SoundBelow n) {entry : Entry} (short : tokens.length < n)
    (spelled : AllSpelled tokens) (h : (atom (.opening .square :: tokens)).forget = .ok (entry, rest)) :
    AtomAt (.opening .square :: tokens) entry rest := by
  rw [forget_atom_square] at h
  obtain ⟨⟨element, rest₁⟩, helement, h₁⟩ := bind_eq_ok_iff.mp h
  obtain ⟨⟨⟨⟩, rest₂⟩, hclose, h₂⟩ := bind_eq_ok_iff.mp h₁
  have elementAt := below short spelled helement
  cases eq_of_forget_close .square (spelled.after elementAt.passesOver) hclose
  cases h₂
  exact .list elementAt

theorem curlyAt_of_forget (below : SoundBelow n) {entry : Entry} (short : tokens.length < n)
    (spelled : AllSpelled tokens) (h : (atom (.opening .curly :: tokens)).forget = .ok (entry, rest)) :
    AtomAt (.opening .curly :: tokens) entry rest := by
  by_cases closes : ∃ tokens', tokens = .closing .curly :: tokens'
  · obtain ⟨tokens', rfl⟩ := closes
    rw [forget_atom_emptyRecord] at h
    cases h
    exact .emptyRecord
  · rw [forget_atom_record fun rest' h' => closes ⟨rest', h'⟩] at h
    obtain ⟨⟨first, rest₁⟩, hfirst, h₁⟩ := bind_eq_ok_iff.mp h
    obtain ⟨⟨others, rest₂⟩, hothers, h₂⟩ := bind_eq_ok_iff.mp h₁
    obtain ⟨⟨⟨⟩, rest₃⟩, hclose, h₃⟩ := bind_eq_ok_iff.mp h₂
    have shorter := rest_lt_of_forget hfirst
    have firstAt := fieldAt_of_forget below (by omega) spelled hfirst
    have afterFirst := spelled.after firstAt.passesOver
    have othersAt := fieldsAt_of_forget below (by omega) afterFirst hothers
    cases eq_of_forget_close .curly (afterFirst.after othersAt.passesOver) hclose
    cases h₃
    exact .record firstAt othersAt

theorem atomAt_of_forget (below : SoundBelow n) {entry : Entry} (short : tokens.length ≤ n)
    (spelled : AllSpelled tokens) (h : (atom tokens).forget = .ok (entry, rest)) : AtomAt tokens entry rest := by
  cases tokens with
  | nil =>
    rw [forget_atom_nil] at h
    cases h
  | cons token tokens =>
    cases token with
    | name text =>
      rw [forget_atom_name] at h
      cases h
      exact atomAt_bareName text _
    | symbol text =>
      rw [forget_atom_symbol] at h
      cases h
    | opening bracket =>
      cases bracket with
      | round => exact roundAt_of_forget below short spelled.tail h
      | square => exact squareAt_of_forget below short spelled.tail h
      | curly => exact curlyAt_of_forget below short spelled.tail h
    | closing bracket =>
      rw [forget_atom_closing] at h
      cases h
    | comma =>
      rw [forget_atom_comma] at h
      cases h

theorem atomsAt_of_forget (below : SoundBelow n) {tokens rest : List Token} {entries : List Entry}
    (short : tokens.length ≤ n) (spelled : AllSpelled tokens)
    (h : (parameters tokens).forget = .ok (entries, rest)) :
    AtomsAt tokens entries rest := by
  cases starts : startsAtom tokens with
  | false =>
    rw [forget_parameters_end starts] at h
    cases h
    exact .none
  | true =>
    rw [forget_parameters_of_atom starts] at h
    obtain ⟨⟨first, rest₁⟩, hfirst, h₁⟩ := bind_eq_ok_iff.mp h
    obtain ⟨⟨others, rest₂⟩, hothers, h₂⟩ := bind_eq_ok_iff.mp h₁
    have shorter := rest_lt_of_forget hfirst
    have firstAt := atomAt_of_forget below short spelled hfirst
    have othersAt := atomsAt_of_forget below (by omega) (spelled.after firstAt.passesOver) hothers
    cases h₂
    exact .more firstAt othersAt
termination_by tokens.length

theorem applicationAt_of_forget (below : SoundBelow n) {entry : Entry} (short : tokens.length ≤ n)
    (spelled : AllSpelled tokens) (h : (application tokens).forget = .ok (entry, rest)) :
    ApplicationAt tokens entry rest := by
  rw [forget_application] at h
  obtain ⟨⟨head, rest₁⟩, hhead, h₁⟩ := bind_eq_ok_iff.mp h
  obtain ⟨⟨params, rest₂⟩, hparams, h₂⟩ := bind_eq_ok_iff.mp h₁
  have shorter := rest_lt_of_forget hhead
  have headAt := atomAt_of_forget below short spelled hhead
  have paramsAt := atomsAt_of_forget below (by omega) (spelled.after headAt.passesOver) hparams
  exact applicationAt_of_applicationOf headAt paramsAt h₂

theorem segmentsAt_of_forget (below : SoundBelow n) {tokens rest : List Token} {entries : List Entry}
    (short : tokens.length ≤ n) (spelled : AllSpelled tokens)
    (h : (segmentsTail tokens).forget = .ok (entries, rest)) :
    SegmentsAt tokens entries rest := by
  by_cases arrow : ∃ tokens', tokens = .symbol "->" :: tokens'
  · obtain ⟨tokens', eq⟩ := arrow
    rw [eq, forget_segmentsTail_arrow] at h
    rw [eq] at short spelled
    obtain ⟨⟨first, rest₁⟩, hfirst, h₁⟩ := bind_eq_ok_iff.mp h
    obtain ⟨⟨others, rest₂⟩, hothers, h₂⟩ := bind_eq_ok_iff.mp h₁
    have shorter := rest_lt_of_forget hfirst
    simp only [List.length_cons] at short
    have firstAt := applicationAt_of_forget below (by omega) spelled.tail hfirst
    have decreasing : rest₁.length < tokens.length := by
      rw [eq, List.length_cons]
      omega
    have othersAt := segmentsAt_of_forget below (by omega) (spelled.tail.after firstAt.passesOver) hothers
    cases h₂
    rw [eq]
    exact .more firstAt othersAt
  · rw [forget_segmentsTail_end fun rest' h' => arrow ⟨rest', h'⟩] at h
    cases h
    exact .none
termination_by tokens.length
decreasing_by exact decreasing

theorem typeAt_of_forget_of_below (below : SoundBelow n) {entry : Entry} (short : tokens.length ≤ n)
    (spelled : AllSpelled tokens) (h : (type tokens).forget = .ok (entry, rest)) : TypeAt tokens entry rest := by
  rw [forget_type] at h
  obtain ⟨⟨first, rest₁⟩, hfirst, h₁⟩ := bind_eq_ok_iff.mp h
  obtain ⟨⟨others, rest₂⟩, hothers, h₂⟩ := bind_eq_ok_iff.mp h₁
  have shorter := rest_lt_of_forget hfirst
  have firstAt := applicationAt_of_forget below short spelled hfirst
  have othersAt := segmentsAt_of_forget below (by omega) (spelled.after firstAt.passesOver) hothers
  cases h₂
  cases others with
  | nil =>
    cases othersAt
    exact .single firstAt
  | cons second others => exact .function firstAt othersAt

end Rules

theorem soundBelow (n : Nat) : SoundBelow n := by
  -- The rules never ask for a type as long as the phrase itself, so one step of the bound is enough.
  induction n with
  | zero => exact fun short => absurd short (Nat.not_lt_zero _)
  | succ n ih => exact fun short => typeAt_of_forget_of_below ih (Nat.le_of_lt_succ short)

/-- A type that is read stands at the front of the tokens, and what is left follows it. -/
theorem typeAt_of_forget {tokens rest : List Token} {entry : Entry} (spelled : AllSpelled tokens)
    (h : (type tokens).forget = .ok (entry, rest)) : TypeAt tokens entry rest :=
  soundBelow (tokens.length + 1) (Nat.lt_succ_self _) spelled h

/-! ## Signatures -/

theorem constraintAt_of_forget {tokens rest : List Token} {c : Constraint}
    (h : (constraint tokens).forget = .ok (c, rest)) : ConstraintAt tokens c rest := by
  rw [forget_constraint] at h
  obtain ⟨⟨typeClass, rest₁⟩, hclass, h₁⟩ := bind_eq_ok_iff.mp h
  obtain ⟨⟨typeVar, rest₂⟩, hvar, h₂⟩ := bind_eq_ok_iff.mp h₁
  obtain ⟨rfl, capital⟩ := forget_className_eq_ok.mp hclass
  obtain ⟨rfl, small⟩ := forget_variableName_eq_ok.mp hvar
  cases h₂
  exact .mk capital small

theorem constraintsAt_of_forget {tokens rest : List Token} {constraints : List Constraint}
    (h : (constraintsTail tokens).forget = .ok (constraints, rest)) : ConstraintsAt tokens constraints rest := by
  by_cases comma : ∃ tokens', tokens = .comma :: tokens'
  · obtain ⟨tokens', eq⟩ := comma
    rw [eq, forget_constraintsTail_comma] at h
    obtain ⟨⟨first, rest₁⟩, hfirst, h₁⟩ := bind_eq_ok_iff.mp h
    obtain ⟨⟨others, rest₂⟩, hothers, h₂⟩ := bind_eq_ok_iff.mp h₁
    have shorter := rest_lt_of_forget hfirst
    have decreasing : rest₁.length < tokens.length := by
      rw [eq, List.length_cons]
      omega
    have othersAt := constraintsAt_of_forget hothers
    cases h₂
    rw [eq]
    exact .more (constraintAt_of_forget hfirst) othersAt
  · rw [forget_constraintsTail_end fun rest' h' => comma ⟨rest', h'⟩] at h
    cases h
    exact .none
termination_by tokens.length
decreasing_by exact decreasing

theorem contextAt_of_forget {tokens rest : List Token} {constraints : List Constraint} (spelled : AllSpelled tokens)
    (h : (context tokens).forget = .ok (constraints, rest)) :
    ContextAt tokens constraints (.symbol "=>" :: rest) := by
  by_cases round : ∃ tokens', tokens = .opening .round :: tokens'
  · obtain ⟨tokens', rfl⟩ := round
    rw [forget_context_round] at h
    obtain ⟨⟨first, rest₁⟩, hfirst, h₁⟩ := bind_eq_ok_iff.mp h
    obtain ⟨⟨others, rest₂⟩, hothers, h₂⟩ := bind_eq_ok_iff.mp h₁
    obtain ⟨⟨⟨⟩, rest₃⟩, hclose, h₃⟩ := bind_eq_ok_iff.mp h₂
    obtain ⟨⟨⟨⟩, rest₄⟩, himplies, h₄⟩ := bind_eq_ok_iff.mp h₃
    have firstAt := constraintAt_of_forget hfirst
    have othersAt := constraintsAt_of_forget hothers
    have afterOthers := (spelled.tail.after firstAt.passesOver).after othersAt.passesOver
    cases eq_of_forget_close .round afterOthers hclose
    cases eq_of_forget_expect implies_spelled afterOthers.tail himplies
    cases h₄
    exact .several firstAt othersAt
  · rw [forget_context_single fun rest' h' => round ⟨rest', h'⟩] at h
    obtain ⟨⟨first, rest₁⟩, hfirst, h₁⟩ := bind_eq_ok_iff.mp h
    obtain ⟨⟨⟨⟩, rest₂⟩, himplies, h₂⟩ := bind_eq_ok_iff.mp h₁
    have firstAt := constraintAt_of_forget hfirst
    cases eq_of_forget_expect implies_spelled (spelled.after firstAt.passesOver) himplies
    cases h₂
    exact .single firstAt

/-- A signature that is read derives from all the tokens, whichever way its constraints were decided on. -/
theorem signatureOf_of_signature {constrained : Bool} {tokens : List Token} {s : Signature}
    (spelled : AllSpelled tokens) (h : signature constrained tokens = .ok s) : SignatureOf tokens s := by
  rw [signature_eq] at h
  obtain ⟨⟨label, rest₁⟩, hlabel, h₁⟩ := bind_eq_ok_iff.mp h
  obtain ⟨⟨⟨⟩, rest₂⟩, htyped, h₂⟩ := bind_eq_ok_iff.mp h₁
  obtain ⟨⟨constraints, rest₃⟩, hconstraints, h₃⟩ := bind_eq_ok_iff.mp h₂
  obtain ⟨⟨entry, rest₄⟩, hentry, h₄⟩ := bind_eq_ok_iff.mp h₃
  obtain ⟨⟨⟩, hfinish, h₅⟩ := bind_eq_ok_iff.mp h₄
  cases forget_name_eq_ok.mp hlabel
  cases eq_of_forget_expect typed_spelled spelled.tail htyped
  cases finish_eq_ok_iff.mp hfinish
  cases h₅
  -- The name and the two colons are behind; only here the two kinds of signature differ.
  have spelled₂ := spelled.tail.tail
  cases constrained with
  | false =>
    cases hconstraints
    exact .free (typeAt_of_forget spelled₂ hentry)
  | true =>
    have contextAt := contextAt_of_forget spelled₂ hconstraints
    exact .constrained contextAt (typeAt_of_forget (spelled₂.after contextAt.passesOver).tail hentry)

end Read

end HMSignature.Grammar
