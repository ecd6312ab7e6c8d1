import HMSignature.Grammar.Session
import HMSignature.Proofs.Grammar.Soundness
/-!
# What stands there is read

The other direction, and with it the whole: a text is read as a signature exactly when its tokens derive from the
grammar.

A derivation may end anywhere, while a reader goes on as long as it can. So what follows matters here: a reader stops
where the derivation does when nothing follows that could continue the phrase. Whatever stands behind a phrase inside a
larger one is of that kind, and that is checked rule by rule along the derivation.

Results:
1. `forget_type_of_typeAt`: a type that nothing continues is read;
2. `SignatureOf.unique`: the grammar is unambiguous;
3. `parse_eq_ok_iff_derives`: reading a text is deriving its tokens.
-/

namespace HMSignature.Grammar

/-! ## What may follow a phrase -/

/-- Nothing that continues a type: no parameter and no arrow. -/
structure EndsType (rest : List Token) : Prop where
  noAtom : Read.startsAtom rest = false
  noArrow : ∀ rest', rest ≠ .symbol "->" :: rest'

namespace EndsType

theorem nil : EndsType [] := ⟨rfl, by simp⟩

theorem closing (bracket : Bracket) (rest : List Token) : EndsType (.closing bracket :: rest) := ⟨rfl, by simp⟩

theorem comma (rest : List Token) : EndsType (.comma :: rest) := ⟨rfl, by simp⟩

end EndsType

theorem SegmentsAt.noAtom {tokens rest : List Token} {entries : List Entry} (h : SegmentsAt tokens entries rest)
    (ends : EndsType rest) : Read.startsAtom tokens = false := by
  cases h with
  | none => exact ends.noAtom
  | more _ _ => rfl

theorem FieldsAt.endsType {tokens rest : List Token} {entries : List Entry} (h : FieldsAt tokens entries rest)
    (ends : EndsType rest) : EndsType tokens := by
  cases h with
  | none => exact ends
  | more _ _ => exact .comma _

theorem ne_closing_of_startsAtom {tokens : List Token} (h : Read.startsAtom tokens = true) (bracket : Bracket) :
    ∀ rest, tokens ≠ .closing bracket :: rest := by
  rintro rest rfl
  cases h

theorem FieldAt.ne_closing {tokens rest : List Token} {entry : Entry} (h : FieldAt tokens entry rest)
    (bracket : Bracket) : ∀ rest', tokens ≠ .closing bracket :: rest' := by
  cases h
  simp

namespace Read

theorem forget_expect_self (token : Token) (rest : List Token) :
    (expect token.text (token :: rest)).forget = .ok ((), rest) :=
  forget_expect_eq_ok.mpr ⟨token, rfl, rfl⟩

theorem forget_close_self (bracket : Bracket) (rest : List Token) :
    (close (Token.closing bracket).text (.closing bracket :: rest)).forget = .ok ((), rest) :=
  forget_close_eq_ok.mpr ⟨.closing bracket, rfl, rfl⟩

theorem forget_name_self (role text : String) (rest : List Token) :
    (name role (.name text :: rest)).forget = .ok (text, rest) :=
  forget_name_eq_ok.mpr rfl

mutual

theorem forget_type_of_typeAt {tokens rest : List Token} {entry : Entry} :
    TypeAt tokens entry rest → EndsType rest → (type tokens).forget = .ok (entry, rest)
  | .single h, ends => by
    have first := forget_application_of_applicationAt h ends.noAtom
    simp only [forget_type, first, ok_bind, forget_segmentsTail_end ends.noArrow]
    rfl
  | .function h hs, ends => by
    -- An arrow follows the first segment, so its parameters end where they should.
    have first := forget_application_of_applicationAt h (hs.noAtom ends)
    have others := forget_segmentsTail_of_segmentsAt hs ends
    simp only [forget_type, first, ok_bind, others]
    rfl

theorem forget_segmentsTail_of_segmentsAt {tokens rest : List Token} {entries : List Entry} :
    SegmentsAt tokens entries rest → EndsType rest → (segmentsTail tokens).forget = .ok (entries, rest)
  | .none, ends => forget_segmentsTail_end ends.noArrow
  | .more h hs, ends => by
    have first := forget_application_of_applicationAt h (hs.noAtom ends)
    have others := forget_segmentsTail_of_segmentsAt hs ends
    simp only [forget_segmentsTail_arrow, first, ok_bind, others]
    rfl

theorem forget_application_of_applicationAt {tokens rest : List Token} {entry : Entry} :
    ApplicationAt tokens entry rest → startsAtom rest = false → (application tokens).forget = .ok (entry, rest)
  | .bare h, ends => by
    simp only [forget_application, forget_atom_of_atomAt h, ok_bind, forget_parameters_end ends]
    rfl
  | .upper h hs, ends => by
    have params := forget_parameters_of_atomsAt hs ends
    simp only [forget_application, forget_atom_of_atomAt h, ok_bind, params]
    rfl
  | .lower h hs, ends => by
    have params := forget_parameters_of_atomsAt hs ends
    simp only [forget_application, forget_atom_of_atomAt h, ok_bind, params]
    rfl

theorem forget_parameters_of_atomsAt {tokens rest : List Token} {entries : List Entry} :
    AtomsAt tokens entries rest → startsAtom rest = false → (parameters tokens).forget = .ok (entries, rest)
  | .none, ends => forget_parameters_end ends
  | .more h hs, ends => by
    have others := forget_parameters_of_atomsAt hs ends
    simp only [forget_parameters_of_atom h.startsAtom, forget_atom_of_atomAt h, ok_bind, others]
    rfl

theorem forget_atom_of_atomAt {tokens rest : List Token} {entry : Entry} :
    AtomAt tokens entry rest → (atom tokens).forget = .ok (entry, rest)
  | .upper capital => by rw [forget_atom_name, bareName, if_pos capital]
  | .lower small => by rw [forget_atom_name, bareName, if_neg (by simp [small])]
  | .list h => by
    -- Inside of brackets the closing one follows, whatever stands behind it.
    have element := forget_type_of_typeAt h (.closing _ _)
    simp only [forget_atom_square, element, ok_bind]
    exact bind_eq_ok_iff.mpr ⟨_, forget_close_self .square _, rfl⟩
  | .emptyRecord => forget_atom_emptyRecord _
  | .record h hs => by
    have first := forget_field_of_fieldAt h (hs.endsType (.closing _ _))
    have others := forget_fieldsTail_of_fieldsAt hs (.closing _ _) (by simp)
    simp only [forget_atom_record (h.ne_closing _), first, ok_bind, others]
    exact bind_eq_ok_iff.mpr ⟨_, forget_close_self .curly _, rfl⟩
  | .thunk => forget_atom_thunk _
  | .bracketed h => by
    -- A type starts with no closing bracket, so these brackets are not taken for empty ones.
    have inner := forget_type_of_typeAt h (.closing _ _)
    simp only [forget_atom_round (ne_closing_of_startsAtom h.startsAtom _), inner, ok_bind]
    exact bind_eq_ok_iff.mpr ⟨_, forget_close_self .round _, rfl⟩

theorem forget_field_of_fieldAt {tokens rest : List Token} {entry : Entry} :
    FieldAt tokens entry rest → EndsType rest → (field tokens).forget = .ok (entry, rest)
  | .mk h, ends => by
    have inner := forget_type_of_typeAt h ends
    rw [forget_field, forget_name_self, ok_bind]
    refine bind_eq_ok_iff.mpr ⟨_, forget_expect_self (.symbol "::") _, ?_⟩
    simp only [inner, ok_bind]
    rfl

theorem forget_fieldsTail_of_fieldsAt {tokens rest : List Token} {entries : List Entry} :
    FieldsAt tokens entries rest → EndsType rest → (∀ rest', rest ≠ .comma :: rest') →
      (fieldsTail tokens).forget = .ok (entries, rest)
  | .none, _, noComma => forget_fieldsTail_end noComma
  | .more h hs, ends, noComma => by
    have first := forget_field_of_fieldAt h (hs.endsType ends)
    have others := forget_fieldsTail_of_fieldsAt hs ends noComma
    simp only [forget_fieldsTail_comma, first, ok_bind, others]
    rfl

end

/-! ## Signatures -/

theorem forget_constraint_of_constraintAt {tokens rest : List Token} {c : Constraint}
    (h : ConstraintAt tokens c rest) : (constraint tokens).forget = .ok (c, rest) := by
  cases h with
  | mk capital small =>
    rw [forget_constraint]
    refine bind_eq_ok_iff.mpr ⟨_, forget_className_eq_ok.mpr ⟨rfl, capital⟩, ?_⟩
    exact bind_eq_ok_iff.mpr ⟨_, forget_variableName_eq_ok.mpr ⟨rfl, small⟩, rfl⟩

theorem forget_constraintsTail_of_constraintsAt {tokens rest : List Token} {constraints : List Constraint}
    (h : ConstraintsAt tokens constraints rest) (noComma : ∀ rest', rest ≠ .comma :: rest') :
    (constraintsTail tokens).forget = .ok (constraints, rest) := by
  induction h with
  | none => exact forget_constraintsTail_end noComma
  | more h _ ih =>
    have first := forget_constraint_of_constraintAt h
    simp only [forget_constraintsTail_comma, first, ok_bind, ih noComma]
    rfl

theorem forget_context_of_contextAt {tokens rest : List Token} {constraints : List Constraint}
    (h : ContextAt tokens constraints (.symbol "=>" :: rest)) :
    (context tokens).forget = .ok (constraints, rest) := by
  cases h with
  | single h =>
    have first := forget_constraint_of_constraintAt h
    rw [forget_context_single (by cases h; simp), first, ok_bind]
    exact bind_eq_ok_iff.mpr ⟨_, forget_expect_self (.symbol "=>") _, rfl⟩
  | several h hs =>
    have first := forget_constraint_of_constraintAt h
    have others := forget_constraintsTail_of_constraintsAt hs (by simp)
    simp only [forget_context_round, first, ok_bind, others]
    refine bind_eq_ok_iff.mpr ⟨_, forget_close_self .round _, ?_⟩
    exact bind_eq_ok_iff.mpr ⟨_, forget_expect_self (.symbol "=>") _, rfl⟩

theorem signature_of_parts {constrained : Bool} {label : String} {tokens rest : List Token}
    {constraints : List Constraint} {entry : Entry}
    (hconstraints : constraintsOf constrained tokens = .ok (constraints, rest)) (h : TypeAt rest entry []) :
    signature constrained (.name label :: .symbol "::" :: tokens) = .ok ⟨label, constraints, entry⟩ := by
  have hentry := forget_type_of_typeAt h .nil
  rw [signature_eq, forget_name_self, ok_bind]
  refine bind_eq_ok_iff.mpr ⟨_, forget_expect_self (.symbol "::") _, ?_⟩
  simp only [hconstraints, ok_bind, hentry]
  rfl

end Read

/-- A signature that derives from tokens is read from them. The question for a double arrow among all the tokens is
answered rightly: no type holds one, and constraints are followed by one. -/
theorem signatureOfTokens_of_signatureOf {tokens : List Token} {s : Signature} (h : SignatureOf tokens s) :
    signatureOfTokens tokens = .ok s := by
  cases h with
  | @free name tokens entry h =>
    have absent : (Token.name name :: .symbol "::" :: tokens).contains .implies = false := by
      obtain ⟨passed, rfl, absent⟩ := h.passesOver
      rw [List.contains_eq_mem, decide_eq_false_iff_not]
      simpa [Token.implies] using absent
    rw [signatureOfTokens, if_neg (by simp), absent]
    exact Read.signature_of_parts rfl h
  | @constrained name tokens rest constraints entry hc h =>
    have present : (Token.name name :: .symbol "::" :: tokens).contains .implies = true := by
      have inTokens : Token.symbol "=>" ∈ tokens := hc.passesOver.suffix.subset List.mem_cons_self
      rw [List.contains_eq_mem, decide_eq_true_eq]
      exact List.mem_cons_of_mem _ (List.mem_cons_of_mem _ inTokens)
    rw [signatureOfTokens, if_neg (by simp), present]
    refine Read.signature_of_parts ?_ h
    exact Read.forget_context_of_contextAt hc

/-- A signature is read from tokens exactly when it derives from them. -/
theorem signatureOfTokens_eq_ok_iff {tokens : List Token} {s : Signature} (spelled : AllSpelled tokens) :
    signatureOfTokens tokens = .ok s ↔ SignatureOf tokens s := by
  constructor
  · intro h
    rw [signatureOfTokens] at h
    split at h
    · cases h
    · exact Read.signatureOf_of_signature spelled h
  · exact signatureOfTokens_of_signatureOf

/-- The grammar is unambiguous: one list of tokens has one signature. -/
theorem SignatureOf.unique {tokens : List Token} {s s' : Signature} (h : SignatureOf tokens s)
    (h' : SignatureOf tokens s') : s = s' := by
  have same := (signatureOfTokens_of_signatureOf h).symm.trans (signatureOfTokens_of_signatureOf h')
  exact Except.ok.inj same

/-! ## Texts -/

theorem parse_eq_ok_iff {text : String} {s : Signature} :
    parse text = .ok s ↔ ∃ tokens, tokenize text = .ok tokens ∧ SignatureOf tokens s := by
  constructor
  · intro h
    obtain ⟨tokens, htokens, h'⟩ := bind_eq_ok_iff.mp h
    refine ⟨tokens, htokens, ?_⟩
    rw [← signatureOfTokens_eq_ok_iff (spelled_of_tokenize htokens)]
    cases hread : signatureOfTokens tokens with
    | error failure =>
      rw [hread] at h'
      cases h'
    | ok s' =>
      rw [hread] at h'
      cases h'
      rfl
  · rintro ⟨tokens, htokens, derived⟩
    refine bind_eq_ok_iff.mpr ⟨tokens, htokens, ?_⟩
    rw [signatureOfTokens_of_signatureOf derived]
    rfl

/-- A session at the start of the tokens of a signature reads it and is at their end then. -/
theorem run_signature_of_signatureOf {tokens : List Token} {s : Signature} (h : SignatureOf tokens s) :
    Session.run ⟨tokens, 0⟩ .signature = (.ok (.signature s), ⟨tokens, tokens.length⟩) := by
  have hread := signatureOfTokens_of_signatureOf h
  rw [signatureOfTokens] at hread
  split at hread
  · cases hread
  · rename_i nonempty
    simp only [Session.run, Session.wholeSignature, if_neg nonempty, Session.rest, List.drop_zero, hread,
      Session.leave, List.length_nil, Nat.sub_zero]

/-- Reading a text is deriving its tokens. A text is read as a signature exactly when it has tokens and they derive
from the grammar, the signature is the one of the derivation, no other signature derives from the same tokens, and all
of them have been taken. -/
theorem parse_eq_ok_iff_derives (text : String) (s : Signature) :
    (parse text = .ok s ↔ ∃ tokens, tokenize text = .ok tokens ∧ SignatureOf tokens s) ∧
    (∀ tokens s', tokenize text = .ok tokens → SignatureOf tokens s → SignatureOf tokens s' → s' = s) ∧
    (∀ tokens, tokenize text = .ok tokens → parse text = .ok s →
      Session.run ⟨tokens, 0⟩ .signature = (.ok (.signature s), ⟨tokens, tokens.length⟩)) := by
  refine ⟨parse_eq_ok_iff, ?_, ?_⟩
  · intro tokens s' _ h h'
    exact h'.unique h
  · intro tokens htokens h
    -- The tokens of the derivation are these, since a text has only one list of tokens.
    obtain ⟨tokens', htokens', derived⟩ := parse_eq_ok_iff.mp h
    cases htokens.symm.trans htokens'
    exact run_signature_of_signatureOf derived

theorem parse_map :
    parse "map :: Functor f => (a -> b) -> f a" =
      .ok ⟨"map", [⟨"Functor", "f"⟩], .function [.function [.var "a", .var "b"], .constrained "f" [.var "a"]]⟩ := by
  have input (rest : List Token) :
      AtomAt (.opening .round :: .name "a" :: .symbol "->" :: .name "b" :: .closing .round :: rest)
        (.function [.var "a", .var "b"]) rest :=
    .bracketed (.function (.bare (.lower (by decide))) (.more (.bare (.lower (by decide))) .none))
  have output : ApplicationAt [.name "f", .name "a"] (.constrained "f" [.var "a"]) [] :=
    .lower (.lower (by decide)) (.more (.lower (by decide)) .none)
  refine (parse_eq_ok_iff_derives _ _).1.mpr
    ⟨[.name "map", .symbol "::", .name "Functor", .name "f", .symbol "=>", .opening .round, .name "a", .symbol "->",
      .name "b", .closing .round, .symbol "->", .name "f", .name "a"], by rfl, ?_⟩
  exact .constrained (.single (.mk (by decide) (by decide))) (.function (.bare (input _)) (.more output .none))

end HMSignature.Grammar
