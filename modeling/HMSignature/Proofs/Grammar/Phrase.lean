import HMSignature.Proofs.Grammar.Completeness
/-!
# What phrases leave

For the errors of a reading the trees do not matter, but for what is left where a phrase ends, and for where it fails.
Each kind of phrase leaves what the phrases leave that it is made of, one after the other.

Results:
1. `leaves_type` and the equations beside it: what phrases leave by what their parts leave;
2. `endsType_of_leaves`: nothing is left behind a type that would continue it;
3. `closes_of_other`: where a bracket has to be closed, anything else is called a mismatch.
-/

namespace HMSignature.Grammar

/-- The phrases that types are made of. -/
inductive Phrase where
  | type
  /-- The further segments of a type. -/
  | segments
  | application
  /-- The parameters of an application, if it has any. -/
  | parameters
  | atom
  /-- The fields of a record, if it has any. -/
  | fields
  /-- The further fields of a record. -/
  | moreFields
  | field
deriving DecidableEq, Repr

/-- The tokens that a reading leaves. -/
def restOf {α : Type} (outcome : Except Failure (α × List Token)) : Except Failure (List Token) :=
  Prod.snd <$> outcome

open Read

/-- The tokens that are left when a phrase has been read. -/
def Phrase.leaves : Phrase → List Token → Except Failure (List Token)
  | type, tokens => restOf (Read.type tokens).forget
  | segments, tokens => restOf (segmentsTail tokens).forget
  | application, tokens => restOf (Read.application tokens).forget
  | parameters, tokens => restOf (Read.parameters tokens).forget
  | atom, tokens => restOf (Read.atom tokens).forget
  | fields, tokens => do
      let rest ← restOf (Read.field tokens).forget
      restOf (fieldsTail rest).forget
  | moreFields, tokens => restOf (fieldsTail tokens).forget
  | field, tokens => restOf (Read.field tokens).forget

/-- The tokens that are left when a bracket has been closed. -/
def closes (bracket : Bracket) (tokens : List Token) : Except Failure (List Token) :=
  restOf (close (Token.closing bracket).text tokens).forget

section Rest

variable {α β : Type} {outcome : Except Failure (α × List Token)}

theorem restOf_eq_ok_iff {rest : List Token} : restOf outcome = .ok rest ↔ ∃ value, outcome = .ok (value, rest) := by
  constructor
  · intro h
    cases outcome with
    | error failure => cases h
    | ok reading =>
      cases h
      exact ⟨reading.1, rfl⟩
  · rintro ⟨value, rfl⟩
    rfl

theorem restOf_eq_error_iff {failure : Failure} : restOf outcome = .error failure ↔ outcome = .error failure := by
  constructor
  · intro h
    cases outcome with
    | error failure' =>
      cases h
      rfl
    | ok reading => cases h
  · rintro rfl
    rfl

/-- What two readings leave, one after the other. -/
theorem restOf_bind {next : α × List Token → Except Failure (β × List Token)}
    {plain : List Token → Except Failure (List Token)} (h : ∀ value rest, restOf (next (value, rest)) = plain rest) :
    restOf (outcome >>= next) = restOf outcome >>= plain := by
  cases outcome with
  | error failure => rfl
  | ok reading => exact h reading.1 reading.2

/-- A reading that only makes a tree of what another one gives. -/
theorem restOf_last (tree : α → β) :
    restOf (do let (value, rest) ← outcome; return (tree value, rest)) = restOf outcome := by
  cases outcome <;> rfl

end Rest

namespace Phrase

/-! ## Phrases by their parts -/

theorem leaves_type (tokens : List Token) : type.leaves tokens = application.leaves tokens >>= segments.leaves := by
  show restOf (Read.type tokens).forget = _
  rw [forget_type]
  exact restOf_bind fun first _ => restOf_last fun others => Entry.joined (first :: others)

/-- Behind an arrow the segments go on like a type. -/
theorem leaves_segments_arrow (tokens : List Token) :
    segments.leaves (.symbol "->" :: tokens) = type.leaves tokens := by
  rw [leaves_type]
  show restOf (segmentsTail _).forget = _
  rw [forget_segmentsTail_arrow]
  exact restOf_bind fun first _ => restOf_last fun others => first :: others

theorem leaves_segments_end {tokens : List Token} (h : ∀ rest, tokens ≠ .symbol "->" :: rest) :
    segments.leaves tokens = .ok tokens :=
  restOf_eq_ok_iff.mpr ⟨_, forget_segmentsTail_end h⟩

theorem leaves_parameters_of_atom {tokens : List Token} (h : startsAtom tokens = true) :
    parameters.leaves tokens = atom.leaves tokens >>= parameters.leaves := by
  show restOf (Read.parameters tokens).forget = _
  rw [forget_parameters_of_atom h]
  exact restOf_bind fun first _ => restOf_last fun others => first :: others

theorem leaves_parameters_end {tokens : List Token} (h : startsAtom tokens = false) :
    parameters.leaves tokens = .ok tokens :=
  restOf_eq_ok_iff.mpr ⟨_, forget_parameters_end h⟩

theorem leaves_atom_round {tokens : List Token} (h : ∀ rest, tokens ≠ .closing .round :: rest) :
    atom.leaves (.opening .round :: tokens) = type.leaves tokens >>= closes .round := by
  show restOf (Read.atom _).forget = _
  rw [forget_atom_round h]
  exact restOf_bind fun inner _ => restOf_last fun _ => inner

theorem leaves_atom_square (tokens : List Token) :
    atom.leaves (.opening .square :: tokens) = type.leaves tokens >>= closes .square := by
  show restOf (Read.atom _).forget = _
  rw [forget_atom_square]
  exact restOf_bind fun element _ => restOf_last fun _ => Entry.list element

theorem leaves_atom_curly {tokens : List Token} (h : ∀ rest, tokens ≠ .closing .curly :: rest) :
    atom.leaves (.opening .curly :: tokens) = fields.leaves tokens >>= closes .curly := by
  show restOf (Read.atom _).forget = (restOf _ >>= fun rest => restOf _) >>= closes .curly
  rw [forget_atom_record h, bind_assoc]
  refine restOf_bind fun first _ => ?_
  exact restOf_bind fun others _ => restOf_last fun _ => Entry.record (first :: others)

theorem leaves_fields (tokens : List Token) : fields.leaves tokens = field.leaves tokens >>= moreFields.leaves :=
  rfl

/-- Behind a comma the further fields go on like the fields. -/
theorem leaves_moreFields_comma (tokens : List Token) :
    moreFields.leaves (.comma :: tokens) = fields.leaves tokens := by
  show restOf (fieldsTail _).forget = _
  rw [forget_fieldsTail_comma]
  exact restOf_bind fun first _ => restOf_last fun others => first :: others

theorem leaves_moreFields_end {tokens : List Token} (h : ∀ rest, tokens ≠ .comma :: rest) :
    moreFields.leaves tokens = .ok tokens :=
  restOf_eq_ok_iff.mpr ⟨_, forget_fieldsTail_end h⟩

theorem leaves_field_named (name : String) (tokens : List Token) :
    field.leaves (.name name :: .symbol "::" :: tokens) = type.leaves tokens := by
  have typed := forget_expect_self (.symbol "::") tokens
  show restOf (Read.field _).forget = _
  rw [forget_field, forget_name_self, ok_bind]
  show restOf ((expect (Token.symbol "::").text _).forget >>= _) = _
  rw [typed, ok_bind]
  exact restOf_last fun entry => Entry.field name entry

/-! ## Applications -/

section Applications

variable {tokens rest rest' : List Token} {failure : Failure}

theorem rest_of_applicationOf {head entry : Entry} {params : List Entry}
    (h : applicationOf tokens head params rest = .ok (entry, rest')) : rest = rest' := by
  unfold applicationOf at h
  repeat' split at h
  all_goals cases h
  all_goals rfl

/-- An application is made of an atom and parameters, though not every atom may have some. -/
theorem parts_of_application (h : application.leaves tokens = .ok rest') :
    ∃ rest, atom.leaves tokens = .ok rest ∧ parameters.leaves rest = .ok rest' := by
  obtain ⟨entry, read⟩ := restOf_eq_ok_iff.mp h
  rw [forget_application] at read
  obtain ⟨⟨head, rest⟩, hhead, h₁⟩ := bind_eq_ok_iff.mp read
  obtain ⟨⟨params, rest₁⟩, hparams, h₂⟩ := bind_eq_ok_iff.mp h₁
  cases rest_of_applicationOf h₂
  exact ⟨rest, restOf_eq_ok_iff.mpr ⟨_, hhead⟩, restOf_eq_ok_iff.mpr ⟨_, hparams⟩⟩

theorem leaves_application_of_atom (h : atom.leaves tokens = .error failure) :
    application.leaves tokens = .error failure := by
  refine restOf_eq_error_iff.mpr ?_
  rw [forget_application]
  exact bind_eq_error_iff.mpr (.inl (restOf_eq_error_iff.mp h))

theorem leaves_application_of_parameters (first : atom.leaves tokens = .ok rest)
    (h : parameters.leaves rest = .error failure) : application.leaves tokens = .error failure := by
  obtain ⟨head, hhead⟩ := restOf_eq_ok_iff.mp first
  refine restOf_eq_error_iff.mpr ?_
  rw [forget_application]
  refine bind_eq_error_iff.mpr (.inr ⟨_, hhead, ?_⟩)
  exact bind_eq_error_iff.mpr (.inl (restOf_eq_error_iff.mp h))

end Applications

/-! ## Where phrases end -/

theorem length_of_leaves {phrase : Phrase} (solid : phrase = type ∨ phrase = application ∨ phrase = atom ∨ phrase = field)
    {tokens rest : List Token} (h : phrase.leaves tokens = .ok rest) : rest.length < tokens.length := by
  rcases solid with rfl | rfl | rfl | rfl
  all_goals
    obtain ⟨value, read⟩ := restOf_eq_ok_iff.mp h
    exact rest_lt_of_forget read

theorem noAtom_of_parameters {tokens rest : List Token} (h : parameters.leaves tokens = .ok rest) :
    startsAtom rest = false := by
  cases starts : startsAtom tokens with
  | false =>
    rw [leaves_parameters_end starts] at h
    cases h
    exact starts
  | true =>
    rw [leaves_parameters_of_atom starts] at h
    obtain ⟨middle, first, others⟩ := bind_eq_ok_iff.mp h
    have shorter : middle.length < tokens.length := length_of_leaves (by simp) first
    exact noAtom_of_parameters others
termination_by tokens.length

theorem noAtom_of_application {tokens rest : List Token} (h : application.leaves tokens = .ok rest) :
    startsAtom rest = false := by
  obtain ⟨middle, -, others⟩ := parts_of_application h
  exact noAtom_of_parameters others

/-- Nothing is left behind a type that would continue it. -/
theorem endsType_of_leaves {tokens rest : List Token} (h : type.leaves tokens = .ok rest) : EndsType rest := by
  rw [leaves_type] at h
  obtain ⟨middle, first, others⟩ := bind_eq_ok_iff.mp h
  by_cases arrow : ∃ tokens', middle = .symbol "->" :: tokens'
  · obtain ⟨tokens', rfl⟩ := arrow
    rw [leaves_segments_arrow] at others
    have shorter : tokens'.length + 1 < tokens.length := length_of_leaves (by simp) first
    exact endsType_of_leaves others
  · have ends : ∀ tokens', middle ≠ .symbol "->" :: tokens' := fun tokens' h' => arrow ⟨tokens', h'⟩
    rw [leaves_segments_end ends] at others
    cases others
    exact ⟨noAtom_of_application first, ends⟩
termination_by tokens.length

/-! ## Phrases that are read -/

section Spelled

variable {tokens rest : List Token}

theorem atomAt_of_leaves (spelled : AllSpelled tokens) (h : atom.leaves tokens = .ok rest) :
    ∃ entry, AtomAt tokens entry rest := by
  obtain ⟨entry, read⟩ := restOf_eq_ok_iff.mp h
  exact ⟨entry, atomAt_of_forget (soundBelow _) (Nat.le_refl _) spelled read⟩

theorem applicationAt_of_leaves (spelled : AllSpelled tokens) (h : application.leaves tokens = .ok rest) :
    ∃ entry, ApplicationAt tokens entry rest := by
  obtain ⟨entry, read⟩ := restOf_eq_ok_iff.mp h
  exact ⟨entry, applicationAt_of_forget (soundBelow _) (Nat.le_refl _) spelled read⟩

theorem fieldAt_of_leaves (spelled : AllSpelled tokens) (h : field.leaves tokens = .ok rest) :
    ∃ entry, FieldAt tokens entry rest := by
  obtain ⟨entry, read⟩ := restOf_eq_ok_iff.mp h
  exact ⟨entry, fieldAt_of_forget (soundBelow _) (Nat.le_refl _) spelled read⟩

theorem endsType_of_field (spelled : AllSpelled tokens) (h : field.leaves tokens = .ok rest) : EndsType rest := by
  obtain ⟨entry, fieldAt⟩ := fieldAt_of_leaves spelled h
  cases fieldAt with
  | mk _ =>
    rw [leaves_field_named] at h
    exact endsType_of_leaves h

theorem leaves_of_atomAt {entry : Entry} (h : AtomAt tokens entry rest) : atom.leaves tokens = .ok rest :=
  restOf_eq_ok_iff.mpr ⟨entry, forget_atom_of_atomAt h⟩

theorem leaves_of_applicationAt {entry : Entry} (h : ApplicationAt tokens entry rest) (ends : startsAtom rest = false) :
    application.leaves tokens = .ok rest :=
  restOf_eq_ok_iff.mpr ⟨entry, forget_application_of_applicationAt h ends⟩

theorem leaves_of_fieldAt {entry : Entry} (h : FieldAt tokens entry rest) (ends : EndsType rest) :
    field.leaves tokens = .ok rest :=
  restOf_eq_ok_iff.mpr ⟨entry, forget_field_of_fieldAt h ends⟩

end Spelled

end Phrase

/-! ## Closing brackets -/

theorem closes_self (bracket : Bracket) (rest : List Token) :
    closes bracket (.closing bracket :: rest) = .ok rest :=
  restOf_eq_ok_iff.mpr ⟨_, forget_close_self bracket rest⟩

/-- Where a bracket has to be closed, anything else is called a mismatch. -/
theorem closes_of_other {bracket : Bracket} {tokens : List Token} (spelled : AllSpelled tokens)
    (other : tokens.head? ≠ some (.closing bracket)) :
    closes bracket tokens = .error ⟨.mismatchedBracket (Token.closing bracket).text, tokens⟩ := by
  cases tokens with
  | nil => rfl
  | cons token rest =>
    have differs : token.text ≠ (Token.closing bracket).text := by
      intro same
      have known : (Token.closing bracket).Spelled := Token.spelled_of_special rfl
      exact other (congrArg some (Token.eq_of_text_eq (spelled token List.mem_cons_self) known same))
    rw [closes, close, if_neg differs]
    rfl

end HMSignature.Grammar
