import HMSignature.Grammar.Parser
import HMSignature.Proofs.Except
/-!
# The readers, step by step

A reader carries with its result that fewer tokens are left. That is what its recursion ends on, and nothing else needs
it: `Outcome.forget` drops it, and each reader gets an equation between plain values. Everything that is said about
reading is derived from these equations and from `rest_lt_of_forget`.
-/

namespace HMSignature.Grammar

/-- The outcome of a reader without the proof that fewer tokens are left. -/
def Outcome.forget {α : Type} {bound : Nat} : Outcome α bound → Except Failure (α × List Token)
  | .ok reading => .ok (reading.value, reading.rest)
  | .error failure => .error failure

namespace Read

/-! ## Dropping the proofs -/

section Forget

variable {α β : Type} {m n : Nat}

theorem rest_lt_of_forget {outcome : Outcome α n} {value : α} {rest : List Token}
    (h : outcome.forget = .ok (value, rest)) : rest.length < n := by
  cases outcome with
  | error failure => cases h
  | ok reading =>
    cases h
    exact reading.shorter

theorem forget_bind (outcome : Outcome α m) (next : Reading α m → Outcome β n)
    (plain : α × List Token → Except Failure (β × List Token))
    (h : ∀ reading, (next reading).forget = plain (reading.value, reading.rest)) :
    Outcome.forget (outcome >>= next) = outcome.forget >>= plain := by
  cases outcome with
  | error failure => rfl
  | ok reading => exact h reading

theorem bind_forget (outcome : Outcome α m) (next : Reading α m → Except Failure β)
    (plain : α × List Token → Except Failure β) (h : ∀ reading, next reading = plain (reading.value, reading.rest)) :
    (outcome >>= next) = outcome.forget >>= plain := by
  cases outcome with
  | error failure => rfl
  | ok reading => exact h reading

theorem map_eq_forget (outcome : Outcome α n) :
    (fun reading => (reading.value, reading.rest)) <$> outcome = outcome.forget := by
  cases outcome <;> rfl

end Forget

/-! ## Single tokens -/

theorem forget_expect_eq_ok {wanted : String} {tokens : List Token} {u : Unit} {rest : List Token} :
    (expect wanted tokens).forget = .ok (u, rest) ↔ ∃ token, tokens = token :: rest ∧ token.text = wanted := by
  cases tokens with
  | nil => simp [expect, Outcome.forget]
  | cons token rest' =>
    by_cases h : token.text = wanted
    · simp only [expect, if_pos h, Outcome.forget, Except.ok.injEq, Prod.mk.injEq, true_and]
      constructor
      · rintro rfl
        exact ⟨token, rfl, h⟩
      · rintro ⟨_, h', -⟩
        exact (List.cons.inj h').2
    · simp only [expect, if_neg h, Outcome.forget]
      constructor
      · intro h'
        cases h'
      · rintro ⟨_, h', h''⟩
        exact absurd ((List.cons.inj h').1 ▸ h'') h

theorem forget_close_eq_ok {bracket : String} {tokens : List Token} {u : Unit} {rest : List Token} :
    (close bracket tokens).forget = .ok (u, rest) ↔ ∃ token, tokens = token :: rest ∧ token.text = bracket := by
  -- Only the errors of the two readers differ.
  rw [← forget_expect_eq_ok (u := u)]
  cases tokens with
  | nil => simp [close, expect, Outcome.forget]
  | cons token rest' =>
    by_cases h : token.text = bracket <;> simp [close, expect, Outcome.forget, h]

theorem forget_name_eq_ok {role text : String} {tokens rest : List Token} :
    (name role tokens).forget = .ok (text, rest) ↔ tokens = .name text :: rest := by
  cases tokens with
  | nil => simp [name, Read.next, Outcome.forget, bind, Except.bind]
  | cons token rest' =>
    cases token <;> simp [name, Read.next, Outcome.forget, bind, Except.bind, pure, Except.pure, throw, throwThe,
      MonadExceptOf.throw]

/-! ## Types -/

theorem forget_type (tokens : List Token) :
    (type tokens).forget = do
      let (first, rest) ← (application tokens).forget
      let (others, rest') ← (segmentsTail rest).forget
      return (.joined (first :: others), rest') := by
  rw [type]
  refine forget_bind _ _ _ fun _ => ?_
  exact forget_bind _ _ _ fun _ => rfl

theorem forget_segmentsTail_arrow (tokens : List Token) :
    (segmentsTail (.symbol "->" :: tokens)).forget = do
      let (first, rest) ← (application tokens).forget
      let (others, rest') ← (segmentsTail rest).forget
      return (first :: others, rest') := by
  rw [segmentsTail]
  refine forget_bind _ _ _ fun _ => ?_
  exact forget_bind _ _ _ fun _ => rfl

theorem forget_segmentsTail_end {tokens : List Token} (h : ∀ rest, tokens ≠ .symbol "->" :: rest) :
    (segmentsTail tokens).forget = .ok ([], tokens) := by
  rw [segmentsTail]
  · rfl
  · exact h

/-- What an application is with the given head and parameters. -/
def applicationOf (tokens : List Token) (head : Entry) (params : List Entry) (rest : List Token) :
    Except Failure (Entry × List Token) :=
  if params.isEmpty then .ok (head, rest)
  else
    match head.applied? params with
    | some entry => .ok (entry, rest)
    | none => .error ⟨.unexpected ((lastTaken tokens rest).map Token.text) none, rest⟩

theorem forget_application (tokens : List Token) :
    (application tokens).forget = (do
      let (head, rest) ← (atom tokens).forget
      let (params, rest') ← (parameters rest).forget
      applicationOf tokens head params rest') := by
  rw [application]
  refine forget_bind _ _ _ fun head => ?_
  refine forget_bind _ _ _ fun params => ?_
  obtain ⟨params, rest, shorter⟩ := params
  cases params with
  | nil => rfl
  | cons first others =>
    simp only [applicationOf, List.isEmpty_cons, Bool.false_eq_true, if_false]
    cases head.value.applied? (first :: others) <;> rfl

theorem forget_parameters_of_atom {tokens : List Token} (h : startsAtom tokens = true) :
    (parameters tokens).forget = do
      let (first, rest) ← (atom tokens).forget
      let (others, rest') ← (parameters rest).forget
      return (first :: others, rest') := by
  rw [parameters, if_pos h]
  refine forget_bind _ _ _ fun _ => ?_
  exact forget_bind _ _ _ fun _ => rfl

theorem forget_parameters_end {tokens : List Token} (h : startsAtom tokens = false) :
    (parameters tokens).forget = .ok ([], tokens) := by
  rw [parameters, if_neg (by simp [h])]
  rfl

theorem forget_atom_nil : (atom []).forget = .error ⟨.unexpected none none, []⟩ := by
  rw [atom]
  rfl

theorem forget_atom_closing (bracket : Bracket) (tokens : List Token) :
    (atom (.closing bracket :: tokens)).forget = .error ⟨.mismatchedBracket (Token.closing bracket).text, tokens⟩ := by
  rw [atom]
  rfl

theorem forget_atom_symbol (text : String) (tokens : List Token) :
    (atom (.symbol text :: tokens)).forget = .error ⟨.unexpected (some text) none, tokens⟩ := by
  rw [atom]
  · rfl
  all_goals simp

theorem forget_atom_comma (tokens : List Token) :
    (atom (.comma :: tokens)).forget = .error ⟨.unexpected (some ",") none, tokens⟩ := by
  rw [atom]
  · rfl
  all_goals simp

theorem forget_atom_name (text : String) (tokens : List Token) :
    (atom (.name text :: tokens)).forget = .ok (bareName text, tokens) := by
  rw [atom]
  rfl

theorem forget_atom_thunk (tokens : List Token) :
    (atom (.opening .round :: .closing .round :: tokens)).forget = .ok (.thunk, tokens) := by
  rw [atom]
  rfl

theorem forget_atom_round {tokens : List Token} (h : ∀ rest, tokens ≠ .closing .round :: rest) :
    (atom (.opening .round :: tokens)).forget = do
      let (inner, rest) ← (type tokens).forget
      let (_, rest') ← (close ")" rest).forget
      return (inner, rest') := by
  rw [atom]
  · refine forget_bind _ _ _ fun _ => ?_
    exact forget_bind _ _ _ fun _ => rfl
  · exact h

theorem forget_atom_square (tokens : List Token) :
    (atom (.opening .square :: tokens)).forget = do
      let (element, rest) ← (type tokens).forget
      let (_, rest') ← (close "]" rest).forget
      return (.list element, rest') := by
  rw [atom]
  refine forget_bind _ _ _ fun _ => ?_
  exact forget_bind _ _ _ fun _ => rfl

theorem forget_atom_emptyRecord (tokens : List Token) :
    (atom (.opening .curly :: .closing .curly :: tokens)).forget = .ok (.record [], tokens) := by
  rw [atom]
  rfl

theorem forget_atom_record {tokens : List Token} (h : ∀ rest, tokens ≠ .closing .curly :: rest) :
    (atom (.opening .curly :: tokens)).forget = do
      let (first, rest) ← (field tokens).forget
      let (others, rest') ← (fieldsTail rest).forget
      let (_, rest'') ← (close "\x7d" rest').forget
      return (.record (first :: others), rest'') := by
  rw [atom]
  · refine forget_bind _ _ _ fun _ => ?_
    refine forget_bind _ _ _ fun _ => ?_
    exact forget_bind _ _ _ fun _ => rfl
  · exact h

theorem forget_fieldsTail_comma (tokens : List Token) :
    (fieldsTail (.comma :: tokens)).forget = do
      let (first, rest) ← (field tokens).forget
      let (others, rest') ← (fieldsTail rest).forget
      return (first :: others, rest') := by
  rw [fieldsTail]
  refine forget_bind _ _ _ fun _ => ?_
  exact forget_bind _ _ _ fun _ => rfl

theorem forget_fieldsTail_end {tokens : List Token} (h : ∀ rest, tokens ≠ .comma :: rest) :
    (fieldsTail tokens).forget = .ok ([], tokens) := by
  rw [fieldsTail]
  · rfl
  · exact h

theorem forget_field (tokens : List Token) :
    (field tokens).forget = do
      let (label, rest) ← (name "field name" tokens).forget
      let (_, rest') ← (expect "::" rest).forget
      let (entry, rest'') ← (type rest').forget
      return (.field label entry, rest'') := by
  rw [field]
  refine forget_bind _ _ _ fun _ => ?_
  refine forget_bind _ _ _ fun _ => ?_
  exact forget_bind _ _ _ fun _ => rfl

/-! ## Constraints -/

theorem forget_className_name (text : String) (rest : List Token) :
    (className (.name text :: rest)).forget =
      if isCapitalized text then .ok (text, rest)
      else .error ⟨.unexpected (some text) (some "type class"), rest⟩ := by
  simp only [className, Read.next, bind, Except.bind]
  split <;> rfl

theorem forget_className_eq_ok {text : String} {tokens rest : List Token} :
    (className tokens).forget = .ok (text, rest) ↔ tokens = .name text :: rest ∧ isCapitalized text = true := by
  cases tokens with
  | nil => simp [className, Read.next, Outcome.forget, bind, Except.bind]
  | cons token rest' =>
    cases token with
    | name text' =>
      rw [forget_className_name]
      by_cases capital : isCapitalized text' = true
      · rw [if_pos capital]
        constructor
        · intro h
          cases h
          exact ⟨rfl, capital⟩
        · rintro ⟨h, -⟩
          cases h
          rfl
      · rw [if_neg capital]
        constructor
        · intro h
          cases h
        · rintro ⟨h, h'⟩
          cases h
          exact absurd h' capital
    | _ => simp [className, Read.next, Outcome.forget, bind, Except.bind, throw, throwThe, MonadExceptOf.throw]

theorem forget_variableName_name (text : String) (rest : List Token) :
    (variableName (.name text :: rest)).forget =
      if isCapitalized text then .error ⟨.unexpected (some text) (some "type variable"), rest⟩
      else .ok (text, rest) := by
  simp only [variableName, Read.next, bind, Except.bind]
  split <;> rfl

theorem forget_variableName_eq_ok {text : String} {tokens rest : List Token} :
    (variableName tokens).forget = .ok (text, rest) ↔ tokens = .name text :: rest ∧ isCapitalized text = false := by
  cases tokens with
  | nil => simp [variableName, Read.next, Outcome.forget, bind, Except.bind]
  | cons token rest' =>
    cases token with
    | name text' =>
      rw [forget_variableName_name]
      by_cases capital : isCapitalized text' = true
      · rw [if_pos capital]
        constructor
        · intro h
          cases h
        · rintro ⟨h, h'⟩
          cases h
          exact absurd capital (Bool.eq_false_iff.mp h')
      · rw [if_neg capital]
        constructor
        · intro h
          cases h
          exact ⟨rfl, Bool.eq_false_iff.mpr capital⟩
        · rintro ⟨h, -⟩
          cases h
          rfl
    | _ => simp [variableName, Read.next, Outcome.forget, bind, Except.bind, throw, throwThe, MonadExceptOf.throw]

theorem forget_constraint (tokens : List Token) :
    (constraint tokens).forget = do
      let (typeClass, rest) ← (className tokens).forget
      let (typeVar, rest') ← (variableName rest).forget
      return (⟨typeClass, typeVar⟩, rest') := by
  rw [constraint]
  refine forget_bind _ _ _ fun _ => ?_
  exact forget_bind _ _ _ fun _ => rfl

theorem forget_constraintsTail_comma (tokens : List Token) :
    (constraintsTail (.comma :: tokens)).forget = do
      let (first, rest) ← (constraint tokens).forget
      let (others, rest') ← (constraintsTail rest).forget
      return (first :: others, rest') := by
  rw [constraintsTail]
  refine forget_bind _ _ _ fun _ => ?_
  exact forget_bind _ _ _ fun _ => rfl

theorem forget_constraintsTail_end {tokens : List Token} (h : ∀ rest, tokens ≠ .comma :: rest) :
    (constraintsTail tokens).forget = .ok ([], tokens) := by
  rw [constraintsTail]
  · rfl
  · exact h

theorem forget_context_round (tokens : List Token) :
    (context (.opening .round :: tokens)).forget = do
      let (first, rest) ← (constraint tokens).forget
      let (others, rest') ← (constraintsTail rest).forget
      let (_, rest'') ← (close ")" rest').forget
      let (_, rest''') ← (expect "=>" rest'').forget
      return (first :: others, rest''') := by
  rw [context]
  refine forget_bind _ _ _ fun _ => ?_
  refine forget_bind _ _ _ fun _ => ?_
  refine forget_bind _ _ _ fun _ => ?_
  exact forget_bind _ _ _ fun _ => rfl

theorem forget_context_single {tokens : List Token} (h : ∀ rest, tokens ≠ .opening .round :: rest) :
    (context tokens).forget = do
      let (first, rest) ← (constraint tokens).forget
      let (_, rest') ← (expect "=>" rest).forget
      return ([first], rest') := by
  rw [context]
  · refine forget_bind _ _ _ fun _ => ?_
    exact forget_bind _ _ _ fun _ => rfl
  · exact h

/-! ## Signatures -/

/-- The constraints of a signature, if there are any to read. -/
def constraintsOf (constrained : Bool) (tokens : List Token) : Except Failure (List Constraint × List Token) :=
  if constrained then (context tokens).forget else .ok ([], tokens)

theorem signature_eq (constrained : Bool) (tokens : List Token) :
    signature constrained tokens = do
      let (label, rest) ← (name "function name" tokens).forget
      let (_, rest') ← (expect "::" rest).forget
      let (constraints, rest'') ← constraintsOf constrained rest'
      let (entry, rest''') ← (type rest'').forget
      finish rest'''
      return ⟨label, constraints, entry⟩ := by
  rw [signature]
  refine bind_forget _ _ _ fun _ => ?_
  refine bind_forget _ _ _ fun typed => ?_
  cases constrained with
  | false => exact bind_forget _ _ _ fun _ => rfl
  | true =>
    simp only [if_true, constraintsOf, map_eq_forget]
    cases (context typed.rest).forget with
    | error failure => rfl
    | ok reading => exact bind_forget _ _ _ fun _ => rfl

theorem finish_eq_ok_iff {tokens : List Token} : finish tokens = .ok () ↔ tokens = [] := by
  cases tokens with
  | nil => simp [finish]
  | cons token rest => cases token <;> simp [finish]

end Read

end HMSignature.Grammar
