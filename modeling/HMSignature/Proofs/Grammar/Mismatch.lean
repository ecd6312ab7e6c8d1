import HMSignature.Proofs.Grammar.Border
import HMSignature.Proofs.Grammar.Expectation
/-!
# Mismatched brackets

A text is said to have a mismatched bracket at a point where one is closed that is not due, or not closed that is. The
reading looks at one token there, so brackets that match can be called a mismatch too: where their content is not
complete when they are closed, and where something else follows their content.

Results:
1. `mismatch_iff_stuck`: a reading fails for a bracket exactly where it is stuck;
2. `stuck_iff_of_nested`: where it can be stuck when brackets match;
3. `parse_mismatch`: which texts are said to have a mismatched bracket.
-/

namespace HMSignature.Grammar

open Phrase Read

section Points

variable {whole : List Token}

/-! ## From the whole to the point -/

/-- Fields stand in curly brackets. -/
theorem Expects.inCurly {phrase : Phrase} {stack : List Bracket} {tokens : List Token}
    (h : Expects whole phrase stack tokens) (ofRecord : phrase = .fields ∨ phrase = .moreFields ∨ phrase = .field) :
    ∃ outer, stack = .curly :: outer := by
  cases h with
  | curly _ _ => exact ⟨_, rfl⟩
  | field _ => exact ⟨_, rfl⟩
  | moreFields _ _ _ => exact ⟨_, rfl⟩
  | comma _ => exact ⟨_, rfl⟩
  | _ => simp at ofRecord

/-- The content of brackets that is read is complete. -/
theorem Expects.completes (spelled : AllSpelled whole) {phrase : Phrase} {stack : List Bracket}
    {tokens rest : List Token} (h : Expects whole phrase stack tokens) (content : phrase.IsContent stack)
    (left : phrase.leaves tokens = .ok rest) : Completes whole stack rest := by
  cases phrase with
  | type =>
    rw [leaves_type] at left
    obtain ⟨middle, first, others⟩ := bind_eq_ok_iff.mp left
    have shorter : middle.length < tokens.length := length_of_leaves (by simp) first
    obtain ⟨entry, firstAt⟩ := applicationAt_of_leaves (h.allSpelled spelled) first
    exact (h.segments firstAt (noAtom_of_application first)).completes spelled content others
  | segments =>
    by_cases arrow : ∃ tokens', tokens = .symbol "->" :: tokens'
    · obtain ⟨tokens', rfl⟩ := arrow
      rw [leaves_segments_arrow] at left
      exact h.arrow.completes spelled content left
    · have noArrow : ∀ tokens', tokens ≠ .symbol "->" :: tokens' := fun tokens' h' => arrow ⟨tokens', h'⟩
      rw [leaves_segments_end noArrow] at left
      cases left
      exact .type h content noArrow
  | fields =>
    obtain ⟨outer, rfl⟩ := h.inCurly (.inl rfl)
    rw [leaves_fields] at left
    obtain ⟨middle, first, others⟩ := bind_eq_ok_iff.mp left
    have shorter : middle.length < tokens.length := length_of_leaves (by simp) first
    have here := h.allSpelled spelled
    obtain ⟨entry, firstAt⟩ := fieldAt_of_leaves here first
    exact (h.moreFields firstAt (endsType_of_field here first)).completes spelled content others
  | moreFields =>
    obtain ⟨outer, rfl⟩ := h.inCurly (.inr (.inl rfl))
    by_cases comma : ∃ tokens', tokens = .comma :: tokens'
    · obtain ⟨tokens', rfl⟩ := comma
      rw [leaves_moreFields_comma] at left
      exact h.comma.completes spelled content left
    · have noComma : ∀ tokens', tokens ≠ .comma :: tokens' := fun tokens' h' => comma ⟨tokens', h'⟩
      rw [leaves_moreFields_end noComma] at left
      cases left
      exact .fields h noComma
  | application => cases content
  | parameters => cases content
  | atom => cases content
  | field => cases content
termination_by tokens.length

/-- A failure for a bracket comes from where the reading is stuck. -/
def Explained (whole : List Token) (failure : Failure) : Prop :=
  ∀ text, failure.error = .mismatchedBracket text → ∃ bracket, Stuck whole bracket ∧ text = (Token.closing bracket).text

/-- So is a failure of a phrase wherever it is asked for. -/
def Explains (whole : List Token) (phrase : Phrase) (tokens : List Token) : Prop :=
  ∀ stack failure, Expects whole phrase stack tokens → phrase.leaves tokens = .error failure → Explained whole failure

/-- So is every failure where fewer tokens are left. -/
def ExplainsBelow (whole tokens : List Token) : Prop :=
  ∀ phrase tokens', tokens'.length < tokens.length → Explains whole phrase tokens'

theorem NoMismatch.explained {α : Type} {outcome : Except Failure α} (h : NoMismatch outcome) {failure : Failure}
    (failed : outcome = .error failure) : Explained whole failure :=
  fun text mismatch => absurd mismatch (h failure failed text)

theorem Completes.explained (spelled : AllSpelled whole) {bracket : Bracket} {stack : List Bracket} {rest : List Token}
    {failure : Failure} (h : Completes whole (bracket :: stack) rest) (failed : closes bracket rest = .error failure) :
    Explained whole failure := by
  by_cases closed : rest.head? = some (.closing bracket)
  · obtain ⟨rest', rfl⟩ := List.head?_eq_some_iff.mp closed
    rw [closes_self] at failed
    cases failed
  · rw [closes_of_other (h.allSpelled spelled) closed] at failed
    cases failed
    intro text mismatch
    cases mismatch
    exact ⟨bracket, .unclosed h closed, rfl⟩

/-- A failure of brackets comes from their content or from their end. -/
theorem Explains.bracket (spelled : AllSpelled whole) {phrase : Phrase} {bracket : Bracket} {stack : List Bracket}
    {tokens : List Token} {failure : Failure} (inside : Explains whole phrase tokens)
    (point : Expects whole phrase (bracket :: stack) tokens) (content : phrase.IsContent (bracket :: stack))
    (failed : phrase.leaves tokens >>= closes bracket = .error failure) : Explained whole failure := by
  rcases bind_eq_error_iff.mp failed with failed | ⟨rest, left, failed⟩
  · exact inside _ _ point failed
  · exact (point.completes spelled content left).explained spelled failed

/-! What a phrase is made of is asked for at points behind its own, and where fewer tokens are left that part is known
to be explained. So each kind of phrase is taken by itself, and the assumption goes away at the end. -/

section Steps

variable {tokens : List Token} (below : ExplainsBelow whole tokens)

include below

theorem explains_segments : Explains whole .segments tokens := by
  intro stack failure point failed
  by_cases arrow : ∃ tokens', tokens = .symbol "->" :: tokens'
  · obtain ⟨tokens', rfl⟩ := arrow
    rw [leaves_segments_arrow] at failed
    exact below .type tokens' (Nat.lt_succ_self _) _ _ point.arrow failed
  · cases failed.symm.trans (leaves_segments_end fun tokens' h' => arrow ⟨tokens', h'⟩)

theorem explains_moreFields : Explains whole .moreFields tokens := by
  intro stack failure point failed
  obtain ⟨outer, rfl⟩ := point.inCurly (.inr (.inl rfl))
  by_cases comma : ∃ tokens', tokens = .comma :: tokens'
  · obtain ⟨tokens', rfl⟩ := comma
    rw [leaves_moreFields_comma] at failed
    exact below .fields tokens' (Nat.lt_succ_self _) _ _ point.comma failed
  · cases failed.symm.trans (leaves_moreFields_end fun tokens' h' => comma ⟨tokens', h'⟩)

variable (spelled : AllSpelled whole)

include spelled

theorem explains_atom : Explains whole .atom tokens := by
  intro stack failure point failed
  have read := restOf_eq_error_iff.mp failed
  cases tokens with
  | nil =>
    rw [forget_atom_nil] at read
    exact (NoMismatch.unexpected _ _ _).explained read
  | cons token tokens =>
    have inside (phrase : Phrase) : Explains whole phrase tokens := below phrase tokens (Nat.lt_succ_self _)
    cases token with
    | name text =>
      rw [forget_atom_name] at read
      cases read
    | symbol text =>
      rw [forget_atom_symbol] at read
      exact (NoMismatch.unexpected _ _ _).explained read
    | comma =>
      rw [forget_atom_comma] at read
      exact (NoMismatch.unexpected _ _ _).explained read
    | closing bracket =>
      rw [forget_atom_closing] at read
      cases read
      intro text mismatch
      cases mismatch
      exact ⟨bracket, .due point, rfl⟩
    | opening bracket =>
      cases bracket with
      | round =>
        by_cases closes : ∃ tokens', tokens = .closing .round :: tokens'
        · obtain ⟨tokens', rfl⟩ := closes
          cases failed.symm.trans (restOf_eq_ok_iff.mpr ⟨_, forget_atom_thunk _⟩)
        · have filled : ∀ tokens', tokens ≠ .closing .round :: tokens' := fun tokens' h' => closes ⟨tokens', h'⟩
          rw [leaves_atom_round filled] at failed
          exact (inside .type).bracket spelled (point.round filled) nofun failed
      | square =>
        rw [leaves_atom_square] at failed
        exact (inside .type).bracket spelled point.square nofun failed
      | curly =>
        by_cases closes : ∃ tokens', tokens = .closing .curly :: tokens'
        · obtain ⟨tokens', rfl⟩ := closes
          cases failed.symm.trans (restOf_eq_ok_iff.mpr ⟨_, forget_atom_emptyRecord _⟩)
        · have filled : ∀ tokens', tokens ≠ .closing .curly :: tokens' := fun tokens' h' => closes ⟨tokens', h'⟩
          rw [leaves_atom_curly filled] at failed
          exact (inside .fields).bracket spelled (point.curly filled) trivial failed

theorem explains_parameters : Explains whole .parameters tokens := by
  intro stack failure point failed
  cases starts : startsAtom tokens with
  | false => cases failed.symm.trans (leaves_parameters_end starts)
  | true =>
    rw [leaves_parameters_of_atom starts] at failed
    rcases bind_eq_error_iff.mp failed with failed | ⟨rest, first, failed⟩
    · exact explains_atom below spelled _ _ (point.parameter starts) failed
    · obtain ⟨entry, firstAt⟩ := atomAt_of_leaves (point.allSpelled spelled) first
      exact below .parameters rest (length_of_leaves (by simp) first) _ _ (point.moreParameters firstAt) failed

theorem explains_application : Explains whole .application tokens := by
  intro stack failure point failed text mismatch
  rcases application_mismatch failed mismatch with failed | ⟨rest, first, failed⟩
  · exact explains_atom below spelled _ _ point.head failed text mismatch
  · obtain ⟨entry, firstAt⟩ := atomAt_of_leaves (point.allSpelled spelled) first
    have shorter : rest.length < tokens.length := length_of_leaves (by simp) first
    exact below .parameters rest shorter _ _ (point.parameters firstAt) failed text mismatch

theorem explains_type : Explains whole .type tokens := by
  intro stack failure point failed
  rw [leaves_type] at failed
  rcases bind_eq_error_iff.mp failed with failed | ⟨rest, first, failed⟩
  · exact explains_application below spelled _ _ point.application failed
  · obtain ⟨entry, firstAt⟩ := applicationAt_of_leaves (point.allSpelled spelled) first
    refine below .segments rest (length_of_leaves (by simp) first) _ _ (point.segments firstAt ?_) failed
    exact noAtom_of_application first

theorem explains_field : Explains whole .field tokens := by
  intro stack failure point failed
  obtain ⟨outer, rfl⟩ := point.inCurly (.inr (.inr rfl))
  intro text mismatch
  obtain ⟨label, rest, rfl, ofType⟩ := field_mismatch (point.allSpelled spelled) failed mismatch
  have shorter : rest.length < rest.length + 1 + 1 := Nat.lt_succ_of_lt (Nat.lt_succ_self _)
  exact below .type rest shorter _ _ point.fieldType ofType text mismatch

theorem explains_fields : Explains whole .fields tokens := by
  intro stack failure point failed
  obtain ⟨outer, rfl⟩ := point.inCurly (.inl rfl)
  rw [leaves_fields] at failed
  rcases bind_eq_error_iff.mp failed with failed | ⟨rest, first, failed⟩
  · exact explains_field below spelled _ _ point.field failed
  · have here := point.allSpelled spelled
    obtain ⟨entry, firstAt⟩ := fieldAt_of_leaves here first
    refine below .moreFields rest (length_of_leaves (by simp) first) _ _ (point.moreFields firstAt ?_) failed
    exact endsType_of_field here first

end Steps

/-- Wherever a phrase is asked for, it fails for a bracket only where the reading is stuck. -/
theorem explains (spelled : AllSpelled whole) (phrase : Phrase) (tokens : List Token) :
    Explains whole phrase tokens := by
  have below : ExplainsBelow whole tokens := fun phrase tokens' _ => explains spelled phrase tokens'
  cases phrase with
  | type => exact explains_type below spelled
  | segments => exact explains_segments below
  | application => exact explains_application below spelled
  | parameters => exact explains_parameters below spelled
  | atom => exact explains_atom below spelled
  | fields => exact explains_fields below spelled
  | moreFields => exact explains_moreFields below
  | field => exact explains_field below spelled
termination_by tokens.length

/-- Behind the name, the two colons and the constraints the type is asked for. -/
theorem expects_type (name : String) {tokens rest : List Token} {constraints : List Constraint}
    (spelled : AllSpelled tokens) (read : constraintsOf (tokens.contains .implies) tokens = .ok (constraints, rest)) :
    Expects (.name name :: .symbol "::" :: tokens) .type [] rest := by
  by_cases present : .symbol "=>" ∈ tokens
  · rw [constraintsOf_asked present] at read
    exact .constrained rfl (contextAt_of_forget spelled read)
  · rw [constraintsOf_free present] at read
    cases read
    exact .free rfl present

theorem explained_of_constraints {name : String} {tokens : List Token} {failure : Failure}
    (spelled : AllSpelled (.name name :: .symbol "::" :: tokens))
    (failed : constraintsOf (tokens.contains .implies) tokens = .error failure) :
    Explained (.name name :: .symbol "::" :: tokens) failure := by
  intro text mismatch
  by_cases present : .symbol "=>" ∈ tokens
  · rw [constraintsOf_asked present] at failed
    obtain ⟨tokens', first, middle, others, rest, rfl, firstAt, othersAt, noComma, unclosed⟩ :=
      context_mismatch failed mismatch
    have inside : .symbol "=>" ∈ tokens' := by simpa using present
    exact Completes.explained spelled (.constraints rfl inside firstAt othersAt noComma) unclosed text mismatch
  · rw [constraintsOf_free present] at failed
    cases failed

/-- A failure behind the type is one for a closing bracket, or for none. -/
theorem explained_of_finish {rest : List Token} {failure : Failure} (complete : Completes whole [] rest)
    (failed : finish rest = .error failure) : Explained whole failure := by
  intro text mismatch
  cases rest with
  | nil => cases failed
  | cons token rest =>
    cases token with
    | closing bracket =>
      cases failed
      cases mismatch
      exact ⟨bracket, .surplus complete, rfl⟩
    | _ =>
      cases failed
      cases mismatch

/-- A reading fails for a bracket exactly where it is stuck. -/
theorem mismatch_iff_stuck (spelled : AllSpelled whole) {text : String} :
    (∃ rest, signatureOfTokens whole = .error ⟨.mismatchedBracket text, rest⟩) ↔
      ∃ bracket, Stuck whole bracket ∧ text = (Token.closing bracket).text := by
  constructor
  · rintro ⟨_, failed⟩
    obtain ⟨name, tokens, rfl⟩ := named_of_mismatch spelled failed rfl
    rcases signatureOfTokens_eq_error_iff.mp failed with failed | ⟨constraints, rest, read, failed⟩
    · exact explained_of_constraints spelled failed text rfl
    have point := expects_type name spelled.tail.tail read
    rcases failed with failed | ⟨rest', left, failed⟩
    · exact explains spelled .type rest [] _ point failed text rfl
    · exact explained_of_finish (point.completes spelled nofun left) failed text rfl
  · rintro ⟨bracket, stuck, rfl⟩
    exact stuck.mismatch spelled

/-! ## Brackets that match -/

/-- Where a reading calls a bracket a mismatch although it has its partner. -/
inductive Misnamed (whole : List Token) : Bracket → Prop
  /-- It is the innermost one, and is closed where an atom has to stand. -/
  | due {bracket : Bracket} {stack : List Bracket} {rest : List Token} :
      Expects whole .atom (bracket :: stack) (.closing bracket :: rest) → Misnamed whole bracket
  /-- Its content is complete, and a token stands there that closes no bracket. -/
  | interrupted {bracket : Bracket} {stack : List Bracket} {token : Token} {rest : List Token} :
      Completes whole (bracket :: stack) (token :: rest) → (∀ other, token ≠ .closing other) → Misnamed whole bracket

theorem Misnamed.stuck {bracket : Bracket} (h : Misnamed whole bracket) : Stuck whole bracket := by
  cases h with
  | due point => exact .due point
  | interrupted complete opens =>
    refine .unclosed complete fun closed => ?_
    exact opens bracket (Option.some.inj closed)

/-- Where brackets match, a reading is stuck only at a bracket that has its partner. -/
theorem stuck_iff_of_nested (nested : Nested whole) {bracket : Bracket} :
    Stuck whole bracket ↔ Misnamed whole bracket := by
  have closed := nested_iff.mp nested
  refine ⟨fun h => ?_, Misnamed.stuck⟩
  cases h with
  | due point =>
    rw [point.openAfter_eq] at closed
    obtain ⟨outer, rfl, -⟩ := openAfter_closing_eq_some closed
    exact .due point
  | @unclosed _ rest complete other =>
    rw [complete.openAfter_eq] at closed
    cases rest with
    | nil => cases closed
    | cons token rest =>
      refine .interrupted complete fun bracket' same => ?_
      -- The innermost bracket is the only one that can be closed here.
      subst same
      obtain ⟨outer, innermost, -⟩ := openAfter_closing_eq_some closed
      cases innermost
      exact other rfl
  | surplus complete =>
    rw [complete.openAfter_eq] at closed
    obtain ⟨outer, none, -⟩ := openAfter_closing_eq_some closed
    cases none

end Points

/-! ## Texts -/

/-- A text fails for a bracket if its tokens do. -/
theorem parse_eq_mismatch_iff {text b : String} :
    parse text = .error (.mismatchedBracket b) ↔
      ∃ tokens bracket, tokenize text = .ok tokens ∧ Stuck tokens bracket ∧ b = (Token.closing bracket).text := by
  constructor
  · intro h
    rcases bind_eq_error_iff.mp h with failed | ⟨tokens, tokenized, failed⟩
    · obtain ⟨_, _, _, -, -, -, -, -, other⟩ := tokensOf_eq_error_iff.mp failed
      cases other
    · cases read : signatureOfTokens tokens with
      | ok s =>
        rw [read] at failed
        cases failed
      | error failure =>
        rw [read] at failed
        obtain ⟨error, rest⟩ := failure
        cases failed
        obtain ⟨bracket, stuck, rfl⟩ := (mismatch_iff_stuck (spelled_of_tokenize tokenized)).mp ⟨rest, read⟩
        exact ⟨tokens, bracket, tokenized, stuck, rfl⟩
  · rintro ⟨tokens, bracket, tokenized, stuck, rfl⟩
    obtain ⟨rest, read⟩ := stuck.mismatch (spelled_of_tokenize tokenized)
    refine bind_eq_error_iff.mpr (.inr ⟨tokens, tokenized, ?_⟩)
    rw [read]
    rfl

/-- The brackets of a signature match. A text is said to have a mismatched bracket exactly if a reading of it comes to a
closing bracket where an atom has to stand, to something else where the content of brackets is complete, or to a
closing bracket behind the whole signature. If the brackets match nevertheless, it is the innermost open bracket that is
closed where an atom has to stand, or no closing bracket at all that stands where it has to be closed; any other text
with matching brackets is a signature, is empty, or has another token or its end where something else is expected. -/
theorem parse_mismatch (text : String) :
    (∀ s, parse text = .ok s → ∃ tokens, tokenize text = .ok tokens ∧ Nested tokens) ∧
    (∀ b, parse text = .error (.mismatchedBracket b) ↔
      ∃ tokens bracket, tokenize text = .ok tokens ∧ Stuck tokens bracket ∧ b = (Token.closing bracket).text) ∧
    ∀ tokens, tokenize text = .ok tokens → Nested tokens →
      (∀ b, parse text = .error (.mismatchedBracket b) ↔
        ∃ bracket, Misnamed tokens bracket ∧ b = (Token.closing bracket).text) ∧
      ((∀ bracket, ¬Misnamed tokens bracket) →
        (∃ s, parse text = .ok s) ∨ parse text = .error .empty ∨
          ∃ found expected, parse text = .error (.unexpected found expected)) := by
  refine ⟨fun s parsed => ?_, fun b => parse_eq_mismatch_iff, fun tokens tokenized nested => ?_⟩
  · obtain ⟨tokens, tokenized, derived⟩ := parse_eq_ok_iff.mp parsed
    exact ⟨tokens, tokenized, derived.nested⟩
  have misnamed (b : String) : parse text = .error (.mismatchedBracket b) ↔
      ∃ bracket, Misnamed tokens bracket ∧ b = (Token.closing bracket).text := by
    rw [parse_eq_mismatch_iff]
    constructor
    · rintro ⟨tokens', bracket, tokenized', stuck, rfl⟩
      cases tokenized.symm.trans tokenized'
      exact ⟨bracket, (stuck_iff_of_nested nested).mp stuck, rfl⟩
    · rintro ⟨bracket, h, rfl⟩
      exact ⟨tokens, bracket, tokenized, h.stuck, rfl⟩
  refine ⟨misnamed, fun none => ?_⟩
  cases outcome : parse text with
  | ok s => exact .inl ⟨s, rfl⟩
  | error e =>
    cases e with
    | empty => exact .inr (.inl rfl)
    | unexpected found expected => exact .inr (.inr ⟨found, expected, rfl⟩)
    | mismatchedBracket b =>
      obtain ⟨bracket, h, -⟩ := (misnamed b).mp outcome
      exact absurd h (none bracket)

theorem parse_mismatch_list : parse "f :: [a" = .error (.mismatchedBracket "]") := by
  have tokenized : tokenize "f :: [a" = .ok [.name "f", .symbol "::", .opening .square, .name "a"] := by rfl
  have list : Expects [.name "f", .symbol "::", .opening .square, .name "a"] .type [.square] [.name "a"] :=
    .square (.head (.application (.free rfl (by decide))))
  have complete : Completes [.name "f", .symbol "::", .opening .square, .name "a"] [.square] [] :=
    .type (.segments list (.bare (.lower (by decide))) rfl) nofun nofun
  exact ((parse_mismatch "f :: [a").2.1 "]").mpr ⟨_, .square, tokenized, .unclosed complete nofun, rfl⟩

/-- A comma between matching brackets is called a mismatch of theirs. -/
theorem mismatch_of_nested :
    ∃ tokens, tokenize "f :: (Number, String) -> Number" = .ok tokens ∧ Nested tokens ∧
      parse "f :: (Number, String) -> Number" = .error (.mismatchedBracket ")") := by
  have tokenized : tokenize "f :: (Number, String) -> Number" =
      .ok [.name "f", .symbol "::", .opening .round, .name "Number", .comma, .name "String", .closing .round,
        .symbol "->", .name "Number"] := by rfl
  refine ⟨_, tokenized, by decide, parse_eq_mismatch_iff.mpr ⟨_, .round, tokenized, ?_, rfl⟩⟩
  have inside : Expects [.name "f", .symbol "::", .opening .round, .name "Number", .comma, .name "String",
      .closing .round, .symbol "->", .name "Number"] .type [.round] [.name "Number", .comma, .name "String",
      .closing .round, .symbol "->", .name "Number"] :=
    .round (.head (.application (.free rfl (by decide)))) nofun
  exact .unclosed (.type (.segments inside (.bare (.upper (by decide))) rfl) nofun nofun) nofun

end HMSignature.Grammar
