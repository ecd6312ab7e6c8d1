import HMSignature.Grammar.Session
import HMSignature.Proofs.Grammar.Reader
/-!
# The course of a session

A session goes through the tokens of a text from left to right, whatever it is asked for and whether it succeeds or
not. Where a reader stops, an end of its tokens is left: that is shown for every reader first, for all its ways to fail
as well, and a session only carries it over to positions.

Results:
1. `Read.stops_type` and the lemmas beside it: where the readers stop;
2. `Session.leads_run`, `Session.leads_after`: one step, and any number of them, keep the tokens and stay within them;
3. `Session.run_congr`: what a step can depend on;
4. `Session.run_application_of_not_applied`: the token that an application complains of is the one in front of the new
   position, in the tokens of the whole text;
5. `Session.after_moves_forward`: sessions on texts.
-/

namespace HMSignature.Grammar

/-! ## Where readers stop -/

/-- What is left where a reading stops, also when it fails, is an end of its tokens. -/
def Stops {α : Type} (tokens : List Token) : Except Failure (α × List Token) → Prop
  | .ok (_, rest) => rest <:+ tokens
  | .error failure => failure.rest <:+ tokens

namespace Stops

variable {α β : Type} {tokens rest : List Token} {outcome : Except Failure (α × List Token)}

theorem widen (suffix : rest <:+ tokens) (stops : Stops rest outcome) : Stops tokens outcome := by
  cases outcome with
  | ok reading => exact List.IsSuffix.trans stops suffix
  | error failure => exact List.IsSuffix.trans stops suffix

theorem cons (token : Token) (stops : Stops tokens outcome) : Stops (token :: tokens) outcome :=
  stops.widen (List.suffix_cons token tokens)

theorem suffix_of_ok {value : α} (stops : Stops tokens outcome) (h : outcome = .ok (value, rest)) :
    rest <:+ tokens := by
  rw [h] at stops
  exact stops

theorem suffix_of_error {failure : Failure} (stops : Stops tokens outcome) (h : outcome = .error failure) :
    failure.rest <:+ tokens := by
  rw [h] at stops
  exact stops

/-- A reading after another one. -/
theorem bind {next : α × List Token → Except Failure (β × List Token)} (first : Stops tokens outcome)
    (second : ∀ value rest, outcome = .ok (value, rest) → Stops rest (next (value, rest))) :
    Stops tokens (outcome >>= next) := by
  cases outcome with
  | error failure => exact first
  | ok reading => exact (second reading.1 reading.2 rfl).widen first

/-- A reading that only makes a tree of what another one gives. -/
theorem last (tree : α → β) (stops : Stops tokens outcome) :
    Stops tokens (do let (value, rest) ← outcome; return (tree value, rest)) :=
  stops.bind fun _ _ _ => List.suffix_refl _

end Stops

namespace Read

/-! ### Single tokens -/

theorem rest_of_next_eq_error {tokens : List Token} {failure : Failure} (h : (next tokens).forget = .error failure) :
    failure.rest = tokens := by
  cases tokens with
  | nil =>
    cases h
    rfl
  | cons token rest => cases h

theorem rest_of_expect_eq_error {wanted : String} {tokens : List Token} {failure : Failure}
    (h : (expect wanted tokens).forget = .error failure) : failure.rest = tokens := by
  cases tokens with
  | nil =>
    cases h
    rfl
  | cons token rest =>
    simp only [expect] at h
    split at h
    · cases h
    · cases h
      rfl

theorem rest_of_close_eq_error {bracket : String} {tokens : List Token} {failure : Failure}
    (h : (close bracket tokens).forget = .error failure) : failure.rest = tokens := by
  cases tokens with
  | nil =>
    cases h
    rfl
  | cons token rest =>
    simp only [close] at h
    split at h
    · cases h
    · cases h
      rfl

theorem stops_next (tokens : List Token) : Stops tokens (next tokens).forget := by
  cases tokens with
  | nil => exact List.suffix_refl _
  | cons token rest => exact List.suffix_cons _ _

theorem stops_expect (wanted : String) (tokens : List Token) : Stops tokens (expect wanted tokens).forget := by
  cases outcome : (expect wanted tokens).forget with
  | error failure => exact rest_of_expect_eq_error outcome ▸ List.suffix_refl _
  | ok reading =>
    obtain ⟨token, rfl, -⟩ := forget_expect_eq_ok.mp outcome
    exact List.suffix_cons _ _

theorem stops_close (bracket : String) (tokens : List Token) : Stops tokens (close bracket tokens).forget := by
  cases outcome : (close bracket tokens).forget with
  | error failure => exact rest_of_close_eq_error outcome ▸ List.suffix_refl _
  | ok reading =>
    obtain ⟨token, rfl, -⟩ := forget_close_eq_ok.mp outcome
    exact List.suffix_cons _ _

theorem stops_name (role : String) (tokens : List Token) : Stops tokens (name role tokens).forget := by
  cases tokens with
  | nil => exact List.suffix_refl _
  | cons token rest => cases token <;> exact List.suffix_cons _ _

theorem stops_className (tokens : List Token) : Stops tokens (className tokens).forget := by
  cases tokens with
  | nil => exact List.suffix_refl _
  | cons token rest =>
    cases token with
    | name text =>
      rw [forget_className_name]
      split <;> exact List.suffix_cons _ _
    | _ => exact List.suffix_cons _ _

theorem stops_variableName (tokens : List Token) : Stops tokens (variableName tokens).forget := by
  cases tokens with
  | nil => exact List.suffix_refl _
  | cons token rest =>
    cases token with
    | name text =>
      rw [forget_variableName_name]
      split <;> exact List.suffix_cons _ _
    | _ => exact List.suffix_cons _ _

/-! ### Constraints -/

theorem stops_constraint (tokens : List Token) : Stops tokens (constraint tokens).forget := by
  rw [forget_constraint]
  refine (stops_className tokens).bind fun typeClass rest _ => ?_
  exact (stops_variableName rest).last fun typeVar => (⟨typeClass, typeVar⟩ : Constraint)

theorem stops_constraintsTail (tokens : List Token) : Stops tokens (constraintsTail tokens).forget := by
  by_cases comma : ∃ rest, tokens = .comma :: rest
  · obtain ⟨rest, eq⟩ := comma
    rw [eq, forget_constraintsTail_comma]
    refine ((stops_constraint rest).bind fun first rest' read => ?_).cons _
    have shorter : rest'.length < tokens.length := by
      rw [eq]
      exact Nat.lt_succ_of_lt (rest_lt_of_forget read)
    exact (stops_constraintsTail rest').last fun others => first :: others
  · rw [forget_constraintsTail_end fun rest h => comma ⟨rest, h⟩]
    exact List.suffix_refl _
termination_by tokens.length

theorem stops_context (tokens : List Token) : Stops tokens (context tokens).forget := by
  by_cases bracket : ∃ rest, tokens = .opening .round :: rest
  · obtain ⟨rest, rfl⟩ := bracket
    rw [forget_context_round]
    refine ((stops_constraint rest).bind fun first rest₁ _ => ?_).cons _
    refine (stops_constraintsTail rest₁).bind fun others rest₂ _ => ?_
    refine (stops_close ")" rest₂).bind fun _ rest₃ _ => ?_
    exact (stops_expect "=>" rest₃).last fun _ => first :: others
  · rw [forget_context_single fun rest h => bracket ⟨rest, h⟩]
    refine (stops_constraint tokens).bind fun first rest _ => ?_
    exact (stops_expect "=>" rest).last fun _ => [first]

/-! ### Types -/

theorem stops_applicationOf (tokens : List Token) (head : Entry) (params : List Entry) (rest : List Token) :
    Stops rest (applicationOf tokens head params rest) := by
  unfold applicationOf
  split
  · exact List.suffix_refl _
  · split <;> exact List.suffix_refl _

-- The readers of types call each other as they are defined: on fewer tokens, or further down in the grammar.
mutual

theorem stops_type (tokens : List Token) : Stops tokens (type tokens).forget := by
  rw [forget_type]
  refine (stops_application tokens).bind fun first rest read => ?_
  have shorter := rest_lt_of_forget read
  exact (stops_segmentsTail rest).last fun others => Entry.joined (first :: others)
termination_by (tokens.length, 3)

theorem stops_segmentsTail (tokens : List Token) : Stops tokens (segmentsTail tokens).forget := by
  by_cases arrow : ∃ rest, tokens = .symbol "->" :: rest
  · obtain ⟨rest, eq⟩ := arrow
    have inside : rest.length < tokens.length := eq ▸ Nat.lt_succ_self _
    rw [eq, forget_segmentsTail_arrow]
    refine ((stops_application rest).bind fun first rest' read => ?_).cons _
    have shorter := rest_lt_of_forget read
    exact (stops_segmentsTail rest').last fun others => first :: others
  · rw [forget_segmentsTail_end fun rest h => arrow ⟨rest, h⟩]
    exact List.suffix_refl _
termination_by (tokens.length, 0)

theorem stops_application (tokens : List Token) : Stops tokens (application tokens).forget := by
  rw [forget_application]
  refine (stops_atom tokens).bind fun head rest read => ?_
  have shorter := rest_lt_of_forget read
  refine (stops_parameters rest).bind fun params rest' _ => ?_
  exact stops_applicationOf tokens head params rest'
termination_by (tokens.length, 2)

theorem stops_parameters (tokens : List Token) : Stops tokens (parameters tokens).forget := by
  cases atoms : startsAtom tokens with
  | true =>
    rw [forget_parameters_of_atom atoms]
    refine (stops_atom tokens).bind fun first rest read => ?_
    have shorter := rest_lt_of_forget read
    exact (stops_parameters rest).last fun others => first :: others
  | false =>
    rw [forget_parameters_end atoms]
    exact List.suffix_refl _
termination_by (tokens.length, 2)

theorem stops_atom (tokens : List Token) : Stops tokens (atom tokens).forget := by
  match tokens with
  | [] => exact forget_atom_nil ▸ List.suffix_refl _
  | .name text :: rest => exact forget_atom_name text rest ▸ List.suffix_cons _ _
  | .symbol text :: rest => exact forget_atom_symbol text rest ▸ List.suffix_cons _ _
  | .comma :: rest => exact forget_atom_comma rest ▸ List.suffix_cons _ _
  | .closing bracket :: rest => exact forget_atom_closing bracket rest ▸ List.suffix_cons _ _
  | .opening .round :: rest =>
    by_cases thunk : ∃ rest', rest = .closing .round :: rest'
    · obtain ⟨rest', rfl⟩ := thunk
      rw [forget_atom_thunk]
      exact (List.suffix_cons _ _).trans (List.suffix_cons _ _)
    · rw [forget_atom_round fun rest' h => thunk ⟨rest', h⟩]
      refine ((stops_type rest).bind fun inner rest' _ => ?_).cons _
      exact (stops_close ")" rest').last fun _ => inner
  | .opening .square :: rest =>
    rw [forget_atom_square]
    refine ((stops_type rest).bind fun element rest' _ => ?_).cons _
    exact (stops_close "]" rest').last fun _ => Entry.list element
  | .opening .curly :: rest =>
    by_cases empty : ∃ rest', rest = .closing .curly :: rest'
    · obtain ⟨rest', rfl⟩ := empty
      rw [forget_atom_emptyRecord]
      exact (List.suffix_cons _ _).trans (List.suffix_cons _ _)
    · rw [forget_atom_record fun rest' h => empty ⟨rest', h⟩]
      refine ((stops_field rest).bind fun first rest₁ read => ?_).cons _
      have shorter := rest_lt_of_forget read
      refine (stops_fieldsTail rest₁).bind fun others rest₂ _ => ?_
      exact (stops_close "\x7d" rest₂).last fun _ => Entry.record (first :: others)
termination_by (tokens.length, 1)

theorem stops_fieldsTail (tokens : List Token) : Stops tokens (fieldsTail tokens).forget := by
  by_cases comma : ∃ rest, tokens = .comma :: rest
  · obtain ⟨rest, eq⟩ := comma
    have inside : rest.length < tokens.length := eq ▸ Nat.lt_succ_self _
    rw [eq, forget_fieldsTail_comma]
    refine ((stops_field rest).bind fun first rest' read => ?_).cons _
    have shorter := rest_lt_of_forget read
    exact (stops_fieldsTail rest').last fun others => first :: others
  · rw [forget_fieldsTail_end fun rest h => comma ⟨rest, h⟩]
    exact List.suffix_refl _
termination_by (tokens.length, 0)

theorem stops_field (tokens : List Token) : Stops tokens (field tokens).forget := by
  rw [forget_field]
  refine (stops_name "field name" tokens).bind fun label rest named => ?_
  have shorter := rest_lt_of_forget named
  refine (stops_expect "::" rest).bind fun _ rest' typed => ?_
  have shorter' := rest_lt_of_forget typed
  exact (stops_type rest').last fun entry => Entry.field label entry
termination_by (tokens.length, 0)

end

/-! ### Signatures -/

theorem stops_constraintsOf (constrained : Bool) (tokens : List Token) :
    Stops tokens (constraintsOf constrained tokens) := by
  cases constrained with
  | false => exact List.suffix_refl _
  | true => exact stops_context tokens

theorem rest_of_finish_eq_error {tokens : List Token} {failure : Failure} (h : finish tokens = .error failure) :
    failure.rest = tokens := by
  cases tokens with
  | nil => cases h
  | cons token rest =>
    cases token
    all_goals
      cases h
      rfl

/-- A signature fails where one of its phrases does, or behind the last one. -/
theorem suffix_of_signature_eq_error {constrained : Bool} {tokens : List Token} {failure : Failure}
    (h : signature constrained tokens = .error failure) : failure.rest <:+ tokens := by
  rw [signature_eq] at h
  rcases bind_eq_error_iff.mp h with failed | ⟨⟨label, rest₁⟩, named, h₁⟩
  · exact (stops_name _ _).suffix_of_error failed
  have suffix₁ := (stops_name _ _).suffix_of_ok named
  rcases bind_eq_error_iff.mp h₁ with failed | ⟨⟨_, rest₂⟩, typed, h₂⟩
  · exact ((stops_expect _ _).suffix_of_error failed).trans suffix₁
  have suffix₂ := ((stops_expect _ _).suffix_of_ok typed).trans suffix₁
  rcases bind_eq_error_iff.mp h₂ with failed | ⟨⟨constraints, rest₃⟩, constrains, h₃⟩
  · exact ((stops_constraintsOf _ _).suffix_of_error failed).trans suffix₂
  have suffix₃ := ((stops_constraintsOf _ _).suffix_of_ok constrains).trans suffix₂
  rcases bind_eq_error_iff.mp h₃ with failed | ⟨⟨entry, rest₄⟩, read, h₄⟩
  · exact ((stops_type _).suffix_of_error failed).trans suffix₃
  have suffix₄ := ((stops_type _).suffix_of_ok read).trans suffix₃
  rcases bind_eq_error_iff.mp h₄ with failed | ⟨_, _, h₅⟩
  · exact rest_of_finish_eq_error failed ▸ suffix₄
  · cases h₅

/-- A signature takes at least its name. -/
theorem ne_nil_of_signature_eq_ok {constrained : Bool} {tokens : List Token} {result : Signature}
    (h : signature constrained tokens = .ok result) : tokens ≠ [] := by
  rw [signature_eq] at h
  obtain ⟨⟨label, rest⟩, named, -⟩ := bind_eq_ok_iff.mp h
  rw [forget_name_eq_ok.mp named]
  exact List.cons_ne_nil _ _

end Read

/-! ## What a request reads -/

section Answered

variable {α : Type} {answer : α → Answer} {tokens rest : List Token} {outcome : Except Failure (α × List Token)}

/-- A reading with the answer in the place of its value. -/
def answered (answer : α → Answer) (outcome : Except Failure (α × List Token)) : Except Failure (Answer × List Token) :=
  outcome.map (Prod.map answer id)

theorem stops_answered (stops : Stops tokens outcome) : Stops tokens (answered answer outcome) := by
  cases outcome <;> exact stops

theorem answered_eq_ok {a : Answer} (h : answered answer outcome = .ok (a, rest)) :
    ∃ value, outcome = .ok (value, rest) := by
  cases outcome with
  | ok reading =>
    cases h
    exact ⟨reading.1, rfl⟩
  | error failure => cases h

theorem answered_eq_error {failure : Failure} (h : answered answer outcome = .error failure) :
    outcome = .error failure := by
  cases outcome with
  | ok reading => cases h
  | error failure' =>
    cases h
    rfl

end Answered

namespace Request

/-- What a request reads in the tokens from the position on, `all` being the tokens of the session. -/
def reading (all : List Token) : Request → List Token → Except Failure (Answer × List Token)
  | peek, tokens => .ok (.token (tokens.head?.map Token.text), tokens)
  | next, tokens => answered (fun token => .token (some token.text)) (Read.next tokens).forget
  | expect text, tokens => answered (fun _ => .nothing) (Read.expect text tokens).forget
  | close bracket, tokens => answered (fun _ => .nothing) (Read.close bracket tokens).forget
  | signature, tokens =>
      if all.isEmpty then .error ⟨.empty, tokens⟩
      else do
        let result ← Read.signature (all.contains .implies) tokens
        return (.signature result, [])
  | context, tokens => answered .constraints (Read.context tokens).forget
  | constraint, tokens => answered .constraint (Read.constraint tokens).forget
  | type, tokens => answered .entry (Read.type tokens).forget
  | application, tokens => answered .entry (Read.application tokens).forget
  | atom, tokens => answered .entry (Read.atom tokens).forget
  | field, tokens => answered .entry (Read.field tokens).forget

/-- The requests for one token. -/
def takesToken : Request → Bool
  | next | expect _ | close _ => true
  | _ => false

/-- The requests for a phrase of the grammar. -/
def readsPhrase : Request → Bool
  | peek | next | expect _ | close _ => false
  | _ => true

/-- Only the request for a signature asks for other tokens than those from the position on. -/
theorem reading_congr (all all' : List Token) {request : Request} (other : request ≠ signature) (tokens : List Token) :
    request.reading all tokens = request.reading all' tokens := by
  cases request with
  | signature => exact absurd rfl other
  | _ => rfl

theorem stops_reading (all : List Token) (request : Request) (tokens : List Token) :
    Stops tokens (request.reading all tokens) := by
  cases request with
  | peek => exact List.suffix_refl _
  | next => exact stops_answered (Read.stops_next tokens)
  | expect text => exact stops_answered (Read.stops_expect text tokens)
  | close bracket => exact stops_answered (Read.stops_close bracket tokens)
  | signature =>
    simp only [reading]
    split
    · exact List.suffix_refl _
    · cases outcome : Read.signature (all.contains .implies) tokens with
      | ok result => exact List.nil_suffix
      | error failure => exact Read.suffix_of_signature_eq_error outcome
  | context => exact stops_answered (Read.stops_context tokens)
  | constraint => exact stops_answered (Read.stops_constraint tokens)
  | type => exact stops_answered (Read.stops_type tokens)
  | application => exact stops_answered (Read.stops_application tokens)
  | atom => exact stops_answered (Read.stops_atom tokens)
  | field => exact stops_answered (Read.stops_field tokens)

/-- Where a single token is not the wanted one, it is left. -/
theorem rest_of_reading_eq_error {all tokens : List Token} {request : Request} {failure : Failure}
    (single : request.takesToken = true) (h : request.reading all tokens = .error failure) : failure.rest = tokens := by
  cases request with
  | next => exact Read.rest_of_next_eq_error (answered_eq_error h)
  | expect text => exact Read.rest_of_expect_eq_error (answered_eq_error h)
  | close bracket => exact Read.rest_of_close_eq_error (answered_eq_error h)
  | _ => cases single

/-- A phrase takes at least one token. -/
theorem rest_lt_of_reading_eq_ok {all tokens rest : List Token} {request : Request} {answer : Answer}
    (phrase : request.readsPhrase = true) (h : request.reading all tokens = .ok (answer, rest)) :
    rest.length < tokens.length := by
  have shorter {α : Type} {answers : α → Answer} {outcome : Outcome α tokens.length}
      (h : answered answers outcome.forget = .ok (answer, rest)) : rest.length < tokens.length := by
    obtain ⟨value, read⟩ := answered_eq_ok h
    exact Read.rest_lt_of_forget read
  cases request with
  | signature =>
    simp only [reading] at h
    split at h
    · cases h
    · obtain ⟨result, read, h'⟩ := bind_eq_ok_iff.mp h
      cases h'
      exact List.length_pos_iff.mpr (Read.ne_nil_of_signature_eq_ok read)
  | context => exact shorter h
  | constraint => exact shorter h
  | type => exact shorter h
  | application => exact shorter h
  | atom => exact shorter h
  | field => exact shorter h
  | _ => cases phrase

end Request

/-! ## Positions -/

namespace Session

variable {session : Session} {rest : List Token}

/-- A session within its tokens. -/
def Bounded (session : Session) : Prop :=
  session.position ≤ session.tokens.length

/-- The session after some requests, one after the other. -/
def after (session : Session) (requests : List Request) : Session :=
  requests.foldl (fun now request => (now.run request).2) session

theorem leave_rest (bounded : session.Bounded) : session.leave session.rest = session := by
  have back : session.tokens.length - (session.tokens.length - session.position) = session.position :=
    Nat.sub_sub_self bounded
  rw [leave, Session.rest, List.length_drop, back]

theorem length_rest : session.rest.length = session.tokens.length - session.position :=
  List.length_drop

/-- The number of tokens between two positions is the one between what is left at them. -/
theorem position_leave_sub : (session.leave rest).position - session.position = session.rest.length - rest.length := by
  rw [length_rest]
  exact Nat.sub_right_comm _ _ _

/-- The answer to a reading, and the session where it stopped. -/
def settle (session : Session) : Except Failure (Answer × List Token) → Except ParseError Answer × Session
  | .ok (answer, rest) => (.ok answer, session.leave rest)
  | .error failure => (.error failure.error, session.leave failure.rest)

theorem advance_eq {α : Type} {bound : Nat} (answer : α → Answer) (outcome : Outcome α bound) :
    session.advance answer outcome = session.settle (answered answer outcome.forget) := by
  cases outcome <;> rfl

/-- A step is a reading of the tokens that are left. -/
theorem run_eq (bounded : session.Bounded) (request : Request) :
    session.run request = session.settle (request.reading session.tokens session.rest) := by
  cases request with
  | peek => exact Prod.ext rfl (leave_rest bounded).symm
  | signature =>
    show session.wholeSignature = _
    simp only [wholeSignature, Request.reading]
    split
    · exact Prod.ext rfl (leave_rest bounded).symm
    · cases Read.signature (session.tokens.contains .implies) session.rest <;> rfl
  | _ => simp only [run, advance_eq, Request.reading]

/-! ## Going forward -/

/-- A session comes to another one further on in the same tokens. -/
structure Leads (before after : Session) : Prop where
  tokens : after.tokens = before.tokens
  bounded : after.Bounded
  forward : before.position ≤ after.position

theorem Leads.refl (bounded : session.Bounded) : Leads session session :=
  ⟨rfl, bounded, Nat.le_refl _⟩

theorem Leads.trans {first second third : Session} (leads : Leads first second) (leads' : Leads second third) :
    Leads first third :=
  ⟨leads'.tokens.trans leads.tokens, leads'.bounded, Nat.le_trans leads.forward leads'.forward⟩

theorem leads_leave (bounded : session.Bounded) (suffix : rest <:+ session.rest) :
    Leads session (session.leave rest) := by
  refine ⟨rfl, Nat.sub_le _ _, ?_⟩
  have shorter : rest.length ≤ session.tokens.length - session.position := length_rest ▸ suffix.length_le
  have within : session.position ≤ session.tokens.length := bounded
  show session.position ≤ session.tokens.length - rest.length
  omega

theorem leads_run (bounded : session.Bounded) (request : Request) : Leads session (session.run request).2 := by
  rw [run_eq bounded]
  have stops := request.stops_reading session.tokens session.rest
  cases outcome : request.reading session.tokens session.rest with
  | ok result => exact leads_leave bounded (stops.suffix_of_ok outcome)
  | error failure => exact leads_leave bounded (stops.suffix_of_error outcome)

theorem leads_after (bounded : session.Bounded) (requests : List Request) : Leads session (session.after requests) := by
  induction requests generalizing session with
  | nil => exact Leads.refl bounded
  | cons request requests ih =>
    have step := leads_run bounded request
    exact step.trans (ih step.bounded)

/-- A request for a token that fails leaves the session as it is. -/
theorem run_eq_self_of_error (bounded : session.Bounded) {request : Request} {error : ParseError}
    (single : request.takesToken = true) (h : (session.run request).1 = .error error) :
    (session.run request).2 = session := by
  rw [run_eq bounded] at h ⊢
  cases outcome : request.reading session.tokens session.rest with
  | ok result =>
    rw [outcome] at h
    cases h
  | error failure =>
    show session.leave failure.rest = session
    rw [Request.rest_of_reading_eq_error single outcome, leave_rest bounded]

/-- A phrase that is read is behind the new position. -/
theorem position_lt_of_ok (bounded : session.Bounded) {request : Request} {answer : Answer}
    (phrase : request.readsPhrase = true) (h : (session.run request).1 = .ok answer) :
    session.position < (session.run request).2.position := by
  rw [run_eq bounded] at h ⊢
  cases outcome : request.reading session.tokens session.rest with
  | ok result =>
    have shorter := Request.rest_lt_of_reading_eq_ok phrase outcome
    rw [← Nat.sub_pos_iff_lt] at shorter ⊢
    exact position_leave_sub ▸ shorter
  | error failure =>
    rw [outcome] at h
    cases h

/-- Sessions with the same tokens left give the same answer and take as many tokens. -/
theorem run_congr {other : Session} (bounded : session.Bounded) (bounded' : other.Bounded)
    (same : other.rest = session.rest) {request : Request} (notWhole : request ≠ .signature) :
    (other.run request).1 = (session.run request).1 ∧
      (other.run request).2.position - other.position = (session.run request).2.position - session.position := by
  rw [run_eq bounded, run_eq bounded', same, Request.reading_congr other.tokens session.tokens notWhole]
  cases request.reading session.tokens session.rest with
  | ok result => exact ⟨rfl, by rw [settle, settle, position_leave_sub, position_leave_sub, same]⟩
  | error failure => exact ⟨rfl, by rw [settle, settle, position_leave_sub, position_leave_sub, same]⟩

/-! ## The last token -/

/-- The last token that a reading took is the one in front of the position where it stopped. -/
theorem lastTaken_eq (shorter : rest.length < session.rest.length) :
    Read.lastTaken session.rest rest = session.tokens[(session.leave rest).position - 1]? := by
  rw [length_rest] at shorter
  unfold Read.lastTaken
  rw [length_rest, Session.rest, List.getElem?_drop]
  have index : session.position + (session.tokens.length - session.position - rest.length - 1) =
      session.tokens.length - rest.length - 1 := by omega
  rw [index]
  rfl

/-- An application whose head takes no parameters complains of the token in front of the new position, which is counted
in all the tokens of the session. -/
theorem run_application_of_not_applied {head : Entry} {params : List Entry} {rest' : List Token}
    (first : (Read.atom session.rest).forget = .ok (head, rest'))
    (more : (Read.parameters rest').forget = .ok (params, rest)) (given : params ≠ [])
    (notApplied : head.applied? params = none) :
    session.run .application =
      (.error (.unexpected ((session.tokens[(session.leave rest).position - 1]?).map Token.text) none),
        session.leave rest) := by
  have shorter : rest.length < session.rest.length :=
    Nat.lt_of_le_of_lt ((Read.stops_parameters rest').suffix_of_ok more).length_le (Read.rest_lt_of_forget first)
  have failed : (Read.application session.rest).forget =
      .error ⟨.unexpected ((Read.lastTaken session.rest rest).map Token.text) none, rest⟩ := by
    rw [Read.forget_application, first, ok_bind]
    show (Read.parameters rest').forget >>= _ = _
    rw [more, ok_bind]
    simp only [Read.applicationOf, List.isEmpty_iff, if_neg given, notApplied]
  rw [run, advance_eq, failed, lastTaken_eq shorter]
  rfl

/-! ## Sessions on texts -/

theorem bounded_of_ofText {text : String} (opened : ofText text = .ok session) : session.Bounded := by
  obtain ⟨tokens, -, h⟩ := bind_eq_ok_iff.mp opened
  cases h
  exact Nat.zero_le _

/-- Whatever a session on a text has been asked for, and whether or not that succeeded: it holds the tokens of the text
still, its position is among them, and the next request keeps both and does not go back. To look at the next token does
not move it, nor does a token that is not the wanted one; a phrase that is read does. Except for a whole signature, the
answer and the number of tokens that are taken are those of any other session that has the same tokens left. -/
theorem after_moves_forward {text : String} {start : Session} (opened : ofText text = .ok start)
    (requests : List Request) :
    let now := start.after requests
    (tokenize text = .ok now.tokens ∧ start.position ≤ now.position ∧ now.position ≤ now.tokens.length) ∧
      (∀ request, (now.run request).2.tokens = now.tokens ∧ now.position ≤ (now.run request).2.position ∧
        (now.run request).2.position ≤ now.tokens.length) ∧
      (now.run .peek).2 = now ∧
      (∀ request error, request.takesToken = true → (now.run request).1 = .error error → (now.run request).2 = now) ∧
      (∀ request answer, request.readsPhrase = true → (now.run request).1 = .ok answer →
        now.position + 1 ≤ (now.run request).2.position) ∧
      ∀ request (other : Session), request ≠ .signature → other.position ≤ other.tokens.length → other.rest = now.rest →
        (other.run request).1 = (now.run request).1 ∧
          (other.run request).2.position - other.position = (now.run request).2.position - now.position := by
  have before := leads_after (bounded_of_ofText opened) requests
  obtain ⟨tokens, tokenized, h⟩ := bind_eq_ok_iff.mp opened
  cases h
  refine ⟨⟨before.tokens ▸ tokenized, before.forward, before.bounded⟩, ?_, rfl, ?_, ?_, ?_⟩
  · intro request
    have step := leads_run before.bounded request
    exact ⟨step.tokens, step.forward, step.tokens ▸ step.bounded⟩
  · intro request error single failed
    exact run_eq_self_of_error before.bounded single failed
  · intro request answer phrase read
    exact position_lt_of_ok before.bounded phrase read
  · intro request other notWhole bounded same
    exact run_congr before.bounded bounded same notWhole

/-- A session behind the two colons of a signature, where a double arrow was asked for too early. It stays there when it
looks and when it asks for a bracket, and reads the constraint as one that starts there. -/
theorem after_moves_forward_to_constraint :
    let now := after ⟨[.name "f", .typed, .name "Eq", .name "a", .implies, .name "a"], 0⟩ [.next, .expect "=>", .next]
    let other : Session := ⟨[.name "Eq", .name "a", .implies, .name "a"], 0⟩
    ofText "f :: Eq a => a" = .ok ⟨now.tokens, 0⟩ ∧ now.position = 2 ∧ (now.run .peek).2 = now ∧
      (now.run (.close ")")).2 = now ∧ now.position + 1 ≤ (now.run .constraint).2.position ∧
      (other.run .constraint).1 = (now.run .constraint).1 ∧
      (other.run .constraint).2.position - other.position = (now.run .constraint).2.position - now.position := by
  have opened : ofText "f :: Eq a => a" =
      .ok ⟨[.name "f", .typed, .name "Eq", .name "a", .implies, .name "a"], 0⟩ := by rfl
  obtain ⟨-, -, looks, keeps, moves, ahead⟩ := after_moves_forward opened [.next, .expect "=>", .next]
  exact ⟨opened, rfl, looks, keeps (.close ")") (.mismatchedBracket ")") rfl rfl,
    moves .constraint (.constraint ⟨"Eq", "a"⟩) rfl rfl,
    ahead .constraint ⟨[.name "Eq", .name "a", .implies, .name "a"], 0⟩ (by decide) (by decide) rfl⟩

end Session

end HMSignature.Grammar
