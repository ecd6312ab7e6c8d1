import HMSignature.Proofs.Grammar.Session
import Mathlib.Data.List.Basic
/-!
# How deep reading goes

The readers of types, applications, atoms and fields call each other, and loop over segments, parameters and fields.
Here they are written once more with a budget of nested calls and a limit on the rounds of a loop, so that they can run
out of either, and they note which calls they make.

A reader calls another one without having taken a token, but only one that stands further down in the grammar. So tokens
come first in the measure of a call, and the rank of its production second. Every call is smaller than all calls before
it, those that it is nested in and those that are over: what is over has taken a token.

Results:
1. `Traces.bind`, `Loop.traces_each`: steps one after the other, and a loop over items;
2. `traces_body`: a reader whose nested calls do what they should;
3. `called`: every reader with budget enough does what the one without a budget does;
4. `within_brackets`: a smaller budget is not enough in general;
5. `reading_terminates`.
-/

namespace HMSignature.Grammar.Read

/-! ## Productions and calls -/

/-- The productions of the grammar that contain each other. -/
inductive Production where
  | type
  | application
  | atom
  | field
deriving DecidableEq, Repr

/-- A call of the reader of a production: which one, and the tokens that are left then. -/
abbrev Call := Production × List Token

namespace Production

def read : Production → List Token → Except Failure (Entry × List Token)
  | type, tokens => (Read.type tokens).forget
  | application, tokens => (Read.application tokens).forget
  | atom, tokens => (Read.atom tokens).forget
  | field, tokens => (Read.field tokens).forget

/-- A production starts with one of a smaller rank, or with a token. -/
def rank : Production → Nat
  | type => 3
  | application => 2
  | atom => 1
  | field => 1

variable {production : Production} {tokens rest : List Token} {entry : Entry}

theorem suffix_of_read (h : production.read tokens = .ok (entry, rest)) : rest <:+ tokens := by
  cases production with
  | type => exact (stops_type tokens).suffix_of_ok h
  | application => exact (stops_application tokens).suffix_of_ok h
  | atom => exact (stops_atom tokens).suffix_of_ok h
  | field => exact (stops_field tokens).suffix_of_ok h

theorem rest_lt_of_read (h : production.read tokens = .ok (entry, rest)) : rest.length < tokens.length := by
  cases production <;> exact rest_lt_of_forget h

theorem rank_pos (production : Production) : 0 < production.rank := by
  cases production <;> decide

theorem rank_le (production : Production) : production.rank ≤ 3 := by
  cases production <;> decide

end Production

/-! ## Reading with a budget -/

/-- Why a reading with a budget gives nothing. -/
inductive Halt where
  /-- The tokens are wrong. -/
  | failed (failure : Failure)
  /-- There is nothing left of the budget, or no round of a loop. -/
  | exhausted

/-- A reading that may run out, and notes the calls that it makes. -/
abbrev Traced := ExceptT Halt (StateM (List Call))

/-- What is read when nothing runs out. -/
def unlimited {α : Type} (outcome : Except Failure α) : Except Halt α :=
  outcome.mapError .failed

/-- A reading without nested calls. -/
def single {α : Type} (outcome : Except Failure α) : Traced α :=
  ExceptT.mk (pure (unlimited outcome))

/-- The tokens behind a sign, if they start with it. -/
def after? (sign : Token) : List Token → Option (List Token)
  | [] => none
  | token :: rest => if token = sign then some rest else none

/-- The tokens, if an atom may start with them. -/
def atAtom? (tokens : List Token) : Option (List Token) :=
  if startsAtom tokens then some tokens else none

/-- A loop that reads one item wherever one starts. -/
def each (start? : List Token → Option (List Token)) (item : List Token → Traced (Entry × List Token)) :
    Nat → List Token → Traced (List Entry × List Token)
  | rounds, tokens =>
      match start? tokens with
      | none => return ([], tokens)
      | some inside =>
          match rounds with
          | 0 => throw .exhausted
          | rounds + 1 => do
              let (first, rest) ← item inside
              let (others, rest') ← each start? item rounds rest
              return (first :: others, rest')

section Body

variable (nested : Call → Traced (Entry × List Token))

/-- A loop over a production, with no more rounds than tokens. -/
def loop (start? : List Token → Option (List Token)) (item : Production) (tokens : List Token) :
    Traced (List Entry × List Token) :=
  each start? (fun inside => nested (item, inside)) tokens.length tokens

/-- An atom, with its nested calls left open. -/
def atomBody : List Token → Traced (Entry × List Token)
  | [] => throw (.failed ⟨.unexpected none none, []⟩)
  | .name text :: rest => return (bareName text, rest)
  | .opening .round :: .closing .round :: rest => return (.thunk, rest)
  | .opening .round :: rest => do
      let (inner, rest') ← nested (.type, rest)
      let (_, rest'') ← single (close ")" rest').forget
      return (inner, rest'')
  | .opening .square :: rest => do
      let (element, rest') ← nested (.type, rest)
      let (_, rest'') ← single (close "]" rest').forget
      return (.list element, rest'')
  | .opening .curly :: .closing .curly :: rest => return (.record [], rest)
  | .opening .curly :: rest => do
      let (first, rest₁) ← nested (.field, rest)
      let (others, rest₂) ← loop nested (after? .comma) .field rest₁
      let (_, rest₃) ← single (close "\x7d" rest₂).forget
      return (.record (first :: others), rest₃)
  | .closing bracket :: rest => throw (.failed ⟨.mismatchedBracket (Token.closing bracket).text, rest⟩)
  | token :: rest => throw (.failed ⟨.unexpected (some token.text) none, rest⟩)

/-- What a reader does, with its nested calls left open. -/
def body : Call → Traced (Entry × List Token)
  | (.type, tokens) => do
      let (first, rest) ← nested (.application, tokens)
      let (others, rest') ← loop nested (after? .arrow) .application rest
      return (.joined (first :: others), rest')
  | (.application, tokens) => do
      let (head, rest) ← nested (.atom, tokens)
      let (params, rest') ← loop nested atAtom? .atom rest
      single (applicationOf tokens head params rest')
  | (.atom, tokens) => atomBody nested tokens
  | (.field, tokens) => do
      let (label, rest) ← single (name "field name" tokens).forget
      let (_, rest') ← single (expect "::" rest).forget
      let (entry, rest'') ← nested (.type, rest')
      return (.field label entry, rest'')

end Body

/-- Reading with a budget of nested calls. -/
def within : Nat → Call → Traced (Entry × List Token)
  | 0, _ => throw .exhausted
  | budget + 1, call => do
      modify (· ++ [call])
      body (within budget) call

theorem run_within (budget : Nat) (call : Call) (log : List Call) :
    (within (budget + 1) call).run log = (body (within budget) call).run (log ++ [call]) :=
  rfl

/-! ## The measure of a call -/

/-- A call is below another one if it comes later among the same tokens, or at the same ones but further down in the
grammar. -/
def Below (callee caller : Call) : Prop :=
  callee.2 <:+ caller.2 ∧ (callee.2.length < caller.2.length ∨ callee.1.rank < caller.1.rank)

/-- How many nested calls a call may need, with itself. -/
def Call.depth (call : Call) : Nat :=
  3 * call.2.length + call.1.rank

variable {caller callee : Call} {tokens rest : List Token} {production item : Production}

theorem depth_pos (call : Call) : 0 < call.depth :=
  Nat.lt_of_lt_of_le call.1.rank_pos (Nat.le_add_left _ _)

theorem depth_lt_of_below (below : Below callee caller) : callee.depth < caller.depth := by
  have length := below.1.length_le
  have least := caller.1.rank_pos
  have most := callee.1.rank_le
  unfold Call.depth
  rcases below.2 with shorter | lower <;> omega

theorem Below.trans {call : Call} (below : Below callee caller) (below' : Below call callee) : Below call caller := by
  refine ⟨below'.1.trans below.1, ?_⟩
  rcases below'.2, below.2 with ⟨shorter' | lower', shorter | lower⟩
  · exact .inl (Nat.lt_trans shorter' shorter)
  · exact .inl (Nat.lt_of_lt_of_le shorter' below.1.length_le)
  · exact .inl (Nat.lt_of_le_of_lt below'.1.length_le shorter)
  · exact .inr (Nat.lt_trans lower' lower)

theorem below_of_suffix (suffix : callee.2 <:+ rest) (behind : rest <:+ caller.2)
    (shorter : rest.length < caller.2.length) : Below callee caller :=
  ⟨suffix.trans behind, .inl (Nat.lt_of_le_of_lt suffix.length_le shorter)⟩

theorem below_of_rank (lower : item.rank < production.rank) : Below (item, tokens) (production, tokens) :=
  ⟨List.suffix_refl _, .inr lower⟩

/-- Right behind a token, everything is below. -/
theorem below_cons (token : Token) : Below (item, tokens) (production, token :: tokens) :=
  below_of_suffix (List.suffix_refl _) (List.suffix_cons _ _) (Nat.lt_succ_self _)

/-- Calls of which each one is below those before it. -/
def Descends (calls : List Call) : Prop :=
  calls.Pairwise fun earlier later => Below later earlier

theorem length_lt_depth {calls : List Call} (descends : Descends (caller :: calls)) : calls.length < caller.depth := by
  induction calls generalizing caller with
  | nil => exact depth_pos caller
  | cons callee calls ih =>
    have parts := List.pairwise_cons.mp descends
    exact Nat.lt_of_le_of_lt (ih parts.2) (depth_lt_of_below (parts.1 callee List.mem_cons_self))

/-! ## Steps of a reader -/

section Steps

variable {α β : Type} {step : Nat → Traced (α × List Token)} {outcome : Except Failure (α × List Token)}

/-- A step of a reader, from some of its tokens on, and the calls that it makes. -/
structure Makes (caller : Call) (tokens : List Token) (step : Nat → Traced (α × List Token))
    (outcome : Except Failure (α × List Token)) (calls : List Call) : Prop where
  /-- With any budget that is enough for the reader, the step gives what it should. -/
  run : ∀ budget, caller.depth ≤ budget + 1 → ∀ log, (step budget).run log = (unlimited outcome, log ++ calls)
  descends : Descends calls
  inside : ∀ call ∈ calls, Below call caller ∧ call.2 <:+ tokens
  /-- When the step is over, a token behind each of the calls has been taken. -/
  behind : ∀ value rest, outcome = .ok (value, rest) → rest <:+ tokens ∧ ∀ call ∈ calls, rest.length < call.2.length

/-- A step that does what it should, and makes the same calls with any budget that is enough. -/
def Traces (caller : Call) (tokens : List Token) (step : Nat → Traced (α × List Token))
    (outcome : Except Failure (α × List Token)) : Prop :=
  ∃ calls, Makes caller tokens step outcome calls

/-- A step without calls. -/
theorem Traces.single (stops : Stops tokens outcome) : Traces caller tokens (fun _ => single outcome) outcome := by
  refine ⟨[], fun budget _ log => ?_, List.Pairwise.nil, nofun, fun value rest h => ⟨stops.suffix_of_ok h, nofun⟩⟩
  rw [List.append_nil]
  rfl

theorem Traces.pure (value : α) (tokens : List Token) :
    Traces caller tokens (fun _ => Pure.pure (value, tokens)) (.ok (value, tokens)) := by
  have stops : Stops tokens (.ok (value, tokens)) := List.suffix_refl _
  exact Traces.single stops

/-- A step after another one. The calls of the first are over, and what it has read is behind them. -/
theorem Traces.bind {next : Nat → α × List Token → Traced (β × List Token)}
    {plain : α × List Token → Except Failure (β × List Token)} (first : Traces caller tokens step outcome)
    (second : ∀ value rest, outcome = .ok (value, rest) →
      Traces caller rest (fun budget => next budget (value, rest)) (plain (value, rest))) :
    Traces caller tokens (fun budget => step budget >>= next budget) (outcome >>= plain) := by
  obtain ⟨calls, runs, descends, inside, behind⟩ := first
  cases outcome with
  | error failure =>
    refine ⟨calls, fun budget deep log => ?_, descends, inside, nofun⟩
    rw [run_bind, runs budget deep log]
    rfl
  | ok reading =>
    obtain ⟨value, rest⟩ := reading
    obtain ⟨calls', runs', descends', inside', behind'⟩ := second value rest rfl
    obtain ⟨suffix, past⟩ := behind value rest rfl
    refine ⟨calls ++ calls', fun budget deep log => ?_, ?_, ?_, ?_⟩
    · rw [run_bind, runs budget deep log, ← List.append_assoc]
      exact runs' budget deep _
    · refine List.pairwise_append.mpr ⟨descends, descends', fun earlier before later after => ?_⟩
      have shorter : later.2.length < earlier.2.length :=
        Nat.lt_of_le_of_lt (inside' later after).2.length_le (past earlier before)
      have suffix' := List.suffix_of_suffix_length_le ((inside' later after).2.trans suffix) (inside earlier before).2
        (Nat.le_of_lt shorter)
      exact ⟨suffix', .inl shorter⟩
    · rw [List.forall_mem_append]
      exact ⟨inside, fun call among => ⟨(inside' call among).1, (inside' call among).2.trans suffix⟩⟩
    · intro value' rest' read
      obtain ⟨suffix', past'⟩ := behind' value' rest' read
      refine ⟨suffix'.trans suffix, ?_⟩
      rw [List.forall_mem_append]
      exact ⟨fun call among => Nat.lt_of_le_of_lt suffix'.length_le (past call among), past'⟩

/-- A step that only makes a tree of what another one gives. -/
theorem Traces.last (tree : α → β) (traces : Traces caller tokens step outcome) :
    Traces caller tokens (fun budget => do let (value, rest) ← step budget; return (tree value, rest))
      (do let (value, rest) ← outcome; return (tree value, rest)) :=
  traces.bind fun value rest _ => Traces.pure (tree value) rest

/-- A step among tokens is one among all of those that they are the end of. -/
theorem Traces.widen (suffix : rest <:+ tokens) (traces : Traces caller rest step outcome) :
    Traces caller tokens step outcome := by
  obtain ⟨calls, runs, descends, inside, behind⟩ := traces
  refine ⟨calls, runs, descends, fun call among => ?_, fun value rest' read => ?_⟩
  · exact ⟨(inside call among).1, (inside call among).2.trans suffix⟩
  · exact ⟨(behind value rest' read).1.trans suffix, (behind value rest' read).2⟩

end Steps

/-- A call with any budget that is enough gives what the reader without a budget gives, and makes the same calls. -/
def Called (call : Call) : Prop :=
  ∃ calls,
    (∀ budget, call.depth ≤ budget → ∀ log,
      (within budget call).run log = (unlimited (call.1.read call.2), log ++ call :: calls)) ∧
      Descends (call :: calls) ∧
      ∀ entry rest, call.1.read call.2 = .ok (entry, rest) → ∀ inner ∈ call :: calls, rest.length < inner.2.length

/-- A nested call is a step. -/
theorem Called.traces (called : Called callee) (below : Below callee caller) :
    Traces caller callee.2 (fun budget => within budget callee) (callee.1.read callee.2) := by
  obtain ⟨calls, runs, descends, past⟩ := called
  have lower : ∀ call ∈ callee :: calls, Below call caller ∧ call.2 <:+ callee.2 := by
    have inner := (List.pairwise_cons.mp descends).1
    rw [List.forall_mem_cons]
    exact ⟨⟨below, List.suffix_refl _⟩, fun call among => ⟨below.trans (inner call among), (inner call among).1⟩⟩
  refine ⟨callee :: calls, fun budget deep => ?_, descends, lower, fun entry rest read => ?_⟩
  · exact runs budget (Nat.le_of_lt_succ (Nat.lt_of_lt_of_le (depth_lt_of_below below) deep))
  · exact ⟨Production.suffix_of_read read, past entry rest read⟩

/-! ## Loops -/

theorem after?_eq_some {sign : Token} : after? sign tokens = some rest ↔ tokens = sign :: rest := by
  cases tokens with
  | nil => exact ⟨nofun, nofun⟩
  | cons token rest' =>
    unfold after?
    split <;> simp_all

theorem ne_of_after?_eq_none {sign : Token} (ends : after? sign tokens = none) (rest : List Token) :
    tokens ≠ sign :: rest := by
  intro starts
  rw [after?_eq_some.mpr starts] at ends
  cases ends

theorem atAtom?_eq_some : atAtom? tokens = some rest ↔ startsAtom tokens = true ∧ tokens = rest := by
  rw [atAtom?, Option.ite_none_right_eq_some, Option.some.injEq]

/-- A reader of a list that reads the items of a production one after the other. -/
structure Loop (start? : List Token → Option (List Token)) (item : Production)
    (list : List Token → Except Failure (List Entry × List Token)) : Prop where
  nil : start? [] = none
  inside : ∀ {tokens rest}, start? tokens = some rest → rest <:+ tokens
  stop : ∀ {tokens}, start? tokens = none → list tokens = .ok ([], tokens)
  more : ∀ {tokens inside}, start? tokens = some inside → list tokens = do
    let (first, rest) ← item.read inside
    let (others, rest') ← list rest
    return (first :: others, rest')

theorem loop_segmentsTail : Loop (after? .arrow) .application fun tokens => (segmentsTail tokens).forget where
  nil := rfl
  inside starts := after?_eq_some.mp starts ▸ List.suffix_cons _ _
  stop ends := forget_segmentsTail_end (ne_of_after?_eq_none ends)
  more starts := after?_eq_some.mp starts ▸ forget_segmentsTail_arrow _

theorem loop_fieldsTail : Loop (after? .comma) .field fun tokens => (fieldsTail tokens).forget where
  nil := rfl
  inside starts := after?_eq_some.mp starts ▸ List.suffix_cons _ _
  stop ends := forget_fieldsTail_end (ne_of_after?_eq_none ends)
  more starts := after?_eq_some.mp starts ▸ forget_fieldsTail_comma _

theorem loop_parameters : Loop atAtom? .atom fun tokens => (parameters tokens).forget where
  nil := rfl
  inside starts := (atAtom?_eq_some.mp starts).2 ▸ List.suffix_refl _
  stop ends := forget_parameters_end (Bool.eq_false_iff.mpr fun starts => by simp [atAtom?, starts] at ends)
  more starts := by
    obtain ⟨atom, rfl⟩ := atAtom?_eq_some.mp starts
    exact forget_parameters_of_atom atom

variable {start? : List Token → Option (List Token)} {list : List Token → Except Failure (List Entry × List Token)}

/-- A loop does not run out of rounds if there are as many as tokens, because every item takes one. -/
theorem Loop.traces_each (loop : Loop start? item list) {rounds : Nat} (enough : tokens.length ≤ rounds)
    (below : ∀ inside, inside <:+ tokens → Below (item, inside) caller)
    (callable : ∀ callee, Below callee caller → Called callee) :
    Traces caller tokens (fun budget => each start? (fun inside => within budget (item, inside)) rounds tokens)
      (list tokens) := by
  induction rounds generalizing tokens with
  | zero =>
    obtain rfl := List.eq_nil_of_length_eq_zero (Nat.le_zero.mp enough)
    simp only [each, loop.nil, loop.stop loop.nil]
    exact Traces.pure [] []
  | succ rounds ih =>
    unfold each
    cases starts : start? tokens with
    | none =>
      rw [loop.stop starts]
      exact Traces.pure [] tokens
    | some inside =>
      have suffix := loop.inside starts
      have lower := below inside suffix
      rw [loop.more starts]
      refine (((callable _ lower).traces lower).bind fun first rest read => ?_).widen suffix
      have suffix' : rest <:+ tokens := (Production.suffix_of_read read).trans suffix
      have shorter : rest.length < tokens.length :=
        Nat.lt_of_lt_of_le (Production.rest_lt_of_read read) suffix.length_le
      have left : rest.length ≤ rounds := by omega
      exact (ih left fun later ends => below later (ends.trans suffix')).last fun others => first :: others

/-- A loop behind something that its reader has read. -/
theorem Loop.traces (loop : Loop start? item list) (caller : Call) (behind : rest <:+ caller.2)
    (shorter : rest.length < caller.2.length) (callable : ∀ callee, Below callee caller → Called callee) :
    Traces caller rest (fun budget => Read.loop (within budget) start? item rest) (list rest) :=
  loop.traces_each (Nat.le_refl _) (fun _ suffix => below_of_suffix suffix behind shorter) callable

/-! ## Readers -/

/-- A type between brackets. -/
theorem traces_bracketed (token : Token) (bracket : String) (tree : Entry → Entry)
    (callable : ∀ callee, Below callee (.atom, token :: tokens) → Called callee) :
    Traces (.atom, token :: tokens) (token :: tokens)
      (fun budget => do
        let (inner, rest) ← within budget (.type, tokens)
        let (_, rest') ← single (close bracket rest).forget
        return (tree inner, rest'))
      (do
        let (inner, rest) ← (type tokens).forget
        let (_, rest') ← (close bracket rest).forget
        return (tree inner, rest')) := by
  have below : Below (.type, tokens) (.atom, token :: tokens) := below_cons token
  refine Traces.widen (List.suffix_cons token tokens) ?_
  refine ((callable _ below).traces below).bind fun inner rest _ => ?_
  exact (Traces.single (stops_close bracket rest)).last fun _ => tree inner

theorem traces_atomBody (callable : ∀ callee, Below callee (.atom, tokens) → Called callee) :
    Traces (.atom, tokens) tokens (fun budget => atomBody (within budget) tokens) (atom tokens).forget := by
  -- An atom that ends with its first tokens makes no calls.
  have alone (simple : (fun budget => atomBody (within budget) tokens) = fun _ => single (atom tokens).forget) :
      Traces (.atom, tokens) tokens (fun budget => atomBody (within budget) tokens) (atom tokens).forget :=
    simple ▸ Traces.single (stops_atom tokens)
  match tokens with
  | [] => exact alone (by rw [forget_atom_nil]; rfl)
  | .name text :: rest => exact alone (by rw [forget_atom_name]; rfl)
  | .symbol text :: rest => exact alone (by rw [forget_atom_symbol]; rfl)
  | .comma :: rest => exact alone (by rw [forget_atom_comma]; rfl)
  | .closing bracket :: rest => exact alone (by rw [forget_atom_closing]; rfl)
  | .opening .round :: rest =>
    by_cases thunk : ∃ rest', rest = .closing .round :: rest'
    · obtain ⟨rest', rfl⟩ := thunk
      exact alone (by rw [forget_atom_thunk]; rfl)
    · have noThunk (rest' : List Token) : rest ≠ .closing .round :: rest' := fun h => thunk ⟨rest', h⟩
      simp only [forget_atom_round noThunk, atomBody]
      exact traces_bracketed (.opening .round) ")" id callable
  | .opening .square :: rest =>
    rw [forget_atom_square]
    exact traces_bracketed (.opening .square) "]" Entry.list callable
  | .opening .curly :: rest =>
    by_cases empty : ∃ rest', rest = .closing .curly :: rest'
    · obtain ⟨rest', rfl⟩ := empty
      exact alone (by rw [forget_atom_emptyRecord]; rfl)
    · have notEmpty (rest' : List Token) : rest ≠ .closing .curly :: rest' := fun h => empty ⟨rest', h⟩
      simp only [forget_atom_record notEmpty, atomBody]
      have below : Below (.field, rest) (.atom, .opening .curly :: rest) := below_cons _
      refine Traces.widen (List.suffix_cons _ _) ?_
      refine ((callable _ below).traces below).bind fun first rest₁ read => ?_
      have suffix := (Production.suffix_of_read read).trans (List.suffix_cons (.opening .curly) rest)
      have shorter := Nat.lt_succ_of_lt (Production.rest_lt_of_read read)
      have loop := loop_fieldsTail.traces (.atom, .opening .curly :: rest) suffix shorter callable
      refine loop.bind fun others rest₂ _ => ?_
      exact (Traces.single (stops_close "\x7d" rest₂)).last fun _ => Entry.record (first :: others)

/-- A reader whose nested calls do what they should does what it should. -/
theorem traces_body (caller : Call) (callable : ∀ callee, Below callee caller → Called callee) :
    Traces caller caller.2 (fun budget => body (within budget) caller) (caller.1.read caller.2) := by
  obtain ⟨production, tokens⟩ := caller
  cases production with
  | type =>
    have below : Below (.application, tokens) (.type, tokens) := below_of_rank (by decide)
    show Traces _ _ _ (type tokens).forget
    rw [forget_type]
    refine ((callable _ below).traces below).bind fun first rest read => ?_
    have behind := Production.suffix_of_read read
    have loop := loop_segmentsTail.traces (.type, tokens) behind (Production.rest_lt_of_read read) callable
    exact loop.last fun others => Entry.joined (first :: others)
  | application =>
    have below : Below (.atom, tokens) (.application, tokens) := below_of_rank (by decide)
    show Traces _ _ _ (application tokens).forget
    rw [forget_application]
    refine ((callable _ below).traces below).bind fun head rest read => ?_
    have behind := Production.suffix_of_read read
    have loop := loop_parameters.traces (.application, tokens) behind (Production.rest_lt_of_read read)
      callable
    exact loop.bind fun params rest' _ => Traces.single (stops_applicationOf tokens head params rest')
  | atom => exact traces_atomBody callable
  | field =>
    show Traces _ _ _ (field tokens).forget
    rw [forget_field]
    refine (Traces.single (stops_name _ _)).bind fun label rest named => ?_
    refine (Traces.single (stops_expect _ _)).bind fun _ rest' typed => ?_
    have below : Below (.type, rest') (.field, tokens) :=
      below_of_suffix ((stops_expect _ _).suffix_of_ok typed) ((stops_name _ _).suffix_of_ok named)
        (rest_lt_of_forget named)
    exact ((callable _ below).traces below).last fun entry => Entry.field label entry

/-- Every call with a budget that is enough for its depth does what the reader without a budget does. -/
theorem called (call : Call) : Called call := by
  -- The calls inside of this one are below it, so the induction is on the depth.
  induction depth : call.depth using Nat.strongRecOn generalizing call with
  | ind depth ih =>
    subst depth
    obtain ⟨calls, runs, descends, inside, behind⟩ := traces_body call fun callee below =>
      ih _ (depth_lt_of_below below) callee rfl
    refine ⟨calls, fun budget deep log => ?_, ?_, fun entry rest read => ?_⟩
    · cases budget with
      | zero => exact absurd (depth_pos call) (Nat.not_lt.mpr deep)
      | succ budget =>
        rw [run_within, runs budget deep, List.append_assoc]
        rfl
    · exact List.pairwise_cons.mpr ⟨fun inner among => (inside inner among).1, descends⟩
    · rw [List.forall_mem_cons]
      exact ⟨Production.rest_lt_of_read read, (behind entry rest read).2⟩

/-- Opening brackets need all of the budget: with less they are not read to their end. -/
theorem within_brackets (count budget : Nat) (short : budget < 3 * count + 3) (log : List Call) :
    ((within budget (.type, List.replicate count (.opening .round))).run log).1 = .error .exhausted := by
  induction count generalizing budget log with
  | zero =>
    match budget, short with
    | 0, _ | 1, _ | 2, _ => rfl
  | succ count ih =>
    match budget with
    | 0 | 1 | 2 => rfl
    | budget + 3 =>
      have noThunk (rest : List Token) : List.replicate count (.opening .round) ≠ .closing .round :: rest := by
        cases count <;> nofun
      have bracket (log : List Call) :
          ((atomBody (within budget) (.opening .round :: List.replicate count (.opening .round))).run log).1 =
            .error .exhausted := by
        rw [atomBody]
        · exact run_bind_of_error (ih budget (by omega) log)
        · exact noThunk
      rw [List.replicate_succ]
      -- The calls of a type, an application and an atom at the first bracket take three of the budget.
      rw [run_within]
      refine run_bind_of_error ?_
      rw [run_within]
      refine run_bind_of_error ?_
      rw [run_within]
      exact bracket _

/-- Reading one of the productions ends, from any position of any tokens. It makes finitely many calls, and always the
same ones: with a budget of three nested calls for each token that is left and three more, and with any larger one, it
gives what the reader without a budget gives, a tree or an error. Between a call and a later one of the same production,
inside of it or after it, at least one token is taken. All calls together are no more than that budget. -/
theorem reading_terminates (session : Session) (production : Production) :
    ∃ calls : List Call,
      (∀ budget, 3 * session.rest.length + 3 ≤ budget →
        (within budget (production, session.rest)).run [] = (unlimited (production.read session.rest), calls)) ∧
      calls.Pairwise (fun earlier later => later.2 <:+ earlier.2 ∧
        (later.1 = earlier.1 → later.2.length + 1 ≤ earlier.2.length)) ∧
      calls.length ≤ 3 * session.rest.length + 3 := by
  obtain ⟨calls, runs, descends, -⟩ := called (production, session.rest)
  have depth : Call.depth (production, session.rest) ≤ 3 * session.rest.length + 3 :=
    Nat.add_le_add_left production.rank_le _
  refine ⟨_, fun budget deep => runs budget (Nat.le_trans depth deep) [], ?_, ?_⟩
  · exact descends.imp fun below => ⟨below.1, fun same => below.2.resolve_right (by simp [same])⟩
  · exact Nat.le_trans (length_lt_depth descends) depth

/-- A type in square brackets, behind the name and the two colons: twelve nested calls are enough. -/
theorem reading_terminates_list :
    unlimited (Production.type.read [.opening .square, .name "a", .closing .square]) = .ok (.list (.var "a"), []) := by
  obtain ⟨calls, runs, -⟩ := reading_terminates
    ⟨[.name "f", .typed, .opening .square, .name "a", .closing .square], 2⟩ .type
  exact (congrArg Prod.fst (runs 12 (by decide))).symm.trans rfl

end HMSignature.Grammar.Read
