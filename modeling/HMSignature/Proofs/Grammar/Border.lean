import HMSignature.Proofs.Grammar.Writing
/-!
# Texts in parts

Characters are cut into tokens run by run. Two neighbouring tokens can only run together when both are names or both
are symbols; wherever that cannot happen a text may be parted, and has the tokens of its parts.

Results:
1. `inductionOnRuns`: induction along the tokens of characters;
2. `tokensOf_append`: a text that is parted at a border has the tokens of its parts;
3. `tokensOf_eq_error_iff`: a text has no tokens exactly if some character has no class, and the first run of such
   characters is the error.
-/

namespace HMSignature.Grammar

/-- The tokens of characters. -/
def tokensOf (chars : List Char) : Except ParseError (List Token) :=
  tokensOfRuns (runs chars)

/-- Characters that only separate. -/
def AllBlank (chars : List Char) : Prop := ∀ c ∈ chars, CharClass.ofChar c = .blank

/-- The tokens of one part and then those of another, if both have some. -/
def inTurn (first others : Except ParseError (List Token)) : Except ParseError (List Token) := do
  let tokens ← first
  let more ← others
  .ok (tokens ++ more)

theorem nil_inTurn (others : Except ParseError (List Token)) : inTurn (.ok []) others = others := by
  cases others <;> rfl

theorem inTurn_nil (first : Except ParseError (List Token)) : inTurn first (.ok []) = first := by
  cases first with
  | error e => rfl
  | ok tokens => exact congrArg Except.ok (List.append_nil tokens)

theorem inTurn_assoc (a b c : Except ParseError (List Token)) : inTurn (inTurn a b) c = inTurn a (inTurn b c) := by
  cases a with
  | error e => rfl
  | ok as =>
    cases b with
    | error e => rfl
    | ok bs =>
      cases c with
      | error e => rfl
      | ok cs => exact congrArg Except.ok (List.append_assoc as bs cs)

theorem inTurn_eq_ok_iff {first others : Except ParseError (List Token)} {tokens : List Token} :
    inTurn first others = .ok tokens ↔ ∃ as bs, first = .ok as ∧ others = .ok bs ∧ tokens = as ++ bs :=
  bind_bind_eq_ok_iff

/-! ## Run by run -/

theorem exists_ofSpecial? {c : Char} (special : CharClass.ofChar c = .special) :
    ∃ token, Token.ofSpecial? c = some token := by
  rw [← Option.isSome_iff_exists]
  by_contra none
  unfold CharClass.ofChar at special
  repeat' split at special
  all_goals contradiction

theorem text_of_ofSpecial? {c : Char} {token : Token} (single : Token.ofSpecial? c = some token) :
    token.text = String.singleton c := by
  unfold Token.ofSpecial? at single
  split at single <;> cases single <;> rfl

/-- The first run of some characters. -/
theorem exists_run (c : Char) (rest : List Char) :
    ∃ run after, c :: rest = run ++ after ∧ run ≠ [] ∧ (∀ d ∈ run, CharClass.ofChar d = CharClass.ofChar c) ∧
      StartsOutside (CharClass.ofChar c) after := by
  induction rest generalizing c with
  | nil => exact ⟨[c], [], rfl, List.cons_ne_nil _ _, by simp, startsOutside_nil _⟩
  | cons d rest ih =>
    by_cases same : CharClass.ofChar d = CharClass.ofChar c
    · obtain ⟨run, after, split, -, uniform, outside⟩ := ih d
      rw [same] at uniform outside
      exact ⟨c :: run, after, by rw [split, List.cons_append], List.cons_ne_nil _ _,
        List.forall_mem_cons.mpr ⟨rfl, uniform⟩, outside⟩
    · exact ⟨[c], d :: rest, rfl, List.cons_ne_nil _ _, by simp, startsOutside_cons same rest⟩

theorem tokensOf_blank {c : Char} (blank : CharClass.ofChar c = .blank) (rest : List Char) :
    tokensOf (c :: rest) = tokensOf rest :=
  tokensOfRuns_blank blank (runs rest)

theorem tokensOf_special {c : Char} {token : Token} (special : CharClass.ofChar c = .special)
    (single : Token.ofSpecial? c = some token) (rest : List Char) :
    tokensOf (c :: rest) = inTurn (.ok [token]) (tokensOf rest) := by
  unfold tokensOf
  rw [runs, tokensOfRuns_special special single]
  cases tokensOfRuns (runs rest) <;> rfl

theorem tokensOf_run {kind : CharClass} {run rest : List Char} (nonempty : run ≠ [])
    (uniform : ∀ c ∈ run, CharClass.ofChar c = kind) (outside : StartsOutside kind rest) :
    tokensOf (run ++ rest) = inTurn (tokensOfRun (kind, run)) (tokensOf rest) := by
  unfold tokensOf
  rw [runs_append nonempty uniform outside]
  rfl

theorem tokensOf_single_run {kind : CharClass} {run : List Char} (nonempty : run ≠ [])
    (uniform : ∀ c ∈ run, CharClass.ofChar c = kind) : tokensOf run = tokensOfRun (kind, run) := by
  have whole := tokensOf_run nonempty uniform (startsOutside_nil kind)
  rw [List.append_nil] at whole
  exact whole.trans (inTurn_nil _)

/-- Blanks and special characters one by one, and everything else in runs: induction along the tokens of a text. -/
@[elab_as_elim]
theorem inductionOnRuns {motive : List Char → Prop} (nil : motive [])
    (blank : ∀ c rest, CharClass.ofChar c = .blank → motive rest → motive (c :: rest))
    (special : ∀ c rest token, CharClass.ofChar c = .special → Token.ofSpecial? c = some token → motive rest →
      motive (c :: rest))
    (run : ∀ kind run rest, kind ≠ .blank → kind ≠ .special → run ≠ [] → (∀ c ∈ run, CharClass.ofChar c = kind) →
      StartsOutside kind rest → motive rest → motive (run ++ rest))
    (chars : List Char) : motive chars := by
  match chars with
  | [] => exact nil
  | c :: rest =>
    by_cases isBlank : CharClass.ofChar c = .blank
    · exact blank c rest isBlank (inductionOnRuns nil blank special run rest)
    by_cases isSpecial : CharClass.ofChar c = .special
    · obtain ⟨token, single⟩ := exists_ofSpecial? isSpecial
      exact special c rest token isSpecial single (inductionOnRuns nil blank special run rest)
    obtain ⟨first, after, split, nonempty, uniform, outside⟩ := exists_run c rest
    have shorter : after.length < (c :: rest).length := by
      rw [split, List.length_append]
      exact Nat.lt_add_of_pos_left (List.length_pos_iff.mpr nonempty)
    rw [split]
    exact run _ first after isBlank isSpecial nonempty uniform outside
      (inductionOnRuns nil blank special run after)
termination_by chars.length
decreasing_by
  all_goals first | exact shorter | exact Nat.lt_succ_self _

/-! ## Texts in two parts -/

/-- No name, no symbol and no run of unknown characters goes on from the first part to the second. -/
def Border (before after : List Char) : Prop :=
  ∀ c d, before.getLast? = some c → after.head? = some d → CharClass.ofChar c = CharClass.ofChar d →
    CharClass.ofChar c = .blank ∨ CharClass.ofChar c = .special

theorem border_of_blank {before after : List Char} (blank : AllBlank before) : Border before after := by
  intro c d last _ _
  exact .inl (blank c (List.mem_of_getLast? last))

theorem border_of_startsOutside {kind : CharClass} {run after : List Char}
    (uniform : ∀ c ∈ run, CharClass.ofChar c = kind) (outside : StartsOutside kind after) : Border run after := by
  intro c d last first same
  obtain ⟨rest, rfl⟩ := List.head?_eq_some_iff.mp first
  exact absurd (same.symm.trans (uniform c (List.mem_of_getLast? last))) (outside d rest rfl)

/-- What follows a run at a border does not go on with it. -/
theorem Border.startsOutside {kind : CharClass} {run after : List Char} (border : Border run after)
    (solid : kind ≠ .blank ∧ kind ≠ .special) (nonempty : run ≠ [])
    (uniform : ∀ c ∈ run, CharClass.ofChar c = kind) : StartsOutside kind after := by
  intro d rest starts same
  obtain ⟨c, last⟩ := List.getLast?_isSome.mpr nonempty |> Option.isSome_iff_exists.mp
  have ofLast := uniform c (List.mem_of_getLast? last)
  rcases border c d last (starts ▸ rfl) (ofLast.trans same.symm) with blank | special
  · exact solid.1 (ofLast.symm.trans blank)
  · exact solid.2 (ofLast.symm.trans special)

theorem Border.of_append {chars before after : List Char} (border : Border (chars ++ before) after) :
    Border before after := by
  intro c d last first same
  have nonempty : before ≠ [] := by
    rintro rfl
    cases last
  exact border c d (by rw [List.getLast?_append_of_ne_nil _ nonempty, last]) first same

theorem Border.of_cons {c : Char} {before after : List Char} (border : Border (c :: before) after) :
    Border before after :=
  @Border.of_append [c] before after border

theorem Border.of_append_right {before after chars : List Char} (border : Border before (after ++ chars)) :
    Border before after := by
  intro c d last first
  refine border c d last ?_
  rw [List.head?_append, first, Option.some_or]

theorem Border.prepend {chars before after : List Char} (border : Border before after)
    (otherwise : before = [] → Border chars after) : Border (chars ++ before) after := by
  cases before with
  | nil =>
    rw [List.append_nil]
    exact otherwise rfl
  | cons c rest =>
    intro c' d last
    rw [List.getLast?_append_of_ne_nil _ (List.cons_ne_nil _ _)] at last
    exact border c' d last

/-- A text that is parted at a border has the tokens of its parts. -/
theorem tokensOf_append {before after : List Char} (border : Border before after) :
    tokensOf (before ++ after) = inTurn (tokensOf before) (tokensOf after) := by
  induction before using inductionOnRuns with
  | nil => exact (nil_inTurn _).symm
  | blank c rest isBlank ih =>
    rw [List.cons_append, tokensOf_blank isBlank, tokensOf_blank isBlank]
    exact ih border.of_cons
  | special c rest token isSpecial single ih =>
    rw [List.cons_append, tokensOf_special isSpecial single, tokensOf_special isSpecial single, inTurn_assoc]
    exact congrArg _ (ih border.of_cons)
  | run kind run rest notBlank notSpecial nonempty uniform outside ih =>
    -- The run is the first one of the whole text too: behind it comes the rest, or else the border.
    have further : StartsOutside kind (rest ++ after) := by
      cases rest with
      | nil =>
        rw [List.append_nil] at border
        exact border.startsOutside ⟨notBlank, notSpecial⟩ nonempty uniform
      | cons d rest =>
        intro c' rest' starts
        cases starts
        exact outside d rest rfl
    rw [List.append_assoc, tokensOf_run nonempty uniform further, tokensOf_run nonempty uniform outside, inTurn_assoc,
      ih border.of_append]

theorem tokensOf_allBlank {chars : List Char} (blank : AllBlank chars) : tokensOf chars = .ok [] := by
  induction chars with
  | nil => rfl
  | cons c rest ih =>
    obtain ⟨first, others⟩ := List.forall_mem_cons.mp blank
    rw [tokensOf_blank first, ih others]

/-- Blanks that part a text. -/
theorem tokensOf_parted {before gap after : List Char} (blank : AllBlank gap) (some : gap ≠ []) :
    tokensOf (before ++ gap ++ after) = inTurn (tokensOf before) (tokensOf after) := by
  rw [List.append_assoc, tokensOf_append, tokensOf_append (border_of_blank blank), tokensOf_allBlank blank, nil_inTurn]
  intro c d last first same
  rw [List.head?_append_of_ne_nil _ some] at first
  exact .inl (same.trans (blank d (List.mem_of_head? first)))

/-- Blanks at a border change nothing. -/
theorem tokensOf_spaced {before gap after : List Char} (blank : AllBlank gap) (border : Border before after) :
    tokensOf (before ++ gap ++ after) = inTurn (tokensOf before) (tokensOf after) := by
  cases gap with
  | nil => rw [List.append_nil, tokensOf_append border]
  | cons c rest => exact tokensOf_parted blank (List.cons_ne_nil _ _)

/-! ## Characters of no class -/

theorem exists_tokensOf {chars : List Char} (known : ∀ c ∈ chars, CharClass.ofChar c ≠ .unknown) :
    ∃ tokens, tokensOf chars = .ok tokens := by
  induction chars using inductionOnRuns with
  | nil => exact ⟨[], rfl⟩
  | blank c rest isBlank ih =>
    rw [tokensOf_blank isBlank]
    exact ih (List.forall_mem_cons.mp known).2
  | special c rest token isSpecial single ih =>
    obtain ⟨tokens, others⟩ := ih (List.forall_mem_cons.mp known).2
    rw [tokensOf_special isSpecial single, others]
    exact ⟨_, rfl⟩
  | run kind run rest notBlank notSpecial nonempty uniform outside ih =>
    rw [List.forall_mem_append] at known
    obtain ⟨tokens, others⟩ := ih known.2
    rw [tokensOf_run nonempty uniform outside, others]
    cases kind with
    | name => exact ⟨_, rfl⟩
    | symbol => exact ⟨_, rfl⟩
    | blank => exact absurd rfl notBlank
    | special => exact absurd rfl notSpecial
    | unknown =>
      obtain ⟨c, member⟩ := List.exists_mem_of_ne_nil run nonempty
      exact absurd (uniform c member) (known.1 c member)

/-- Behind known characters the first run of unknown ones is the error. -/
theorem tokensOf_of_unknown {before run after : List Char} (known : ∀ c ∈ before, CharClass.ofChar c ≠ .unknown)
    (nonempty : run ≠ []) (uniform : ∀ c ∈ run, CharClass.ofChar c = .unknown)
    (outside : StartsOutside .unknown after) :
    tokensOf (before ++ run ++ after) = .error (.unexpected (some (String.ofList run)) none) := by
  have border : Border before (run ++ after) := by
    intro c d last first same
    rw [List.head?_append_of_ne_nil _ nonempty] at first
    exact absurd (same.trans (uniform d (List.mem_of_head? first))) (known c (List.mem_of_getLast? last))
  obtain ⟨tokens, some⟩ := exists_tokensOf known
  rw [List.append_assoc, tokensOf_append border, some, tokensOf_run nonempty uniform outside]
  rfl

/-- The first run of unknown characters, if there are some. -/
theorem exists_unknown_run {chars : List Char} (unknown : ∃ c ∈ chars, CharClass.ofChar c = .unknown) :
    ∃ before run after, chars = before ++ run ++ after ∧ (∀ c ∈ before, CharClass.ofChar c ≠ .unknown) ∧
      run ≠ [] ∧ (∀ c ∈ run, CharClass.ofChar c = .unknown) ∧ StartsOutside .unknown after := by
  obtain ⟨c, member, isUnknown⟩ := unknown
  have some : (chars.find? fun c => CharClass.ofChar c = .unknown).isSome :=
    List.find?_isSome.mpr ⟨c, member, decide_eq_true isUnknown⟩
  obtain ⟨d, first⟩ := Option.isSome_iff_exists.mp some
  obtain ⟨isUnknown, before, rest, rfl, known⟩ := List.find?_eq_some_iff_append.mp first
  rw [decide_eq_true_eq] at isUnknown
  obtain ⟨run, after, split, nonempty, uniform, outside⟩ := exists_run d rest
  rw [isUnknown] at uniform outside
  refine ⟨before, run, after, ?_, ?_, nonempty, uniform, outside⟩
  · rw [split, List.append_assoc]
  · simpa using known

theorem exists_error_iff {chars : List Char} :
    (∃ e, tokensOf chars = .error e) ↔ ∃ c ∈ chars, CharClass.ofChar c = .unknown := by
  constructor
  · rintro ⟨e, failed⟩
    by_contra known
    obtain ⟨tokens, some⟩ := exists_tokensOf fun c member isUnknown => known ⟨c, member, isUnknown⟩
    cases failed.symm.trans some
  · intro unknown
    obtain ⟨before, run, after, rfl, known, nonempty, uniform, outside⟩ := exists_unknown_run unknown
    exact ⟨_, tokensOf_of_unknown known nonempty uniform outside⟩

theorem tokensOf_eq_error_iff {chars : List Char} {e : ParseError} :
    tokensOf chars = .error e ↔ ∃ before run after, chars = before ++ run ++ after ∧
      (∀ c ∈ before, CharClass.ofChar c ≠ .unknown) ∧ run ≠ [] ∧ (∀ c ∈ run, CharClass.ofChar c = .unknown) ∧
      StartsOutside .unknown after ∧ e = .unexpected (some (String.ofList run)) none := by
  constructor
  · intro failed
    obtain ⟨before, run, after, rfl, known, nonempty, uniform, outside⟩ :=
      exists_unknown_run (exists_error_iff.mp ⟨e, failed⟩)
    have stops := tokensOf_of_unknown known nonempty uniform outside
    exact ⟨before, run, after, rfl, known, nonempty, uniform, outside, Except.error.inj (failed.symm.trans stops)⟩
  · rintro ⟨before, run, after, rfl, known, nonempty, uniform, outside, rfl⟩
    exact tokensOf_of_unknown known nonempty uniform outside

end HMSignature.Grammar
