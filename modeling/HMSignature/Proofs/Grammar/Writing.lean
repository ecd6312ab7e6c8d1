import HMSignature.Proofs.Grammar.Shape
import Mathlib.Data.List.Forall2
/-!
# Phrases in writing

How a text has to be written to be read in one way only. A name or a symbol ends where the class of the characters
changes, so it must not be followed by a character of its own class; brackets, commas and blanks may stand anywhere.

Results:
1. `tokenize_of_spells`: a text that is put together like this has the tokens that it is put together from;
2. `Reads.bracketed` and the lemmas after it: longer texts from shorter ones;
3. `parse_of_reads`: a name, two colons and the text of a type are a signature.
-/

namespace HMSignature.Grammar

/-! ## Runs -/

/-- No character of the class comes first. -/
def StartsOutside (kind : CharClass) (chars : List Char) : Prop :=
  ∀ c rest, chars = c :: rest → CharClass.ofChar c ≠ kind

theorem runs_head {chars : List Char} {kind : CharClass} {run : List Char} {groups : List (CharClass × List Char)}
    (h : runs chars = (kind, run) :: groups) : ∃ c rest, chars = c :: rest ∧ CharClass.ofChar c = kind := by
  cases chars with
  | nil => cases h
  | cons c rest =>
    refine ⟨c, rest, rfl, ?_⟩
    rw [runs] at h
    unfold joinRun at h
    split at h
    · cases h
      rfl
    · split at h
      · rename_i same
        cases h
        exact same
      · cases h
        rfl

/-- Characters of one class, before a character of another, are a run. -/
theorem runs_append {kind : CharClass} {run rest : List Char} (nonempty : run ≠ [])
    (uniform : ∀ c ∈ run, CharClass.ofChar c = kind) (outside : StartsOutside kind rest) :
    runs (run ++ rest) = (kind, run) :: runs rest := by
  induction run with
  | nil => exact absurd rfl nonempty
  | cons c others ih =>
    rw [List.forall_mem_cons] at uniform
    obtain ⟨first, uniform⟩ := uniform
    rw [List.cons_append, runs]
    cases others with
    | nil =>
      rw [List.nil_append]
      cases hruns : runs rest with
      | nil => rw [joinRun, first]
      | cons group groups =>
        obtain ⟨kind', run'⟩ := group
        obtain ⟨c', rest', hrest, same⟩ := runs_head hruns
        -- The next run is of the class of the character that follows, so this one is not joined to it.
        have differ : CharClass.ofChar c ≠ kind' := by
          rw [first, ← same]
          exact (outside c' rest' hrest).symm
        rw [joinRun, if_neg differ, first]
    | cons c' others => rw [ih (List.cons_ne_nil _ _) uniform, joinRun, if_pos first]

theorem tokensOfRuns_cons (group : CharClass × List Char) (groups : List (CharClass × List Char)) :
    tokensOfRuns (group :: groups) = (do
      let first ← tokensOfRun group
      let others ← tokensOfRuns groups
      .ok (first ++ others)) :=
  rfl

theorem tokensOfRuns_blank {c : Char} (blank : CharClass.ofChar c = .blank) (groups : List (CharClass × List Char)) :
    tokensOfRuns (joinRun c groups) = tokensOfRuns groups := by
  have alone : tokensOfRuns ((.blank, [c]) :: groups) = tokensOfRuns groups := by
    rw [tokensOfRuns_cons, tokensOfRun, ok_bind]
    cases tokensOfRuns groups <;> rfl
  cases groups with
  | nil => rw [joinRun, blank, alone]
  | cons group groups =>
    obtain ⟨kind, run⟩ := group
    rw [joinRun]
    split
    · rename_i same
      rw [← same, blank, tokensOfRuns_cons, tokensOfRuns_cons, tokensOfRun, tokensOfRun]
    · rw [blank, alone]

theorem tokensOfRuns_special {c : Char} {token : Token} (special : CharClass.ofChar c = .special)
    (single : Token.ofSpecial? c = some token) (groups : List (CharClass × List Char)) :
    tokensOfRuns (joinRun c groups) = (token :: ·) <$> tokensOfRuns groups := by
  have alone : tokensOfRuns ((.special, [c]) :: groups) = (token :: ·) <$> tokensOfRuns groups := by
    rw [tokensOfRuns_cons, tokensOfRun, List.filterMap_cons_some single, ok_bind]
    rfl
  cases groups with
  | nil => rw [joinRun, special, alone]
  | cons group groups =>
    obtain ⟨kind, run⟩ := group
    rw [joinRun]
    split
    · rename_i same
      -- Special characters in a row are one run, and each is a token of its own.
      rw [← same, special, tokensOfRuns_cons, tokensOfRuns_cons, tokensOfRun, tokensOfRun,
        List.filterMap_cons_some single, ok_bind, ok_bind]
      cases tokensOfRuns groups <;> rfl
    · rw [special, alone]

/-! ## Spelled texts -/

/-- The characters are put together from tokens, with blanks in between where two of them would become one. -/
inductive Spells : List Char → List Token → Prop
  | nil : Spells [] []
  | blank {c : Char} {chars : List Char} {tokens : List Token} :
      CharClass.ofChar c = .blank → Spells chars tokens → Spells (c :: chars) tokens
  | name {text : String} {chars : List Char} {tokens : List Token} :
      IsName text → StartsOutside .name chars → Spells chars tokens →
      Spells (text.toList ++ chars) (.name text :: tokens)
  | symbol {text : String} {chars : List Char} {tokens : List Token} :
      IsRun .symbol text → StartsOutside .symbol chars → Spells chars tokens →
      Spells (text.toList ++ chars) (.symbol text :: tokens)
  | special {c : Char} {token : Token} {chars : List Char} {tokens : List Token} :
      CharClass.ofChar c = .special → Token.ofSpecial? c = some token → Spells chars tokens →
      Spells (c :: chars) (token :: tokens)

theorem toList_ne_nil {kind : CharClass} {text : String} (h : IsRun kind text) : text.toList ≠ [] :=
  fun empty => h.1 (String.toList_eq_nil_iff.mp empty)

theorem tokensOfRuns_of_spells {chars : List Char} {tokens : List Token} (h : Spells chars tokens) :
    tokensOfRuns (runs chars) = .ok tokens := by
  induction h with
  | nil => rfl
  | blank blank _ ih => rw [runs, tokensOfRuns_blank blank, ih]
  | name isName outside _ ih =>
    rw [runs_append (toList_ne_nil isName) isName.2 outside, tokensOfRuns_cons, tokensOfRun, ok_bind, ih,
      String.ofList_toList]
    rfl
  | symbol isSymbol outside _ ih =>
    rw [runs_append (toList_ne_nil isSymbol) isSymbol.2 outside, tokensOfRuns_cons, tokensOfRun, ok_bind, ih,
      String.ofList_toList]
    rfl
  | special special single _ ih =>
    rw [runs, tokensOfRuns_special special single, ih]
    rfl

/-- A text has the tokens that it is put together from. -/
theorem tokenize_of_spells {text : String} {tokens : List Token} (h : Spells text.toList tokens) :
    tokenize text = .ok tokens :=
  tokensOfRuns_of_spells h

/-! ## Texts that may stand before others -/

/-- The text puts its tokens in front of those of what follows, if no name character follows. -/
def Writes (text : String) (tokens : List Token) : Prop :=
  ∀ (rest : List Char) (more : List Token), StartsOutside .name rest → Spells rest more →
    Spells (text.toList ++ rest) (tokens ++ more)

theorem startsOutside_nil (kind : CharClass) : StartsOutside kind [] :=
  nofun

theorem startsOutside_cons {kind : CharClass} {c : Char} (h : CharClass.ofChar c ≠ kind) (rest : List Char) :
    StartsOutside kind (c :: rest) := by
  intro c' rest' same
  cases same
  exact h

theorem spells_space {chars : List Char} {tokens : List Token} (h : Spells chars tokens) :
    Spells (' ' :: chars) tokens :=
  .blank (by decide) h

theorem startsOutside_space (rest : List Char) : StartsOutside .name (' ' :: rest) :=
  startsOutside_cons (by decide) rest

namespace Writes

theorem spells {text : String} {tokens : List Token} (h : Writes text tokens) : Spells text.toList tokens := by
  have whole := h [] [] (startsOutside_nil _) .nil
  rwa [List.append_nil, List.append_nil] at whole

theorem name {text : String} (h : IsName text) : Writes text [.name text] :=
  fun _ _ outside spells => .name h outside spells

theorem opening (bracket : Bracket) {text : String} {tokens : List Token} (h : Writes text tokens) :
    Writes (String.singleton bracket.opening ++ text) (.opening bracket :: tokens) := by
  intro rest more outside spells
  rw [String.toList_append, String.toList_singleton, List.append_assoc, List.singleton_append]
  refine .special ?_ ?_ (h rest more outside spells)
  · cases bracket <;> decide
  · cases bracket <;> rfl

theorem closing (bracket : Bracket) {text : String} {tokens : List Token} (h : Writes text tokens) :
    Writes (text ++ String.singleton bracket.closing) (tokens ++ [.closing bracket]) := by
  intro rest more _ spells
  rw [String.toList_append, String.toList_singleton, List.append_assoc, List.append_assoc, List.singleton_append,
    List.singleton_append]
  refine h _ _ (startsOutside_cons ?_ rest) (.special ?_ ?_ spells)
  · cases bracket <;> decide
  · cases bracket <;> decide
  · cases bracket <;> rfl

/-- Blanks inside brackets. -/
theorem padded {text : String} {tokens : List Token} (h : Writes text tokens) : Writes (" " ++ text ++ " ") tokens := by
  intro rest more _ spells
  rw [String.toList_append, String.toList_append, List.append_assoc, List.append_assoc]
  exact spells_space (h _ _ (startsOutside_space rest) (spells_space spells))

theorem spaced {text text' : String} {tokens tokens' : List Token} (h : Writes text tokens)
    (h' : Writes text' tokens') : Writes (text ++ " " ++ text') (tokens ++ tokens') := by
  intro rest more outside spells
  rw [String.toList_append, String.toList_append, List.append_assoc, List.append_assoc, List.append_assoc]
  exact h _ _ (startsOutside_space _) (spells_space (h' rest more outside spells))

/-- A symbol between blanks. -/
theorem separated {text text' separator : String} {tokens tokens' : List Token} (h : Writes text tokens)
    (symbol : String) (isSymbol : IsRun .symbol symbol)
    (spaces : separator.toList = ' ' :: (symbol.toList ++ [' '])) (h' : Writes text' tokens') :
    Writes (text ++ separator ++ text') (tokens ++ .symbol symbol :: tokens') := by
  intro rest more outside spells
  rw [String.toList_append, String.toList_append, spaces, List.append_assoc, List.append_assoc, List.append_assoc,
    List.cons_append, List.append_assoc]
  refine h _ _ (startsOutside_space _) (spells_space (.symbol isSymbol (startsOutside_cons (by decide) _) ?_))
  exact spells_space (h' rest more outside spells)

theorem comma {text text' : String} {tokens tokens' : List Token} (h : Writes text tokens)
    (h' : Writes text' tokens') : Writes (text ++ ", " ++ text') (tokens ++ .comma :: tokens') := by
  intro rest more outside spells
  rw [String.toList_append, String.toList_append, List.append_assoc, List.append_assoc, List.append_assoc]
  refine h _ _ (startsOutside_cons (by decide) _) (.special (by decide) rfl ?_)
  exact spells_space (h' rest more outside spells)

end Writes

/-! ## Texts of phrases -/

/-- The text is that of a phrase, whatever follows it. -/
def Reads {α : Type} (At : List Token → α → List Token → Prop) (text : String) (value : α) : Prop :=
  ∃ tokens, Writes text tokens ∧ ∀ rest, At (tokens ++ rest) value rest

/-- The segments of a function, or one application that stands for itself. -/
def AllSegmentsAt (tokens : List Token) (entries : List Entry) (rest : List Token) : Prop :=
  ∃ first others middle, entries = first :: others ∧ ApplicationAt tokens first middle ∧
    SegmentsAt middle others rest

/-- The fields of a record that has some. -/
def AllFieldsAt (tokens : List Token) (entries : List Entry) (rest : List Token) : Prop :=
  ∃ first others middle, entries = first :: others ∧ FieldAt tokens first middle ∧ FieldsAt middle others rest

namespace Reads

theorem upper {name : String} (h : IsTypeName name) : Reads AtomAt name (.constructor name []) :=
  ⟨_, .name h.1, fun _ => .upper h.2⟩

theorem lower {name : String} (h : IsVarName name) : Reads AtomAt name (.var name) :=
  ⟨_, .name h.1, fun _ => .lower h.2⟩

theorem bracketed {text : String} {entry : Entry} (h : Reads TypeAt text entry) :
    Reads AtomAt ("(" ++ text ++ ")") entry := by
  obtain ⟨tokens, written, derives⟩ := h
  refine ⟨_, (written.opening .round).closing .round, fun rest => ?_⟩
  rw [List.append_assoc]
  exact .bracketed (derives _)

theorem list {text : String} {entry : Entry} (h : Reads TypeAt text entry) :
    Reads AtomAt ("[" ++ text ++ "]") (.list entry) := by
  obtain ⟨tokens, written, derives⟩ := h
  refine ⟨_, (written.opening .square).closing .square, fun rest => ?_⟩
  rw [List.append_assoc]
  exact .list (derives _)

theorem thunk : Reads AtomAt "()" .thunk := by
  refine ⟨[.opening .round, .closing .round], ?_, fun rest => .thunk⟩
  intro rest more _ spells
  exact .special (by decide) rfl (.special (by decide) rfl spells)

theorem emptyRecord : Reads AtomAt "\x7b\x7d" (.record []) := by
  refine ⟨[.opening .curly, .closing .curly], ?_, fun rest => .emptyRecord⟩
  intro rest more _ spells
  exact .special (by decide) rfl (.special (by decide) rfl spells)

theorem record {text : String} {entries : List Entry} (h : Reads AllFieldsAt text entries) :
    Reads AtomAt ("\x7b " ++ text ++ " \x7d") (.record entries) := by
  obtain ⟨tokens, written, derives⟩ := h
  have spaces : "\x7b " ++ text ++ " \x7d" =
      String.singleton Bracket.curly.opening ++ (" " ++ text ++ " ") ++ String.singleton Bracket.curly.closing := by
    rw [← String.toList_inj]
    simp [Bracket.opening, Bracket.closing]
  rw [spaces]
  refine ⟨_, (written.padded.opening .curly).closing .curly, fun rest => ?_⟩
  rw [List.append_assoc]
  obtain ⟨first, others, middle, rfl, fieldAt, fieldsAt⟩ := derives ([.closing .curly] ++ rest)
  exact .record fieldAt fieldsAt

theorem field {name text : String} {entry : Entry} (isName : IsName name) (h : Reads TypeAt text entry) :
    Reads FieldAt (name ++ " :: " ++ text) (.field name entry) := by
  obtain ⟨tokens, written, derives⟩ := h
  exact ⟨_, (Writes.name isName).separated "::" Read.typed_spelled rfl written, fun rest => .mk (derives rest)⟩

theorem lastField {text : String} {entry : Entry} (h : Reads FieldAt text entry) : Reads AllFieldsAt text [entry] := by
  obtain ⟨tokens, written, derives⟩ := h
  exact ⟨tokens, written, fun rest => ⟨entry, [], rest, rfl, derives rest, .none⟩⟩

theorem moreFields {text text' : String} {entry : Entry} {entries : List Entry} (h : Reads FieldAt text entry)
    (h' : Reads AllFieldsAt text' entries) : Reads AllFieldsAt (text ++ ", " ++ text') (entry :: entries) := by
  obtain ⟨tokens, written, derives⟩ := h
  obtain ⟨tokens', written', derives'⟩ := h'
  refine ⟨_, written.comma written', fun rest => ?_⟩
  rw [List.append_assoc, List.cons_append]
  obtain ⟨first, others, middle, rfl, fieldAt, fieldsAt⟩ := derives' rest
  exact ⟨entry, first :: others, _, rfl, derives _, .more fieldAt fieldsAt⟩

theorem param {text : String} {entry : Entry} (h : Reads AtomAt text entry) : Reads AtomsAt text [entry] := by
  obtain ⟨tokens, written, derives⟩ := h
  exact ⟨tokens, written, fun rest => .more (derives rest) .none⟩

theorem params {text text' : String} {entry : Entry} {entries : List Entry} (h : Reads AtomAt text entry)
    (h' : Reads AtomsAt text' entries) : Reads AtomsAt (text ++ " " ++ text') (entry :: entries) := by
  obtain ⟨tokens, written, derives⟩ := h
  obtain ⟨tokens', written', derives'⟩ := h'
  refine ⟨_, written.spaced written', fun rest => ?_⟩
  rw [List.append_assoc]
  exact .more (derives _) (derives' rest)

theorem bare {text : String} {entry : Entry} (h : Reads AtomAt text entry) : Reads ApplicationAt text entry := by
  obtain ⟨tokens, written, derives⟩ := h
  exact ⟨tokens, written, fun rest => .bare (derives rest)⟩

theorem constructor {name text : String} {first : Entry} {others : List Entry} (isName : IsTypeName name)
    (h : Reads AtomsAt text (first :: others)) :
    Reads ApplicationAt (name ++ " " ++ text) (.constructor name (first :: others)) := by
  obtain ⟨tokens, written, derives⟩ := h
  exact ⟨_, (Writes.name isName.1).spaced written, fun rest => .upper (.upper isName.2) (derives rest)⟩

theorem constrained {name text : String} {first : Entry} {others : List Entry} (isName : IsVarName name)
    (h : Reads AtomsAt text (first :: others)) :
    Reads ApplicationAt (name ++ " " ++ text) (.constrained name (first :: others)) := by
  obtain ⟨tokens, written, derives⟩ := h
  exact ⟨_, (Writes.name isName.1).spaced written, fun rest => .lower (.lower isName.2) (derives rest)⟩

theorem lastSegment {text : String} {entry : Entry} (h : Reads ApplicationAt text entry) :
    Reads AllSegmentsAt text [entry] := by
  obtain ⟨tokens, written, derives⟩ := h
  exact ⟨tokens, written, fun rest => ⟨entry, [], rest, rfl, derives rest, .none⟩⟩

theorem moreSegments {text text' : String} {entry : Entry} {entries : List Entry} (h : Reads ApplicationAt text entry)
    (h' : Reads AllSegmentsAt text' entries) : Reads AllSegmentsAt (text ++ " -> " ++ text') (entry :: entries) := by
  obtain ⟨tokens, written, derives⟩ := h
  obtain ⟨tokens', written', derives'⟩ := h'
  refine ⟨_, written.separated "->" (by decide) rfl written', fun rest => ?_⟩
  rw [List.append_assoc, List.cons_append]
  obtain ⟨first, others, middle, rfl, applicationAt, segmentsAt⟩ := derives' rest
  exact ⟨entry, first :: others, _, rfl, derives _, .more applicationAt segmentsAt⟩

/-- Segments with arrows in between. -/
theorem allSegments {text : String} {texts : List String} {entry : Entry} {entries : List Entry}
    (h : Reads ApplicationAt text entry) (hs : List.Forall₂ (Reads ApplicationAt) texts entries) :
    Reads AllSegmentsAt (" -> ".intercalate (text :: texts)) (entry :: entries) := by
  induction hs generalizing text entry with
  | nil => exact h.lastSegment
  | cons next _ ih =>
    rw [String.intercalate_cons_cons]
    exact h.moreSegments (ih next)

theorem type {text : String} {entries : List Entry} (h : Reads AllSegmentsAt text entries) :
    Reads TypeAt text (.joined entries) := by
  obtain ⟨tokens, written, derives⟩ := h
  refine ⟨tokens, written, fun rest => ?_⟩
  obtain ⟨first, others, middle, rfl, applicationAt, segmentsAt⟩ := derives rest
  cases others with
  | nil =>
    cases segmentsAt
    exact .single applicationAt
  | cons second others => exact .function applicationAt segmentsAt

theorem joined {texts : List String} {entries : List Entry} (h : List.Forall₂ (Reads ApplicationAt) texts entries)
    (nonempty : entries ≠ []) : Reads TypeAt (" -> ".intercalate texts) (.joined entries) := by
  cases h with
  | nil => exact absurd rfl nonempty
  | cons first others => exact (first.allSegments others).type

end Reads

/-- A name, two colons and the text of a type are a signature without constraints. -/
theorem parse_of_reads {name text : String} {entry : Entry} (isName : IsName name) (h : Reads TypeAt text entry) :
    parse (name ++ " :: " ++ text) = .ok ⟨name, [], entry⟩ := by
  obtain ⟨tokens, written, derives⟩ := h
  have whole : Writes (name ++ " :: " ++ text) _ :=
    (Writes.name isName).separated "::" Read.typed_spelled rfl written
  refine parse_eq_ok_iff.mpr ⟨_, tokenize_of_spells whole.spells, .free ?_⟩
  have typeAt := derives []
  rwa [List.append_nil] at typeAt

end HMSignature.Grammar
