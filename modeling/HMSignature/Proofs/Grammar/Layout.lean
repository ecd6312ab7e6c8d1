import HMSignature.Proofs.Grammar.Border
/-!
# Tokens and the blanks between them

A text is cut into tokens and loses nothing but its blanks. Blanks may stand at every border of a token, as many as
one likes, and where there are some there may be others.

Results:
1. `tokensOf_eq_ok_iff`: the tokens of a text are those that it is put together from;
2. `tokenize_layout`: what the tokens of a text are, where they stand in it, and which changes of its blanks they do
   not depend on.
-/

namespace HMSignature.Grammar

/-! ## Tokens in their places -/

theorem spells_of_tokensOf {chars : List Char} {tokens : List Token} (h : tokensOf chars = .ok tokens) :
    Spells chars tokens := by
  induction chars using inductionOnRuns generalizing tokens with
  | nil =>
    cases h
    exact .nil
  | blank c rest isBlank ih =>
    rw [tokensOf_blank isBlank] at h
    exact .blank isBlank (ih h)
  | special c rest token isSpecial single ih =>
    rw [tokensOf_special isSpecial single] at h
    obtain ⟨_, others, first, hothers, rfl⟩ := inTurn_eq_ok_iff.mp h
    cases first
    exact .special isSpecial single (ih hothers)
  | run kind run rest notBlank notSpecial nonempty uniform outside ih =>
    rw [tokensOf_run nonempty uniform outside] at h
    obtain ⟨_, others, first, hothers, rfl⟩ := inTurn_eq_ok_iff.mp h
    rw [← String.toList_ofList (l := run)]
    cases kind with
    | name =>
      cases first
      exact .name (isRun_ofList ⟨nonempty, uniform⟩) outside (ih hothers)
    | symbol =>
      cases first
      exact .symbol (isRun_ofList ⟨nonempty, uniform⟩) outside (ih hothers)
    | blank => exact absurd rfl notBlank
    | special => exact absurd rfl notSpecial
    | unknown => cases first

/-- The tokens of a text are those that it is put together from. -/
theorem tokensOf_eq_ok_iff {chars : List Char} {tokens : List Token} :
    tokensOf chars = .ok tokens ↔ Spells chars tokens :=
  ⟨spells_of_tokensOf, tokensOfRuns_of_spells⟩

/-- The tokens hold all characters that are not blank. -/
theorem Spells.joined {chars : List Char} {tokens : List Token} (h : Spells chars tokens) :
    tokens.flatMap (fun token => token.text.toList) = chars.filter (fun c => CharClass.ofChar c ≠ .blank) := by
  have solid {kind : CharClass} {text : String} (isRun : IsRun kind text) (notBlank : kind ≠ .blank) :
      text.toList.filter (fun c => CharClass.ofChar c ≠ .blank) = text.toList :=
    List.filter_eq_self.mpr fun c member => by simpa [isRun.2 c member] using notBlank
  induction h with
  | nil => rfl
  | blank isBlank _ ih => rw [List.filter_cons_of_neg (by simp [isBlank]), ih]
  | name isName _ _ ih => rw [List.flatMap_cons, ih, List.filter_append, solid isName nofun, Token.text]
  | symbol isSymbol _ _ ih => rw [List.flatMap_cons, ih, List.filter_append, solid isSymbol nofun, Token.text]
  | special isSpecial single _ ih =>
    rw [List.flatMap_cons, ih, List.filter_cons_of_pos (by simp [isSpecial]), text_of_ofSpecial? single,
      String.toList_singleton, List.singleton_append]

/-- Before the first token there are only blanks, and behind it a border. -/
theorem Spells.first {chars : List Char} {token : Token} {tokens : List Token} :
    Spells chars (token :: tokens) → ∃ gap after, chars = gap ++ token.text.toList ++ after ∧ AllBlank gap ∧
      Border token.text.toList after ∧ Spells after tokens
  | @Spells.blank c _ _ isBlank rest => by
    obtain ⟨gap, after, rfl, blank, border, others⟩ := rest.first
    exact ⟨c :: gap, after, rfl, List.forall_mem_cons.mpr ⟨isBlank, blank⟩, border, others⟩
  | .name isName outside rest => ⟨[], _, rfl, nofun, border_of_startsOutside isName.2 outside, rest⟩
  | .symbol isSymbol outside rest => ⟨[], _, rfl, nofun, border_of_startsOutside isSymbol.2 outside, rest⟩
  | @Spells.special c _ _ _ isSpecial single rest => by
    rw [text_of_ofSpecial? single, String.toList_singleton]
    refine ⟨[], _, rfl, nofun, ?_, rest⟩
    intro c' _ last _ _
    cases last
    exact .inr isSpecial

theorem tokensOf_text {token : Token} (spelled : token.Spelled) : tokensOf token.text.toList = .ok [token] := by
  cases token with
  | name text =>
    have isName : IsRun .name text := spelled
    refine (tokensOf_single_run (toList_ne_nil isName) isName.2).trans ?_
    exact congrArg (fun text => Except.ok [Token.name text]) String.ofList_toList
  | symbol text =>
    have isSymbol : IsRun .symbol text := spelled
    refine (tokensOf_single_run (toList_ne_nil isSymbol) isSymbol.2).trans ?_
    exact congrArg (fun text => Except.ok [Token.symbol text]) String.ofList_toList
  | opening bracket => cases bracket <;> rfl
  | closing bracket => cases bracket <;> rfl
  | comma => rfl

/-- Every token stands somewhere in the text, between the text of the tokens before it and that of the tokens behind
it, with a border on both sides. -/
theorem Spells.place {chars : List Char} {tokens others : List Token} {token : Token} (spelled : token.Spelled)
    (h : Spells chars (tokens ++ token :: others)) :
    ∃ before after, chars = before ++ token.text.toList ++ after ∧ tokensOf before = .ok tokens ∧
      tokensOf after = .ok others ∧ Border before (token.text.toList ++ after) ∧
      Border (before ++ token.text.toList) after := by
  have nonempty : token.text.toList ≠ [] := toList_ne_nil spelled
  induction tokens generalizing chars with
  | nil =>
    obtain ⟨gap, after, rfl, blank, border, rest⟩ := h.first
    exact ⟨gap, after, rfl, tokensOf_allBlank blank, tokensOf_eq_ok_iff.mpr rest, border_of_blank blank,
      border.prepend fun empty => absurd empty nonempty⟩
  | cons first tokens ih =>
    have firstSpelled : first.Spelled :=
      spelled_of_runs (runs_uniform chars) (tokensOfRuns_of_spells h) first List.mem_cons_self
    obtain ⟨gap, rest, rfl, blank, firstBorder, spells⟩ := h.first
    obtain ⟨before, after, rfl, hbefore, hafter, left, right⟩ := ih spells
    rw [List.append_assoc before] at firstBorder
    refine ⟨gap ++ first.text.toList ++ before, after, by simp, ?_, hafter, ?_, ?_⟩
    · rw [List.append_assoc, tokensOf_append (border_of_blank blank), tokensOf_append firstBorder.of_append_right,
        tokensOf_allBlank blank, nil_inTurn, tokensOf_text firstSpelled, hbefore]
      rfl
    · refine left.prepend fun empty => ?_
      rw [empty, List.nil_append] at firstBorder
      exact firstBorder.prepend fun empty => absurd empty (toList_ne_nil firstSpelled)
    · rw [List.append_assoc]
      exact right.prepend fun empty => absurd (List.append_eq_nil_iff.mp empty).2 nonempty

/-- Two names in a row, or two symbols, have blanks between them. -/
theorem Spells.apart {chars : List Char} {tokens others : List Token} {a b : Token}
    (h : Spells chars (tokens ++ a :: b :: others)) (same : a.kind = b.kind) (solid : a.kind ≠ .special) :
    ∃ before gap after, chars = before ++ a.text.toList ++ gap ++ b.text.toList ++ after ∧ gap ≠ [] ∧ AllBlank gap ∧
      tokensOf before = .ok tokens ∧ tokensOf after = .ok others := by
  have spelled := spelled_of_runs (runs_uniform chars) (tokensOfRuns_of_spells h)
  have spelledA : a.Spelled := spelled a (by simp)
  have spelledB : b.Spelled := spelled b (by simp)
  obtain ⟨before, rest, rfl, hbefore, hrest, -, border⟩ := h.place spelledA
  obtain ⟨gap, after, rfl, blank, -, spells⟩ := (tokensOf_eq_ok_iff.mp hrest).first
  refine ⟨before, gap, after, by simp, ?_, blank, hbefore, tokensOf_eq_ok_iff.mpr spells⟩
  rintro rfl
  -- Without blanks the second token would go on with the run of the first.
  have notBlank : a.kind ≠ .blank := by cases a <;> nofun
  have outside := (border.of_append).startsOutside ⟨notBlank, solid⟩ (toList_ne_nil spelledA) spelledA.2
  obtain ⟨c, others, starts⟩ := List.exists_cons_of_ne_nil (toList_ne_nil spelledB)
  refine outside c (others ++ after) (by rw [starts]; rfl) ?_
  rw [same]
  exact spelledB.2 c (starts ▸ List.mem_cons_self)

/-- Tokens with the same blanks between all of them are the tokens of the text that this makes. -/
theorem tokenize_joined {separator : String} (blank : IsRun .blank separator) {tokens : List Token}
    (spelled : AllSpelled tokens) : tokenize (separator.intercalate (tokens.map Token.text)) = .ok tokens := by
  induction tokens with
  | nil => rfl
  | cons token tokens ih =>
    have first := tokensOf_text (spelled token List.mem_cons_self)
    cases tokens with
    | nil =>
      rw [List.map_cons, List.map_nil, String.intercalate_singleton]
      exact first
    | cons next tokens =>
      have others := ih spelled.tail
      rw [List.map_cons, List.map_cons, String.intercalate_cons_cons]
      show tokensOf (token.text ++ separator ++ _).toList = _
      rw [String.toList_append, String.toList_append, tokensOf_parted blank.2 (toList_ne_nil blank), first]
      exact inTurn_eq_ok_iff.mpr ⟨_, _, rfl, others, rfl⟩

/-! ## Changes of blanks -/

/-- A text with other blanks in the place of some, or with more blanks at a border. -/
inductive Respaced : String → String → Prop
  | replaced {before gap gap' after : String} : IsRun .blank gap → IsRun .blank gap' →
      Respaced (before ++ gap ++ after) (before ++ gap' ++ after)
  | added {before gap after : String} : IsRun .blank gap → Border before.toList after.toList →
      Respaced (before ++ after) (before ++ gap ++ after)

theorem tokenize_ofList (chars : List Char) : tokenize (String.ofList chars) = tokensOf chars := by
  unfold tokenize tokensOf
  rw [String.toList_ofList]

theorem tokenize_parted {before gap after : String} (blank : IsRun .blank gap) :
    tokenize (before ++ gap ++ after) = inTurn (tokenize before) (tokenize after) := by
  show tokensOf (before ++ gap ++ after).toList = _
  rw [String.toList_append, String.toList_append, tokensOf_parted blank.2 (toList_ne_nil blank)]
  rfl

theorem Respaced.tokenize_eq {text text' : String} (h : Respaced text text') : tokenize text' = tokenize text := by
  cases h with
  | replaced blank blank' => rw [tokenize_parted blank, tokenize_parted blank']
  | @added before gap after blank border =>
    rw [tokenize_parted blank]
    show _ = tokensOf (before ++ after).toList
    rw [String.toList_append, tokensOf_append border]
    rfl

theorem parse_congr {text text' : String} (h : tokenize text' = tokenize text) : parse text' = parse text := by
  unfold parse
  rw [h]

/-! ## The layout of a text -/

/-- How tokens stand in a text. -/
structure Layout (text : String) (tokens : List Token) : Prop where
  /-- Together they are the text without its blanks. -/
  joined : String.join (tokens.map Token.text) =
    String.ofList (text.toList.filter fun c => CharClass.ofChar c ≠ .blank)
  /-- Each is a name, a symbol or a single special character. -/
  spelled : ∀ token ∈ tokens, IsRun .name token.text ∨ IsRun .symbol token.text ∨
    ∃ c, token.text = String.singleton c ∧ CharClass.ofChar c = .special
  /-- Each has its place, and blanks around it make no difference to what the text is read as. -/
  placed : ∀ before token after, tokens = before ++ token :: after →
    ∃ left right, text = left ++ token.text ++ right ∧ tokenize left = .ok before ∧ tokenize right = .ok after ∧
      ∀ gap gap' : String, AllBlank gap.toList → AllBlank gap'.toList →
        parse (left ++ gap ++ token.text ++ gap' ++ right) = parse text
  /-- Two names in a row, or two symbols, have blanks between them. -/
  apart : ∀ before a b after, tokens = before ++ a :: b :: after → a.kind = b.kind → a.kind ≠ .special →
    ∃ left gap right, text = left ++ a.text ++ gap ++ b.text ++ right ∧ IsRun .blank gap ∧
      tokenize left = .ok before ∧ tokenize right = .ok after
  /-- With any blanks in between they are the tokens of the text that they make. -/
  stable : ∀ separator, IsRun .blank separator → tokenize (separator.intercalate (tokens.map Token.text)) = .ok tokens

theorem Token.Spelled.cases {token : Token} (h : token.Spelled) : IsRun .name token.text ∨ IsRun .symbol token.text ∨
    ∃ c, token.text = String.singleton c ∧ CharClass.ofChar c = .special := by
  cases token with
  | name text => exact .inl h
  | symbol text => exact .inr (.inl h)
  | opening bracket => exact .inr (.inr ⟨bracket.opening, rfl, by cases bracket <;> decide⟩)
  | closing bracket => exact .inr (.inr ⟨bracket.closing, rfl, by cases bracket <;> decide⟩)
  | comma => exact .inr (.inr ⟨',', rfl, by decide⟩)

theorem toList_join (texts : List String) : (String.join texts).toList = texts.flatMap String.toList := by
  induction texts with
  | nil => rfl
  | cons text rest ih => rw [String.join_cons, String.toList_append, ih, List.flatMap_cons]

theorem isRun_blank_ofList {chars : List Char} (blank : AllBlank chars) (nonempty : chars ≠ []) :
    IsRun .blank (String.ofList chars) :=
  isRun_ofList ⟨nonempty, blank⟩

theorem layout_of_tokenize {text : String} {tokens : List Token} (h : tokenize text = .ok tokens) :
    Layout text tokens := by
  have spells : Spells text.toList tokens := tokensOf_eq_ok_iff.mp h
  have spelled := spelled_of_tokenize h
  constructor
  · rw [← String.toList_inj, toList_join, String.toList_ofList, ← spells.joined, List.flatMap_map]
  · exact fun token member => (spelled token member).cases
  · rintro before token after rfl
    have itself := spelled token (by simp)
    obtain ⟨left, right, split, hleft, hright, border, border'⟩ := spells.place itself
    refine ⟨String.ofList left, String.ofList right, ?_, ?_, ?_, fun gap gap' blank blank' => parse_congr ?_⟩
    · rw [← String.toList_inj, split]
      simp
    · rw [tokenize_ofList, hleft]
    · rw [tokenize_ofList, hright]
    · show tokensOf (String.ofList left ++ gap ++ token.text ++ gap' ++ String.ofList right).toList = _
      have whole : Border (left ++ gap.toList ++ token.text.toList) right :=
        border'.of_append.prepend fun empty => absurd empty (toList_ne_nil itself)
      simp only [String.toList_append, String.toList_ofList]
      rw [tokensOf_spaced blank' whole, tokensOf_spaced blank border.of_append_right, tokensOf_text itself, hleft,
        hright, h]
      simp [inTurn, bind, Except.bind]
  · rintro before a b after rfl same solid
    obtain ⟨left, gap, right, split, nonempty, blank, hleft, hright⟩ := spells.apart same solid
    refine ⟨String.ofList left, String.ofList gap, String.ofList right, ?_, isRun_blank_ofList blank nonempty, ?_, ?_⟩
    · rw [← String.toList_inj, split]
      simp
    · rw [tokenize_ofList, hleft]
    · rw [tokenize_ofList, hright]
  · exact fun separator blank => tokenize_joined blank spelled

/-- A text has no tokens exactly if it has characters of no class, and then their first run is the error. Otherwise its
tokens are the text without its blanks, cut where the class of the characters changes and around each special
character. What a text is read as, or why it is not, does not depend on which blanks it has where it has some, and on
whether it has some at the borders of its tokens. -/
theorem tokenize_layout (text : String) :
    (∀ e, tokenize text = .error e ↔ ∃ before run after, text = before ++ run ++ after ∧
      (∀ c ∈ before.toList, CharClass.ofChar c ≠ .unknown) ∧ IsRun .unknown run ∧
      StartsOutside .unknown after.toList ∧ e = .unexpected (some run) none) ∧
    ((∃ e, tokenize text = .error e) ↔ ∃ c ∈ text.toList, CharClass.ofChar c = .unknown) ∧
    (∀ tokens, tokenize text = .ok tokens → Layout text tokens) ∧
    ∀ text', Respaced text text' → parse text' = parse text := by
  refine ⟨fun e => ?_, exists_error_iff, fun tokens => layout_of_tokenize,
    fun text' changed => parse_congr changed.tokenize_eq⟩
  refine tokensOf_eq_error_iff.trans ⟨?_, ?_⟩
  · rintro ⟨before, run, after, split, known, nonempty, uniform, outside, rfl⟩
    refine ⟨String.ofList before, String.ofList run, String.ofList after, ?_, ?_, isRun_ofList ⟨nonempty, uniform⟩, ?_,
      rfl⟩
    · rw [← String.toList_inj, split]
      simp
    · rwa [String.toList_ofList]
    · rwa [String.toList_ofList]
  · rintro ⟨before, run, after, rfl, known, isRun, outside, rfl⟩
    refine ⟨before.toList, run.toList, after.toList, ?_, known, toList_ne_nil isRun, isRun.2, outside, ?_⟩
    · rw [String.toList_append, String.toList_append]
    · rw [String.ofList_toList]

theorem tokenize_layout_application :
    parse "f::[m \t a]" = parse "f::[m a]" ∧ parse "f:: [m a]" = parse "f::[m a]" := by
  obtain ⟨-, -, -, respaced⟩ := tokenize_layout "f::[m a]"
  have between : Respaced ("f::[m" ++ " " ++ "a]") ("f::[m" ++ " \t " ++ "a]") := .replaced (by decide) (by decide)
  have border : Border "f::".toList "[m a]".toList := by
    rintro c d last first same
    cases last
    cases first
    exact absurd same (by decide)
  have before : Respaced ("f::" ++ "[m a]") ("f::" ++ " " ++ "[m a]") := .added (by decide) border
  exact ⟨respaced _ between, respaced _ before⟩

end HMSignature.Grammar
