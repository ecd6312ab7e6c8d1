import HMSignature.Grammar.Token
import HMSignature.Proofs.Except
/-!
# Spelling of tokens

A token that comes from a text is spelled as its kind says: a name by name characters, a symbol by symbol characters.
So the text of a token tells which token it is, and a reader that compares texts compares tokens.

Results:
1. `spelled_of_tokenize`: all tokens of a text are spelled as their kinds say;
2. `Token.eq_of_text_eq`: such tokens with the same text are the same.
-/

namespace HMSignature.Grammar

/-- A text that is one run of characters of a class. -/
def IsRun (kind : CharClass) (text : String) : Prop :=
  text ≠ "" ∧ ∀ c ∈ text.toList, CharClass.ofChar c = kind

instance (kind : CharClass) (text : String) : Decidable (IsRun kind text) :=
  decidable_of_iff (text ≠ "" ∧ text.toList.all (fun c => CharClass.ofChar c = kind) = true) (by simp [IsRun])

/-- A text that is one name. -/
abbrev IsName (text : String) : Prop := IsRun .name text

namespace Token

/-- The class of the characters of a token. -/
def kind : Token → CharClass
  | name _ => .name
  | symbol _ => .symbol
  | opening _ | closing _ | comma => .special

/-- The token is spelled by characters of its class. -/
def Spelled (token : Token) : Prop := IsRun token.kind token.text

instance (token : Token) : Decidable token.Spelled :=
  inferInstanceAs (Decidable (IsRun token.kind token.text))

/-- Brackets and the comma are single characters, which tell them apart. -/
theorem ofSpecial?_head {token : Token} (h : token.kind = .special) :
    token.text.toList.head?.bind ofSpecial? = some token := by
  cases token with
  | name text => cases h
  | symbol text => cases h
  | opening bracket => cases bracket <;> rfl
  | closing bracket => cases bracket <;> rfl
  | comma => rfl

theorem spelled_of_special {token : Token} (h : token.kind = .special) : token.Spelled := by
  cases token with
  | name text => cases h
  | symbol text => cases h
  | opening bracket => cases bracket <;> decide
  | closing bracket => cases bracket <;> decide
  | comma => decide

theorem kind_of_ofSpecial? {c : Char} {token : Token} (h : ofSpecial? c = some token) : token.kind = .special := by
  unfold ofSpecial? at h
  split at h <;> cases h <;> rfl

theorem kind_eq_of_text_eq {a b : Token} (ha : a.Spelled) (hb : b.Spelled) (h : a.text = b.text) :
    a.kind = b.kind := by
  cases chars : a.text.toList with
  | nil => exact absurd (String.toList_eq_nil_iff.mp chars) ha.1
  | cons c rest =>
    have inA : c ∈ a.text.toList := by rw [chars]; exact List.mem_cons_self
    have inB : c ∈ b.text.toList := h ▸ inA
    exact (ha.2 c inA).symm.trans (hb.2 c inB)

/-- The text of a token tells which token it is. -/
theorem eq_of_text_eq {a b : Token} (ha : a.Spelled) (hb : b.Spelled) (h : a.text = b.text) : a = b := by
  have kinds := kind_eq_of_text_eq ha hb h
  by_cases special : a.kind = .special
  · -- a single character, which both tokens begin with
    have headA := ofSpecial?_head special
    have headB := ofSpecial?_head (kinds ▸ special)
    rw [h] at headA
    exact Option.some.inj (headA.symm.trans headB)
  · -- a name or a symbol, which is nothing but its text
    cases a <;> cases b <;> simp only [kind, reduceCtorEq, not_true_eq_false] at kinds special
    · exact congrArg name h
    · exact congrArg symbol h

end Token

theorem isRun_ofList {kind : CharClass} {chars : List Char} (h : UniformRun (kind, chars)) :
    IsRun kind (String.ofList chars) := by
  refine ⟨?_, ?_⟩
  · intro empty
    exact h.1 (String.ofList_eq_empty_iff.mp empty)
  · rw [String.toList_ofList]
    exact h.2

theorem spelled_of_run {group : CharClass × List Char} {tokens : List Token} (uniform : UniformRun group)
    (h : tokensOfRun group = .ok tokens) : ∀ token ∈ tokens, token.Spelled := by
  obtain ⟨kind, chars⟩ := group
  cases kind with
  | blank =>
    cases h
    simp
  | name =>
    cases h
    intro token member
    cases List.mem_singleton.mp member
    exact isRun_ofList uniform
  | symbol =>
    cases h
    intro token member
    cases List.mem_singleton.mp member
    exact isRun_ofList uniform
  | special =>
    cases h
    intro token member
    obtain ⟨c, -, special⟩ := List.mem_filterMap.mp member
    exact Token.spelled_of_special (Token.kind_of_ofSpecial? special)
  | unknown => cases h

theorem spelled_of_runs {groups : List (CharClass × List Char)} {tokens : List Token}
    (uniform : ∀ group ∈ groups, UniformRun group) (h : tokensOfRuns groups = .ok tokens) :
    ∀ token ∈ tokens, token.Spelled := by
  induction groups generalizing tokens with
  | nil =>
    cases h
    simp
  | cons group rest ih =>
    obtain ⟨first, hfirst, h⟩ := bind_eq_ok_iff.mp h
    obtain ⟨others, hothers, h⟩ := bind_eq_ok_iff.mp h
    cases h
    intro token member
    rcases List.mem_append.mp member with member | member
    · exact spelled_of_run (uniform _ List.mem_cons_self) hfirst token member
    · exact ih (fun group inRest => uniform group (List.mem_cons_of_mem _ inRest)) hothers token member

/-- Every token of a text is spelled as its kind says. -/
theorem spelled_of_tokenize {text : String} {tokens : List Token} (h : tokenize text = .ok tokens) :
    ∀ token ∈ tokens, token.Spelled :=
  spelled_of_runs (runs_uniform text.toList) h

end HMSignature.Grammar
