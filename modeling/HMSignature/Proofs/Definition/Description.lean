import HMSignature.Proofs.Definition.Grouping
import HMSignature.Proofs.Resolution.Translation
/-!
# What describes a definition

A definition is made of what its signature resolves to, of what the definer asks for and of the mode. After that the
attributes of what it is made around win over these parts, and a definition that is defined again has all of them as
attributes. So a definition is described by its own signature exactly if no attribute says something else. What is
called may be an attribute, too: it is called in the place of what the definition is made around.

Results:
1. `describedBy_make_iff`: when attributes leave the parts of a definition as they are;
2. `call_defined`: what a definition calls then;
3. `define_describes_iff`: when a definition is described by its own signature, and when it calls what it is made
   around.
-/

namespace HMSignature

variable {β α : Type}

/-- The parts of a definition are those of its resolved signature, of the definer and of the mode, and it has no
arguments yet. -/
structure Definition.DescribedBy (definer : Definer) (r : Resolution) (curried thunk : Bool) (d : Definition β α) :
    Prop where
  name : d.name = r.name
  constraints : d.constraints = r.constraints
  types : d.types = r.types
  arity : d.arity = r.types.length - 1
  checkTypes : d.checkTypes = definer.checkTypes
  curried : d.curried = .bool curried
  args : d.args = []
  thunk : d.thunk = .bool thunk

/-- Every attribute that is there repeats a part of a definition without arguments. What is called is no part of the
description. -/
structure Attributes.Agree (definer : Definer) (r : Resolution) (curried thunk : Bool) (attributes : Attributes β α) :
    Prop where
  resolution : ∀ other ∈ attributes.resolution, other = r
  checkTypes : ∀ flag ∈ attributes.checkTypes, flag = definer.checkTypes
  curried : ∀ flag ∈ attributes.curried, flag = .bool curried
  args : ∀ args ∈ attributes.args, args = []
  thunk : ∀ flag ∈ attributes.thunk, flag = .bool thunk

/-- What is called in the place of what a definition is made around, if that has an attribute for it. -/
def Definable.target (f : Definable β α) : Definable β α :=
  f.attributes.func.getD f

namespace Definition

/-! ## Attributes -/

theorem getD_eq_iff {γ : Type} {given : Option γ} {part : γ} :
    given.getD part = part ↔ ∀ value ∈ given, value = part := by
  cases given with
  | none => exact ⟨fun _ => nofun, fun _ => rfl⟩
  | some value =>
    rw [Option.getD_some]
    constructor
    · rintro rfl other member
      exact (Option.mem_some_iff.mp member).symm
    · intro same
      exact same value rfl

variable {definer : Definer} {r : Resolution} {curried thunk : Bool} {f : Definable β α}

theorem DescribedBy.resolution {d : Definition β α} (described : d.DescribedBy definer r curried thunk) :
    d.resolution = r := by
  obtain ⟨name, constraints, types⟩ := r
  cases described.name
  cases described.constraints
  cases described.types
  rfl

/-- Attributes leave a new definition as it is exactly if they repeat its parts. -/
theorem describedBy_make_iff :
    (make f r definer.checkTypes (.bool curried) [] (.bool thunk)).DescribedBy definer r curried thunk ↔
      f.attributes.Agree definer r curried thunk := by
  constructor
  · intro described
    exact ⟨getD_eq_iff.mp described.resolution, getD_eq_iff.mp described.checkTypes, getD_eq_iff.mp described.curried,
      getD_eq_iff.mp described.args, getD_eq_iff.mp described.thunk⟩
  · intro agree
    have same := getD_eq_iff.mpr agree.resolution
    exact ⟨congrArg Resolution.name same, congrArg Resolution.constraints same, congrArg Resolution.types same,
      congrArg (fun r => r.types.length - 1) same, getD_eq_iff.mpr agree.checkTypes, getD_eq_iff.mpr agree.curried,
      getD_eq_iff.mpr agree.args, getD_eq_iff.mpr agree.thunk⟩

/-! ## Calls -/

universe u

variable {m : Type → Type u} [Monad m] (convention : Convention m β α) {args : List α}

/-- With all its arguments at once, a definition that is described by its signature calls what is called in the place
of what it is made around. -/
theorem call_defined (agree : f.attributes.Agree definer r false thunk)
    (complete : args.length = (defined definer r false thunk f).arity) :
    (defined definer r false thunk f).call convention args = f.target.call convention args := by
  have described : (defined definer r false thunk f).DescribedBy definer r false thunk :=
    describedBy_make_iff.mpr agree
  have all : (defined definer r false thunk f).args ++ args = args := by
    rw [described.args, List.nil_append]
  rw [call_of_eq convention (by rw [all, complete]),
    invoke_of_not_curried convention (congrArg Value.isTrue described.curried), all]
  rfl

theorem call_target_eq_iff :
    f.target.call convention args = f.call convention args ↔
      ∀ g ∈ f.attributes.func, g.call convention args = f.call convention args := by
  unfold Definable.target
  cases f.attributes.func with
  | none => exact ⟨fun _ => nofun, fun _ => rfl⟩
  | some g => exact ⟨fun same _ member => Option.mem_some_iff.mp member ▸ same, fun same => same g rfl⟩

/-- What a definition is described by, and what it calls. Whenever the signature resolves there is a definition, and it
is described by its own signature, its definer and its mode exactly if each attribute of what it is made around repeats
what it wins over. A definition that is made around a definition is that one again, so it is described like this
exactly if that one was already.

A definition that is described like this and not curried hands its arguments on at once. It calls the function that
what it is made around has as an attribute, and that itself if there is no such attribute. So it calls what it is made
around exactly if the function there does the same. -/
theorem define_describes_iff (definer : Definer) (text : String) (s : Grammar.Signature) (r : Resolution)
    (curried : Bool) (f : Definable β α) (parsed : Grammar.parse text = .ok s)
    (resolved : definer.resolve text = .ok r) :
    ∃ d, definer.define text curried f = .ok d ∧
      (d.DescribedBy definer r curried s.hasThunk ↔ f.attributes.Agree definer r curried s.hasThunk) ∧
      (∀ d', f = .definition d' → d = d') ∧
      (curried = false → d.DescribedBy definer r curried s.hasThunk →
        ∀ (m : Type → Type u) [Monad m] (convention : Convention m β α) (args : List α), args.length = d.arity →
          d.call convention args = f.target.call convention args ∧
          (d.call convention args = f.call convention args ↔
            ∀ g ∈ f.attributes.func, g.call convention args = f.call convention args)) := by
  refine ⟨_, define_of_resolve parsed resolved curried f, describedBy_make_iff, ?_, ?_⟩
  · rintro d' rfl
    exact make_definition d' r _ _ _ _
  · rintro rfl described m _ convention args complete
    have target := call_defined convention (describedBy_make_iff.mp described) complete
    exact ⟨target, target ▸ call_target_eq_iff convention⟩

theorem parse_length : Grammar.parse "length :: String -> Number" =
    .ok ⟨"length", [], .function [.constructor "String" [], .constructor "Number" []]⟩ := by
  refine Grammar.parse_eq_ok_iff.mpr
    ⟨[.name "length", .symbol "::", .name "String", .symbol "->", .name "Number"], by rfl, .free ?_⟩
  exact .function (.bare (.upper (by decide))) (.more (.bare (.upper (by decide))) .none)

theorem resolve_length : (Definer.mk Environment.default [] (.bool true)).resolve "length :: String -> Number" =
    .ok ⟨"length", [], [.operator (.constructor Builtin.text), .operator (.constructor Builtin.number)]⟩ :=
  (Resolution.ofText_eq_ok_iff parse_length).mpr ⟨rfl, rfl, rfl⟩

/-- Around a function that has another function and the resolved signature as attributes. -/
theorem define_describes_iff_length :
    ∃ d : Definition Bool Nat,
      (Definer.mk Environment.default [] (.bool true)).define "length :: String -> Number" false
        (.implementation ⟨false, "fn", none, { (.none : Attributes Bool Nat) with
          func := some (.implementation ⟨true, "size", none, .none⟩)
          resolution := some ⟨"length", [], [.operator (.constructor Builtin.text),
            .operator (.constructor Builtin.number)]⟩ }⟩) = .ok d ∧
      d.name = "length" ∧ d.arity = 1 ∧ d.checkTypes = .bool true ∧ d.args = [] ∧
      ∀ convention : Convention Option Bool Nat, d.call convention [7] = convention.run true [7] := by
  obtain ⟨d, made, described, -, calls⟩ := define_describes_iff _ _ _ _ false
    (.implementation ⟨false, "fn", none, { (.none : Attributes Bool Nat) with
      func := some (.implementation ⟨true, "size", none, .none⟩)
      resolution := some ⟨"length", [], [.operator (.constructor Builtin.text),
        .operator (.constructor Builtin.number)]⟩ }⟩) parse_length resolve_length
  have parts := described.mpr ⟨fun _ same => (Option.some.inj same).symm, nofun, nofun, nofun, nofun⟩
  refine ⟨d, made, parts.name, parts.arity, parts.checkTypes, parts.args, fun convention => ?_⟩
  exact (calls rfl parts Option convention [7] parts.arity.symm).1

/-- Around a definition that takes one argument, a signature with two parameters makes that definition again. -/
theorem define_again_keeps_description :
    ∃ (r : Resolution) (d d' : Definition Unit Nat),
      (Definer.mk Environment.default [] (.bool true)).define "length :: String -> Number" false
        (.implementation ⟨(), "fn", none, .none⟩) = .ok d ∧
      (Definer.mk Environment.default [] (.bool true)).resolve "index :: String -> Number -> String" = .ok r ∧
      (Definer.mk Environment.default [] (.bool true)).define "index :: String -> Number -> String" false
        (.definition d) = .ok d' ∧
      r.name = "index" ∧ d'.name = "length" ∧ r.types.length = 3 ∧ d'.types.length = 2 ∧ d'.arity = 1 := by
  have parsed : Grammar.parse "index :: String -> Number -> String" =
      .ok ⟨"index", [], .function [.constructor "String" [], .constructor "Number" [], .constructor "String" []]⟩ := by
    refine Grammar.parse_eq_ok_iff.mpr
      ⟨[.name "index", .symbol "::", .name "String", .symbol "->", .name "Number", .symbol "->", .name "String"],
        by rfl, .free ?_⟩
    exact .function (.bare (.upper (by decide)))
      (.more (.bare (.upper (by decide))) (.more (.bare (.upper (by decide))) .none))
  have resolved : (Definer.mk Environment.default [] (.bool true)).resolve "index :: String -> Number -> String" =
      .ok ⟨"index", [], [.operator (.constructor Builtin.text), .operator (.constructor Builtin.number),
        .operator (.constructor Builtin.text)]⟩ :=
    (Resolution.ofText_eq_ok_iff parsed).mpr ⟨rfl, rfl, rfl⟩
  exact ⟨_, _, _, define_of_resolve parse_length resolve_length false _, resolved,
    define_of_resolve parsed resolved false _, rfl, rfl, rfl, rfl, rfl⟩

end Definition

end HMSignature
