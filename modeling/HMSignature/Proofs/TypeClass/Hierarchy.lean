import HMSignature.TypeClass.Standard
/-!
# What a hierarchy of classes says

A class asks its dependencies first, each of them its own, and stops at the first answer that is not true. Taken
together the questions are those of one list, the classes of the hierarchy with dependencies first, read up to the
first test that fails. A class that several others depend on stands in the list once for each of them, and is tested
again.

Results:
1. `check_eq`: checking a class is going through its hierarchy;
2. `mem_hierarchy_iff`: the hierarchy has the class and all that it depends on, directly or through others;
3. `satisfied_iff`: so a class is satisfied exactly if all tests of the hierarchy hold;
4. `satisfiedBy?_hierarchy`: which tests are run, and what the answer is.
-/

namespace HMSignature.TypeClass

/-! ## Tests in a row -/

/-- The test of the class holds: its answer counts as true. -/
def passes (value : Datum) (c : TypeClass) : Bool :=
  (c.test value).isTrue

/-- The classes whose tests are run, when they are run one by one up to the first that does not hold. -/
def upToFailure (value : Datum) : List TypeClass → List TypeClass
  | [] => []
  | c :: rest => c :: if c.passes value then upToFailure value rest else []

/-- The truth value that tests have together: the first that does not hold decides, and it may have none. -/
def conjunction (value : Datum) : List TypeClass → Option Bool
  | [] => some true
  | c :: rest => if c.passes value then conjunction value rest else (c.test value).truth?

section Lists

variable {value : Datum}

theorem passes_iff {c : TypeClass} : c.passes value = true ↔ (c.test value).truth? = some true := by
  unfold passes Value.isTrue
  exact decide_eq_true_iff

theorem conjunction_eq_some_true_iff {classes : List TypeClass} :
    conjunction value classes = some true ↔ ∀ c ∈ classes, c.passes value = true := by
  induction classes with
  | nil => exact ⟨fun _ => nofun, fun _ => rfl⟩
  | cons c rest ih =>
    rw [conjunction, List.forall_mem_cons, ← ih]
    split
    · next holds => exact ⟨fun others => ⟨holds, others⟩, fun both => both.2⟩
    · next fails => exact ⟨fun holds => absurd (passes_iff.mpr holds) fails, fun both => absurd both.1 fails⟩

/-- The first test that fails decides. -/
theorem conjunction_of_find? {classes : List TypeClass} {c : TypeClass}
    (first : classes.find? (fun c => !c.passes value) = some c) :
    conjunction value classes = (c.test value).truth? := by
  induction classes with
  | nil => cases first
  | cons d rest ih =>
    rw [List.find?_cons] at first
    rw [conjunction]
    cases holds : d.passes value with
    | true =>
      rw [holds] at first
      exact ih first
    | false =>
      rw [holds] at first
      cases first
      rfl

/-- Behind tests that do not all hold nothing is asked. -/
theorem conjunction_append (classes others : List TypeClass) :
    conjunction value (classes ++ others) =
      if conjunction value classes = some true then conjunction value others else conjunction value classes := by
  induction classes with
  | nil => rfl
  | cons c rest ih =>
    rw [List.cons_append, conjunction, conjunction]
    split
    · exact ih
    · next fails => rw [if_neg fun holds => fails (passes_iff.mpr holds)]

theorem upToFailure_append (classes others : List TypeClass) :
    upToFailure value (classes ++ others) =
      if conjunction value classes = some true then classes ++ upToFailure value others
      else upToFailure value classes := by
  induction classes with
  | nil => rfl
  | cons c rest ih =>
    rw [List.cons_append, upToFailure, upToFailure, conjunction]
    split
    · rw [ih]
      split <;> rfl
    · next fails => rw [if_neg fun holds => fails (passes_iff.mpr holds)]

theorem upToFailure_of_conjunction {classes : List TypeClass} (holds : conjunction value classes = some true) :
    upToFailure value classes = classes := by
  have whole := @upToFailure_append value classes []
  rw [List.append_nil, if_pos holds, upToFailure, List.append_nil] at whole
  exact whole

theorem conjunction_singleton (c : TypeClass) : conjunction value [c] = (c.test value).truth? := by
  rw [conjunction]
  split
  · next holds => exact (passes_iff.mp holds).symm
  · rfl

end Lists

/-! ## Checking a class -/

theorem hierarchy_eq (c : TypeClass) : c.hierarchy = hierarchies c.dependencies ++ [c] := by
  cases c
  rw [hierarchy]

theorem hierarchies_eq (classes : List TypeClass) : hierarchies classes = classes.flatMap hierarchy := by
  induction classes with
  | nil => rfl
  | cons c rest ih => rw [hierarchies, ih, List.flatMap_cons]

/-- What a class answers when its dependencies have a truth value together. -/
def answerAfter (value : Datum) (c : TypeClass) : Option Bool → Option Datum
  | some true => some (c.test value)
  | some false => some (.bool false)
  | none => none

/-- The answer of a class counts as what all tests of its hierarchy give together. -/
theorem truth?_answerAfter (value : Datum) (c : TypeClass) :
    (c.answerAfter value (conjunction value (hierarchies c.dependencies))).bind Value.truth? =
      conjunction value c.hierarchy := by
  rw [hierarchy_eq, conjunction_append, conjunction_singleton]
  cases conjunction value (hierarchies c.dependencies) with
  | none => rfl
  | some holds => cases holds <;> rfl

mutual

/-- Checking a class is going through its hierarchy up to the first test that fails. -/
theorem check_eq (value : Datum) : (c : TypeClass) →
    check value c =
      ⟨c.answerAfter value (conjunction value (hierarchies c.dependencies)), upToFailure value c.hierarchy⟩
  | ⟨name, url, test, dependencies⟩ => by
    rw [check, checkAll_eq value dependencies, hierarchy_eq, upToFailure_append]
    cases together : conjunction value (hierarchies dependencies) with
    | none => rw [if_neg nofun]; rfl
    | some holds =>
      cases holds with
      | false => rw [if_neg nofun]; rfl
      | true =>
        rw [if_pos rfl, upToFailure_of_conjunction together, upToFailure, upToFailure, ite_self]
        rfl

/-- Checking classes from left to right is going through their hierarchies one after the other. -/
theorem checkAll_eq (value : Datum) : (classes : List TypeClass) →
    checkAll value classes = (conjunction value (hierarchies classes), upToFailure value (hierarchies classes))
  | [] => rfl
  | c :: rest => by
    rw [checkAll, check_eq value c, checkAll_eq value rest, hierarchies, conjunction_append, upToFailure_append]
    dsimp only
    rw [truth?_answerAfter]
    cases together : conjunction value c.hierarchy with
    | none => rw [if_neg nofun, if_neg nofun]
    | some holds =>
      cases holds with
      | false => rw [if_neg nofun, if_neg nofun]
      | true =>
        rw [if_pos rfl, if_pos rfl, upToFailure_of_conjunction together]

end

/-! ## Dependencies -/

/-- A class depends on another one, directly or through others. -/
inductive DependsOn : TypeClass → TypeClass → Prop
  | direct {c d : TypeClass} : d ∈ c.dependencies → DependsOn c d
  | through {c d e : TypeClass} : d ∈ c.dependencies → DependsOn d e → DependsOn c e

theorem DependsOn.trans {c d e : TypeClass} (h : c.DependsOn d) (h' : d.DependsOn e) : c.DependsOn e := by
  induction h with
  | direct member => exact .through member h'
  | through member _ ih => exact .through member (ih h')

theorem mem_hierarchy_self (c : TypeClass) : c ∈ c.hierarchy := by
  rw [hierarchy_eq]
  exact List.mem_concat_self

theorem mem_hierarchies_iff {classes : List TypeClass} {d : TypeClass} :
    d ∈ hierarchies classes ↔ ∃ c ∈ classes, d ∈ c.hierarchy := by
  rw [hierarchies_eq, List.mem_flatMap]

theorem mem_hierarchies_of_dependsOn {c d : TypeClass} (h : c.DependsOn d) : d ∈ hierarchies c.dependencies := by
  induction h with
  | direct member => exact mem_hierarchies_iff.mpr ⟨_, member, mem_hierarchy_self _⟩
  | @through c d e member _ ih =>
    refine mem_hierarchies_iff.mpr ⟨d, member, ?_⟩
    rw [hierarchy_eq]
    exact List.mem_append_left _ ih

mutual

theorem dependsOn_of_mem {d : TypeClass} : (c : TypeClass) → d ∈ c.hierarchy → d = c ∨ c.DependsOn d
  | ⟨name, url, test, dependencies⟩, member => by
    rw [hierarchy, List.mem_append, List.mem_singleton] at member
    rcases member with below | itself
    · obtain ⟨c, direct, same | depends⟩ := dependsOn_of_mem_all dependencies below
      · exact .inr (.direct (same ▸ direct))
      · exact .inr (.through direct depends)
    · exact .inl itself

theorem dependsOn_of_mem_all {d : TypeClass} : (classes : List TypeClass) → d ∈ hierarchies classes →
    ∃ c ∈ classes, d = c ∨ c.DependsOn d
  | [], member => by cases member
  | c :: rest, member => by
    rw [hierarchies, List.mem_append] at member
    rcases member with first | others
    · exact ⟨c, List.mem_cons_self, dependsOn_of_mem c first⟩
    · obtain ⟨c', inRest, depends⟩ := dependsOn_of_mem_all rest others
      exact ⟨c', List.mem_cons_of_mem _ inRest, depends⟩

end

/-- The proper dependencies of a class are what stands before it. -/
theorem mem_hierarchies_dependencies_iff {c d : TypeClass} : d ∈ hierarchies c.dependencies ↔ c.DependsOn d := by
  refine ⟨fun member => ?_, mem_hierarchies_of_dependsOn⟩
  obtain ⟨e, direct, same | depends⟩ := dependsOn_of_mem_all c.dependencies member
  · exact .direct (same ▸ direct)
  · exact .through direct depends

theorem mem_hierarchy_iff {c d : TypeClass} : d ∈ c.hierarchy ↔ d = c ∨ c.DependsOn d := by
  rw [hierarchy_eq, List.mem_append, List.mem_singleton, mem_hierarchies_dependencies_iff, or_comm]

/-! ## Satisfied classes -/

/-- The value satisfies the class: what the class says about it counts as true. -/
def Satisfied (value : Datum) (c : TypeClass) : Prop :=
  (c.satisfiedBy? value).bind Value.truth? = some true

section Satisfied

variable {value : Datum}

/-- A class is satisfied exactly if all tests of its hierarchy hold. -/
theorem satisfied_iff {c : TypeClass} : c.Satisfied value ↔ ∀ d ∈ c.hierarchy, d.passes value = true := by
  unfold Satisfied satisfiedBy?
  rw [check_eq, truth?_answerAfter, conjunction_eq_some_true_iff]

theorem Satisfied.of_dependsOn {c d : TypeClass} (h : c.Satisfied value) (depends : c.DependsOn d) :
    d.Satisfied value := by
  rw [satisfied_iff] at h ⊢
  intro e member
  refine h e (mem_hierarchy_iff.mpr (.inr ?_))
  rcases mem_hierarchy_iff.mp member with rfl | further
  · exact depends
  · exact depends.trans further

/-- The dependencies are satisfied exactly if their tests hold. -/
theorem dependencies_satisfied_iff {c : TypeClass} :
    (∀ d, c.DependsOn d → d.Satisfied value) ↔ ∀ d ∈ hierarchies c.dependencies, d.passes value = true := by
  constructor
  · intro satisfied d member
    have itself := satisfied d (mem_hierarchies_dependencies_iff.mp member)
    exact satisfied_iff.mp itself d (mem_hierarchy_self d)
  · intro pass d depends
    refine satisfied_iff.mpr fun e member => pass e (mem_hierarchies_dependencies_iff.mpr ?_)
    rcases mem_hierarchy_iff.mp member with rfl | further
    · exact depends
    · exact depends.trans further

end Satisfied

/-- A value is tested on the classes of the hierarchy, dependencies first, up to the first test that fails, and it
satisfies the class exactly if none does. If it satisfies all that the class depends on, then the answer is that of the
class itself, as it is. Otherwise the first test that fails decides: the answer is false, unless it cannot be said
whether that test holds. So a value that satisfies a class satisfies all that the class depends on. -/
theorem satisfiedBy?_hierarchy (c : TypeClass) (value : Datum) :
    (check value c).tested = upToFailure value c.hierarchy ∧
    (c.Satisfied value ↔ ∀ d ∈ c.hierarchy, d.passes value = true) ∧
    ((∀ d, c.DependsOn d → d.Satisfied value) → c.satisfiedBy? value = some (c.test value)) ∧
    (¬(∀ d, c.DependsOn d → d.Satisfied value) →
      ∃ d, (hierarchies c.dependencies).find? (fun d => !d.passes value) = some d ∧
        c.satisfiedBy? value = (d.test value).truth?.map .bool) ∧
    (c.Satisfied value → ∀ d, c.DependsOn d → d.Satisfied value) := by
  refine ⟨?_, satisfied_iff, ?_, ?_, fun satisfied d depends => satisfied.of_dependsOn depends⟩
  · rw [check_eq]
  · intro satisfied
    rw [dependencies_satisfied_iff, ← conjunction_eq_some_true_iff] at satisfied
    rw [satisfiedBy?, check_eq, satisfied]
    rfl
  · intro unsatisfied
    rw [dependencies_satisfied_iff] at unsatisfied
    cases first : (hierarchies c.dependencies).find? (fun d => !d.passes value) with
    | none =>
      refine absurd (fun d member => ?_) unsatisfied
      have kept := List.find?_eq_none.mp first d member
      simpa using kept
    | some d =>
      refine ⟨d, rfl, ?_⟩
      rw [satisfiedBy?, check_eq, conjunction_of_find? first]
      have fails : ¬(d.test value).truth? = some true := by
        have failed := List.find?_some first
        rw [← passes_iff]
        simpa using failed
      cases truth : (d.test value).truth? with
      | none => rfl
      | some holds =>
        cases holds with
        | false => rfl
        | true => exact absurd truth fails

/-- A monad depends on functors twice. An applicative without a method for chaining is asked about both times. -/
theorem satisfiedBy?_hierarchy_monad :
    (check (.object 0 ⟨["of"], ["map", "ap"], [], none⟩) monad).tested =
      [functor, apply, applicative, functor, apply, chain] ∧
    monad.satisfiedBy? (.object 0 ⟨["of"], ["map", "ap"], [], none⟩) = some (.bool false) := by
  obtain ⟨tested, -, -, unsatisfied, -⟩ := satisfiedBy?_hierarchy monad (.object 0 ⟨["of"], ["map", "ap"], [], none⟩)
  have below : monad.DependsOn chain := .direct (List.mem_cons_of_mem _ List.mem_cons_self)
  have fails : ¬chain.Satisfied (.object 0 ⟨["of"], ["map", "ap"], [], none⟩) :=
    fun satisfied => absurd (satisfied_iff.mp satisfied chain (mem_hierarchy_self chain)) (by decide)
  obtain ⟨d, first, answer⟩ := unsatisfied fun all => fails (all chain below)
  obtain rfl : chain = d := Option.some.inj first
  exact ⟨tested.trans rfl, answer.trans rfl⟩

end HMSignature.TypeClass
