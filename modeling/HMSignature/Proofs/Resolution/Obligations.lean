import HMSignature.Proofs.Except
import HMSignature.Proofs.Table
import HMSignature.Resolution.Constraints
import HMSignature.TypeClass.Standard
import Mathlib.Algebra.GroupWithZero.Nat
import Mathlib.Data.List.Forall2
/-!
# Constraints grouped by variable

Constraints are added one after the other, each to the classes of its variable. Whatever variables they are on, and in
whatever order these come: no constraint is lost, none is counted twice, and the classes of each variable are in the
order of its constraints.

Results:
1. `Groups.add`, `Groups.addAll`: one more constraint, and any number of them;
2. `addAll_succeeds_iff`, `addAll_of_unknown`: the first class that is not known is the error;
3. `Groups.eq_append`: the constraints of two lists together;
4. `ofConstraints_groups`.
-/

namespace HMSignature.Obligations

open Grammar (Constraint)

variable {classes : Table String TypeClass}

/-- The classes that constraints demand of a variable, in the order of the constraints and with repetitions. -/
def classesOn (classes : Table String TypeClass) (constraints : List Constraint) (typeVar : String) : List TypeClass :=
  (constraints.filter fun constraint => constraint.typeVar = typeVar).filterMap fun constraint =>
    classes.get? constraint.typeClass

/-- Obligations that hold the given constraints: the variables in the order in which they come first, under each of them
the classes that are demanded of it, and so many classes in all as there are constraints. -/
structure Groups (classes : Table String TypeClass) (constraints : List Constraint) (obligations : Obligations) :
    Prop where
  keys : obligations.keys = (constraints.map Constraint.typeVar).eraseDups
  classes : ∀ typeVar, (obligations.get? typeVar).getD [] = classesOn classes constraints typeVar
  total : (obligations.map fun entry => entry.2.length).sum = constraints.length

/-- The obligations of two lists of constraints together, variable by variable: those of the first list, then those of
the second. -/
def append (first second : Obligations) : Obligations :=
  (first.keys ++ second.keys).eraseDups.map fun typeVar =>
    (typeVar, (first.get? typeVar).getD [] ++ (second.get? typeVar).getD [])

/-! ## Adding constraints -/

theorem classesOn_append (constraints more : List Constraint) (typeVar : String) :
    classesOn classes (constraints ++ more) typeVar =
      classesOn classes constraints typeVar ++ classesOn classes more typeVar := by
  rw [classesOn, List.filter_append, List.filterMap_append]
  rfl

/-- Adding a constraint pushes its class, if that is known. -/
theorem add_eq_ok_iff {obligations added : Obligations} {constraint : Constraint} :
    obligations.add classes constraint = .ok added ↔
      ∃ c, classes.get? constraint.typeClass = some c ∧ added = Table.push obligations constraint.typeVar c := by
  unfold add
  cases classes.get? constraint.typeClass with
  | none => exact ⟨nofun, nofun⟩
  | some c =>
    refine ok_eq_ok_iff.trans ⟨fun h => ⟨c, rfl, h⟩, ?_⟩
    rintro ⟨c', found, rfl⟩
    cases found
    rfl

theorem addAll_succeeds_iff (classes : Table String TypeClass) (constraints : List Constraint)
    (obligations : Obligations) :
    (∃ result, addAll classes obligations constraints = .ok result) ↔
      ∀ constraint ∈ constraints, ∃ c, classes.get? constraint.typeClass = some c := by
  induction constraints generalizing obligations with
  | nil => exact ⟨fun _ _ member => absurd member List.not_mem_nil, fun _ => ⟨obligations, rfl⟩⟩
  | cons constraint rest ih =>
    rw [List.forall_mem_cons, addAll, add]
    cases classes.get? constraint.typeClass with
    | none => exact ⟨nofun, nofun⟩
    | some c => exact (ih _).trans ⟨fun others => ⟨⟨c, rfl⟩, others⟩, fun both => both.2⟩

/-- Writing a list under a key replaces the list that was there. -/
theorem sum_insert (obligations : Obligations) (typeVar : String) (list : List TypeClass) :
    ((Table.insert obligations typeVar list).map fun entry => entry.2.length).sum +
        ((obligations.get? typeVar).getD []).length =
      (obligations.map fun entry => entry.2.length).sum + list.length := by
  induction obligations with
  | nil => simp [Table.insert, Table.get?]
  | cons entry rest ih =>
    obtain ⟨key, old⟩ := entry
    by_cases same : key = typeVar
    · simp only [Table.insert, Table.get?, same, beq_self_eq_true, if_true, List.map_cons, List.sum_cons,
        Option.getD_some]
      omega
    · simp only [Table.insert, Table.get?, beq_eq_false_iff_ne.mpr same, Bool.false_eq_true, if_false, List.map_cons,
        List.sum_cons]
      omega

theorem groups_nil : Groups classes [] [] :=
  ⟨rfl, fun _ => rfl, rfl⟩

/-- One more constraint puts its class behind those of its variable, and changes nothing else. -/
theorem Groups.add {seen : List Constraint} {obligations added : Obligations} {constraint : Constraint}
    (groups : Groups classes seen obligations) (h : obligations.add classes constraint = .ok added) :
    Groups classes (seen ++ [constraint]) added := by
  obtain ⟨c, found, rfl⟩ := add_eq_ok_iff.mp h
  refine ⟨?keys, ?classes, ?total⟩
  case keys =>
    rw [List.map_append]
    exact Table.keys_insert_eraseDups groups.keys _ _
  case classes =>
    intro typeVar
    rw [classesOn_append, ← groups.classes, Table.push, Table.get?_insert]
    by_cases same : constraint.typeVar = typeVar
    · simp [classesOn, same, found]
    · simp [classesOn, same]
  case total =>
    have counted := sum_insert obligations constraint.typeVar ((obligations.get? constraint.typeVar).getD [] ++ [c])
    rw [List.length_append, List.length_singleton, groups.total] at counted
    rw [Table.push, List.length_append, List.length_singleton]
    omega

theorem Groups.addAll {seen constraints : List Constraint} {obligations r : Obligations}
    (groups : Groups classes seen obligations) (h : addAll classes obligations constraints = .ok r) :
    Groups classes (seen ++ constraints) r := by
  induction constraints generalizing obligations seen with
  | nil =>
    cases h
    rwa [List.append_nil]
  | cons constraint rest ih =>
    obtain ⟨added, first, others⟩ := bind_eq_ok_iff.mp h
    rw [List.append_cons]
    exact ih (groups.add first) others

theorem groups_of_ofConstraints {constraints : List Constraint} {r : Obligations}
    (h : ofConstraints classes constraints = .ok r) : Groups classes constraints r :=
  groups_nil.addAll h

/-! ## The first class that is not known -/

theorem addAll_append (obligations : Obligations) (constraints more : List Constraint) :
    addAll classes obligations (constraints ++ more) =
      addAll classes obligations constraints >>= fun added => addAll classes added more := by
  induction constraints generalizing obligations with
  | nil => rfl
  | cons constraint rest ih =>
    rw [List.cons_append, addAll, addAll]
    cases obligations.add classes constraint with
    | error e => rfl
    | ok added => exact ih added

theorem get?_eq_none {name : String} (unknown : name ∉ classes.keys) : classes.get? name = none := by
  cases found : classes.get? name with
  | none => rfl
  | some c => exact absurd (Table.mem_keys_iff.mpr ⟨c, found⟩) unknown

/-- The first constraint with a class that is not known is the error, whatever stands behind it. -/
theorem addAll_of_unknown {obligations : Obligations} {before after : List Constraint} {constraint : Constraint}
    (known : ∀ earlier ∈ before, earlier.typeClass ∈ classes.keys) (unknown : constraint.typeClass ∉ classes.keys) :
    addAll classes obligations (before ++ constraint :: after) =
      .error (.unknownTypeClass constraint.typeClass classes.keys) := by
  obtain ⟨added, h⟩ := (addAll_succeeds_iff classes before obligations).mpr fun earlier member =>
    Table.mem_keys_iff.mp (known earlier member)
  rw [addAll_append, h, ok_bind, addAll, add, get?_eq_none unknown]
  rfl

/-! ## Two lists of constraints -/

theorem Groups.nodup {constraints : List Constraint} {obligations : Obligations}
    (groups : Groups classes constraints obligations) : obligations.keys.Nodup :=
  groups.keys ▸ Table.nodup_eraseDups _

theorem Groups.eq_append {constraints more : List Constraint} {first second whole : Obligations}
    (groups : Groups classes constraints first) (groups' : Groups classes more second)
    (together : Groups classes (constraints ++ more) whole) : whole = first.append second := by
  have keys : whole.keys = (first.keys ++ second.keys).eraseDups := by
    rw [together.keys, groups.keys, groups'.keys, List.map_append, Table.eraseDups_append_eraseDups]
  rw [Table.eq_map_keys together.nodup [], keys]
  refine List.map_congr_left fun typeVar _ => ?_
  rw [together.classes, groups.classes, groups'.classes, classesOn_append]

/-- Whether constraints can be added, and what the error is, does not depend on what is there. -/
theorem addAll_eq_error {obligations : Obligations} {constraints : List Constraint} {e : ResolutionError}
    (h : addAll classes obligations constraints = .error e) (other : Obligations) :
    addAll classes other constraints = .error e := by
  induction constraints generalizing obligations other with
  | nil => cases h
  | cons constraint rest ih =>
    rw [addAll, add] at h ⊢
    cases found : classes.get? constraint.typeClass with
    | none =>
      rw [found] at h
      exact h
    | some c =>
      rw [found] at h
      exact ih h _

/-- Two lists of constraints give what each of them gives, put together. -/
theorem ofConstraints_append (constraints more : List Constraint) :
    ofConstraints classes (constraints ++ more) = (do
      let first ← ofConstraints classes constraints
      let second ← ofConstraints classes more
      return first.append second) := by
  have parts : ofConstraints classes (constraints ++ more) = ofConstraints classes constraints >>= fun first =>
      addAll classes first more := addAll_append [] constraints more
  cases left : ofConstraints classes constraints with
  | error e => rw [parts, left]; rfl
  | ok first =>
    rw [left] at parts
    cases right : ofConstraints classes more with
    | error e => rw [parts]; exact addAll_eq_error right first
    | ok second =>
      have known := (addAll_succeeds_iff classes more []).mp ⟨second, right⟩
      obtain ⟨whole, added⟩ := (addAll_succeeds_iff classes more first).mpr known
      have together : ofConstraints classes (constraints ++ more) = .ok whole := parts.trans added
      rw [together, (groups_of_ofConstraints left).eq_append (groups_of_ofConstraints right)
        (groups_of_ofConstraints together)]
      rfl

/-! ## All constraints -/

/-- What is found for each element in turn, where something is. -/
theorem forall₂_filterMap {α β : Type} {f : α → Option β} {l : List α} (each : ∀ a ∈ l, ∃ b, f a = some b) :
    List.Forall₂ (fun b a => f a = some b) (l.filterMap f) l := by
  induction l with
  | nil => exact .nil
  | cons a rest ih =>
    rw [List.forall_mem_cons] at each
    obtain ⟨b, first⟩ := each.1
    rw [List.filterMap_cons_some first]
    exact .cons first (ih each.2)

/-- The classes under a variable are, in turn, those of the constraints on it. -/
theorem Groups.forall₂_of_mem {constraints : List Constraint} {obligations : Obligations}
    (groups : Groups classes constraints obligations)
    (known : ∀ constraint ∈ constraints, ∃ c, classes.get? constraint.typeClass = some c) {typeVar : String}
    {list : List TypeClass} (member : (typeVar, list) ∈ obligations) :
    List.Forall₂ (fun c constraint => classes.get? constraint.typeClass = some c) list
      (constraints.filter fun constraint => constraint.typeVar = typeVar) := by
  have found := groups.classes typeVar
  rw [Table.get?_of_mem groups.nodup member, Option.getD_some] at found
  rw [found]
  exact forall₂_filterMap fun constraint inside => known constraint (List.mem_of_mem_filter inside)

/-- Constraints that all name known classes are grouped by their variables without loss: the variables are in the order
in which they come first, and the classes of each are those of the constraints on it, in order and with repetitions. If
a class is not known, the first such constraint is the error, and it lists the classes that are known. The constraints of
two lists together are grouped as those of each, put together variable by variable. -/
theorem ofConstraints_groups (classes : Table String TypeClass) (constraints : List Constraint) :
    ((∀ constraint ∈ constraints, constraint.typeClass ∈ classes.keys) →
      ∃ obligations, ofConstraints classes constraints = .ok obligations ∧
        obligations.keys = (constraints.map Constraint.typeVar).eraseDups ∧
        (∀ typeVar list, (typeVar, list) ∈ obligations →
          List.Forall₂ (fun c constraint => classes.get? constraint.typeClass = some c) list
            (constraints.filter fun constraint => constraint.typeVar = typeVar)) ∧
        (obligations.map fun entry => entry.2.length).sum = constraints.length) ∧
      (∀ before constraint after, constraints = before ++ constraint :: after →
        (∀ earlier ∈ before, earlier.typeClass ∈ classes.keys) → constraint.typeClass ∉ classes.keys →
        ofConstraints classes constraints = .error (.unknownTypeClass constraint.typeClass classes.keys)) ∧
      ∀ more, ofConstraints classes (constraints ++ more) = (do
        let first ← ofConstraints classes constraints
        let second ← ofConstraints classes more
        return first.append second) := by
  refine ⟨?known, ?unknown, ofConstraints_append constraints⟩
  case known =>
    intro indexed
    have known : ∀ constraint ∈ constraints, ∃ c, classes.get? constraint.typeClass = some c :=
      fun constraint member => Table.mem_keys_iff.mp (indexed constraint member)
    obtain ⟨obligations, h⟩ := (addAll_succeeds_iff classes constraints []).mpr known
    have groups := groups_of_ofConstraints h
    exact ⟨obligations, h, groups.keys, fun typeVar list member => groups.forall₂_of_mem known member, groups.total⟩
  case unknown =>
    rintro before constraint after rfl known unknown
    exact addAll_of_unknown known unknown

/-- Constraints on two variables in turn, and the same with unknown classes behind them. -/
theorem ofConstraints_groups_interleaved :
    let classes := Environment.typeClasses [.functor, .monoid]
    let constraints : List Constraint := [⟨"Functor", "f"⟩, ⟨"Monoid", "a"⟩, ⟨"Monoid", "f"⟩]
    (∃ obligations, ofConstraints classes constraints = .ok obligations ∧ obligations.keys = ["f", "a"] ∧
        (obligations.map fun entry => entry.2.length).sum = 3) ∧
      ofConstraints classes (constraints ++ [⟨"Show", "a"⟩, ⟨"Eq", "b"⟩]) =
        .error (.unknownTypeClass "Show" ["Functor", "Monoid"]) := by
  have keys : (Environment.typeClasses [.functor, .monoid]).keys = ["Functor", "Monoid"] := by rfl
  have indexed : ∀ constraint ∈ ([⟨"Functor", "f"⟩, ⟨"Monoid", "a"⟩, ⟨"Monoid", "f"⟩] : List Constraint),
      constraint.typeClass ∈ (Environment.typeClasses [.functor, .monoid]).keys := by
    rw [keys]
    decide
  obtain ⟨obligations, h, order, -, total⟩ := (ofConstraints_groups _ _).1 indexed
  refine ⟨⟨obligations, h, order, total⟩, ?_⟩
  have unknown := (ofConstraints_groups (Environment.typeClasses [.functor, .monoid]) _).2.1 _ ⟨"Show", "a"⟩
    [⟨"Eq", "b"⟩] rfl indexed (by rw [keys]; decide)
  rwa [keys] at unknown

end HMSignature.Obligations
