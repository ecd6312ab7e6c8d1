import HMSignature.Proofs.Descriptor.Fingerprint
import Mathlib.Data.List.Forall2
/-!
# Equality of descriptors is an equivalence

Two descriptors are equal exactly if their fingerprints are the same, whichever of them is asked, although every kind of
descriptor answers for itself and an operator without slots equals the type that it makes. All laws of equality come
from this. Descriptors that are grouped by their fingerprints are grouped by equality, then.

Results:
1. `Descriptor.equals_eq`: what a comparison answers;
2. `Descriptor.locate_concat`, `Descriptor.groupFrom_eq`: what is known while descriptors are grouped;
3. `Descriptor.equal_laws`: the laws of equality.
-/

namespace HMSignature.Descriptor

/-! ## Proper descriptors -/

/-- The constructor that a descriptor is, or that it applies. -/
def constructor? : Descriptor → Option Constructor
  | operator (.constructor c) => some c
  | type (.operation (.constructor c) _) => some c
  | _ => none

/-- A descriptor as it is made, where `register` has the constructor of each identity. Its operator is filled and the
fields of records have distinct names; and it is not a variable operator without slots, which has no type to stand
for. -/
structure Proper (register : Nat → Constructor) (d : Descriptor) : Prop where
  registered : ∀ c, d.constructor? = some c → register c.id = c
  distinct : d.Has Ty.Distinct
  saturated : ∀ (op : Operator) (params : List Ty), d = type (.operation op params) → params.length = op.arity
  notBare : ∀ (name : String) (bound : 0 ≤ 2), d ≠ operator (.var name 0 bound)

/-- The first descriptor says that it equals the second one. -/
def Equal (d d' : Descriptor) : Prop :=
  d.equals d' = .ok true

instance (d d' : Descriptor) : Decidable (d.Equal d') :=
  inferInstanceAs (Decidable (_ = _))

/-! ## What a comparison answers -/

section Answers

variable {register : Nat → Constructor}

/-- Equal operators have as many slots as each other. -/
theorem arity_eq_of_same {op op' : Operator} {params : List Ty} (proper : (operator op).Proper register)
    (proper' : (type (.operation op' params)).Proper register) (same : op'.same op = true) : op'.arity = op.arity := by
  cases op with
  | constructor c =>
    cases op' with
    | constructor c' =>
      have sameId : c'.id = c.id := beq_iff_eq.mp same
      rw [← proper.registered c rfl, ← proper'.registered c' rfl, sameId]
    | var name arity bound => cases same
  | var name arity bound =>
    cases op' with
    | constructor c' => cases same
    | var name' arity' bound' => exact beq_iff_eq.mp (Bool.and_eq_true_iff.mp same).2

/-- A type has the fingerprint of an operator only if the operator has no slots and the type is its own. -/
theorem fingerprint_eq_iff_of_operator {op : Operator} {t : Ty} (proper : (operator op).Proper register)
    (proper' : (type t).Proper register) :
    t.fingerprint = op.fingerprint ↔ op.arity = 0 ∧ t.same (.operation op []) = true := by
  rw [Ty.fingerprint_eq_operator_iff]
  constructor
  · rintro ⟨own, rfl, same⟩
    have filled : 0 = own.arity := proper'.saturated own [] rfl
    refine ⟨(arity_eq_of_same proper proper' same).symm.trans filled.symm, ?_⟩
    rw [Ty.same, same]
    rfl
  · rintro ⟨-, same⟩
    match t with
    | .operation own [] =>
      rw [Ty.same] at same
      exact ⟨own, rfl, (Bool.and_eq_true_iff.mp same).1⟩
    | .operation own (_ :: _) => simp [Ty.same, Ty.sameAll] at same
    | .var _ => cases same
    | .record _ => cases same

theorem Proper.notBare_operator {op : Operator} (proper : (operator op).Proper register) (name : String)
    (bound : 0 ≤ 2) : op ≠ .var name 0 bound :=
  fun same => proper.notBare name bound (congrArg operator same)

/-- An operator without slots stands for a type, unless it is variable. -/
theorem toTy_of_noSlots {op : Operator} (notBare : ∀ (name : String) (bound : 0 ≤ 2), op ≠ .var name 0 bound)
    (noSlots : op.arity = 0) : op.toTy = .ok (.operation op []) := by
  cases op with
  | constructor c => exact Operator.saturate_eq_ok_iff.mpr ⟨noSlots.symm, rfl⟩
  | var name arity bound =>
    cases (show arity = 0 from noSlots)
    exact absurd rfl (notBare name bound)

/-- A type asks an operator without slots for its own type. -/
theorem equals_type_operator {op : Operator} (notBare : ∀ (name : String) (bound : 0 ≤ 2), op ≠ .var name 0 bound)
    (t : Ty) : (type t).equals (operator op) = .ok (op.arity == 0 && t.same (.operation op [])) := by
  cases t with
  | operation own params =>
    rw [equals]
    by_cases noSlots : op.arity = 0
    · rw [if_pos noSlots, toTy_of_noSlots notBare noSlots, noSlots]
      rfl
    · rw [if_neg noSlots, beq_eq_false_iff_ne.mpr noSlots, Bool.false_and]
  | var name => exact congrArg Except.ok (Bool.and_false _).symm
  | record fields => exact congrArg Except.ok (Bool.and_false _).symm

/-- An operator without slots compares itself with the operator of a type without parameters. -/
theorem equals_operator_type {op : Operator} (notBare : ∀ (name : String) (bound : 0 ≤ 2), op ≠ .var name 0 bound)
    (t : Ty) : (operator op).equals (type t) = .ok (op.arity == 0 && t.same (.operation op [])) := by
  cases op with
  | constructor c =>
    cases t with
    | operation own params =>
      rw [equals]
      by_cases noSlots : c.extractors = []
      · have none : (Operator.constructor c).arity = 0 := congrArg List.length noSlots
        rw [if_pos (List.isEmpty_iff.mpr noSlots), none, Ty.same]
        cases params <;> rfl
      · have some : (Operator.constructor c).arity ≠ 0 := fun none => noSlots (List.eq_nil_of_length_eq_zero none)
        rw [if_neg (by simpa using noSlots), beq_eq_false_iff_ne.mpr some, Bool.false_and]
    | var name => exact congrArg Except.ok (Bool.and_false _).symm
    | record fields => exact congrArg Except.ok (Bool.and_false _).symm
  | var name arity bound =>
    have some : (Operator.var name arity bound).arity ≠ 0 := by
      rintro none
      cases (show arity = 0 from none)
      exact notBare name bound rfl
    rw [beq_eq_false_iff_ne.mpr some, Bool.false_and]
    cases t <;> rfl

theorem ok_eq_decide {answer : Bool} {p : Prop} [Decidable p] (h : answer = true ↔ p) :
    (.ok answer : Except BuildError Bool) = .ok (decide p) := by
  rw [Bool.eq_iff_iff.mpr (h.trans decide_eq_true_iff.symm)]

/-- A comparison answers whether the fingerprints are the same. -/
theorem equals_eq {d d' : Descriptor} (proper : d.Proper register) (proper' : d'.Proper register) :
    d.equals d' = .ok (decide (d.fingerprint = d'.fingerprint)) := by
  cases d with
  | operator op =>
    cases d' with
    | operator op' => exact ok_eq_decide (op.same_iff_fingerprint_eq op')
    | type t =>
      rw [equals_operator_type proper.notBare_operator]
      refine ok_eq_decide ?_
      rw [Bool.and_eq_true, beq_iff_eq, ← fingerprint_eq_iff_of_operator proper proper']
      exact eq_comm
  | type t =>
    cases d' with
    | operator op =>
      rw [equals_type_operator proper'.notBare_operator]
      refine ok_eq_decide ?_
      rw [Bool.and_eq_true, beq_iff_eq, ← fingerprint_eq_iff_of_operator proper' proper]
      rfl
    | type t' =>
      rw [equals_type]
      exact ok_eq_decide (t.same_iff_fingerprint_eq t' proper.distinct proper'.distinct)

theorem equal_iff {d d' : Descriptor} (proper : d.Proper register) (proper' : d'.Proper register) :
    d.Equal d' ↔ d.fingerprint = d'.fingerprint := by
  rw [Equal, equals_eq proper proper', ok_eq_ok_iff, eq_comm, decide_eq_true_iff]

end Answers

/-! ## Groups -/

/-- The position of the first descriptor that equals a new one. -/
def firstEqual? (ds : List Descriptor) (d : Descriptor) : Option Nat :=
  ds.findIdx? fun c => decide (c.Equal d)

/-- What is known after some descriptors: where the first one is that equals a new one. -/
structure Knows (register : Nat → Constructor) (known : List (Descriptor × Nat)) (before : List Descriptor) : Prop where
  proper : ∀ entry ∈ known, entry.1.Proper register
  locate_eq : ∀ d : Descriptor, d.Proper register → locate known d = .ok (firstEqual? before d)

section Groups

variable {register : Nat → Constructor} {known : List (Descriptor × Nat)} {before rest : List Descriptor}
variable {d : Descriptor}

/-- Looking only at descriptors with the same fingerprint misses none that is equal. -/
theorem locate_cons {c : Descriptor} (proper : c.Proper register) (proper' : d.Proper register) (position : Nat)
    (rest : List (Descriptor × Nat)) :
    locate ((c, position) :: rest) d = if c.Equal d then .ok (some position) else locate rest d := by
  rw [locate]
  by_cases same : c.fingerprint = d.fingerprint
  · have equal := (equal_iff proper proper').mpr same
    rw [if_pos (beq_iff_eq.mpr same), if_pos equal, show c.equals d = .ok true from equal]
    rfl
  · have differ : ¬c.Equal d := fun equal => same ((equal_iff proper proper').mp equal)
    rw [if_neg (by simpa using same), if_neg differ]

theorem locate_concat (all : ∀ entry ∈ known, entry.1.Proper register) {c : Descriptor} (proper : c.Proper register)
    (proper' : d.Proper register) {position : Nat} {found : Option Nat} (h : locate known d = .ok found) :
    locate (known ++ [(c, position)]) d = .ok (found.or (if c.Equal d then some position else none)) := by
  induction known with
  | nil =>
    cases h
    rw [List.nil_append, locate_cons proper proper']
    split <;> rfl
  | cons entry others ih =>
    obtain ⟨candidate, place⟩ := entry
    rw [List.forall_mem_cons] at all
    rw [locate_cons all.1 proper'] at h
    rw [List.cons_append, locate_cons all.1 proper']
    split at h
    · rename_i equal
      cases h
      rw [if_pos equal]
      rfl
    · rename_i differ
      rw [if_neg differ]
      exact ih all.2 h

theorem firstEqual?_concat (before : List Descriptor) (c d : Descriptor) :
    firstEqual? (before ++ [c]) d = (firstEqual? before d).or (if c.Equal d then some before.length else none) := by
  unfold firstEqual?
  rw [List.findIdx?_append, List.findIdx?_singleton]
  by_cases equal : c.Equal d <;> simp [equal]

/-- Nothing is learned from a descriptor that equals one before it. -/
theorem Knows.again (knows : Knows register known before) (all : ∀ d ∈ before, d.Proper register)
    (proper : d.Proper register) {position : Nat} (found : firstEqual? before d = some position) :
    Knows register known (before ++ [d]) := by
  refine ⟨knows.proper, fun d' proper' => ?_⟩
  rw [knows.locate_eq d' proper', firstEqual?_concat]
  cases other : firstEqual? before d' with
  | some i => rfl
  | none =>
    obtain ⟨c, member, equal⟩ : ∃ c ∈ before, c.Equal d := by
      have some : (firstEqual? before d).isSome = true := by rw [found]; rfl
      simpa [firstEqual?, List.findIdx?_isSome] using some
    -- What equals a descriptor that is known is known already.
    have differ : ¬d.Equal d' := by
      intro equal'
      have through : c.Equal d' := by
        rw [equal_iff (all c member) proper] at equal
        rw [equal_iff proper proper'] at equal'
        exact (equal_iff (all c member) proper').mpr (equal.trans equal')
      exact absurd through (by simpa using List.findIdx?_eq_none_iff.mp other c member)
    rw [if_neg differ]
    rfl

theorem Knows.new (knows : Knows register known before) (proper : d.Proper register) :
    Knows register (known ++ [(d, before.length)]) (before ++ [d]) := by
  refine ⟨List.forall_mem_append.mpr ⟨knows.proper, List.forall_mem_singleton.mpr proper⟩, fun d' proper' => ?_⟩
  rw [locate_concat knows.proper proper proper' (knows.locate_eq d' proper'), firstEqual?_concat]

/-- Each descriptor gets the position of the first one that equals it, among those before it and itself. -/
theorem groupFrom_eq (knows : Knows register known before) (all : ∀ d ∈ before ++ rest, d.Proper register) :
    groupFrom known before.length rest =
      .ok (rest.map fun d => (before ++ rest).findIdx fun c => decide (c.Equal d)) := by
  induction rest generalizing known before with
  | nil => rfl
  | cons d rest ih =>
    have whole : before ++ d :: rest = (before ++ [d]) ++ rest := by simp
    rw [whole] at all ⊢
    obtain ⟨properBefore, properRest⟩ := List.forall_mem_append.mp all
    obtain ⟨properBefore, properSelf⟩ := List.forall_mem_append.mp properBefore
    have proper := List.forall_mem_singleton.mp properSelf
    have length : before.length + 1 = (before ++ [d]).length := by simp
    have place : ((before ++ [d]) ++ rest).findIdx (fun c => decide (c.Equal d)) =
        (firstEqual? before d).getD before.length := by
      have self : d.Equal d := (equal_iff proper proper).mpr rfl
      have inFront := firstEqual?_concat before d d
      rw [if_pos self] at inFront
      rw [List.findIdx_eq_getD_findIdx?, List.findIdx?_append]
      change Option.getD ((firstEqual? (before ++ [d]) d).or _) _ = _
      rw [inFront]
      cases firstEqual? before d <;> rfl
    rw [groupFrom, knows.locate_eq d proper, ok_bind, List.map_cons, place, length]
    cases found : firstEqual? before d with
    | some position =>
      dsimp only
      rw [ih (knows.again properBefore proper found) all]
      rfl
    | none =>
      dsimp only
      rw [ih (knows.new proper) all]
      rfl

end Groups

/-! ## The laws of equality -/

theorem equal_type_iff {s t : Ty} : (type s).Equal (type t) ↔ s.same t = true := by
  rw [Equal, equals_type, ok_eq_ok_iff, eq_comm]

theorem sameAll_iff_forall₂ {ss ts : List Ty} :
    Ty.sameAll ss ts = true ↔ List.Forall₂ (fun s t => (type s).Equal (type t)) ss ts := by
  match ss, ts with
  | [], [] => simp [Ty.sameAll]
  | [], _ :: _ => simp [Ty.sameAll]
  | _ :: _, [] => simp [Ty.sameAll]
  | s :: ss, t :: ts => rw [Ty.sameAll, Bool.and_eq_true, sameAll_iff_forall₂, List.forall₂_cons, equal_type_iff]

/-- Fields of records have distinct names, so having the same names is having as many and no others. -/
theorem same_record_iff {fields fields' : List (String × Ty)} (h : (Ty.record fields).Distinct)
    (h' : (Ty.record fields').Distinct) :
    (Ty.record fields).same (.record fields') = true ↔
      (∀ name : String, name ∈ Table.keys fields ↔ name ∈ Table.keys fields') ∧
        ∀ (name : String) (s t : Ty), (name, s) ∈ fields → (name, t) ∈ fields' → s.same t = true := by
  rw [Ty.same_iff_fingerprint_eq _ _ h h', Ty.fingerprint_record_eq_iff h.1]
  have same_iff {name : String} {s t : Ty} (member : (name, s) ∈ fields) (member' : (name, t) ∈ fields') :
      s.same t = true ↔ s.fingerprint = t.fingerprint :=
    s.same_iff_fingerprint_eq t (Ty.fieldsDistinct_iff.mp h.2 _ member) (Ty.fieldsDistinct_iff.mp h'.2 _ member')
  constructor
  · rintro ⟨sameLength, inside⟩
    have found {name : String} {s : Ty} (member : (name, s) ∈ fields) :
        ∃ t, (name, t) ∈ fields' ∧ t.fingerprint = s.fingerprint :=
      Ty.mem_fieldFingerprints.mp (inside (Ty.mem_fieldFingerprints.mpr ⟨s, member, rfl⟩))
    have namesInside : Table.keys fields ⊆ Table.keys fields' := by
      intro name known
      obtain ⟨⟨_, s⟩, member, rfl⟩ := List.mem_map.mp known
      obtain ⟨t, member', -⟩ := found member
      exact List.mem_map.mpr ⟨_, member', rfl⟩
    have perm : (Table.keys fields).Perm (Table.keys fields') := by
      refine (List.subperm_of_subset h.1 namesInside).perm_of_length_le ?_
      rw [Table.keys, Table.keys, List.length_map, List.length_map, sameLength]
    refine ⟨fun name => perm.mem_iff, fun name s t member member' => (same_iff member member').mpr ?_⟩
    obtain ⟨t', inFields', same⟩ := found member
    cases Table.eq_of_mem_of_key_eq h'.1 inFields' member' rfl
    exact same.symm
  · rintro ⟨sameNames, sameTypes⟩
    have perm : (Table.keys fields).Perm (Table.keys fields') := (List.perm_ext_iff_of_nodup h.1 h'.1).mpr sameNames
    refine ⟨by simpa [Table.keys] using perm.length_eq, ?_⟩
    rintro ⟨name, f⟩ member
    obtain ⟨s, inFields, rfl⟩ := Ty.mem_fieldFingerprints.mp member
    obtain ⟨⟨_, t⟩, inFields', rfl⟩ := List.mem_map.mp ((sameNames name).mp (List.mem_map.mpr ⟨_, inFields, rfl⟩))
    have same := (same_iff inFields inFields').mp (sameTypes _ s t inFields inFields')
    exact Ty.mem_fieldFingerprints.mpr ⟨t, inFields', same.symm⟩

theorem equal_constructor_iff {register : Nat → Constructor} {c c' : Constructor} (known : register c.id = c)
    (known' : register c'.id = c') : (operator (.constructor c)).Equal (operator (.constructor c')) ↔ c = c' := by
  constructor
  · intro equal
    have sameId : c.id = c'.id := beq_iff_eq.mp (Except.ok.inj equal)
    rw [← known, ← known', sameId]
  · rintro rfl
    exact congrArg Except.ok (Operator.same_self _)

/-- The laws of equality, for all descriptors as they are made. A comparison never fails, and equality is an
equivalence. An operator without slots equals the type that it makes, and that type the operator. Applications are equal
if their operators and their parameters in turn are, records if they have the same names with equal types, and
constructors only if they are one. Equal descriptors have the same fingerprint, so that descriptors grouped by it are
grouped by equality, each with the first one that equals it. -/
theorem equal_laws (register : Nat → Constructor) :
    (∀ d d' : Descriptor, d.Proper register → d'.Proper register → ∃ answer, d.equals d' = .ok answer) ∧
    Equivalence (fun d d' : { d : Descriptor // d.Proper register } => d.1.Equal d'.1) ∧
    (∀ op : Operator, (operator op).Proper register → op.arity = 0 →
      ∃ t, op.toTy = .ok t ∧ (operator op).Equal (type t) ∧ (type t).Equal (operator op)) ∧
    (∀ (op op' : Operator) (params params' : List Ty),
      (type (.operation op params)).Equal (type (.operation op' params')) ↔
        (operator op).Equal (operator op') ∧ List.Forall₂ (fun t t' => (type t).Equal (type t')) params params') ∧
    (∀ fields fields' : List (String × Ty), (type (.record fields)).Proper register →
      (type (.record fields')).Proper register →
      ((type (.record fields)).Equal (type (.record fields')) ↔
        (∀ name : String, name ∈ Table.keys fields ↔ name ∈ Table.keys fields') ∧
          ∀ (name : String) (t t' : Ty), (name, t) ∈ fields → (name, t') ∈ fields' → (type t).Equal (type t'))) ∧
    (∀ c c' : Constructor, (operator (.constructor c)).Proper register → (operator (.constructor c')).Proper register →
      ((operator (.constructor c)).Equal (operator (.constructor c')) ↔ c = c')) ∧
    (∀ d d' : Descriptor, d.Proper register → d'.Proper register → d.Equal d' → d.fingerprint = d'.fingerprint) ∧
    ∀ ds : List Descriptor, (∀ d ∈ ds, d.Proper register) →
      group ds = .ok (ds.map fun d => ds.findIdx fun c => decide (c.Equal d)) := by
  refine ⟨?decided, ?equivalence, ?nullary, ?applications, ?records, ?constructors, ?fingerprints, ?groups⟩
  case decided => exact fun d d' proper proper' => ⟨_, equals_eq proper proper'⟩
  case equivalence =>
    refine ⟨fun d => (equal_iff d.2 d.2).mpr rfl, fun {d d'} equal => ?_, fun {d d' d''} equal equal' => ?_⟩
    · exact (equal_iff d'.2 d.2).mpr ((equal_iff d.2 d'.2).mp equal).symm
    · exact (equal_iff d.2 d''.2).mpr (((equal_iff d.2 d'.2).mp equal).trans ((equal_iff d'.2 d''.2).mp equal'))
  case nullary =>
    intro op proper noSlots
    have itself : (op.arity == 0 && (Ty.operation op []).same (.operation op [])) = true := by
      rw [noSlots, Ty.same_self (.operation op []) trivial]
      rfl
    refine ⟨.operation op [], toTy_of_noSlots proper.notBare_operator noSlots, ?_, ?_⟩
    · exact (equals_operator_type proper.notBare_operator _).trans (congrArg Except.ok itself)
    · exact (equals_type_operator proper.notBare_operator _).trans (congrArg Except.ok itself)
  case applications =>
    intro op op' params params'
    rw [equal_type_iff, Ty.same, Bool.and_eq_true, sameAll_iff_forall₂]
    exact and_congr_left fun _ => (ok_eq_ok_iff.trans eq_comm).symm
  case records =>
    intro fields fields' proper proper'
    rw [equal_type_iff, same_record_iff proper.distinct proper'.distinct]
    simp only [equal_type_iff]
  case constructors =>
    intro c c' proper proper'
    exact equal_constructor_iff (proper.registered c rfl) (proper'.registered c' rfl)
  case fingerprints => exact fun d d' proper proper' equal => (equal_iff proper proper').mp equal
  case groups =>
    intro ds all
    have knows : Knows register [] [] := ⟨by simp, fun d _ => rfl⟩
    exact groupFrom_eq knows all

/-- Numbers as an operator and as a type, a record in two orders, and a variable operator between them. -/
theorem equal_laws_mixed :
    ∃ ds : List Descriptor,
      ds = [operator (.constructor Builtin.number), type (.operation (.constructor Builtin.number) []),
        type (.record [("x", .var "a"), ("y", .var "b")]), operator (.var "f" 1 (by decide)),
        type (.record [("y", .var "b"), ("x", .var "a")])] ∧
      (∀ d ∈ ds, d.Proper fun _ => Builtin.number) ∧ group ds = .ok [0, 0, 2, 3, 2] ∧
      (type (.record [("x", .var "a"), ("y", .var "b")])).fingerprint =
        (type (.record [("y", .var "b"), ("x", .var "a")])).fingerprint := by
  have number : (operator (.constructor Builtin.number)).Proper fun _ => Builtin.number :=
    ⟨by rintro c ⟨⟩; rfl, trivial, nofun, nofun⟩
  have numbers : (type (.operation (.constructor Builtin.number) [])).Proper fun _ => Builtin.number :=
    ⟨by rintro c ⟨⟩; rfl, trivial, by rintro op params ⟨⟩; rfl, nofun⟩
  have pair : (type (.record [("x", .var "a"), ("y", .var "b")])).Proper fun _ => Builtin.number :=
    ⟨nofun, ⟨by decide, trivial, trivial, trivial⟩, nofun, nofun⟩
  have unary : (operator (.var "f" 1 (by decide))).Proper fun _ => Builtin.number :=
    ⟨nofun, trivial, nofun, by rintro name bound ⟨⟩⟩
  have turned : (type (.record [("y", .var "b"), ("x", .var "a")])).Proper fun _ => Builtin.number :=
    ⟨nofun, ⟨by decide, trivial, trivial, trivial⟩, nofun, nofun⟩
  have laws := equal_laws fun _ => Builtin.number
  have all : ∀ d ∈ [operator (.constructor Builtin.number), type (.operation (.constructor Builtin.number) []),
      type (.record [("x", .var "a"), ("y", .var "b")]), operator (.var "f" 1 (by decide)),
      type (.record [("y", .var "b"), ("x", .var "a")])], d.Proper fun _ => Builtin.number := by
    simp only [List.forall_mem_cons]
    exact ⟨number, numbers, pair, unary, turned, by simp⟩
  obtain ⟨-, -, -, -, -, -, fingerprints, groups⟩ := laws
  exact ⟨_, rfl, all, groups _ all, fingerprints _ _ pair turned rfl⟩

end HMSignature.Descriptor
