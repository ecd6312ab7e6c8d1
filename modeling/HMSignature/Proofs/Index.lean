import HMSignature.Proofs.Descriptor.Construct
import HMSignature.Proofs.Environment
/-!
# Items by their short names

An index asks every item for its name. Most items have one of their own. An operator with slots is applied to unknown
types first, which could fail, but does not: there are as many of them as slots, and each is a type. So the name is the
last segment of the full name in any case, and an index of items is the table that they make under these names.

Results:
1. `isLastSegment_iff`: what a short name is;
2. `Descriptor.indexName_eq`: every descriptor has its short name, also where it is asked for with unknown types;
3. `Environment.indexing_of_named`, `Environment.index_last_wins`: what an index is.
-/

namespace HMSignature

/-! ## Short names -/

/-- What stands behind the last slash of a name, or the whole name if there is no slash in it. -/
def IsLastSegment (segment name : String) : Prop :=
  '/' ∉ segment.toList ∧ (name = segment ∨ ∃ scope, name = scope ++ "/" ++ segment)

/-- A name has one last segment. -/
theorem isLastSegment_iff {segment name : String} : IsLastSegment segment name ↔ segment = shortName name := by
  constructor
  · rintro ⟨plain, rfl | ⟨scope, rfl⟩⟩
    · exact (shortName_of_no_slash plain).symm
    · exact (shortName_append plain).symm
  · rintro rfl
    by_cases slashed : '/' ∈ name.toList.reverse
    · -- From the end of the name its last slash is the first one.
      obtain ⟨back, front, split, plain⟩ := List.eq_append_cons_of_mem slashed
      have whole : name = String.ofList front.reverse ++ "/" ++ String.ofList back.reverse := by
        rw [← String.toList_inj, ← List.reverse_inj, split]
        simp
      have plain' : '/' ∉ (String.ofList back.reverse).toList := by simpa using plain
      rw [whole, shortName_append plain']
      exact ⟨plain', .inr ⟨_, rfl⟩⟩
    · rw [List.mem_reverse] at slashed
      rw [shortName_of_no_slash slashed]
      exact ⟨slashed, .inl rfl⟩

namespace Descriptor

/-- Unknown types fill any operator. -/
theorem exists_apply_unknown (op : Operator) :
    ∃ params, op.apply (List.replicate op.arity (operator (.constructor Builtin.unknown))) =
      .ok (.operation op params) := by
  have all : ∀ d ∈ List.replicate op.arity (operator (.constructor Builtin.unknown)), d.Stands := by
    intro d member
    rw [List.eq_of_mem_replicate member]
    exact ⟨_, toTy_eq_ok_iff.mpr (.inr ⟨Builtin.unknown, rfl, rfl, rfl⟩)⟩
  obtain ⟨t, applied⟩ := exists_apply all List.length_replicate.symm
  obtain ⟨params, -, -, rfl⟩ := Operator.apply_eq_ok_iff.mp applied
  exact ⟨params, applied⟩

theorem indexName_eq (d : Descriptor) : d.indexName = .ok d.shortName := by
  cases d with
  | type t => rfl
  | operator op =>
    rw [indexName, completed]
    split
    · rfl
    · obtain ⟨params, applied⟩ := exists_apply_unknown op
      rw [applied]
      rfl

end Descriptor

namespace Environment

variable {α : Type}

/-! ## Indexes -/

/-- The tables that indexing gives, for items of which each has a name and gives another one to be indexed under. -/
structure Indexing (indexName : α → Except BuildError String) (name : α → String)
    (table : List α → Table String α) : Prop where
  /-- Indexing never fails. -/
  succeeds : ∀ items : List α, index indexName items = .ok (table items)
  /-- An item is indexed under the last segment of its name. -/
  named : ∀ item : α, indexName item = .ok (shortName (name item)) ∧ IsLastSegment (shortName (name item)) (name item)
  /-- The keys are the short names, each in the place where it comes first. -/
  keys : ∀ items : List α, (table items).keys = (items.map fun item => shortName (name item)).eraseDups
  /-- Under a key is the last item with that short name. -/
  values : ∀ (items : List α) (key : String) (item : α), (table items).get? key = some item ↔
    ∃ before after, items = before ++ item :: after ∧ shortName (name item) = key ∧
      ∀ later ∈ after, shortName (name later) ≠ key
  /-- The index of two lists is the one of the first list, updated in order by the one of the second. -/
  append : ∀ items more : List α, table (items ++ more) = (table items).insertAll (table more)

/-- Items that give their names without fail are written one after the other. -/
theorem indexInto_eq {indexName : α → Except BuildError String} {name : α → String}
    (named : ∀ item, indexName item = .ok (name item)) (table : Table String α) (items : List α) :
    indexInto indexName table items = .ok (table.insertAll (items.map fun item => (name item, item))) := by
  induction items generalizing table with
  | nil => rfl
  | cons item rest ih =>
    rw [indexInto, named, ok_bind, ih]
    rfl

theorem indexing_of_named {indexName : α → Except BuildError String} {name : α → String}
    (named : ∀ item, indexName item = .ok (shortName (name item))) :
    Indexing indexName name fun items => Table.ofList (items.map fun item => (shortName (name item), item)) where
  succeeds items := indexInto_eq named [] items
  named item := ⟨named item, isLastSegment_iff.mpr rfl⟩
  keys items := by
    rw [Table.keys_ofList, List.map_map]
    rfl
  values items key item := by rw [get?_ofNamed, lastNamed_eq_some_iff]
  append items more := by rw [List.map_append, Table.ofList_append]

/-- Types and type classes are indexed by the last segments of their names. Indexing never fails; of items with one
short name the first one gives the place and the last one the value. -/
theorem index_last_wins :
    Indexing Descriptor.indexName Descriptor.name types ∧ Indexing TypeClass.indexName TypeClass.name typeClasses :=
  ⟨indexing_of_named Descriptor.indexName_eq, indexing_of_named fun _ => rfl⟩

/-- A list type of one's own takes the place of the built-in one. -/
example :
    let own : Descriptor := .operator (.constructor ⟨15, "own/Array", "", Builtin.array.test, [.elements], by simp⟩)
    types [.operator (.constructor Builtin.array), .type (.var "a"), own] = [("Array", own), ("a", .type (.var "a"))] :=
  rfl

end Environment

end HMSignature
