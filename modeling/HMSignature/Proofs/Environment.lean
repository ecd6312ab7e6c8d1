import HMSignature.Environment
import HMSignature.Proofs.Table
import Mathlib.Data.List.Induction
import Mathlib.Data.List.Nodup
import Mathlib.Logic.Relation
/-!
# What names stand for

An environment is read by name, and a name stands for the last item of that name. So there are changes of an environment
that cannot be seen by someone who reads it by certain names only: another order of items whose names are distinct, an
item of another name, and an item that a later one of the same name covers.

Results:
1. `get?_types`, `get?_typeClasses`: a name stands for the last item of that name;
2. `lastNamed_eq_some_iff`: what the last item of a name is;
3. `lastNamed_of_eqvGen`: changes as above, one after the other, forwards and backwards, leave what the names stand for.
-/

namespace HMSignature

namespace Environment

variable {α : Type} (name : α → String)

/-- The last item of a name. -/
def lastNamed (wanted : String) (items : List α) : Option α :=
  items.reverse.find? fun item => name item = wanted

/-- A change of a list of items that cannot be seen through the names that are used. -/
inductive Change (used : String → Prop) : List α → List α → Prop
  | reorder {items items' : List α} : items.Perm items' → (items.map name).Nodup → Change used items items'
  | addUnused {front back : List α} {item : α} : ¬used (name item) → Change used (front ++ back) (front ++ item :: back)
  | addCovered {front between back : List α} {item later : α} : name item = name later →
      Change used (front ++ between ++ later :: back) (front ++ item :: between ++ later :: back)

variable {name}

/-! ## The last item of a name -/

/-- A list that is read by name gives the last item of a name. -/
theorem get?_ofNamed (wanted : String) (items : List α) :
    (Table.ofList (items.map fun item => (name item, item))).get? wanted = lastNamed name wanted items := by
  induction items using List.reverseRecOn with
  | nil => rfl
  | append_singleton items item ih =>
    rw [List.map_append, Table.ofList, List.map_singleton, Table.insertAll_concat, Table.get?_insert,
      ← Table.ofList, ih, lastNamed, lastNamed, List.reverse_append, List.reverse_singleton, List.singleton_append,
      List.find?_cons]
    by_cases same : name item = wanted <;> simp [same]

theorem get?_types (wanted : String) (items : List Descriptor) :
    (types items).get? wanted = lastNamed Descriptor.shortName wanted items :=
  get?_ofNamed wanted items

theorem get?_typeClasses (wanted : String) (items : List TypeClass) :
    (typeClasses items).get? wanted = lastNamed TypeClass.shortName wanted items :=
  get?_ofNamed wanted items

theorem lastNamed_append (wanted : String) (front back : List α) :
    lastNamed name wanted (front ++ back) = (lastNamed name wanted back).or (lastNamed name wanted front) := by
  rw [lastNamed, List.reverse_append, List.find?_append]
  rfl

theorem lastNamed_cons (wanted : String) (item : α) (back : List α) :
    lastNamed name wanted (item :: back) =
      (lastNamed name wanted back).or (if name item = wanted then some item else none) := by
  rw [← List.singleton_append, lastNamed_append]
  by_cases same : name item = wanted <;> simp [lastNamed, same]

/-- The last item of a name has it, and none behind it does. -/
theorem lastNamed_eq_some_iff {wanted : String} {items : List α} {item : α} :
    lastNamed name wanted items = some item ↔
      ∃ before after, items = before ++ item :: after ∧ name item = wanted ∧
        ∀ later ∈ after, name later ≠ wanted := by
  rw [lastNamed, List.find?_eq_some_iff_append]
  constructor
  · rintro ⟨named, after, before, split, others⟩
    refine ⟨before.reverse, after.reverse, ?_, by simpa using named, fun later member => ?_⟩
    · rw [← List.reverse_reverse items, split]
      simp
    · simpa using others later (List.mem_reverse.mp member)
  · rintro ⟨before, after, rfl, rfl, others⟩
    refine ⟨by simp, after.reverse, before.reverse, by simp, fun later member => ?_⟩
    simpa using others later (List.mem_reverse.mp member)

/-- Of items with distinct names every one is the last of its name. -/
theorem lastNamed_eq_some_iff_of_nodup {items : List α} (distinct : (items.map name).Nodup) {wanted : String}
    {item : α} :
    lastNamed name wanted items = some item ↔ item ∈ items ∧ name item = wanted := by
  constructor
  · intro found
    have member := List.mem_of_find?_eq_some found
    exact ⟨List.mem_reverse.mp member, by simpa using List.find?_some found⟩
  · rintro ⟨member, rfl⟩
    cases found : lastNamed name (name item) items with
    | none =>
      have absent := List.find?_eq_none.mp found item (List.mem_reverse.mpr member)
      simp at absent
    | some other =>
      have inItems := List.mem_reverse.mp (List.mem_of_find?_eq_some found)
      have same : name other = name item := by simpa using List.find?_some found
      rw [List.inj_on_of_nodup_map distinct inItems member same]

/-! ## Changes that cannot be seen -/

theorem lastNamed_of_change {used : String → Prop} {items items' : List α} (change : Change name used items items')
    {wanted : String} (isUsed : used wanted) : lastNamed name wanted items = lastNamed name wanted items' := by
  cases change with
  | reorder perm distinct =>
    have distinct' := (perm.map name).nodup_iff.mp distinct
    refine Option.ext fun item => ?_
    rw [lastNamed_eq_some_iff_of_nodup distinct, lastNamed_eq_some_iff_of_nodup distinct', perm.mem_iff]
  | @addUnused front back item unused =>
    have other : name item ≠ wanted := by
      rintro rfl
      exact unused isUsed
    rw [lastNamed_append, lastNamed_append, lastNamed_cons, if_neg other, Option.or_none]
  | @addCovered front between back item later same =>
    simp only [lastNamed_append, lastNamed_cons, same]
    -- Of the name of both items the later one is found first, and any other name passes both.
    by_cases covered : name later = wanted <;> simp [covered]

theorem lastNamed_of_eqvGen {used : String → Prop} {items items' : List α}
    (changes : Relation.EqvGen (Change name used) items items') {wanted : String} (isUsed : used wanted) :
    lastNamed name wanted items = lastNamed name wanted items' := by
  induction changes with
  | rel _ _ change => exact lastNamed_of_change change isUsed
  | refl => rfl
  | symm _ _ _ ih => exact ih.symm
  | trans _ _ _ _ _ ih ih' => exact ih.trans ih'

end Environment

end HMSignature
