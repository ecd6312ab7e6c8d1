import HMSignature.CommandLine.Sources
import HMSignature.Proofs.Except
import HMSignature.Proofs.Table
import Mathlib.Data.List.Forall2
/-!
# What sources add

Sources are loaded one after the other, and each adds what it has in the order of the names. So what a signature can
refer to is first the default and then the sources in the order in which they are named.

Results:
1. `isListing_inOrder` and `IsListing.eq_inOrder`: a source adds its attributes in the one order of their names;
2. `Sources.loadAll_of_mapM`: what is there after all sources have been loaded.
-/

namespace HMSignature.CommandLine

/-- The attributes of a source, each once, in the order of their names. -/
structure IsListing (attributes listing : List (String × Attribute)) : Prop where
  ordered : listing.Pairwise fun a b => a.1 < b.1
  complete : ∀ entry, entry ∈ listing ↔ entry ∈ Table.ofList attributes

/-- The order in which a source adds its attributes. -/
def inOrder (attributes : List (String × Attribute)) : List (String × Attribute) :=
  (Table.ofList attributes).mergeSort fun a b => a.1 ≤ b.1

theorem isListing_inOrder (attributes : List (String × Attribute)) : IsListing attributes (inOrder attributes) := by
  refine ⟨?_, fun entry => List.mem_mergeSort⟩
  have perm : (Table.keys (inOrder attributes)).Perm (Table.keys (Table.ofList attributes)) :=
    (List.mergeSort_perm _ _).map _
  have distinct : (inOrder attributes).Pairwise fun a b => a.1 ≠ b.1 :=
    List.pairwise_map.mp (perm.nodup_iff.mpr (Table.nodup_keys_ofList attributes))
  refine ((Table.pairwise_mergeSort _).and distinct).imp ?_
  rintro a b ⟨le, ne⟩
  exact String.not_le.mp fun ge => ne (String.le_antisymm le ge)

/-- There is only one such order. -/
theorem IsListing.eq_inOrder {attributes listing : List (String × Attribute)} (h : IsListing attributes listing) :
    listing = inOrder attributes := by
  have nodup : ∀ {l : List (String × Attribute)}, l.Pairwise (fun a b => a.1 < b.1) → l.Nodup := by
    intro l ordered
    refine ordered.imp ?_
    rintro a _ lt rfl
    exact String.lt_irrefl _ lt
  have ordered := (isListing_inOrder attributes).ordered
  have perm : listing.Perm (inOrder attributes) :=
    (List.perm_ext_iff_of_nodup (nodup h.ordered) (nodup ordered)).mpr fun entry =>
      (h.complete entry).trans ((isListing_inOrder attributes).complete entry).symm
  refine perm.eq_of_pairwise ?_ h.ordered ordered
  intro a b _ _ lt gt
  exact absurd gt (String.lt_asymm lt)

theorem eq_map_inOrder {modules listings : List (List (String × Attribute))}
    (listed : List.Forall₂ IsListing modules listings) : listings = modules.map inOrder := by
  induction listed with
  | nil => rfl
  | cons first _ ih => rw [List.map_cons, first.eq_inOrder, ih]

/-- The listed attributes of one sort, source by source. -/
def added {α : Type} (sort? : Attribute → Option α) (listings : List (List (String × Attribute))) : List α :=
  (listings.flatten.map (·.2)).filterMap sort?

namespace Catalog

theorem added_cons {α : Type} (sort? : Attribute → Option α) (listing : List (String × Attribute))
    (listings : List (List (String × Attribute))) :
    added sort? (listing :: listings) = (listing.map (·.2)).filterMap sort? ++ added sort? listings := by
  rw [added, added, List.flatten_cons, List.map_append, List.filterMap_append]

/-- The sources that extend a catalog come behind it, one after the other. -/
theorem foldl_extend (catalog : Catalog) (modules : List (List (String × Attribute))) :
    modules.foldl extend catalog =
      ⟨catalog.environment ++ added type? (modules.map inOrder),
        catalog.typeClasses ++ added typeClass? (modules.map inOrder)⟩ := by
  induction modules generalizing catalog with
  | nil =>
    rw [List.map_nil, added, added, List.flatten_nil, List.map_nil, List.filterMap_nil, List.filterMap_nil,
      List.append_nil, List.append_nil]
    rfl
  | cons first rest ih =>
    rw [List.foldl_cons, ih, extend, List.map_cons, added_cons, added_cons, ← List.append_assoc, ← List.append_assoc]
    rfl

end Catalog

/-- Loading sources into a catalog is loading them and then adding what they have. -/
theorem Sources.loadAll_eq (sources : Sources) (catalog : Catalog) (references : List String) :
    sources.loadAll catalog references = do
      let modules ← references.mapM sources.load
      return modules.foldl Catalog.extend catalog := by
  induction references generalizing catalog with
  | nil => rfl
  | cons reference rest ih => simp [loadAll, ih, List.mapM_cons]

/-- What is there after sources have been loaded. -/
theorem Sources.loadAll_of_mapM {sources : Sources} {typeClasses : List TypeClass} {references : List String}
    {modules listings : List (List (String × Attribute))} {first next : Nat}
    (importable : (references.mapM sources.load).run first = .ok (modules, next))
    (listed : List.Forall₂ IsListing modules listings) :
    (sources.loadAll (.default typeClasses) references).run first =
      .ok (⟨Environment.default ++ added Catalog.type? listings,
        typeClasses ++ added Catalog.typeClass? listings⟩, next) := by
  rw [loadAll_eq, StateT.run_bind, importable, ok_bind, eq_map_inOrder listed]
  exact congrArg (fun catalog => Except.ok (catalog, next)) (Catalog.foldl_extend _ modules)

end HMSignature.CommandLine
