import HMSignature.Proofs.Descriptor.Construct
/-!
# Renaming variables in types

A map on names renames the type variables and the variable operators of a type, at every depth; the names of fields and
of constructors are none of its business. Variables of two names may get one. Whatever is built from renamed parts is
then what is built from the parts, renamed, and types without variables stay as they are.

Results:
1. `Ty.rename_of_isGround`: types without variables;
2. `Descriptor.toTys_rename`, `Operator.apply_rename`, `Descriptor.record_rename`: the ways to build types.
-/

namespace HMSignature

/-! ## Renaming -/

/-- An operator with another name, if it is a variable. -/
def Operator.rename (ρ : String → String) : Operator → Operator
  | constructor c => constructor c
  | var name slots bound => var (ρ name) slots bound

namespace Ty

mutual

/-- A type with other names for its variables. -/
def rename (ρ : String → String) : Ty → Ty
  | operation op params => operation (op.rename ρ) (renameAll ρ params)
  | var name => var (ρ name)
  | record fields => record (renameFields ρ fields)

def renameAll (ρ : String → String) : List Ty → List Ty
  | [] => []
  | t :: rest => rename ρ t :: renameAll ρ rest

def renameFields (ρ : String → String) : List (String × Ty) → List (String × Ty)
  | [] => []
  | (name, t) :: rest => (name, rename ρ t) :: renameFields ρ rest

end

end Ty

/-- A descriptor with other names for its variables. -/
def Descriptor.rename (ρ : String → String) : Descriptor → Descriptor
  | operator op => operator (op.rename ρ)
  | type t => type (t.rename ρ)

/-! ## No variables -/

/-- An operator that is not a variable. -/
def Operator.isGround : Operator → Bool
  | constructor _ => true
  | var _ _ _ => false

namespace Ty

mutual

/-- A type without type variables and variable operators, at any depth. -/
def isGround : Ty → Bool
  | operation op params => op.isGround && allGround params
  | var _ => false
  | record fields => fieldsGround fields

def allGround : List Ty → Bool
  | [] => true
  | t :: rest => isGround t && allGround rest

def fieldsGround : List (String × Ty) → Bool
  | [] => true
  | (_, t) :: rest => isGround t && fieldsGround rest

end

end Ty

/-- A descriptor without type variables and variable operators. -/
def Descriptor.isGround : Descriptor → Bool
  | operator op => op.isGround
  | type t => t.isGround

variable {ρ : String → String}

theorem Operator.rename_of_isGround {op : Operator} (ground : op.isGround = true) : op.rename ρ = op := by
  cases op with
  | constructor c => rfl
  | var name slots bound => cases ground

namespace Ty

mutual

theorem rename_of_isGround {t : Ty} (ground : t.isGround = true) : t.rename ρ = t := by
  cases t with
  | operation op params =>
    rw [isGround, Bool.and_eq_true] at ground
    rw [rename, Operator.rename_of_isGround ground.1, renameAll_of_allGround ground.2]
  | var name => cases ground
  | record fields => rw [rename, renameFields_of_fieldsGround ground]

theorem renameAll_of_allGround {ts : List Ty} (ground : allGround ts = true) : renameAll ρ ts = ts := by
  cases ts with
  | nil => rfl
  | cons t rest =>
    rw [allGround, Bool.and_eq_true] at ground
    rw [renameAll, rename_of_isGround ground.1, renameAll_of_allGround ground.2]

theorem renameFields_of_fieldsGround {fields : List (String × Ty)} (ground : fieldsGround fields = true) :
    renameFields ρ fields = fields := by
  match fields with
  | [] => rfl
  | (name, t) :: rest =>
    rw [fieldsGround, Bool.and_eq_true] at ground
    rw [renameFields, rename_of_isGround ground.1, renameFields_of_fieldsGround ground.2]

end

theorem renameAll_eq_map (ts : List Ty) : renameAll ρ ts = ts.map (rename ρ) := by
  induction ts with
  | nil => rfl
  | cons t rest ih => rw [renameAll, ih, List.map_cons]

theorem renameFields_eq_map (fields : List (String × Ty)) :
    renameFields ρ fields = fields.map (Prod.map id (rename ρ)) := by
  induction fields with
  | nil => rfl
  | cons field rest ih => rw [renameFields, ih, List.map_cons]; rfl

theorem rename_array (element : Ty) : (array element).rename ρ = array (element.rename ρ) :=
  rfl

theorem rename_arrows (inputs : List Ty) (output : Ty) :
    (arrows inputs output).rename ρ = arrows (inputs.map (rename ρ)) (output.rename ρ) := by
  induction inputs with
  | nil => rfl
  | cons input rest ih => exact congrArg (arrow (input.rename ρ)) ih

end Ty

theorem Operator.arity_rename (op : Operator) : (op.rename ρ).arity = op.arity := by
  cases op <;> rfl

namespace Descriptor

theorem arity_rename (d : Descriptor) : (d.rename ρ).arity = d.arity := by
  cases d with
  | operator op => exact op.arity_rename
  | type t => rfl

theorem rename_of_isGround {d : Descriptor} (ground : d.isGround = true) : d.rename ρ = d := by
  cases d with
  | operator op => exact congrArg operator (Operator.rename_of_isGround ground)
  | type t => exact congrArg type (Ty.rename_of_isGround ground)

/-! ## Building from renamed parts -/

theorem toTy_rename {d : Descriptor} {t : Ty} (stands : d.toTy = .ok t) : (d.rename ρ).toTy = .ok (t.rename ρ) := by
  rcases toTy_eq_ok_iff.mp stands with rfl | ⟨c, rfl, -, rfl⟩
  · rfl
  · exact stands

theorem toTys_rename {ds : List Descriptor} {ts : List Ty} (stands : toTys ds = .ok ts) :
    toTys (ds.map (rename ρ)) = .ok (ts.map (Ty.rename ρ)) := by
  induction ds generalizing ts with
  | nil =>
    cases stands
    rfl
  | cons d rest ih =>
    obtain ⟨t, others, first, hothers, rfl⟩ := toTys_cons_eq_ok_iff.mp stands
    exact toTys_cons_eq_ok_iff.mpr ⟨t.rename ρ, others.map (Ty.rename ρ), toTy_rename first, ih hothers, rfl⟩

end Descriptor

theorem Operator.apply_rename {op : Operator} {ds : List Descriptor} {t : Ty} (applied : op.apply ds = .ok t) :
    (op.rename ρ).apply (ds.map (Descriptor.rename ρ)) = .ok (t.rename ρ) := by
  obtain ⟨ts, stands, filled, rfl⟩ := Operator.apply_eq_ok_iff.mp applied
  refine Operator.apply_eq_ok_iff.mpr ⟨ts.map (Ty.rename ρ), Descriptor.toTys_rename stands, ?_, ?_⟩
  · rw [List.length_map, filled, arity_rename]
  · rw [Ty.rename, Ty.renameAll_eq_map]

/-- The fields are a table of the same names. -/
theorem Descriptor.record_rename {items : List (String × Descriptor)} {t : Ty}
    (built : record (Table.ofList items) = .ok t) :
    record (Table.ofList (items.map (Prod.map id (rename ρ)))) = .ok (t.rename ρ) := by
  obtain ⟨ts, stands, rfl⟩ := record_eq_ok_iff.mp built
  have fields : Table.ofList (items.map (Prod.map id (rename ρ))) =
      (Table.ofList items).map (Prod.map id (rename ρ)) := (Table.map_ofList (rename ρ) items).symm
  have keys : Table.keys ((Table.ofList items).map (Prod.map id (rename ρ))) = (Table.ofList items).keys := by
    rw [Table.keys, Table.keys, List.map_map]
    rfl
  rw [fields]
  refine record_eq_ok_iff.mpr ⟨ts.map (Ty.rename ρ), ?_, ?_⟩
  · have parts : ((Table.ofList items).map (Prod.map id (rename ρ))).map (·.2) =
        ((Table.ofList items).map (·.2)).map (rename ρ) := by
      rw [List.map_map, List.map_map]
      rfl
    rw [parts]
    exact toTys_rename stands
  · rw [keys, Ty.rename, Ty.renameFields_eq_map, List.zip_map_right]

end HMSignature
