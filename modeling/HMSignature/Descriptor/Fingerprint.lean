import HMSignature.Descriptor.Construct
/-!
# Grouping descriptors

To group many descriptors by equality, each gets a fingerprint, and only descriptors with one fingerprint are compared.
The fingerprint of a nullary type is the one of its operator, and the fields of a record are put in the order of their
names, so equal descriptors have equal fingerprints.
-/

namespace HMSignature

/-- What equal descriptors have in common. -/
inductive Fingerprint where
  | constructor (id : Nat)
  | variableOperator (name : String) (arity : Nat)
  | applied (op : Fingerprint) (params : List Fingerprint)
  | var (name : String)
  | record (fields : List (String × Fingerprint))
deriving Repr

namespace Fingerprint

mutual

/-- Whether two fingerprints are the same. -/
def same : Fingerprint → Fingerprint → Bool
  | constructor id, constructor id' => id == id'
  | variableOperator name arity, variableOperator name' arity' => name == name' && arity == arity'
  | applied op params, applied op' params' => same op op' && sameAll params params'
  | var name, var name' => name == name'
  | record fields, record fields' => sameFields fields fields'
  | _, _ => false

def sameAll : List Fingerprint → List Fingerprint → Bool
  | [], [] => true
  | f :: rest, f' :: rest' => same f f' && sameAll rest rest'
  | _, _ => false

def sameFields : List (String × Fingerprint) → List (String × Fingerprint) → Bool
  | [], [] => true
  | (name, f) :: rest, (name', f') :: rest' => name == name' && same f f' && sameFields rest rest'
  | _, _ => false

end

mutual

theorem same_iff (f f' : Fingerprint) : f.same f' = true ↔ f = f' := by
  cases f with
  | constructor id => cases f' <;> simp [same]
  | variableOperator name arity => cases f' <;> simp [same]
  | applied op params =>
    cases f' with
    | applied op' params' => simp [same, same_iff op op', sameAll_iff params params']
    | _ => simp [same]
  | var name => cases f' <;> simp [same]
  | record fields =>
    cases f' with
    | record fields' => simp [same, sameFields_iff fields fields']
    | _ => simp [same]

theorem sameAll_iff (fs fs' : List Fingerprint) : sameAll fs fs' = true ↔ fs = fs' := by
  match fs, fs' with
  | [], [] => simp [sameAll]
  | [], _ :: _ => simp [sameAll]
  | _ :: _, [] => simp [sameAll]
  | f :: rest, f' :: rest' => simp [sameAll, same_iff f f', sameAll_iff rest rest']

theorem sameFields_iff (fs fs' : List (String × Fingerprint)) : sameFields fs fs' = true ↔ fs = fs' := by
  match fs, fs' with
  | [], [] => simp [sameFields]
  | [], _ :: _ => simp [sameFields]
  | _ :: _, [] => simp [sameFields]
  | (name, f) :: rest, (name', f') :: rest' => simp [sameFields, same_iff f f', sameFields_iff rest rest']

end

instance : DecidableEq Fingerprint :=
  fun f f' => decidable_of_iff (f.same f' = true) (same_iff f f')

end Fingerprint

def Operator.fingerprint : Operator → Fingerprint
  | constructor c => .constructor c.id
  | var name arity _ => .variableOperator name arity

namespace Ty

mutual

def fingerprint : Ty → Fingerprint
  | operation op [] => op.fingerprint
  | operation op (first :: rest) =>
      .applied op.fingerprint (fingerprint first :: fingerprints rest)
  | var name => .var name
  | record fields => .record ((fieldFingerprints fields).mergeSort fun a b => a.1 ≤ b.1)

def fingerprints : List Ty → List Fingerprint
  | [] => []
  | t :: rest => fingerprint t :: fingerprints rest

def fieldFingerprints : List (String × Ty) → List (String × Fingerprint)
  | [] => []
  | (name, t) :: rest => (name, fingerprint t) :: fieldFingerprints rest

end

end Ty

namespace Descriptor

def fingerprint : Descriptor → Fingerprint
  | operator op => op.fingerprint
  | type t => t.fingerprint

/-- The position of the first of the known descriptors that equals a new one, asked of the known ones. -/
def locate (known : List (Descriptor × Nat)) (d : Descriptor) : Except BuildError (Option Nat) :=
  match known with
  | [] => .ok none
  | (candidate, position) :: rest =>
      if candidate.fingerprint == d.fingerprint then do
        if ← candidate.equals d then return some position
        locate rest d
      else locate rest d

/-- For each descriptor from a position on, the position of the first one that it equals. -/
def groupFrom (known : List (Descriptor × Nat)) (position : Nat) :
    List Descriptor → Except BuildError (List Nat)
  | [] => .ok []
  | d :: rest => do
      match ← locate known d with
      | some first => return first :: (← groupFrom known (position + 1) rest)
      | none => return position :: (← groupFrom (known ++ [(d, position)]) (position + 1) rest)

/-- For each descriptor the position of the first one that it equals. -/
def group (descriptors : List Descriptor) : Except BuildError (List Nat) :=
  groupFrom [] 0 descriptors

end Descriptor

end HMSignature
