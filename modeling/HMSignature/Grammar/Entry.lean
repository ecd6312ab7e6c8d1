/-!
# The tree of a signature

A tree shows the shape of a type; its names are not resolved yet. What the children of a node mean depends on its
kind: the parameters of an application, the segments of a function, the element of a list, the fields of a record or
the type of a field.
-/

namespace HMSignature.Grammar

/-- What a node stands for. A tree from elsewhere may also hold a node of another kind, known by its label only. -/
inductive Kind where
  /-- A type by its name, with the types it is applied to. -/
  | constructor
  /-- A function, segment by segment. -/
  | function
  | list
  | record
  | field
  /-- A variable that is applied to types. -/
  | constrained
  | var
  /-- The empty pair of brackets. -/
  | thunk
  | other (label : String)
deriving DecidableEq, Repr

namespace Kind

/-- The name of a kind. -/
def label : Kind → String
  | constructor => "typeConstructor"
  | function => "function"
  | list => "list"
  | record => "record"
  | field => "field"
  | constrained => "constrainedType"
  | var => "typevar"
  | thunk => "thunk"
  | other label => label

/-- The kind of a name. -/
def ofLabel (label : String) : Kind :=
  if label = "typeConstructor" then constructor
  else if label = "function" then function
  else if label = "list" then list
  else if label = "record" then record
  else if label = "field" then field
  else if label = "constrainedType" then constrained
  else if label = "typevar" then var
  else if label = "thunk" then thunk
  else other label

theorem label_ofLabel (label : String) : (ofLabel label).label = label := by
  simp only [ofLabel]
  repeat' split
  all_goals simp_all [Kind.label]

end Kind

/-- A node with its text, which is empty for the kinds that have no name, and its children. -/
inductive Entry where
  | node (kind : Kind) (text : String) (children : List Entry)
deriving Repr

namespace Entry

def kind : Entry → Kind
  | node kind _ _ => kind

def text : Entry → String
  | node _ text _ => text

def children : Entry → List Entry
  | node _ _ children => children

instance : Inhabited Entry := ⟨node .thunk "" []⟩

/-! ## Nodes of each kind -/

def constructor (name : String) (params : List Entry) : Entry :=
  node .constructor name params

def var (name : String) : Entry :=
  node .var name []

def constrained (name : String) (params : List Entry) : Entry :=
  node .constrained name params

def function (segments : List Entry) : Entry :=
  node .function "" segments

def list (element : Entry) : Entry :=
  node .list "" [element]

def record (fields : List Entry) : Entry :=
  node .record "" fields

def field (name : String) (type : Entry) : Entry :=
  node .field name [type]

def thunk : Entry :=
  node .thunk "" []

/-- Segments joined by arrows: a single one stands for itself. -/
def joined : List Entry → Entry
  | [segment] => segment
  | segments => function segments

/-- A node applied to types: only a bare name of a type and a variable can be. -/
def applied? (head : Entry) (params : List Entry) : Option Entry :=
  match head with
  | node .constructor name [] => some (constructor name params)
  | node .var name _ => some (constrained name params)
  | _ => none

/-- The top-level entries of a type: the segments of a function, or else the type alone. -/
def entries (type : Entry) : List Entry :=
  if type.kind = .function then type.children else [type]

end Entry

/-- A type variable has to satisfy a type class. -/
structure Constraint where
  typeClass : String
  typeVar : String
deriving DecidableEq, Repr

/-- A signature that has been read. -/
structure Signature where
  name : String
  constraints : List Constraint
  type : Entry
deriving Repr

/-- The parameters and the result of a signature. -/
def Signature.entries (signature : Signature) : List Entry :=
  signature.type.entries

end HMSignature.Grammar
