import HMSignature.TypeClass.Basic
import HMSignature.Value.Capability
/-!
# The standard type classes

The usual classes of algebra and of containers, tested by the methods that a value or its class has. Sequences and
dictionaries are functors and monoids by themselves, and so are texts as monoids.
-/

namespace HMSignature.TypeClass

/-- The value has all the methods. -/
def hasMethods (names : List String) (value : Datum) : Bool :=
  names.all value.hasMethod

/-- The class of the value has the method. -/
def classHas (name : String) (value : Datum) : Bool :=
  value.classHasMethod name

def setoid : TypeClass :=
  ⟨"hmdef/Setoid", "", Value.decides (hasMethods ["__eq__"]), []⟩

def ord : TypeClass :=
  ⟨"hmdef/Ord", "", Value.decides (hasMethods ["__le__"]), [setoid]⟩

def semigroup : TypeClass :=
  ⟨"hmdef/Semigroup", "", Value.decides (hasMethods ["__add__"]), []⟩

def monoid : TypeClass :=
  ⟨"hmdef/Monoid", "",
    Value.decides fun value =>
      classHas "empty" value || value.isText || value.isSequence || value.isDictionary,
    [semigroup]⟩

def foldable : TypeClass :=
  ⟨"hmdef/Foldable", "", Value.decides (hasMethods ["__iter__"]), []⟩

def functor : TypeClass :=
  ⟨"hmdef/Functor", "",
    Value.decides fun value => hasMethods ["map"] value || value.isSequence || value.isDictionary, []⟩

def apply : TypeClass :=
  ⟨"hmdef/Apply", "", Value.decides (hasMethods ["ap"]), [functor]⟩

def applicative : TypeClass :=
  ⟨"hmdef/Applicative", "", Value.decides (classHas "of"), [apply]⟩

def chain : TypeClass :=
  ⟨"hmdef/Chain", "", Value.decides (hasMethods ["chain"]), [apply]⟩

def monad : TypeClass :=
  ofDependencies "hmdef/Monad" "" [applicative, chain]

def traversable : TypeClass :=
  ⟨"hmdef/Traversable", "", Value.decides (hasMethods ["traverse"]), [functor, foldable]⟩

/-- All standard classes, in order. -/
def standard : List TypeClass :=
  [setoid, ord, semigroup, monoid, foldable, functor, apply, applicative, chain, monad, traversable]

end HMSignature.TypeClass
