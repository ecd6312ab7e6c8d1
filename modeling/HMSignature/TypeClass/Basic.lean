import HMSignature.Name
import HMSignature.Value.Basic
/-!
# Type classes

A type class is a name with a test of values and with the classes it depends on. A value satisfies a class when it
satisfies the dependencies, from left to right, and then passes the test; the answer is whatever the test says. Nothing
is tested after the first answer that does not count as true, nor after one of which this cannot be said.
-/

namespace HMSignature

/-- A named capability. -/
structure TypeClass where
  name : String
  url : String
  /-- What the test says about a value. -/
  test : Datum → Datum
  dependencies : List TypeClass

namespace TypeClass

/-- The name that signatures use. -/
def shortName (c : TypeClass) : String :=
  HMSignature.shortName c.name

/-- A class whose test always holds. -/
def ofDependencies (name url : String) (dependencies : List TypeClass) : TypeClass :=
  ⟨name, url, fun _ => .bool true, dependencies⟩

/-- The outcome of a check, and the classes whose tests were run for it, in order. There is no answer when the answer
of a dependency has no truth value. -/
structure Verdict where
  answer? : Option Datum
  tested : List TypeClass

mutual

/-- Checks the dependencies of a class and then its own test. -/
def check (value : Datum) : TypeClass → Verdict
  | ⟨name, url, test, dependencies⟩ =>
      match checkAll value dependencies with
      | (some true, tested) => ⟨some (test value), tested ++ [⟨name, url, test, dependencies⟩]⟩
      | (some false, tested) => ⟨some (.bool false), tested⟩
      | (none, tested) => ⟨none, tested⟩

/-- Checks classes from left to right, up to the first that is not satisfied. -/
def checkAll (value : Datum) : List TypeClass → Option Bool × List TypeClass
  | [] => (some true, [])
  | c :: rest =>
      let verdict := check value c
      match verdict.answer?.bind Value.truth? with
      | some true =>
          let (passed, tested) := checkAll value rest
          (passed, verdict.tested ++ tested)
      | outcome => (outcome, verdict.tested)

end

/-- What a class says about a value, if it can be said. -/
def satisfiedBy? (c : TypeClass) (value : Datum) : Option Datum :=
  (check value c).answer?

mutual

/-- A class after its dependencies, each after its own. -/
def hierarchy : TypeClass → List TypeClass
  | ⟨name, url, test, dependencies⟩ =>
      hierarchies dependencies ++ [⟨name, url, test, dependencies⟩]

def hierarchies : List TypeClass → List TypeClass
  | [] => []
  | c :: rest => hierarchy c ++ hierarchies rest

end

end TypeClass

end HMSignature
