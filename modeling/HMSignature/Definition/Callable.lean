import HMSignature.Definition.Definer
import HMSignature.Value.Capability
import HMSignature.Value.Literal
/-!
# Functions

The functions that can be values: definitions, the implementations they are made around, and functions from outside
that nothing is known of. Every call of an implementation is logged with its arguments, and every function that a call
makes has an identity of its own.

A constant implementation keeps its value in writing and evaluates it in each call, in the scope of that call. So a
name in it stands for what is bound by then, even for the definition itself, and what is badly written fails only in
the call. This way a definition may give another one as its result, which is then called with the arguments that are
left. Such descents are bounded by the size of the scope.
-/

namespace HMSignature

mutual

/-- What an implementation does. -/
inductive Behaviour where
  /-- Gives the list of its arguments. -/
  | collect
  /-- Fails. -/
  | fail
  /-- Gives the value of a literal whatever its arguments. -/
  | const (literal : Literal)
  /-- A function of one argument after another: so many are still missing, and these are there. -/
  | curry (missing : Nat) (held : List (Value Callable))

/-- A function as a value. -/
inductive Callable where
  | external
  | implementation (implementation : Implementation Behaviour (Value Callable))
  | definition (d : Definition Behaviour (Value Callable))

end

/-- A value whose functions can be called. -/
abbrev LiveValue := Value Callable

/-- The definitions of live callables. -/
abbrev LiveDefinition := Definition Behaviour LiveValue

/-- What names are bound to. -/
abbrev LiveScope := Table String LiveValue

/-- Why a call fails. -/
inductive CallError where
  /-- There are more arguments than the signature has parameters. -/
  | excess (e : Excess)
  /-- A function of one argument was called with another number of them. -/
  | notUnary
  /-- What was called is not a function. -/
  | notCallable
  /-- The implementation failed. -/
  | raised
  /-- The value that the implementation should give has no meaning. -/
  | meaningless (e : LiteralError)
  /-- The call comes back to itself. -/
  | endless
deriving DecidableEq, Repr

/-- The argument lists of the calls of implementations, in order. -/
abbrev CallLog := List (List LiveValue)

/-- What a run of functions leaves behind: its calls, and the first identity that is still free. -/
structure Trace where
  calls : CallLog
  next : Nat

/-- A run of functions: its trace outlives a failure. -/
abbrev Running (α : Type) := ExceptT CallError (StateM Trace) α

namespace Callable

/-- Logs a call. -/
def logCall (args : List LiveValue) : Running Unit :=
  modify fun trace => { trace with calls := trace.calls ++ [args] }

/-- Makes a function a value. -/
def toValue (f : Callable) : Running LiveValue := do
  let trace ← get
  set { trace with next := trace.next + 1 }
  return .function trace.next f

/-- The value of a literal in a scope. -/
def evaluate (scope : LiveScope) (literal : Literal) : Running LiveValue := do
  let trace ← get
  match (literal.eval scope external).run trace.next with
  | .ok (value, next) => do
      set { trace with next }
      return value
  | .error e => throw (.meaningless e)

/-- The next function of a curried one, or the list of its arguments when none is missing. -/
def curried (missing : Nat) (held : List LiveValue) : Running LiveValue :=
  match missing with
  | 0 => return .list held
  | missing => toValue (.implementation ⟨.curry missing held, "fn", none, .none⟩)

/-- Runs a behaviour on arguments, with names bound in a scope. -/
def run (scope : LiveScope) : Behaviour → List LiveValue → Running LiveValue
  | .collect, args => do
      logCall args
      return .list args
  | .fail, args => do
      logCall args
      throw .raised
  | .const literal, args => do
      logCall args
      evaluate scope literal
  | .curry missing held, [arg] => do
      logCall [arg]
      curried (missing - 1) (held ++ [arg])
  | .curry _ _, _ => throw .notUnary

/-- How functions are called in a scope, when the values among them are called by `call`. -/
def convention (scope : LiveScope) (call : LiveValue → List LiveValue → Running LiveValue) :
    Definition.Convention (ExceptT CallError (StateM Trace)) Behaviour LiveValue :=
  ⟨run scope, call, fun d => toValue (.definition d), fun e => throw (.excess e)⟩

/-- Calls a value, descending through at most `depth` definitions. Nothing comes of a function from outside, nor of an
object that can be called. -/
def callWithin (scope : LiveScope) : (depth : Nat) → LiveValue → List LiveValue → Running LiveValue
  | depth + 1, .function _ (.definition d), args =>
      d.call (convention scope (callWithin scope depth)) args
  | 0, .function _ (.definition _), _ => throw .endless
  | _, .function _ (.implementation i), args => run scope i.behaviour args
  | _, value, _ => if value.isCallable then return .null else throw .notCallable

/-- Calls a definition in a scope: the result or the error, and the trace of the run. A definition that a call comes to
has what it is made around and its signature from one in the scope, and these alone tell what further calls it makes
once its arguments are there. So a descent through more definitions than the scope has comes to the same ones for the
second time and never ends. -/
def callDefinition (scope : LiveScope) (d : LiveDefinition) (args : List LiveValue) (next : Nat) :
    Except CallError LiveValue × Trace :=
  (d.call (convention scope (callWithin scope (scope.length + 1))) args).run ⟨[], next⟩

end Callable

end HMSignature
