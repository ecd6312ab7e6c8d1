/-!
# A supply of identities

Things that have nothing else to be told apart by get an identity when they are made: a number that none of the things
before has. What is made along the way is lost when the making fails, and so are the numbers it took.

1. `run_freshId`: the identity that is taken is the first one that is free, and the next one comes after it.
-/

namespace HMSignature

/-- Making something with a supply of identities, of which the first free one is known. -/
abbrev Supplied (ε α : Type) := StateT Nat (Except ε) α

/-- Takes a fresh identity. -/
def freshId {ε : Type} : Supplied ε Nat := do
  let id ← get
  set (id + 1)
  return id

theorem run_freshId {ε : Type} (next : Nat) :
    (freshId : Supplied ε Nat).run next = .ok (next, next + 1) :=
  rfl

end HMSignature
