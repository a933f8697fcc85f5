/-! # Values under a lock

A lock is held while its value is used. Whoever breaks off while holding it leaves it poisoned, and
the value is recovered by those who come later.
-/
namespace QueueBoard

/-- A value under a lock. Whoever breaks off while holding the lock leaves it poisoned. -/
structure Locked (α : Type) where
  value : α
  poisoned : Bool

namespace Locked
variable {α : Type}

/-- Takes the lock. A poisoned lock is refused, and the refusal carries the value. -/
def take (l : Locked α) : Except α α := if l.poisoned then .error l.value else .ok l.value

/-- What is under the lock, whether or not somebody broke off before. -/
def recover (l : Locked α) : α :=
  match l.take with
  | .ok a => a
  | .error a => a

@[simp] theorem recover_eq_value (l : Locked α) : l.recover = l.value := by
  unfold recover take
  cases l.poisoned <;> rfl

end Locked
end QueueBoard
