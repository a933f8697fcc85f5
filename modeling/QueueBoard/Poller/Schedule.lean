/-! # Schedules

Ticks fall one interval apart. A tick that runs too late moves the ones after it, so that ticks never
come in a burst. Times are milliseconds.
-/
namespace QueueBoard.Schedule

/-- A tick may run this late and leave the schedule alone. -/
def tolerance : Nat := 5

/-- When the next tick is due after one that was due at `due` and ran at `clock`. -/
def nextDue (interval clock due : Nat) : Nat :=
  if due + tolerance < clock then clock + interval else due + interval

theorem lt_nextDue {interval : Nat} (h : 0 < interval) (clock due : Nat) :
    due < nextDue interval clock due := by
  unfold nextDue tolerance
  split <;> omega

/-- When the ticks that run at `clock` were due, and when the one after them is. -/
def ticksAt (interval : Nat) (h : 0 < interval) (clock due : Nat) : List Nat × Nat :=
  if due ≤ clock then
    let rest := ticksAt interval h clock (nextDue interval clock due)
    (due :: rest.1, rest.2)
  else ([], due)
termination_by clock + 1 - due
decreasing_by
  have := lt_nextDue h clock due
  omega

theorem lt_ticksAt {interval : Nat} (h : 0 < interval) (clock due : Nat) :
    clock < (ticksAt interval h clock due).2 := by
  fun_induction ticksAt interval h clock due with
  | case1 _ _ _ ih => exact ih
  | case2 => omega

end QueueBoard.Schedule
