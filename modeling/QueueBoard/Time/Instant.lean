/-! # Instants

An instant is a second of Unix time and nanoseconds in it. From a full second on the nanoseconds mark
a leap second, which is shown as one more second of the same minute.
-/
namespace QueueBoard

structure Instant where
  seconds : Int
  nanos : Nat
deriving DecidableEq, Repr

namespace Instant

def ofMillis (ms : Nat) : Instant := ⟨ms / 1000, ms % 1000 * 1000000⟩

/-- The second of the local day at an offset of minutes east of UTC. -/
def secondOfDay (offset : Int) (t : Instant) : Nat := ((t.seconds + 60 * offset) % 86400).toNat

def leap (t : Instant) : Nat := t.nanos / 1000000000

def hour (offset : Int) (t : Instant) : Nat := t.secondOfDay offset / 3600

def minute (offset : Int) (t : Instant) : Nat := t.secondOfDay offset / 60 % 60

def second (offset : Int) (t : Instant) : Nat := t.secondOfDay offset % 60 + t.leap

def twoDigits (n : Nat) : List Char := [Char.ofNat (48 + n / 10 % 10), Char.ofNat (48 + n % 10)]

/-- The local time of day, as in `07:05:09`. -/
def clockText (offset : Int) (t : Instant) : String :=
  String.ofList (twoDigits (t.hour offset) ++ ':' :: twoDigits (t.minute offset)
    ++ ':' :: twoDigits (t.second offset))

theorem secondOfDay_lt (offset : Int) (t : Instant) : t.secondOfDay offset < 86400 := by
  unfold secondOfDay
  omega

end Instant
end QueueBoard
