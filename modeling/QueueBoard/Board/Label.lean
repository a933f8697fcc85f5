/-! # Labels

A label is a name cut after a number of characters, with a marker in the place of the rest.
-/
namespace QueueBoard.Label

def marker : String := "..."

def defaultLimit : Nat := 16

def truncate (limit : Nat) (name : String) : String :=
  if name.length ≤ limit then name else String.ofList (name.toList.take limit) ++ marker

end QueueBoard.Label
