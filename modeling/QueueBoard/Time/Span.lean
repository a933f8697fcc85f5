/-! # Spans of time

A span of whole milliseconds in its shortest form: seconds from one second on, with as many decimals
as it takes, milliseconds below that.
-/
namespace QueueBoard.Span

/-- The decimals of a second that are not zero at the end. -/
def decimals (ms : Nat) : List Char :=
  let digits := [ms / 100, ms / 10 % 10, ms % 10].map (fun d => Char.ofNat (48 + d))
  (digits.reverse.dropWhile (· = '0')).reverse

def text (ms : Nat) : String :=
  if ms = 0 then "0ns"
  else if ms < 1000 then toString ms ++ "ms"
  else
    match decimals (ms % 1000) with
    | [] => toString (ms / 1000) ++ "s"
    | ds => toString (ms / 1000) ++ "." ++ String.ofList ds ++ "s"

end QueueBoard.Span
