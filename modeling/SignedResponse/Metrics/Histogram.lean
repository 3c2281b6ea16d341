import SignedResponse.Text.Decimal

/-!
A histogram of durations, which are counted in nanoseconds.

Every bound has a bucket with the number of durations at or below it. The bounds double from ten
microseconds to about eighty milliseconds.
-/

namespace SignedResponse

structure Histogram where
  /-- For each bound the number of durations at or below it. -/
  atMost : List Nat
  sum : Nat
  count : Nat
deriving DecidableEq

namespace Histogram

def bounds : List Nat := (List.range 14).map fun power => 10000 * Nat.pow 2 power

def empty : Histogram := ⟨bounds.map fun _ => 0, 0, 0⟩

def observe (histogram : Histogram) (duration : Nat) : Histogram where
  atMost := List.zipWith (fun bound number => if duration ≤ bound then number + 1 else number)
    bounds histogram.atMost
  sum := histogram.sum + duration
  count := histogram.count + 1

def secondsText (nanoseconds : Nat) : String :=
  let fraction := (Decimal.padded 9 (nanoseconds % 1000000000)).toList
  let shown := (fraction.reverse.dropWhile (· = '0')).reverse
  let whole := Decimal.text (nanoseconds / 1000000000)
  if shown = [] then whole else whole ++ "." ++ String.ofList shown

example : (bounds.head?.map secondsText, bounds.getLast?.map secondsText) =
    (some "0.00001", some "0.08192") := by decide

theorem count_observe (histogram : Histogram) (duration : Nat) :
    (histogram.observe duration).count = histogram.count + 1 := rfl

end Histogram

end SignedResponse
