import SignedResponse.Metrics.Histogram
import SignedResponse.Verification.Outcome

/-!
What is measured about verification, and the text that reports it.

There is a counter for each outcome and a histogram of durations. The report lists families by
name and the counters of a family by label. An outcome has no counter before it is first counted or
looked at, and a family without counters is left out.
-/

namespace SignedResponse

structure Metrics where
  duration : Histogram := .empty
  results : Outcome → Option Nat := fun _ => none

namespace Metrics

def empty : Metrics := {}

def observe (metrics : Metrics) (duration : Nat) : Metrics :=
  { metrics with duration := metrics.duration.observe duration }

def count (metrics : Metrics) (outcome : Outcome) : Nat := (metrics.results outcome).getD 0

def setCount (metrics : Metrics) (outcome : Outcome) (number : Nat) : Metrics :=
  { metrics with
    results := fun other => if other = outcome then some number else metrics.results other }

def increment (metrics : Metrics) (outcome : Outcome) : Metrics :=
  metrics.setCount outcome (metrics.count outcome + 1)

/-- The counter of an outcome, which exists from now on. -/
def read (metrics : Metrics) (outcome : Outcome) : Nat × Metrics :=
  (metrics.count outcome, metrics.setCount outcome (metrics.count outcome))

theorem count_set_count (metrics : Metrics) (outcome other : Outcome) (number : Nat) :
    (metrics.setCount outcome number).count other =
      if other = outcome then number else metrics.count other := by
  by_cases same : other = outcome <;> simp [count, setCount, same]

theorem count_increment (metrics : Metrics) (outcome other : Outcome) :
    (metrics.increment outcome).count other =
      metrics.count other + if other = outcome then 1 else 0 := by
  by_cases same : other = outcome <;> simp [increment, count_set_count, same]

/-! ## The report -/

def heading (name help kind : String) : List String :=
  ["# HELP " ++ name ++ " " ++ help, "# TYPE " ++ name ++ " " ++ kind]

def sample (name label value : String) (number : Nat) : String :=
  name ++ "\x7b" ++ label ++ "=\"" ++ value ++ "\"\x7d " ++ Decimal.text number

def durationName : String := "rv_verification_duration_seconds"

def resultsName : String := "rv_verification_results_total"

def durationLines (histogram : Histogram) : List String :=
  heading durationName "Time spent verifying a response" "histogram" ++
    List.zipWith
      (fun bound => sample (durationName ++ "_bucket") "le" (Histogram.secondsText bound))
      Histogram.bounds histogram.atMost ++
    [sample (durationName ++ "_bucket") "le" "+Inf" histogram.count,
      durationName ++ "_sum " ++ Histogram.secondsText histogram.sum,
      durationName ++ "_count " ++ Decimal.text histogram.count]

def byName : List Outcome := [.failed, .notRequested, .verified]

def resultLines (results : Outcome → Option Nat) : List String :=
  let samples := byName.filterMap fun outcome =>
    (results outcome).map fun number => sample resultsName "result" outcome.text number
  if samples = [] then []
  else heading resultsName "Response verification outcomes" "counter" ++ samples

def lines (metrics : Metrics) : List String :=
  durationLines metrics.duration ++ resultLines metrics.results

end Metrics

end SignedResponse
