import FlowOffload.Binary64
import FlowOffload.Fifo

/-!
# Installation times — samples and their summary

The log keeps the first samples it is given, up to a limit.  A summary of samples gives their
number, their extremes, three percentiles and their mean.  The `p`-th percentile is the *nearest
rank* one: the smallest sample such that at least `p` percent of all samples are at most it.
-/

namespace FlowOffload

/-- Order statistics of samples in microseconds. -/
structure LatencySummary where
  /-- How many samples there are. -/
  count : Nat
  /-- The smallest. -/
  min : UInt64
  /-- The 50th percentile. -/
  p50 : UInt64
  /-- The 90th percentile. -/
  p90 : UInt64
  /-- The 99th percentile. -/
  p99 : UInt64
  /-- The largest. -/
  max : UInt64
  /-- The mean, rounded to a 64-bit number from the rounded sum and count. -/
  mean : Float

namespace LatencySummary

/-- The place of the `p`-th percentile among `n` samples in ascending order, counted from zero. -/
def rank (n p : Nat) : Nat := (n * p + 99) / 100 - 1

/-- The sample at a place, in ascending order. -/
def nth (sorted : List UInt64) (i : Nat) : UInt64 := sorted.getD i 0

/-- The samples in ascending order. -/
def sort (samples : List UInt64) : List UInt64 := samples.mergeSort fun a b => a ≤ b

/-- The mean of samples. -/
def meanOf (samples : List UInt64) : Float :=
  Binary64.ofNat (samples.foldl (fun n s => n + s.toNat) 0) / Binary64.ofNat samples.length

/-- The summary of samples, if there are any. -/
def ofSamples (samples : List UInt64) : Option LatencySummary :=
  if samples = [] then none
  else
    let sorted := sort samples
    let n := sorted.length
    some
      { count := n
        min := nth sorted 0
        p50 := nth sorted (rank n 50)
        p90 := nth sorted (rank n 90)
        p99 := nth sorted (rank n 99)
        max := nth sorted (n - 1)
        mean := meanOf samples }

/-- A time in microseconds with its name. -/
def named (name : String) (micros : UInt64) : String :=
  " " ++ name ++ "=" ++ toString micros.toNat ++ "us"

/-- The summary in one line. -/
def render (s : LatencySummary) : String :=
  "n=" ++ toString s.count ++ named "min" s.min ++ named "p50" s.p50 ++ named "p90" s.p90
    ++ named "p99" s.p99 ++ named "max" s.max ++ " avg=" ++ Binary64.fixed2 s.mean ++ "us"

end LatencySummary

/-- The first samples that came, up to a limit. -/
structure LatencyLog where
  /-- How many samples are kept. -/
  limit : Nat
  /-- The samples in the order in which they came. -/
  samples : Fifo UInt64 := ∅

namespace LatencyLog

/-- Keeps a sample if there is room. -/
def record (l : LatencyLog) (micros : UInt64) : LatencyLog :=
  if l.samples.size < l.limit then { l with samples := l.samples.push micros } else l

/-- How many samples are kept. -/
def size (l : LatencyLog) : Nat := l.samples.size

/-- Whether no sample is kept. -/
def isEmpty (l : LatencyLog) : Bool := l.size = 0

/-- The summary of the samples that are kept. -/
def summary (l : LatencyLog) : Option LatencySummary := LatencySummary.ofSamples l.samples.toList

end LatencyLog

end FlowOffload
