/-
# Sweep plans

A plan is a number of sweep pairs on one channel.  Between the pairs a second channel may be
stepped through targets, each reached through evenly spaced points.
-/
import LabControl.Quantity
import LabControl.Sweep.Direction

namespace LabControl.Sweep

/-- The default number of intervals of a ramp. -/
def defaultRampPoints : Nat := 20

/-- The default panel tool, whose variables configure a sweep. -/
def defaultPanelTool : String := "sweep"

/-- `n + 1` evenly spaced points from `start` to `finish`, both included; for `n = 0` the start
alone. -/
def evenlySpaced {ν : Type} [Quantity ν] (start finish : ν) (n : Nat) : List ν :=
  if n = 0 then [start]
  else (List.range (n + 1)).map fun i =>
    start + (finish - start) * Scale.count i / Scale.count n

/-- **A range has one point more than it has intervals.** -/
theorem length_evenlySpaced {ν : Type} [Quantity ν] (start finish : ν) (n : Nat) :
    (evenlySpaced start finish n).length = n + 1 := by
  unfold evenlySpaced
  split
  · simp [*]
  · simp

/-- What happens between the pairs of a run. -/
inductive Schedule (ν : Type) where
  /-- Nothing is stepped; the pair is repeated, at least once. -/
  | repeating (sweeps : Nat)
  /-- A channel is moved to each target before the pair.  Without targets there is one pair and
  nothing is stepped. -/
  | stepping (channel : Nat) (targets : List ν)
  deriving DecidableEq, Repr

namespace Schedule

variable {ν : Type}

/-- The channel that is stepped. -/
def stepChannel? : Schedule ν → Option Nat
  | repeating _ => none
  | stepping channel _ => some channel

@[simp] theorem stepChannel?_repeating (sweeps : Nat) :
    (repeating sweeps : Schedule ν).stepChannel? = none := rfl

@[simp] theorem stepChannel?_stepping (channel : Nat) (targets : List ν) :
    (stepping channel targets).stepChannel? = some channel := rfl

/-- One entry for each pair: the target to step to, if any. -/
def iterations : Schedule ν → List (Option ν)
  | repeating sweeps => List.replicate (max sweeps 1) none
  | stepping _ [] => [none]
  | stepping _ targets => targets.map some

end Schedule

/-- One automation run: the swept channel, the direction of the first leg of each pair, which is
discarded, the stepping between pairs, and the file that the second legs are saved to. -/
structure Plan (ν : Type) where
  channel : Nat
  firstLeg : Direction
  steps : Schedule ν
  filename : String
  deriving DecidableEq, Repr

/-- How a run ended that did not fail. -/
inductive Outcome where
  /-- Every pair ran. -/
  | completed (sweeps : Nat)
  /-- A channel value was not known, so nothing was started. -/
  | refused (reason : String)
  deriving DecidableEq, Repr

end LabControl.Sweep
