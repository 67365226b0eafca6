/-
  THE ACTIVITY DETECTOR (`phono_console/detector.py`): hysteresis, attack and release.

  Levels (dBFS) and monotonic times (seconds) are rational numbers, so every comparison and
  subtraction of the source is exact here.
-/
import Mathlib.Data.Rat.Defs
import Mathlib.Algebra.Order.Ring.Rat

namespace PhonoConsole

/-- `ActivityDetector`: its settings, and what it keeps between samples. -/
structure ActivityDetector where
  thresholdDbfs : ℚ
  attackSeconds : ℚ
  releaseSeconds : ℚ
  hysteresisDb : ℚ
  active : Bool := false
  candidateSince : Option ℚ := none
deriving DecidableEq

namespace ActivityDetector

/-- The level that counts as activity: lower while active, by the hysteresis. -/
def boundary (d : ActivityDetector) : ℚ :=
  if d.active then d.thresholdDbfs - d.hysteresisDb else d.thresholdDbfs

/-- `update`: the detector after a sample; the source returns its `active` field. -/
def update (d : ActivityDetector) (levelDbfs now : ℚ) : ActivityDetector :=
  let candidate := decide (d.boundary ≤ levelDbfs)
  if candidate = d.active then { d with candidateSince := none }
  else
    let since := d.candidateSince.getD now
    let delay := if candidate then d.attackSeconds else d.releaseSeconds
    if delay ≤ now - since then { d with active := candidate, candidateSince := none }
    else { d with candidateSince := some since }

/-- Clear activity at once when the input measurement is invalid. -/
def resetInactive (d : ActivityDetector) : ActivityDetector :=
  { d with active := false, candidateSince := none }

/-- Latch activity at once after an independent wake trigger. -/
def forceActive (d : ActivityDetector) : ActivityDetector :=
  { d with active := true, candidateSince := none }

end ActivityDetector

end PhonoConsole
