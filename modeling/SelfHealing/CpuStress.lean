/-
The CPU seconds of the demo API and of the processes under it.

Each scrape of the metrics asks every process for its CPU time and adds what it has grown by since
the scrape before to a counter.  The samples it compares with are those of the last scrape that ran
to its end, and of no other.

Times are doubles, and so every sum and every difference of them is the exact one, rounded.  How it
is rounded is left open: a double is rounded to itself and a sign is kept, and nothing else is asked
of a rounding.  Times are far too small for a double to overflow.

What is added on behalf of one process is the sum of its own rounded differences, before they are
added up with those of the others.
-/
import Mathlib.Algebra.Order.Ring.Rat
import Mathlib.Data.NNRat.Defs
import Mathlib.Logic.Function.Basic

namespace SelfHealing

open Function (update)

/-- A process: its number, and the time it was created at. -/
structure ProcessIdentity where
  pid : Nat
  createTime : Rat
deriving DecidableEq

/-- How an exact result becomes a double. -/
structure Rounding where
  round : Rat → Rat
  round_round : ∀ x, round (round x) = round x
  round_nonneg : ∀ {x}, 0 ≤ x → 0 ≤ round x

/-- Nothing is rounded: so it is as long as all results are doubles themselves. -/
def Rounding.exact : Rounding := ⟨id, fun _ => rfl, fun h => h⟩

structure CpuTimes where
  user : NNRat
  system : NNRat

def CpuTimes.total (fl : Rounding) (ctimes : CpuTimes) : Rat :=
  fl.round (ctimes.user + ctimes.system)

/-- What comes of asking a process for its times. -/
inductive CpuReading where
  | read (ctimes : CpuTimes)
  | noSuchProcess
  | accessDenied
  | fails

structure Child where
  identity : ProcessIdentity
  reading : CpuReading

/-- The process and its children, unless they cannot be listed.  A listing names no process
twice. -/
structure Scrape where
  children : Option (List Child)
  distinct : ∀ listed, children = some listed → (listed.map Child.identity).Nodup

structure CpuStressManager where
  cpuSamples : ProcessIdentity → Option Rat := fun _ => none
  /-- `demo_api_cpu_seconds_total`. -/
  cpuSeconds : Rat := 0

namespace CpuStressManager

variable (fl : Rounding) (manager : CpuStressManager)

/-- What a process adds to the counter that was at `total`. -/
def increase (identity : ProcessIdentity) (total : Rat) : Rat :=
  max 0 (fl.round (total - (manager.cpuSamples identity).getD 0))

/-- The loop of `update_metrics`, with the samples and the difference so far. -/
def collect (samples : ProcessIdentity → Option Rat) (delta : Rat) :
    List Child → Option ((ProcessIdentity → Option Rat) × Rat)
  | [] => some (samples, delta)
  | child :: rest =>
      match child.reading with
      | .read ctimes =>
          collect (update samples child.identity (some (ctimes.total fl)))
            (fl.round (delta + manager.increase fl child.identity (ctimes.total fl))) rest
      | .noSuchProcess => collect samples delta rest
      | .accessDenied => collect samples delta rest
      | .fails => none

/-- `update_metrics`.  A scrape that fails leaves the counter and the samples. -/
def updateMetrics (scrape : Scrape) : CpuStressManager :=
  match scrape.children.bind (manager.collect fl (fun _ => none) 0) with
  | some (samples, delta) =>
      { cpuSamples := samples, cpuSeconds := fl.round (manager.cpuSeconds + delta) }
  | none => manager

/-- Scrape after scrape. -/
def scraped (scrapes : List Scrape) : CpuStressManager :=
  scrapes.foldl (updateMetrics fl) manager

end CpuStressManager

/-! ### What is read of a process -/

section Readings

variable (fl : Rounding)

/-- The time that a process was read with; nothing is read after what stops the loop. -/
def readingOf (identity : ProcessIdentity) : List Child → Option Rat
  | [] => none
  | child :: rest =>
      match child.reading with
      | .read ctimes =>
          if child.identity = identity then some (ctimes.total fl) else readingOf identity rest
      | .noSuchProcess => readingOf identity rest
      | .accessDenied => readingOf identity rest
      | .fails => none

def CpuReading.isFailure : CpuReading → Bool
  | .fails => true
  | _ => false

/-- The children of a scrape that runs to its end. -/
def Scrape.completed (scrape : Scrape) : Option (List Child) :=
  scrape.children.filter fun listed => listed.all fun child => !child.reading.isFailure

end Readings

/-! ### What is added on behalf of a process -/

namespace CpuStressManager

variable (fl : Rounding) (manager : CpuStressManager)

/-- By a scrape. -/
def addedFor (identity : ProcessIdentity) (scrape : Scrape) : Rat :=
  match scrape.completed.bind (readingOf fl identity) with
  | some total => manager.increase fl identity total
  | none => 0

/-- By scrape after scrape. -/
def totalAddedFor (identity : ProcessIdentity) (manager : CpuStressManager) :
    List Scrape → Rat
  | [] => 0
  | scrape :: rest =>
      manager.addedFor fl identity scrape +
        totalAddedFor identity (manager.updateMetrics fl scrape) rest

end CpuStressManager

end SelfHealing
