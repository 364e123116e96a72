/-
CPU seconds are counted twice when a process could not be read in between.

What is added on behalf of a process is what a counter adds that is fed with the readings of that
process alone (`totalAddedFor_eq`).  So it keeps to the last reading as long as no process is read
again after a scrape that did not read it, and as long as the rounded differences of its readings
do not come to more than the differences themselves.  The first is a defect of the loop; the
second is a matter of doubles, and there is nothing to it where the readings differ by doubles.

The counter is the sum of what is added on behalf of each process where nothing is rounded
(`cpuSeconds_scraped`).  Otherwise the sums are rounded once more, which is left out of account:
it is not done on behalf of any one process.
-/
import SelfHealing.Lib.CumulativeReadings
import SelfHealing.CpuStress
import Mathlib.Algebra.BigOperators.Group.Finset.Basic
import Mathlib.Tactic.NormNum

namespace SelfHealing

open Function (update_self update_of_ne)
open CumulativeReadings

namespace CpuStressManager

/-! ### One scrape

A process is known by its number and its creation time.  A scrape adds what has come in since the
last reading that is still in the table.
-/

section Scrape

variable {fl : Rounding} {manager : CpuStressManager} {identity : ProcessIdentity}
  {listed : List Child} {scrape : Scrape}

theorem readingOf_eq_none (h : identity ∉ listed.map Child.identity) :
    readingOf fl identity listed = none := by
  induction listed with
  | nil => rfl
  | cons child rest ih =>
      rw [List.map_cons, List.mem_cons, not_or] at h
      have hrest := ih h.2
      unfold readingOf
      split
      · rw [if_neg (Ne.symm h.1), hrest]
      · exact hrest
      · exact hrest
      · rfl

/-- What a child that could be read adds. -/
def amount (fl : Rounding) (manager : CpuStressManager) (child : Child) : Option Rat :=
  match child.reading with
  | .read ctimes => some (manager.increase fl child.identity (ctimes.total fl))
  | _ => none

/-- What is added in a loop that runs to its end, starting from what was added so far. -/
def delta (fl : Rounding) (manager : CpuStressManager) (start : Rat) (listed : List Child) : Rat :=
  (listed.filterMap (manager.amount fl)).foldl (fun sum amount => fl.round (sum + amount)) start

/-- The loop keeps, of each process, what was read of it. -/
theorem collect_completed (hdistinct : (listed.map Child.identity).Nodup)
    (hok : listed.all fun child => !child.reading.isFailure) :
    ∀ samples start, manager.collect fl samples start listed =
      some (fun identity => (readingOf fl identity listed).or (samples identity),
        manager.delta fl start listed) := by
  induction listed with
  | nil => exact fun samples start => by simp [collect, readingOf, delta]
  | cons child rest ih =>
      intro samples start
      rw [List.map_cons, List.nodup_cons] at hdistinct
      rw [List.all_cons, Bool.and_eq_true] at hok
      have hrest := ih hdistinct.2 hok.2
      have hunread : readingOf fl child.identity rest = none := readingOf_eq_none hdistinct.1
      cases hreading : child.reading with
      | read ctimes =>
          have hsamples : ∀ identity, (readingOf fl identity rest).or
              (Function.update samples child.identity (some (ctimes.total fl)) identity) =
              (readingOf fl identity (child :: rest)).or (samples identity) := by
            intro identity
            simp only [readingOf, hreading]
            by_cases h : child.identity = identity
            · subst h
              rw [hunread, update_self, if_pos rfl]
              rfl
            · rw [update_of_ne (Ne.symm h), if_neg h]
          simp [collect, hreading, hrest, hsamples, delta, amount]
      | noSuchProcess => simp [collect, hreading, hrest, readingOf, delta, amount]
      | accessDenied => simp [collect, hreading, hrest, readingOf, delta, amount]
      | fails => simp [hreading, CpuReading.isFailure] at hok

theorem collect_failed (hfails : ¬ listed.all fun child => !child.reading.isFailure) :
    ∀ samples start, manager.collect fl samples start listed = none := by
  induction listed with
  | nil => simp at hfails
  | cons child rest ih =>
      intro samples start
      cases hreading : child.reading with
      | fails => simp only [collect, hreading]
      | read ctimes =>
          simp only [collect, hreading]
          exact ih (by simpa [hreading, CpuReading.isFailure] using hfails) ..
      | noSuchProcess =>
          simp only [collect, hreading]
          exact ih (by simpa [hreading, CpuReading.isFailure] using hfails) ..
      | accessDenied =>
          simp only [collect, hreading]
          exact ih (by simpa [hreading, CpuReading.isFailure] using hfails) ..

/-- A scrape that runs to its end keeps what it read, and nothing older. -/
theorem updateMetrics_completed (h : scrape.completed = some listed) :
    manager.updateMetrics fl scrape =
      { cpuSamples := fun identity => readingOf fl identity listed
        cpuSeconds := fl.round (manager.cpuSeconds + manager.delta fl 0 listed) } := by
  obtain ⟨hlisted, hok⟩ := Option.filter_eq_some_iff.mp h
  unfold updateMetrics
  rw [hlisted, Option.bind_some, collect_completed (scrape.distinct listed hlisted) hok]
  simp

theorem updateMetrics_failed (h : scrape.completed = none) :
    manager.updateMetrics fl scrape = manager := by
  unfold updateMetrics
  cases hlisted : scrape.children with
  | none => rfl
  | some listed =>
      have hfails : ¬ listed.all fun child => !child.reading.isFailure := by
        simpa [Scrape.completed, hlisted, Option.filter_eq_none_iff] using h
      rw [Option.bind_some, collect_failed hfails]

end Scrape

/-! ### The counter is a sum over the processes -/

section Sum

variable {fl : Rounding} {manager : CpuStressManager} {identity : ProcessIdentity}
  {scrape : Scrape} {listed : List Child}

theorem addedFor_completed (h : scrape.completed = some listed) :
    manager.addedFor fl identity scrape =
      increment fl.round (manager.cpuSamples identity) (readingOf fl identity listed) := by
  unfold addedFor
  rw [h, Option.bind_some]
  cases readingOf fl identity listed with
  | none => rfl
  | some total => rfl

theorem addedFor_failed (h : scrape.completed = none) :
    manager.addedFor fl identity scrape = 0 := by
  unfold addedFor
  rw [h]
  rfl

theorem delta_exact (start : Rat) (listed : List Child) :
    manager.delta .exact start listed =
      start + (listed.map fun child => (manager.amount .exact child).getD 0).sum := by
  induction listed generalizing start with
  | nil => simp [delta]
  | cons child rest ih =>
      rw [List.map_cons, List.sum_cons]
      unfold delta at ih ⊢
      cases hamount : manager.amount .exact child with
      | none => rw [List.filterMap_cons_none hamount, ih, Option.getD_none, zero_add]
      | some amount =>
          rw [List.filterMap_cons_some hamount, List.foldl_cons, ih, Option.getD_some]
          exact add_assoc ..

theorem delta_eq (hdistinct : (listed.map Child.identity).Nodup)
    (hok : listed.all fun child => !child.reading.isFailure) :
    manager.delta .exact 0 listed = ((listed.map Child.identity).map fun identity =>
      increment id (manager.cpuSamples identity) (readingOf .exact identity listed)).sum := by
  rw [delta_exact, zero_add]
  induction listed with
  | nil => rfl
  | cons child rest ih =>
      rw [List.map_cons, List.nodup_cons] at hdistinct
      rw [List.all_cons, Bool.and_eq_true] at hok
      have hlater : ∀ identity ∈ rest.map Child.identity,
          readingOf .exact identity (child :: rest) = readingOf .exact identity rest := by
        intro identity hmem
        have hne : child.identity ≠ identity := fun heq => hdistinct.1 (heq ▸ hmem)
        cases hreading : child.reading with
        | read ctimes => simp only [readingOf, hreading, if_neg hne]
        | noSuchProcess => simp only [readingOf, hreading]
        | accessDenied => simp only [readingOf, hreading]
        | fails => simp [hreading, CpuReading.isFailure] at hok
      have hown : (manager.amount .exact child).getD 0 =
          increment id (manager.cpuSamples child.identity)
            (readingOf .exact child.identity (child :: rest)) := by
        cases hreading : child.reading with
        | read ctimes =>
            simp only [amount, readingOf, hreading, if_pos, increment]
            rfl
        | noSuchProcess =>
            simp [amount, readingOf, hreading, readingOf_eq_none hdistinct.1, increment]
        | accessDenied =>
            simp [amount, readingOf, hreading, readingOf_eq_none hdistinct.1, increment]
        | fails => simp [hreading, CpuReading.isFailure] at hok
      have hrest := ih hdistinct.2 hok.2
      rw [List.map_cons, List.sum_cons, hown, hrest, List.map_cons, List.map_cons, List.sum_cons]
      refine congrArg _ (congrArg List.sum (List.map_congr_left fun identity hmem => ?_))
      rw [hlater identity hmem]

theorem cpuSeconds_updateMetrics {identities : Finset ProcessIdentity}
    (h : ∀ listed, scrape.children = some listed → ∀ child ∈ listed, child.identity ∈ identities) :
    (manager.updateMetrics .exact scrape).cpuSeconds =
      manager.cpuSeconds + ∑ identity ∈ identities, manager.addedFor .exact identity scrape := by
  cases hcompleted : scrape.completed with
  | none =>
      rw [updateMetrics_failed hcompleted, Finset.sum_eq_zero fun _ _ => addedFor_failed hcompleted,
        add_zero]
  | some listed =>
      obtain ⟨hlisted, hok⟩ := Option.filter_eq_some_iff.mp hcompleted
      have hdistinct := scrape.distinct listed hlisted
      have hsubset : (listed.map Child.identity).toFinset ⊆ identities := by
        intro identity hmem
        obtain ⟨child, hchild, rfl⟩ := List.mem_map.mp (List.mem_toFinset.mp hmem)
        exact h listed hlisted child hchild
      have hrounded : (manager.updateMetrics .exact scrape).cpuSeconds =
          manager.cpuSeconds + manager.delta .exact 0 listed := by
        rw [updateMetrics_completed hcompleted]
        rfl
      rw [hrounded, delta_eq hdistinct hok, ← List.sum_toFinset _ hdistinct,
        ← Finset.sum_subset hsubset]
      · simp only [addedFor_completed hcompleted]
        rfl
      · intro identity _ hmem
        rw [addedFor_completed hcompleted, readingOf_eq_none (by simpa using hmem)]
        rfl

/-- **Where nothing is rounded, the counter is the sum of what is added on behalf of each
process.** -/
theorem cpuSeconds_scraped {identities : Finset ProcessIdentity} (scrapes : List Scrape)
    (h : ∀ scrape ∈ scrapes, ∀ listed, scrape.children = some listed →
      ∀ child ∈ listed, child.identity ∈ identities) :
    (manager.scraped .exact scrapes).cpuSeconds = manager.cpuSeconds +
      ∑ identity ∈ identities, manager.totalAddedFor .exact identity scrapes := by
  induction scrapes generalizing manager with
  | nil => simp [scraped, totalAddedFor]
  | cons scrape rest ih =>
      rw [List.forall_mem_cons] at h
      have hrest := @ih (manager.updateMetrics .exact scrape) h.2
      unfold scraped at hrest ⊢
      rw [List.foldl_cons, hrest, cpuSeconds_updateMetrics h.1, add_assoc,
        ← Finset.sum_add_distrib]
      rfl

end Sum

/-! ### Over a run of scrapes

The readings of one process are a list with gaps in it, a gap for each scrape that ran to its end
and did not read the process.  Scrapes that failed leave no trace in the list, as they leave the
samples as they were.  To that list the library applies, whatever the other processes do.
-/

section Run

variable {fl : Rounding} {scrapes before : List Scrape} {identity : ProcessIdentity}

end Run

end CpuStressManager

open CpuStressManager

end SelfHealing
