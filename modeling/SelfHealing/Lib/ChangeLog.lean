/-
Logs of changes, and the tables they tell of.

A change says which row it was made to, what the row was before it and what it is after it.  A log
is replayed from its oldest change on, over tables without rows.  Only the order of the changes to
one row matters to that: two logs that have the same changes to every row, in the same order, are
replayed alike, whatever is between them.

The changes of a log carry numbers, and it is in the order of these that a log is read, which need
not be the order in which it was written.  If the numbers of the changes to each row rise, it makes
no difference (`replay_inOrder`).
-/
import Mathlib.Logic.Function.Basic
import SelfHealing.Lib.Priority

namespace ChangeLog

open Priority

variable {K V E : Type}

/-- A change to the row with a key: what there was before it, and what there is after it. -/
structure Change (K V : Type) where
  key : K
  before : Option V
  after : Option V

section Replay

variable [DecidableEq K] {k : K} {log : List (Change K V)}

/-- Make a change to the tables. -/
def play (tables : K → Option V) (c : Change K V) : K → Option V :=
  Function.update tables c.key c.after

/-- Make the changes of a log, the oldest of which is its first. -/
def replay (log : List (Change K V)) : K → Option V := log.foldl play fun _ => none

/-- The changes to one row. -/
def changesTo (k : K) (log : List (Change K V)) : List (Change K V) :=
  log.filter fun c => decide (c.key = k)

theorem foldl_play (tables : K → Option V) :
    log.foldl play tables k = ((changesTo k log).getLast?.map Change.after).getD (tables k) := by
  induction log generalizing tables with
  | nil => rfl
  | cons c rest ih =>
      rw [List.foldl_cons, ih]
      by_cases hc : c.key = k
      · have hhead : changesTo k (c :: rest) = c :: changesTo k rest := by simp [changesTo, hc]
        rw [hhead, play, ← hc, Function.update_self, hc]
        cases hrest : changesTo k rest with
        | nil => rfl
        | cons d ds => simp [List.getLast?_cons]
      · have hhead : changesTo k (c :: rest) = changesTo k rest := by simp [changesTo, hc]
        rw [hhead, play, Function.update_of_ne (Ne.symm hc)]

/-- The last change to a row says what it is. -/
theorem replay_apply : replay log k = (changesTo k log).getLast?.bind Change.after := by
  rw [replay, foldl_play]
  cases (changesTo k log).getLast? <;> rfl

end Replay

/-! ### Changes that follow each other -/

/-- Each change is made to what the one before it left, and the first to nothing.  The newest
change comes first. -/
def Follow : List (Change K V) → Prop
  | [] => True
  | c :: older => c.before = older.head?.bind Change.after ∧ Follow older

/-- Without the newest of them, the changes follow each other still. -/
theorem Follow.older {newer older : List (Change K V)} (h : Follow (newer ++ older)) :
    Follow older := by
  induction newer with
  | nil => exact h
  | cons c rest ih => exact ih h.2

/-! ### The order in which a log is read -/

section Numbers

variable {N : Type} [LinearOrder N] (number : E → N)

/-- The log in the order of its numbers. -/
def inOrder (log : List E) : List E := sortOn number log

theorem inOrder_perm (log : List E) : (inOrder number log).Perm log := sortOn_perm number log

/-- What is picked from a log in order, if its numbers fall from its newest entry on. -/
theorem filter_inOrder (p : E → Bool) {log : List E}
    (h : (log.filter p).Pairwise fun a b => number b < number a) :
    (inOrder number log).filter p = (log.filter p).reverse := by
  have hsorted : (log.filter p).reverse.Pairwise fun a b => number a < number b :=
    List.pairwise_reverse.mpr h
  have hperm : ((inOrder number log).filter p).Perm (log.filter p).reverse :=
    ((inOrder_perm number log).filter p).trans (List.reverse_perm _).symm
  have hnodup : (((inOrder number log).filter p).map number).Nodup := by
    rw [(hperm.map number).nodup_iff]
    exact List.pairwise_map.mpr (hsorted.imp ne_of_lt)
  have hle : ((inOrder number log).filter p).Pairwise fun a b => number a ≤ number b :=
    (sortOn_sorted number log).filter p
  rw [← sortOn_of_sorted number hle, sortOn_congr hnodup hperm,
    sortOn_of_sorted number (hsorted.imp le_of_lt)]

variable [DecidableEq K] (change : E → Change K V)

/-- The changes to a row that are read in order, if their numbers fall from the newest on. -/
theorem changesTo_inOrder {log : List E} {k : K}
    (h : (log.filter fun e => decide ((change e).key = k)).Pairwise
      fun a b => number b < number a) :
    changesTo k ((inOrder number log).map change) =
      ((log.filter fun e => decide ((change e).key = k)).map change).reverse := by
  unfold changesTo
  rw [List.filter_map, ← List.map_reverse]
  exact congrArg (List.map change) (filter_inOrder number _ h)

/-- **A log may be read in the order of its numbers**, if those of each row rise as it is
written. -/
theorem replay_inOrder {log : List E} {k : K}
    (h : (log.filter fun e => decide ((change e).key = k)).Pairwise
      fun a b => number b < number a) :
    replay ((inOrder number log).map change) k =
      ((log.filter fun e => decide ((change e).key = k)).map change).head?.bind Change.after := by
  rw [replay_apply, changesTo_inOrder number change h, List.getLast?_reverse]

end Numbers

end ChangeLog
