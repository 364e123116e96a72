/-
A limit on what falls into a window of time.

The window is open at its beginning: at `now` it holds what is later than `now - window`.  What was
admitted is kept until it has left the window, and nothing is admitted while the limit is reached.
As time does not go back, what is kept says as much about the window as all that was ever admitted
(`kept_eq`).

A limiter that forgets what has left the window answers as one that keeps everything (`kept_eq`), so
that a refusal is about all that was admitted (`refused_iff`); and as something is admitted only
while there is room, no window that ends at any time holds more than the limit (`inWindow_le`).
-/
import Mathlib.Algebra.Order.Group.Defs
import Mathlib.Data.List.Induction

namespace SlidingWindow

section Admitted

variable {T : Type}

/-- What was admitted. -/
def admitted (times : List T) (decisions : List Bool) : List T :=
  ((times.zip decisions).filter Prod.snd).map Prod.fst

theorem admitted_snoc {times : List T} {decisions : List Bool} (now : T) (decision : Bool)
    (h : decisions.length = times.length) :
    admitted (times ++ [now]) (decisions ++ [decision]) =
      admitted times decisions ++ if decision then [now] else [] := by
  unfold admitted
  rw [List.zip_append h.symm, List.filter_append, List.map_append]
  cases decision <;> rfl

theorem mem_of_mem_admitted {times : List T} {decisions : List Bool} {t : T}
    (h : t ∈ admitted times decisions) : t ∈ times := by
  obtain ⟨⟨t', decision⟩, hmem, rfl⟩ := List.mem_map.mp h
  exact (List.of_mem_zip (List.mem_filter.mp hmem).1).1

end Admitted

variable {T : Type} [AddCommGroup T] [LinearOrder T]

/-- A number of admissions, for a length of time. -/
structure Limit (T : Type) where
  most : Int
  window : T

/-- What is later than the beginning of the window. -/
def Limit.recent (limit : Limit T) (now : T) (times : List T) : List T :=
  times.filter fun t => decide (now - limit.window < t)

/-- What lies in the window that ends at `now`. -/
def Limit.inWindow (limit : Limit T) (now : T) (times : List T) : List T :=
  times.filter fun t => decide (now - limit.window < t ∧ t ≤ now)

/-- Admit, or refuse, and what is kept then.  What has left the window is forgotten either way, and
what is refused is not kept. -/
def Limit.answer (limit : Limit T) (kept : List T) (now : T) : Bool × List T :=
  let valid := limit.recent now kept
  if limit.most ≤ valid.length then (false, valid) else (true, valid ++ [now])

/-- The decisions on all that come, in their order, and what is kept in the end. -/
def Limit.run (limit : Limit T) (kept : List T) : List T → List Bool × List T
  | [] => ([], kept)
  | now :: rest =>
      let decision := limit.answer kept now
      let later := limit.run decision.2 rest
      (decision.1 :: later.1, later.2)

section Window

variable {limit : Limit T} {now t : T} {times times' : List T}

theorem recent_append : limit.recent now (times ++ times') =
    limit.recent now times ++ limit.recent now times' := List.filter_append ..

theorem inWindow_append : limit.inWindow now (times ++ times') =
    limit.inWindow now times ++ limit.inWindow now times' := List.filter_append ..

/-- Nothing is later than now. -/
theorem recent_eq_inWindow (h : ∀ t ∈ times, t ≤ now) :
    limit.recent now times = limit.inWindow now times := by
  refine List.filter_congr fun t ht => ?_
  simp [h t ht]

end Window

section Run

variable {limit : Limit T} {kept : List T}

theorem run_append (times times' : List T) :
    limit.run kept (times ++ times') =
      ((limit.run kept times).1 ++ (limit.run (limit.run kept times).2 times').1,
        (limit.run (limit.run kept times).2 times').2) := by
  induction times generalizing kept with
  | nil => rfl
  | cons now rest ih =>
      simp only [List.cons_append, Limit.run, ih]

theorem length_run (times : List T) : (limit.run kept times).1.length = times.length := by
  induction times generalizing kept with
  | nil => rfl
  | cons now rest ih => simp only [Limit.run, List.length_cons, ih]

theorem run_snoc (times : List T) (now : T) :
    limit.run kept (times ++ [now]) =
      ((limit.run kept times).1 ++ [(limit.answer (limit.run kept times).2 now).1],
        (limit.answer (limit.run kept times).2 now).2) := by
  rw [run_append]
  rfl

end Run

section Sorted

variable [IsOrderedAddMonoid T] {limit : Limit T}

/-- What is in the window now was in it at every earlier moment since. -/
theorem recent_recent {now now' : T} (h : now ≤ now') (times : List T) :
    limit.recent now' (limit.recent now times) = limit.recent now' times := by
  unfold Limit.recent
  rw [List.filter_filter]
  refine List.filter_congr fun t _ => ?_
  rw [Bool.and_eq_left_iff_imp, decide_eq_true_eq, decide_eq_true_eq]
  exact fun ht => (sub_le_sub_right h limit.window).trans_lt ht

/-- **What is kept tells the window**, at every moment to come. -/
theorem kept_eq {times : List T} (hsorted : times.Pairwise (· ≤ ·)) :
    ∀ now, (∀ t ∈ times, t ≤ now) →
      limit.recent now (limit.run [] times).2 =
        limit.recent now (admitted times (limit.run [] times).1) := by
  induction times using List.reverseRecOn with
  | nil => exact fun _ _ => rfl
  | append_singleton earlier last ih =>
      intro now hnow
      rw [List.pairwise_append] at hsorted
      obtain ⟨hearlier, -, hlast⟩ := hsorted
      have hlater : last ≤ now := hnow last (by simp)
      have hkept := ih hearlier last fun t ht => hlast t ht last (by simp)
      have hpruned : limit.recent now (limit.recent last (limit.run [] earlier).2) =
          limit.recent now (admitted earlier (limit.run [] earlier).1) := by
        rw [hkept, recent_recent hlater]
      rw [run_snoc, admitted_snoc _ _ (length_run _), recent_append]
      unfold Limit.answer
      simp only
      split
      · simpa [Limit.recent] using hpruned
      · rw [recent_append, hpruned, if_pos rfl]

/-- **A decision on what comes last** is made by the window alone. -/
theorem refused_iff {earlier : List T} {now : T}
    (hsorted : (earlier ++ [now]).Pairwise (· ≤ ·)) :
    (limit.answer (limit.run [] earlier).2 now).1 = false ↔
      limit.most ≤ (limit.inWindow now (admitted earlier (limit.run [] earlier).1)).length := by
  rw [List.pairwise_append] at hsorted
  obtain ⟨hearlier, -, hlast⟩ := hsorted
  have hnow : ∀ t ∈ earlier, t ≤ now := fun t ht => hlast t ht now (by simp)
  rw [← recent_eq_inWindow fun t ht => hnow t (mem_of_mem_admitted ht), ← kept_eq hearlier now hnow]
  unfold Limit.answer
  simp only
  split
  · rename_i hfull
    simp [hfull]
  · rename_i hroom
    simp [hroom]

/-- **No window holds more than the limit.** -/
theorem inWindow_le {times : List T} (hsorted : times.Pairwise (· ≤ ·)) (t : T) :
    (limit.inWindow t (admitted times (limit.run [] times).1)).length ≤ limit.most.toNat := by
  induction times using List.reverseRecOn with
  | nil => exact Nat.zero_le _
  | append_singleton earlier last ih =>
      have hall := hsorted
      rw [List.pairwise_append] at hsorted
      obtain ⟨hearlier, -, hlast⟩ := hsorted
      rw [run_snoc, admitted_snoc _ _ (length_run _), inWindow_append, List.length_append]
      cases hdecision : (limit.answer (limit.run [] earlier).2 last).1 with
      | false => simpa [Limit.inWindow] using ih hearlier
      | true =>
          by_cases hin : t - limit.window < last ∧ last ≤ t
          · -- what the window that ends at `t` holds by then, the one that ends at `last` holds too
            have hroom := (not_congr (@refused_iff _ _ _ _ limit _ _ hall)).mp (by simp [hdecision])
            have hle : (limit.inWindow t (admitted earlier (limit.run [] earlier).1)).length ≤
                (limit.inWindow last (admitted earlier (limit.run [] earlier).1)).length := by
              unfold Limit.inWindow
              rw [← List.countP_eq_length_filter, ← List.countP_eq_length_filter]
              refine List.countP_mono_left fun t' ht' hwithin => ?_
              rw [decide_eq_true_eq] at hwithin ⊢
              refine ⟨(sub_le_sub_right hin.2 limit.window).trans_lt hwithin.1, ?_⟩
              exact hlast t' (mem_of_mem_admitted ht') last (by simp)
            have hone : (limit.inWindow t (if true = true then [last] else [])).length = 1 := by
              simp [Limit.inWindow, hin]
            rw [hone]
            omega
          · have hnone : (limit.inWindow t (if true = true then [last] else [])).length = 0 := by
              simp [Limit.inWindow, hin]
            rw [hnone]
            exact ih hearlier

end Sorted

end SlidingWindow
