/-
A partial unique index under READ COMMITTED.

The index is over the rows that satisfy a condition, and the database lets a row into it only
when no other row of it is in sight and none is in the hands of another transaction.  What that
keeps true is more than that no two committed rows are in the index: whatever one transaction
sees and whatever two of them have written must fit together as well, for either may commit next.

A write is let through only when it is clear of all other rows (`Clear`), as they are seen by the
transaction that writes.  The invariant speaks of what is committed and of what is written, for any
set of the open transactions that may still commit, and is kept by each way a row can change.
-/
import SelfHealing.Lib.ReadCommitted

namespace ReadCommitted

variable {ι τ V : Type} [DecidableEq τ] {holds : V → Prop}

/-- There is a row, and it is in the index. -/
def Indexed (holds : V → Prop) (v : Option V) : Prop := ∃ r, v = some r ∧ holds r

@[simp] theorem indexed_some {r : V} : Indexed holds (some r) ↔ holds r := by
  constructor
  · rintro ⟨q, hq, hr⟩
    simp only [Option.some.injEq] at hq
    rw [hq]
    exact hr
  · exact fun h => ⟨r, rfl, h⟩

@[simp] theorem not_indexed_none : ¬ Indexed holds none := by
  rintro ⟨q, hq, -⟩
  simp at hq

/-- At most one row is in the index: of those committed, of those that a transaction sees, and of
those that any two transactions have written. -/
structure UniqueIndex (holds : V → Prop) (cells : ι → Cell τ V) : Prop where
  committed : ∀ i j, Indexed holds (cells i).committed → Indexed holds (cells j).committed → i = j
  seen : ∀ t i j, Indexed holds ((cells i).visible t) → Indexed holds ((cells j).visible t) → i = j
  written : ∀ t u i j, (cells i).locked t → (cells j).locked u →
    Indexed holds ((cells i).visible t) → Indexed holds ((cells j).visible u) → i = j

/-- Nothing keeps `t` from having row `i` in the index: no other row that it sees is in it, and none
that another transaction is writing. -/
structure Clear (holds : V → Prop) (t : τ) (i : ι) (cells : ι → Cell τ V) : Prop where
  seen : ∀ j, Indexed holds ((cells j).visible t) → j = i
  written : ∀ u j, (cells j).locked u → Indexed holds ((cells j).visible u) → j = i

namespace Cell

variable {t u : τ} {c : Cell τ V}

theorem visible_of_not_locked (h : ¬ c.locked t) : c.visible t = c.committed :=
  visible_eq_committed (own_eq_nil_of_not_locked h)

theorem not_locked_of_free (hne : u ≠ t) (h : c.free t = true) : ¬ c.locked u := by
  rintro ⟨vs, hvs⟩
  simp only [free, hvs, decide_eq_true_eq] at h
  exact hne h

/-- Somebody else's write is out of sight. -/
theorem visible_write_other (hne : u ≠ t) (v : Option V) (h : c.free t = true) :
    (c.write t v).visible u = c.visible u := by
  rw [visible_of_not_locked (not_locked_of_free hne h),
    visible_of_not_locked (not_locked_of_locked hne (locked_write v))]
  rfl

theorem locked_commit {v : τ} (h : (c.commit t).locked v) : v ≠ t ∧ c.locked v := by
  by_cases ht : c.locked t
  · obtain ⟨vs, hvs⟩ := ht
    rw [commit_of_locked hvs] at h
    obtain ⟨us, hus⟩ := h
    simp at hus
  · rw [commit_of_not_locked ht] at h
    refine ⟨?_, h⟩
    intro heq
    rw [heq] at h
    exact ht h

theorem own_commit : (c.commit t).own t = [] :=
  own_eq_nil_of_not_locked (fun hl => (locked_commit hl).1 rfl)

theorem visible_commit_locked {v : τ} (hne : v ≠ t) (h : c.locked v) :
    (c.commit t).visible v = c.visible v := by
  rw [commit_of_not_locked (not_locked_of_locked (fun heq => hne heq.symm) h)]

/-- What was not written over by somebody else is seen as the transaction leaves it. -/
theorem visible_commit_free {v : τ} (h : v = t ∨ ¬ c.locked v) :
    (c.commit t).visible v = c.visible t := by
  have hnot : ¬ (c.commit t).locked v := by
    intro hl
    obtain ⟨hne, hv⟩ := locked_commit hl
    rcases h with h | h
    · exact hne h
    · exact h hv
  rw [visible_of_not_locked hnot, committed_commit]

theorem locked_rollback {v : τ} (h : (c.rollback t).locked v) : v ≠ t ∧ c.locked v := by
  by_cases ht : c.locked t
  · obtain ⟨vs, hvs⟩ := ht
    rw [rollback_of_locked hvs] at h
    obtain ⟨us, hus⟩ := h
    simp at hus
  · rw [rollback_of_not_locked ht] at h
    refine ⟨?_, h⟩
    intro heq
    rw [heq] at h
    exact ht h

theorem own_rollback : (c.rollback t).own t = [] :=
  own_eq_nil_of_not_locked (fun hl => (locked_rollback hl).1 rfl)

theorem visible_rollback_other {v : τ} (hne : v ≠ t) : (c.rollback t).visible v = c.visible v := by
  by_cases ht : c.locked t
  · have hnot : ¬ (c.rollback t).locked v :=
      fun hl => not_locked_of_locked hne ht (locked_rollback hl).2
    rw [visible_of_not_locked hnot, visible_of_not_locked (not_locked_of_locked hne ht),
      committed_rollback]
  · rw [rollback_of_not_locked ht]

theorem visible_rollback_self : (c.rollback t).visible t = c.committed := by
  have hnot : ¬ (c.rollback t).locked t := fun hl => (locked_rollback hl).1 rfl
  rw [visible_of_not_locked hnot, committed_rollback]

end Cell

namespace UniqueIndex

variable {t : τ} {i : ι} {cells : ι → Cell τ V}

theorem empty : UniqueIndex holds (fun _ : ι => (Cell.empty : Cell τ V)) := by
  refine ⟨?_, ?_, ?_⟩
  · intro i j h
    simp at h
  · intro t i j h
    simp at h
  · intro t u i j _ _ h
    simp at h

/-- A row that is in the index already keeps its place. -/
theorem clear (h : UniqueIndex holds cells) (hfree : (cells i).free t = true)
    (hin : Indexed holds ((cells i).visible t)) : Clear holds t i cells := by
  refine ⟨fun j hj => h.seen t j i hj hin, ?_⟩
  intro u j hl hj
  by_cases hlt : (cells i).locked t
  · exact h.written u t j i hl hlt hj hin
  · by_cases hut : u = t
    · subst hut
      exact h.seen u j i hj hin
    · -- nobody has row `i`, so `u` sees the same of it
      have hsame : (cells i).visible u = (cells i).visible t := by
        rw [Cell.visible_of_not_locked hlt,
          Cell.visible_of_not_locked (Cell.not_locked_of_free hut hfree)]
      rw [← hsame] at hin
      exact h.seen u j i hj hin

/-- A write, of a row that is not in the index or has nothing in its way. -/
theorem write [DecidableEq ι] (h : UniqueIndex holds cells) {r : V}
    (hfree : (cells i).free t = true)
    (hclear : holds r → Clear holds t i cells) :
    UniqueIndex holds (Function.update cells i ((cells i).write t (some r))) := by
  have hself : ∀ u, u ≠ t → ∀ j,
      (Function.update cells i ((cells i).write t (some r)) j).visible u = (cells j).visible u := by
    intro u hu j
    by_cases hj : j = i
    · subst hj
      rw [Function.update_self]
      exact Cell.visible_write_other hu _ hfree
    · rw [Function.update_of_ne hj]
  have hcommitted : ∀ j, (Function.update cells i ((cells i).write t (some r)) j).committed =
      (cells j).committed := by
    intro j
    by_cases hj : j = i
    · subst hj
      rw [Function.update_self]
      rfl
    · rw [Function.update_of_ne hj]
  have hlocked : ∀ j u, j ≠ i →
      (Function.update cells i ((cells i).write t (some r)) j).locked u → (cells j).locked u := by
    intro j u hj hl
    rw [Function.update_of_ne hj] at hl
    exact hl
  have hmine : ∀ j, j ≠ i →
      (Function.update cells i ((cells i).write t (some r)) j).visible t = (cells j).visible t := by
    intro j hj
    rw [Function.update_of_ne hj]
  -- row `i`, as `t` sees it now, against any other that is seen or written
  have hagainst : ∀ j, Indexed holds
      ((Function.update cells i ((cells i).write t (some r)) i).visible t) →
      (Indexed holds ((cells j).visible t) ∨
        ∃ u, (cells j).locked u ∧ Indexed holds ((cells j).visible u)) → j = i := by
    intro j hin hother
    rw [Function.update_self, Cell.visible_write, indexed_some] at hin
    rcases hother with hj | ⟨u, hl, hj⟩
    · exact (hclear hin).seen j hj
    · exact (hclear hin).written u j hl hj
  have hseen : ∀ u j k,
      Indexed holds ((Function.update cells i ((cells i).write t (some r)) j).visible u) →
      Indexed holds ((Function.update cells i ((cells i).write t (some r)) k).visible u) →
      j = k := by
    intro u j k hj hk
    by_cases hu : u = t
    · subst hu
      by_cases hji : j = i
      · by_cases hki : k = i
        · rw [hji, hki]
        · rw [hji] at hj
          rw [hmine k hki] at hk
          rw [hji, hagainst k hj (Or.inl hk)]
      · rw [hmine j hji] at hj
        by_cases hki : k = i
        · rw [hki] at hk
          rw [hki, hagainst j hk (Or.inl hj)]
        · rw [hmine k hki] at hk
          exact h.seen u j k hj hk
    · rw [hself u hu] at hj hk
      exact h.seen u j k hj hk
  refine ⟨?_, hseen, ?_⟩
  · intro j k hj hk
    rw [hcommitted] at hj hk
    exact h.committed j k hj hk
  · intro u v j k hlj hlk hj hk
    by_cases huv : u = v
    · subst huv
      exact hseen u j k hj hk
    by_cases hji : j = i
    · by_cases hki : k = i
      · rw [hji, hki]
      · subst hji
        have hu : u = t := by
          by_contra hne
          rw [Function.update_self] at hlj
          exact Cell.not_locked_of_locked hne (Cell.locked_write _) hlj
        subst hu
        rw [hself v (fun heq => huv heq.symm)] at hk
        exact (hagainst k hj (Or.inr ⟨v, hlocked k v hki hlk, hk⟩)).symm
    · by_cases hki : k = i
      · subst hki
        have hv : v = t := by
          by_contra hne
          rw [Function.update_self] at hlk
          exact Cell.not_locked_of_locked hne (Cell.locked_write _) hlk
        subst hv
        rw [hself u huv] at hj
        exact hagainst j hk (Or.inr ⟨u, hlocked j u hji hlj, hj⟩)
      · rw [Function.update_of_ne hji] at hj
        rw [Function.update_of_ne hki] at hk
        exact h.written u v j k (hlocked j u hji hlj) (hlocked k v hki hlk) hj hk

theorem commit (h : UniqueIndex holds cells) (t : τ) :
    UniqueIndex holds (fun i => (cells i).commit t) := by
  -- a row that `v` has written against one that it has not
  have hmixed : ∀ v j k, v ≠ t → (cells j).locked v → ¬ (cells k).locked v →
      Indexed holds ((cells j).visible v) → Indexed holds ((cells k).visible t) → j = k := by
    intro v j k hv hlj hlk hj hk
    by_cases hlt : (cells k).locked t
    · exact h.written v t j k hlj hlt hj hk
    · rw [Cell.visible_of_not_locked hlt, ← Cell.visible_of_not_locked hlk] at hk
      exact h.seen v j k hj hk
  refine ⟨?_, ?_, ?_⟩
  · intro j k hj hk
    rw [Cell.committed_commit] at hj hk
    exact h.seen t j k hj hk
  · intro v j k hj hk
    by_cases hv : v = t
    · rw [Cell.visible_commit_free (Or.inl hv)] at hj hk
      exact h.seen t j k hj hk
    by_cases hlj : (cells j).locked v
    · rw [Cell.visible_commit_locked hv hlj] at hj
      by_cases hlk : (cells k).locked v
      · rw [Cell.visible_commit_locked hv hlk] at hk
        exact h.seen v j k hj hk
      · rw [Cell.visible_commit_free (Or.inr hlk)] at hk
        exact hmixed v j k hv hlj hlk hj hk
    · rw [Cell.visible_commit_free (Or.inr hlj)] at hj
      by_cases hlk : (cells k).locked v
      · rw [Cell.visible_commit_locked hv hlk] at hk
        exact (hmixed v k j hv hlk hlj hk hj).symm
      · rw [Cell.visible_commit_free (Or.inr hlk)] at hk
        exact h.seen t j k hj hk
  · intro v w j k hlj hlk hj hk
    obtain ⟨hv, hlj⟩ := Cell.locked_commit hlj
    obtain ⟨hw, hlk⟩ := Cell.locked_commit hlk
    rw [Cell.visible_commit_locked hv hlj] at hj
    rw [Cell.visible_commit_locked hw hlk] at hk
    exact h.written v w j k hlj hlk hj hk

theorem rollback (h : UniqueIndex holds cells) (t : τ) :
    UniqueIndex holds (fun i => (cells i).rollback t) := by
  refine ⟨?_, ?_, ?_⟩
  · intro j k hj hk
    rw [Cell.committed_rollback] at hj hk
    exact h.committed j k hj hk
  · intro v j k hj hk
    by_cases hv : v = t
    · subst hv
      rw [Cell.visible_rollback_self] at hj hk
      exact h.committed j k hj hk
    · rw [Cell.visible_rollback_other hv] at hj hk
      exact h.seen v j k hj hk
  · intro v w j k hlj hlk hj hk
    obtain ⟨hv, hlj⟩ := Cell.locked_rollback hlj
    obtain ⟨hw, hlk⟩ := Cell.locked_rollback hlk
    rw [Cell.visible_rollback_other hv] at hj
    rw [Cell.visible_rollback_other hw] at hk
    exact h.written v w j k hlj hlk hj hk

end UniqueIndex

end ReadCommitted
