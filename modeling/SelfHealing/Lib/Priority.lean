/-
Sorting by a key, and the first of those that qualify.

Sorting is stable: what has the same key stays in order.  The first element of the sorted list that
qualifies is therefore the first in the list as it was given among those of the least key
(`find?_sortOn_iff`), and where no two keys are the same the order of the given list does not matter
(`sortOn_congr`).

Nothing is asked of the order of the keys but that it is linear.  The least key is found without
sorting anything: `ComesFirst` speaks of the list as it was given.
-/
import Mathlib.Data.List.Sort

namespace Priority

variable {α K : Type} [LinearOrder K] (key : α → K)

/-- The elements by their keys, those with the same key as they were. -/
def sortOn (l : List α) : List α := l.insertionSort fun a b => key a ≤ key b

theorem sortOn_cons (a : α) (l : List α) :
    sortOn key (a :: l) = (sortOn key l).orderedInsert (fun a b => key a ≤ key b) a := rfl

theorem sortOn_perm (l : List α) : (sortOn key l).Perm l := List.perm_insertionSort _ l

theorem sortOn_sorted (l : List α) : (sortOn key l).Pairwise fun a b => key a ≤ key b := by
  have htotal : Std.Total fun a b : α => key a ≤ key b := ⟨fun a b => le_total (key a) (key b)⟩
  have htrans : IsTrans α fun a b => key a ≤ key b := ⟨fun _ _ _ h h' => le_trans h h'⟩
  exact List.pairwise_insertionSort _ l

/-- What is sorted already stays as it is. -/
theorem sortOn_of_sorted {l : List α} (h : l.Pairwise fun a b => key a ≤ key b) :
    sortOn key l = l := h.insertionSort_eq

variable {key}

/-- Elements with distinct keys are sorted in one way only. -/
theorem sortOn_congr {l l' : List α} (hkeys : (l.map key).Nodup) (h : l.Perm l') :
    sortOn key l = sortOn key l' := by
  have hperm : (sortOn key l).Perm (sortOn key l') :=
    (sortOn_perm key l).trans (h.trans (sortOn_perm key l').symm)
  refine hperm.eq_of_pairwise ?_ (sortOn_sorted key l) (sortOn_sorted key l')
  intro a b ha hb hle hle'
  have hmem : a ∈ l := (sortOn_perm key l).mem_iff.mp ha
  have hmem' : b ∈ l := h.mem_iff.mpr ((sortOn_perm key l').mem_iff.mp hb)
  exact List.inj_on_of_nodup_map hkeys hmem hmem' (le_antisymm hle hle')

/-! ### The first that qualifies -/

variable {p : α → Bool} {a b : α} {l : List α}

variable (key p) in
/-- The element qualifies, and none that does comes before it: none has a smaller key, and none of
the same key stands before it. -/
def ComesFirst (l : List α) (a : α) : Prop :=
  ∃ before after, l = before ++ a :: after ∧ p a = true ∧
    (∀ b ∈ before, p b = true → key a < key b) ∧ ∀ b ∈ after, p b = true → key a ≤ key b

/-- What is inserted is found if it qualifies and nothing of a smaller key does. -/
theorem find?_orderedInsert (hl : l.Pairwise fun a b => key a ≤ key b) :
    (l.orderedInsert (fun a b => key a ≤ key b) b).find? p =
      if p b = true then
        some ((l.find? p).elim b fun a => if key a < key b then a else b)
      else l.find? p := by
  induction l with
  | nil => by_cases hb : p b = true <;> simp [hb]
  | cons c rest ih =>
      obtain ⟨hc, hrest⟩ := List.pairwise_cons.mp hl
      by_cases hle : key b ≤ key c
      · rw [List.orderedInsert_cons, if_pos hle]
        by_cases hb : p b = true
        · rw [List.find?_cons_of_pos hb, if_pos hb]
          -- nothing that is found has a smaller key than what is inserted
          cases hfind : (c :: rest).find? p with
          | none => rfl
          | some a =>
              have hca : key c ≤ key a := by
                rcases List.mem_cons.mp (List.mem_of_find?_eq_some hfind) with rfl | hmem
                · exact le_refl _
                · exact hc a hmem
              rw [Option.elim_some, if_neg (not_lt.mpr (hle.trans hca))]
        · rw [List.find?_cons_of_neg hb, if_neg hb]
      · rw [List.orderedInsert_cons, if_neg hle]
        by_cases hpc : p c = true
        · rw [List.find?_cons_of_pos hpc, List.find?_cons_of_pos hpc, Option.elim_some,
            if_pos (not_le.mp hle), ite_self]
        · rw [List.find?_cons_of_neg hpc, List.find?_cons_of_neg hpc, ih hrest]

theorem comesFirst_cons (h : ComesFirst key p (b :: l) a) :
    (a = b ∧ p b = true ∧ ∀ c ∈ l, p c = true → key b ≤ key c) ∨
      (ComesFirst key p l a ∧ (p b = true → key a < key b)) := by
  obtain ⟨before, after, heq, hp, hbefore, hafter⟩ := h
  cases before with
  | nil =>
      rw [List.nil_append, List.cons.injEq] at heq
      obtain ⟨rfl, rfl⟩ := heq
      exact Or.inl ⟨rfl, hp, hafter⟩
  | cons c before =>
      rw [List.cons_append, List.cons.injEq] at heq
      obtain ⟨rfl, rfl⟩ := heq
      refine Or.inr ⟨⟨before, after, rfl, hp, ?_, hafter⟩, hbefore b List.mem_cons_self⟩
      exact fun c hc => hbefore c (List.mem_cons_of_mem _ hc)

/-- **The first of the sorted list that qualifies is the one that comes first.** -/
theorem find?_sortOn_iff : (sortOn key l).find? p = some a ↔ ComesFirst key p l a := by
  induction l generalizing a with
  | nil =>
      constructor
      · intro h
        cases h
      · rintro ⟨before, after, heq, -⟩
        exact absurd heq.symm (List.append_ne_nil_of_right_ne_nil _ (List.cons_ne_nil _ _))
  | cons b rest ih =>
      rw [sortOn_cons, find?_orderedInsert (sortOn_sorted key rest)]
      constructor
      · intro h
        by_cases hb : p b = true
        · rw [if_pos hb, Option.some.injEq] at h
          cases hfind : (sortOn key rest).find? p with
          | none =>
              rw [hfind, Option.elim_none] at h
              have hnone := List.find?_eq_none.mp hfind
              refine ⟨[], rest, by rw [h, List.nil_append], h ▸ hb, by simp, fun c hc hpc => ?_⟩
              exact absurd hpc (hnone c ((sortOn_perm key rest).mem_iff.mpr hc))
          | some a' =>
              rw [hfind, Option.elim_some] at h
              obtain ⟨before, after, heq, hp, hbefore, hafter⟩ := ih.mp hfind
              by_cases hlt : key a' < key b
              · rw [if_pos hlt] at h
                subst h
                refine ⟨b :: before, after, by rw [heq, List.cons_append], hp, ?_, hafter⟩
                intro c hc hpc
                rcases List.mem_cons.mp hc with rfl | hc
                · exact hlt
                · exact hbefore c hc hpc
              · rw [if_neg hlt] at h
                have hle : key b ≤ key a' := not_lt.mp hlt
                refine ⟨[], rest, by rw [h, List.nil_append], h ▸ hb, by simp, fun c hc hpc => ?_⟩
                rw [← h]
                rw [heq] at hc
                rcases List.mem_append.mp hc with hc | hc
                · exact hle.trans (le_of_lt (hbefore c hc hpc))
                · rcases List.mem_cons.mp hc with rfl | hc
                  · exact hle
                  · exact hle.trans (hafter c hc hpc)
        · rw [if_neg hb] at h
          obtain ⟨before, after, heq, hp, hbefore, hafter⟩ := ih.mp h
          refine ⟨b :: before, after, by rw [heq, List.cons_append], hp, ?_, hafter⟩
          intro c hc hpc
          rcases List.mem_cons.mp hc with rfl | hc
          · exact absurd hpc hb
          · exact hbefore c hc hpc
      · intro h
        rcases comesFirst_cons h with ⟨rfl, hb, hle⟩ | ⟨hfirst, hlt⟩
        · rw [if_pos hb, Option.some.injEq]
          cases hfind : (sortOn key rest).find? p with
          | none => rfl
          | some a' =>
              have hmem := (sortOn_perm key rest).mem_iff.mp (List.mem_of_find?_eq_some hfind)
              rw [Option.elim_some, if_neg (not_lt.mpr (hle a' hmem (List.find?_some hfind)))]
        · have hfind := ih.mpr hfirst
          by_cases hb : p b = true
          · rw [if_pos hb, hfind, Option.elim_some, if_pos (hlt hb)]
          · rw [if_neg hb, hfind]

theorem find?_sortOn_eq_none_iff :
    (sortOn key l).find? p = none ↔ ∀ a ∈ l, ¬ p a = true := by
  rw [List.find?_eq_none]
  exact ⟨fun h a ha => h a ((sortOn_perm key l).mem_iff.mpr ha),
    fun h a ha => h a ((sortOn_perm key l).mem_iff.mp ha)⟩

end Priority
