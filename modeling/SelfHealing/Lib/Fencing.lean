/-
A number that counts how often something has changed hands.

Whoever remembers the number with the holder can tell later whether there was a change in between,
also where the holder has come back: the number is the same only if nobody else ever held it.

The number starts at nothing and is positive from the first holder on (`Numbered`).  That is what
tells a thing that was never held from one that was, and it is kept by every binding, whether or not
it brings a new holder.  Over a sequence of bindings the number only grows, and where it is the same
at two times so is the holder at every time in between (`holder_eq`).
-/
import Mathlib

namespace Fencing

/-- Who holds it, and how often that has changed. -/
structure Binding (T : Type) where
  holder : Option T
  generation : Int

variable {T : Type}

/-- Either nothing changes, or the holder does and the change is counted.  A change back to an
earlier holder is a change like any other. -/
def Counts (b b' : Binding T) : Prop :=
  b'.holder = b.holder ∧ b'.generation = b.generation ∨
    b'.holder ≠ b.holder ∧ b'.generation = b.generation + 1

/-- Without a holder the number is zero, and with one it is positive. -/
def Binding.Numbered (b : Binding T) : Prop :=
  b.holder = none ∧ b.generation = 0 ∨ b.holder.isSome ∧ 1 ≤ b.generation

theorem Binding.Numbered.nonneg {b : Binding T} (h : b.Numbered) : 0 ≤ b.generation := by
  rcases h with ⟨-, hzero⟩ | ⟨-, hpos⟩
  · exact hzero.ge
  · omega

section Bind

variable [DecidableEq T] {b : Binding T}

/-- Bind it to a holder.  The first number that a holder has is one. -/
def Binding.bind (b : Binding T) (holder : T) : Binding T where
  holder := some holder
  generation :=
    if b.holder ≠ some holder then b.generation + 1
    else if 0 < b.generation then b.generation
    else 1

theorem Binding.Numbered.bind (h : b.Numbered) (holder : T) : (b.bind holder).Numbered := by
  have hnonneg := h.nonneg
  refine Or.inr ⟨rfl, ?_⟩
  unfold Binding.bind
  simp only
  split
  · omega
  · split
    · omega
    · exact le_rfl

theorem Binding.Numbered.counts (h : b.Numbered) (holder : T) : Counts b (b.bind holder) := by
  by_cases hsame : b.holder = some holder
  · have hpos : 0 < b.generation := by
      rcases h with ⟨hnone, -⟩ | ⟨-, hpos⟩
      · rw [hnone] at hsame
        cases hsame
      · exact hpos
    refine Or.inl ⟨hsame.symm, ?_⟩
    unfold Binding.bind
    rw [if_neg (not_not.mpr hsame), if_pos hpos]
  · exact Or.inr ⟨Ne.symm hsame, if_pos hsame⟩

end Bind

section History

variable {b : Nat → Binding T}

theorem generation_monotone (h : ∀ n, Counts (b n) (b (n + 1))) :
    Monotone fun n => (b n).generation := by
  refine monotone_nat_of_le_succ fun n => ?_
  rcases h n with ⟨-, heq⟩ | ⟨-, heq⟩
  · exact heq.ge
  · rw [heq]
    omega

/-- **The number is the same only if nobody else ever held it.** -/
theorem holder_eq (h : ∀ n, Counts (b n) (b (n + 1))) {i j : Nat}
    (hsame : (b i).generation = (b j).generation) :
    ∀ {k}, i ≤ k → k ≤ j → (b k).holder = (b i).holder ∧ (b k).generation = (b i).generation := by
  intro k hik
  induction k, hik using Nat.le_induction with
  | base => exact fun _ => ⟨rfl, rfl⟩
  | succ k hik ih =>
      intro hkj
      obtain ⟨hholder, hgeneration⟩ := ih (Nat.le_of_succ_le hkj)
      have hle : (b (k + 1)).generation ≤ (b j).generation := generation_monotone h hkj
      rcases h k with ⟨hkept, hnumber⟩ | ⟨-, hnumber⟩
      · exact ⟨hkept.trans hholder, hnumber.trans hgeneration⟩
      · omega

end History

end Fencing
