/-
What stays true, whatever a program does.

An assertion that no step makes false, be it a step of the program or of another one, may be set
aside while the program is looked at, and holds again when it has ended.  So a triple about a
program says only what is new, and what has been found out before is carried past it by `frame`.

What lasts is closed under conjunction, and so several facts are carried together.  The other
direction is here too: what is known of all steps of a program is a triple about it
(`triple_of_steps`), so that an invariant of steps need not be shown along the program again.
-/
import SelfHealing.Lib.History
import SelfHealing.Lib.RelyGuarantee
import SelfHealing.Lib.StateGraph

namespace Interleaving.Protocol

variable {W A E σ α ε : Type} {P : Protocol W A E σ} {p : Nat} {R S : σ → Prop}

/-- An assertion that no step makes false. -/
structure Lasting (P : Protocol W A E σ) (p : Nat) (R : σ → Prop) : Prop where
  others : P.Stable p R
  own : ∀ s s', P.inv s → R s → P.guar p s s' → P.machine.admits s s' → R s'

theorem lasting_const (a : Prop) : P.Lasting p (fun _ => a) :=
  ⟨stable_const a, fun _ _ _ h _ _ => h⟩

theorem Lasting.and (h : P.Lasting p R) (h' : P.Lasting p S) :
    P.Lasting p (fun s => R s ∧ S s) :=
  ⟨h.others.and h'.others, fun s s' hinv hR hguar hadm =>
    ⟨h.own s s' hinv hR.1 hguar hadm, h'.own s s' hinv hR.2 hguar hadm⟩⟩

theorem Safe.frame (hR : P.Lasting p R) {x : Proc W σ α} {Q : α → σ → Prop} {s : σ}
    (hinv : P.inv s) (h : P.Safe p x Q s) (hs : R s) :
    P.Safe p x (fun a s' => Q a s' ∧ R s') s := by
  induction x generalizing s with
  | ret a => exact ⟨h, hs⟩
  | step f k ih =>
      intro s₁ hinv₁ hrely w b s₂ hf hadm
      obtain ⟨hguar, hrest⟩ := h s₁ hinv₁ hrely w b s₂ hf hadm
      have hs₁ : R s₁ := hR.others.rely hinv hs hrely
      exact ⟨hguar, ih b (P.inv_guar p _ _ hinv₁ hguar hadm) hrest
        (hR.own _ _ hinv₁ hs₁ hguar hadm)⟩

section Triple

variable {x : Prog W σ ε α} {Q : α → σ → Prop} {X : ε → σ → Prop}

/-- **What lasts may be set aside.** -/
theorem Triple.frame (h : P.Triple p R x Q X) (hS : P.Lasting p S) :
    P.Triple p (fun s => R s ∧ S s) x (fun a s => Q a s ∧ S s) (fun e s => X e s ∧ S s) := by
  intro s hinv hs
  refine ((h s hinv hs.1).frame hS hinv hs.2).mono ?_
  intro r s' hr
  cases r with
  | ok a => exact hr
  | error e => exact hr

/-- What is known to exist may be named. -/
theorem triple_exists {γ : Type} {R : γ → σ → Prop} (h : ∀ c, P.Triple p (R c) x Q X) :
    P.Triple p (fun s => ∃ c, R c s) x Q X :=
  fun s hinv ⟨c, hc⟩ => h c s hinv hc

/-- A program all of whose steps are within the guarantee and keep the assertion. -/
theorem safe_of_steps {S : σ → σ → Prop} {x : Proc W σ α} {s : σ} (hx : x.Within S)
    (hst : P.Stable p R) (h : ∀ s s', P.inv s → R s → S s s' → P.guar p s s' ∧ R s')
    (hinv : P.inv s) (hR : R s) : P.Safe p x (fun _ => R) s := by
  induction x generalizing s with
  | ret a => exact hR
  | step f k ih =>
      intro s₁ hinv₁ hrely w b s₂ hf hadm
      obtain ⟨hguar, hR₂⟩ := h s₁ s₂ hinv₁ (hst.rely hinv hR hrely) (hx.1 w s₁ b s₂ hf)
      exact ⟨hguar, ih b (hx.2 b) (P.inv_guar p _ _ hinv₁ hguar hadm) hR₂⟩

/-- **What every step keeps, the program keeps**, however it ends. -/
theorem triple_of_steps {S : σ → σ → Prop} (hx : Prog.Within S x) (hst : P.Stable p R)
    (h : ∀ s s', P.inv s → R s → S s s' → P.guar p s s' ∧ R s') :
    P.Triple p R x (fun _ => R) (fun _ => R) := by
  intro s hinv hR
  refine (safe_of_steps hx.run hst h hinv hR).mono ?_
  intro r s' hs'
  cases r with
  | ok a => exact hs'
  | error e => exact hs'

/-- What every node keeps, the graph keeps. -/
theorem triple_invoke {N S : Type} {G : StateGraph W σ ε N S} {exhausted : ε}
    (hnode : ∀ n s, P.Triple p R (G.node n s) (fun _ => R) (fun _ => R)) (limit : Nat) (n : N)
    (s : S) : P.Triple p R (G.invoke exhausted limit n s) (fun _ => R) (fun _ => R) := by
  induction limit generalizing n s with
  | zero => exact triple_throw exhausted fun _ _ h => h
  | succ limit ih =>
      refine (hnode n s).bind fun s' => ?_
      split
      · exact triple_pure s' fun _ _ h => h
      · exact ih _ _

/-- A program whose result is not looked at. -/
theorem Triple.ends (h : P.Triple p R x Q X) {s : σ} (hinv : P.inv s) (hR : R s) :
    P.Safe p (do let _ ← x.run; pure ()) (fun _ _ => True) s := by
  rw [safe_bind]
  exact (h s hinv hR).mono fun _ _ _ => trivial

end Triple

end Interleaving.Protocol
