/-
Reasoning about one process while the others run.

A process is checked against a guarantee: a relation that every one of its steps
must stay within.  Between two of its steps the others may take any number of
theirs, and all that is known of those is their own guarantees.  `Safe` says that a
program keeps to its guarantee under that interference and ends, if it ends, in
its postcondition; it is defined by recursion on the program, so it is a weakest
precondition, and sequencing is an equation.

The two theorems at the end are what the calculus is for.  If every program that
may be started is `Safe`, an invariant kept by the guarantees holds in every state
the system reaches, and the system as a whole refines the transition system whose
steps are the guarantees.
-/
import SelfHealing.Lib.Process

namespace Interleaving

variable {W A E σ α β ε : Type}

/-- What is assumed of a system: what each process guarantees, and an invariant.  The guarantee of a
process is what all others may rely on, whatever its program is. -/
structure Protocol (W A E σ : Type) where
  machine : Machine W A E σ
  /-- Every step of process `p` lies in `guar p`. -/
  guar : Nat → σ → σ → Prop
  /-- What holds in every state. -/
  inv : σ → Prop
  inv_guar : ∀ p s s', inv s → guar p s s' → machine.admits s s' → inv s'
  inv_crash : ∀ p s, inv s → inv (machine.crash p s)
  inv_env : ∀ e s s', inv s → machine.env e s = some s' → machine.admits s s' → inv s'

namespace Protocol

variable (P : Protocol W A E σ)

/-- One step of anything but process `p`. -/
inductive Other (p : Nat) : σ → σ → Prop
  | proc (q : Nat) {s s' : σ} (hne : q ≠ p) (h : P.guar q s s')
      (hadm : P.machine.admits s s') : Other p s s'
  | crash (q : Nat) (s : σ) (hne : q ≠ p) : Other p s (P.machine.crash q s)
  | env (e : E) {s s' : σ} (h : P.machine.env e s = some s')
      (hadm : P.machine.admits s s') : Other p s s'

/-- What process `p` can find changed between two of its own steps. -/
def Rely (p : Nat) : σ → σ → Prop := Relation.ReflTransGen (P.Other p)

/-- An assertion the others cannot make false. -/
def Stable (p : Nat) (R : σ → Prop) : Prop :=
  ∀ s s', P.inv s → R s → P.Other p s s' → R s'

/-- The program keeps to the guarantee of `p`, whatever the others do, and ends in `Q`.  Between any
two of its steps the state may change as the rely of `p` admits. -/
def Safe (p : Nat) : Proc W σ α → (α → σ → Prop) → σ → Prop
  | .ret a, Q, s => Q a s
  | .step f k, Q, s =>
      ∀ s₁, P.inv s₁ → P.Rely p s s₁ → ∀ w b s₂, f w s₁ = some (b, s₂) →
        P.machine.admits s₁ s₂ → P.guar p s₁ s₂ ∧ Safe p (k b) Q s₂

variable {P} {p : Nat}

theorem inv_other {s s' : σ} (hinv : P.inv s) (h : P.Other p s s') : P.inv s' := by
  cases h with
  | proc q hne h hadm => exact P.inv_guar q _ _ hinv h hadm
  | crash q s hne => exact P.inv_crash q _ hinv
  | env e h hadm => exact P.inv_env e _ _ hinv h hadm

theorem Stable.rely {R : σ → Prop} (hst : P.Stable p R) {s s' : σ} (hinv : P.inv s)
    (h : R s) (hrely : P.Rely p s s') : R s' := by
  have key : P.inv s' ∧ R s' := by
    induction hrely with
    | refl => exact ⟨hinv, h⟩
    | tail _ hstep ih => exact ⟨inv_other ih.1 hstep, hst _ _ ih.1 ih.2 hstep⟩
  exact key.2

/-! ### The rules -/

@[simp] theorem safe_ret (a : α) (Q : α → σ → Prop) (s : σ) :
    P.Safe p (Proc.ret a) Q s ↔ Q a s := Iff.rfl

/-- Sequencing: the first program has to end where the rest is safe. -/
@[simp] theorem safe_bind (x : Proc W σ α) (g : α → Proc W σ β) (Q : β → σ → Prop) (s : σ) :
    P.Safe p (x >>= g) Q s ↔ P.Safe p x (fun a s' => P.Safe p (g a) Q s') s := by
  induction x generalizing s with
  | ret a => exact Iff.rfl
  | step f k ih =>
      rw [Proc.step_bind]
      simp only [Safe, ih]

theorem Safe.mono {x : Proc W σ α} {Q Q' : α → σ → Prop} {s : σ} (h : P.Safe p x Q s)
    (hQ : ∀ a s', Q a s' → Q' a s') : P.Safe p x Q' s := by
  induction x generalizing s with
  | ret a => exact hQ a s h
  | step f k ih =>
      intro s₁ hinv hrely w b s₂ hf hadm
      obtain ⟨hg, hk⟩ := h s₁ hinv hrely w b s₂ hf hadm
      exact ⟨hg, ih b hk⟩

/-- One atomic step, entered with an assertion the others keep. -/
theorem safe_atomic {R : σ → Prop} {f : W → σ → Option (α × σ)} {Q : α → σ → Prop} {s : σ}
    (hinv : P.inv s) (hR : R s) (hst : P.Stable p R)
    (hstep : ∀ s₁ w a s₂, P.inv s₁ → R s₁ → f w s₁ = some (a, s₂) →
      P.machine.admits s₁ s₂ → P.guar p s₁ s₂ ∧ Q a s₂) :
    P.Safe p (Proc.atomic f) Q s := by
  intro s₁ hinv₁ hrely w b s₂ hf hadm
  exact hstep s₁ w b s₂ hinv₁ (hst.rely hinv hR hrely) hf hadm

/-- A program that is safe stays so while the others move, if they keep what it ends in. -/
theorem Safe.rely {x : Proc W σ α} {Q : α → σ → Prop} (hst : ∀ a, P.Stable p (Q a)) {s s' : σ}
    (hinv : P.inv s) (h : P.Safe p x Q s) (hrely : P.Rely p s s') : P.Safe p x Q s' := by
  cases x with
  | ret a => exact (hst a).rely hinv h hrely
  | step f k =>
      intro s₁ hinv₁ hrely₁ w b s₂ hf hadm
      exact h s₁ hinv₁ (hrely.trans hrely₁) w b s₂ hf hadm

/-- What a safe program ends in satisfies the invariant as well. -/
theorem Safe.with_inv {x : Proc W σ α} {Q : α → σ → Prop} {s : σ} (hinv : P.inv s)
    (h : P.Safe p x Q s) : P.Safe p x (fun a s' => P.inv s' ∧ Q a s') s := by
  induction x generalizing s with
  | ret a => exact ⟨hinv, h⟩
  | step f k ih =>
      intro s₁ hinv₁ hrely w b s₂ hf hadm
      obtain ⟨hg, hk⟩ := h s₁ hinv₁ hrely w b s₂ hf hadm
      exact ⟨hg, ih b (P.inv_guar p _ _ hinv₁ hg hadm) hk⟩

/-! ### Programs that raise

A triple has two postconditions, one for the value returned and one for the
exception raised.
-/

/-- The two postconditions as one, on the result of the underlying program. -/
def post (Q : α → σ → Prop) (X : ε → σ → Prop) : Except ε α → σ → Prop
  | .ok a, s => Q a s
  | .error e, s => X e s

/-- Entered in `R`, the program returns in `Q` or raises in `X`, keeping to the guarantee. -/
def Triple (P : Protocol W A E σ) (p : Nat) (R : σ → Prop) (x : Prog W σ ε α)
    (Q : α → σ → Prop) (X : ε → σ → Prop) : Prop :=
  ∀ s, P.inv s → R s → P.Safe p x.run (post Q X) s

section Triple

variable {R R' : σ → Prop} {Q Q' : α → σ → Prop} {X X' : ε → σ → Prop}

theorem triple_pure (a : α) (h : ∀ s, P.inv s → R s → Q a s) :
    P.Triple p R (pure a : Prog W σ ε α) Q X :=
  fun s hinv hR => h s hinv hR

theorem triple_throw (e : ε) (h : ∀ s, P.inv s → R s → X e s) :
    P.Triple p R (throw e : Prog W σ ε α) Q X :=
  fun s hinv hR => h s hinv hR

theorem Triple.conseq {x : Prog W σ ε α} (h : P.Triple p R x Q X)
    (hR : ∀ s, P.inv s → R' s → R s) (hQ : ∀ a s, P.inv s → Q a s → Q' a s)
    (hX : ∀ e s, P.inv s → X e s → X' e s) : P.Triple p R' x Q' X' := by
  intro s hinv hR'
  refine ((h s hinv (hR s hinv hR')).with_inv hinv).mono ?_
  intro r s' hr
  cases r with
  | ok a => exact hQ a s' hr.1 hr.2
  | error e => exact hX e s' hr.1 hr.2

theorem Triple.pre {x : Prog W σ ε α} (h : P.Triple p R x Q X)
    (hR : ∀ s, P.inv s → R' s → R s) : P.Triple p R' x Q X :=
  h.conseq hR (fun _ _ _ h => h) (fun _ _ _ h => h)

/-- What does not depend on the state may be assumed. -/
theorem triple_fact {a : Prop} {x : Prog W σ ε α} (h : a → P.Triple p R x Q X) :
    P.Triple p (fun s => a ∧ R s) x Q X :=
  fun s hinv hR => h hR.1 s hinv hR.2

theorem Triple.bind {x : Prog W σ ε α} {g : α → Prog W σ ε β} {M : α → σ → Prop}
    {Q : β → σ → Prop} (hx : P.Triple p R x M X) (hg : ∀ a, P.Triple p (M a) (g a) Q X) :
    P.Triple p R (x >>= g) Q X := by
  intro s hinv hR
  show P.Safe p (x.run >>= ExceptT.bindCont g) (post Q X) s
  rw [safe_bind]
  refine ((hx s hinv hR).with_inv hinv).mono ?_
  intro r s' hr
  cases r with
  | ok a => exact hg a s' hr.1 hr.2
  | error e => exact hr.2

theorem Triple.handle {x : Prog W σ ε α} {g : ε → Prog W σ ε α} {M : ε → σ → Prop}
    (hx : P.Triple p R x Q M) (hg : ∀ e, P.Triple p (M e) (g e) Q X) :
    P.Triple p R (tryCatch x g) Q X := by
  intro s hinv hR
  show P.Safe p (tryCatch x g : Prog W σ ε α).run (post Q X) s
  rw [Prog.run_tryCatch, safe_bind]
  refine ((hx s hinv hR).with_inv hinv).mono ?_
  intro r s' hr
  cases r with
  | ok a => exact hr.2
  | error e => exact hg e s' hr.1 hr.2

/-- One atomic step: its assertion must be one the others keep. -/
theorem triple_stmt {f : W → σ → Option (Except ε α × σ)} (hst : P.Stable p R)
    (hstep : ∀ s w r s', P.inv s → R s → f w s = some (r, s') → P.machine.admits s s' →
      P.guar p s s' ∧ post Q X r s') :
    P.Triple p R (Prog.stmt f) Q X := by
  intro s hinv hR
  exact safe_atomic hinv hR hst hstep

end Triple

/-! ### Stable assertions

What is said between two steps must not be made false by the others.  Assertions that are stable are
so together, and for every value.
-/

theorem Stable.and {R R' : σ → Prop} (h : P.Stable p R) (h' : P.Stable p R') :
    P.Stable p (fun s => R s ∧ R' s) :=
  fun s s' hinv hR hother => ⟨h s s' hinv hR.1 hother, h' s s' hinv hR.2 hother⟩

theorem stable_const (a : Prop) : P.Stable p (fun _ => a) :=
  fun _ _ _ h _ => h

theorem Stable.exists {γ : Type} {R : γ → σ → Prop} (h : ∀ c, P.Stable p (R c)) :
    P.Stable p (fun s => ∃ c, R c s) :=
  fun s s' hinv ⟨c, hc⟩ hother => ⟨c, h c s s' hinv hc hother⟩

/-! ### What follows for the system -/

/-- What the system does, seen from outside the programs: guarantees, crashes, the environment. -/
inductive Act (P : Protocol W A E σ) : σ → σ → Prop
  | proc (p : Nat) {s s' : σ} (h : P.guar p s s') (hadm : P.machine.admits s s') : Act P s s'
  | crash (p : Nat) (s : σ) : Act P s (P.machine.crash p s)
  | env (e : E) {s s' : σ} (h : P.machine.env e s = some s') (hadm : P.machine.admits s s') :
      Act P s s'

/-! A process that is not running has left the state as `Rest` says, and counts on it when it is
started again. -/

section Resting

variable (Rest : Nat → σ → Prop)

/-- Every program that may be started leaves things at rest where it has found them so. -/
structure RestsIn (P : Protocol W A E σ) (Rest : Nat → σ → Prop) : Prop where
  stable : ∀ p, P.Stable p (Rest p)
  crash : ∀ p s, P.inv s → Rest p (P.machine.crash p s)
  safe : ∀ p a s, P.inv s → Rest p s → P.machine.ready p a s →
    P.Safe p (P.machine.prog p a) (fun _ => Rest p) s

/-- The configurations the proof keeps to: the invariant, every process that runs safe, and every
other one at rest. -/
structure SoundIn (P : Protocol W A E σ) (Rest : Nat → σ → Prop) (c : Config W σ) : Prop where
  inv : P.inv c.state
  safe : ∀ p prog, c.procs p = some prog → P.Safe p prog (fun _ => Rest p) c.state
  rest : ∀ p, c.procs p = none → Rest p c.state

variable {Rest}

/-- The state changes under all processes but `q`, which goes on as `next`. -/
theorem SoundIn.others (hv : P.RestsIn Rest) {c : Config W σ} (h : P.SoundIn Rest c) {q : Nat}
    {s' : σ} {next : Option (Proc W σ Unit)} (hinv : P.inv s')
    (hmove : ∀ r, r ≠ q → P.Rely r c.state s')
    (hsafe : ∀ prog, next = some prog → P.Safe q prog (fun _ => Rest q) s')
    (hrest : next = none → Rest q s') :
    P.SoundIn Rest ⟨s', Function.update c.procs q next⟩ := by
  refine ⟨hinv, ?_, ?_⟩
  · intro r prog hr
    by_cases hrq : r = q
    · subst hrq
      simp only [Function.update_self] at hr
      exact hsafe prog hr
    · simp only [Function.update_of_ne hrq] at hr
      exact (h.safe r prog hr).rely (fun _ => hv.stable r) h.inv (hmove r hrq)
  · intro r hr
    by_cases hrq : r = q
    · subst hrq
      simp only [Function.update_self] at hr
      exact hrest hr
    · simp only [Function.update_of_ne hrq] at hr
      exact (hv.stable r).rely h.inv (h.rest r hr) (hmove r hrq)

theorem SoundIn.step (hv : P.RestsIn Rest) {c c' : Config W σ} (h : P.SoundIn Rest c)
    (hstep : Step P.machine c c') :
    P.SoundIn Rest c' ∧ (c'.state = c.state ∨ P.Act c.state c'.state) := by
  have hnone : ∀ r, P.Rely r c.state c.state := fun _ => Relation.ReflTransGen.refl
  cases hstep with
  | start q a hfree hready =>
      refine ⟨h.others hv h.inv (fun r _ => hnone r) ?_ (fun hn => by simp at hn), Or.inl rfl⟩
      intro prog hprog
      simp only [Option.some.injEq] at hprog
      rw [← hprog]
      exact hv.safe q a _ h.inv (h.rest q hfree) hready
  | run q w f k b s' hproc hf hadm =>
      have hsafe := h.safe q _ hproc
      obtain ⟨hg, hk⟩ := hsafe c.state h.inv Relation.ReflTransGen.refl w b s' hf hadm
      refine ⟨h.others hv (P.inv_guar q _ _ h.inv hg hadm) ?_ ?_ (fun hn => by simp at hn),
        Or.inr (Act.proc q hg hadm)⟩
      · intro r hrq
        exact Relation.ReflTransGen.single (Other.proc q (fun hc => hrq hc.symm) hg hadm)
      · intro prog hprog
        simp only [Option.some.injEq] at hprog
        rw [← hprog]
        exact hk
  | finish q u hproc =>
      refine ⟨h.others hv h.inv (fun r _ => hnone r) (fun _ hn => by simp at hn) ?_, Or.inl rfl⟩
      intro _
      exact h.safe q _ hproc
  | crash q prog hproc =>
      refine ⟨h.others hv (P.inv_crash q _ h.inv) ?_ (fun _ hn => by simp at hn) ?_,
        Or.inr (Act.crash q _)⟩
      · intro r hrq
        exact Relation.ReflTransGen.single (Other.crash q _ (fun hc => hrq hc.symm))
      · intro _
        exact hv.crash q _ h.inv
  | env e s' henv hadm =>
      have hmove : ∀ r, P.Rely r c.state s' := fun _ =>
        Relation.ReflTransGen.single (Other.env e henv hadm)
      refine ⟨⟨P.inv_env e _ _ h.inv henv hadm, ?_, ?_⟩, Or.inr (Act.env e henv hadm)⟩
      · intro r prog hr
        exact (h.safe r prog hr).rely (fun _ => hv.stable r) h.inv (hmove r)
      · intro r hr
        exact (hv.stable r).rely h.inv (h.rest r hr) (hmove r)

theorem SoundIn.reaches (hv : P.RestsIn Rest) {c c' : Config W σ} (h : P.SoundIn Rest c)
    (hr : Reaches P.machine c c') : P.SoundIn Rest c' := by
  induction hr with
  | refl => exact h
  | tail _ hstep ih => exact (ih.step hv hstep).1

/-- **An invariant holds in every state the system reaches**, if it is begun at rest. -/
theorem RestsIn.inv_of_reaches (hv : P.RestsIn Rest) {s : σ} (hinit : P.inv s)
    (hrest : ∀ p, Rest p s) {c : Config W σ} (hr : Reaches P.machine (Config.idle s) c) :
    P.inv c.state :=
  (SoundIn.reaches hv ⟨hinit, fun p prog hp => by simp [Config.idle] at hp, fun p _ => hrest p⟩
    hr).inv

end Resting

/-- Every program that may be started is safe in every state it may be started in. -/
def Verified (P : Protocol W A E σ) : Prop :=
  ∀ p a s, P.inv s → P.machine.ready p a s →
    P.Safe p (P.machine.prog p a) (fun _ _ => True) s

theorem Verified.restsIn (hv : P.Verified) : P.RestsIn (fun _ _ => True) :=
  ⟨fun _ => stable_const True, fun _ _ _ => trivial, fun p a s hinv _ hready =>
    hv p a s hinv hready⟩

/-- The configurations the proof keeps to: the invariant holds, and every process that is running is
safe from where it stands.  A start, a step and a crash all keep to these. -/
structure Sound (P : Protocol W A E σ) (c : Config W σ) : Prop where
  inv : P.inv c.state
  safe : ∀ p prog, c.procs p = some prog → P.Safe p prog (fun _ _ => True) c.state

theorem Sound.step (hv : P.Verified) {c c' : Config W σ} (h : P.Sound c)
    (hstep : Step P.machine c c') :
    P.Sound c' ∧ (c'.state = c.state ∨ P.Act c.state c'.state) := by
  have hin : P.SoundIn (fun _ _ => True) c := ⟨h.inv, h.safe, fun _ _ => trivial⟩
  obtain ⟨hin', hact⟩ := hin.step hv.restsIn hstep
  exact ⟨⟨hin'.inv, hin'.safe⟩, hact⟩

theorem sound_idle {s : σ} (h : P.inv s) : P.Sound (Config.idle s) :=
  ⟨h, fun p prog hp => by simp [Config.idle] at hp⟩

theorem Sound.reaches (hv : P.Verified) {c c' : Config W σ} (h : P.Sound c)
    (hr : Reaches P.machine c c') : P.Sound c' := by
  induction hr with
  | refl => exact h
  | tail _ hstep ih => exact (ih.step hv hstep).1

/-- **An invariant the guarantees keep holds in every state the system reaches.** -/
theorem inv_of_reaches (hv : P.Verified) {s : σ} (hinit : P.inv s) {c : Config W σ}
    (hr : Reaches P.machine (Config.idle s) c) : P.inv c.state :=
  ((sound_idle hinit).reaches hv hr).inv

/-- What the system does to the state is a run of `Act`. -/
theorem Sound.acts (hv : P.Verified) {c c' : Config W σ} (h : P.Sound c)
    (hr : Reaches P.machine c c') : Relation.ReflTransGen P.Act c.state c'.state := by
  induction hr with
  | refl => exact Relation.ReflTransGen.refl
  | tail hr hstep ih =>
      obtain ⟨-, heq | hact⟩ := (h.reaches hv hr).step hv hstep
      · rw [heq]; exact ih
      · exact ih.tail hact

end Protocol

end Interleaving
