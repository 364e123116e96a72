/-
Every run of a program that is left alone, and some run of it.

`Always` asks for a postcondition of every run, whatever the world answers as long as the answers
are among those allowed; `Can` asks for one run; `Surely` asks for the postcondition of every run,
and that no run has to wait.  They are computed along the tree of steps, so that a program is
taken apart at its binds and handlers, and they come back to `Runs`.

For each of the three there is one equation for sequences and one for handlers.  A program is gone
through with these from its first statement to its last, and the answers of the world are dealt
with where they are given.
-/
import SelfHealing.Lib.History

namespace Interleaving

namespace Proc

variable {W σ α β : Type} {A : W → Prop}

/-- However the world answers, within `A`, the program ends in `Q` if it ends. -/
def Always (A : W → Prop) : Proc W σ α → (α → σ → Prop) → σ → Prop
  | .ret a, Q, s => Q a s
  | .step f k, Q, s => ∀ w, A w → ∀ b s', f w s = some (b, s') → Always A (k b) Q s'

/-- With some answers within `A`, the program ends in `Q`. -/
def Can (A : W → Prop) : Proc W σ α → (α → σ → Prop) → σ → Prop
  | .ret a, Q, s => Q a s
  | .step f k, Q, s => ∃ w, A w ∧ ∃ b s', f w s = some (b, s') ∧ Can A (k b) Q s'

/-- However the world answers, within `A`, the program ends, and in `Q`. -/
def Surely (A : W → Prop) : Proc W σ α → (α → σ → Prop) → σ → Prop
  | .ret a, Q, s => Q a s
  | .step f k, Q, s => ∀ w, A w → ∃ b s', f w s = some (b, s') ∧ Surely A (k b) Q s'

@[simp] theorem always_ret (a : α) (Q : α → σ → Prop) (s : σ) :
    Always A (ret a : Proc W σ α) Q s ↔ Q a s := Iff.rfl

@[simp] theorem can_ret (a : α) (Q : α → σ → Prop) (s : σ) :
    Can A (ret a : Proc W σ α) Q s ↔ Q a s := Iff.rfl

theorem always_bind (x : Proc W σ α) (g : α → Proc W σ β) (Q : β → σ → Prop) (s : σ) :
    Always A (x >>= g) Q s ↔ Always A x (fun a => Always A (g a) Q) s := by
  induction x generalizing s with
  | ret a => exact Iff.rfl
  | step f k ih =>
      rw [step_bind]
      simp only [Always, ih]

theorem can_bind (x : Proc W σ α) (g : α → Proc W σ β) (Q : β → σ → Prop) (s : σ) :
    Can A (x >>= g) Q s ↔ Can A x (fun a => Can A (g a) Q) s := by
  induction x generalizing s with
  | ret a => exact Iff.rfl
  | step f k ih =>
      rw [step_bind]
      simp only [Can, ih]

theorem surely_bind (x : Proc W σ α) (g : α → Proc W σ β) (Q : β → σ → Prop) (s : σ) :
    Surely A (x >>= g) Q s ↔ Surely A x (fun a => Surely A (g a) Q) s := by
  induction x generalizing s with
  | ret a => exact Iff.rfl
  | step f k ih =>
      rw [step_bind]
      simp only [Surely, ih]

theorem Surely.mono {x : Proc W σ α} {Q Q' : α → σ → Prop} {s : σ} (h : Surely A x Q s)
    (hQ : ∀ a s', Q a s' → Q' a s') : Surely A x Q' s := by
  induction x generalizing s with
  | ret a => exact hQ a s h
  | step f k ih =>
      intro w hw
      obtain ⟨b, s', hf, hk⟩ := h w hw
      exact ⟨b, s', hf, ih b hk⟩

/-- The program does not end in two ways that exclude each other. -/
theorem Surely.absurd {x : Proc W σ α} {Q Q' : α → σ → Prop} {s : σ} (hA : ∃ w, A w)
    (h : Surely A x Q s) (h' : Surely A x Q' s) (hQ : ∀ a s', Q a s' → ¬ Q' a s') : False := by
  induction x generalizing s with
  | ret a => exact hQ a s h h'
  | step f k ih =>
      obtain ⟨w, hw⟩ := hA
      obtain ⟨b, s₁, hf, hk⟩ := h w hw
      obtain ⟨b', s₁', hf', hk'⟩ := h' w hw
      rw [hf] at hf'
      cases hf'
      exact ih b hk hk'

theorem Always.mono {x : Proc W σ α} {Q Q' : α → σ → Prop} {s : σ} (h : Always A x Q s)
    (hQ : ∀ a s', Q a s' → Q' a s') : Always A x Q' s := by
  induction x generalizing s with
  | ret a => exact hQ a s h
  | step f k ih =>
      intro w hw b s' hf
      exact ih b (h w hw b s' hf)

theorem Can.mono {x : Proc W σ α} {Q Q' : α → σ → Prop} {s : σ} (h : Can A x Q s)
    (hQ : ∀ a s', Q a s' → Q' a s') : Can A x Q' s := by
  induction x generalizing s with
  | ret a => exact hQ a s h
  | step f k ih =>
      obtain ⟨w, hw, b, s', hf, hk⟩ := h
      exact ⟨w, hw, b, s', hf, ih b hk⟩

theorem Always.and {x : Proc W σ α} {Q Q' : α → σ → Prop} {s : σ} (h : Always A x Q s)
    (h' : Always A x Q' s) : Always A x (fun a s' => Q a s' ∧ Q' a s') s := by
  induction x generalizing s with
  | ret a => exact ⟨h, h'⟩
  | step f k ih =>
      intro w hw b s' hf
      exact ih b (h w hw b s' hf) (h' w hw b s' hf)

theorem Can.and {x : Proc W σ α} {Q Q' : α → σ → Prop} {s : σ} (h : Can A x Q s)
    (h' : Always A x Q' s) : Can A x (fun a s' => Q a s' ∧ Q' a s') s := by
  induction x generalizing s with
  | ret a => exact ⟨h, h'⟩
  | step f k ih =>
      obtain ⟨w, hw, b, s', hf, hk⟩ := h
      exact ⟨w, hw, b, s', hf, ih b hk (h' w hw b s' hf)⟩

theorem always_true (x : Proc W σ α) (s : σ) : Always A x (fun _ _ => True) s := by
  induction x generalizing s with
  | ret a => trivial
  | step f k ih => exact fun w _ b s' _ => ih b s'

theorem Within.always {R : σ → σ → Prop} {x : Proc W σ α} (hx : x.Within R)
    (htrans : ∀ s s₁ s₂, R s s₁ → R s₁ s₂ → R s s₂) {s s₁ : σ} (h : R s s₁) :
    Always A x (fun _ => R s) s₁ := by
  induction x generalizing s₁ with
  | ret a => exact h
  | step f k ih =>
      intro w _ b s' hf
      exact ih b (hx.2 b) (htrans s s₁ s' h (hx.1 w s₁ b s' hf))

/-- What holds of every run holds of each. -/
theorem Always.of_runs {x : Proc W σ α} {Q : α → σ → Prop} {s s' : σ} {a : α}
    (h : Always (fun _ => True) x Q s) (hr : Runs x s a s') : Q a s' := by
  induction hr with
  | ret a s => exact h
  | step f k w s b s₁ a s' hf hk ih => exact ih (h w trivial b s₁ hf)

/-- A run that is possible is a run. -/
theorem Can.runs {x : Proc W σ α} {Q : α → σ → Prop} {s : σ} (h : Can A x Q s) :
    ∃ a s', Runs x s a s' ∧ Q a s' := by
  induction x generalizing s with
  | ret a => exact ⟨a, s, Runs.ret a s, h⟩
  | step f k ih =>
      obtain ⟨w, -, b, s₁, hf, hk⟩ := h
      obtain ⟨a, s', hr, hQ⟩ := ih b hk
      exact ⟨a, s', Runs.step f k w s b s₁ a s' hf hr, hQ⟩

/-- A run with the answers of a list is possible, if they are allowed. -/
theorem can_of_solo {x : Proc W σ α} {Q : α → σ → Prop} : ∀ {ws : List W} {s s' : σ} {a : α},
    (∀ w ∈ ws, A w) → x.solo ws s = some (a, s') → Q a s' → Can A x Q s := by
  induction x with
  | ret a =>
      intro ws s s' b _ h hQ
      simp only [solo, Option.some.injEq, Prod.mk.injEq] at h
      rw [← h.1, ← h.2] at hQ
      exact hQ
  | step f k ih =>
      intro ws s s' a hws h hQ
      cases ws with
      | nil => cases h
      | cons w ws =>
          simp only [solo] at h
          split at h
          · rename_i b s₁ hf
            refine ⟨w, hws w List.mem_cons_self, b, s₁, hf, ih b ?_ h hQ⟩
            intro v hv
            exact hws v (List.mem_cons_of_mem w hv)
          · cases h

end Proc

/-! ### Programs that raise -/

namespace Prog

variable {W σ ε α β : Type} {A : W → Prop} {s : σ}

/-- The two postconditions as one, on the result of the underlying program. -/
def outcome (Q : α → σ → Prop) (X : ε → σ → Prop) : Except ε α → σ → Prop
  | .ok a, s => Q a s
  | .error e, s => X e s

/-- Left alone, the program returns in `Q` or raises in `X`. -/
structure Always (A : W → Prop) (x : Prog W σ ε α) (Q : α → σ → Prop) (X : ε → σ → Prop)
    (s : σ) : Prop where
  run : Proc.Always A x.run (outcome Q X) s

/-- It can return in `Q`, or raise in `X`. -/
structure Can (A : W → Prop) (x : Prog W σ ε α) (Q : α → σ → Prop) (X : ε → σ → Prop) (s : σ) :
    Prop where
  run : Proc.Can A x.run (outcome Q X) s

/-- It returns in `Q`, or raises in `X`, and does not wait. -/
structure Surely (A : W → Prop) (x : Prog W σ ε α) (Q : α → σ → Prop) (X : ε → σ → Prop)
    (s : σ) : Prop where
  run : Proc.Surely A x.run (outcome Q X) s

variable {Q Q' : α → σ → Prop} {X X' : ε → σ → Prop}

theorem outcome_mono {r : Except ε α} {s' : σ} (h : outcome Q X r s')
    (hQ : ∀ a s', Q a s' → Q' a s') (hX : ∀ e s', X e s' → X' e s') : outcome Q' X' r s' := by
  cases r with
  | ok a => exact hQ a s' h
  | error e => exact hX e s' h

theorem outcome_and {r : Except ε α} {s' : σ} (h : outcome Q X r s') (h' : outcome Q' X' r s') :
    outcome (fun a s' => Q a s' ∧ Q' a s') (fun e s' => X e s' ∧ X' e s') r s' := by
  cases r with
  | ok a => exact ⟨h, h'⟩
  | error e => exact ⟨h, h'⟩

@[simp] theorem always_pure (a : α) :
    Always A (pure a : Prog W σ ε α) Q X s ↔ Q a s := ⟨fun h => h.run, fun h => ⟨h⟩⟩

@[simp] theorem always_throw (e : ε) :
    Always A (throw e : Prog W σ ε α) Q X s ↔ X e s := ⟨fun h => h.run, fun h => ⟨h⟩⟩

@[simp] theorem can_pure (a : α) : Can A (pure a : Prog W σ ε α) Q X s ↔ Q a s :=
  ⟨fun h => h.run, fun h => ⟨h⟩⟩

@[simp] theorem can_throw (e : ε) : Can A (throw e : Prog W σ ε α) Q X s ↔ X e s :=
  ⟨fun h => h.run, fun h => ⟨h⟩⟩

theorem always_stmt {f : W → σ → Option (Except ε α × σ)} :
    Always A (stmt f) Q X s ↔
      ∀ w, A w → (∀ a s', f w s = some (.ok a, s') → Q a s') ∧
        ∀ e s', f w s = some (.error e, s') → X e s' := by
  constructor
  · intro h w hw
    exact ⟨fun a s' hf => h.run w hw (.ok a) s' hf, fun e s' hf => h.run w hw (.error e) s' hf⟩
  · intro h
    refine ⟨fun w hw r s' hf => ?_⟩
    cases r with
    | ok a => exact (h w hw).1 a s' hf
    | error e => exact (h w hw).2 e s' hf

theorem can_stmt {f : W → σ → Option (Except ε α × σ)} {w : W} {r : Except ε α} {s' : σ}
    (hw : A w) (hf : f w s = some (r, s')) (h : outcome Q X r s') : Can A (stmt f) Q X s :=
  ⟨⟨w, hw, r, s', hf, h⟩⟩

/-- What comes after the first program, as a postcondition of it. -/
theorem always_bind {x : Prog W σ ε α} {g : α → Prog W σ ε β} {Q : β → σ → Prop} :
    Always A (x >>= g) Q X s ↔ Always A x (fun a => Always A (g a) Q X) X s := by
  have hrun : (x >>= g : Prog W σ ε β).run = x.run >>= ExceptT.bindCont g := rfl
  constructor
  · intro h
    have h := h.run
    rw [hrun, Proc.always_bind] at h
    refine ⟨h.mono ?_⟩
    intro r s' hr
    cases r with
    | ok a => exact ⟨hr⟩
    | error e => exact hr
  · intro h
    refine ⟨?_⟩
    rw [hrun, Proc.always_bind]
    refine h.run.mono ?_
    intro r s' hr
    cases r with
    | ok a => exact hr.run
    | error e => exact hr

theorem can_bind {x : Prog W σ ε α} {g : α → Prog W σ ε β} {Q : β → σ → Prop}
    (h : Can A x (fun a => Can A (g a) Q X) X s) : Can A (x >>= g) Q X s := by
  have hrun : (x >>= g : Prog W σ ε β).run = x.run >>= ExceptT.bindCont g := rfl
  refine ⟨?_⟩
  rw [hrun, Proc.can_bind]
  refine h.run.mono ?_
  intro r s' hr
  cases r with
  | ok a => exact hr.run
  | error e => exact hr

theorem always_tryCatch {x : Prog W σ ε α} {g : ε → Prog W σ ε α}
    (h : Always A x Q (fun e => Always A (g e) Q X) s) : Always A (tryCatch x g) Q X s := by
  refine ⟨?_⟩
  rw [run_tryCatch, Proc.always_bind]
  refine h.run.mono ?_
  intro r s' hr
  cases r with
  | ok a => exact hr
  | error e => exact hr.run

theorem can_tryCatch {x : Prog W σ ε α} {g : ε → Prog W σ ε α}
    (h : Can A x Q (fun e => Can A (g e) Q X) s) : Can A (tryCatch x g) Q X s := by
  refine ⟨?_⟩
  rw [run_tryCatch, Proc.can_bind]
  refine h.run.mono ?_
  intro r s' hr
  cases r with
  | ok a => exact hr
  | error e => exact hr.run

theorem Always.mono {x : Prog W σ ε α} (h : Always A x Q X s) (hQ : ∀ a s', Q a s' → Q' a s')
    (hX : ∀ e s', X e s' → X' e s') : Always A x Q' X' s :=
  ⟨h.run.mono (fun _ _ hr => outcome_mono hr hQ hX)⟩

theorem Can.mono {x : Prog W σ ε α} (h : Can A x Q X s) (hQ : ∀ a s', Q a s' → Q' a s')
    (hX : ∀ e s', X e s' → X' e s') : Can A x Q' X' s :=
  ⟨h.run.mono (fun _ _ hr => outcome_mono hr hQ hX)⟩

theorem Always.and {x : Prog W σ ε α} (h : Always A x Q X s) (h' : Always A x Q' X' s) :
    Always A x (fun a s' => Q a s' ∧ Q' a s') (fun e s' => X e s' ∧ X' e s') s :=
  ⟨(h.run.and h'.run).mono (fun _ _ hr => outcome_and hr.1 hr.2)⟩

theorem Can.and {x : Prog W σ ε α} (h : Can A x Q X s) (h' : Always A x Q' X' s) :
    Can A x (fun a s' => Q a s' ∧ Q' a s') (fun e s' => X e s' ∧ X' e s') s :=
  ⟨(h.run.and h'.run).mono (fun _ _ hr => outcome_and hr.1 hr.2)⟩

theorem always_true (x : Prog W σ ε α) : Always A x (fun _ _ => True) (fun _ _ => True) s := by
  refine ⟨(Proc.always_true x.run s).mono ?_⟩
  intro r s' _
  cases r with
  | ok a => trivial
  | error e => trivial

/-- What every step keeps to holds between the beginning and the end. -/
theorem Within.always {R : σ → σ → Prop} {x : Prog W σ ε α} (hx : Within R x)
    (hrefl : ∀ s, R s s) (htrans : ∀ s s₁ s₂, R s s₁ → R s₁ s₂ → R s s₂) :
    Always A x (fun _ => R s) (fun _ => R s) s := by
  refine ⟨(Proc.Within.always hx.run htrans (hrefl s)).mono ?_⟩
  intro r s' hr
  cases r with
  | ok a => exact hr
  | error e => exact hr

/-- What holds of every run holds of each. -/
theorem Always.of_ends {x : Prog W σ ε α} {r : Except ε α} {s' : σ}
    (h : Always (fun _ => True) x Q X s) (hr : x.Ends s r s') : outcome Q X r s' :=
  Proc.Always.of_runs h.run hr

/-- A run that is possible is a run. -/
theorem Can.ends {x : Prog W σ ε α} (h : Can A x Q X s) :
    ∃ r s', x.Ends s r s' ∧ outcome Q X r s' :=
  Proc.Can.runs h.run

@[simp] theorem surely_pure (a : α) : Surely A (pure a : Prog W σ ε α) Q X s ↔ Q a s :=
  ⟨fun h => h.run, fun h => ⟨h⟩⟩

@[simp] theorem surely_throw (e : ε) : Surely A (throw e : Prog W σ ε α) Q X s ↔ X e s :=
  ⟨fun h => h.run, fun h => ⟨h⟩⟩

theorem surely_stmt {f : W → σ → Option (Except ε α × σ)}
    (h : ∀ w, A w → ∃ r s', f w s = some (r, s') ∧ outcome Q X r s') :
    Surely A (stmt f) Q X s :=
  ⟨h⟩

theorem surely_bind {x : Prog W σ ε α} {g : α → Prog W σ ε β} {Q : β → σ → Prop}
    (h : Surely A x (fun a => Surely A (g a) Q X) X s) : Surely A (x >>= g) Q X s := by
  have hrun : (x >>= g : Prog W σ ε β).run = x.run >>= ExceptT.bindCont g := rfl
  refine ⟨?_⟩
  rw [hrun, Proc.surely_bind]
  refine h.run.mono ?_
  intro r s' hr
  cases r with
  | ok a => exact hr.run
  | error e => exact hr

theorem surely_tryCatch {x : Prog W σ ε α} {g : ε → Prog W σ ε α}
    (h : Surely A x Q (fun e => Surely A (g e) Q X) s) : Surely A (tryCatch x g) Q X s := by
  refine ⟨?_⟩
  rw [run_tryCatch, Proc.surely_bind]
  refine h.run.mono ?_
  intro r s' hr
  cases r with
  | ok a => exact hr
  | error e => exact hr.run

theorem Surely.mono {x : Prog W σ ε α} (h : Surely A x Q X s) (hQ : ∀ a s', Q a s' → Q' a s')
    (hX : ∀ e s', X e s' → X' e s') : Surely A x Q' X' s :=
  ⟨h.run.mono (fun _ _ hr => outcome_mono hr hQ hX)⟩

/-- A program that returns, and in `Q`. -/
theorem Surely.post {x : Prog W σ ε α} (h : Surely A x Q (fun _ _ => False) s)
    (hQ : ∀ a s', Q a s' → Q' a s') : Surely A x Q' X s :=
  h.mono hQ (fun _ _ h => h.elim)

theorem Surely.absurd {x : Prog W σ ε α} {R R' : σ → Prop} (hA : ∃ w, A w)
    (h : Surely A x (fun _ => R) (fun _ => R) s) (h' : Surely A x (fun _ => R') (fun _ => R') s)
    (hR : ∀ s', R s' → ¬ R' s') : False := by
  refine Proc.Surely.absurd hA h.run h'.run ?_
  intro r s' hr
  cases r with
  | ok a => exact hR s' hr
  | error e => exact hR s' hr

/-- Run alone with allowed answers, the program can return. -/
theorem can_of_passes {x : Prog W σ ε α} {ws : List W} {s : σ} (hws : ∀ w ∈ ws, A w)
    (h : x.passes ws s (fun r _ => r.isOk) = true) :
    Can A x (fun _ _ => True) (fun _ _ => False) s := by
  unfold passes at h
  cases hrun : x.run.solo ws s with
  | none =>
      rw [hrun] at h
      cases h
  | some q =>
      rw [hrun] at h
      obtain ⟨r, s'⟩ := q
      refine ⟨Proc.can_of_solo hws hrun ?_⟩
      cases r with
      | ok a => trivial
      | error e => cases h

end Prog

end Interleaving
