/-
What one process has done while the others ran.

A property like "before it did this it had seen that" is about the steps of a single
process, with anything in between.  A `Recorded` run keeps, for every process, the steps
it has made since it was started; `Began` says which lists of steps a program can have
made so far, and is taken apart along the program.  Where the step in question cannot lie
in the first part of a sequence, that part has run to its end (`Began.skip`).

What every step of the system keeps, by any relation that composes, orders the states
that a process has come through (`Recorded.ordered`).
-/
import SelfHealing.Lib.Process

namespace Interleaving

/-! ### The steps of a program so far

`Went` is a program that has come to some point: the steps up to there, and what is left of it.  All
that is known of complete runs is known of these as well, as far as they have come.
-/

section Began

variable {W σ ε α β : Type}

/-- The program has made these steps, and `y` is left of it. -/
inductive Proc.Went : Proc W σ α → List (σ × σ) → Proc W σ α → Prop
  | here (x : Proc W σ α) : Went x [] x
  | step {β : Type} (f : W → σ → Option (β × σ)) (k : β → Proc W σ α) (w : W) (s : σ) (b : β)
      (s' : σ) (steps : List (σ × σ)) (y : Proc W σ α) (hf : f w s = some (b, s'))
      (hk : Went (k b) steps y) : Went (.step f k) ((s, s') :: steps) y

theorem Proc.Went.snoc {x : Proc W σ α} {steps : List (σ × σ)} {f : W → σ → Option (β × σ)}
    {k : β → Proc W σ α} (h : Went x steps (.step f k)) {w : W} {s s' : σ} {b : β}
    (hf : f w s = some (b, s')) : Went x (steps ++ [(s, s')]) (k b) := by
  generalize hy : Proc.step f k = y at h
  induction h with
  | here x =>
      subst hy
      exact Went.step f k w s b s' [] _ hf (Went.here _)
  | step g j v u c u' rest y hg _ ih => exact Went.step g j v u c u' _ _ hg (ih hy)

/-- The steps before others are steps so far as well. -/
theorem Proc.Went.take {x y : Proc W σ α} {l l' : List (σ × σ)} (h : Went x (l ++ l') y) :
    ∃ z, Went x l z := by
  induction l generalizing x with
  | nil => exact ⟨x, Went.here x⟩
  | cons a rest ih =>
      cases h with
      | step f k w s b s' _ _ hf hk =>
          obtain ⟨z, hz⟩ := ih hk
          exact ⟨z, Went.step f k w s b s' rest z hf hz⟩

/-- What a program has done it has done as the first part of another as well. -/
theorem Proc.Went.bind {x y : Proc W σ α} {steps : List (σ × σ)} (g : α → Proc W σ β)
    (h : Went x steps y) : Went (x >>= g) steps (y >>= g) := by
  induction h with
  | here x => exact Went.here _
  | step f k w s b s' rest y hf _ ih =>
      rw [Proc.step_bind]
      exact Went.step f _ w s b s' rest _ hf ih

theorem Proc.Trace.went {x : Proc W σ α} {steps : List (σ × σ)} {a : α} (h : Trace x steps a) :
    Went x steps (.ret a) := by
  induction h with
  | ret a => exact Went.here _
  | step f k w s b s' rest a hf _ ih => exact Went.step f k w s b s' rest _ hf ih

theorem Proc.Trace.went_bind {x : Proc W σ α} {g : α → Proc W σ β} {l l' : List (σ × σ)} {a : α}
    {y : Proc W σ β} (hx : Trace x l a) (hg : Went (g a) l' y) : Went (x >>= g) (l ++ l') y := by
  induction hx with
  | ret a => exact hg
  | step f k w s b s' rest a hf _ ih =>
      rw [Proc.step_bind]
      exact Went.step f _ w s b s' (rest ++ l') y hf (ih hg)

theorem Proc.went_bind {x : Proc W σ α} {g : α → Proc W σ β} {steps : List (σ × σ)}
    {y : Proc W σ β} (h : Went (x >>= g) steps y) :
    (∃ x', Went x steps x') ∨
      ∃ a l l', steps = l ++ l' ∧ Trace x l a ∧ Went (g a) l' y := by
  induction x generalizing steps with
  | ret a => exact Or.inr ⟨a, [], steps, rfl, Trace.ret a, h⟩
  | step f k ih =>
      rw [Proc.step_bind] at h
      cases h with
      | here => exact Or.inl ⟨_, Went.here _⟩
      | step _ _ w s c s' rest _ hf hk =>
          rcases ih c hk with ⟨x', hx⟩ | ⟨a, l, l', heq, hx, hg⟩
          · exact Or.inl ⟨x', Went.step f k w s c s' rest x' hf hx⟩
          · rw [heq]
            exact Or.inr ⟨a, (s, s') :: l, l', rfl, Trace.step f k w s c s' l a hf hx, hg⟩

/-- Every step of the program lies in `R`. -/
def Proc.Within (R : σ → σ → Prop) : Proc W σ α → Prop
  | .ret _ => True
  | .step f k => (∀ w s b s', f w s = some (b, s') → R s s') ∧ ∀ b, Within R (k b)

theorem Proc.Within.bind {R : σ → σ → Prop} {x : Proc W σ α} {g : α → Proc W σ β}
    (hx : x.Within R) (hg : ∀ a, (g a).Within R) : (x >>= g).Within R := by
  induction x with
  | ret a => exact hg a
  | step f k ih => exact ⟨hx.1, fun b => ih b (hx.2 b)⟩

theorem Proc.Within.mem {R : σ → σ → Prop} {x y : Proc W σ α} {steps : List (σ × σ)}
    (hx : x.Within R) (h : Went x steps y) : ∀ q ∈ steps, R q.1 q.2 := by
  induction h with
  | here x => simp
  | step f k w s b s' rest y hf _ ih =>
      intro q hq
      rcases List.mem_cons.mp hq with rfl | hq
      · exact hx.1 w s b s' hf
      · exact ih (hx.2 b) q hq

theorem Proc.Within.rest {R : σ → σ → Prop} {x y : Proc W σ α} {steps : List (σ × σ)}
    (hx : x.Within R) (h : Went x steps y) : y.Within R := by
  induction h with
  | here x => exact hx
  | step f k w s b s' rest y hf _ ih => exact ih (hx.2 b)

theorem Proc.Within.mono {R R' : σ → σ → Prop} {x : Proc W σ α} (hx : x.Within R)
    (h : ∀ s s', R s s' → R' s s') : x.Within R' := by
  induction x with
  | ret a => trivial
  | step f k ih => exact ⟨fun w s b s' hf => h _ _ (hx.1 w s b s' hf), fun b => ih b (hx.2 b)⟩

theorem Proc.Within.and {R R' : σ → σ → Prop} {x : Proc W σ α} (hx : x.Within R)
    (hx' : x.Within R') : x.Within (fun s s' => R s s' ∧ R' s s') := by
  induction x with
  | ret a => trivial
  | step f k ih =>
      exact ⟨fun w s b s' hf => ⟨hx.1 w s b s' hf, hx'.1 w s b s' hf⟩,
        fun b => ih b (hx.2 b) (hx'.2 b)⟩

/-- Whatever the program returns is in `P`. -/
def Proc.Returns (P : α → Prop) : Proc W σ α → Prop
  | .ret a => P a
  | .step _ k => ∀ b, Returns P (k b)

theorem Proc.Returns.bind {P : β → Prop} {Q : α → Prop} {x : Proc W σ α} {g : α → Proc W σ β}
    (hx : x.Returns Q) (hg : ∀ a, Q a → (g a).Returns P) : (x >>= g).Returns P := by
  induction x with
  | ret a => exact hg a hx
  | step f k ih => exact fun b => ih b (hx b)

theorem Proc.Returns.trace {P : α → Prop} {x : Proc W σ α} {steps : List (σ × σ)} {a : α}
    (hx : x.Returns P) (h : Trace x steps a) : P a := by
  induction h with
  | ret a => exact hx
  | step f k w s b s' rest a hf _ ih => exact ih (hx b)

namespace Prog

/-- Every step of the program lies in `R`. -/
structure Within (R : σ → σ → Prop) (x : Prog W σ ε α) : Prop where
  run : Proc.Within R x.run

section Within

variable {R : σ → σ → Prop}

theorem within_pure (a : α) : Within R (pure a : Prog W σ ε α) := ⟨trivial⟩

theorem within_throw (e : ε) : Within R (throw e : Prog W σ ε α) := ⟨trivial⟩

theorem within_stmt {f : W → σ → Option (Except ε α × σ)}
    (h : ∀ w s r s', f w s = some (r, s') → R s s') : Within R (stmt f) :=
  ⟨⟨h, fun _ => trivial⟩⟩

theorem Within.bind {x : Prog W σ ε α} {g : α → Prog W σ ε β} (hx : Within R x)
    (hg : ∀ a, Within R (g a)) : Within R (x >>= g) := by
  refine ⟨Proc.Within.bind hx.run ?_⟩
  intro r
  cases r with
  | ok a => exact (hg a).run
  | error e => trivial

theorem Within.handle {x : Prog W σ ε α} {g : ε → Prog W σ ε α} (hx : Within R x)
    (hg : ∀ e, Within R (g e)) : Within R (tryCatch x g) := by
  constructor
  rw [run_tryCatch]
  refine Proc.Within.bind hx.run ?_
  intro r
  cases r with
  | ok a => trivial
  | error e => exact (hg e).run

theorem Within.mono {R' : σ → σ → Prop} {x : Prog W σ ε α} (hx : Within R x)
    (h : ∀ s s', R s s' → R' s s') : Within R' x :=
  ⟨hx.run.mono h⟩

theorem Within.and {R' : σ → σ → Prop} {x : Prog W σ ε α} (hx : Within R x) (hx' : Within R' x) :
    Within (fun s s' => R s s' ∧ R' s s') x :=
  ⟨hx.run.and hx'.run⟩

end Within

/-- Whatever the program returns is in `P`. -/
structure Returns (P : α → Prop) (x : Prog W σ ε α) : Prop where
  run : Proc.Returns (fun r => ∀ a, r = .ok a → P a) x.run

section Returns

variable {P : α → Prop}

theorem returns_pure {a : α} (h : P a) : Returns P (pure a : Prog W σ ε α) :=
  ⟨fun _ ha => Except.ok.inj ha ▸ h⟩

theorem returns_throw (e : ε) : Returns P (throw e : Prog W σ ε α) := ⟨fun _ ha => nomatch ha⟩

theorem returns_true (x : Prog W σ ε α) : Returns (fun _ => True) x := by
  constructor
  induction x.run with
  | ret r => exact fun _ _ => trivial
  | step f k ih => exact ih

theorem Returns.bind {Q : β → Prop} {x : Prog W σ ε α} {g : α → Prog W σ ε β} (hx : Returns P x)
    (hg : ∀ a, P a → Returns Q (g a)) : Returns Q (x >>= g) := by
  refine ⟨Proc.Returns.bind hx.run ?_⟩
  intro r hr
  cases r with
  | ok a => exact (hg a (hr a rfl)).run
  | error e => exact fun _ ha => nomatch ha

/-- What comes first does not matter. -/
theorem returns_bind {Q : β → Prop} {x : Prog W σ ε α} {g : α → Prog W σ ε β}
    (hg : ∀ a, Returns Q (g a)) : Returns Q (x >>= g) :=
  (returns_true x).bind (fun a _ => hg a)

theorem Returns.handle {x : Prog W σ ε α} {g : ε → Prog W σ ε α} (hx : Returns P x)
    (hg : ∀ e, Returns P (g e)) : Returns P (tryCatch x g) := by
  constructor
  rw [run_tryCatch]
  refine Proc.Returns.bind hx.run ?_
  intro r hr
  cases r with
  | ok a => exact hr
  | error e => exact (hg e).run

theorem Returns.took {x : Prog W σ ε α} {steps : List (σ × σ)} {a : α} (hx : Returns P x)
    (h : Took x steps (.ok a)) : P a := hx.run.trace h a rfl

end Returns

/-- The program has made these steps so far. -/
def Began (x : Prog W σ ε α) (steps : List (σ × σ)) : Prop := ∃ y, Proc.Went x.run steps y

theorem began_pure {a : α} {steps : List (σ × σ)} (h : Began (pure a : Prog W σ ε α) steps) :
    steps = [] := by
  obtain ⟨y, hy⟩ := h
  cases hy
  rfl

theorem began_throw {e : ε} {steps : List (σ × σ)} (h : Began (throw e : Prog W σ ε α) steps) :
    steps = [] := by
  obtain ⟨y, hy⟩ := h
  cases hy
  rfl

theorem began_stmt {f : W → σ → Option (Except ε α × σ)} {steps : List (σ × σ)}
    (h : Began (stmt f) steps) :
    steps = [] ∨ ∃ w s r s', steps = [(s, s')] ∧ f w s = some (r, s') := by
  obtain ⟨y, hy⟩ := h
  cases hy with
  | here => exact Or.inl rfl
  | step _ _ w s r s' rest _ hf hk =>
      cases hk
      exact Or.inr ⟨w, s, r, s', rfl, hf⟩

theorem Took.began {x : Prog W σ ε α} {steps : List (σ × σ)} {r : Except ε α}
    (h : Took x steps r) : Began x steps :=
  ⟨_, Proc.Trace.went h⟩

/-- The steps of a program whose result is not looked at are its own. -/
theorem began_of_run {x : Prog W σ ε α} {steps : List (σ × σ)} {y : Proc W σ Unit}
    (h : Proc.Went (do let _ ← x.run; pure ()) steps y) : Began x steps := by
  rcases Proc.went_bind h with hx | ⟨a, l, l', heq, hx, hrest⟩
  · exact hx
  · have hnil : l' = [] := by
      cases hrest
      rfl
    rw [hnil, List.append_nil] at heq
    rw [heq]
    exact Took.began hx

theorem began_bind {x : Prog W σ ε α} {g : α → Prog W σ ε β} {steps : List (σ × σ)}
    (h : Began (x >>= g) steps) :
    Began x steps ∨ ∃ a l l', steps = l ++ l' ∧ Took x l (.ok a) ∧ Began (g a) l' := by
  obtain ⟨y, hy⟩ := h
  have hrun : (x >>= g : Prog W σ ε β).run = x.run >>= ExceptT.bindCont g := rfl
  rw [hrun] at hy
  rcases Proc.went_bind hy with ⟨x', hx⟩ | ⟨q, l, l', heq, hx, hg⟩
  · exact Or.inl ⟨x', hx⟩
  · cases q with
    | ok a => exact Or.inr ⟨a, l, l', heq, hx, y, hg⟩
    | error e =>
        -- there is no step after an exception
        have hnil : l' = [] := began_throw (W := W) (α := β) (e := e) ⟨y, hg⟩
        rw [hnil, List.append_nil] at heq
        rw [heq]
        exact Or.inl (Took.began (r := .error e) hx)

theorem began_tryCatch {x : Prog W σ ε α} {g : ε → Prog W σ ε α} {steps : List (σ × σ)}
    (h : Began (tryCatch x g) steps) :
    Began x steps ∨ ∃ e l l', steps = l ++ l' ∧ Took x l (.error e) ∧ Began (g e) l' := by
  obtain ⟨y, hy⟩ := h
  rw [run_tryCatch] at hy
  rcases Proc.went_bind hy with ⟨x', hx⟩ | ⟨q, l, l', heq, hx, hg⟩
  · exact Or.inl ⟨x', hx⟩
  · cases q with
    | ok a =>
        have hnil : l' = [] := began_pure (W := W) (ε := ε) (a := a) ⟨y, hg⟩
        rw [hnil, List.append_nil] at heq
        rw [heq]
        exact Or.inl (Took.began (r := .ok a) hx)
    | error e => exact Or.inr ⟨e, l, l', heq, hx, y, hg⟩

/-- What a program has done it has done as the first part of another as well. -/
theorem Began.bind {x : Prog W σ ε α} {steps : List (σ × σ)} (h : Began x steps)
    (g : α → Prog W σ ε β) : Began (x >>= g) steps := by
  obtain ⟨y, hy⟩ := h
  exact ⟨_, hy.bind _⟩

/-- The first part has run to its end, and the second has begun. -/
theorem Took.began_bind {x : Prog W σ ε α} {g : α → Prog W σ ε β} {l l' : List (σ × σ)} {a : α}
    (hx : Took x l (.ok a)) (hg : Began (g a) l') : Began (x >>= g) (l ++ l') := by
  obtain ⟨y, hy⟩ := hg
  exact ⟨y, Proc.Trace.went_bind hx hy⟩

/-- What a program has done it has done inside a handler as well. -/
theorem Began.guarded {x : Prog W σ ε α} {steps : List (σ × σ)} (h : Began x steps)
    (g : ε → Prog W σ ε α) : Began (tryCatch x g) steps := by
  obtain ⟨y, hy⟩ := h
  unfold Began
  rw [run_tryCatch]
  exact ⟨_, hy.bind _⟩

theorem Within.began {R : σ → σ → Prop} {x : Prog W σ ε α} {steps : List (σ × σ)}
    (hx : Within R x) (h : Began x steps) : ∀ q ∈ steps, R q.1 q.2 := by
  obtain ⟨y, hy⟩ := h
  exact hx.run.mem hy

/-- One of the steps is none of the first part, which has therefore run to its end. -/
theorem Began.past {R : σ → σ → Prop} {x : Prog W σ ε α} {g : α → Prog W σ ε β}
    {steps : List (σ × σ)} {q : σ × σ} (h : Began (x >>= g) steps) (hx : Within R x)
    (hq : q ∈ steps) (hnot : ¬ R q.1 q.2) :
    ∃ a l l', steps = l ++ l' ∧ Took x l (.ok a) ∧ Began (g a) l' ∧ q ∈ l' := by
  rcases began_bind h with h | ⟨a, l, l', rfl, ht, hg⟩
  · exact absurd (hx.began h q hq) hnot
  · rcases List.mem_append.mp hq with hl | hl'
    · exact absurd (hx.began ht.began q hl) hnot
    · exact ⟨a, l, l', rfl, ht, hg, hl'⟩

/-- A program with something to be done after it, however it ends. -/
theorem Began.finally {R : σ → σ → Prop} {x : Prog W σ ε α} {g : ε → Prog W σ ε α}
    {k : α → Prog W σ ε β} {steps : List (σ × σ)} (h : Began (tryCatch x g >>= k) steps)
    (hg : ∀ e, Within R (g e)) (hk : ∀ a, Within R (k a)) :
    ∃ l l', steps = l ++ l' ∧ Began x l ∧ ∀ q ∈ l', R q.1 q.2 := by
  have htried : ∀ {l : List (σ × σ)}, Began (tryCatch x g) l →
      ∃ l₁ l₂, l = l₁ ++ l₂ ∧ Began x l₁ ∧ ∀ q ∈ l₂, R q.1 q.2 := by
    intro l hl
    rcases began_tryCatch hl with hx | ⟨e, l₁, l₂, rfl, ht, hgo⟩
    · exact ⟨l, [], by simp, hx, by simp⟩
    · exact ⟨l₁, l₂, rfl, ht.began, (hg e).began hgo⟩
  rcases began_bind h with h | ⟨a, l, l', rfl, ht, hgo⟩
  · exact htried h
  · obtain ⟨l₁, l₂, rfl, hx, hl₂⟩ := htried ht.began
    refine ⟨l₁, l₂ ++ l', by simp, hx, ?_⟩
    intro q hq
    rcases List.mem_append.mp hq with hq | hq
    · exact hl₂ q hq
    · exact (hk a).began hgo q hq

/-! The last step made is one that some part of the program does not make. -/

section Last

theorem snoc_eq_append {γ : Type} {l l' m : List γ} {c : γ} (h : l ++ [c] = l' ++ m) :
    m = [] ∨ ∃ init, m = init ++ [c] ∧ l = l' ++ init := by
  rcases List.eq_nil_or_concat m with hnil | ⟨init, last, hlast⟩
  · exact Or.inl hnil
  · rw [List.concat_eq_append] at hlast
    rw [hlast, ← List.append_assoc] at h
    obtain ⟨hinit, hc⟩ := List.append_inj' h rfl
    rw [← hc] at hlast
    exact Or.inr ⟨init, hlast, hinit⟩

variable {R : σ → σ → Prop} {earlier : List (σ × σ)} {s s' : σ} (hnot : ¬ R s s')

include hnot

theorem Within.not_began {x : Prog W σ ε α} (hx : Within R x) :
    ¬ Began x (earlier ++ [(s, s')]) := by
  intro h
  exact hnot (hx.began h (s, s') (by simp))

/-- It is not made by the first part, which has therefore run to its end. -/
theorem Began.skip {x : Prog W σ ε α} {g : α → Prog W σ ε β}
    (h : Began (x >>= g) (earlier ++ [(s, s')])) (hx : Within R x) :
    ∃ a l l', earlier = l ++ l' ∧ Took x l (.ok a) ∧ Began (g a) (l' ++ [(s, s')]) := by
  rcases began_bind h with h | ⟨a, l, l', heq, ht, hg⟩
  · exact absurd h (hx.not_began hnot)
  · rcases snoc_eq_append heq with hnil | ⟨init, hinit, hearlier⟩
    · rw [hnil, List.append_nil] at heq
      rw [← heq] at ht
      exact absurd ht.began (hx.not_began hnot)
    · rw [hinit] at hg
      exact ⟨a, l, init, hearlier, ht, hg⟩

/-- It is not made by the second part, so that it is the last one of the first part. -/
theorem Began.first {x : Prog W σ ε α} {g : α → Prog W σ ε β}
    (h : Began (x >>= g) (earlier ++ [(s, s')])) (hg : ∀ a, Within R (g a)) :
    Began x (earlier ++ [(s, s')]) := by
  rcases began_bind h with h | ⟨a, l, l', heq, ht, hgo⟩
  · exact h
  · rcases snoc_eq_append heq with hnil | ⟨init, hinit, hearlier⟩
    · rw [hnil, List.append_nil] at heq
      rw [heq]
      exact ht.began
    · rw [hinit] at hgo
      exact absurd hgo ((hg a).not_began hnot)

/-- It is not made by the handler. -/
theorem Began.tried {x : Prog W σ ε α} {g : ε → Prog W σ ε α}
    (h : Began (tryCatch x g) (earlier ++ [(s, s')])) (hg : ∀ e, Within R (g e)) :
    Began x (earlier ++ [(s, s')]) := by
  rcases began_tryCatch h with h | ⟨e, l, l', heq, ht, hgo⟩
  · exact h
  · rcases snoc_eq_append heq with hnil | ⟨init, hinit, hearlier⟩
    · rw [hnil, List.append_nil] at heq
      rw [heq]
      exact ht.began
    · rw [hinit] at hgo
      exact absurd hgo ((hg e).not_began hnot)

end Last

end Prog

end Began

/-! ### Runs with a record

The record of a process begins anew when it is started, so that a process number may be used again.
A crash stops the process and leaves its record.
-/

section Recorded

variable {W A E σ : Type}

/-- A run from `s₀`, with the steps that each process has made since it was last started. -/
inductive Recorded (M : Machine W A E σ) (s₀ : σ) :
    Config W σ → (Nat → List (σ × σ)) → Prop
  | idle : Recorded M s₀ (Config.idle s₀) (fun _ => [])
  | start {c : Config W σ} {steps : Nat → List (σ × σ)} (h : Recorded M s₀ c steps) (p : Nat)
      (a : A) (hfree : c.procs p = none) (hready : M.ready p a c.state) :
      Recorded M s₀ ⟨c.state, Function.update c.procs p (some (M.prog p a))⟩
        (Function.update steps p [])
  | run {c : Config W σ} {steps : Nat → List (σ × σ)} (h : Recorded M s₀ c steps) (p : Nat)
      (w : W) {β : Type} (f : W → σ → Option (β × σ)) (k : β → Proc W σ Unit) (b : β) (s' : σ)
      (hproc : c.procs p = some (.step f k)) (hstep : f w c.state = some (b, s'))
      (hadm : M.admits c.state s') :
      Recorded M s₀ ⟨s', Function.update c.procs p (some (k b))⟩
        (Function.update steps p (steps p ++ [(c.state, s')]))
  | finish {c : Config W σ} {steps : Nat → List (σ × σ)} (h : Recorded M s₀ c steps) (p : Nat)
      (u : Unit) (hproc : c.procs p = some (.ret u)) :
      Recorded M s₀ ⟨c.state, Function.update c.procs p none⟩ steps
  | crash {c : Config W σ} {steps : Nat → List (σ × σ)} (h : Recorded M s₀ c steps) (p : Nat)
      (prog : Proc W σ Unit) (hproc : c.procs p = some prog) :
      Recorded M s₀ ⟨M.crash p c.state, Function.update c.procs p none⟩ steps
  | env {c : Config W σ} {steps : Nat → List (σ × σ)} (h : Recorded M s₀ c steps) (e : E) (s' : σ)
      (henv : M.env e c.state = some s') (hadm : M.admits c.state s') :
      Recorded M s₀ ⟨s', c.procs⟩ steps

variable {M : Machine W A E σ} {s₀ : σ} {c : Config W σ} {steps : Nat → List (σ × σ)}

theorem Recorded.reaches (h : Recorded M s₀ c steps) : Reaches M (Config.idle s₀) c := by
  induction h with
  | idle => exact Relation.ReflTransGen.refl
  | start _ p a hfree hready ih => exact ih.tail (Step.start _ p a hfree hready)
  | run _ p w f k b s' hproc hstep hadm ih =>
      exact ih.tail (Step.run _ p w f k b s' hproc hstep hadm)
  | finish _ p u hproc ih => exact ih.tail (Step.finish _ p u hproc)
  | crash _ p prog hproc ih => exact ih.tail (Step.crash _ p prog hproc)
  | env _ e s' henv hadm ih => exact ih.tail (Step.env _ e s' henv hadm)

/-- What is on record of a process is what its program has done. -/
theorem Recorded.running (h : Recorded M s₀ c steps) {p : Nat} {prog : Proc W σ Unit}
    (hp : c.procs p = some prog) : ∃ a, Proc.Went (M.prog p a) (steps p) prog := by
  induction h generalizing p prog with
  | idle => simp [Config.idle] at hp
  | start _ q a _ _ ih =>
      by_cases hq : p = q
      · subst hq
        simp only [Function.update_self, Option.some.injEq] at hp ⊢
        rw [← hp]
        exact ⟨a, Proc.Went.here _⟩
      · simp only [Function.update_of_ne hq] at hp ⊢
        exact ih hp
  | run _ q w f k b s' hproc hstep _ ih =>
      by_cases hq : p = q
      · subst hq
        simp only [Function.update_self, Option.some.injEq] at hp ⊢
        obtain ⟨a, hw⟩ := ih hproc
        rw [← hp]
        exact ⟨a, hw.snoc hstep⟩
      · simp only [Function.update_of_ne hq] at hp ⊢
        exact ih hp
  | finish _ q u hproc ih | crash _ q u hproc ih =>
      by_cases hq : p = q
      · subst hq
        simp at hp
      · simp only [Function.update_of_ne hq] at hp
        exact ih hp
  | env _ e s' henv hadm ih => exact ih hp

theorem Recorded.went (h : Recorded M s₀ c steps) (p : Nat) :
    steps p = [] ∨ ∃ a y, Proc.Went (M.prog p a) (steps p) y := by
  induction h with
  | idle => exact Or.inl rfl
  | start _ q a _ _ ih =>
      by_cases hq : p = q
      · subst hq
        simp
      · simp only [Function.update_of_ne hq]
        exact ih
  | run hr q w f k b s' hproc hstep _ ih =>
      by_cases hq : p = q
      · subst hq
        obtain ⟨a, hw⟩ := hr.running hproc
        simp only [Function.update_self]
        exact Or.inr ⟨a, _, hw.snoc hstep⟩
      · simp only [Function.update_of_ne hq]
        exact ih
  | finish _ q u hproc ih | crash _ q u hproc ih => exact ih
  | env _ e s' henv hadm ih => exact ih

/-- What a process has done up to a step, that step included. -/
theorem Recorded.went_upto (h : Recorded M s₀ c steps) {p : Nat} {earlier later : List (σ × σ)}
    {q : σ × σ} (hsteps : steps p = earlier ++ q :: later) :
    ∃ a y, Proc.Went (M.prog p a) (earlier ++ [q]) y := by
  rcases h.went p with hnone | ⟨a, y, hwent⟩
  · rw [hsteps] at hnone
    simp at hnone
  · rw [hsteps, List.append_cons] at hwent
    obtain ⟨z, hz⟩ := hwent.take
    exact ⟨a, z, hz⟩

/-- The states of the steps, and those around them, come in the order of `R`. -/
def Ordered (R : σ → σ → Prop) : σ → List (σ × σ) → σ → Prop
  | first, [], last => R first last
  | first, (s, s') :: rest, last => R first s ∧ R s s' ∧ Ordered R s' rest last

section Ordered

variable {R : σ → σ → Prop} {first last : σ} {l : List (σ × σ)}

theorem Ordered.snoc {s s' : σ} (h : Ordered R first l s) (hstep : R s s') (hlast : R s' last) :
    Ordered R first (l ++ [(s, s')]) last := by
  induction l generalizing first with
  | nil => exact ⟨h, hstep, hlast⟩
  | cons q rest ih => exact ⟨h.1, h.2.1, ih h.2.2⟩

variable (htrans : ∀ s t u, R s t → R t u → R s u)

include htrans

theorem Ordered.extend {last' : σ} (h : Ordered R first l last) (hlast : R last last') :
    Ordered R first l last' := by
  induction l generalizing first with
  | nil => exact htrans _ _ _ h hlast
  | cons q rest ih => exact ⟨h.1, h.2.1, ih h.2.2⟩

theorem Ordered.mem (h : Ordered R first l last) : ∀ q ∈ l, R first q.1 ∧ R first q.2 := by
  induction l generalizing first with
  | nil => simp
  | cons q rest ih =>
      intro q' hq'
      have hfirst : R first q.2 := htrans _ _ _ h.1 h.2.1
      rcases List.mem_cons.mp hq' with rfl | hmem
      · exact ⟨h.1, hfirst⟩
      · obtain ⟨h1, h2⟩ := ih h.2.2 q' hmem
        exact ⟨htrans _ _ _ hfirst h1, htrans _ _ _ hfirst h2⟩

theorem Ordered.pairwise (h : Ordered R first l last) : l.Pairwise fun q q' => R q.2 q'.1 := by
  induction l generalizing first with
  | nil => exact List.Pairwise.nil
  | cons q rest ih =>
      refine List.Pairwise.cons ?_ (ih h.2.2)
      intro q' hq'
      exact (h.2.2.mem htrans q' hq').1

/-- **What every step keeps orders the record** of each process. -/
theorem Recorded.ordered (hrefl : ∀ s, R s s) (hprog : ∀ p a, (M.prog p a).Within R)
    (hcrash : ∀ p s, R s (M.crash p s)) (henv : ∀ e s s', M.env e s = some s' → R s s')
    (h : Recorded M s₀ c steps) : R s₀ c.state ∧ ∀ p, Ordered R s₀ (steps p) c.state := by
  induction h with
  | idle => exact ⟨hrefl s₀, fun _ => hrefl s₀⟩
  | start _ q a _ _ ih =>
      refine ⟨ih.1, ?_⟩
      intro p
      by_cases hq : p = q
      · subst hq
        simp only [Function.update_self]
        exact ih.1
      · simp only [Function.update_of_ne hq]
        exact ih.2 p
  | run hr q w f k b s' hproc hstep _ ih =>
      obtain ⟨a, hw⟩ := hr.running hproc
      have hR : R _ s' := ((hprog q a).rest hw).1 w _ b s' hstep
      refine ⟨htrans _ _ _ ih.1 hR, ?_⟩
      intro p
      by_cases hq : p = q
      · subst hq
        simp only [Function.update_self]
        exact (ih.2 p).snoc hR (hrefl s')
      · simp only [Function.update_of_ne hq]
        exact (ih.2 p).extend htrans hR
  | finish _ q u hproc ih => exact ih
  | crash _ q u hproc ih =>
      exact ⟨htrans _ _ _ ih.1 (hcrash q _), fun p => (ih.2 p).extend htrans (hcrash q _)⟩
  | env _ e s' he hadm ih =>
      exact ⟨htrans _ _ _ ih.1 (henv e _ s' he), fun p => (ih.2 p).extend htrans (henv e _ s' he)⟩

end Ordered

end Recorded

/-! ### Evaluating a run -/

namespace Machine

variable {W A E σ : Type} (M : Machine W A E σ) [∀ p a s, Decidable (M.ready p a s)]
  [∀ s s', Decidable (M.admits s s')]

/-- The record after a move, which led to state `s'`. -/
def record (c : Config W σ) (s' : σ) (steps : Nat → List (σ × σ)) :
    Move W A E → Nat → List (σ × σ)
  | .start p _ => Function.update steps p []
  | .run p _ =>
      match c.procs p with
      | some (.step _ _) => Function.update steps p (steps p ++ [(c.state, s')])
      | _ => steps
  | .crash _ | .env _ => steps

/-- Make one move after the other, keeping the record. -/
def execRecorded (c : Config W σ) (steps : Nat → List (σ × σ)) :
    List (Move W A E) → Option (Config W σ × (Nat → List (σ × σ)))
  | [] => some (c, steps)
  | m :: rest =>
      match M.next c m with
      | some c' => execRecorded c' (record c c'.state steps m) rest
      | none => none

theorem next_recorded {s₀ : σ} {c c' : Config W σ} {steps : Nat → List (σ × σ)} {m : Move W A E}
    (h : Recorded M s₀ c steps) (hnext : M.next c m = some c') :
    Recorded M s₀ c' (record c c'.state steps m) := by
  cases m with
  | start p a =>
      simp only [next] at hnext
      split at hnext
      · rename_i hfree
        split at hnext
        · rename_i hready
          cases hnext
          exact h.start p a hfree hready
        · cases hnext
      · cases hnext
  | run p w =>
      simp only [next] at hnext
      split at hnext
      · rename_i f k hproc
        split at hnext
        · rename_i b s' hstep
          split at hnext
          · rename_i hadm
            cases hnext
            simp only [record, hproc]
            exact h.run p w f k b s' hproc hstep hadm
          · cases hnext
        · cases hnext
      · rename_i u hproc
        cases hnext
        simp only [record, hproc]
        exact h.finish p u hproc
      · cases hnext
  | crash p =>
      simp only [next] at hnext
      split at hnext
      · rename_i prog hproc
        cases hnext
        exact h.crash p prog hproc
      · cases hnext
  | env e =>
      simp only [next] at hnext
      split at hnext
      · rename_i s' henv
        split at hnext
        · rename_i hadm
          cases hnext
          exact h.env e s' henv hadm
        · cases hnext
      · cases hnext

theorem execRecorded_recorded {s₀ : σ} (ms : List (Move W A E)) {c c' : Config W σ}
    {steps steps' : Nat → List (σ × σ)} (h : Recorded M s₀ c steps)
    (he : M.execRecorded c steps ms = some (c', steps')) : Recorded M s₀ c' steps' := by
  induction ms generalizing c steps with
  | nil =>
      simp only [execRecorded, Option.some.injEq, Prod.mk.injEq] at he
      obtain ⟨rfl, rfl⟩ := he
      exact h
  | cons m rest ih =>
      simp only [execRecorded] at he
      split at he
      · rename_i c₁ hnext
        exact ih (M.next_recorded h hnext) he
      · cases he

/-- A list of moves whose record passes a test. -/
theorem recorded_of_exec (s₀ : σ) (ms : List (Move W A E))
    (test : σ → (Nat → List (σ × σ)) → Bool)
    (h : (M.execRecorded (Config.idle s₀) (fun _ => []) ms).map (fun q => test q.1.state q.2) =
      some true) : ∃ c steps, Recorded M s₀ c steps ∧ test c.state steps = true := by
  cases hrun : M.execRecorded (Config.idle s₀) (fun _ => []) ms with
  | none => rw [hrun] at h; cases h
  | some q =>
      rw [hrun] at h
      exact ⟨q.1, q.2, M.execRecorded_recorded ms Recorded.idle hrun, by simpa using h⟩

end Machine

end Interleaving
