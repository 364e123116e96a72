/-
Processes that share a state.

A `Proc` is a tree of atomic steps.  Each step is handed what the outside world
answers at that moment and the shared state; it either has to wait (`none`) or
gives a value, on which the rest of the tree depends, and the next state.  That is
all the granularity an interleaving can see: whatever has to happen between two
steps of other processes is one step here.

A `Machine` says which programs may be started, what a crash undoes, what happens
without any process, and which steps are admitted at all.  `Reaches` is the system
taking step after step in any order; `Machine.exec` is the same thing as a
function on a list of moves, so that a run can be evaluated.
-/
import Mathlib.Logic.Relation
import Mathlib.Logic.Function.Basic

namespace Interleaving

/-- A program as a tree of atomic steps over a shared state `σ`, in a world that answers in `W`.
What comes after a step depends on what it has returned, and so the tree branches there. -/
inductive Proc (W σ α : Type) : Type 1
  | ret (a : α)
  | step {β : Type} (f : W → σ → Option (β × σ)) (k : β → Proc W σ α)

namespace Proc

variable {W σ α β : Type}

/-- Run the first program and continue with what it returns. -/
def bind : Proc W σ α → (α → Proc W σ β) → Proc W σ β
  | ret a, g => g a
  | step f k, g => step f (fun b => bind (k b) g)

instance : Monad (Proc W σ) where
  pure := ret
  bind := bind

@[simp] theorem pure_eq (a : α) : (pure a : Proc W σ α) = ret a := rfl

@[simp] theorem ret_bind (a : α) (g : α → Proc W σ β) : (ret a >>= g) = g a := rfl

@[simp] theorem step_bind {γ : Type} (f : W → σ → Option (γ × σ)) (k : γ → Proc W σ α)
    (g : α → Proc W σ β) : (step f k >>= g) = step f (fun b => k b >>= g) := rfl

/-- One atomic step that returns its value. -/
def atomic (f : W → σ → Option (α × σ)) : Proc W σ α := step f ret

end Proc

/-- A program that may raise instead of returning. -/
abbrev Prog (W σ ε α : Type) := ExceptT ε (Proc W σ) α

/-- One atomic step that returns or raises. -/
def Prog.stmt {W σ ε α : Type} (f : W → σ → Option (Except ε α × σ)) : Prog W σ ε α :=
  ExceptT.mk (Proc.atomic f)

/-! ### A program on its own -/

/-- Started in `s` and left alone, the program can end with `a` in `s'`. -/
inductive Proc.Runs {W σ α : Type} : Proc W σ α → σ → α → σ → Prop
  | ret (a : α) (s : σ) : Runs (.ret a) s a s
  | step {β : Type} (f : W → σ → Option (β × σ)) (k : β → Proc W σ α) (w : W) (s : σ) (b : β)
      (s₁ : σ) (a : α) (s' : σ) (hf : f w s = some (b, s₁)) (hk : Runs (k b) s₁ a s') :
      Runs (.step f k) s a s'

namespace Proc

variable {W σ α β : Type}

theorem runs_ret {a b : α} {s s' : σ} :
    Runs (.ret a : Proc W σ α) s b s' ↔ b = a ∧ s' = s := by
  constructor
  · intro h
    cases h
    exact ⟨rfl, rfl⟩
  · rintro ⟨rfl, rfl⟩
    exact Runs.ret _ _

theorem runs_bind {x : Proc W σ α} {g : α → Proc W σ β} {s s' : σ} {b : β} :
    Runs (x >>= g) s b s' ↔ ∃ a s₁, Runs x s a s₁ ∧ Runs (g a) s₁ b s' := by
  induction x generalizing s with
  | ret a =>
      rw [ret_bind]
      constructor
      · intro h
        exact ⟨a, s, Runs.ret a s, h⟩
      · rintro ⟨a', s₁, hx, hg⟩
        obtain ⟨rfl, rfl⟩ := runs_ret.mp hx
        exact hg
  | step f k ih =>
      rw [step_bind]
      constructor
      · intro h
        cases h with
        | step _ _ w _ c s₁ _ _ hf hk =>
            obtain ⟨a, s₂, hx, hg⟩ := (ih c).mp hk
            exact ⟨a, s₂, Runs.step f k w s c s₁ a s₂ hf hx, hg⟩
      · rintro ⟨a, s₂, hx, hg⟩
        cases hx with
        | step _ _ w _ c s₁ _ _ hf hk =>
            exact Runs.step _ _ w s c s₁ b s' hf ((ih c).mpr ⟨a, s₂, hk, hg⟩)

theorem runs_atomic {f : W → σ → Option (α × σ)} {s s' : σ} {a : α} :
    Runs (atomic f) s a s' ↔ ∃ w, f w s = some (a, s') := by
  constructor
  · intro h
    cases h with
    | step _ _ w _ b s₁ _ _ hf hk =>
        obtain ⟨rfl, rfl⟩ := runs_ret.mp hk
        exact ⟨w, hf⟩
  · rintro ⟨w, hf⟩
    exact Runs.step _ _ w s a s' a s' hf (Runs.ret a s')

/-- Run a program alone, with the answers of a list. -/
def solo : Proc W σ α → List W → σ → Option (α × σ)
  | .ret a, _, s => some (a, s)
  | .step _ _, [], _ => none
  | .step f k, w :: ws, s =>
      match f w s with
      | some (b, s₁) => solo (k b) ws s₁
      | none => none

theorem runs_of_solo {x : Proc W σ α} : ∀ {ws : List W} {s s' : σ} {a : α},
    x.solo ws s = some (a, s') → Runs x s a s' := by
  induction x with
  | ret a =>
      intro ws s s' b h
      simp only [solo, Option.some.injEq, Prod.mk.injEq] at h
      obtain ⟨rfl, rfl⟩ := h
      exact Runs.ret _ _
  | step f k ih =>
      intro ws s s' a h
      cases ws with
      | nil => cases h
      | cons w ws =>
          simp only [solo] at h
          split at h
          · rename_i b s₁ hf
            exact Runs.step f k w s b s₁ a s' hf (ih b h)
          · cases h

end Proc

namespace Prog

variable {W σ ε α β : Type}

/-- A program that only hands on what the one before it has returned. -/
theorem bind_pure (x : Prog W σ ε α) : (x >>= pure) = x := by
  show (x.run >>= ExceptT.bindCont pure : Proc W σ (Except ε α)) = x.run
  induction x.run with
  | ret r =>
      cases r with
      | ok a => rfl
      | error e => rfl
  | step f k ih =>
      rw [Proc.step_bind]
      exact congrArg (Proc.step f) (funext ih)

/-- Started in `s` and left alone, the program can return or raise `r` in `s'`. -/
def Ends (x : Prog W σ ε α) (s : σ) (r : Except ε α) (s' : σ) : Prop := Proc.Runs x.run s r s'

theorem ends_pure {a : α} {s s' : σ} {r : Except ε α} :
    Ends (pure a : Prog W σ ε α) s r s' ↔ r = .ok a ∧ s' = s := Proc.runs_ret

theorem ends_throw {e : ε} {s s' : σ} {r : Except ε α} :
    Ends (throw e : Prog W σ ε α) s r s' ↔ r = .error e ∧ s' = s := Proc.runs_ret

theorem ends_stmt {f : W → σ → Option (Except ε α × σ)} {s s' : σ} {r : Except ε α} :
    Ends (stmt f) s r s' ↔ ∃ w, f w s = some (r, s') := Proc.runs_atomic

theorem ends_bind {x : Prog W σ ε α} {g : α → Prog W σ ε β} {s s' : σ} {r : Except ε β} :
    Ends (x >>= g) s r s' ↔
      (∃ a s₁, Ends x s (.ok a) s₁ ∧ Ends (g a) s₁ r s') ∨
      (∃ e, Ends x s (.error e) s' ∧ r = .error e) := by
  have hrun : (x >>= g : Prog W σ ε β).run = x.run >>= ExceptT.bindCont g := rfl
  unfold Ends
  rw [hrun, Proc.runs_bind]
  constructor
  · rintro ⟨q, s₁, hx, hg⟩
    cases q with
    | ok a => exact Or.inl ⟨a, s₁, hx, hg⟩
    | error e =>
        obtain ⟨rfl, rfl⟩ := Proc.runs_ret.mp hg
        exact Or.inr ⟨e, hx, rfl⟩
  · rintro (⟨a, s₁, hx, hg⟩ | ⟨e, hx, rfl⟩)
    · exact ⟨.ok a, s₁, hx, hg⟩
    · exact ⟨.error e, s', hx, Proc.Runs.ret _ _⟩

/-- A handler as a continuation of the underlying program. -/
theorem run_tryCatch (x : Prog W σ ε α) (g : ε → Prog W σ ε α) :
    (tryCatch x g : Prog W σ ε α).run =
      x.run >>= Except.rec (fun e => (g e).run) (fun a => Proc.ret (.ok a)) := by
  show x.run >>= _ = x.run >>= _
  congr 1
  funext r
  cases r <;> rfl

theorem ends_tryCatch {x : Prog W σ ε α} {g : ε → Prog W σ ε α} {s s' : σ} {r : Except ε α} :
    Ends (tryCatch x g) s r s' ↔
      (∃ a, Ends x s (.ok a) s' ∧ r = .ok a) ∨
      (∃ e s₁, Ends x s (.error e) s₁ ∧ Ends (g e) s₁ r s') := by
  unfold Ends
  rw [run_tryCatch, Proc.runs_bind]
  constructor
  · rintro ⟨q, s₁, hx, hg⟩
    cases q with
    | ok a =>
        obtain ⟨rfl, rfl⟩ := Proc.runs_ret.mp hg
        exact Or.inl ⟨a, hx, rfl⟩
    | error e => exact Or.inr ⟨e, s₁, hx, hg⟩
  · rintro (⟨a, hx, rfl⟩ | ⟨e, s₁, hx, hg⟩)
    · exact ⟨.ok a, s', hx, Proc.Runs.ret _ _⟩
    · exact ⟨.error e, s₁, hx, hg⟩

/-- A program that ends in a state passing a test, when run alone with the answers of a list. -/
theorem ends_of_solo (x : Prog W σ ε α) (ws : List W) (s : σ) (test : Except ε α → σ → Bool)
    (h : (x.run.solo ws s).map (fun q => test q.1 q.2) = some true) :
    ∃ r s', Ends x s r s' ∧ test r s' = true := by
  cases hrun : x.run.solo ws s with
  | none => rw [hrun] at h; cases h
  | some q =>
      rw [hrun] at h
      exact ⟨q.1, q.2, Proc.runs_of_solo hrun, by simpa using h⟩

/-- Run alone with the answers of a list, the program ends in a state passing a test. -/
def passes (x : Prog W σ ε α) (ws : List W) (s : σ) (test : Except ε α → σ → Bool) : Bool :=
  (x.run.solo ws s).any fun q => test q.1 q.2

theorem ends_of_passes {x : Prog W σ ε α} {ws : List W} {s : σ} {test : Except ε α → σ → Bool}
    (h : x.passes ws s test = true) : ∃ r s', Ends x s r s' ∧ test r s' = true := by
  refine ends_of_solo x ws s test ?_
  unfold passes at h
  cases hrun : x.run.solo ws s with
  | none => rw [hrun] at h; cases h
  | some q =>
      rw [hrun] at h
      simpa using h

end Prog

/-! ### A program among others

`Trace` is a program running to its end while anybody may do anything between its
steps: only what it does itself is recorded.
-/

/-- The program can end with `a`, having made these steps: of each the state before it and the state
after it.  What others have done in between is the difference from one step to the next. -/
inductive Proc.Trace {W σ α : Type} : Proc W σ α → List (σ × σ) → α → Prop
  | ret (a : α) : Trace (.ret a) [] a
  | step {β : Type} (f : W → σ → Option (β × σ)) (k : β → Proc W σ α) (w : W) (s : σ) (b : β)
      (s' : σ) (steps : List (σ × σ)) (a : α) (hf : f w s = some (b, s'))
      (hk : Trace (k b) steps a) : Trace (.step f k) ((s, s') :: steps) a

theorem Proc.trace_ret {W σ α : Type} {a b : α} {steps : List (σ × σ)} :
    Trace (.ret a : Proc W σ α) steps b ↔ steps = [] ∧ b = a := by
  constructor
  · intro h
    cases h
    exact ⟨rfl, rfl⟩
  · intro h
    obtain ⟨rfl, rfl⟩ := h
    exact Trace.ret _

theorem Proc.trace_bind {W σ α β : Type} {x : Proc W σ α} {g : α → Proc W σ β}
    {steps : List (σ × σ)} {b : β} (h : Trace (x >>= g) steps b) :
    ∃ a l l', steps = l ++ l' ∧ Trace x l a ∧ Trace (g a) l' b := by
  induction x generalizing steps with
  | ret a => exact ⟨a, [], steps, rfl, Trace.ret a, h⟩
  | step f k ih =>
      rw [Proc.step_bind] at h
      cases h with
      | step _ _ w s c s' rest _ hf hk =>
          obtain ⟨a, l, l', rfl, hx, hg⟩ := ih c hk
          exact ⟨a, (s, s') :: l, l', rfl, Trace.step f k w s c s' l a hf hx, hg⟩

/-- A run on its own is one among others who do nothing. -/
theorem Proc.Runs.trace {W σ α : Type} {x : Proc W σ α} {s s' : σ} {a : α} (h : Runs x s a s') :
    ∃ steps, Trace x steps a := by
  induction h with
  | ret a s => exact ⟨[], Trace.ret a⟩
  | step f k w s b s₁ a s' hf _ ih =>
      obtain ⟨steps, ht⟩ := ih
      exact ⟨(s, s₁) :: steps, Trace.step f k w s b s₁ steps a hf ht⟩

namespace Prog

variable {W σ ε α β : Type}

/-- The program can return or raise `r`, having made these steps. -/
def Took (x : Prog W σ ε α) (steps : List (σ × σ)) (r : Except ε α) : Prop :=
  Proc.Trace x.run steps r

theorem Ends.took {x : Prog W σ ε α} {s s' : σ} {r : Except ε α} (h : x.Ends s r s') :
    ∃ steps, x.Took steps r := Proc.Runs.trace h

theorem took_pure {a : α} {steps : List (σ × σ)} {r : Except ε α} :
    Took (pure a : Prog W σ ε α) steps r ↔ steps = [] ∧ r = .ok a := Proc.trace_ret

theorem took_throw {e : ε} {steps : List (σ × σ)} {r : Except ε α} :
    Took (throw e : Prog W σ ε α) steps r ↔ steps = [] ∧ r = .error e := Proc.trace_ret

theorem took_stmt {f : W → σ → Option (Except ε α × σ)} {steps : List (σ × σ)}
    {r : Except ε α} (h : Took (stmt f) steps r) :
    ∃ w s s', steps = [(s, s')] ∧ f w s = some (r, s') := by
  cases h with
  | step _ _ w s b s' rest _ hf hk =>
      obtain ⟨rfl, rfl⟩ := Proc.trace_ret.mp hk
      exact ⟨w, s, s', rfl, hf⟩

theorem took_bind {x : Prog W σ ε α} {g : α → Prog W σ ε β} {steps : List (σ × σ)}
    {r : Except ε β} (h : Took (x >>= g) steps r) :
    (∃ a l l', steps = l ++ l' ∧ Took x l (.ok a) ∧ Took (g a) l' r) ∨
      (∃ e, Took x steps (.error e) ∧ r = .error e) := by
  have hrun : (x >>= g : Prog W σ ε β).run = x.run >>= ExceptT.bindCont g := rfl
  unfold Took at h
  rw [hrun] at h
  obtain ⟨q, l, l', rfl, hx, hg⟩ := Proc.trace_bind h
  cases q with
  | ok a => exact Or.inl ⟨a, l, l', rfl, hx, hg⟩
  | error e =>
      obtain ⟨rfl, rfl⟩ := Proc.trace_ret.mp hg
      rw [List.append_nil]
      exact Or.inr ⟨e, hx, rfl⟩

theorem took_tryCatch {x : Prog W σ ε α} {g : ε → Prog W σ ε α} {steps : List (σ × σ)}
    {r : Except ε α} (h : Took (tryCatch x g) steps r) :
    (∃ a, Took x steps (.ok a) ∧ r = .ok a) ∨
      (∃ e l l', steps = l ++ l' ∧ Took x l (.error e) ∧ Took (g e) l' r) := by
  unfold Took at h
  rw [run_tryCatch] at h
  obtain ⟨q, l, l', rfl, hx, hg⟩ := Proc.trace_bind h
  cases q with
  | ok a =>
      obtain ⟨rfl, rfl⟩ := Proc.trace_ret.mp hg
      rw [List.append_nil]
      exact Or.inl ⟨a, hx, rfl⟩
  | error e => exact Or.inr ⟨e, l, l', rfl, hx, hg⟩

end Prog

/-! ### Processes together

A process that crashes is gone, and may be started again; what it had written and not committed is
undone by the machine.
-/

/-- The shared state and the programs that are still running, by process number. -/
structure Config (W σ : Type) where
  state : σ
  procs : Nat → Option (Proc W σ Unit)

/-- No process is running. -/
def Config.idle {W : Type} {σ : Type} (s : σ) : Config W σ := ⟨s, fun _ => none⟩

/-- The programs of a system and what surrounds them.  A process runs one program at a time; when it
dies in the middle of it, `crash` says what becomes of the shared state. -/
structure Machine (W A E σ : Type) where
  /-- The program a process runs when it is started with an argument. -/
  prog : Nat → A → Proc W σ Unit
  /-- When it may be started. -/
  ready : Nat → A → σ → Prop
  /-- What the death of a process does to the shared state. -/
  crash : Nat → σ → σ
  /-- What happens by itself: the clock, and everything no process is modelled for. -/
  env : E → σ → Option σ
  /-- Which steps are admitted, by the state before and the state after. -/
  admits : σ → σ → Prop

/-- One thing that happens. -/
inductive Move (W A E : Type)
  | start (p : Nat) (a : A)
  | run (p : Nat) (w : W)
  | crash (p : Nat)
  | env (e : E)

variable {W A E σ : Type}

/-- One step of the system. -/
inductive Step (M : Machine W A E σ) : Config W σ → Config W σ → Prop
  | start (c : Config W σ) (p : Nat) (a : A) (hfree : c.procs p = none)
      (hready : M.ready p a c.state) :
      Step M c ⟨c.state, Function.update c.procs p (some (M.prog p a))⟩
  | run (c : Config W σ) (p : Nat) (w : W) {β : Type} (f : W → σ → Option (β × σ))
      (k : β → Proc W σ Unit) (b : β) (s' : σ) (hproc : c.procs p = some (.step f k))
      (hstep : f w c.state = some (b, s')) (hadm : M.admits c.state s') :
      Step M c ⟨s', Function.update c.procs p (some (k b))⟩
  | finish (c : Config W σ) (p : Nat) (u : Unit) (hproc : c.procs p = some (.ret u)) :
      Step M c ⟨c.state, Function.update c.procs p none⟩
  | crash (c : Config W σ) (p : Nat) (prog : Proc W σ Unit) (hproc : c.procs p = some prog) :
      Step M c ⟨M.crash p c.state, Function.update c.procs p none⟩
  | env (c : Config W σ) (e : E) (s' : σ) (henv : M.env e c.state = some s')
      (hadm : M.admits c.state s') : Step M c ⟨s', c.procs⟩

/-- Any number of steps, in any order. -/
def Reaches (M : Machine W A E σ) : Config W σ → Config W σ → Prop :=
  Relation.ReflTransGen (Step M)

/-- What is reached by steps that few are admitted is reached where more are. -/
theorem Reaches.mono {M : Machine W A E σ} {admits : σ → σ → Prop}
    (h : ∀ s s', M.admits s s' → admits s s') {c c' : Config W σ} (hr : Reaches M c c') :
    Reaches { M with admits := admits } c c' := by
  refine Relation.ReflTransGen.mono ?_ _ _ hr
  intro d d' hstep
  cases hstep with
  | start p a hfree hready => exact Step.start d p a hfree hready
  | run p w f k b s' hproc hf hadm => exact Step.run d p w f k b s' hproc hf (h _ _ hadm)
  | finish p u hproc => exact Step.finish d p u hproc
  | crash p prog hproc => exact Step.crash d p prog hproc
  | env e s' henv hadm => exact Step.env d e s' henv (h _ _ hadm)

namespace Machine

section Exec

variable (M : Machine W A E σ) [∀ p a s, Decidable (M.ready p a s)]
  [∀ s s', Decidable (M.admits s s')]

/-- Make one move, if it can be made. -/
def next (c : Config W σ) : Move W A E → Option (Config W σ)
  | .start p a =>
      match c.procs p with
      | none =>
          if M.ready p a c.state then
            some ⟨c.state, Function.update c.procs p (some (M.prog p a))⟩
          else none
      | some _ => none
  | .run p w =>
      match c.procs p with
      | some (.step f k) =>
          match f w c.state with
          | some (b, s') =>
              if M.admits c.state s' then some ⟨s', Function.update c.procs p (some (k b))⟩
              else none
          | none => none
      | some (.ret _) => some ⟨c.state, Function.update c.procs p none⟩
      | none => none
  | .crash p =>
      match c.procs p with
      | some _ => some ⟨M.crash p c.state, Function.update c.procs p none⟩
      | none => none
  | .env e =>
      match M.env e c.state with
      | some s' => if M.admits c.state s' then some ⟨s', c.procs⟩ else none
      | none => none

/-- Make the moves of a list in order. -/
def exec : Config W σ → List (Move W A E) → Option (Config W σ)
  | c, [] => some c
  | c, m :: rest =>
      match M.next c m with
      | some c' => exec c' rest
      | none => none

theorem next_step {c c' : Config W σ} {m : Move W A E} (h : M.next c m = some c') :
    Step M c c' := by
  cases m with
  | start p a =>
      simp only [next] at h
      split at h
      · rename_i hfree
        split at h
        · rename_i hready
          cases h
          exact Step.start c p a hfree hready
        · cases h
      · cases h
  | run p w =>
      simp only [next] at h
      split at h
      · rename_i f k hproc
        split at h
        · rename_i b s' hstep
          split at h
          · rename_i hadm
            cases h
            exact Step.run c p w f k b s' hproc hstep hadm
          · cases h
        · cases h
      · rename_i u hproc
        cases h
        exact Step.finish c p u hproc
      · cases h
  | crash p =>
      simp only [next] at h
      split at h
      · rename_i prog hproc
        cases h
        exact Step.crash c p prog hproc
      · cases h
  | env e =>
      simp only [next] at h
      split at h
      · rename_i s' henv
        split at h
        · rename_i hadm
          cases h
          exact Step.env c e s' henv hadm
        · cases h
      · cases h

theorem exec_reaches : ∀ (ms : List (Move W A E)) {c c' : Config W σ},
    M.exec c ms = some c' → Reaches M c c' := by
  intro ms
  induction ms with
  | nil => intro c c' h; cases h; exact Relation.ReflTransGen.refl
  | cons m rest ih =>
      intro c c' h
      simp only [exec] at h
      split at h
      · rename_i c₁ hnext
        exact Relation.ReflTransGen.head (M.next_step hnext) (ih h)
      · cases h

/-- A list of moves that ends in a state passing a test reaches such a state. -/
theorem reaches_of_exec (c : Config W σ) (ms : List (Move W A E)) (test : σ → Bool)
    (h : (M.exec c ms).map (fun c' => test c'.state) = some true) :
    ∃ c', Reaches M c c' ∧ test c'.state = true := by
  cases hrun : M.exec c ms with
  | none => rw [hrun] at h; cases h
  | some c' =>
      rw [hrun] at h
      exact ⟨c', M.exec_reaches ms hrun, by simpa using h⟩

/-- A run that passes a test, and goes on to pass another. -/
theorem reaches_of_exec_on (c : Config W σ) (ms ms' : List (Move W A E)) (test test' : σ → Bool)
    (h : (M.exec c ms).any (fun c₁ => test c₁.state &&
      (M.exec c₁ ms').any (fun c₂ => test' c₂.state)) = true) :
    ∃ c₁ c₂, Reaches M c c₁ ∧ test c₁.state = true ∧ Reaches M c₁ c₂ ∧ test' c₂.state = true := by
  cases hrun : M.exec c ms with
  | none => rw [hrun] at h; cases h
  | some c₁ =>
      rw [hrun] at h
      simp only [Option.any_some, Bool.and_eq_true] at h
      cases hrun' : M.exec c₁ ms' with
      | none => rw [hrun'] at h; cases h.2
      | some c₂ =>
          rw [hrun'] at h
          exact ⟨c₁, c₂, M.exec_reaches ms hrun, h.1, M.exec_reaches ms' hrun', by simpa using h.2⟩

end Exec

end Machine

end Interleaving
