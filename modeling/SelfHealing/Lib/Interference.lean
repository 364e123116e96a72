/-
What the others do between the steps of a program.

The record of a program has what it has done itself.  `Between` adds what is known of the others: a
relation from the state that one step has left to the one in which the next is made, and around
them.  What holds of the steps of the program and of what the others do holds of the whole run; and
a program that was left alone has a record in which nothing happens in between.

A program that is safe for a protocol keeps its invariant wherever it is stopped, as long as the
others keep to theirs; so an invariant is proved of every point at which a program may die.
-/
import SelfHealing.Lib.History
import SelfHealing.Lib.RelyGuarantee

namespace Interleaving

variable {W σ ε α β : Type}

/-- What the others have done before, between and after the steps is within `R`. -/
def Between (R : σ → σ → Prop) : σ → List (σ × σ) → σ → Prop
  | first, [], last => R first last
  | first, (s, s') :: rest, last => R first s ∧ Between R s' rest last

namespace Between

variable {R R' : σ → σ → Prop} {first last : σ} {l l' : List (σ × σ)}

theorem mono (h : Between R first l last) (hR : ∀ s s', R s s' → R' s s') :
    Between R' first l last := by
  induction l generalizing first with
  | nil => exact hR _ _ h
  | cons q rest ih => exact ⟨hR _ _ h.1, ih h.2⟩

/-- A run can be cut where one part of the program ends. -/
theorem split (hrefl : ∀ s, R s s) (h : Between R first (l ++ l') last) :
    ∃ mid, Between R first l mid ∧ Between R mid l' last := by
  induction l generalizing first with
  | nil => exact ⟨first, hrefl first, h⟩
  | cons q rest ih =>
      obtain ⟨mid, h₁, h₂⟩ := ih h.2
      exact ⟨mid, ⟨h.1, h₁⟩, h₂⟩

/-- Two runs, the second of which begins where the first has ended. -/
theorem append (htrans : ∀ s t u, R s t → R t u → R s u) {mid : σ} (h : Between R first l mid)
    (h' : Between R mid l' last) : Between R first (l ++ l') last := by
  induction l generalizing first with
  | nil =>
      cases l' with
      | nil => exact htrans _ _ _ h h'
      | cons q rest => exact ⟨htrans _ _ _ h h'.1, h'.2⟩
  | cons q rest ih => exact ⟨h.1, ih h.2⟩

/-- **What every step keeps, and the others keep, the run keeps.** -/
theorem keeps {P : σ → Prop} (hothers : ∀ s s', R s s' → P s → P s')
    (hsteps : ∀ q ∈ l, P q.1 → P q.2) (h : Between R first l last) (hP : P first) : P last := by
  induction l generalizing first with
  | nil => exact hothers _ _ h hP
  | cons q rest ih =>
      have hq : P q.2 := hsteps q List.mem_cons_self (hothers _ _ h.1 hP)
      exact ih (fun q' hq' => hsteps q' (List.mem_cons_of_mem q hq')) h.2 hq

/-- It holds before each of the steps as well. -/
theorem keeps_at {P : σ → Prop} (hothers : ∀ s s', R s s' → P s → P s')
    (hsteps : ∀ q ∈ l, P q.1 → P q.2) (h : Between R first l last) (hP : P first) :
    ∀ q ∈ l, P q.1 := by
  induction l generalizing first with
  | nil => simp
  | cons q rest ih =>
      have hq : P q.1 := hothers _ _ h.1 hP
      intro q' hq'
      rcases List.mem_cons.mp hq' with rfl | hmem
      · exact hq
      · exact ih (fun q₁ h₁ => hsteps q₁ (List.mem_cons_of_mem q h₁)) h.2
          (hsteps q List.mem_cons_self hq) q' hmem

/-- One more step. -/
theorem snoc (hrefl : ∀ s, R s s) {s' : σ} (h : Between R first l last) :
    Between R first (l ++ [(last, s')]) s' := by
  induction l generalizing first with
  | nil => exact ⟨h, hrefl s'⟩
  | cons q rest ih => exact ⟨h.1, ih h.2⟩

/-- The others go on. -/
theorem extend (htrans : ∀ s t u, R s t → R t u → R s u) {last' : σ} (h : Between R first l last)
    (hlast : R last last') : Between R first l last' := by
  induction l generalizing first with
  | nil => exact htrans _ _ _ h hlast
  | cons q rest ih => exact ⟨h.1, ih h.2⟩

/-- What every step keeps, and the others keep, orders each step before the end of the run. -/
theorem later {T : σ → σ → Prop} (hRT : ∀ s s', R s s' → T s s')
    (htrans : ∀ s t u, T s t → T t u → T s u) (hsteps : ∀ q ∈ l, T q.1 q.2)
    (h : Between R first l last) : T first last ∧ ∀ q ∈ l, T q.1 last := by
  induction l generalizing first with
  | nil => exact ⟨hRT _ _ h, by simp⟩
  | cons q rest ih =>
      obtain ⟨hlast, hrest⟩ := ih (fun q' hq' => hsteps q' (List.mem_cons_of_mem q hq')) h.2
      have hq : T q.1 last := htrans _ _ _ (hsteps q List.mem_cons_self) hlast
      refine ⟨htrans _ _ _ (hRT _ _ h.1) hq, ?_⟩
      intro q' hq'
      rcases List.mem_cons.mp hq' with rfl | hmem
      · exact hq
      · exact hrest q' hmem

end Between

/-! ### A safe program, stopped somewhere

A program that is stopped has made some of its steps and will make no more.  The invariant holds
there, because it was kept by each of the steps and by what came between them.
-/

namespace Protocol

variable {A E : Type} {P : Protocol W A E σ} {p : Nat}

/-- The invariant withstands the others. -/
theorem inv_rely {s s' : σ} (hinv : P.inv s) (h : P.Rely p s s') : P.inv s' := by
  induction h with
  | refl => exact hinv
  | tail _ hstep ih => exact inv_other ih hstep

/-- **Wherever a safe program is stopped, the invariant holds.** -/
theorem Safe.stopped {x y : Proc W σ α} {Q : α → σ → Prop} {s s' : σ} {steps : List (σ × σ)}
    (hadm : ∀ s s', P.machine.admits s s') (hinv : P.inv s) (hsafe : P.Safe p x Q s)
    (hwent : Proc.Went x steps y) (hothers : Between (P.Rely p) s steps s') : P.inv s' := by
  induction hwent generalizing s with
  | here x => exact inv_rely hinv hothers
  | step f k w s₁ b s₂ rest y hf _ ih =>
      obtain ⟨hrely, hrest⟩ := hothers
      have hinv₁ := inv_rely hinv hrely
      obtain ⟨hguar, hsafe'⟩ := hsafe s₁ hinv₁ hrely w b s₂ hf (hadm _ _)
      exact ih (P.inv_guar p _ _ hinv₁ hguar (hadm _ _)) hsafe' hrest

/-- A program all of whose steps are within the guarantee is safe. -/
theorem safe_of_within {S : σ → σ → Prop} {x : Proc W σ α} {s : σ} (hx : x.Within S)
    (h : ∀ s s', P.inv s → S s s' → P.guar p s s') : P.Safe p x (fun _ _ => True) s := by
  induction x generalizing s with
  | ret a => trivial
  | step f k ih =>
      intro s₁ hinv _ w b s₂ hf _
      exact ⟨h _ _ hinv (hx.1 w s₁ b s₂ hf), ih b (hx.2 b)⟩

theorem triple_of_within {S : σ → σ → Prop} {R : σ → Prop} {x : Prog W σ ε α}
    (hx : Prog.Within S x) (h : ∀ s s', P.inv s → S s s' → P.guar p s s') :
    P.Triple p R x (fun _ _ => True) (fun _ _ => True) := by
  intro s _ _
  refine (safe_of_within hx.run h).mono ?_
  intro r s' _
  cases r with
  | ok a => trivial
  | error e => trivial

end Protocol

/-! ### The record of one process among others -/

/-- What the others do while process `p` runs is within `R`, and everything is within `T`. -/
structure Beside {A E : Type} (M : Machine W A E σ) (p : Nat) (R T : σ → σ → Prop) : Prop where
  refl : ∀ s, R s s
  trans : ∀ s t u, R s t → R t u → R s u
  others : ∀ q a, q ≠ p → (M.prog q a).Within R
  crash : ∀ q s, q ≠ p → R s (M.crash q s)
  env : ∀ e s s', M.env e s = some s' → R s s'
  later : ∀ s s', R s s' → T s s'
  later_trans : ∀ s t u, T s t → T t u → T s u
  own : ∀ a, (M.prog p a).Within T
  own_crash : ∀ s, T s (M.crash p s)

section Recorded

variable {A E : Type} {M : Machine W A E σ} {s₀ : σ} {c : Config W σ}
  {steps : Nat → List (σ × σ)} {p : Nat} {R T : σ → σ → Prop}

/-- **The record of a process, with what the others did meanwhile**: from `first` to `mid` it has
run, and from then on it has not. -/
theorem Recorded.between (hb : Beside M p R T) (h : Recorded M s₀ c steps) :
    ∃ first mid, Between R first (steps p) mid ∧ T mid c.state ∧
      (c.procs p ≠ none → mid = c.state) := by
  have hrefl : ∀ s, T s s := fun s => hb.later s s (hb.refl s)
  -- somebody else moves from `s` to `s'`, and `p` goes on if it was running
  have hmove : ∀ {s s' : σ} {procs procs' : Option (Proc W σ Unit)} {l : List (σ × σ)},
      R s s' → (procs' ≠ none → procs ≠ none) →
      (∃ first mid, Between R first l mid ∧ T mid s ∧ (procs ≠ none → mid = s)) →
      ∃ first mid, Between R first l mid ∧ T mid s' ∧ (procs' ≠ none → mid = s') := by
    intro s s' procs procs' l hR hprocs ⟨first, mid, hl, hlater, hrun⟩
    by_cases hp : procs = none
    · refine ⟨first, mid, hl, hb.later_trans _ _ _ hlater (hb.later _ _ hR), ?_⟩
      exact fun hne => absurd hp (hprocs hne)
    · rw [hrun hp] at hl
      exact ⟨first, s', hl.extend hb.trans hR, hrefl s', fun _ => rfl⟩
  induction h with
  | idle => exact ⟨s₀, s₀, hb.refl s₀, hrefl s₀, fun _ => rfl⟩
  | @start c _ _ q a hfree hready ih =>
      by_cases hq : p = q
      · subst hq
        simp only [Function.update_self]
        exact ⟨c.state, c.state, hb.refl _, hrefl _, fun _ => rfl⟩
      · simp only [Function.update_of_ne hq]
        exact ih
  | @run c _ hr q w β f k b s' hproc hstep hadm ih =>
      obtain ⟨a, hw⟩ := hr.running hproc
      by_cases hq : p = q
      · subst hq
        simp only [Function.update_self]
        obtain ⟨first, mid, hl, -, hrun⟩ := ih
        rw [hrun (by rw [hproc]; simp)] at hl
        exact ⟨first, s', hl.snoc hb.refl, hrefl s', fun _ => rfl⟩
      · simp only [Function.update_of_ne hq]
        have hstep' : R c.state s' :=
          ((hb.others q a (fun heq => hq heq.symm)).rest hw).1 w _ b s' hstep
        exact hmove hstep' (fun h => h) ih
  | @finish c _ hr q u hproc ih =>
      by_cases hq : p = q
      · subst hq
        simp only [Function.update_self]
        obtain ⟨first, mid, hl, hlater, -⟩ := ih
        exact ⟨first, mid, hl, hlater, fun hne => absurd rfl hne⟩
      · simp only [Function.update_of_ne hq]
        exact ih
  | @crash c _ hr q prog hproc ih =>
      by_cases hq : p = q
      · subst hq
        simp only [Function.update_self]
        obtain ⟨first, mid, hl, hlater, -⟩ := ih
        exact ⟨first, mid, hl, hb.later_trans _ _ _ hlater (hb.own_crash _),
          fun hne => absurd rfl hne⟩
      · simp only [Function.update_of_ne hq]
        exact hmove (hb.crash q _ (fun heq => hq heq.symm)) (fun h => h) ih
  | env hr e s' henv hadm ih => exact hmove (hb.env e _ s' henv) (fun h => h) ih

/-- What a process has done itself. -/
theorem Recorded.own_steps (hb : Beside M p R T) (h : Recorded M s₀ c steps) :
    ∀ q ∈ steps p, T q.1 q.2 := by
  rcases h.went p with hnone | ⟨a, y, hwent⟩
  · rw [hnone]
    simp
  · exact (hb.own a).mem hwent

/-- **A program run alone**, while the others wait. -/
theorem Recorded.alone {x : Prog W σ ε α} {r : Except ε α} {s' : σ} {a : A}
    (h : Recorded M s₀ c steps) (hprog : M.prog p a = do let _ ← x.run; pure ())
    (hfree : c.procs p = none) (hready : M.ready p a c.state) (hadm : ∀ s s', M.admits s s')
    (hx : x.Ends c.state r s') :
    ∃ c' steps', Recorded M s₀ c' steps' ∧ c'.state = s' ∧ x.Took (steps' p) r ∧
      ∀ q, q ≠ p → c'.procs q = c.procs q ∧ steps' q = steps q := by
  have hstart := h.start p a hfree hready
  rw [hprog] at hstart
  -- the steps still to be made, after those that have been made
  have hgo : ∀ {y : Proc W σ (Except ε α)} {q : Except ε α} {s₁ s₂ : σ}, Proc.Runs y s₁ q s₂ →
      ∀ {c : Config W σ} {steps : Nat → List (σ × σ)}, Recorded M s₀ c steps → c.state = s₁ →
      c.procs p = some (do let _ ← y; pure ()) →
      ∃ c' steps' l, Recorded M s₀ c' steps' ∧ c'.state = s₂ ∧ steps' p = steps p ++ l ∧
        Proc.Trace y l q ∧ ∀ q, q ≠ p → c'.procs q = c.procs q ∧ steps' q = steps q := by
    intro y q s₁ s₂ hruns
    induction hruns with
    | ret b s₁ =>
        intro c steps hr hs _
        exact ⟨c, steps, [], hr, hs, (List.append_nil _).symm, .ret b, fun _ _ => ⟨rfl, rfl⟩⟩
    | step f k w s₁ b s₂ q s₃ hf _ ih =>
        intro c steps hr hs hp
        have hf' : f w c.state = some (b, s₂) := by rw [hs]; exact hf
        have hrun := hr.run p w f _ b s₂ hp hf' (hadm _ _)
        have hrest : (Function.update c.procs p (some (do let _ ← k b; pure ()))) p =
            some (do let _ ← k b; pure ()) := Function.update_self _ _ _
        obtain ⟨c', steps', l, hr', hs', hl, ht, hothers⟩ := ih hrun rfl hrest
        refine ⟨c', steps', (s₁, s₂) :: l, hr', hs', ?_, .step f k w s₁ b s₂ l q hf ht, ?_⟩
        · rw [hl, hs]
          simp
        · intro q hq
          rw [(hothers q hq).1, (hothers q hq).2]
          simp only [Function.update_of_ne hq, and_self]
  obtain ⟨c', steps', l, hr', hs', hl, ht, hothers⟩ := hgo hx hstart rfl (by simp)
  refine ⟨c', steps', hr', hs', ?_, ?_⟩
  · rw [hl, Function.update_self, List.nil_append]
    exact ht
  · intro q hq
    rw [(hothers q hq).1, (hothers q hq).2]
    simp only [Function.update_of_ne hq, and_self]

end Recorded

/-! ### Records of a program that was left alone

These are for runs on given inputs: they are evaluated, and have the form that the theorems about
records ask for.
-/

theorem Proc.Runs.alone {x : Proc W σ α} {s s' : σ} {a : α} (h : Runs x s a s') :
    ∃ steps, Trace x steps a ∧ Between (fun s₁ s₂ => s₁ = s₂) s steps s' := by
  induction h with
  | ret a s => exact ⟨[], Trace.ret a, rfl⟩
  | step f k w s b s₁ a s' hf _ ih =>
      obtain ⟨steps, ht, hb⟩ := ih
      exact ⟨(s, s₁) :: steps, Trace.step f k w s b s₁ steps a hf ht, rfl, hb⟩

/-- Run a program alone, with the answers of a list, and keep the record. -/
def Proc.record : Proc W σ α → List W → σ → Option (α × σ × List (σ × σ))
  | .ret a, _, s => some (a, s, [])
  | .step _ _, [], _ => none
  | .step f k, w :: ws, s =>
      match f w s with
      | some (b, s₁) => (record (k b) ws s₁).map fun q => (q.1, q.2.1, (s, s₁) :: q.2.2)
      | none => none

theorem Proc.alone_of_record {x : Proc W σ α} {ws : List W} {s s' : σ} {a : α}
    {steps : List (σ × σ)} (h : x.record ws s = some (a, s', steps)) :
    Trace x steps a ∧ Between (fun s₁ s₂ => s₁ = s₂) s steps s' := by
  induction x generalizing ws s steps with
  | ret b =>
      simp only [record, Option.some.injEq, Prod.mk.injEq] at h
      obtain ⟨rfl, rfl, rfl⟩ := h
      exact ⟨Trace.ret _, rfl⟩
  | step f k ih =>
      cases ws with
      | nil => simp [record] at h
      | cons w ws =>
          simp only [record] at h
          split at h
          · rename_i b s₁ hf
            obtain ⟨q, hq, heq⟩ := Option.map_eq_some_iff.mp h
            obtain ⟨rfl, rfl, rfl⟩ : q.1 = a ∧ q.2.1 = s' ∧ (s, s₁) :: q.2.2 = steps := by
              simpa using heq
            obtain ⟨htrace, hbetween⟩ := ih b hq
            exact ⟨Trace.step f k w s b s₁ _ _ hf htrace, rfl, hbetween⟩
          · cases h

theorem Proc.Trace.bind {x : Proc W σ α} {g : α → Proc W σ β} {l l' : List (σ × σ)} {a : α} {b : β}
    (hx : Trace x l a) (hg : Trace (g a) l' b) : Trace (x >>= g) (l ++ l') b := by
  induction hx with
  | ret a => exact hg
  | step f k w s c s' steps a hf _ ih =>
      rw [Proc.step_bind]
      exact Trace.step f _ w s c s' (steps ++ l') b hf (ih hg)

namespace Prog

variable {l l' : List (σ × σ)}

theorem Ends.alone {x : Prog W σ ε α} {s s' : σ} {r : Except ε α} (h : x.Ends s r s') :
    ∃ steps, x.Took steps r ∧ Between (fun s₁ s₂ => s₁ = s₂) s steps s' := Proc.Runs.alone h

/-- The record of a run that passes a test, alone and with the answers of a list. -/
theorem alone_of_passes {x : Prog W σ ε α} {ws : List W} {s : σ} {test : Except ε α → σ → Bool}
    (h : x.passes ws s test = true) :
    ∃ r s' steps, x.Took steps r ∧ Between (fun s₁ s₂ => s₁ = s₂) s steps s' ∧
      test r s' = true := by
  obtain ⟨r, s', hends, htest⟩ := ends_of_passes h
  obtain ⟨steps, htook, hbetween⟩ := hends.alone
  exact ⟨r, s', steps, htook, hbetween, htest⟩

/-- Run alone with the answers of a list, the program ends with a record that passes a test. -/
def records (x : Prog W σ ε α) (ws : List W) (s : σ)
    (test : Except ε α → List (σ × σ) → σ → Bool) : Bool :=
  (x.run.record ws s).any fun q => test q.1 q.2.2 q.2.1

theorem alone_of_records {x : Prog W σ ε α} {ws : List W} {s : σ}
    {test : Except ε α → List (σ × σ) → σ → Bool} (h : x.records ws s test = true) :
    ∃ r s' steps, x.Took steps r ∧ Between (fun s₁ s₂ => s₁ = s₂) s steps s' ∧
      test r steps s' = true := by
  unfold records at h
  cases hrun : x.run.record ws s with
  | none =>
      rw [hrun] at h
      simp at h
  | some q =>
      rw [hrun] at h
      obtain ⟨htook, hbetween⟩ := Proc.alone_of_record hrun
      exact ⟨q.1, q.2.1, q.2.2, htook, hbetween, by simpa using h⟩

/-- The first program returns, and the rest goes on from there. -/
theorem Took.bind {x : Prog W σ ε α} {g : α → Prog W σ ε β} {a : α} {r : Except ε β}
    (hx : x.Took l (.ok a)) (hg : (g a).Took l' r) : (x >>= g).Took (l ++ l') r := by
  have hrun : (x >>= g : Prog W σ ε β).run = x.run >>= ExceptT.bindCont g := rfl
  unfold Took
  rw [hrun]
  exact Proc.Trace.bind hx hg

/-- The first program raises, and nothing follows. -/
theorem Took.raises {x : Prog W σ ε α} {g : α → Prog W σ ε β} {e : ε}
    (hx : x.Took l (.error e)) : (x >>= g).Took l (.error e) := by
  have hrun : (x >>= g : Prog W σ ε β).run = x.run >>= ExceptT.bindCont g := rfl
  have hend : Proc.Trace (ExceptT.bindCont g (.error e) : Proc W σ (Except ε β)) []
      (.error e) := Proc.Trace.ret _
  unfold Took
  rw [hrun, ← List.append_nil l]
  exact Proc.Trace.bind hx hend

/-- There is nothing to handle. -/
theorem Took.tryCatch {x : Prog W σ ε α} {g : ε → Prog W σ ε α} {a : α}
    (hx : x.Took l (.ok a)) : (tryCatch x g : Prog W σ ε α).Took l (.ok a) := by
  unfold Took
  rw [run_tryCatch, ← List.append_nil l]
  exact Proc.Trace.bind hx (Proc.Trace.ret _)

/-- An exception is handled. -/
theorem Took.caught {x : Prog W σ ε α} {g : ε → Prog W σ ε α} {e : ε} {r : Except ε α}
    (hx : x.Took l (.error e)) (hg : (g e).Took l' r) :
    (MonadExcept.tryCatch x g : Prog W σ ε α).Took (l ++ l') r := by
  unfold Took
  rw [run_tryCatch]
  exact Proc.Trace.bind hx hg

end Prog

end Interleaving
