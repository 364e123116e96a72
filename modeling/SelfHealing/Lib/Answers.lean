/-
The answers that a trace rests on.

A trace records what a program has done, and not what the world has answered it.  Where that matters
a trace is one whose answers all pass a test (`TookWith`).

Some exceptions are raised for one reason only, that an answer did not pass.  For a program that
raises one so (`RaisedBy`), the exception at the end of a trace and an answer that did not pass come
to the same (`RaisedBy.tookWith_iff`): what is said of the answers can be read off the end, and what
is said of the end can be put as a condition on the answers.

Such programs are closed under sequence.  They are closed under a handler if it raises the exception
again, whatever else it does: one that swallowed it would hide the answer.
-/
import SelfHealing.Lib.Interference

namespace Interleaving

/-! ### Traces with answers that pass

The test is on one answer, and so a trace of a sequence is a trace of the one part and a trace of
the other, as it is without the test.
-/

/-- The program can end with `a`, having made these steps, on answers that pass the test. -/
inductive Proc.TraceWith {W σ : Type} (ok : W → Prop) :
    {α : Type} → Proc W σ α → List (σ × σ) → α → Prop
  | ret {α : Type} (a : α) : TraceWith ok (.ret a) [] a
  | step {α β : Type} (f : W → σ → Option (β × σ)) (k : β → Proc W σ α) (w : W) (s : σ) (b : β)
      (s' : σ) (steps : List (σ × σ)) (a : α) (hw : ok w) (hf : f w s = some (b, s'))
      (hk : TraceWith ok (k b) steps a) : TraceWith ok (.step f k) ((s, s') :: steps) a

namespace Proc

variable {W σ α β : Type} {ok : W → Prop}

theorem traceWith_ret {a b : α} {steps : List (σ × σ)} :
    TraceWith ok (.ret a : Proc W σ α) steps b ↔ steps = [] ∧ b = a := by
  constructor
  · intro h
    cases h
    exact ⟨rfl, rfl⟩
  · rintro ⟨rfl, rfl⟩
    exact TraceWith.ret _

theorem TraceWith.bind {x : Proc W σ α} {g : α → Proc W σ β} {l l' : List (σ × σ)} {a : α} {b : β}
    (hx : TraceWith ok x l a) (hg : TraceWith ok (g a) l' b) :
    TraceWith ok (x >>= g) (l ++ l') b := by
  induction hx with
  | ret a => exact hg
  | step f k w s c s' steps a hw hf _ ih =>
      rw [step_bind]
      exact TraceWith.step f _ w s c s' _ b hw hf (ih hg)

theorem traceWith_bind {x : Proc W σ α} {g : α → Proc W σ β} {steps : List (σ × σ)} {b : β}
    (h : TraceWith ok (x >>= g) steps b) :
    ∃ a l l', steps = l ++ l' ∧ TraceWith ok x l a ∧ TraceWith ok (g a) l' b := by
  induction x generalizing steps with
  | ret a => exact ⟨a, [], steps, rfl, TraceWith.ret a, h⟩
  | step f k ih =>
      rw [step_bind] at h
      cases h with
      | step _ _ w s c s' rest _ hw hf hk =>
          obtain ⟨a, l, l', rfl, hx, hg⟩ := ih c hk
          exact ⟨a, (s, s') :: l, l', rfl, TraceWith.step f k w s c s' l a hw hf hx, hg⟩

end Proc

namespace Prog

variable {W σ ε α β : Type} {ok : W → Prop} {e : ε} {steps : List (σ × σ)}

/-- The program can return or raise `r`, having made these steps on answers that pass the test. -/
def TookWith (ok : W → Prop) (x : Prog W σ ε α) (steps : List (σ × σ)) (r : Except ε α) : Prop :=
  Proc.TraceWith ok x.run steps r

theorem tookWith_pure {a : α} {r : Except ε α} :
    TookWith ok (pure a : Prog W σ ε α) steps r ↔ steps = [] ∧ r = .ok a := Proc.traceWith_ret

theorem tookWith_throw {r : Except ε α} :
    TookWith ok (throw e : Prog W σ ε α) steps r ↔ steps = [] ∧ r = .error e := Proc.traceWith_ret

theorem tookWith_stmt {f : W → σ → Option (Except ε α × σ)} {r : Except ε α} :
    TookWith ok (stmt f) steps r ↔
      ∃ w s s', ok w ∧ steps = [(s, s')] ∧ f w s = some (r, s') := by
  constructor
  · intro h
    cases h with
    | step _ _ w s b s' rest _ hw hf hk =>
        obtain ⟨rfl, rfl⟩ := Proc.traceWith_ret.mp hk
        exact ⟨w, s, s', hw, rfl, hf⟩
  · rintro ⟨w, s, s', hw, rfl, hf⟩
    exact Proc.TraceWith.step f _ w s r s' [] r hw hf (Proc.TraceWith.ret r)

/-- What comes after the first part, if it returns, and if it raises. -/
theorem tookWith_bind {x : Prog W σ ε α} {g : α → Prog W σ ε β} {r : Except ε β} :
    TookWith ok (x >>= g) steps r ↔
      (∃ a l l', steps = l ++ l' ∧ TookWith ok x l (.ok a) ∧ TookWith ok (g a) l' r) ∨
      ∃ e', TookWith ok x steps (.error e') ∧ r = .error e' := by
  have hrun : (x >>= g : Prog W σ ε β).run = x.run >>= ExceptT.bindCont g := rfl
  unfold TookWith
  rw [hrun]
  constructor
  · intro h
    obtain ⟨q, l, l', rfl, hx, hg⟩ := Proc.traceWith_bind h
    cases q with
    | ok a => exact Or.inl ⟨a, l, l', rfl, hx, hg⟩
    | error e' =>
        obtain ⟨rfl, rfl⟩ := Proc.traceWith_ret.mp hg
        rw [List.append_nil]
        exact Or.inr ⟨e', hx, rfl⟩
  · rintro (⟨a, l, l', rfl, hx, hg⟩ | ⟨e', hx, rfl⟩)
    · exact hx.bind hg
    · rw [← List.append_nil steps]
      exact hx.bind (Proc.TraceWith.ret _)

theorem tookWith_tryCatch {x : Prog W σ ε α} {g : ε → Prog W σ ε α} {r : Except ε α} :
    TookWith ok (tryCatch x g) steps r ↔
      (∃ a, TookWith ok x steps (.ok a) ∧ r = .ok a) ∨
      ∃ e' l l', steps = l ++ l' ∧ TookWith ok x l (.error e') ∧ TookWith ok (g e') l' r := by
  unfold TookWith
  rw [run_tryCatch]
  constructor
  · intro h
    obtain ⟨q, l, l', rfl, hx, hg⟩ := Proc.traceWith_bind h
    cases q with
    | ok a =>
        obtain ⟨rfl, rfl⟩ := Proc.traceWith_ret.mp hg
        rw [List.append_nil]
        exact Or.inl ⟨a, hx, rfl⟩
    | error e' => exact Or.inr ⟨e', l, l', rfl, hx, hg⟩
  · rintro (⟨a, hx, rfl⟩ | ⟨e', l, l', rfl, hx, hg⟩)
    · rw [← List.append_nil steps]
      exact hx.bind (Proc.TraceWith.ret _)
    · exact hx.bind hg

/-! ### Exceptions that answers are to blame for

There are two halves: without the exception the same steps can be made on answers that pass, and on
answers that pass the exception is never raised.
-/

/-- The exception is raised exactly where an answer does not pass the test. -/
structure RaisedBy (ok : W → Prop) (e : ε) (x : Prog W σ ε α) : Prop where
  passed : ∀ {steps r}, x.Took steps r → r ≠ .error e → x.TookWith ok steps r
  never : ∀ {steps}, ¬ x.TookWith ok steps (.error e)

/-- **The exception and the answer come to the same.** -/
theorem RaisedBy.tookWith_iff {x : Prog W σ ε α} {r : Except ε α} (h : RaisedBy ok e x)
    (htook : x.Took steps r) : x.TookWith ok steps r ↔ r ≠ .error e := by
  refine ⟨?_, h.passed htook⟩
  rintro hwith rfl
  exact h.never hwith

theorem raisedBy_pure (a : α) : RaisedBy ok e (pure a : Prog W σ ε α) where
  passed htook _ := tookWith_pure.mpr (took_pure.mp htook)
  never hwith := by
    obtain ⟨-, h⟩ := tookWith_pure.mp hwith
    cases h

/-- Another exception may be raised for any reason. -/
theorem raisedBy_throw {e' : ε} (hne : e' ≠ e) : RaisedBy ok e (throw e' : Prog W σ ε α) where
  passed htook _ := tookWith_throw.mpr (took_throw.mp htook)
  never hwith := by
    obtain ⟨-, h⟩ := tookWith_throw.mp hwith
    exact hne (Except.error.inj h).symm

theorem raisedBy_stmt {f : W → σ → Option (Except ε α × σ)}
    (hpassed : ∀ w s r s', f w s = some (r, s') → r ≠ .error e →
      ∃ w', ok w' ∧ f w' s = some (r, s'))
    (hnever : ∀ w s s', ok w → f w s ≠ some (.error e, s')) : RaisedBy ok e (stmt f) where
  passed htook hr := by
    obtain ⟨w, s, s', rfl, hf⟩ := took_stmt htook
    obtain ⟨w', hw', hf'⟩ := hpassed w s _ s' hf hr
    exact tookWith_stmt.mpr ⟨w', s, s', hw', rfl, hf'⟩
  never hwith := by
    obtain ⟨w, s, s', hw, -, hf⟩ := tookWith_stmt.mp hwith
    exact hnever w s s' hw hf

theorem raisedBy_bind {x : Prog W σ ε α} {g : α → Prog W σ ε β} (hx : RaisedBy ok e x)
    (hg : ∀ a, RaisedBy ok e (g a)) : RaisedBy ok e (x >>= g) where
  passed htook hr := by
    refine tookWith_bind.mpr ?_
    rcases took_bind htook with ⟨a, l, l', rfl, hfirst, hrest⟩ | ⟨e', hfirst, rfl⟩
    · exact Or.inl ⟨a, l, l', rfl, hx.passed hfirst (by simp), (hg a).passed hrest hr⟩
    · refine Or.inr ⟨e', hx.passed hfirst ?_, rfl⟩
      rintro heq
      exact hr (congrArg Except.error (Except.error.inj heq))
  never hwith := by
    rcases tookWith_bind.mp hwith with ⟨a, l, l', rfl, -, hrest⟩ | ⟨e', hfirst, heq⟩
    · exact (hg a).never hrest
    · rw [← Except.error.inj heq] at hfirst
      exact hx.never hfirst

/-- A handler that raises the exception again. -/
theorem raisedBy_tryCatch {x : Prog W σ ε α} {g : ε → Prog W σ ε α} (hx : RaisedBy ok e x)
    (hg : ∀ e', e' ≠ e → RaisedBy ok e (g e'))
    (hagain : ∀ {steps r}, (g e).Took steps r → r = .error e) : RaisedBy ok e (tryCatch x g) where
  passed htook hr := by
    refine tookWith_tryCatch.mpr ?_
    rcases took_tryCatch htook with ⟨a, hreturned, rfl⟩ | ⟨e', l, l', rfl, hraised, hhandled⟩
    · exact Or.inl ⟨a, hx.passed hreturned hr, rfl⟩
    · have hne : e' ≠ e := by
        rintro rfl
        exact hr (hagain hhandled)
      refine Or.inr ⟨e', l, l', rfl, hx.passed hraised ?_, (hg e' hne).passed hhandled hr⟩
      intro heq
      exact hne (Except.error.inj heq)
  never hwith := by
    rcases tookWith_tryCatch.mp hwith with ⟨a, -, heq⟩ | ⟨e', l, l', rfl, hraised, hhandled⟩
    · cases heq
    · by_cases hne : e' = e
      · rw [hne] at hraised
        exact hx.never hraised
      · exact (hg e' hne).never hhandled

end Prog

end Interleaving
