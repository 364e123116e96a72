/-
Rules for programs that run among others.

One rule for each way the model builds a program: a statement, a read, a drawn
identifier, a block in a transaction.  Each reduces a triple about the program to
what its steps do to the database.

Each program of the model is built of these few, so that no proof about a program looks at what a
program is made of.  The relation in a rule is what a step may do, and the postcondition what is
known of the value that is returned.
-/
import SelfHealing.Database
import SelfHealing.Lib.History
import SelfHealing.Lib.RelyGuarantee
import SelfHealing.Proofs.Transactions

namespace SelfHealing

open Interleaving Interleaving.Protocol ReadCommitted

variable {A E α β : Type} {P : Protocol World A E Db} {p : Nat} {t : TxId}
  {R : Db → Prop} {Q : α → Db → Prop} {X : Err → Db → Prop}

/-- A statement: refused, it leaves the database as it is. -/
theorem triple_sql {f : Db → Option (Except Err α × Db)} (hst : P.Stable p R)
    (hrefl : ∀ s, P.inv s → R s → P.guar p s s)
    (hfail : ∀ s, P.inv s → R s → X databaseError s)
    (hstep : ∀ s r s', P.inv s → R s → f s = some (r, s') → P.machine.admits s s' →
      P.guar p s s' ∧ post Q X r s') :
    P.Triple p R (sql f) Q X := by
  refine triple_stmt hst ?_
  intro s w r s' hinv hR hf hadm
  by_cases hw : w.fails = true
  · rw [if_pos hw] at hf
    simp only [Option.some.injEq, Prod.mk.injEq] at hf
    obtain ⟨rfl, rfl⟩ := hf
    exact ⟨hrefl s hinv hR, hfail s hinv hR⟩
  · rw [if_neg hw] at hf
    exact hstep s r s' hinv hR hf hadm

theorem triple_select {f : Db → α} (hst : P.Stable p R)
    (hrefl : ∀ s, P.inv s → R s → P.guar p s s)
    (hfail : ∀ s, P.inv s → R s → X databaseError s)
    (hstep : ∀ s, P.inv s → R s → Q (f s) s) :
    P.Triple p R (select f) Q X := by
  refine triple_sql hst hrefl hfail ?_
  intro s r s' hinv hR hf hadm
  simp only [Option.some.injEq, Prod.mk.injEq] at hf
  obtain ⟨rfl, rfl⟩ := hf
  exact ⟨hrefl s hinv hR, hstep s hinv hR⟩

theorem triple_check {x : Except Err α} (hok : ∀ a s, x = .ok a → P.inv s → R s → Q a s)
    (herr : ∀ e s, x = .error e → P.inv s → R s → X e s) : P.Triple p R (check x) Q X := by
  intro s hinv hR
  show post Q X x s
  cases hx : x with
  | ok a => exact hok a s hx hinv hR
  | error e => exact herr e s hx hinv hR

theorem triple_datetimeNow {Q : Int → Db → Prop} (hst : P.Stable p R)
    (hrefl : ∀ s, P.inv s → R s → P.guar p s s) (hstep : ∀ s, P.inv s → R s → Q s.now s) :
    P.Triple p R datetimeNow Q X := by
  refine triple_stmt hst ?_
  intro s w r s' hinv hR hf hadm
  simp only [Option.some.injEq, Prod.mk.injEq] at hf
  obtain ⟨rfl, rfl⟩ := hf
  exact ⟨hrefl s hinv hR, hstep s hinv hR⟩

theorem triple_uuid4 {q : Nat} {Q : Nat → Db → Prop} (hst : P.Stable p R)
    (hstep : ∀ s, P.inv s → R s → P.machine.admits s (s.draw q) →
      P.guar p s (s.draw q) ∧ Q s.nextId (s.draw q)) :
    P.Triple p R (uuid4 q) Q X := by
  refine triple_stmt hst ?_
  intro s w r s' hinv hR hf hadm
  simp only [Option.some.injEq, Prod.mk.injEq] at hf
  obtain ⟨rfl, rfl⟩ := hf
  exact hstep s hinv hR hadm

theorem triple_observe {evs : List Event} {Q : Unit → Db → Prop} (hst : P.Stable p R)
    (hstep : ∀ s, P.inv s → R s → P.machine.admits s (s.record evs) →
      P.guar p s (s.record evs) ∧ Q () (s.record evs)) :
    P.Triple p R (observe evs) Q X := by
  refine triple_stmt hst ?_
  intro s w r s' hinv hR hf hadm
  simp only [Option.some.injEq, Prod.mk.injEq] at hf
  obtain ⟨rfl, rfl⟩ := hf
  exact hstep s hinv hR hadm

theorem triple_beginTx {Q : Unit → Db → Prop} (hst : P.Stable p R)
    (hrefl : ∀ s, P.inv s → R s → P.guar p s s)
    (hfail : ∀ s, P.inv s → R s → X databaseError s)
    (hstep : ∀ s, P.inv s → R s → P.machine.admits s (s.started t) →
      P.guar p s (s.started t) ∧ Q () (s.started t)) :
    P.Triple p R (beginTx t) Q X := by
  refine triple_sql hst hrefl hfail ?_
  intro s r s' hinv hR hf hadm
  simp only [Option.some.injEq, Prod.mk.injEq] at hf
  obtain ⟨rfl, rfl⟩ := hf
  exact hstep s hinv hR hadm

theorem triple_commitTx {evs : List Event} {Q : Unit → Db → Prop} (hst : P.Stable p R)
    (hfail : ∀ s, P.inv s → R s → P.machine.admits s (s.rollback t) →
      P.guar p s (s.rollback t) ∧ X databaseError (s.rollback t))
    (hstep : ∀ s, P.inv s → R s → P.machine.admits s ((s.commit t).record evs) →
      P.guar p s ((s.commit t).record evs) ∧ Q () ((s.commit t).record evs)) :
    P.Triple p R (commitTx t evs) Q X := by
  refine triple_stmt hst ?_
  intro s w r s' hinv hR hf hadm
  by_cases hw : w.fails = true
  · rw [if_pos hw] at hf
    simp only [Option.some.injEq, Prod.mk.injEq] at hf
    obtain ⟨rfl, rfl⟩ := hf
    exact hfail s hinv hR hadm
  · rw [if_neg hw] at hf
    simp only [Option.some.injEq, Prod.mk.injEq] at hf
    obtain ⟨rfl, rfl⟩ := hf
    exact hstep s hinv hR hadm

theorem triple_rollbackTx {Q : Unit → Db → Prop} (hst : P.Stable p R)
    (hstep : ∀ s, P.inv s → R s → P.machine.admits s (s.rollback t) →
      P.guar p s (s.rollback t) ∧ Q () (s.rollback t)) :
    P.Triple p R (rollbackTx t) Q X := by
  refine triple_stmt hst ?_
  intro s w r s' hinv hR hf hadm
  simp only [Option.some.injEq, Prod.mk.injEq] at hf
  obtain ⟨rfl, rfl⟩ := hf
  exact hstep s hinv hR hadm

/-- A block in a transaction.  `F` is what holds when anything inside it has failed, and `G`
what holds once that is rolled back. -/
theorem triple_unitOfWork {actor : String} {body : Prog α} {seen : α → List Event}
    {B F G : Db → Prop} {M : α → Db → Prop}
    (hbegin : P.Triple p R (beginTx t) (fun _ => B) (fun _ => F))
    (hbody : P.Triple p B body M (fun _ => F))
    (hcommit : ∀ a, P.Triple p (M a) (commitTx t (seen a)) (fun _ => Q a) (fun _ => F))
    (hback : P.Triple p F (rollbackTx t) (fun _ => G) (fun _ => G))
    (hrefused : ∀ s, P.inv s → R s → G s) :
    P.Triple p R (unitOfWork t actor body seen) Q (fun _ => G) := by
  unfold unitOfWork
  by_cases hactor : validActor actor = true
  · rw [if_pos hactor]
    refine Triple.handle (M := fun _ => F) ?_ ?_
    · refine hbegin.bind (fun _ => hbody.bind (fun a => (hcommit a).bind (fun _ => ?_)))
      exact triple_pure a (fun s _ h => h)
    · intro e
      refine hback.bind (fun _ => ?_)
      exact triple_throw e (fun s _ h => h)
  · rw [if_neg hactor]
    exact triple_throw _ hrefused

/-- What follows an exception does not matter. -/
theorem triple_throw_bind {e : Err} {g : β → Prog α} (h : ∀ s, P.inv s → R s → X e s) :
    P.Triple p R (throw e >>= g) Q X :=
  Triple.bind (M := fun _ _ => False) (triple_throw e h) (fun _ _ _ hfalse => hfalse.elim)

/-- A result that is not looked at; what holds however the program ends holds in the end. -/
theorem triple_ends {x : Prog α} {G : Db → Prop} (h : P.Triple p R x (fun _ => G) (fun _ => G))
    {s : Db} (hinv : P.inv s) (hR : R s) :
    P.Safe p (do let _ ← x.run; pure ()) (fun _ => G) s := by
  rw [safe_bind]
  refine (h s hinv hR).mono ?_
  intro r s' hr
  cases r with
  | ok a => exact hr
  | error e => exact hr

theorem triple_ignore {x : Prog α} (h : P.Triple p R x Q X) {s : Db} (hinv : P.inv s) (hR : R s) :
    P.Safe p (do let _ ← x.run; pure ()) (fun _ _ => True) s :=
  triple_ends (h.conseq (fun _ _ hr => hr) (fun _ _ _ _ => trivial) (fun _ _ _ _ => trivial))
    hinv hR

/-! ### Steps that stay within a relation -/

section Within

open Interleaving.Prog

variable {S : Db → Db → Prop} (hrefl : ∀ s, S s s)

include hrefl

theorem sql_within {f : Db → Option (Except Err α × Db)}
    (h : ∀ s r s', f s = some (r, s') → S s s') : Within S (sql f) := by
  refine within_stmt ?_
  intro w s r s' hf
  by_cases hw : w.fails = true
  · rw [if_pos hw] at hf
    simp only [Option.some.injEq, Prod.mk.injEq] at hf
    rw [← hf.2]
    exact hrefl s
  · rw [if_neg hw] at hf
    exact h s r s' hf

theorem select_within (f : Db → α) : Within S (select f) := by
  refine sql_within hrefl ?_
  intro s r s' hf
  simp only [Option.some.injEq, Prod.mk.injEq] at hf
  rw [← hf.2]
  exact hrefl s

theorem datetimeNow_within : Within S datetimeNow := by
  refine within_stmt ?_
  intro w s r s' hf
  simp only [Option.some.injEq, Prod.mk.injEq] at hf
  rw [← hf.2]
  exact hrefl s

theorem beginTx_within (hbegin : ∀ s, S s (s.started t)) : Within S (beginTx t) := by
  refine sql_within hrefl ?_
  intro s r s' hf
  simp only [Option.some.injEq, Prod.mk.injEq] at hf
  rw [← hf.2]
  exact hbegin s

omit hrefl in
theorem rollbackTx_within (hback : ∀ s, S s (s.rollback t)) : Within S (rollbackTx t) := by
  refine within_stmt ?_
  intro w s r s' hf
  simp only [Option.some.injEq, Prod.mk.injEq] at hf
  rw [← hf.2]
  exact hback s

/-- A block that raises commits nothing: its steps are those of its body, and of going back. -/
theorem took_unitOfWork_raised {actor : String} {body : Prog α} {seen : α → List Event}
    {steps : List (Db × Db)} {e : Err} (hbegin : ∀ s, S s (s.started t))
    (hback : ∀ s, S s (s.rollback t)) (hbody : Within S body)
    (h : (unitOfWork t actor body seen).Took steps (.error e)) : ∀ q ∈ steps, S q.1 q.2 := by
  have hstart : Within S (beginTx t) := beginTx_within hrefl hbegin
  have hundo : Within S (rollbackTx t) := rollbackTx_within hback
  have hall : ∀ {β : Type} {x : Prog β} {l : List (Db × Db)} {r : Except Err β},
      Within S x → x.Took l r → ∀ q ∈ l, S q.1 q.2 := fun hx ht => hx.began (Took.began ht)
  unfold unitOfWork at h
  by_cases hactor : validActor actor = true
  swap
  · rw [if_neg hactor] at h
    obtain ⟨rfl, -⟩ := took_throw.mp h
    simp
  rw [if_pos hactor] at h
  rcases took_tryCatch h with ⟨a, -, hbad⟩ | ⟨e', l, l', rfl, htry, hcatch⟩
  · simp at hbad
  intro q hq
  rcases List.mem_append.mp hq with hq | hq
  swap
  · exact hall (hundo.bind (fun _ => within_throw e')) hcatch q hq
  rcases took_bind htry with ⟨u, l₁, l₂, rfl, hone, htwo⟩ | ⟨e₁, hone, -⟩
  swap
  · exact hall hstart hone q hq
  rcases List.mem_append.mp hq with hq | hq
  · exact hall hstart hone q hq
  rcases took_bind htwo with ⟨a, l₃, l₄, rfl, hrun, hend⟩ | ⟨e₁, hrun, -⟩
  swap
  · exact hall hbody hrun q hq
  rcases List.mem_append.mp hq with hq | hq
  · exact hall hbody hrun q hq
  -- the commit was refused, for otherwise nothing was left to raise
  rcases took_bind hend with ⟨-, l₅, l₆, rfl, -, hpure⟩ | ⟨e₁, hcommit, -⟩
  · obtain ⟨-, hbad⟩ := took_pure.mp hpure
    simp at hbad
  · obtain ⟨w, s, s', rfl, hf⟩ := took_stmt hcommit
    rw [List.mem_singleton] at hq
    rw [hq]
    by_cases hw : w.fails = true
    · rw [if_pos hw] at hf
      simp only [Option.some.injEq, Prod.mk.injEq] at hf
      rw [← hf.2]
      exact hback s
    · rw [if_neg hw] at hf
      simp at hf

/-- A block in a transaction, whose steps are those of its body and of beginning and ending it. -/
theorem unitOfWork_within {actor : String} {body : Prog α} {seen : α → List Event}
    (hbegin : ∀ s, S s (s.started t)) (hback : ∀ s, S s (s.rollback t))
    (hcommit : ∀ a s, S s ((s.commit t).record (seen a))) (hbody : Within S body) :
    Within S (unitOfWork t actor body seen) := by
  unfold unitOfWork
  by_cases hactor : validActor actor = true
  swap
  · rw [if_neg hactor]
    exact within_throw _
  rw [if_pos hactor]
  refine Within.handle ?_ (fun e => ?_)
  · refine Within.bind (beginTx_within hrefl hbegin) (fun _ => hbody.bind (fun a => ?_))
    refine Within.bind (within_stmt ?_) (fun _ => within_pure a)
    intro w s r s' hf
    by_cases hw : w.fails = true
    · rw [if_pos hw] at hf
      simp only [Option.some.injEq, Prod.mk.injEq] at hf
      rw [← hf.2]
      exact hback s
    · rw [if_neg hw] at hf
      simp only [Option.some.injEq, Prod.mk.injEq] at hf
      rw [← hf.2]
      exact hcommit a s
  · exact Within.bind (rollbackTx_within hback) (fun _ => within_throw e)

/-- A step that only a commit can be: the body has returned, and this is the commit. -/
theorem began_unitOfWork {actor : String} {body : Prog α} {seen : α → List Event}
    {earlier : List (Db × Db)} {s s' : Db} (hnot : ¬ S s s') (hbegin : ∀ s, S s (s.started t))
    (hback : ∀ s, S s (s.rollback t)) (hbody : Within S body)
    (h : (unitOfWork t actor body seen).Began (earlier ++ [(s, s')])) :
    ∃ a l l', earlier = l ++ l' ∧ body.Took l' (.ok a) ∧ s' = (s.commit t).record (seen a) := by
  have hstart : Within S (beginTx t) := beginTx_within hrefl hbegin
  have hundo : Within S (rollbackTx t) := rollbackTx_within hback
  unfold unitOfWork at h
  by_cases hactor : validActor actor = true
  swap
  · rw [if_neg hactor] at h
    have := began_throw h
    simp at this
  rw [if_pos hactor] at h
  have htry := Began.tried hnot h (fun e => hundo.bind (fun _ => within_throw e))
  obtain ⟨-, l, l', rfl, -, hrest⟩ := Began.skip hnot htry hstart
  obtain ⟨a, m, m', rfl, hran, hrest⟩ := Began.skip hnot hrest hbody
  rcases began_stmt (Began.first hnot hrest (fun _ => within_pure a)) with hnil
    | ⟨w, u, r, u', heq, hf⟩
  · simp at hnil
  have hm : m' = [] := by
    have hlen := congrArg List.length heq
    simpa using hlen
  rw [hm, List.nil_append] at heq
  simp only [List.cons.injEq, Prod.mk.injEq, and_true] at heq
  obtain ⟨rfl, rfl⟩ := heq
  rw [hm, List.append_nil]
  refine ⟨a, l, m, rfl, hran, ?_⟩
  by_cases hw : w.fails = true
  · rw [if_pos hw] at hf
    simp only [Option.some.injEq, Prod.mk.injEq] at hf
    rw [← hf.2] at hnot
    exact absurd (hback s) hnot
  · rw [if_neg hw] at hf
    simp only [Option.some.injEq, Prod.mk.injEq] at hf
    exact hf.2.symm

omit hrefl in
/-- What the body of a block returns, the block returns. -/
theorem returns_unitOfWork {actor : String} {body : Prog α} {seen : α → List Event} {P : α → Prop}
    (hbody : Returns P body) : Returns P (unitOfWork t actor body seen) := by
  unfold unitOfWork
  by_cases hactor : validActor actor = true
  swap
  · rw [if_neg hactor]
    exact returns_throw _
  rw [if_pos hactor]
  refine Returns.handle (returns_bind (fun _ => hbody.bind (fun a ha => ?_))) (fun e => ?_)
  · exact returns_bind (fun _ => returns_pure ha)
  · exact returns_bind (fun _ => returns_throw e)

end Within

end SelfHealing
