/-
What a transaction does when it runs to its end undisturbed.

`ends_unitOfWork` is the inversion used everywhere below: a block is refused at its
first statement, or its body runs and the transaction ends in one of three ways.

The other modules use either this inversion, for what has happened in a run, or the rules at the
end, for what happens in every run and what may happen in some.  Both are about one program alone,
with the answers of the database left open.
-/
import SelfHealing.Database
import SelfHealing.Lib.Solo

namespace SelfHealing

open Interleaving Interleaving.Prog ReadCommitted

variable {α : Type} {t : TxId} {db db' : Db}

theorem ends_sql {f : Db → Option (Except Err α × Db)} {r : Except Err α} :
    (sql f).Ends db r db' ↔ (r = .error databaseError ∧ db' = db) ∨ f db = some (r, db') := by
  unfold sql
  rw [ends_stmt]
  constructor
  · rintro ⟨w, hw⟩
    by_cases hf : w.fails = true
    · rw [if_pos hf] at hw
      cases hw
      exact Or.inl ⟨rfl, rfl⟩
    · rw [if_neg hf] at hw
      exact Or.inr hw
  · rintro (⟨rfl, rfl⟩ | hf)
    · exact ⟨{ fails := true }, rfl⟩
    · exact ⟨{}, hf⟩

theorem ends_select {f : Db → α} {r : Except Err α} :
    (select f).Ends db r db' ↔ db' = db ∧ (r = .error databaseError ∨ r = .ok (f db)) := by
  unfold select
  rw [ends_sql]
  constructor
  · rintro (⟨rfl, rfl⟩ | h)
    · exact ⟨rfl, Or.inl rfl⟩
    · cases h
      exact ⟨rfl, Or.inr rfl⟩
  · rintro ⟨rfl, rfl | rfl⟩
    · exact Or.inl ⟨rfl, rfl⟩
    · exact Or.inr rfl

theorem ends_datetimeNow {r : Except Err Int} :
    datetimeNow.Ends db r db' ↔ r = .ok db.now ∧ db' = db := by
  unfold datetimeNow
  rw [ends_stmt]
  constructor
  · rintro ⟨w, hw⟩
    cases hw
    exact ⟨rfl, rfl⟩
  · rintro ⟨rfl, rfl⟩
    exact ⟨{}, rfl⟩

theorem ends_uuid4 {p : Nat} {r : Except Err Nat} :
    (uuid4 p).Ends db r db' ↔ r = .ok db.nextId ∧ db' = db.draw p := by
  unfold uuid4
  rw [ends_stmt]
  constructor
  · rintro ⟨w, hw⟩
    cases hw
    exact ⟨rfl, rfl⟩
  · rintro ⟨rfl, rfl⟩
    exact ⟨{}, rfl⟩

theorem ends_beginTx {r : Except Err Unit} :
    (beginTx t).Ends db r db' ↔
      (r = .error databaseError ∧ db' = db) ∨ (r = .ok () ∧ db' = db.started t) := by
  unfold beginTx
  rw [ends_sql]
  constructor
  · rintro (h | h)
    · exact Or.inl h
    · cases h
      exact Or.inr ⟨rfl, rfl⟩
  · rintro (h | ⟨rfl, rfl⟩)
    · exact Or.inl h
    · exact Or.inr rfl

theorem ends_commitTx {evs : List Event} {r : Except Err Unit} :
    (commitTx t evs).Ends db r db' ↔
      (r = .error databaseError ∧ db' = db.rollback t) ∨
      (r = .ok () ∧ db' = (db.commit t).record evs) := by
  unfold commitTx
  rw [ends_stmt]
  constructor
  · rintro ⟨w, hw⟩
    by_cases hf : w.fails = true
    · rw [if_pos hf] at hw
      cases hw
      exact Or.inl ⟨rfl, rfl⟩
    · rw [if_neg hf] at hw
      cases hw
      exact Or.inr ⟨rfl, rfl⟩
  · rintro (⟨rfl, rfl⟩ | ⟨rfl, rfl⟩)
    · exact ⟨{ fails := true }, rfl⟩
    · exact ⟨{}, rfl⟩

theorem ends_rollbackTx {r : Except Err Unit} :
    (rollbackTx t).Ends db r db' ↔ r = .ok () ∧ db' = db.rollback t := by
  unfold rollbackTx
  rw [ends_stmt]
  constructor
  · rintro ⟨w, hw⟩
    cases hw
    exact ⟨rfl, rfl⟩
  · rintro ⟨rfl, rfl⟩
    exact ⟨{}, rfl⟩

/-! ### Statements among those of others -/

section Took

variable {steps : List (Db × Db)}

theorem took_sql {f : Db → Option (Except Err α × Db)} {r : Except Err α}
    (h : (sql f).Took steps r) :
    ∃ s s', steps = [(s, s')] ∧ ((r = .error databaseError ∧ s' = s) ∨ f s = some (r, s')) := by
  obtain ⟨w, s, s', rfl, hf⟩ := took_stmt h
  refine ⟨s, s', rfl, ?_⟩
  by_cases hw : w.fails = true
  · rw [if_pos hw] at hf
    simp only [Option.some.injEq, Prod.mk.injEq] at hf
    exact Or.inl ⟨hf.1.symm, hf.2.symm⟩
  · rw [if_neg hw] at hf
    exact Or.inr hf

theorem took_select {f : Db → α} {r : Except Err α} (h : (select f).Took steps r) :
    ∃ s, steps = [(s, s)] ∧ (r = .error databaseError ∨ r = .ok (f s)) := by
  obtain ⟨s, s', rfl, ⟨rfl, rfl⟩ | hf⟩ := took_sql h
  · exact ⟨s', rfl, Or.inl rfl⟩
  · simp only [Option.some.injEq, Prod.mk.injEq] at hf
    obtain ⟨rfl, rfl⟩ := hf
    exact ⟨s, rfl, Or.inr rfl⟩

theorem took_uuid4 {p : Nat} {r : Except Err Nat} (h : (uuid4 p).Took steps r) :
    ∃ n, r = .ok n := by
  obtain ⟨w, s, s', rfl, hf⟩ := took_stmt h
  simp only [Option.some.injEq, Prod.mk.injEq] at hf
  exact ⟨s.nextId, hf.1.symm⟩

theorem took_datetimeNow {r : Except Err Int} (h : datetimeNow.Took steps r) :
    ∃ s, steps = [(s, s)] ∧ r = .ok s.now := by
  obtain ⟨w, s, s', rfl, hf⟩ := took_stmt h
  simp only [Option.some.injEq, Prod.mk.injEq] at hf
  obtain ⟨rfl, rfl⟩ := hf
  exact ⟨s, rfl, rfl⟩

theorem took_check {x r : Except Err α} (h : (check x).Took steps r) : steps = [] ∧ r = x :=
  Proc.trace_ret.mp h

/-- A statement that only reads, and has returned. -/
theorem took_select_ok {α : Type} {f : Db → α} {a : α} (h : (select f).Took steps (.ok a)) :
    ∃ s, steps = [(s, s)] ∧ a = f s := by
  obtain ⟨s, rfl, hbad | heq⟩ := took_select h
  · simp at hbad
  · simp only [Except.ok.injEq] at heq
    exact ⟨s, rfl, heq⟩

/-- A block that goes on has returned so far. -/
theorem took_bind_ok {α β : Type} {x : Prog α} {g : α → Prog β} {b : β}
    (h : (x >>= g).Took steps (.ok b)) :
    ∃ a l l', steps = l ++ l' ∧ x.Took l (.ok a) ∧ (g a).Took l' (.ok b) := by
  rcases took_bind h with h | ⟨e, -, hbad⟩
  · exact h
  · simp at hbad

theorem took_check_ok {α : Type} {x : Except Err α} {a : α} (h : (check x).Took steps (.ok a)) :
    steps = [] ∧ x = .ok a := by
  obtain ⟨hnil, hx⟩ := took_check h
  exact ⟨hnil, hx.symm⟩

theorem took_beginTx {r : Except Err Unit} (h : (beginTx t).Took steps r) :
    ∃ s, (steps = [(s, s)] ∧ r = .error databaseError) ∨
      (steps = [(s, s.started t)] ∧ r = .ok ()) := by
  obtain ⟨s, s', rfl, ⟨rfl, rfl⟩ | hf⟩ := took_sql h
  · exact ⟨s', Or.inl ⟨rfl, rfl⟩⟩
  · simp only [Option.some.injEq, Prod.mk.injEq] at hf
    obtain ⟨rfl, rfl⟩ := hf
    exact ⟨s, Or.inr ⟨rfl, rfl⟩⟩

theorem took_commitTx {evs : List Event} {r : Except Err Unit} (h : (commitTx t evs).Took steps r) :
    ∃ s, (steps = [(s, s.rollback t)] ∧ r = .error databaseError) ∨
      (steps = [(s, (s.commit t).record evs)] ∧ r = .ok ()) := by
  obtain ⟨w, s, s', rfl, hf⟩ := took_stmt h
  by_cases hw : w.fails = true
  · rw [if_pos hw] at hf
    simp only [Option.some.injEq, Prod.mk.injEq] at hf
    obtain ⟨rfl, rfl⟩ := hf
    exact ⟨s, Or.inl ⟨rfl, rfl⟩⟩
  · rw [if_neg hw] at hf
    simp only [Option.some.injEq, Prod.mk.injEq] at hf
    obtain ⟨rfl, rfl⟩ := hf
    exact ⟨s, Or.inr ⟨rfl, rfl⟩⟩

/-- The handler of a block goes back, and raises the same exception again. -/
theorem took_undone {e : Err} {r : Except Err α}
    (h : (do rollbackTx t; throw e : Prog α).Took steps r) :
    ∃ s, steps = [(s, s.rollback t)] ∧ r = .error e := by
  have hback : ∀ {l : List (Db × Db)} {q : Except Err Unit}, (rollbackTx t).Took l q →
      ∃ s, l = [(s, s.rollback t)] ∧ q = .ok () := by
    intro l q hq
    obtain ⟨w, s, s', rfl, hf⟩ := took_stmt hq
    simp only [Option.some.injEq, Prod.mk.injEq] at hf
    obtain ⟨rfl, rfl⟩ := hf
    exact ⟨s, rfl, rfl⟩
  rcases took_bind h with ⟨u, l, l', rfl, hroll, hthrow⟩ | ⟨e', hroll, -⟩
  · obtain ⟨s, rfl, -⟩ := hback hroll
    obtain ⟨rfl, rfl⟩ := took_throw.mp hthrow
    exact ⟨s, rfl, rfl⟩
  · obtain ⟨s, -, hbad⟩ := hback hroll
    simp at hbad

/-- The steps of a block in a transaction, and what it returns or raises. -/
inductive BlockSteps (t : TxId) (body : Prog α) (seen : α → List Event) :
    List (Db × Db) → Except Err α → Prop
  /-- Not even the transaction was begun. -/
  | refused (s s' : Db) :
      BlockSteps t body seen [(s, s), (s', s'.rollback t)] (.error databaseError)
  /-- The body raised. -/
  | raised (e : Err) (s s' : Db) (l : List (Db × Db)) (hbody : body.Took l (.error e)) :
      BlockSteps t body seen ((s, s.started t) :: l ++ [(s', s'.rollback t)]) (.error e)
  /-- The body returned and the commit failed. -/
  | lost (a : α) (s s' s'' : Db) (l : List (Db × Db)) (hbody : body.Took l (.ok a)) :
      BlockSteps t body seen
        ((s, s.started t) :: l ++ [(s', s'.rollback t), (s'', s''.rollback t)])
        (.error databaseError)
  /-- The body returned and was committed. -/
  | committed (a : α) (s s' : Db) (l : List (Db × Db)) (hbody : body.Took l (.ok a)) :
      BlockSteps t body seen ((s, s.started t) :: l ++ [(s', (s'.commit t).record (seen a))])
        (.ok a)

/-- **The steps of a block in a transaction**, among those of others: its actor is refused, or they
are `BlockSteps`. -/
theorem took_unitOfWork_block {actor : String} {body : Prog α} {seen : α → List Event}
    {r : Except Err α} (h : (unitOfWork t actor body seen).Took steps r) :
    (validActor actor = false ∧ ∃ e : Err, r = .error e) ∨ BlockSteps t body seen steps r := by
  unfold unitOfWork at h
  by_cases hactor : validActor actor = true
  swap
  · rw [if_neg hactor] at h
    obtain ⟨-, rfl⟩ := took_throw.mp h
    exact Or.inl ⟨by simpa using hactor, _, rfl⟩
  rw [if_pos hactor] at h
  refine Or.inr ?_
  rcases took_tryCatch h with ⟨a, htry, rfl⟩ | ⟨e, l, l', rfl, htry, hcatch⟩
  · -- nothing was raised, neither at the beginning nor at the end
    obtain ⟨u, l₁, l₂, rfl, hbegin, hrest⟩ := took_bind_ok htry
    obtain ⟨s, ⟨-, hbad⟩ | ⟨rfl, -⟩⟩ := took_beginTx hbegin
    · simp at hbad
    obtain ⟨b, l₃, l₄, rfl, hbody, hrest⟩ := took_bind_ok hrest
    obtain ⟨u, l₅, l₆, rfl, hcommit, hpure⟩ := took_bind_ok hrest
    obtain ⟨s', ⟨-, hbad⟩ | ⟨rfl, -⟩⟩ := took_commitTx hcommit
    · simp at hbad
    obtain ⟨rfl, heq⟩ := took_pure.mp hpure
    simp only [Except.ok.injEq] at heq
    subst heq
    exact .committed a s s' l₃ hbody
  · obtain ⟨s', rfl, rfl⟩ := took_undone hcatch
    rcases took_bind htry with ⟨u, l₁, l₂, rfl, hbegin, hrest⟩ | ⟨e', hbegin, he⟩
    swap
    · obtain ⟨s, ⟨rfl, herr⟩ | ⟨-, hbad⟩⟩ := took_beginTx hbegin
      · simp only [Except.error.injEq] at he herr
        rw [he, herr]
        exact .refused s s'
      · simp at hbad
    obtain ⟨s, ⟨-, hbad⟩ | ⟨rfl, -⟩⟩ := took_beginTx hbegin
    · simp at hbad
    rcases took_bind hrest with ⟨b, l₃, l₄, rfl, hbody, hend⟩ | ⟨e', hbody, he⟩
    swap
    · simp only [Except.error.injEq] at he
      subst he
      exact .raised e s s' l₂ hbody
    rcases took_bind hend with ⟨u, l₅, l₆, -, -, hpure⟩ | ⟨e', hcommit, he⟩
    · obtain ⟨-, hbad⟩ := took_pure.mp hpure
      simp at hbad
    · obtain ⟨s₁, ⟨rfl, herr⟩ | ⟨-, hbad⟩⟩ := took_commitTx hcommit
      · simp only [Except.error.injEq] at he herr
        rw [he, herr]
        have hlost : BlockSteps t body seen _ _ := .lost b s s₁ s' l₃ hbody
        simpa using hlost
      · simp at hbad

/-- A block that has returned was let in. -/
theorem validActor_of_took {actor : String} {body : Prog α} {seen : α → List Event} {a : α}
    (h : (unitOfWork t actor body seen).Took steps (.ok a)) : validActor actor = true := by
  by_contra hactor
  unfold unitOfWork at h
  rw [if_neg hactor] at h
  obtain ⟨-, hbad⟩ := took_throw.mp h
  simp at hbad

/-- The steps of a block that has returned are those of its body, between the first statement
and the commit. -/
theorem took_unitOfWork {actor : String} {body : Prog α} {seen : α → List Event} {a : α}
    (h : (unitOfWork t actor body seen).Took steps (.ok a)) :
    ∃ before l after, steps = before ++ l ++ after ∧ body.Took l (.ok a) := by
  rcases took_unitOfWork_block h with ⟨-, e, hbad⟩ | hblock
  · simp at hbad
  · cases hblock with
    | committed _ s s' l hbody => exact ⟨[_], l, [_], rfl, hbody⟩

end Took

/-! ### A block in a transaction -/

/-- What a block in a transaction leaves behind. -/
inductive Block (t : TxId) (body : Prog α) (seen : α → List Event) (db : Db) :
    Except Err α → Db → Prop
  /-- Not even the transaction was begun. -/
  | refused : Block t body seen db (.error databaseError) (db.rollback t)
  /-- The body raised. -/
  | raised (e : Err) (db₂ : Db) (hbody : body.Ends (db.started t) (.error e) db₂) :
      Block t body seen db (.error e) (db₂.rollback t)
  /-- The body returned and the commit failed. -/
  | lost (a : α) (db₂ : Db) (hbody : body.Ends (db.started t) (.ok a) db₂) :
      Block t body seen db (.error databaseError) ((db₂.rollback t).rollback t)
  /-- The body returned and was committed. -/
  | committed (a : α) (db₂ : Db) (hbody : body.Ends (db.started t) (.ok a) db₂) :
      Block t body seen db (.ok a) ((db₂.commit t).record (seen a))

/-- **A block in a transaction**, undisturbed: either its actor is refused, or it is a `Block`. -/
theorem ends_unitOfWork {actor : String} {body : Prog α} {seen : α → List Event}
    {r : Except Err α} (h : (unitOfWork t actor body seen).Ends db r db') :
    ((∃ e : Err, r = .error e) ∧ db' = db) ∨ Block t body seen db r db' := by
  unfold unitOfWork at h
  by_cases hactor : validActor actor = true
  · rw [if_pos hactor, ends_tryCatch] at h
    refine Or.inr ?_
    -- the handler, once entered, always rolls back and raises the same exception again
    have hhandler : ∀ {e : Err} {db₁ : Db},
        (do rollbackTx t; throw e : Prog α).Ends db₁ r db' →
          r = .error e ∧ db' = db₁.rollback t := by
      intro e db₁ hh
      rw [ends_bind] at hh
      rcases hh with ⟨u, db₂, hr, ht⟩ | ⟨e', hr, -⟩
      · obtain ⟨-, rfl⟩ := ends_rollbackTx.mp hr
        exact ends_throw.mp ht
      · obtain ⟨hbad, -⟩ := ends_rollbackTx.mp hr
        cases hbad
    rcases h with ⟨a, hx, rfl⟩ | ⟨e, db₁, hx, hg⟩
    · rw [ends_bind] at hx
      rcases hx with ⟨_, db₁, hbegin, hx⟩ | ⟨e, -, hbad⟩
      · rcases ends_beginTx.mp hbegin with ⟨hbad, -⟩ | ⟨-, rfl⟩
        · cases hbad
        · rw [ends_bind] at hx
          rcases hx with ⟨a', db₂, hbody, hx⟩ | ⟨e, -, hbad⟩
          · rw [ends_bind] at hx
            rcases hx with ⟨_, db₃, hcommit, hx⟩ | ⟨e, -, hbad⟩
            · rcases ends_commitTx.mp hcommit with ⟨hbad, -⟩ | ⟨-, rfl⟩
              · cases hbad
              · obtain ⟨heq, rfl⟩ := ends_pure.mp hx
                cases heq
                exact Block.committed a db₂ hbody
            · cases hbad
          · cases hbad
      · cases hbad
    · obtain ⟨rfl, rfl⟩ := hhandler hg
      rw [ends_bind] at hx
      rcases hx with ⟨_, db₂, hbegin, hx⟩ | ⟨e', hbegin, heq⟩
      · rcases ends_beginTx.mp hbegin with ⟨hbad, -⟩ | ⟨-, rfl⟩
        · cases hbad
        · rw [ends_bind] at hx
          rcases hx with ⟨a', db₂, hbody, hx⟩ | ⟨e', hbody, heq⟩
          · rw [ends_bind] at hx
            rcases hx with ⟨_, db₃, hcommit, hx⟩ | ⟨e', hcommit, heq⟩
            · obtain ⟨hbad, -⟩ := ends_pure.mp hx
              cases hbad
            · cases heq
              rcases ends_commitTx.mp hcommit with ⟨heq, rfl⟩ | ⟨hbad, -⟩
              · cases heq
                exact Block.lost a' db₂ hbody
              · cases hbad
          · cases heq
            exact Block.raised e db₁ hbody
      · cases heq
        rcases ends_beginTx.mp hbegin with ⟨heq, rfl⟩ | ⟨hbad, -⟩
        · cases heq
          exact Block.refused
        · cases hbad
  · rw [if_neg hactor] at h
    obtain ⟨rfl, rfl⟩ := ends_throw.mp h
    exact Or.inl ⟨⟨_, rfl⟩, rfl⟩

/-- A block whose body can return can be committed. -/
theorem unitOfWork_commits {actor : String} (hactor : validActor actor = true) {body : Prog α}
    {seen : α → List Event} {a : α} (hbody : body.Ends (db.started t) (.ok a) db') :
    (unitOfWork t actor body seen).Ends db (.ok a) ((db'.commit t).record (seen a)) := by
  unfold unitOfWork
  rw [if_pos hactor, ends_tryCatch]
  refine Or.inl ⟨a, ?_, rfl⟩
  rw [ends_bind]
  refine Or.inl ⟨(), db.started t, ends_beginTx.mpr (Or.inr ⟨rfl, rfl⟩), ?_⟩
  rw [ends_bind]
  refine Or.inl ⟨a, db', hbody, ?_⟩
  rw [ends_bind]
  exact Or.inl ⟨(), _, ends_commitTx.mpr (Or.inr ⟨rfl, rfl⟩), ends_pure.mpr ⟨rfl, rfl⟩⟩

/-! ### Every run, and some run

A promise about every run of a program is refuted by one run that breaks it.  So the rules come in
pairs, one for what always holds at the end and one for what can be there; a result that is an
equivalence uses the first kind for one direction and the second for the other.
-/

section Solo

variable {A : World → Prop} {Q : α → Db → Prop} {X : Err → Db → Prop}

theorem always_sql {f : Db → Option (Except Err α × Db)}
    (hfails : ∀ w, A w → w.fails = true → X databaseError db)
    (hok : ∀ a s', f db = some (.ok a, s') → Q a s')
    (herr : ∀ e s', f db = some (.error e, s') → X e s') : (sql f).Always A Q X db := by
  unfold sql
  rw [always_stmt]
  intro w hw
  by_cases hf : w.fails = true
  · rw [if_pos hf]
    refine ⟨?_, ?_⟩
    · intro a s' h
      simp at h
    · intro e s' h
      simp only [Option.some.injEq, Prod.mk.injEq, Except.error.injEq] at h
      rw [← h.1, ← h.2]
      exact hfails w hw hf
  · rw [if_neg hf]
    exact ⟨hok, herr⟩

theorem always_select {f : Db → α} (hfails : ∀ w, A w → w.fails = true → X databaseError db)
    (h : Q (f db) db) : (select f).Always A Q X db := by
  refine always_sql hfails ?_ ?_
  · intro a s' heq
    simp only [Option.some.injEq, Prod.mk.injEq, Except.ok.injEq] at heq
    rw [← heq.1, ← heq.2]
    exact h
  · intro e s' heq
    simp at heq

theorem always_uuid4 {p : Nat} {Q : Nat → Db → Prop} (h : Q db.nextId (db.draw p)) :
    (uuid4 p).Always A Q X db := by
  refine always_stmt.mpr (fun w _ => ⟨?_, ?_⟩)
  · intro a s' heq
    simp only [Option.some.injEq, Prod.mk.injEq, Except.ok.injEq] at heq
    rw [← heq.1, ← heq.2]
    exact h
  · intro e s' heq
    simp at heq

theorem always_check {x : Except Err α} (hok : ∀ a, x = .ok a → Q a db)
    (herr : ∀ e, x = .error e → X e db) : (check x).Always A Q X db := by
  cases x with
  | ok a => exact ⟨hok a rfl⟩
  | error e => exact ⟨herr e rfl⟩

theorem can_check {x : Except Err α} (h : Prog.outcome Q X x db) : (check x).Can A Q X db := ⟨h⟩

theorem can_sql {f : Db → Option (Except Err α × Db)} {w : World} {r : Except Err α} {s' : Db}
    (hw : A w) (hwork : w.fails = false) (hf : f db = some (r, s')) (h : Prog.outcome Q X r s') :
    (sql f).Can A Q X db := by
  refine can_stmt hw ?_ h
  rw [hwork]
  exact hf

theorem can_select {f : Db → α} {w : World} (hw : A w) (hwork : w.fails = false)
    (h : Q (f db) db) : (select f).Can A Q X db :=
  can_sql hw hwork rfl h

/-- The database may refuse a statement. -/
theorem can_refuse {f : Db → Option (Except Err α × Db)} {w : World} (hw : A w)
    (hfails : w.fails = true) (h : X databaseError db) : (sql f).Can A Q X db := by
  refine can_stmt hw ?_ (r := .error databaseError) h
  rw [hfails]
  rfl

theorem can_uuid4 {p : Nat} {Q : Nat → Db → Prop} {w : World} (hw : A w)
    (h : Q db.nextId (db.draw p)) : (uuid4 p).Can A Q X db :=
  can_stmt hw rfl h

theorem can_datetimeNow {Q : Int → Db → Prop} {w : World} (hw : A w) (h : Q db.now db) :
    datetimeNow.Can A Q X db :=
  can_stmt hw rfl h

theorem can_commitTx_refused {evs : List Event} {Q : Unit → Db → Prop} {w : World} (hw : A w)
    (hfails : w.fails = true) (h : X databaseError (db.rollback t)) :
    (commitTx t evs).Can A Q X db := by
  refine can_stmt (r := .error databaseError) hw ?_ h
  rw [hfails]
  rfl

/-- A block in a transaction, whatever becomes of it. -/
theorem always_unitOfWork {actor : String} {body : Prog α} {seen : α → List Event}
    (hactor : X ⟨.valueError, "A nonempty actor (at most 128 characters) is required"⟩ db)
    (hrefused : X databaseError (db.rollback t))
    (hbody : body.Always A
      (fun a s => X databaseError ((s.rollback t).rollback t) ∧ Q a ((s.commit t).record (seen a)))
      (fun e s => X e (s.rollback t)) (db.started t)) :
    (unitOfWork t actor body seen).Always A Q X db := by
  have hback : ∀ e s, X e (s.rollback t) →
      (do rollbackTx t; throw e : Prog α).Always A Q X s := by
    intro e s h
    refine always_bind.mpr (always_stmt.mpr (fun w _ => ⟨?_, ?_⟩))
    · intro a s' heq
      simp only [Option.some.injEq, Prod.mk.injEq] at heq
      rw [← heq.2, always_throw]
      exact h
    · intro e' s' heq
      simp at heq
  unfold unitOfWork
  by_cases hvalid : validActor actor = true
  swap
  · rw [if_neg hvalid, always_throw]
    exact hactor
  rw [if_pos hvalid]
  refine always_tryCatch (always_bind.mpr (always_sql (fun w _ _ => hback _ _ hrefused) ?_ ?_))
  · intro u s' heq
    simp only [Option.some.injEq, Prod.mk.injEq] at heq
    rw [← heq.2]
    refine always_bind.mpr (hbody.mono ?_ (fun e s h => hback e s h))
    intro a s h
    refine always_bind.mpr (always_stmt.mpr (fun w _ => ?_))
    by_cases hf : w.fails = true
    · rw [if_pos hf]
      refine ⟨fun b s' heq => by simp at heq, ?_⟩
      intro e s' heq
      simp only [Option.some.injEq, Prod.mk.injEq, Except.error.injEq] at heq
      rw [← heq.1, ← heq.2]
      exact hback _ _ h.1
    · rw [if_neg hf]
      refine ⟨?_, fun e s' heq => by simp at heq⟩
      intro b s' heq
      simp only [Option.some.injEq, Prod.mk.injEq] at heq
      rw [← heq.2, always_pure]
      exact h.2
  · intro e s' heq
    simp at heq

/-- A block in a transaction, where the database refuses nothing. -/
theorem always_unitOfWork_sure {actor : String} {body : Prog α} {seen : α → List Event}
    (hsure : ∀ w, A w → w.fails = false) (hactor : validActor actor = true)
    (hbody : body.Always A (fun a s => Q a ((s.commit t).record (seen a)))
      (fun e s => X e (s.rollback t)) (db.started t)) :
    (unitOfWork t actor body seen).Always A Q X db := by
  unfold unitOfWork
  rw [if_pos hactor]
  refine always_tryCatch (always_bind.mpr (always_sql ?_ ?_ ?_))
  · intro w hw hf
    rw [hsure w hw] at hf
    cases hf
  · intro u s' heq
    simp only [Option.some.injEq, Prod.mk.injEq] at heq
    rw [← heq.2]
    refine always_bind.mpr (hbody.mono ?_ ?_)
    · intro a s h
      refine always_bind.mpr (always_stmt.mpr (fun w hw => ?_))
      rw [hsure w hw]
      refine ⟨?_, ?_⟩
      · intro b s' heq
        simp only [Bool.false_eq_true, if_false, Option.some.injEq, Prod.mk.injEq] at heq
        rw [← heq.2, always_pure]
        exact h
      · intro e s' heq
        simp at heq
    · intro e s h
      refine always_bind.mpr (always_stmt.mpr (fun w _ => ⟨?_, ?_⟩))
      · intro a s' heq
        simp only [Option.some.injEq, Prod.mk.injEq] at heq
        rw [← heq.2, always_throw]
        exact h
      · intro e' s' heq
        simp at heq
  · intro e s' heq
    simp at heq

/-- A block can be refused at once. -/
theorem can_unitOfWork_refused {actor : String} {body : Prog α} {seen : α → List Event}
    (hactor : validActor actor = true) {w : World} (hw : A w) (hfails : w.fails = true)
    (h : X databaseError (db.rollback t)) : (unitOfWork t actor body seen).Can A Q X db := by
  unfold unitOfWork
  rw [if_pos hactor]
  refine can_tryCatch (can_bind (can_refuse hw hfails ?_))
  exact can_bind (can_stmt hw rfl ((can_throw _).mpr h))

/-- A block can be committed, if it does not raise. -/
theorem can_unitOfWork {actor : String} {body : Prog α} {seen : α → List Event}
    (hactor : validActor actor = true) {w : World} (hw : A w) (hwork : w.fails = false)
    (hbody : body.Can A (fun a s => Q a ((s.commit t).record (seen a)))
      (fun e s => X e (s.rollback t)) (db.started t)) :
    (unitOfWork t actor body seen).Can A Q X db := by
  unfold unitOfWork
  rw [if_pos hactor]
  refine can_tryCatch (can_bind (can_sql hw hwork rfl ?_))
  show Prog.Can A _ _ _ (db.started t)
  refine can_bind (hbody.mono ?_ ?_)
  · intro a s h
    refine can_bind (can_stmt (r := .ok ()) hw ?_ ((can_pure a).mpr h))
    rw [hwork]
    rfl
  · intro e s h
    exact can_bind (can_stmt hw rfl ((can_throw e).mpr h))

/-- A block can go wrong at its end, if it does not raise before. -/
theorem can_unitOfWork_lost {actor : String} {body : Prog α} {seen : α → List Event}
    (hactor : validActor actor = true) {w v : World} (hw : A w) (hfails : w.fails = true)
    (hv : A v) (hwork : v.fails = false)
    (hbody : body.Can A (fun _ s => X databaseError ((s.rollback t).rollback t))
      (fun e s => X e (s.rollback t)) (db.started t)) :
    (unitOfWork t actor body seen).Can A Q X db := by
  have hback : ∀ e s, X e (s.rollback t) →
      (do rollbackTx t; throw e : Prog α).Can A Q X s := by
    intro e s h
    refine can_bind (can_stmt hw rfl ?_)
    exact (can_throw e).mpr h
  unfold unitOfWork
  rw [if_pos hactor]
  refine can_tryCatch (can_bind (can_sql hv hwork rfl ?_))
  show Prog.Can A _ _ _ (db.started t)
  refine can_bind (hbody.mono ?_ (fun e s h => hback e s h))
  intro a s h
  exact can_bind (can_commitTx_refused hw hfails (hback _ _ h))

/-! #### Where nothing is refused -/

section Sure

variable (hsure : ∀ w, A w → w.fails = false)

include hsure

theorem surely_sql {f : Db → Option (Except Err α × Db)} {r : Except Err α} {s' : Db}
    (hf : f db = some (r, s')) (h : Prog.outcome Q X r s') : (sql f).Surely A Q X db := by
  refine surely_stmt (fun w hw => ⟨r, s', ?_, h⟩)
  rw [hsure w hw]
  exact hf

theorem surely_select {f : Db → α} (h : Q (f db) db) : (select f).Surely A Q X db :=
  surely_sql hsure rfl h

theorem surely_unitOfWork {actor : String} {body : Prog α} {seen : α → List Event}
    (hactor : validActor actor = true)
    (hbody : body.Surely A (fun a s => Q a ((s.commit t).record (seen a)))
      (fun e s => X e (s.rollback t)) (db.started t)) :
    (unitOfWork t actor body seen).Surely A Q X db := by
  unfold unitOfWork
  rw [if_pos hactor]
  refine surely_tryCatch (surely_bind (surely_sql hsure rfl (surely_bind ?_)))
  refine hbody.mono ?_ ?_
  · intro a s h
    refine surely_bind (surely_stmt (fun w hw => ⟨.ok (), _, ?_, (surely_pure a).mpr h⟩))
    rw [hsure w hw]
    rfl
  · intro e s h
    refine surely_bind (surely_stmt (fun w _ => ⟨.ok (), s.rollback t, rfl, ?_⟩))
    exact (surely_throw e).mpr h

end Sure

theorem surely_check {x : Except Err α} (h : Prog.outcome Q X x db) :
    (check x).Surely A Q X db := ⟨h⟩

theorem surely_uuid4 {p : Nat} {Q : Nat → Db → Prop} (h : Q db.nextId (db.draw p)) :
    (uuid4 p).Surely A Q X db :=
  surely_stmt (fun _ _ => ⟨.ok db.nextId, db.draw p, rfl, h⟩)

theorem surely_datetimeNow {Q : Int → Db → Prop} (h : Q db.now db) :
    datetimeNow.Surely A Q X db :=
  surely_stmt (fun _ _ => ⟨.ok db.now, db, rfl, h⟩)

theorem surely_observe {evs : List Event} {Q : Unit → Db → Prop} (h : Q () (db.record evs)) :
    (observe evs).Surely A Q X db :=
  surely_stmt (fun _ _ => ⟨.ok (), db.record evs, rfl, h⟩)

end Solo

end SelfHealing
