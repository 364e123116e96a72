/-
Who is let in.

What a request finds out on its way in stays true while the others go on: the history only grows,
the clock does not go back, and rows are not deleted (`Onward`).  So what it knew when it looked at
its session and at its user it still knows when it is let in, and that is all that an admission has
to be justified by.  What may change meanwhile may be out of date by then: a session that is
revoked while a request is under way does not stop it.

An assertion is stable if it is about what stays true.  So nothing has to be said of interference
again once `Onward` is known to keep it: what a request has found is carried through its program as
it stands.
-/
import SelfHealing.Lib.Frames
import SelfHealing.Proofs.Sessions

namespace SelfHealing

open Interleaving Interleaving.Protocol ReadCommitted

/-! ### The protocol

Which events a task may add, and which rows it may write, are the acts of the protocol.  An event
has to be justified by the history at the time when it is added.
-/

/-- What no step takes back. -/
structure Onward (s s' : AuthDb) : Prop where
  log : s.log <:+ s'.log
  now : s.now ≤ s'.now
  versions : ∀ token, (s.sessions token).versions <:+ (s'.sessions token).versions

/-- What is stored stays. -/
theorem Onward.stored {s s' : AuthDb} (h : Onward s s') {token : String}
    (hstored : (s.sessions token).versions ≠ []) : (s'.sessions token).versions ≠ [] := by
  intro hnil
  have hsuffix := h.versions token
  rw [hnil] at hsuffix
  exact hstored (List.suffix_nil.mp hsuffix)

section Protocol

variable (scrypt : Scrypt) (db₀ : AuthDb)

/-- What one step of a request can do. -/
structure AuthAct (p : Nat) (s s' : AuthDb) : Prop where
  log : ∃ new, s'.log = new ++ s.log ∧ ∀ e ∈ new, e.1.proc = some p
  now : s'.now = s.now
  cells : ∀ token, Cell.Step Permitted ⟨p, 0⟩ (s.sessions token) (s'.sessions token)
  inv : AuthInv scrypt db₀.user s'

theorem AuthAct.onward {scrypt : Scrypt} {db₀ : AuthDb} {p : Nat} {s s' : AuthDb}
    (h : AuthAct scrypt db₀ p s s') : Onward s s' := by
  obtain ⟨new, hnew, -⟩ := h.log
  exact ⟨⟨new, hnew.symm⟩, h.now.ge, fun token => (h.cells token).versions_suffix⟩

theorem find?_filter_ne {users : List User} {user : User} {id : Nat} (h : user.id ≠ id) :
    (users.filter fun other => other.id ≠ user.id).find? (fun other => other.id = id) =
      users.find? fun other => other.id = id := by
  rw [List.find?_filter]
  congr 1
  funext other
  by_cases hother : other.id = id
  · simp [hother, Ne.symm h]
  · simp [hother]

theorem inv_setUser {scrypt : Scrypt} {users : Nat → Option User} {s s' : AuthDb} {user : User}
    (h : AuthInv scrypt users s) (henv : AuthEnv.apply (.setUser user) s = some s') :
    AuthInv scrypt users s' := by
  simp only [AuthEnv.apply] at henv
  split at henv
  · cases henv
  · simp only [Option.some.injEq] at henv
    subst henv
    refine ⟨h.linked, h.keyed, ?_, ?_, ?_, ?_, ?_, ?_, ?_⟩
    · exact fun token row hrow => (h.issued token row hrow).later (List.suffix_cons _ _)
    · intro q token τ hmem
      rcases List.mem_cons.mp hmem with heq | hmem
      · cases heq
      · exact h.ended q token τ hmem
    · intro token t hlocked
      obtain ⟨e, he, hp⟩ := h.writers token t hlocked
      exact ⟨e, List.mem_cons_of_mem _ he, hp⟩
    · simp only [List.map_cons, List.nodup_cons]
      refine ⟨?_, (h.owners.sublist (List.filter_sublist.map _))⟩
      intro hmem
      obtain ⟨other, hother, heq⟩ := List.mem_map.mp hmem
      simpa [heq] using (List.mem_filter.mp hother).2
    · intro id
      have hold := h.current id
      unfold AuthDb.user at hold ⊢
      simp only [AuthDb.record, List.map_cons, List.map_nil, List.cons_append, List.nil_append,
        userAfter]
      by_cases hid : user.id = id
      · simp [hid]
      · rw [if_neg hid, List.find?_cons_of_neg (by simpa using hid), find?_filter_ne hid]
        exact hold
    · intro e he
      rcases List.mem_cons.mp he with rfl | he
      · exact le_refl _
      · exact h.times e he
    · intro e τ earlier hs
      rcases List.suffix_cons_iff.mp hs with heq | hs
      · simp only [List.cons.injEq, Prod.mk.injEq] at heq
        rw [heq.1.1]
        trivial
      · exact h.justified e τ earlier hs

theorem AuthInv.crash {scrypt : Scrypt} {users : Nat → Option User} {s : AuthDb}
    (h : AuthInv scrypt users s) (p : Nat) : AuthInv scrypt users (s.crash p) :=
  (h.rollback ⟨p, 0⟩).record trivial (by simp [AuthEvent.proc]) (fun _ _ heq => by cases heq)

theorem AuthInv.env {scrypt : Scrypt} {users : Nat → Option User} {s s' : AuthDb} {e : AuthEnv}
    (h : AuthInv scrypt users s) (henv : e.apply s = some s') : AuthInv scrypt users s' := by
  cases e with
  | tick elapsed =>
      simp only [AuthEnv.apply, Option.some.injEq] at henv
      subst henv
      refine ⟨h.linked, h.keyed, h.issued, h.ended, h.writers, h.owners, h.current, ?_,
        h.justified⟩
      intro e he
      have := h.times e he
      simp only
      omega
  | setUser user => exact inv_setUser h henv

def authProtocol : Protocol AuthWorld AuthTask AuthEnv AuthDb where
  machine := authMachine scrypt
  guar := AuthAct scrypt db₀
  inv := AuthInv scrypt db₀.user
  inv_guar := fun _ _ _ _ h _ => h.inv
  inv_crash := fun p _ h => h.crash p
  inv_env := fun _ _ _ h henv _ => h.env henv

end Protocol

section Stability

variable {scrypt : Scrypt} {db₀ : AuthDb} {p : Nat} {s s' : AuthDb} {R : AuthDb → Prop}

theorem onward_other (h : (authProtocol scrypt db₀).Other p s s') : Onward s s' := by
  cases h with
  | proc q hne hguar hadm => exact AuthAct.onward hguar
  | crash q s hne =>
      refine ⟨List.suffix_cons _ _, le_refl _, fun token => ?_⟩
      exact (Cell.Step.rollback (W := Permitted) (t := (⟨q, 0⟩ : TxId)) _).versions_suffix
  | env e henv hadm =>
      cases e with
      | tick elapsed =>
          simp only [authProtocol, authMachine, AuthEnv.apply, Option.some.injEq] at henv
          subst henv
          refine ⟨List.suffix_rfl, ?_, fun _ => List.suffix_rfl⟩
          simp only
          omega
      | setUser user =>
          simp only [authProtocol, authMachine, AuthEnv.apply] at henv
          split at henv
          · cases henv
          · simp only [Option.some.injEq] at henv
            subst henv
            exact ⟨List.suffix_cons _ _, le_refl _, fun _ => List.suffix_rfl⟩

/-- What others do is not told of this process. -/
theorem log_other (h : (authProtocol scrypt db₀).Other p s s') :
    ∃ new, s'.log = new ++ s.log ∧ ∀ e ∈ new, e.1.proc ≠ some p := by
  cases h with
  | proc q hne hguar hadm =>
      obtain ⟨new, hnew, htold⟩ := AuthAct.log hguar
      exact ⟨new, hnew, fun e he heq => hne (Option.some.inj ((htold e he).symm.trans heq))⟩
  | crash q s hne =>
      refine ⟨[(.crashed q, s.now)], rfl, fun e he heq => ?_⟩
      rw [List.mem_singleton.mp he] at heq
      exact hne (Option.some.inj heq)
  | env e henv hadm =>
      cases e with
      | tick elapsed =>
          simp only [authProtocol, authMachine, AuthEnv.apply, Option.some.injEq] at henv
          subst henv
          exact ⟨[], rfl, by simp⟩
      | setUser user =>
          simp only [authProtocol, authMachine, AuthEnv.apply] at henv
          split at henv
          · cases henv
          · simp only [Option.some.injEq] at henv
            subst henv
            refine ⟨[(.userSet user, s.now)], rfl, fun e he heq => ?_⟩
            rw [List.mem_singleton.mp he] at heq
            cases heq

theorem own_other (h : (authProtocol scrypt db₀).Other p s s') (token : String) :
    (s'.sessions token).own ⟨p, 0⟩ = (s.sessions token).own ⟨p, 0⟩ := by
  cases h with
  | proc q hne hguar hadm =>
      have hact : AuthAct scrypt db₀ q s s' := hguar
      exact (hact.cells token).own_eq fun heq => hne (TxId.mk.inj heq).1
  | crash q s hne =>
      exact (Cell.Step.rollback (W := Permitted) (t := (⟨q, 0⟩ : TxId)) _).own_eq
        fun heq => hne (TxId.mk.inj heq).1
  | env e henv hadm =>
      cases e with
      | tick elapsed =>
          simp only [authProtocol, authMachine, AuthEnv.apply, Option.some.injEq] at henv
          subst henv
          rfl
      | setUser user =>
          simp only [authProtocol, authMachine, AuthEnv.apply] at henv
          split at henv
          · cases henv
          · simp only [Option.some.injEq] at henv
            subst henv
            rfl

/-- What withstands all that goes on lasts. -/
theorem lasting_of_onward (h : ∀ s s', Onward s s' → R s → R s') :
    (authProtocol scrypt db₀).Lasting p R :=
  ⟨fun s s' _ hR hother => h s s' (onward_other hother) hR,
    fun s s' _ hR hguar _ => h s s' (AuthAct.onward hguar) hR⟩

/-- Of what is not stored yet, the transaction has written only such rows. -/
def Stores (p : Nat) (F : UserSession → Prop) (s : AuthDb) : Prop :=
  ∀ token row vs, (s.sessions token).own ⟨p, 0⟩ = some row :: vs →
    (s.sessions token).versions = [] → F row

theorem stable_stores (F : UserSession → Prop) :
    (authProtocol scrypt db₀).Stable p (Stores p F) := by
  intro s s' _ hstores hother token row vs hown hversions
  rw [own_other hother] at hown
  refine hstores token row vs hown ?_
  have hsuffix := (onward_other hother).versions token
  rw [hversions] at hsuffix
  exact List.suffix_nil.mp hsuffix

/-- The process has stored nothing anew. -/
abbrev Tidy (p : Nat) : AuthDb → Prop := Stores p fun _ => False

/-- The event has been seen, and nothing was written since that is not stored. -/
def Marked (p : Nat) (mark : AuthEvent × Int) (before : AuthLog) (s : AuthDb) : Prop :=
  Latest p mark before s.log ∧ Tidy p s

theorem stable_marked (mark : AuthEvent × Int) (before : AuthLog) :
    (authProtocol scrypt db₀).Stable p (Marked p mark before) := by
  intro s s' hinv hR hother
  obtain ⟨new, hnew, hothers⟩ := log_other hother
  exact ⟨hnew ▸ hR.1.later hothers, stable_stores _ s s' hinv hR.2 hother⟩

theorem tidy_of_unseen (h : AuthInv scrypt db₀.user s) (hunseen : s.unseen p) : Tidy p s := by
  intro token row vs hown _
  have hlocked : (s.sessions token).locked ⟨p, 0⟩ := by
    by_contra hnot
    rw [Cell.own_eq_nil_of_not_locked hnot] at hown
    cases hown
  obtain ⟨e, he, hp⟩ := h.writers token _ hlocked
  exact hunseen e he hp

theorem tidy_of_own (h : ∀ token, (s.sessions token).own ⟨p, 0⟩ = []) : Tidy p s := by
  intro token row vs hown _
  rw [h token] at hown
  cases hown

end Stability

/-! ### The statements -/

section Statements

variable {scrypt : Scrypt} {db₀ : AuthDb} {p : Nat} {α : Type} {R : AuthDb → Prop}
  {Q : α → AuthDb → Prop}

theorem quiet (p : Nat) (log : AuthLog) :
    ∃ new, log = new ++ log ∧ ∀ e ∈ new, e.1.proc = some p := ⟨[], rfl, by simp⟩

/-- What is not written to, does not change. -/
theorem AuthAct.same {s : AuthDb} (h : AuthInv scrypt db₀.user s) : AuthAct scrypt db₀ p s s :=
  ⟨quiet p _, rfl, fun _ => Cell.Step.same _, h⟩

theorem triple_authSql {f : AuthDb → Option (Except Err α × AuthDb)}
    (hst : (authProtocol scrypt db₀).Stable p R)
    (hstep : ∀ s r s', AuthInv scrypt db₀.user s → R s → f s = some (r, s') →
      AuthAct scrypt db₀ p s s' ∧ ∀ a, r = .ok a → Q a s') :
    (authProtocol scrypt db₀).Triple p R (authSql f) Q (fun _ _ => True) := by
  refine triple_stmt hst ?_
  intro s w r s' hinv hR hf _
  by_cases hw : w.fails = true
  · rw [if_pos hw] at hf
    simp only [Option.some.injEq, Prod.mk.injEq] at hf
    obtain ⟨rfl, rfl⟩ := hf
    exact ⟨AuthAct.same hinv, trivial⟩
  · rw [if_neg hw] at hf
    obtain ⟨hact, hpost⟩ := hstep s r s' hinv hR hf
    refine ⟨hact, ?_⟩
    cases r with
    | ok a => exact hpost a rfl
    | error e => trivial

theorem triple_authSelect {f : AuthDb → α} (hst : (authProtocol scrypt db₀).Stable p R)
    (hstep : ∀ s, AuthInv scrypt db₀.user s → R s → Q (f s) s) :
    (authProtocol scrypt db₀).Triple p R (authSelect f) Q (fun _ _ => True) := by
  refine triple_authSql hst ?_
  intro s r s' hinv hR hf
  simp only [Option.some.injEq, Prod.mk.injEq] at hf
  obtain ⟨rfl, rfl⟩ := hf
  refine ⟨AuthAct.same hinv, fun a ha => ?_⟩
  cases ha
  exact hstep s hinv hR

theorem triple_authNow {Q : Int → AuthDb → Prop} (hst : (authProtocol scrypt db₀).Stable p R)
    (hstep : ∀ s, AuthInv scrypt db₀.user s → R s → Q s.now s) :
    (authProtocol scrypt db₀).Triple p R authNow Q (fun _ _ => True) := by
  refine triple_stmt hst ?_
  intro s w r s' hinv hR hf _
  simp only [Option.some.injEq, Prod.mk.injEq] at hf
  obtain ⟨rfl, rfl⟩ := hf
  exact ⟨AuthAct.same hinv, hstep s hinv hR⟩

theorem triple_generateTokens {Q : String × String → AuthDb → Prop}
    (hst : (authProtocol scrypt db₀).Stable p R) (hstep : ∀ tokens s, R s → Q tokens s) :
    (authProtocol scrypt db₀).Triple p R generateTokens Q (fun _ _ => True) := by
  refine triple_stmt hst ?_
  intro s w r s' hinv hR hf _
  simp only [Option.some.injEq, Prod.mk.injEq] at hf
  obtain ⟨rfl, rfl⟩ := hf
  exact ⟨AuthAct.same hinv, hstep _ s hR⟩

/-- An event is seen that is justified by then. -/
theorem triple_authObserve {e : AuthEvent} {Q : Unit → AuthDb → Prop}
    (hst : (authProtocol scrypt db₀).Stable p R) (hproc : e.proc = some p)
    (hrevoked : ∀ q token, e ≠ .revoked q token)
    (hstep : ∀ s, AuthInv scrypt db₀.user s → R s →
      Justified scrypt db₀.user s.now s.log e ∧ Q () (s.record [e])) :
    (authProtocol scrypt db₀).Triple p R (authObserve [e]) Q (fun _ _ => True) := by
  refine triple_stmt hst ?_
  intro s w r s' hinv hR hf _
  simp only [Option.some.injEq, Prod.mk.injEq] at hf
  obtain ⟨rfl, rfl⟩ := hf
  obtain ⟨hjustified, hpost⟩ := hstep s hinv hR
  refine ⟨⟨⟨[(e, s.now)], rfl, ?_⟩, rfl, fun _ => Cell.Step.same _,
    hinv.record hjustified (by simp [hproc])
      (fun q token heq => absurd heq (hrevoked q token))⟩, hpost⟩
  intro e' he'
  rw [List.mem_singleton.mp he']
  exact hproc

theorem triple_authCommit {evs : List AuthEvent} {Q : Unit → AuthDb → Prop}
    (hst : (authProtocol scrypt db₀).Stable p R) (hproc : ∀ e ∈ evs, e.proc = some p)
    (hstep : ∀ s, AuthInv scrypt db₀.user s → R s →
      AuthInv scrypt db₀.user ((s.commit ⟨p, 0⟩).record evs) ∧
        Q () ((s.commit ⟨p, 0⟩).record evs)) :
    (authProtocol scrypt db₀).Triple p R (authCommit ⟨p, 0⟩ evs) Q (fun _ _ => True) := by
  refine triple_stmt hst ?_
  intro s w r s' hinv hR hf _
  by_cases hw : w.fails = true
  · rw [if_pos hw] at hf
    simp only [Option.some.injEq, Prod.mk.injEq] at hf
    obtain ⟨rfl, rfl⟩ := hf
    exact ⟨⟨quiet p _, rfl, fun _ => Cell.Step.rollback _, hinv.rollback _⟩, trivial⟩
  · rw [if_neg hw] at hf
    simp only [Option.some.injEq, Prod.mk.injEq] at hf
    obtain ⟨rfl, rfl⟩ := hf
    obtain ⟨hafter, hpost⟩ := hstep s hinv hR
    refine ⟨⟨⟨_, rfl, ?_⟩, rfl, fun _ => Cell.Step.commit _, hafter⟩, hpost⟩
    intro e he
    obtain ⟨ev, hev, rfl⟩ := List.mem_map.mp he
    exact hproc ev hev

/-- A block: what it has written is forgotten if anything inside it fails. -/
theorem triple_authUnitOfWork {actor : String} {body : Int → AuthProg α} {seen : α → List AuthEvent}
    {M : α → AuthDb → Prop} (hst : (authProtocol scrypt db₀).Stable p R)
    (hbody : ∀ started, (authProtocol scrypt db₀).Triple p R (body started) M (fun _ _ => True))
    (hcommit : ∀ a, (authProtocol scrypt db₀).Triple p (M a) (authCommit ⟨p, 0⟩ (seen a))
      (fun _ => Q a) (fun _ _ => True)) :
    (authProtocol scrypt db₀).Triple p R (authUnitOfWork ⟨p, 0⟩ actor body seen) Q
      (fun _ _ => True) := by
  unfold authUnitOfWork
  by_cases hactor : validActor actor = true
  swap
  · rw [if_neg hactor]
    exact triple_throw _ fun _ _ _ => trivial
  rw [if_pos hactor]
  refine Triple.handle (M := fun _ _ => True) ?_ ?_
  · refine Triple.bind (M := fun _ => R) (triple_authSelect hst fun s _ hR => hR) (fun _ => ?_)
    refine (hbody _).bind (fun a => (hcommit a).bind (fun _ => ?_))
    exact triple_pure a (fun s _ h => h)
  · intro e
    refine Triple.bind (M := fun _ _ => True) ?_ (fun _ => triple_throw e fun _ _ _ => trivial)
    refine triple_stmt (stable_const True) ?_
    intro s w r s' hinv _ hf _
    simp only [Option.some.injEq, Prod.mk.injEq] at hf
    obtain ⟨rfl, rfl⟩ := hf
    exact ⟨⟨quiet p _, rfl, fun _ => Cell.Step.rollback _, hinv.rollback _⟩, trivial⟩

/-- A transaction that has stored nothing anew, and has nothing to tell, ends. -/
theorem commit_tidy (mark : AuthEvent × Int) (before : AuthLog) :
    (authProtocol scrypt db₀).Triple p (Marked p mark before) (authCommit ⟨p, 0⟩ [])
      (fun _ => Marked p mark before) (fun _ _ => True) := by
  refine triple_authCommit (stable_marked mark before) (by simp) ?_
  intro s hinv hR
  refine ⟨hinv.commit fun token row vs hown hempty => (hR.2 token row vs hown hempty).elim,
    hR.1, tidy_of_own fun token => Cell.own_commit_self⟩

end Statements

/-! ### What a request finds out

A request asks for its session, for its user and for the time, one after the other, and others may
write in between.  What each query returns is so in the state in which it was made and is of the
kind that stays so, and therefore holds of the state at the end as well.
-/

/-- The session is stored under the token. -/
def StoredUnder (token : String) (session : UserSession) (s : AuthDb) : Prop :=
  ∃ row, some row ∈ (s.sessions token).versions ∧ SameSession row session

/-- The session is one that was not revoked before the mark, and not over after it. -/
structure Valid (mark : AuthEvent × Int) (before : AuthLog) (token : String)
    (session : UserSession) (s : AuthDb) : Prop where
  key : session.sessionToken = token
  unrevoked : ∀ q τ, (AuthEvent.revoked q token, τ) ∉ before
  issued : Issued session s.log
  stored : StoredUnder token session s
  began : mark.2 ≤ session.lastAccessedAt
  noted : session.lastAccessedAt ≤ s.now
  unexpired : session.lastAccessedAt < session.expiresAt

section Requests

variable {scrypt : Scrypt} {db₀ : AuthDb} {p : Nat} {mark : AuthEvent × Int} {before : AuthLog}
  {token : String} {session loaded : UserSession} {user : User} {R : AuthDb → Prop}

theorem StoredUnder.onward {s s' : AuthDb} (h : StoredUnder token session s) (hs : Onward s s') :
    StoredUnder token session s' := by
  obtain ⟨row, hrow, hsame⟩ := h
  exact ⟨row, (hs.versions token).mem hrow, hsame⟩

theorem StoredUnder.ne_nil {s : AuthDb} (h : StoredUnder token session s) :
    (s.sessions token).versions ≠ [] := by
  obtain ⟨row, hrow, -⟩ := h
  exact List.ne_nil_of_mem hrow

/-- What is stored under one token is one session. -/
theorem StoredUnder.same {users : Nat → Option User} {s : AuthDb} {other : UserSession}
    (h : StoredUnder token session s) (h' : StoredUnder token other s)
    (hinv : AuthInv scrypt users s) : SameSession session other := by
  obtain ⟨row, hrow, hsame⟩ := h
  obtain ⟨row', hrow', hsame'⟩ := h'
  have hlinked := (hinv.linked token).suffix (Cell.versions_suffix_chain _)
  exact hsame.symm.trans ((linked_same hlinked hrow hrow').trans hsame')

theorem Valid.onward {s s' : AuthDb} (h : Valid mark before token session s) (hs : Onward s s') :
    Valid mark before token session s' :=
  ⟨h.key, h.unrevoked, h.issued.later hs.log, h.stored.onward hs, h.began,
    h.noted.trans hs.now, h.unexpired⟩

theorem CurrentSince.later {users : Nat → Option User} {log log' : AuthLog}
    (h : CurrentSince users mark before user log) (hlog : log <:+ log') :
    CurrentSince users mark before user log' := by
  obtain ⟨past, hpast, hmark, huser⟩ := h
  exact ⟨past, hpast.trans hlog, hmark, huser⟩

theorem lasting_valid : (authProtocol scrypt db₀).Lasting p (Valid mark before token session) :=
  lasting_of_onward fun _ _ hs h => h.onward hs

theorem lasting_current : (authProtocol scrypt db₀).Lasting p
    (fun s => CurrentSince db₀.user mark before user s.log) :=
  lasting_of_onward fun _ _ hs h => h.later hs.log

/-- The rows of a transaction that has stored nothing anew are those of everybody. -/
theorem committed_of_tidy {s : AuthDb} (hinv : AuthInv scrypt db₀.user s) (htidy : Tidy p s)
    {row : UserSession} (hvisible : (s.sessions token).visible ⟨p, 0⟩ = some row) :
    StoredUnder token row s ∧ row.sessionToken = token ∧ Issued row s.log ∧
      (row.isRevoked = false → ∀ q τ, (AuthEvent.revoked q token, τ) ∉ s.log) := by
  have hmem := Cell.visible_mem hvisible
  have hkey := hinv.keyed token row (Cell.mem_chain_of_view hmem)
  have hversions : (s.sessions token).versions ≠ [] := by
    intro hnil
    unfold Cell.visible Cell.view at hvisible
    rw [hnil, List.append_nil] at hvisible
    cases hown : (s.sessions token).own ⟨p, 0⟩ with
    | nil => rw [hown] at hvisible; cases hvisible
    | cons v vs =>
        rw [hown] at hvisible
        simp only [List.head?_cons, Option.join_some] at hvisible
        rw [hvisible] at hown
        exact htidy token row vs hown hnil
  have hview : Linked Permitted ((s.sessions token).view ⟨p, 0⟩) := by
    by_cases hfree : (s.sessions token).free ⟨p, 0⟩ = true
    · rw [← Cell.chain_eq_view hfree]
      exact hinv.linked token
    · unfold Cell.view
      rw [Cell.own_eq_nil_of_not_locked fun hl => hfree (Cell.locked_free hl)]
      exact (hinv.linked token).suffix (Cell.versions_suffix_chain _)
  have hcommitted : ∀ old, (s.sessions token).committed = some old → KeptSession old row := by
    intro old hold
    obtain ⟨new, hnew, hkept⟩ := linked_kept hview (List.suffix_append _ _) hold
    rw [← Option.some.inj (hnew.symm.trans hvisible)]
    exact hkept
  obtain ⟨old, hold⟩ := linked_head
    ((hinv.linked token).suffix (Cell.versions_suffix_chain _)) hversions
  refine ⟨⟨old, Cell.committed_mem hold, (hcommitted old hold).toSameSession⟩, hkey,
    (hinv.issued token old hold).same (hcommitted old hold).toSameSession, ?_⟩
  intro hopen q τ hrevoked
  obtain ⟨gone, hgone, hended⟩ := hinv.ended q token τ hrevoked
  rw [(hcommitted gone hgone).revoked hended] at hopen
  cases hopen

theorem validateSession_triple :
    (authProtocol scrypt db₀).Triple p (Marked p mark before) (validateSession ⟨p, 0⟩ token)
      (fun valid s => Marked p mark before s ∧ ∀ loaded session, valid = some (loaded, session) →
        loaded.sessionToken = token ∧ Valid mark before token session s)
      (fun _ _ => True) := by
  unfold validateSession
  -- what the row says of the history, and what is known of it when the clock is read
  let Read (row : UserSession) (s : AuthDb) : Prop :=
    row.sessionToken = token ∧ (∀ q τ, (AuthEvent.revoked q token, τ) ∉ before) ∧
      Issued row s.log ∧ StoredUnder token row s
  have hlasting : ∀ row, (authProtocol scrypt db₀).Lasting p (Read row) := by
    exact fun row => lasting_of_onward fun s s' hs h =>
      ⟨h.1, h.2.1, h.2.2.1.later hs.log, h.2.2.2.onward hs⟩
  refine Triple.bind (M := fun found s => Marked p mark before s ∧
    ∀ row, found = some row → Read row s) ?_ (fun found => ?_)
  · refine triple_authSelect (stable_marked mark before) ?_
    intro s hinv hR
    refine ⟨hR, fun row hrow => ?_⟩
    rw [Option.filter_eq_some_iff] at hrow
    obtain ⟨hvisible, hopen⟩ := hrow
    obtain ⟨hversions, hkey, hissued, hunrevoked⟩ := committed_of_tidy hinv hR.2 hvisible
    refine ⟨hkey, fun q τ hmem => ?_, hissued, hversions⟩
    exact hunrevoked (by simpa using hopen) q τ
      (hR.1.mem (List.mem_cons_of_mem _ hmem))
  cases found with
  | none => exact triple_pure _ fun s _ h => ⟨h.1, fun _ _ heq => by cases heq⟩
  | some row =>
      have hst : (authProtocol scrypt db₀).Stable p
          (fun s => Marked p mark before s ∧ Read row s) :=
        (stable_marked mark before).and (hlasting row).others
      refine Triple.pre (R := fun s => Marked p mark before s ∧ Read row s) ?_
        (fun s _ h => ⟨h.1, h.2 row rfl⟩)
      refine Triple.bind (M := fun now s => Marked p mark before s ∧ Read row s ∧
        mark.2 ≤ now ∧ now ≤ s.now) ?_ (fun now => ?_)
      · refine triple_authNow hst ?_
        intro s hinv hR
        exact ⟨hR.1, hR.2, hinv.times mark (hR.1.1.mem List.mem_cons_self), le_refl _⟩
      · split
        · exact triple_pure _ fun s _ h => ⟨h.1, fun _ _ heq => by cases heq⟩
        · rename_i hlive
          refine triple_pure _ fun s _ h => ⟨h.1, fun loaded session heq => ?_⟩
          obtain ⟨hmarked, ⟨hkey, hunrevoked, hissued, hversions⟩, hbegan, hnow⟩ := h
          simp only [Option.some.injEq, Prod.mk.injEq] at heq
          obtain ⟨rfl, rfl⟩ := heq
          refine ⟨hkey, hkey, hunrevoked, ?_, ?_, hbegan, hnow, ?_⟩
          · exact hissued.same ⟨rfl, rfl, rfl, rfl⟩
          · obtain ⟨old, hold, hsame⟩ := hversions
            exact ⟨old, hold, hsame.trans ⟨rfl, rfl, rfl, rfl⟩⟩
          · simp only
            omega

/-- The time of the access is noted on a row that is stored. -/
theorem flushSession_triple (before : AuthLog) (session : UserSession)
    (hmark : mark.1.proc = some p) (hkey : loaded.sessionToken = token) :
    (authProtocol scrypt db₀).Triple p
      (fun s => Marked p mark before s ∧ (s.sessions token).versions ≠ [])
      (flushSession ⟨p, 0⟩ loaded session) (fun _ => Marked p mark before) (fun _ _ => True) := by
  have hstored : (authProtocol scrypt db₀).Lasting p
      (fun s => (s.sessions token).versions ≠ []) := lasting_of_onward fun _ _ hs h => hs.stored h
  unfold flushSession
  split
  · exact triple_pure () fun s _ h => h.1
  refine triple_authSql ((stable_marked mark before).and hstored.others) ?_
  intro s r s' hinv hR hf
  simp only [hkey] at hf
  obtain ⟨row, hrow⟩ := hinv.visible (t := (⟨p, 0⟩ : TxId)) hR.2
  simp only [hrow] at hf
  split at hf
  swap
  · cases hf
  rename_i hfree
  simp only [Option.some.injEq, Prod.mk.injEq] at hf
  obtain ⟨rfl, rfl⟩ := hf
  have hpermitted : Permitted ((s.sessions token).visible ⟨p, 0⟩)
      (some { row with lastAccessedAt := session.lastAccessedAt }) := by
    rw [hrow]
    exact ⟨⟨rfl, rfl, rfl, rfl⟩, id⟩
  have hrowkey : row.sessionToken = token :=
    hinv.keyed token row (Cell.mem_chain_of_view (Cell.visible_mem hrow))
  have hseen : ∃ e ∈ s.log, e.1.proc = some p := ⟨mark, hR.1.1.mem List.mem_cons_self, hmark⟩
  refine ⟨⟨quiet p _, rfl, fun other => ?_, hinv.write hfree hpermitted hrowkey hseen⟩,
    fun a _ => ⟨hR.1.1, ?_⟩⟩
  · by_cases hother : other = token
    · rw [hother, setSession_self]
      exact Cell.Step.write _ _ hfree hpermitted
    · rw [setSession_ne hother]
      exact Cell.Step.same _
  · intro other row' vs hown hempty
    by_cases hother : other = token
    · rw [hother, setSession_self, Cell.write_versions] at hempty
      exact hR.2 hempty
    · rw [setSession_ne hother] at hown hempty
      exact hR.1.2 other row' vs hown hempty

/-- A request that has found its session knows that it was good, and whose it is. -/
structure Found (mark : AuthEvent × Int) (before : AuthLog) (users : Nat → Option User)
    (token : String) (user : User) (session : UserSession) (s : AuthDb) : Prop where
  valid : Valid mark before token session s
  owner : user.id = session.userId
  enabled : user.enabled = true
  current : CurrentSince users mark before user s.log

theorem lasting_found :
    (authProtocol scrypt db₀).Lasting p (Found mark before db₀.user token user session) :=
  lasting_of_onward fun _ _ hs h =>
    ⟨h.valid.onward hs, h.owner, h.enabled, h.current.later hs.log⟩

/-- The user that is read is the one of that moment. -/
theorem current_of_user {s : AuthDb} (hinv : AuthInv scrypt db₀.user s)
    (hmark : Latest p mark before s.log) {id : Nat} (huser : s.user id = some user) :
    user.id = id ∧ CurrentSince db₀.user mark before user s.log := by
  have hid : user.id = id := by
    have := List.find?_some huser
    simpa using this
  refine ⟨hid, s.log, List.suffix_rfl, hmark.suffix, ?_⟩
  rw [← hinv.current, hid]
  exact huser

theorem getCurrentSessionAndUser_triple {cookie : Option String}
    (hproc : mark = (.received p cookie, mark.2)) :
    (authProtocol scrypt db₀).Triple p (Marked p mark before)
      (getCurrentSessionAndUser p cookie)
      (fun r s => Marked p mark before s ∧ cookie = some r.2.sessionToken ∧
        Found mark before db₀.user r.2.sessionToken r.1 r.2 s)
      (fun _ _ => True) := by
  have hmark : mark.1.proc = some p := by rw [hproc]; rfl
  unfold getCurrentSessionAndUser
  split
  · exact triple_throw _ fun _ _ _ => trivial
  rename_i token htoken
  have hcookie : cookie = some token := (Option.filter_eq_some_iff.mp htoken).1
  refine triple_authUnitOfWork (M := fun r s => Marked p mark before s ∧
    (cookie = some r.2.sessionToken ∧ Found mark before db₀.user r.2.sessionToken r.1 r.2 s))
    (stable_marked mark before) (fun _ => ?_) (fun r => ?_)
  · refine validateSession_triple.bind (fun valid => ?_)
    cases valid with
    | none => exact triple_throw _ fun _ _ _ => trivial
    | some pair =>
        obtain ⟨loaded, session⟩ := pair
        refine Triple.pre (R := fun s => loaded.sessionToken = token ∧
          (Marked p mark before s ∧ Valid mark before token session s)) ?_
          (fun s _ h => ⟨(h.2 loaded session rfl).1, h.1, (h.2 loaded session rfl).2⟩)
        refine triple_fact fun hkey => ?_
        simp only
        refine Triple.bind (M := fun user s => (Marked p mark before s ∧
          Valid mark before token session s) ∧ ∀ u, user = some u →
            u.id = session.userId ∧ CurrentSince db₀.user mark before u s.log) ?_ (fun user => ?_)
        · refine triple_authSelect ((stable_marked mark before).and lasting_valid.others) ?_
          intro s hinv hR
          exact ⟨hR, fun u hu => current_of_user hinv hR.1.1 hu⟩
        · split
          · exact triple_throw _ fun _ _ _ => trivial
          · rename_i u hu
            obtain ⟨huser, henabled⟩ := Option.filter_eq_some_iff.mp hu
            refine Triple.bind (M := fun _ s => Marked p mark before s ∧
              Found mark before db₀.user token u session s) ?_ (fun _ => ?_)
            · refine ((flushSession_triple before session hmark hkey).frame
                (S := Found mark before db₀.user token u session) lasting_found).conseq ?_
                (fun _ _ _ h => h) (fun _ _ _ _ => trivial)
              intro s _ h
              obtain ⟨hid, hcurrent⟩ := h.2 u huser
              exact ⟨⟨h.1.1, h.1.2.stored.ne_nil⟩, h.1.2, hid, henabled, hcurrent⟩
            · refine triple_pure _ fun s _ h => ?_
              have htok : session.sessionToken = token := h.2.valid.key
              refine ⟨h.1, ?_, ?_⟩
              · rw [hcookie, htok]
              · rw [htok]
                exact h.2
  · refine ((commit_tidy mark before).frame (S := fun s => cookie = some r.2.sessionToken ∧
      Found mark before db₀.user r.2.sessionToken r.1 r.2 s) ?_).conseq (fun _ _ h => h)
        (fun _ _ _ h => h) (fun _ _ _ _ => trivial)
    exact (lasting_const _).and lasting_found

/-- What is known of a request that has been let in. -/
structure LetIn (p : Nat) (endpoint : Endpoint) (user : User) (session : UserSession)
    (s : AuthDb) : Prop where
  seen : ∃ xCsrfToken τ,
    (AuthEvent.admitted p endpoint xCsrfToken user session, τ) ∈ s.log
  stored : StoredUnder session.sessionToken session s
  owner : user.id = session.userId

theorem lasting_letIn {endpoint : Endpoint} :
    (authProtocol scrypt db₀).Lasting p (LetIn p endpoint user session) := by
  refine lasting_of_onward fun s s' hs h => ⟨?_, h.stored.onward hs, h.owner⟩
  obtain ⟨xCsrfToken, τ, hmem⟩ := h.seen
  exact ⟨xCsrfToken, τ, hs.log.mem hmem⟩

/-- **A request is let in only if that is justified.** -/
theorem enterEndpoint_triple (endpoint : Endpoint) (cookie xCsrfToken : Option String) :
    (authProtocol scrypt db₀).Triple p (Tidy p) (enterEndpoint p endpoint cookie xCsrfToken)
      (fun r s => Tidy p s ∧ LetIn p endpoint r.1 r.2 s) (fun _ _ => True) := by
  unfold enterEndpoint
  refine Triple.bind (M := fun _ s => ∃ mark : (AuthEvent × Int) × AuthLog,
    mark.1 = (.received p cookie, mark.1.2) ∧ Marked p mark.1 mark.2 s) ?_ (fun _ => ?_)
  · refine triple_authObserve (stable_stores _) (by simp [AuthEvent.proc]) (by simp) ?_
    intro s hinv hR
    exact ⟨trivial, ((.received p cookie, s.now), s.log), rfl, latest_now p _ _, hR⟩
  refine triple_exists fun mark => triple_fact fun hmark => ?_
  refine (getCurrentSessionAndUser_triple hmark).bind fun r => ?_
  obtain ⟨user, session⟩ := r
  simp only
  refine Triple.bind (M := fun _ s => (checkGuards endpoint.method xCsrfToken user session
    endpoint.guards = .ok () ∧ cookie = some session.sessionToken) ∧ (Marked p mark.1 mark.2 s ∧
      Found mark.1 mark.2 db₀.user session.sessionToken user session s)) ?_ (fun _ => ?_)
  · intro s hinv h
    show post _ _ (checkGuards endpoint.method xCsrfToken user session endpoint.guards) s
    cases hguards : checkGuards endpoint.method xCsrfToken user session endpoint.guards with
    | ok _ => exact ⟨⟨rfl, h.2.1⟩, h.1, h.2.2⟩
    | error e => trivial
  refine triple_fact fun hfacts => ?_
  obtain ⟨hguards, hcookie⟩ := hfacts
  refine Triple.bind (M := fun _ s => Tidy p s ∧ LetIn p endpoint user session s) ?_
    (fun _ => triple_pure _ fun s _ h => h)
  refine triple_authObserve ((stable_marked _ _).and lasting_found.others)
    (by simp [AuthEvent.proc]) (by simp) ?_
  intro s hinv h
  obtain ⟨⟨hlog, htidy⟩, hvalid, howner, henabled, hcurrent⟩ := h
  refine ⟨?_, htidy, ⟨xCsrfToken, s.now, List.mem_cons_self⟩, hvalid.stored, howner⟩
  have hreceived : mark.1 = (.received p (some session.sessionToken), mark.1.2) := by
    rw [← hcookie]
    exact hmark
  refine ⟨⟨mark.1.2, mark.2, ?_, hvalid.unrevoked, hvalid.began, ?_⟩, hvalid.issued,
    hvalid.unexpired, hvalid.noted, howner, henabled, hguards⟩
  · rw [← hreceived]
    exact hlog
  · rw [← hreceived]
    exact hcurrent

end Requests

end SelfHealing
