/-
What the rows of the sessions remember.

A session is never deleted, and once stored it changes in two columns only: the time of its last
access, and whether it is revoked, which is never taken back (`KeptSession`).  So whoever sees a
session sees the one that a login has stored, and a logout that was answered is seen by every
request that looks after it.

`Justified` says what must have happened before an event may be seen.  It is a part of the
invariant, so that whatever a request knows when it is let in is in the history by then.
-/
import SelfHealing.Authentication
import SelfHealing.Lib.RelyGuarantee

namespace SelfHealing

open Interleaving Interleaving.Protocol ReadCommitted

/-- What has been seen, the latest first. -/
abbrev AuthLog := List (AuthEvent × Int)

/-! ### One session over time -/

/-- What of a session never changes. -/
structure SameSession (a b : UserSession) : Prop where
  token : b.sessionToken = a.sessionToken
  userId : b.userId = a.userId
  csrf : b.csrfToken = a.csrfToken
  expires : b.expiresAt = a.expiresAt

/-- The session is the same, and it stays revoked. -/
structure KeptSession (a b : UserSession) : Prop extends SameSession a b where
  revoked : a.isRevoked = true → b.isRevoked = true

/-- What may be written over what. -/
def Permitted : Option UserSession → Option UserSession → Prop
  | none, some _ => True
  | some a, some b => KeptSession a b
  | _, none => False

theorem KeptSession.refl (a : UserSession) : KeptSession a a := ⟨⟨rfl, rfl, rfl, rfl⟩, id⟩

theorem SameSession.trans {a b c : UserSession} (h : SameSession a b) (h' : SameSession b c) :
    SameSession a c :=
  ⟨h'.token.trans h.token, h'.userId.trans h.userId, h'.csrf.trans h.csrf,
    h'.expires.trans h.expires⟩

theorem SameSession.symm {a b : UserSession} (h : SameSession a b) : SameSession b a :=
  ⟨h.token.symm, h.userId.symm, h.csrf.symm, h.expires.symm⟩

theorem KeptSession.trans {a b c : UserSession} (h : KeptSession a b) (h' : KeptSession b c) :
    KeptSession a c :=
  ⟨h.toSameSession.trans h'.toSameSession, fun ha => h'.revoked (h.revoked ha)⟩

section Linked

variable {l l' : List (Option UserSession)}

/-- Sessions are never deleted. -/
theorem linked_head (h : Linked Permitted l) (hne : l ≠ []) : ∃ row, l.head?.join = some row := by
  cases l with
  | nil => exact absurd rfl hne
  | cons v rest =>
      cases v with
      | some row => exact ⟨row, rfl⟩
      | none =>
          have := h.1
          cases hrest : rest.head?.join <;> simp [hrest, Permitted] at this

theorem linked_kept (h : Linked Permitted l) (hs : l' <:+ l) {a : UserSession}
    (ha : l'.head?.join = some a) : ∃ b, l.head?.join = some b ∧ KeptSession a b := by
  induction l with
  | nil =>
      rw [List.suffix_nil.mp hs] at ha
      simp at ha
  | cons v rest ih =>
      rcases List.suffix_cons_iff.mp hs with rfl | hsuf
      · exact ⟨a, ha, KeptSession.refl a⟩
      · obtain ⟨b, hb, hkept⟩ := ih h.2 hsuf
        have hwrite := h.1
        rw [hb] at hwrite
        cases v with
        | none => exact hwrite.elim
        | some c => exact ⟨c, rfl, hkept.trans hwrite⟩

/-- The versions of a row are of one session. -/
theorem linked_same (h : Linked Permitted l) {a b : UserSession} (ha : some a ∈ l)
    (hb : some b ∈ l) : SameSession a b := by
  have hnewest : ∀ c, some c ∈ l → ∃ d, l.head?.join = some d ∧ SameSession c d := by
    intro c hc
    obtain ⟨newer, older, rfl⟩ := List.append_of_mem hc
    have hsuffix : some c :: older <:+ newer ++ some c :: older := List.suffix_append _ _
    obtain ⟨d, hd, hkept⟩ := linked_kept h hsuffix rfl
    exact ⟨d, hd, hkept.toSameSession⟩
  obtain ⟨c, hc, hac⟩ := hnewest a ha
  obtain ⟨d, hd, hbd⟩ := hnewest b hb
  rw [Option.some.inj (hc.symm.trans hd)] at hac
  exact hac.trans hbd.symm

end Linked

/-! ### What must have happened

The clauses speak of the history alone: of the login that has stored the session, of the user that
it belongs to, and of the logouts that have been answered.  None of them is made false by an event
that comes later.
-/

/-- The user that everybody sees, after these events. -/
def userAfter (users : Nat → Option User) (id : Nat) : AuthLog → Option User
  | [] => users id
  | (.userSet user, _) :: rest => if user.id = id then some user else userAfter users id rest
  | _ :: rest => userAfter users id rest

section Justified

variable (scrypt : Scrypt) (users : Nat → Option User)

/-- This was the process's latest event, and what had been seen before it. -/
def Latest (p : Nat) (mark : AuthEvent × Int) (before log : AuthLog) : Prop :=
  ∃ recent, log = recent ++ mark :: before ∧ ∀ e ∈ recent, e.1.proc ≠ some p

/-- At a moment since the event, this was the user. -/
def CurrentSince (mark : AuthEvent × Int) (before : AuthLog) (user : User) (log : AuthLog) : Prop :=
  ∃ past, past <:+ log ∧ (mark :: before) <:+ past ∧ userAfter users user.id past = some user

/-- A session of this kind was stored by a login. -/
def Issued (session : UserSession) (log : AuthLog) : Prop :=
  ∃ q owner login τ, (AuthEvent.loggedIn q owner login, τ) ∈ log ∧ SameSession login session

/-- The session is stored for an enabled user, since the limiter let a login of that name pass
whose password is that of the user, and it is over eight hours after a moment in between. -/
structure LoginJustified (p : Nat) (user : User) (session : UserSession) (time : Int)
    (earlier : AuthLog) : Prop where
  attempt : ∃ req clientIp began before,
    Latest p (.attempted p req clientIp, began) before earlier ∧
      req.username = user.username ∧
      verifyPassword scrypt req.password user.passwordHash = true ∧
      began + seconds (8 * 3600) ≤ session.expiresAt ∧
      CurrentSince users (.attempted p req clientIp, began) before user earlier
  enabled : user.enabled = true
  owner : session.userId = user.id
  expires : session.expiresAt ≤ time + seconds (8 * 3600)

/-- The request is one with the token of a session that a login has stored, that was not revoked
when it came in and not over after that; since then its user was enabled and had this role. -/
structure AdmissionJustified (p : Nat) (endpoint : Endpoint) (xCsrfToken : Option String)
    (user : User) (session : UserSession) (time : Int) (earlier : AuthLog) : Prop where
  request : ∃ began before,
    Latest p (.received p (some session.sessionToken), began) before earlier ∧
      (∀ q τ, (AuthEvent.revoked q session.sessionToken, τ) ∉ before) ∧
      began ≤ session.lastAccessedAt ∧
      CurrentSince users (.received p (some session.sessionToken), began) before user earlier
  issued : Issued session earlier
  unexpired : session.lastAccessedAt < session.expiresAt
  noted : session.lastAccessedAt ≤ time
  owner : user.id = session.userId
  enabled : user.enabled = true
  guards : checkGuards endpoint.method xCsrfToken user session endpoint.guards = .ok ()

/-- The stream has looked at its session since the last snapshot: it was not revoked by then and
not over after that, and its user was enabled since. -/
def SnapshotJustified (p : Nat) (token : String) (earlier : AuthLog) : Prop :=
  ∃ began before user session,
    Latest p (.ticked p token, began) before earlier ∧
      (∀ q τ, (AuthEvent.revoked q token, τ) ∉ before) ∧
      session.sessionToken = token ∧ Issued session earlier ∧ began < session.expiresAt ∧
      user.id = session.userId ∧ user.enabled = true ∧
      CurrentSince users (.ticked p token, began) before user earlier

/-- What must have happened before an event. -/
def Justified (time : Int) (earlier : AuthLog) : AuthEvent → Prop
  | .loggedIn p user session => LoginJustified scrypt users p user session time earlier
  | .admitted p endpoint xCsrfToken user session =>
      AdmissionJustified users p endpoint xCsrfToken user session time earlier
  | .revoked _ token => ∃ q xCsrfToken user session τ,
      (AuthEvent.admitted q logoutEndpoint xCsrfToken user session, τ) ∈ earlier ∧
        session.sessionToken = token
  | .snapshot p token => SnapshotJustified users p token earlier
  | _ => True

/-! ### The invariant -/

structure AuthInv (s : AuthDb) : Prop where
  linked : ∀ token, Linked Permitted (s.sessions token).chain
  keyed : ∀ token row, some row ∈ (s.sessions token).chain → row.sessionToken = token
  issued : ∀ token row, (s.sessions token).committed = some row → Issued row s.log
  /-- A logout that was answered has revoked its session. -/
  ended : ∀ q token τ, (AuthEvent.revoked q token, τ) ∈ s.log →
    ∃ row, (s.sessions token).committed = some row ∧ row.isRevoked = true
  /-- Who writes a session has been seen. -/
  writers : ∀ token t, (s.sessions token).locked t → ∃ e ∈ s.log, e.1.proc = some t.pid
  owners : (s.users.map User.id).Nodup
  current : ∀ id, s.user id = userAfter users id s.log
  times : ∀ e ∈ s.log, e.2 ≤ s.now
  justified : ∀ e τ earlier, ((e, τ) :: earlier) <:+ s.log →
    Justified scrypt users τ earlier e

end Justified

section Events

variable {scrypt : Scrypt} {users : Nat → Option User} {s : AuthDb} {e : AuthEvent}

theorem Latest.suffix {p : Nat} {mark : AuthEvent × Int} {before log : AuthLog}
    (h : Latest p mark before log) : (mark :: before) <:+ log := by
  obtain ⟨recent, rfl, -⟩ := h
  exact List.suffix_append _ _

theorem Latest.mem {p : Nat} {mark seen : AuthEvent × Int} {before log : AuthLog}
    (h : Latest p mark before log) (hseen : seen ∈ mark :: before) : seen ∈ log :=
  h.suffix.mem hseen

/-- What others do leaves it the latest. -/
theorem Latest.later {p : Nat} {mark : AuthEvent × Int} {before log new : AuthLog}
    (h : Latest p mark before log) (hnew : ∀ e ∈ new, e.1.proc ≠ some p) :
    Latest p mark before (new ++ log) := by
  obtain ⟨recent, rfl, hrecent⟩ := h
  refine ⟨new ++ recent, (List.append_assoc ..).symm, fun e he => ?_⟩
  rcases List.mem_append.mp he with he | he
  · exact hnew e he
  · exact hrecent e he

theorem latest_now (p : Nat) (mark : AuthEvent × Int) (before : AuthLog) :
    Latest p mark before (mark :: before) := ⟨[], rfl, by simp⟩

theorem userAfter_cons (h : e.proc ≠ none) (id : Nat) (τ : Int) (log : AuthLog) :
    userAfter users id ((e, τ) :: log) = userAfter users id log := by
  cases e with
  | userSet user => exact absurd rfl h
  | _ => rfl

theorem Issued.later {session : UserSession} {log log' : AuthLog} (h : Issued session log)
    (hlog : log <:+ log') : Issued session log' := by
  obtain ⟨q, owner, login, τ, hmem, hsame⟩ := h
  exact ⟨q, owner, login, τ, hlog.mem hmem, hsame⟩

theorem Issued.same {a b : UserSession} {log : AuthLog} (h : Issued a log)
    (hsame : SameSession a b) : Issued b log := by
  obtain ⟨q, owner, login, τ, hmem, hlogin⟩ := h
  exact ⟨q, owner, login, τ, hmem, hlogin.trans hsame⟩

theorem record_log (e : AuthEvent) (s : AuthDb) : (s.record [e]).log = (e, s.now) :: s.log := rfl

/-- An event that is justified may be seen. -/
theorem AuthInv.record (h : AuthInv scrypt users s)
    (hjustified : Justified scrypt users s.now s.log e) (hproc : e.proc ≠ none)
    (hrevoked : ∀ q token, e = .revoked q token →
      ∃ row, (s.sessions token).committed = some row ∧ row.isRevoked = true) :
    AuthInv scrypt users (s.record [e]) where
  linked := h.linked
  keyed := h.keyed
  issued token row hrow := (h.issued token row hrow).later (List.suffix_cons _ _)
  ended q token τ hmem := by
    rcases List.mem_cons.mp hmem with heq | hmem
    · exact hrevoked q token (congrArg Prod.fst heq).symm
    · exact h.ended q token τ hmem
  writers token t hlocked := by
    obtain ⟨e', he', hp⟩ := h.writers token t hlocked
    exact ⟨e', List.mem_cons_of_mem _ he', hp⟩
  owners := h.owners
  current id := by
    rw [record_log, userAfter_cons hproc]
    exact h.current id
  times := by
    intro e' he'
    rcases List.mem_cons.mp he' with rfl | he'
    · exact le_refl _
    · exact h.times e' he'
  justified := by
    intro e' τ earlier hs
    rcases List.suffix_cons_iff.mp hs with heq | hs
    · simp only [List.cons.injEq, Prod.mk.injEq] at heq
      obtain ⟨⟨rfl, rfl⟩, rfl⟩ := heq
      exact hjustified
    · exact h.justified e' τ earlier hs

end Events

/-! ### What a step does to the rows -/

section Rows

variable {scrypt : Scrypt} {users : Nat → Option User} {s : AuthDb} {token : String} {t : TxId}

theorem setSession_self (c : Cell TxId UserSession) :
    (s.setSession token c).sessions token = c := Function.update_self ..

theorem setSession_ne {other : String} (h : other ≠ token) (c : Cell TxId UserSession) :
    (s.setSession token c).sessions other = s.sessions other := Function.update_of_ne h ..

/-- A session that is stored is in sight. -/
theorem AuthInv.visible (h : AuthInv scrypt users s) (hne : (s.sessions token).versions ≠ []) :
    ∃ row, (s.sessions token).visible t = some row := by
  have hlinked : Linked Permitted ((s.sessions token).view t) := by
    by_cases hfree : (s.sessions token).free t = true
    · rw [← Cell.chain_eq_view hfree]
      exact h.linked token
    · have hnot : ¬ (s.sessions token).locked t := fun hl => hfree (Cell.locked_free hl)
      unfold Cell.view
      rw [Cell.own_eq_nil_of_not_locked hnot]
      exact (h.linked token).suffix (Cell.versions_suffix_chain _)
  refine linked_head hlinked ?_
  unfold Cell.view
  exact fun hnil => hne (List.append_eq_nil_iff.mp hnil).2

/-- A row is written by a process that has been seen. -/
theorem AuthInv.write (h : AuthInv scrypt users s) {row : UserSession}
    (hfree : (s.sessions token).free t = true)
    (hpermitted : Permitted ((s.sessions token).visible t) (some row))
    (hkey : row.sessionToken = token) (hseen : ∃ e ∈ s.log, e.1.proc = some t.pid) :
    AuthInv scrypt users (s.setSession token ((s.sessions token).write t (some row))) := by
  have hstep : Cell.Step Permitted t (s.sessions token) ((s.sessions token).write t (some row)) :=
    Cell.Step.write _ _ hfree hpermitted
  have hcommitted : ∀ other, ((s.setSession token
      ((s.sessions token).write t (some row))).sessions other).committed =
        (s.sessions other).committed := by
    intro other
    by_cases hother : other = token
    · rw [hother, setSession_self]
      rfl
    · rw [setSession_ne hother]
  refine ⟨?_, ?_, ?_, ?_, ?_, h.owners, h.current, h.times, h.justified⟩
  · intro other
    by_cases hother : other = token
    · rw [hother, setSession_self]
      exact hstep.linked (h.linked token)
    · rw [setSession_ne hother]
      exact h.linked other
  · intro other row' hrow'
    by_cases hother : other = token
    · rw [hother, setSession_self, Cell.chain_eq_view (Cell.locked_free (Cell.locked_write _))]
        at hrow'
      unfold Cell.view at hrow'
      rw [Cell.own_write, Cell.write_versions, List.cons_append] at hrow'
      rw [hother]
      rcases List.mem_cons.mp hrow' with heq | hold
      · rw [Option.some.inj heq, hkey]
      · refine h.keyed token row' ?_
        rw [Cell.chain_eq_view hfree]
        exact hold
    · rw [setSession_ne hother] at hrow'
      exact h.keyed other row' hrow'
  · intro other row' hrow'
    rw [hcommitted other] at hrow'
    exact h.issued other row' hrow'
  · intro q other τ hmem
    rw [hcommitted other]
    exact h.ended q other τ hmem
  · intro other u hlocked
    by_cases hother : other = token
    · rw [hother, setSession_self] at hlocked
      obtain ⟨vs, hvs⟩ := hlocked
      unfold Cell.write at hvs
      simp only [Option.some.injEq, Pending.mk.injEq] at hvs
      rw [← hvs.1]
      exact hseen
    · rw [setSession_ne hother] at hlocked
      exact h.writers other u hlocked

/-- Whatever the transaction has stored anew is of a session that a login has told of. -/
theorem AuthInv.commit (h : AuthInv scrypt users s)
    (hnew : ∀ token row vs, (s.sessions token).own t = some row :: vs →
      (s.sessions token).versions = [] → Issued row s.log) :
    AuthInv scrypt users (s.commit t) := by
  have hstep : ∀ token, Cell.Step Permitted t (s.sessions token) ((s.commit t).sessions token) :=
    fun token => Cell.Step.commit _
  refine ⟨fun token => (hstep token).linked (h.linked token), ?_, ?_, ?_, ?_, h.owners, h.current,
    h.times, h.justified⟩
  · intro token row hrow
    have hchain : ((s.commit t).sessions token).chain = (s.sessions token).chain :=
      Cell.chain_commit
    rw [hchain] at hrow
    exact h.keyed token row hrow
  · intro token row hrow
    have hvisible : (s.sessions token).visible t = some row := by
      rw [← Cell.committed_commit]
      exact hrow
    by_cases hown : (s.sessions token).own t = []
    · rw [Cell.visible_eq_committed hown] at hvisible
      exact h.issued token row hvisible
    · obtain ⟨v, vs, hvs⟩ := List.exists_cons_of_ne_nil hown
      have hv : v = some row := by
        unfold Cell.visible Cell.view at hvisible
        rw [hvs] at hvisible
        simpa using hvisible
      by_cases hempty : (s.sessions token).versions = []
      · rw [hv] at hvs
        exact hnew token row vs hvs hempty
      · have hlinked := (h.linked token).suffix (Cell.versions_suffix_chain _)
        obtain ⟨old, hold⟩ := linked_head hlinked hempty
        have hfree : (s.sessions token).free t = true := by
          by_contra hnot
          exact hown (Cell.own_eq_nil_of_not_locked fun hl => hnot (Cell.locked_free hl))
        have hview : Linked Permitted ((s.sessions token).view t) := by
          rw [← Cell.chain_eq_view hfree]
          exact h.linked token
        obtain ⟨new, hnewest, hkept⟩ := linked_kept hview (List.suffix_append _ _) hold
        have heq : new = row := Option.some.inj (hnewest.symm.trans hvisible)
        rw [← heq]
        exact (h.issued token old hold).same hkept.toSameSession
  · intro q token τ hmem
    obtain ⟨old, hold, hrevoked⟩ := h.ended q token τ hmem
    obtain ⟨new, hnewest, hkept⟩ := linked_kept
      (((hstep token).linked (h.linked token)).suffix (Cell.versions_suffix_chain _))
      (hstep token).versions_suffix hold
    exact ⟨new, hnewest, hkept.revoked hrevoked⟩
  · intro token u hlocked
    rcases Cell.commit_eq_or_free (t := t) (c := s.sessions token) with hsame | hfree
    · exact h.writers token u (hsame ▸ hlocked)
    · exact absurd hlocked (Cell.not_locked_of_pending hfree u)

theorem AuthInv.rollback (h : AuthInv scrypt users s) (t : TxId) :
    AuthInv scrypt users (s.rollback t) := by
  have hstep : ∀ token, Cell.Step Permitted t (s.sessions token) ((s.rollback t).sessions token) :=
    fun token => Cell.Step.rollback _
  have hcommitted : ∀ token, ((s.rollback t).sessions token).committed =
      (s.sessions token).committed := fun token => Cell.committed_rollback
  refine ⟨fun token => (hstep token).linked (h.linked token), ?_, ?_, ?_, ?_, h.owners, h.current,
    h.times, h.justified⟩
  · intro token row hrow
    exact h.keyed token row (Cell.chain_rollback_suffix.mem hrow)
  · intro token row hrow
    rw [hcommitted token] at hrow
    exact h.issued token row hrow
  · intro q token τ hmem
    rw [hcommitted token]
    exact h.ended q token τ hmem
  · intro token u hlocked
    rcases Cell.rollback_eq_or_free (t := t) (c := s.sessions token) with hsame | hfree
    · exact h.writers token u (hsame ▸ hlocked)
    · exact absurd hlocked (Cell.not_locked_of_pending hfree u)

end Rows

end SelfHealing
