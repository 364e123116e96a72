/-
Logins, logouts and the stream, and all of them together.

A login stores a session for a user whom it has found and whose password was checked; a logout
revokes the session that it was let in with; the stream looks at its session and its user in every
round.  With that every task is shown to keep to the protocol, and what must have happened before an
event has happened in every run.

A triple carries what the program has found on its way to what it does, and the protocol asks for
just that.  So each of the three is a chain of triples, one for each function that is called, in the
order of the calls.
-/
import Mathlib.Data.List.Nodup
import SelfHealing.Proofs.Admissions

namespace SelfHealing

open Interleaving Interleaving.Protocol ReadCommitted

section Logins

variable {scrypt : Scrypt} {db₀ : AuthDb} {p : Nat} {mark : AuthEvent × Int} {before : AuthLog}
  {session : UserSession} {user : User}

/-! ### Logins -/

/-- The user of a name is the one of its identifier. -/
theorem user_of_named {s : AuthDb} (hinv : AuthInv scrypt db₀.user s) {username : String}
    (h : s.userNamed username = some user) :
    user.username = username ∧ s.user user.id = some user := by
  unfold AuthDb.userNamed at h
  unfold AuthDb.user
  refine ⟨by simpa using List.find?_some h, ?_⟩
  have hmem := List.mem_of_find?_eq_some h
  cases hfind : s.users.find? fun other => other.id = user.id with
  | none =>
      rw [List.find?_eq_none] at hfind
      exact absurd (hfind user hmem) (by simp)
  | some other =>
      have hid : other.id = user.id := by simpa using List.find?_some hfind
      rw [List.inj_on_of_nodup_map hinv.owners (List.mem_of_find?_eq_some hfind) hmem hid]

theorem allowLogin_triple (req : LoginRequest) (clientIp : String) :
    (authProtocol scrypt db₀).Triple p (Tidy p) (allowLogin p req clientIp)
      (fun allowed s => allowed = true → ∃ mark : (AuthEvent × Int) × AuthLog,
        mark.1 = (.attempted p req clientIp, mark.1.2) ∧ Marked p mark.1 mark.2 s)
      (fun _ _ => True) := by
  refine triple_stmt (stable_stores _) ?_
  intro s w r s' hinv htidy hf _
  have hinv' : AuthInv scrypt db₀.user s := hinv
  simp only [Option.some.injEq, Prod.mk.injEq] at hf
  obtain ⟨rfl, rfl⟩ := hf
  split
  · rename_i hallowed
    refine ⟨⟨⟨[(.attempted p req clientIp, s.now)], rfl, by simp [AuthEvent.proc]⟩, rfl,
      fun _ => Cell.Step.same _, ?_⟩, fun _ => ?_⟩
    · have hasked : AuthInv scrypt db₀.user { s with rateLimiter :=
          (s.rateLimiter.isAllowed (req.rateKey clientIp) 10 60 s.monotonic).2 } :=
        ⟨hinv'.linked, hinv'.keyed, hinv'.issued, hinv'.ended, hinv'.writers, hinv'.owners,
          hinv'.current, hinv'.times, hinv'.justified⟩
      exact hasked.record trivial (by simp [AuthEvent.proc]) (fun _ _ heq => by cases heq)
    · exact ⟨((.attempted p req clientIp, s.now), s.log), rfl, latest_now p _ _, htidy⟩
  · rename_i hrefused
    refine ⟨⟨quiet p _, rfl, fun _ => Cell.Step.same _, hinv'.linked, hinv'.keyed,
      hinv'.issued, hinv'.ended, hinv'.writers, hinv'.owners, hinv'.current, hinv'.times,
      hinv'.justified⟩, fun hallowed => absurd hallowed hrefused⟩

/-- Of what the transaction stores anew there is this session only. -/
def Storing (p : Nat) (mark : AuthEvent × Int) (before : AuthLog) (session : UserSession)
    (s : AuthDb) : Prop :=
  Latest p mark before s.log ∧ Stores p (· = session) s

theorem stable_storing :
    (authProtocol scrypt db₀).Stable p (Storing p mark before session) := by
  intro s s' hinv h hother
  obtain ⟨new, hnew, hothers⟩ := log_other hother
  exact ⟨hnew ▸ h.1.later hothers, stable_stores _ s s' hinv h.2 hother⟩

theorem createSession_triple (hmark : mark.1.proc = some p) :
    (authProtocol scrypt db₀).Triple p (Marked p mark before) (createSession ⟨p, 0⟩ session)
      (fun row s => row = session ∧ Storing p mark before session s) (fun _ _ => True) := by
  refine triple_authSql (stable_marked mark before) ?_
  intro s r s' hinv hR hf
  simp only at hf
  have hrefused : ∀ e, (Except.error e, s) = (r, s') → AuthAct scrypt db₀ p s s' ∧
      ∀ a, r = .ok a → a = session ∧ Storing p mark before session s' := by
    intro e heq
    obtain ⟨rfl, rfl⟩ := Prod.mk.inj heq
    exact ⟨AuthAct.same hinv, fun a ha => by cases ha⟩
  split at hf
  · exact hrefused _ (Option.some.inj hf)
  split at hf
  · exact hrefused _ (Option.some.inj hf)
  split at hf
  swap
  · cases hf
  rename_i hfree
  split at hf
  · exact hrefused _ (Option.some.inj hf)
  rename_i hnone
  simp only [Option.some.injEq, Prod.mk.injEq] at hf
  obtain ⟨rfl, rfl⟩ := hf
  have hpermitted : Permitted ((s.sessions session.sessionToken).visible ⟨p, 0⟩)
      (some session) := by
    rw [hnone]
    trivial
  have hseen : ∃ e ∈ s.log, e.1.proc = some p := ⟨mark, hR.1.mem List.mem_cons_self, hmark⟩
  refine ⟨⟨quiet p _, rfl, fun other => ?_, hinv.write hfree hpermitted rfl hseen⟩,
    fun a ha => ?_⟩
  · by_cases hother : other = session.sessionToken
    · rw [hother, setSession_self]
      exact Cell.Step.write _ _ hfree hpermitted
    · rw [setSession_ne hother]
      exact Cell.Step.same _
  · cases ha
    refine ⟨rfl, hR.1, ?_⟩
    intro other row vs hown hempty
    by_cases hother : other = session.sessionToken
    · rw [hother, setSession_self, Cell.own_write] at hown
      exact (Option.some.inj (List.cons.inj hown).1).symm
    · rw [setSession_ne hother] at hown hempty
      exact (hR.2 other row vs hown hempty).elim

/-- The session is made now, for eight hours. -/
theorem createUserSession_triple (before : AuthLog) (hmark : mark.1.proc = some p) (started : Int)
    (userId : Nat) (ipAddress userAgent : Option String) :
    (authProtocol scrypt db₀).Triple p (Marked p mark before)
      (createUserSession ⟨p, 0⟩ started userId ipAddress userAgent none)
      (fun session s => (session.userId = userId ∧
        mark.2 + seconds (8 * 3600) ≤ session.expiresAt) ∧
        session.expiresAt ≤ s.now + seconds (8 * 3600) ∧ Storing p mark before session s)
      (fun _ _ => True) := by
  unfold createUserSession
  refine Triple.bind (M := fun _ => Marked p mark before)
    (triple_generateTokens (stable_marked mark before) fun _ _ h => h) (fun tokens => ?_)
  obtain ⟨sessionToken, csrfToken⟩ := tokens
  refine Triple.bind (M := fun now s => mark.2 ≤ now ∧ Marked p mark before s ∧ now ≤ s.now) ?_
    (fun now => ?_)
  · refine triple_authNow (stable_marked mark before) ?_
    intro s hinv hR
    exact ⟨hinv.times mark (hR.1.mem List.mem_cons_self), hR, le_refl _⟩
  refine triple_fact fun hbegan => ?_
  have hnow : (authProtocol scrypt db₀).Lasting p (fun s => now ≤ s.now) :=
    lasting_of_onward fun _ _ hs h => h.trans hs.now
  refine ((createSession_triple hmark).frame hnow).conseq (fun _ _ h => h) ?_
    (fun _ _ _ _ => trivial)
  rintro row s - ⟨⟨rfl, hstoring⟩, hlater⟩
  exact ⟨⟨rfl, Int.add_le_add_right hbegan _⟩, Int.add_le_add_right hlater _, hstoring⟩

/-- A login that may go on stores a session if that is justified. -/
theorem login_triple (production : Bool) (req : LoginRequest) (client userAgent : Option String) :
    (authProtocol scrypt db₀).Triple p (Tidy p) (login scrypt p production req client userAgent)
      (fun _ _ => True) (fun _ _ => True) := by
  unfold login
  refine (allowLogin_triple req (client.getD "unknown")).bind fun allowed => ?_
  cases allowed with
  | false => exact triple_throw _ fun _ _ _ => trivial
  | true =>
  rw [if_pos rfl]
  refine Triple.pre (R := fun s => ∃ mark : (AuthEvent × Int) × AuthLog,
    mark.1 = (.attempted p req (client.getD "unknown"), mark.1.2) ∧ Marked p mark.1 mark.2 s) ?_
    (fun s _ h => h rfl)
  refine triple_exists fun mark => triple_fact fun hmark => ?_
  obtain ⟨mark, before⟩ := mark
  replace hmark : mark = (_, mark.2) := hmark
  have hproc : mark.1.proc = some p := by
    rw [hmark]
    rfl
  refine Triple.bind (M := fun _ _ => True) ?_ (fun r => triple_pure _ fun _ _ _ => trivial)
  -- what is known when the transaction ends
  let Known (r : User × UserSession) (s : AuthDb) : Prop :=
    (r.1.username = req.username ∧
      verifyPassword scrypt req.password r.1.passwordHash = true ∧ r.1.enabled = true ∧
      r.2.userId = r.1.id ∧ mark.2 + seconds (8 * 3600) ≤ r.2.expiresAt) ∧
      Storing p mark before r.2 s ∧ (r.2.expiresAt ≤ s.now + seconds (8 * 3600) ∧
        CurrentSince db₀.user mark before r.1 s.log)
  refine triple_authUnitOfWork (M := Known) (stable_marked mark before) (fun started => ?_)
    (fun r => ?_)
  · refine Triple.bind (M := fun found s => Marked p mark before s ∧ ∀ u, found = some u →
      u.username = req.username ∧ CurrentSince db₀.user mark before u s.log) ?_ (fun found => ?_)
    · refine triple_authSelect (stable_marked mark before) ?_
      intro s hinv hR
      refine ⟨hR, fun u hu => ?_⟩
      obtain ⟨hname, huser⟩ := user_of_named hinv hu
      exact ⟨hname, (current_of_user hinv hR.1 huser).2⟩
    split
    · exact triple_throw _ fun _ _ _ => trivial
    rename_i u hu
    obtain ⟨hfound, hverified⟩ := Option.filter_eq_some_iff.mp hu
    by_cases henabled : u.enabled = true
    swap
    · rw [if_neg henabled]
      exact triple_throw _ fun _ _ _ => trivial
    rw [if_pos henabled]
    refine Triple.pre (R := fun s => u.username = req.username ∧ (Marked p mark before s ∧
      CurrentSince db₀.user mark before u s.log)) ?_
      (fun s _ h => ⟨(h.2 u hfound).1, h.1, (h.2 u hfound).2⟩)
    refine triple_fact fun hname => ?_
    have hcurrent : (authProtocol scrypt db₀).Lasting p
        (fun s => CurrentSince db₀.user mark before u s.log) := lasting_current
    refine Triple.bind (((createUserSession_triple before hproc started u.id
      (some (client.getD "unknown")) userAgent).frame hcurrent).conseq (fun _ _ h => h)
        (fun _ _ _ h => h) (fun _ _ _ _ => trivial)) (fun session => triple_pure _ fun s _ h => ?_)
    obtain ⟨⟨⟨howner, hbegan⟩, hlater, hstoring⟩, hnow⟩ := h
    exact ⟨⟨hname, hverified, henabled, howner, hbegan⟩, hstoring, hlater, hnow⟩
  · refine triple_fact fun hfacts => ?_
    have hnow : (authProtocol scrypt db₀).Lasting p
        (fun s => r.2.expiresAt ≤ s.now + seconds (8 * 3600)) :=
      lasting_of_onward fun _ _ hs h => h.trans (Int.add_le_add_right hs.now _)
    refine triple_authCommit (stable_storing.and (hnow.and lasting_current).others)
      (by simp [AuthEvent.proc]) ?_
    intro s hinv h
    obtain ⟨hname, hverified, henabled, howner, hbegan⟩ := hfacts
    obtain ⟨⟨hlog, hstores⟩, hlater, hcurrent⟩ := h
    refine ⟨?_, trivial⟩
    -- the event is in the history when the session is there for all to see
    have hrecorded : AuthInv scrypt db₀.user (s.record [.loggedIn p r.1 r.2]) := by
      refine hinv.record ⟨⟨req, client.getD "unknown", mark.2, before, ?_, hname.symm, hverified,
        hbegan, ?_⟩, henabled, howner, hlater⟩ (by simp [AuthEvent.proc])
        (fun _ _ heq => by cases heq)
      · rw [← hmark]
        exact hlog
      · rw [← hmark]
        exact hcurrent
    refine AuthInv.commit (t := ⟨p, 0⟩) hrecorded fun token row vs hown hempty => ?_
    rw [hstores token row vs hown hempty]
    exact ⟨p, r.1, r.2, s.now, List.mem_cons_self, rfl, rfl, rfl, rfl⟩

/-! ### Logouts -/

/-- The session is revoked as soon as the transaction ends. -/
def Revoking (p : Nat) (token : String) (s : AuthDb) : Prop :=
  ∃ row vs, (s.sessions token).own ⟨p, 0⟩ = some row :: vs ∧ row.isRevoked = true

theorem stable_revoking (token : String) :
    (authProtocol scrypt db₀).Stable p (Revoking p token) := by
  intro s s' _ h hother
  unfold Revoking
  rw [own_other hother]
  exact h

theorem revokeSessionRow_triple :
    (authProtocol scrypt db₀).Triple p
      (fun s => Tidy p s ∧ LetIn p logoutEndpoint user session s)
      (revokeSessionRow ⟨p, 0⟩ session.sessionToken)
      (fun _ s => (Tidy p s ∧ Revoking p session.sessionToken s) ∧
        LetIn p logoutEndpoint user session s) (fun _ _ => True) := by
  refine triple_authSql ((stable_stores _).and lasting_letIn.others) ?_
  intro s r s' hinv hR hf
  simp only at hf
  obtain ⟨htidy, hin⟩ := hR
  obtain ⟨row, hrow⟩ := hinv.visible (t := (⟨p, 0⟩ : TxId)) hin.stored.ne_nil
  simp only [hrow] at hf
  split at hf
  swap
  · cases hf
  rename_i hfree
  simp only [Option.some.injEq, Prod.mk.injEq] at hf
  obtain ⟨rfl, rfl⟩ := hf
  have hpermitted : Permitted ((s.sessions session.sessionToken).visible ⟨p, 0⟩)
      (some { row with isRevoked := true }) := by
    rw [hrow]
    exact ⟨⟨rfl, rfl, rfl, rfl⟩, fun _ => rfl⟩
  have hkey : row.sessionToken = session.sessionToken :=
    hinv.keyed _ row (Cell.mem_chain_of_view (Cell.visible_mem hrow))
  obtain ⟨xCsrfToken, τ, hseen⟩ := hin.seen
  have hact : AuthAct scrypt db₀ p s (s.setSession session.sessionToken
      ((s.sessions session.sessionToken).write ⟨p, 0⟩ (some { row with isRevoked := true }))) := by
    refine ⟨quiet p _, rfl, fun other => ?_,
      hinv.write hfree hpermitted hkey ⟨_, hseen, rfl⟩⟩
    by_cases hother : other = session.sessionToken
    · rw [hother, setSession_self]
      exact Cell.Step.write _ _ hfree hpermitted
    · rw [setSession_ne hother]
      exact Cell.Step.same _
  refine ⟨hact, fun a _ => ⟨⟨?_, ?_⟩, lasting_letIn.own _ _ hinv hin hact trivial⟩⟩
  · intro other row' vs hown hempty
    by_cases hother : other = session.sessionToken
    · rw [hother, setSession_self, Cell.write_versions] at hempty
      exact hin.stored.ne_nil hempty
    · rw [setSession_ne hother] at hown hempty
      exact htidy other row' vs hown hempty
  · refine ⟨{ row with isRevoked := true }, (s.sessions session.sessionToken).own ⟨p, 0⟩, ?_, rfl⟩
    rw [setSession_self, Cell.own_write]

theorem logout_triple (cookie xCsrfToken : Option String) :
    (authProtocol scrypt db₀).Triple p (Tidy p) (logout p cookie xCsrfToken)
      (fun _ _ => True) (fun _ _ => True) := by
  unfold logout
  refine (enterEndpoint_triple logoutEndpoint cookie xCsrfToken).bind fun r => ?_
  obtain ⟨user, session⟩ := r
  refine Triple.bind (M := fun _ _ => True) ?_ (fun _ => triple_pure _ fun _ _ _ => trivial)
  refine triple_authUnitOfWork ((stable_stores _).and lasting_letIn.others)
    (fun _ => revokeSessionRow_triple) (fun _ => ?_)
  refine triple_authCommit
    (((stable_stores _).and (stable_revoking _)).and lasting_letIn.others)
    (by simp [AuthEvent.proc]) ?_
  intro s hinv h
  obtain ⟨⟨htidy, row, vs, hown, hrevoked⟩, hin⟩ := h
  refine ⟨?_, trivial⟩
  have hcommitted : AuthInv scrypt db₀.user (s.commit ⟨p, 0⟩) :=
    hinv.commit fun token row vs hown hempty => (htidy token row vs hown hempty).elim
  obtain ⟨xCsrfToken, τ, hseen⟩ := hin.seen
  refine hcommitted.record ⟨p, xCsrfToken, user, session, τ, hseen, rfl⟩
    (by simp [AuthEvent.proc]) ?_
  intro q token heq
  obtain ⟨-, rfl⟩ := AuthEvent.revoked.inj heq
  exact ⟨row, (Cell.commit_of_own hown).1, hrevoked⟩

/-! ### The stream

A stream lasts longer than a request, and its session may be revoked meanwhile.  It looks at its
session and its user again in every round, and what it sends in a round is justified by the look in
that round; what it has found at the beginning is not used any more.
-/

/-- The user is the owner of the session under this token. -/
def OwnsSession (user : User) (token : String) (s : AuthDb) : Prop :=
  ∃ session, StoredUnder token session s ∧ user.id = session.userId

theorem lasting_owns (token : String) :
    (authProtocol scrypt db₀).Lasting p (OwnsSession user token) :=
  lasting_of_onward fun _ _ hs h => by
    obtain ⟨session, hstored, howner⟩ := h
    exact ⟨session, hstored.onward hs, howner⟩

/-- What a round that finds all in order knows. -/
def Good (users : Nat → Option User) (mark : AuthEvent × Int) (before : AuthLog) (user : User)
    (token : String) (s : AuthDb) : Prop :=
  ∃ session u, Valid mark before token session s ∧ u.id = user.id ∧ u.enabled = true ∧
    CurrentSince users mark before u s.log

theorem lasting_good (token : String) :
    (authProtocol scrypt db₀).Lasting p (Good db₀.user mark before user token) :=
  lasting_of_onward fun _ _ hs h => by
    obtain ⟨session, u, hvalid, hid, henabled, hcurrent⟩ := h
    exact ⟨session, u, hvalid.onward hs, hid, henabled, hcurrent.later hs.log⟩

theorem revalidate_triple (hproc : mark.1.proc = some p) (token : String) :
    (authProtocol scrypt db₀).Triple p (Marked p mark before) (revalidate p user token)
      (fun valid s => Marked p mark before s ∧
        (valid = true → Good db₀.user mark before user token s)) (fun _ _ => True) := by
  unfold revalidate
  refine validateSession_triple.bind fun valid => ?_
  cases valid with
  | none =>
      refine Triple.bind (M := fun _ => Marked p mark before) ?_
        (fun _ => triple_pure _ fun s _ h => ⟨h, fun hfalse => by cases hfalse⟩)
      exact Triple.pre (R := Marked p mark before)
        (triple_authSelect (stable_marked mark before) fun _ _ h => h) fun _ _ h => h.1
  | some pair =>
      obtain ⟨loaded, session⟩ := pair
      refine Triple.pre (R := fun s => loaded.sessionToken = token ∧ (Marked p mark before s ∧
        Valid mark before token session s)) ?_
        (fun s _ h => ⟨(h.2 loaded session rfl).1, h.1, (h.2 loaded session rfl).2⟩)
      refine triple_fact fun hkey => ?_
      -- what is known of the user that was read
      let Read (u : Option User) (s : AuthDb) : Prop := Valid mark before token session s ∧
        ∀ v, u = some v → v.id = user.id ∧ CurrentSince db₀.user mark before v s.log
      have hread : ∀ u, (authProtocol scrypt db₀).Lasting p (Read u) :=
        fun u => lasting_of_onward fun _ _ hs h =>
          ⟨h.1.onward hs, fun v hv => ⟨(h.2 v hv).1, (h.2 v hv).2.later hs.log⟩⟩
      refine Triple.bind (M := fun u s => Marked p mark before s ∧ Read u s) ?_ (fun u => ?_)
      · refine triple_authSelect ((stable_marked mark before).and lasting_valid.others) ?_
        exact fun s hinv hR => ⟨hR.1, hR.2, fun v hv => current_of_user hinv hR.1.1 hv⟩
      refine Triple.bind (M := fun _ s => Marked p mark before s ∧ Read u s) ?_
        (fun _ => triple_pure _ fun s _ h => ⟨h.1, fun hany => ?_⟩)
      · refine ((flushSession_triple before session hproc hkey).frame
          (hread u)).conseq ?_ (fun _ _ _ h => h) (fun _ _ _ _ => trivial)
        exact fun s _ h => ⟨⟨h.1, h.2.1.stored.ne_nil⟩, h.2⟩
      · cases u with
        | none => cases hany
        | some v => exact ⟨session, v, h.2.1, (h.2.2 v rfl).1, hany, (h.2.2 v rfl).2⟩

/-- What a round has found out when its transaction ends. -/
def LookedAgain (users : Nat → Option User) (p : Nat) (mark : AuthEvent × Int) (before : AuthLog)
    (user : User) (token : String) (valid : Bool) (s : AuthDb) : Prop :=
  Marked p mark before s ∧ (valid = true → Good users mark before user token s)

theorem streamBlock_triple (hproc : mark.1.proc = some p) (actor token : String) :
    (authProtocol scrypt db₀).Triple p (Marked p mark before)
      (authUnitOfWork ⟨p, 0⟩ actor fun _ => revalidate p user token)
      (LookedAgain db₀.user p mark before user token) (fun _ _ => True) := by
  have hbody : (authProtocol scrypt db₀).Triple p (Marked p mark before)
      (revalidate p user token) (LookedAgain db₀.user p mark before user token) (fun _ _ => True) :=
    revalidate_triple hproc token
  refine triple_authUnitOfWork (stable_marked mark before) (fun _ => hbody) (fun valid => ?_)
  have hgood : (authProtocol scrypt db₀).Lasting p
      (fun s => valid = true → Good db₀.user mark before user token s) :=
    ⟨fun s s' hinv h hother hvalid => (lasting_good token).others s s' hinv (h hvalid) hother,
      fun s s' hinv h hguar hadm hvalid =>
        (lasting_good token).own s s' hinv (h hvalid) hguar hadm⟩
  exact ((commit_tidy mark before).frame hgood).conseq (fun _ _ h => h)
    (fun _ _ _ h => h) (fun _ _ _ _ => trivial)

/-- A round that finds all in order knows that a snapshot is justified. -/
theorem streamRound_triple {token : String} (hmark : mark = (.ticked p token, mark.2)) :
    (authProtocol scrypt db₀).Triple p (fun s => Marked p mark before s ∧ OwnsSession user token s)
      (authUnitOfWork ⟨p, 0⟩ "system:console-stream" fun _ => revalidate p user token)
      (fun valid s => (Tidy p s ∧ OwnsSession user token s) ∧
        (valid = true → SnapshotJustified db₀.user p token s.log)) (fun _ _ => True) := by
  have hproc : mark.1.proc = some p := by
    rw [hmark]
    rfl
  refine ((streamBlock_triple hproc "system:console-stream" token).frame
    (lasting_owns token)).conseq (fun _ _ h => h) ?_ (fun _ _ _ _ => trivial)
  intro valid s hinv h
  refine ⟨⟨h.1.1.2, h.2⟩, fun hvalid => ?_⟩
  obtain ⟨session, u, hsession, hid, henabled, hcurrent⟩ := h.1.2 hvalid
  obtain ⟨other, hstored, howner⟩ := h.2
  have hsame := hstored.same hsession.stored hinv
  refine ⟨mark.2, before, u, session, ?_, hsession.unrevoked, hsession.key, hsession.issued, ?_,
    ?_, henabled, ?_⟩
  · rw [← hmark]
    exact h.1.1.1
  · exact lt_of_le_of_lt hsession.began hsession.unexpired
  · rw [hid, howner, hsame.userId]
  · rw [← hmark]
    exact hcurrent

theorem streamTick_triple (token : String) :
    (authProtocol scrypt db₀).Triple p (fun s => Tidy p s ∧ OwnsSession user token s)
      (streamTick p user token)
      (fun valid s => (Tidy p s ∧ OwnsSession user token s) ∧
        (valid = true → SnapshotJustified db₀.user p token s.log)) (fun _ _ => True) := by
  unfold streamTick
  refine Triple.bind (M := fun _ s => ∃ mark : (AuthEvent × Int) × AuthLog,
    mark.1 = (.ticked p token, mark.1.2) ∧ (Marked p mark.1 mark.2 s ∧ OwnsSession user token s)) ?_
    (fun _ => ?_)
  · refine triple_authObserve ((stable_stores _).and (lasting_owns token).others)
      (by simp [AuthEvent.proc]) (by simp) ?_
    intro s hinv h
    exact ⟨trivial, ((.ticked p token, s.now), s.log), rfl, ⟨latest_now p _ _, h.1⟩, h.2⟩
  exact triple_exists fun mark => triple_fact fun hmark => streamRound_triple hmark

theorem stable_snapshot (token : String) :
    (authProtocol scrypt db₀).Stable p (fun s => SnapshotJustified db₀.user p token s.log) := by
  intro s s' hinv h hother
  obtain ⟨began, past, u, session, hlatest, hunrevoked, hkey, hissued, hrest, hid, henabled,
    hcurrent⟩ := h
  obtain ⟨new, hnew, hothers⟩ := log_other hother
  have hlog := (onward_other hother).log
  exact ⟨began, past, u, session, hnew ▸ hlatest.later hothers, hunrevoked, hkey,
    hissued.later hlog, hrest, hid, henabled, hcurrent.later hlog⟩

theorem streamEvents_triple (token : String) (rounds : Nat) :
    (authProtocol scrypt db₀).Triple p (fun s => Tidy p s ∧ OwnsSession user token s)
      (streamEvents p user token rounds) (fun _ _ => True) (fun _ _ => True) := by
  induction rounds with
  | zero => exact triple_pure () fun _ _ _ => trivial
  | succ rounds ih =>
      unfold streamEvents
      refine (streamTick_triple token).bind fun valid => ?_
      cases valid with
      | false => exact triple_pure () fun _ _ _ => trivial
      | true =>
          refine Triple.bind (M := fun _ s => Tidy p s ∧ OwnsSession user token s) ?_ (fun _ => ih)
          refine Triple.pre (R := fun s => (Tidy p s ∧ OwnsSession user token s) ∧
            SnapshotJustified db₀.user p token s.log) ?_ (fun s _ h => ⟨h.1, h.2 rfl⟩)
          refine triple_authObserve (((stable_stores _).and (lasting_owns token).others).and
            (stable_snapshot token)) (by simp [AuthEvent.proc]) (by simp) ?_
          exact fun s hinv h => ⟨h.2, h.1.1, h.1.2⟩

theorem stream_triple (cookie : Option String) (rounds : Nat) :
    (authProtocol scrypt db₀).Triple p (Tidy p) (stream p cookie rounds)
      (fun _ _ => True) (fun _ _ => True) := by
  unfold stream
  refine (enterEndpoint_triple streamEndpoint cookie none).bind fun r => ?_
  obtain ⟨user, session⟩ := r
  refine (streamEvents_triple session.sessionToken rounds).pre ?_
  exact fun s _ h => ⟨h.1, session, h.2.stored, h.2.owner⟩

end Logins

end SelfHealing
