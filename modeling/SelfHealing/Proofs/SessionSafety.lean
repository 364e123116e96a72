/-
Nobody gets in who should not.

Every task keeps to the protocol of the sessions, so in every run what is seen was justified when it
was seen.  What follows for a browser: whoever is let in has logged in less than eight hours ago
and has not logged out before the request came in, and a request that changes something carries the
token of its own session.  A stream of snapshots stops after the one that was under way when its
session was revoked.

The results are read off the invariant: an event that is seen was justified, and what a
justification says of the past is part of the history.
-/
import SelfHealing.Proofs.Logins
import SelfHealing.Proofs.Passwords

namespace SelfHealing

open Interleaving Interleaving.Protocol ReadCommitted

section Verified

variable {scrypt : Scrypt} {db₀ : AuthDb} {p : Nat}

theorem task_triple (task : AuthTask) :
    (authProtocol scrypt db₀).Triple p (Tidy p) (task.prog scrypt p)
      (fun _ _ => True) (fun _ _ => True) := by
  cases task with
  | login production req client userAgent =>
      exact (login_triple production req client userAgent).bind fun _ =>
        triple_pure () fun _ _ _ => trivial
  | logout cookie xCsrfToken =>
      exact (logout_triple cookie xCsrfToken).bind fun _ => triple_pure () fun _ _ _ => trivial
  | stream cookie rounds => exact stream_triple cookie rounds
  | request endpoint cookie xCsrfToken =>
      exact (enterEndpoint_triple endpoint cookie xCsrfToken).bind fun _ =>
        triple_pure () fun _ _ _ => trivial

theorem authProtocol_verified : (authProtocol scrypt db₀).Verified := by
  intro p task s hinv hready
  exact (task_triple task).ends hinv (tidy_of_unseen hinv hready)

theorem AuthInv.initial (h : db₀.Initial) : AuthInv scrypt db₀.user db₀ where
  linked token := by
    rw [h.sessions]
    trivial
  keyed token row hrow := by
    rw [h.sessions] at hrow
    cases hrow
  issued token row hrow := by
    rw [h.sessions] at hrow
    cases hrow
  ended q token τ hmem := by
    rw [h.log] at hmem
    cases hmem
  writers token t hlocked := by
    rw [h.sessions] at hlocked
    obtain ⟨vs, hvs⟩ := hlocked
    cases hvs
  owners := h.users
  current id := by
    rw [h.log]
    rfl
  times e he := by
    rw [h.log] at he
    cases he
  justified e τ earlier hs := by
    rw [h.log] at hs
    cases List.suffix_nil.mp hs

/-- What is seen in a run was justified when it was seen. -/
theorem justified_of_reaches (h₀ : db₀.Initial) {c : Config AuthWorld AuthDb}
    (hr : Reaches (authMachine scrypt) (Config.idle db₀) c) {e : AuthEvent} {τ : Int}
    {earlier : AuthLog} (hlog : ((e, τ) :: earlier) <:+ c.state.log) :
    Justified scrypt db₀.user τ earlier e :=
  (inv_of_reaches authProtocol_verified (AuthInv.initial h₀) hr).justified e τ earlier hlog

end Verified

/-! ### What the guards ask for -/

section Guards

variable {method : String} {xCsrfToken : Option String} {user : User} {session : UserSession}

theorem compareDigest_ok {a b : String} (h : compareDigest a b = .ok true) : a = b := by
  unfold compareDigest at h
  split at h
  · simpa using h
  · cases h

theorem requireCsrf_ok (hmethod : method ∈ unsafeMethods)
    (h : requireCsrf method session xCsrfToken = .ok ()) : xCsrfToken = some session.csrfToken := by
  unfold requireCsrf at h
  rw [if_pos hmethod] at h
  split at h
  · cases h
  · rename_i token htoken
    obtain ⟨rfl, -⟩ := Option.filter_eq_some_iff.mp htoken
    cases hsame : compareDigest token session.csrfToken with
    | error e =>
        rw [hsame] at h
        cases h
    | ok same =>
        rw [hsame] at h
        cases same with
        | true => rw [compareDigest_ok hsame]
        | false => cases h

theorem roleRanks_lookup (role : UserRole) : ∃ rank, roleRanks.lookup role = some rank := by
  cases role <;> exact ⟨_, rfl⟩

/-- The role of the user does not rank below the one asked for. -/
theorem requireRole_ok {minimumRole : UserRole} (h : requireRole minimumRole user = .ok ()) :
    ∃ asked held, roleRanks.lookup minimumRole = some asked ∧
      roleRanks.lookup user.role = some held ∧ asked ≤ held := by
  obtain ⟨asked, hasked⟩ := roleRanks_lookup minimumRole
  obtain ⟨held, hheld⟩ := roleRanks_lookup user.role
  refine ⟨asked, held, hasked, hheld, ?_⟩
  unfold requireRole at h
  simp only [hasked, hheld, Option.getD_some] at h
  split at h
  · cases h
  · omega

theorem checkGuards_ok {guards : List Guard} {guard : Guard} (hmem : guard ∈ guards)
    (h : checkGuards method xCsrfToken user session guards = .ok ()) :
    guard.check method xCsrfToken user session = .ok () := by
  induction guards with
  | nil => cases hmem
  | cons first rest ih =>
      unfold checkGuards at h
      cases hfirst : first.check method xCsrfToken user session with
      | error e =>
          rw [hfirst] at h
          cases h
      | ok _ =>
          rw [hfirst] at h
          rcases List.mem_cons.mp hmem with rfl | hrest
          · exact hfirst
          · exact ih hrest h

/-- Every endpoint that changes something asks for the token of the session. -/
theorem csrf_of_method : ∀ endpoint ∈ endpoints, endpoint.method ∈ unsafeMethods →
    Guard.csrf ∈ endpoint.guards := by
  decide

end Guards

/-! ### Over a run

What was justified when it was seen is turned into times and events.  A justification is about the
history up to then, and the history of a run is a list that only grows; so it can be said of the
whole run, with the order of the events in it.
-/

section Runs

variable {scrypt : Scrypt} {db₀ : AuthDb} {c : Config AuthWorld AuthDb}

/-- **A login is answered only if the password was right**: the limiter let it pass, and since then
its user was enabled and had the password it was checked against. -/
theorem logins_justified (h₀ : db₀.Initial)
    (hr : Reaches (authMachine scrypt) (Config.idle db₀) c) {p : Nat} {user : User}
    {session : UserSession} {τ : Int} {earlier : AuthLog}
    (hlog : ((.loggedIn p user session, τ) :: earlier) <:+ c.state.log) :
    LoginJustified scrypt db₀.user p user session τ earlier :=
  justified_of_reaches h₀ hr hlog

/-- Ada, whose password is "secret". -/
def ada : User := ⟨1, "ada", "scrypt$16384$8$1$0aff$736563726574", .admin, true⟩

/-- Ada is known, and nobody is logged in. -/
def adaDb : AuthDb := { now := 0, monotonic := 0, users := [ada] }

theorem adaDb_initial : adaDb.Initial := ⟨by decide, fun _ => rfl, rfl, rfl⟩

/-- The session that Ada is given. -/
def adaSession : UserSession :=
  { sessionToken := "t", userId := 1, expiresAt := seconds (8 * 3600), lastAccessedAt := 0,
    csrfToken := "c", ipAddress := some "unknown" }

/-- Ada logs in. -/
def adaLogin : List (Move AuthWorld AuthTask AuthEnv) :=
  .start 1 (.login true ⟨"ada", "secret"⟩ none none) ::
    List.replicate 7 (.run 1 { sessionToken := "t", csrfToken := "c" })

def adaAttempt : AuthEvent × Int := (.attempted 1 ⟨"ada", "secret"⟩ "unknown", 0)

theorem logins_justified_ada : ∃ c : Config AuthWorld AuthDb,
    Reaches (authMachine plainScrypt) (Config.idle adaDb) c ∧
      ((.loggedIn 1 ada adaSession, 0) :: [adaAttempt]) <:+ c.state.log ∧
      LoginJustified plainScrypt adaDb.user 1 ada adaSession 0 [adaAttempt] := by
  obtain ⟨c, hr, htest⟩ := Machine.reaches_of_exec (authMachine plainScrypt) (Config.idle adaDb)
    adaLogin (fun db => decide (db.log = [(.loggedIn 1 ada adaSession, 0), adaAttempt]))
    (by decide +kernel)
  have hlog : ((.loggedIn 1 ada adaSession, 0) :: [adaAttempt]) <:+ c.state.log := by
    rw [of_decide_eq_true htest]
  exact ⟨c, hr, hlog, logins_justified adaDb_initial hr hlog⟩

/-- What entitles a request to what it is let in to, beside what it has found out itself. -/
structure Entitled (scrypt : Scrypt) (users : Nat → Option User) (p : Nat) (endpoint : Endpoint)
    (xCsrfToken : Option String) (user : User) (session : UserSession) (τ : Int)
    (earlier : AuthLog) : Prop
    extends AdmissionJustified users p endpoint xCsrfToken user session τ earlier where
  login : ∃ q owner login τ' past, ((AuthEvent.loggedIn q owner login, τ') :: past) <:+ earlier ∧
    LoginJustified scrypt users q owner login τ' past ∧ SameSession login session ∧
      owner.id = user.id ∧ session.lastAccessedAt < τ' + seconds (8 * 3600)
  csrf : endpoint ∈ endpoints → endpoint.method ∈ unsafeMethods →
    xCsrfToken = some session.csrfToken
  role : ∀ minimumRole, Guard.role minimumRole ∈ endpoint.guards →
    ∃ asked held, roleRanks.lookup minimumRole = some asked ∧
      roleRanks.lookup user.role = some held ∧ asked ≤ held

/-- **Whoever is let in is entitled to it**, in every run of any number of logins, logouts, streams
and requests that goes on while users are changed. -/
theorem admissions_entitled (h₀ : db₀.Initial)
    (hr : Reaches (authMachine scrypt) (Config.idle db₀) c) {p : Nat} {endpoint : Endpoint}
    {xCsrfToken : Option String} {user : User} {session : UserSession} {τ : Int} {earlier : AuthLog}
    (hlog : ((.admitted p endpoint xCsrfToken user session, τ) :: earlier) <:+ c.state.log) :
    Entitled scrypt db₀.user p endpoint xCsrfToken user session τ earlier := by
  have hadmitted : AdmissionJustified db₀.user p endpoint xCsrfToken user session τ earlier :=
    justified_of_reaches h₀ hr hlog
  refine ⟨hadmitted, ?_, fun hmem hmethod => ?_, fun minimumRole hmem => ?_⟩
  · obtain ⟨q, owner, login, τ', hmem, hsame⟩ := hadmitted.issued
    obtain ⟨newer, past, rfl⟩ := List.append_of_mem hmem
    have hsuffix : ((AuthEvent.loggedIn q owner login, τ') :: past) <:+
        newer ++ (AuthEvent.loggedIn q owner login, τ') :: past := List.suffix_append _ _
    have hlogin := logins_justified h₀ hr
      (hsuffix.trans ((List.suffix_cons _ _).trans hlog))
    refine ⟨q, owner, login, τ', past, hsuffix, hlogin, hsame, ?_, ?_⟩
    · rw [hadmitted.owner, hsame.userId, hlogin.owner]
    · have hexpires := hlogin.expires
      rw [← hsame.expires] at hexpires
      exact lt_of_lt_of_le hadmitted.unexpired hexpires
  · exact requireCsrf_ok hmethod (checkGuards_ok (csrf_of_method endpoint hmem hmethod)
      hadmitted.guards)
  · exact requireRole_ok (checkGuards_ok hmem hadmitted.guards)

def modeEndpoint : Endpoint :=
  ⟨"POST", "/api/v1/automation/mode", [.csrf, .role .admin]⟩

/-- Ada's session, an hour later. -/
def adaLater : UserSession := { adaSession with lastAccessedAt := seconds 3600 }

/-- What has been seen when Ada is let in. -/
def adaSeen : AuthLog :=
  [(.received 2 (some "t"), seconds 3600), (.loggedIn 1 ada adaSession, 0), adaAttempt]

theorem admissions_entitled_ada : ∃ c : Config AuthWorld AuthDb,
    Reaches (authMachine plainScrypt) (Config.idle adaDb) c ∧
      ((.admitted 2 modeEndpoint (some "c") ada adaLater, seconds 3600) :: adaSeen) <:+
        c.state.log ∧
      Entitled plainScrypt adaDb.user 2 modeEndpoint (some "c") ada adaLater (seconds 3600)
        adaSeen := by
  obtain ⟨c, hr, htest⟩ := Machine.reaches_of_exec (authMachine plainScrypt) (Config.idle adaDb)
    (adaLogin ++ .env (.tick (3600 * 1000000)) ::
      .start 2 (.request modeEndpoint (some "t") (some "c")) :: List.replicate 8 (.run 2 {}))
    (fun db => decide (db.log =
      (.admitted 2 modeEndpoint (some "c") ada adaLater, seconds 3600) :: adaSeen))
    (by decide +kernel)
  have hlog : ((.admitted 2 modeEndpoint (some "c") ada adaLater, seconds 3600) :: adaSeen) <:+
      c.state.log := by
    rw [of_decide_eq_true htest]
  exact ⟨c, hr, hlog, admissions_entitled adaDb_initial hr hlog⟩

/-- Who is served on which session. -/
def AuthEvent.served : AuthEvent → Option (Nat × String)
  | .admitted p _ _ _ session => some (p, session.sessionToken)
  | .snapshot p sessionToken => some (p, sessionToken)
  | _ => none

/-- What is known to have been the latest event by then is later than what is not before it. -/
theorem Latest.quiet_since {p : Nat} {mark gone : AuthEvent × Int} {before log since past : AuthLog}
    (h : Latest p mark before log) (hlog : log = since ++ gone :: past) (hne : gone ≠ mark)
    (hbefore : gone ∉ before) : ∀ e ∈ since, e.1.proc ≠ some p := by
  obtain ⟨recent, rfl, hrecent⟩ := h
  rcases List.append_eq_append_iff.mp hlog with ⟨rest, rfl, hrest⟩ | ⟨rest, rfl, hrest⟩
  · cases rest with
    | nil => exact absurd (List.cons.inj hrest).1.symm hne
    | cons e rest =>
        rw [(List.cons.inj hrest).2] at hbefore
        simp at hbefore
  · exact fun e he => hrecent e (List.mem_append_left _ he)

/-- **A logout ends its session**: whoever is served on it afterwards has done nothing since.  So a
request that is let in had come in before, and a stream sends one snapshot more at most. -/
theorem logout_ends_session (h₀ : db₀.Initial)
    (hr : Reaches (authMachine scrypt) (Config.idle db₀) c) {p q : Nat} {e : AuthEvent}
    {token : String} {τ τ' : Int} {since past : AuthLog} (hserved : e.served = some (p, token))
    (hlog : ((e, τ) :: (since ++ (.revoked q token, τ') :: past)) <:+ c.state.log) :
    ∀ e' ∈ since, e'.1.proc ≠ some p := by
  have hjustified := justified_of_reaches h₀ hr hlog
  cases e with
  | admitted p' endpoint xCsrfToken user session =>
      obtain ⟨rfl, rfl⟩ := Prod.mk.inj (Option.some.inj hserved)
      obtain ⟨began, before, hlatest, hunrevoked, -⟩ := AdmissionJustified.request hjustified
      exact hlatest.quiet_since rfl (by simp) (hunrevoked q τ')
  | snapshot p' sessionToken =>
      obtain ⟨rfl, rfl⟩ := Prod.mk.inj (Option.some.inj hserved)
      obtain ⟨began, before, user, session, hlatest, hunrevoked, -⟩ := hjustified
      exact hlatest.quiet_since rfl (by simp) (hunrevoked q τ')
  | _ => cases hserved

/-- What has been seen when Ada has logged out, while another request of hers was under way. -/
def adaGone : AuthLog :=
  [(.revoked 3 "t", 0), (.admitted 3 logoutEndpoint (some "c") ada adaSession, 0),
    (.received 3 (some "t"), 0), (.received 2 (some "t"), 0), (.loggedIn 1 ada adaSession, 0),
    adaAttempt]

/-- The request is let in after the logout, but nothing has come of it in between. -/
theorem logout_ends_session_ada : ∃ c : Config AuthWorld AuthDb,
    Reaches (authMachine plainScrypt) (Config.idle adaDb) c ∧
      ((.admitted 2 modeEndpoint (some "c") ada adaSession, 0) ::
        ([(.userSet ada, 0)] ++ adaGone)) <:+ c.state.log ∧
      ∀ e' ∈ [((.userSet ada, 0) : AuthEvent × Int)], e'.1.proc ≠ some 2 := by
  obtain ⟨c, hr, htest⟩ := Machine.reaches_of_exec (authMachine plainScrypt) (Config.idle adaDb)
    (adaLogin ++
      .start 2 (.request modeEndpoint (some "t") (some "c")) :: List.replicate 3 (.run 2 {}) ++
      .start 3 (.logout (some "t") (some "c")) :: List.replicate 10 (.run 3 {}) ++
      .env (.setUser ada) :: List.replicate 4 (.run 2 {}))
    (fun db => decide (db.log = (.admitted 2 modeEndpoint (some "c") ada adaSession, 0) ::
      ([(.userSet ada, 0)] ++ adaGone)))
    (by decide +kernel)
  have hlog : ((.admitted 2 modeEndpoint (some "c") ada adaSession, 0) ::
      ([(.userSet ada, 0)] ++ adaGone)) <:+ c.state.log := by
    rw [of_decide_eq_true htest]
  exact ⟨c, hr, hlog, logout_ends_session adaDb_initial hr (p := 2) (q := 3) rfl hlog⟩

end Runs

end SelfHealing
