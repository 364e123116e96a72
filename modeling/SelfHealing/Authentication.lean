/-
Logging in, and who may do what.

A login checks a password and stores a session, which is known by a token that only the browser is
given.  A request is let in if its token is that of a session which is neither revoked nor over,
and its user may do what is asked for.  A logout revokes the session of the request it comes with.

Sessions are rows that several requests may write at once: a request notes the time on the session
it was let in with, while another may revoke it.  Nothing in the program writes users; they change
from outside.  The processes are the requests of one server, which share its limiter.
-/
import SelfHealing.Database
import SelfHealing.Passwords
import SelfHealing.RateLimiter

namespace SelfHealing

open Interleaving ReadCommitted

/-! ### Records -/

inductive UserRole
  | viewer
  | operator
  | approver
  | admin
deriving DecidableEq, Repr

def UserRole.value : UserRole → String
  | .viewer => "viewer"
  | .operator => "operator"
  | .approver => "approver"
  | .admin => "admin"

structure User where
  id : Nat
  username : String
  passwordHash : String
  role : UserRole
  enabled : Bool := true
deriving DecidableEq, Repr

structure UserSession where
  sessionToken : String
  userId : Nat
  expiresAt : Int
  lastAccessedAt : Int
  isRevoked : Bool := false
  csrfToken : String
  ipAddress : Option String := none
  userAgent : Option String := none
deriving DecidableEq, Repr

/-- The values fit into their columns. -/
def UserSession.fits (session : UserSession) : Bool :=
  decide (session.sessionToken.length ≤ 64) && decide (session.csrfToken.length ≤ 64) &&
    session.ipAddress.all (fun ip => decide (ip.length ≤ 64)) &&
    session.userAgent.all (fun agent => decide (agent.length ≤ 256))

/-! ### Endpoints -/

/-- What an endpoint asks of a request, beside its session. -/
inductive Guard
  | csrf
  | role (minimumRole : UserRole)
deriving DecidableEq, Repr

/-- A method, a path, and what is asked for, in the order of the dependencies. -/
structure Endpoint where
  method : String
  path : String
  guards : List Guard
deriving DecidableEq, Repr

/-- The endpoints that want a session. -/
def endpoints : List Endpoint :=
  [⟨"POST", "/api/v1/auth/logout", [.csrf]⟩,
    ⟨"GET", "/api/v1/auth/me", []⟩,
    ⟨"GET", "/api/v1/automation", [.role .viewer]⟩,
    ⟨"POST", "/api/v1/automation/mode", [.csrf, .role .admin]⟩,
    ⟨"POST", "/api/v1/automation/emergency-stop", [.csrf, .role .admin]⟩,
    ⟨"POST", "/api/v1/incidents/\x7bincident_id\x7d/approval", [.csrf, .role .approver]⟩,
    ⟨"GET", "/api/v1/incidents/\x7bincident_id\x7d/approval", [.role .viewer]⟩,
    ⟨"GET", "/api/v1/console/snapshot", [.role .viewer]⟩,
    ⟨"GET", "/api/v1/console/incidents", [.role .viewer]⟩,
    ⟨"GET", "/api/v1/console/incidents/\x7bincident_id\x7d", [.role .viewer]⟩,
    ⟨"GET", "/api/v1/console/incidents/\x7bincident_id\x7d/records/\x7bcollection\x7d",
      [.role .viewer]⟩,
    ⟨"GET", "/api/v1/console/incidents/\x7bincident_id\x7d/timeline", [.role .viewer]⟩,
    ⟨"GET", "/api/v1/console/resources", [.role .viewer]⟩,
    ⟨"GET", "/api/v1/console/policies", [.role .viewer]⟩,
    ⟨"GET", "/api/v1/console/system", [.role .viewer]⟩,
    ⟨"GET", "/api/v1/console/telemetry", [.role .viewer]⟩,
    ⟨"GET", "/api/v1/console/stream", [.role .viewer]⟩,
    ⟨"GET", "/api/v1/console/faults", [.role .viewer]⟩,
    ⟨"POST", "/api/v1/console/faults", [.role .viewer, .role .operator, .csrf]⟩,
    ⟨"GET", "/api/v1/console/commands", [.role .viewer]⟩,
    ⟨"POST", "/api/v1/console/incidents/\x7bincident_id\x7d/dry-run",
      [.role .viewer, .role .operator, .csrf]⟩]

def logoutEndpoint : Endpoint := ⟨"POST", "/api/v1/auth/logout", [.csrf]⟩

def streamEndpoint : Endpoint := ⟨"GET", "/api/v1/console/stream", [.role .viewer]⟩

/-- The methods that change something. -/
def unsafeMethods : List String := ["POST", "PUT", "DELETE", "PATCH"]

def roleRanks : List (UserRole × Int) :=
  [(.viewer, 0), (.operator, 1), (.approver, 2), (.admin, 3)]

structure LoginRequest where
  username : String
  password : String
deriving DecidableEq, Repr

/-! ### The state of a server and its database -/

/-- What an observer sees. -/
inductive AuthEvent
  /-- A user is added, or changed. -/
  | userSet (user : User)
  /-- A login may go on; its session is stored, for the user it has found. -/
  | attempted (p : Nat) (req : LoginRequest) (clientIp : String)
  | loggedIn (p : Nat) (user : User) (session : UserSession)
  /-- A request has come in; it is let in, with this header. -/
  | received (p : Nat) (cookie : Option String)
  | admitted (p : Nat) (endpoint : Endpoint) (xCsrfToken : Option String) (user : User)
      (session : UserSession)
  /-- A session is revoked. -/
  | revoked (p : Nat) (sessionToken : String)
  /-- A stream looks again at its session; the next snapshot is sent. -/
  | ticked (p : Nat) (sessionToken : String)
  | snapshot (p : Nat) (sessionToken : String)
  | crashed (p : Nat)
deriving DecidableEq, Repr

/-- The process that an event is about. -/
def AuthEvent.proc : AuthEvent → Option Nat
  | .userSet _ => none
  | .attempted p _ _ | .loggedIn p _ _ | .received p _ | .admitted p _ _ _ _ | .revoked p _
  | .ticked p _ | .snapshot p _ | .crashed p => some p

structure AuthDb where
  now : Int
  /-- The clock of the limiter. -/
  monotonic : Rat
  users : List User := []
  /-- Sessions by token, which is unique. -/
  sessions : String → Cell TxId UserSession := fun _ => Cell.empty
  rateLimiter : InMemoryRateLimiter := {}
  /-- What has been seen, and when, the latest first. -/
  log : List (AuthEvent × Int) := []

namespace AuthDb

def user (db : AuthDb) (id : Nat) : Option User := db.users.find? fun user => user.id = id

def userNamed (db : AuthDb) (username : String) : Option User :=
  db.users.find? fun user => user.username = username

/-- Record what an observer sees. -/
def record (evs : List AuthEvent) (db : AuthDb) : AuthDb :=
  { db with log := (evs.map fun e => (e, db.now)) ++ db.log }

def setSession (token : String) (c : Cell TxId UserSession) (db : AuthDb) : AuthDb :=
  { db with sessions := Function.update db.sessions token c }

/-- End transaction `t`, keeping what it wrote, or forgetting it. -/
def commit (t : TxId) (db : AuthDb) : AuthDb :=
  { db with sessions := fun token => (db.sessions token).commit t }

def rollback (t : TxId) (db : AuthDb) : AuthDb :=
  { db with sessions := fun token => (db.sessions token).rollback t }

/-- The request of process `p` is given up. -/
def crash (p : Nat) (db : AuthDb) : AuthDb :=
  (db.rollback ⟨p, 0⟩).record [.crashed p]

/-- Every request is a process of its own number. -/
def unseen (p : Nat) (db : AuthDb) : Prop := ∀ entry ∈ db.log, entry.1.proc ≠ some p

instance (p : Nat) (db : AuthDb) : Decidable (db.unseen p) :=
  inferInstanceAs (Decidable (∀ entry ∈ db.log, entry.1.proc ≠ some p))

end AuthDb

/-! ### Statements -/

/-- What is answered from outside in one step: whether the database refuses the statement, and the
tokens that are drawn. -/
structure AuthWorld where
  fails : Bool := false
  sessionToken : String := ""
  csrfToken : String := ""

abbrev AuthProg (α : Type) := Interleaving.Prog AuthWorld AuthDb Err α

section Statements

variable {α : Type}

def authSql (f : AuthDb → Option (Except Err α × AuthDb)) : AuthProg α :=
  Interleaving.Prog.stmt fun w db => if w.fails then some (.error databaseError, db) else f db

def authSelect (f : AuthDb → α) : AuthProg α := authSql fun db => some (.ok (f db), db)

def authCheck (x : Except Err α) : AuthProg α := ExceptT.mk (Proc.ret x)

def authNow : AuthProg Int := Interleaving.Prog.stmt fun _ db => some (.ok db.now, db)

def authObserve (evs : List AuthEvent) : AuthProg Unit :=
  Interleaving.Prog.stmt fun _ db => some (.ok (), db.record evs)

/-- `generate_session_token` and `generate_csrf_token`. -/
def generateTokens : AuthProg (String × String) :=
  Interleaving.Prog.stmt fun w db => some (.ok (w.sessionToken, w.csrfToken), db)

def authCommit (t : TxId) (evs : List AuthEvent) : AuthProg Unit :=
  Interleaving.Prog.stmt fun w db =>
    if w.fails then some (.error databaseError, db.rollback t)
    else some (.ok (), (db.commit t).record evs)

def authRollback (t : TxId) : AuthProg Unit :=
  Interleaving.Prog.stmt fun _ db => some (.ok (), db.rollback t)

/-- `unit_of_work`, on sessions.  The first statement begins the transaction, whose `now()` is the
time of that. -/
def authUnitOfWork (t : TxId) (actor : String) (body : Int → AuthProg α)
    (seen : α → List AuthEvent := fun _ => []) : AuthProg α :=
  if validActor actor then
    tryCatch
      (do
        let started ← authSelect AuthDb.now
        let a ← body started
        authCommit t (seen a)
        pure a)
      (fun e => do
        authRollback t
        throw e)
  else
    throw ⟨.valueError, "A nonempty actor (at most 128 characters) is required"⟩

end Statements

/-! ### The repository -/

section Repository

variable (t : TxId)

/-- `create_session`: a token that is there already is refused, and one that another transaction
is about to store is waited for. -/
def createSession (session : UserSession) : AuthProg UserSession :=
  authSql fun db =>
    let c := db.sessions session.sessionToken
    if !session.fits then some (.error databaseError, db)
    else if (db.user session.userId).isNone then some (.error integrityError, db)
    else if c.free t then
      match c.visible t with
      | some _ => some (.error integrityError, db)
      | none => some (.ok session, db.setSession session.sessionToken (c.write t (some session)))
    else none

def getSession (sessionToken : String) : AuthProg (Option UserSession) :=
  authSelect fun db => ((db.sessions sessionToken).visible t).filter fun row => !row.isRevoked

/-- `UPDATE ... SET is_revoked = true WHERE session_token = ...`. -/
def revokeSessionRow (sessionToken : String) : AuthProg Unit :=
  authSql fun db =>
    let c := db.sessions sessionToken
    match c.visible t with
    | none => some (.ok (), db)
    | some row =>
        if c.free t then
          some (.ok (), db.setSession sessionToken (c.write t (some { row with isRevoked := true })))
        else none

/-- What is left to write when the transaction ends: the time of the last access, if it is not the
one that was loaded. -/
def flushSession (loaded changed : UserSession) : AuthProg Unit :=
  if changed.lastAccessedAt = loaded.lastAccessedAt then pure ()
  else
    authSql fun db =>
      let c := db.sessions loaded.sessionToken
      match c.visible t with
      | none => some (.error databaseError, db)
      | some row =>
          if c.free t then
            some (.ok (), db.setSession loaded.sessionToken
              (c.write t (some { row with lastAccessedAt := changed.lastAccessedAt })))
          else none

end Repository

/-! ### The session service -/

def defaultSessionHours : Int := 8

/-- `create_user_session`, in a transaction that began at `started`. -/
def createUserSession (t : TxId) (started : Int) (userId : Nat)
    (ipAddress userAgent : Option String) (ttlHours : Option Int) : AuthProg UserSession := do
  let hours := (ttlHours.filter (· ≠ 0)).getD defaultSessionHours
  let (sessionToken, csrfToken) ← generateTokens
  let now ← authNow
  createSession t
    { sessionToken := sessionToken, userId := userId, expiresAt := now + seconds (hours * 3600),
      lastAccessedAt := started, csrfToken := csrfToken, ipAddress := ipAddress,
      userAgent := userAgent }

/-- `validate_session`: the session as it was loaded, and with the time of this access. -/
def validateSession (t : TxId) (sessionToken : String) :
    AuthProg (Option (UserSession × UserSession)) := do
  let found ← getSession t sessionToken
  match found with
  | none => pure none
  | some session =>
      let now ← authNow
      if session.expiresAt ≤ now then pure none
      else pure (some (session, { session with lastAccessedAt := now }))

/-! ### The dependencies of an endpoint -/

section Dependencies

variable (p : Nat)

def getCurrentSessionAndUser (shSessionId : Option String) : AuthProg (User × UserSession) :=
  match shSessionId.filter (· ≠ "") with
  | none => throw ⟨.httpException 401, "Authentication required. Please log in."⟩
  | some token =>
      authUnitOfWork ⟨p, 0⟩ "system:auth" fun _ => do
        let valid ← validateSession ⟨p, 0⟩ token
        match valid with
        | none => throw ⟨.httpException 401, "Session expired or invalid. Please log in again."⟩
        | some (loaded, session) =>
            let user ← authSelect fun db => db.user session.userId
            match user.filter User.enabled with
            | none =>
                throw ⟨.httpException 403, "User account is disabled or inaccessible."⟩
            | some user =>
                flushSession ⟨p, 0⟩ loaded session
                pure (user, session)

def requireCsrf (method : String) (session : UserSession) (xCsrfToken : Option String) :
    Except Err Unit :=
  let refused : Err := ⟨.httpException 403, "Invalid or missing CSRF token."⟩
  if method ∈ unsafeMethods then
    match xCsrfToken.filter (· ≠ "") with
    | none => .error refused
    | some token => do
        let same ← compareDigest token session.csrfToken
        if same then .ok () else .error refused
  else .ok ()

/-- `require_role`. -/
def requireRole (minimumRole : UserRole) (user : User) : Except Err Unit :=
  let userRank := (roleRanks.lookup user.role).getD (-1)
  let requiredRank := (roleRanks.lookup minimumRole).getD 999
  if userRank < requiredRank then
    .error ⟨.httpException 403, s!"Operation requires '{minimumRole.value}' capability. " ++
      s!"Current role: '{user.role.value}'."⟩
  else .ok ()

def Guard.check (method : String) (xCsrfToken : Option String) (user : User)
    (session : UserSession) : Guard → Except Err Unit
  | .csrf => requireCsrf method session xCsrfToken
  | .role minimumRole => requireRole minimumRole user

/-- The guards of an endpoint, one after the other. -/
def checkGuards (method : String) (xCsrfToken : Option String) (user : User)
    (session : UserSession) : List Guard → Except Err Unit
  | [] => .ok ()
  | guard :: rest => do
      guard.check method xCsrfToken user session
      checkGuards method xCsrfToken user session rest

/-- A request comes in, and is let in to its endpoint. -/
def enterEndpoint (endpoint : Endpoint) (cookie xCsrfToken : Option String) :
    AuthProg (User × UserSession) := do
  authObserve [.received p cookie]
  let (user, session) ← getCurrentSessionAndUser p cookie
  authCheck (checkGuards endpoint.method xCsrfToken user session endpoint.guards)
  authObserve [.admitted p endpoint xCsrfToken user session]
  pure (user, session)

end Dependencies

/-! ### Login, logout and the stream -/

/-- The cookie that the browser is given. -/
structure SessionCookie where
  key : String := "sh_session_id"
  value : String
  httponly : Bool := true
  secure : Bool
  samesite : String := "lax"
  path : String := "/"
  maxAge : Int := 8 * 3600
deriving DecidableEq, Repr

structure LoginResponse where
  user : User
  csrfToken : String
  message : String := "Login successful"
  cookie : SessionCookie
deriving DecidableEq, Repr

section Requests

variable (scrypt : Scrypt) (p : Nat)

/-- What a login is counted by. -/
def LoginRequest.rateKey (req : LoginRequest) (clientIp : String) : String :=
  s!"login:{clientIp}:{req.username}"

/-- The limiter is asked; an observer sees who may go on. -/
def allowLogin (req : LoginRequest) (clientIp : String) : AuthProg Bool :=
  Interleaving.Prog.stmt fun _ db =>
    let answer := db.rateLimiter.isAllowed (req.rateKey clientIp) 10 60 db.monotonic
    let asked := { db with rateLimiter := answer.2 }
    some (.ok answer.1, if answer.1 then asked.record [.attempted p req clientIp] else asked)

/-- `login`; `client` is the address of the client, if it is known. -/
def login (production : Bool) (req : LoginRequest) (client userAgent : Option String) :
    AuthProg LoginResponse := do
  let clientIp := client.getD "unknown"
  let allowed ← allowLogin p req clientIp
  if allowed then
    let (user, session) ← authUnitOfWork ⟨p, 0⟩ "system:login"
      (fun started => do
        let found ← authSelect fun db => db.userNamed req.username
        match found.filter fun user => verifyPassword scrypt req.password user.passwordHash with
        | none => throw ⟨.httpException 401, "Invalid username or password."⟩
        | some user =>
            if user.enabled then
              let session ← createUserSession ⟨p, 0⟩ started user.id (some clientIp) userAgent
                none
              pure (user, session)
            else throw ⟨.httpException 403, "Account is disabled."⟩)
      (fun r => [.loggedIn p r.1 r.2])
    pure
      { user := user, csrfToken := session.csrfToken,
        cookie := { value := session.sessionToken, secure := production } }
  else
    throw ⟨.httpException 429,
      "Too many login attempts. Please wait 60 seconds before trying again."⟩

def logout (cookie xCsrfToken : Option String) : AuthProg String := do
  let (user, session) ← enterEndpoint p logoutEndpoint cookie xCsrfToken
  authUnitOfWork ⟨p, 0⟩ ("user:" ++ user.username)
    (fun _ => revokeSessionRow ⟨p, 0⟩ session.sessionToken)
    (fun _ => [.revoked p session.sessionToken])
  pure "Logged out successfully"

/-- Whether the session is still good, and its user enabled. -/
def revalidate (user : User) (sessionToken : String) : AuthProg Bool := do
  let valid ← validateSession ⟨p, 0⟩ sessionToken
  let currentUser ← authSelect fun db => db.user user.id
  match valid with
  | none => pure false
  | some (loaded, session) =>
      flushSession ⟨p, 0⟩ loaded session
      pure (currentUser.any User.enabled)

/-- What a round of the stream looks at. -/
def streamTick (user : User) (sessionToken : String) : AuthProg Bool := do
  authObserve [.ticked p sessionToken]
  authUnitOfWork ⟨p, 0⟩ "system:console-stream" fun _ => revalidate p user sessionToken

/-- The rounds of the stream, until the session is no good or the client has gone. -/
def streamEvents (user : User) (sessionToken : String) : Nat → AuthProg Unit
  | 0 => pure ()
  | rounds + 1 => do
      let valid ← streamTick p user sessionToken
      if valid then
        authObserve [.snapshot p sessionToken]
        streamEvents user sessionToken rounds
      else pure ()

def stream (cookie : Option String) (rounds : Nat) : AuthProg Unit := do
  let (user, session) ← enterEndpoint p streamEndpoint cookie none
  streamEvents p user session.sessionToken rounds

end Requests

/-! ### The system -/

/-- What comes in.  Of a request to another endpoint its way in is all that matters here. -/
inductive AuthTask
  | login (production : Bool) (req : LoginRequest) (client userAgent : Option String)
  | logout (cookie xCsrfToken : Option String)
  | stream (cookie : Option String) (rounds : Nat)
  | request (endpoint : Endpoint) (cookie xCsrfToken : Option String)

def AuthTask.prog (scrypt : Scrypt) (p : Nat) : AuthTask → AuthProg Unit
  | .login production req client userAgent => do
      let _ ← SelfHealing.login scrypt p production req client userAgent
      pure ()
  | .logout cookie xCsrfToken => do
      let _ ← SelfHealing.logout p cookie xCsrfToken
      pure ()
  | .stream cookie rounds => SelfHealing.stream p cookie rounds
  | .request endpoint cookie xCsrfToken => do
      let _ ← enterEndpoint p endpoint cookie xCsrfToken
      pure ()

/-- What happens beside the requests: both clocks go on, and users are added and changed. -/
inductive AuthEnv
  | tick (elapsed : Nat)
  | setUser (user : User)

def AuthEnv.apply : AuthEnv → AuthDb → Option AuthDb
  | .tick elapsed, db =>
      some { db with now := db.now + elapsed, monotonic := db.monotonic + (elapsed : Rat) / 1000000 }
  | .setUser user, db =>
      if db.users.any fun other => other.username = user.username ∧ other.id ≠ user.id then none
      else
        some { db.record [.userSet user] with
          users := user :: db.users.filter fun other => other.id ≠ user.id }

/-- Any number of requests at once. -/
def authMachine (scrypt : Scrypt) : Machine AuthWorld AuthTask AuthEnv AuthDb where
  prog := fun p task => do
    let _ ← (task.prog scrypt p).run
    pure ()
  ready := fun p _ db => db.unseen p
  crash := AuthDb.crash
  env := AuthEnv.apply
  admits := fun _ _ => True

instance (scrypt : Scrypt) (p : Nat) (task : AuthTask) (db : AuthDb) :
    Decidable ((authMachine scrypt).ready p task db) :=
  inferInstanceAs (Decidable (db.unseen p))

instance (scrypt : Scrypt) (s s' : AuthDb) : Decidable ((authMachine scrypt).admits s s') :=
  .isTrue trivial

/-- Nobody is logged in yet, and nothing has been seen but the users. -/
structure AuthDb.Initial (db : AuthDb) : Prop where
  users : (db.users.map User.id).Nodup
  sessions : ∀ token, db.sessions token = Cell.empty
  log : db.log = []
  limiter : db.rateLimiter = {}

end SelfHealing
