import ApiScore.Execution.Runs
import ApiScore.Lib.Replay

/-!
# Sessions and logins

`auth.service.ts`: `loginInTransaction`, `logout`, `revokeSessionByToken` and `resolveSession`.  A
login locks the row of its identifier in `auth_login_attempts`, then the row of the user, and keeps
both until it commits; what it writes is seen by nobody before.  Each call takes its instant before the
statement that uses it.

* `AuthUser`, `AuthSession`, `AuthLoginAttempt` — the rows.
* `loginInTransaction`, `logout`, `revokeSessionByToken`, `resolveSession` — statement by statement.
* `AuthState` — what is committed, what the open transactions hold, the clock.
* `authCalls` — the runs of any number of calls.

The audit events, which nothing here reads, are left out.
-/

set_option autoImplicit false

namespace ApiScore

open Concurrent

/-! ## Rows -/

structure AuthUser where
  id : String
  email : String
  passwordHash : String
  role : String
  disabledAt : Option Int
  deriving DecidableEq

structure AuthSession where
  id : String
  userId : String
  tokenHash : String
  expiresAt : Int
  revokedAt : Option Int
  deriving DecidableEq

structure AuthLoginAttempt where
  identifierHash : String
  failedCount : Nat
  windowStartedAt : Int
  deriving DecidableEq

/-- Within the bounds that the environment is checked for when the process starts. -/
structure AuthConfig where
  /-- `AUTH_SESSION_TTL_SECONDS`. -/
  sessionTtlSeconds : Int
  /-- `AUTH_LOGIN_MAX_ATTEMPTS`. -/
  loginMaxAttempts : Nat
  /-- `AUTH_LOGIN_WINDOW_SECONDS`. -/
  loginWindowSeconds : Int
  ttl : 300 ≤ sessionTtlSeconds ∧ sessionTtlSeconds ≤ 2592000
  maxAttempts : 1 ≤ loginMaxAttempts ∧ loginMaxAttempts ≤ 20
  window : 60 ≤ loginWindowSeconds ∧ loginWindowSeconds ≤ 3600

/-- The functions of the platform. -/
structure AuthFunctions where
  /-- `normalize('NFKC').trim().toLowerCase()`. -/
  normalizeAuthEmail : String → String
  /-- SHA-256 of a text, in hexadecimal. -/
  sha256 : String → String
  /-- `argon2.verify`. -/
  verify : String → String → Bool

def dummyPasswordHash : String :=
  "$argon2id$v=19$m=19456,t=2,p=1$eC0w+UvTcm62T+RRtGumvg$sdlgC/4++UPzEeKA0Ri6zA6ge+Owvw5B3zh4ohXOUb4"

structure AuthenticatedPrincipal where
  sessionId : String
  id : String
  email : String
  role : String
  deriving DecidableEq

inductive LoginStatus
  | success (sessionToken : String) (expiresAt : Int)
  | invalid | disabled | rateLimited
  deriving DecidableEq

/-! ## The statements -/

/-- A transaction that is rolled back: a deadlock, a timeout of a lock, or a key that is taken. -/
inductive AuthRollback
  | rolledBack
  deriving DecidableEq

inductive AuthAction
  /-- `new Date()`. -/
  | readClock
  /-- `INSERT … ON DUPLICATE KEY UPDATE`, which locks the row. -/
  | upsertAttempt (identifierHash : String) (now : Int)
  /-- The row, as the transaction that has locked it sees it. -/
  | selectAttempt (identifierHash : String)
  | saveAttempt (attempt : AuthLoginAttempt)
  /-- The row of the user, for update. -/
  | lockUser (email : String)
  /-- `argon2.verify`, for an attempt on the identifier that has taken its instant at `now`. -/
  | verify (identifierHash : String) (now : Int) (passwordHash password : String)
  | deleteAttempt (identifierHash : String)
  /-- The update of the sessions of the user that are neither revoked nor expired. -/
  | revokeSessions (userId : String) (now : Int)
  | insertSession (userId : String) (expiresAt : Int)
  /-- The end of the transaction; of one that has logged in, with its identifier. -/
  | commit (loggedIn : Option String)
  | findSession (tokenHash : String)
  /-- The update of a session that is not revoked; has it been changed? -/
  | revokeSession (sessionId : String) (now : Int)
  /-- The query of `resolveSession`. -/
  | resolve (tokenHash : String) (now : Int)

abbrev AuthAction.Result : AuthAction → Type
  | .readClock => Int
  | .upsertAttempt _ _ | .revokeSessions _ _ => Except AuthRollback Unit
  | .selectAttempt _ => Option AuthLoginAttempt
  | .lockUser _ => Except AuthRollback (Option AuthUser)
  | .verify _ _ _ _ => Bool
  | .insertSession _ _ => Except AuthRollback String
  | .findSession _ => Option AuthSession
  | .revokeSession _ _ => Except AuthRollback Bool
  | .resolve _ _ => Option AuthenticatedPrincipal
  | .saveAttempt _ | .deleteAttempt _ | .commit _ => Unit

abbrev AuthCall (α : Type) : Type := Async AuthAction AuthAction.Result AuthRollback α

namespace AuthCall

def act (a : AuthAction) : AuthCall a.Result := ExceptT.lift (Prog.perform a)

/-- The answer of a statement, unless the transaction is rolled back. -/
def served {α : Type} : Except AuthRollback α → AuthCall α
  | .ok x => return x
  | .error e => throw e

end AuthCall

open AuthCall (act served)

/-! ## The calls -/

section Calls

variable (f : AuthFunctions) (config : AuthConfig)

/-- The window of the row is over for an attempt at `now`. -/
def windowExpired (now : Int) (attempt : AuthLoginAttempt) : Bool :=
  decide (config.loginWindowSeconds * 1000 ≤ now - attempt.windowStartedAt)

/-- The row of the identifier, locked, with a window that is not over. -/
def openAttempt (identifierHash : String) (now : Int) : AuthCall AuthLoginAttempt := do
  served (← act (.upsertAttempt identifierHash now))
  match ← act (.selectAttempt identifierHash) with
  | none => throw .rolledBack
  | some attempt =>
    if windowExpired config now attempt then
      let attempt := { attempt with failedCount := 0, windowStartedAt := now }
      act (.saveAttempt attempt)
      return attempt
    else return attempt

/-- What follows a password that is not accepted. -/
def rejectLogin (attempt : AuthLoginAttempt) (user : Option AuthUser) : AuthCall LoginStatus := do
  act (.saveAttempt
    { attempt with failedCount := min (attempt.failedCount + 1) config.loginMaxAttempts })
  act (.commit none)
  return if (user.bind (·.disabledAt)).isSome then .disabled else .invalid

/-- What follows a password that is. -/
def acceptLogin (identifierHash : String) (now : Int) (user : AuthUser) :
    AuthCall LoginStatus := do
  act (.deleteAttempt identifierHash)
  served (← act (.revokeSessions user.id now))
  let expiresAt := now + config.sessionTtlSeconds * 1000
  let sessionToken ← served (← act (.insertSession user.id expiresAt))
  act (.commit (some identifierHash))
  return .success sessionToken expiresAt

/-- `loginInTransaction`, to its commit. -/
def loginInTransaction (email password : String) : AuthCall LoginStatus := do
  let identifierHash := f.sha256 email
  let now ← act .readClock
  let attempt ← openAttempt config identifierHash now
  if config.loginMaxAttempts ≤ attempt.failedCount then
    act (.commit none)
    return .rateLimited
  let user ← served (← act (.lockUser email))
  let passwordHash := (user.map (·.passwordHash)).getD dummyPasswordHash
  let passwordValid ← act (.verify identifierHash now passwordHash password)
  match user with
  | none => rejectLogin config attempt none
  | some user =>
    if !passwordValid || user.disabledAt.isSome then rejectLogin config attempt (some user)
    else acceptLogin config identifierHash now user

/-- `login`. -/
def login (email password : String) : AuthCall LoginStatus :=
  loginInTransaction f config (f.normalizeAuthEmail email) password

def logout (sessionId : String) : AuthCall Unit := do
  let now ← act .readClock
  let _ ← served (← act (.revokeSession sessionId now))
  act (.commit none)

def revokeSessionByToken (sessionToken : Option String) : AuthCall Unit := do
  match sessionToken with
  | none => return ()
  | some sessionToken =>
    match ← act (.findSession (f.sha256 sessionToken)) with
    | none => return ()
    | some session => logout session.id

def resolveSession (sessionToken : String) : AuthCall (Option AuthenticatedPrincipal) := do
  let now ← act .readClock
  act (.resolve (f.sha256 sessionToken) now)

end Calls

/-! ## Runs of the calls -/

inductive AuthEvent
  /-- Call `i` has read the clock. -/
  | instant (i : CallId) (now : Int)
  /-- Call `i` has locked the row of the identifier. -/
  | began (i : CallId) (identifierHash : String)
  /-- A password is checked, for an attempt at `now` whose transaction leaves the row of the
  identifier like this. -/
  | checked (identifierHash : String) (attempt : Option AuthLoginAttempt) (now : Int)
      (accepted : Bool)
  /-- A login of the identifier has been committed. -/
  | loggedIn (identifierHash : String)
  /-- Call `i` has committed. -/
  | committed (i : CallId)
  /-- Call `i` has resolved the session. -/
  | resolved (i : CallId) (sessionId : String)
  deriving DecidableEq

structure AuthState where
  users : List AuthUser
  /-- In the order in which they were opened. -/
  sessions : List AuthSession
  attempts : String → Option AuthLoginAttempt
  /-- Who has locked the row of an identifier, and what it is to be. -/
  attemptLocks : String → Option (CallId × Option AuthLoginAttempt)
  /-- Who has locked the row of a user. -/
  userLocks : String → Option CallId
  /-- Who is revoking a session, and at what instant. -/
  revoking : String → Option (CallId × Int)
  /-- The sessions that are to be opened. -/
  opening : List (CallId × AuthSession)
  now : Int
  trace : List AuthEvent

/-- No call has begun. -/
def AuthState.init (users : List AuthUser) (sessions : List AuthSession)
    (attempts : String → Option AuthLoginAttempt) (now : Int) : AuthState where
  users := users
  sessions := sessions
  attempts := attempts
  attemptLocks _ := none
  userLocks _ := none
  revoking _ := none
  opening := []
  now := now
  trace := []

/-- What the surroundings decide about one statement. -/
structure AuthInput where
  /-- The transaction is rolled back instead. -/
  rolledBack : Bool
  /-- The random bytes of a session, and its id. -/
  sessionToken : String
  uuid : String

namespace AuthState

def note (w : AuthState) (e : AuthEvent) : AuthState := { w with trace := e :: w.trace }

/-- What a call holds is given up. -/
def release (i : CallId) (w : AuthState) : AuthState :=
  { w with
    attemptLocks := fun h => (w.attemptLocks h).filter (·.1 ≠ i)
    userLocks := fun u => (w.userLocks u).filter (· ≠ i)
    revoking := fun s => (w.revoking s).filter (·.1 ≠ i)
    opening := w.opening.filter (·.1 ≠ i) }

/-- A row as the transaction of call `i` leaves it. -/
def attemptAfter (i : CallId) (w : AuthState) (h : String) : Option AuthLoginAttempt :=
  match w.attemptLocks h with
  | some (j, attempt) => if j = i then attempt else w.attempts h
  | none => w.attempts h

/-- A session as the transaction of call `i` leaves it. -/
def sessionAfter (i : CallId) (w : AuthState) (s : AuthSession) : AuthSession :=
  match w.revoking s.id with
  | some (j, t) => if j = i then { s with revokedAt := some t } else s
  | none => s

/-- The transaction of call `i` is committed. -/
def commit (i : CallId) (w : AuthState) : AuthState :=
  release i { w with
    attempts := w.attemptAfter i
    sessions := w.sessions.map (w.sessionAfter i) ++
      (w.opening.filter (·.1 = i)).map (·.2) }

/-- Another call has locked the row. -/
def isAttemptHeld (w : AuthState) (i : CallId) (h : String) : Bool :=
  (w.attemptLocks h).any (·.1 ≠ i)

def isUserHeld (w : AuthState) (i : CallId) (u : String) : Bool := (w.userLocks u).any (· ≠ i)

def isSessionHeld (w : AuthState) (i : CallId) (s : String) : Bool :=
  (w.revoking s).any (·.1 ≠ i)

/-- The sessions that a login revokes. -/
def isRevocable (userId : String) (now : Int) (s : AuthSession) : Bool :=
  s.userId == userId && s.revokedAt.isNone && decide (now < s.expiresAt)

/-- The row of an identifier is to be this. -/
def putAttempt (w : AuthState) (i : CallId) (h : String) (attempt : Option AuthLoginAttempt) :
    AuthState :=
  { w with attemptLocks := Function.update w.attemptLocks h (some (i, attempt)) }

/-- Call `i` revokes these sessions. -/
def revoke (w : AuthState) (i : CallId) (ids : List String) (now : Int) : AuthState :=
  { w with revoking := fun s => if ids.contains s then some (i, now) else w.revoking s }

/-- The session with this token. -/
def session? (w : AuthState) (tokenHash : String) : Option AuthSession :=
  w.sessions.find? (·.tokenHash == tokenHash)

/-- The principal of a session that is neither revoked nor expired at `now`, of a user who is not
disabled. -/
def principal? (w : AuthState) (tokenHash : String) (now : Int) : Option AuthenticatedPrincipal := do
  let s ← w.session? tokenHash
  guard (s.revokedAt.isNone && decide (now < s.expiresAt))
  let user ← w.users.find? (·.id == s.userId)
  guard user.disabledAt.isNone
  return ⟨s.id, user.id, user.email, user.role⟩

/-- A key of the session is taken. -/
def hasSession (w : AuthState) (s : AuthSession) : Bool :=
  w.sessions.any (fun x => x.id == s.id || x.tokenHash == s.tokenHash) ||
    w.opening.any fun x => x.2.id == s.id || x.2.tokenHash == s.tokenHash

/-- What a statement answers and does; `none` where it waits for a lock. -/
def exec (f : AuthFunctions) (i : CallId) :
    (a : AuthAction) → AuthInput → AuthState → Option (a.Result × AuthState)
  | .readClock, _, w => some (w.now, w.note (.instant i w.now))
  | .upsertAttempt h now, input, w =>
    if input.rolledBack then some (.error .rolledBack, w.release i)
    else if w.isAttemptHeld i h then none
    else some (.ok (), (w.putAttempt i h (some ((w.attempts h).getD ⟨h, 0, now⟩))).note (.began i h))
  | .selectAttempt h, _, w => some (w.attemptAfter i h, w)
  | .saveAttempt attempt, _, w => some ((), w.putAttempt i attempt.identifierHash (some attempt))
  | .lockUser email, input, w =>
    if input.rolledBack then some (.error .rolledBack, w.release i)
    else match w.users.find? (·.email == email) with
      | none => some (.ok none, w)
      | some user =>
        if w.isUserHeld i user.id then none
        else some (.ok (some user),
          { w with userLocks := Function.update w.userLocks user.id (some i) })
  | .verify h now passwordHash password, _, w =>
    some (f.verify passwordHash password,
      w.note (.checked h (w.attemptAfter i h) now (f.verify passwordHash password)))
  | .deleteAttempt h, _, w => some ((), w.putAttempt i h none)
  | .revokeSessions userId now, input, w =>
    if input.rolledBack then some (.error .rolledBack, w.release i)
    else
      let revocable := w.sessions.filter (isRevocable userId now)
      if revocable.any (fun s => w.isSessionHeld i s.id) then none
      else some (.ok (), w.revoke i (revocable.map (·.id)) now)
  | .insertSession userId expiresAt, input, w =>
    let s : AuthSession := ⟨input.uuid, userId, f.sha256 input.sessionToken, expiresAt, none⟩
    if input.rolledBack || w.hasSession s then some (.error .rolledBack, w.release i)
    else some (.ok input.sessionToken, { w with opening := (i, s) :: w.opening })
  | .commit loggedIn, _, w =>
    let w := (loggedIn.map fun h => w.note (.loggedIn h)).getD w
    some ((), (w.commit i).note (.committed i))
  | .findSession tokenHash, _, w =>
    some ((w.session? tokenHash).filter (·.revokedAt.isNone), w)
  | .revokeSession id now, input, w =>
    if input.rolledBack then some (.error .rolledBack, w.release i)
    else if w.isSessionHeld i id then none
    else if w.sessions.any (fun s => s.id == id && s.revokedAt.isNone) then
      some (.ok true, w.revoke i [id] now)
    else some (.ok false, w)
  | .resolve tokenHash now, _, w =>
    match w.principal? tokenHash now with
    | none => some (none, w)
    | some principal => some (some principal, w.note (.resolved i principal.sessionId))

end AuthState

inductive AuthEntry
  | login (email password : String)
  | logout (sessionId : String)
  | revokeSessionByToken (sessionToken : Option String)
  | resolveSession (sessionToken : String)
  deriving DecidableEq

def AuthCall.start {α : Type} (c : AuthCall α) : Prog AuthAction AuthAction.Result Unit :=
  c.run >>= fun _ => .ret ()

def AuthEntry.program (f : AuthFunctions) (config : AuthConfig) :
    AuthEntry → Prog AuthAction AuthAction.Result Unit
  | .login email password => (ApiScore.login f config email password).start
  | .logout sessionId => (ApiScore.logout sessionId).start
  | .revokeSessionByToken sessionToken => (ApiScore.revokeSessionByToken f sessionToken).start
  | .resolveSession sessionToken => (ApiScore.resolveSession f sessionToken).start

/-- Any number of calls, under a clock that goes forward; the users change as they like.  Where
`lost`, the transaction of a call that dies is rolled back; otherwise it stays as it is. -/
def authCalls (f : AuthFunctions) (config : AuthConfig) (lost : Bool) :
    Machine AuthAction AuthAction.Result CallId AuthState AuthInput AuthEntry where
  exec := AuthState.exec f
  program := AuthEntry.program f config
  env w w' := ∃ users now, w.now ≤ now ∧ w' = { w with users, now }
  drop i w := if lost then w.release i else w

/-! ## Rules -/

section Rules

variable {f : AuthFunctions} {config : AuthConfig} {lost : Bool}
  {C : Contract AuthAction CallId AuthState} {i : CallId} {w : AuthState} {α β : Type}
  {Q : β → AuthState → Prop}

/-- One statement, then what its answer calls for. -/
theorem AuthCall.act_spec {a : AuthAction} {g : a.Result → AuthCall β}
    (h : ∀ w₁, C.rely i w w₁ → C.inv w₁ → C.pre i a w₁ ∧
      ∀ input b w₂, AuthState.exec f i a input w₁ = some (b, w₂) → C.inv w₂ → C.guar i w₁ w₂ →
        Spec (authCalls f config lost).system C i Q (g b) w₂) :
    Spec (authCalls f config lost).system C i Q (act a >>= g) w := by
  refine Spec.act fun w₁ hr hi => ⟨(h w₁ hr hi).1, fun b w₂ hs h₂ hg => ?_⟩
  obtain ⟨input, hexec⟩ := hs
  exact (h w₁ hr hi).2 input b w₂ hexec h₂ hg

/-- A transaction that is rolled back is over. -/
theorem AuthCall.served_spec {r : Except AuthRollback α} {g : α → AuthCall β} (hinv : C.inv w)
    (h : ∀ x, r = .ok x → Spec (authCalls f config lost).system C i Q (g x) w) :
    Spec (authCalls f config lost).system C i Q (served r >>= g) w := by
  cases r with
  | ok x => exact h x rfl
  | error e => exact Spec.bind Spec.throw hinv fun _ _ _ hx => False.elim hx

theorem AuthCall.start_safe {c : AuthCall α} {P : α → AuthState → Prop}
    (h : Spec (authCalls f config lost).system C i P c w) (hinv : C.inv w) :
    Safe (authCalls f config lost).system C i (fun _ _ => True) c.start w :=
  Safe.bind h hinv fun _ _ _ _ => Safe.ret fun _ _ _ => trivial

end Rules

namespace Sample

/-- Texts are their own digests, and a password is its own hash. -/
def authFunctions : AuthFunctions where
  normalizeAuthEmail email := email
  sha256 text := text
  verify passwordHash password := passwordHash == password

/-- One attempt in a minute. -/
def authConfig : AuthConfig where
  sessionTtlSeconds := 300
  loginMaxAttempts := 1
  loginWindowSeconds := 60
  ttl := by decide
  maxAttempts := by decide
  window := by decide

/-- The next statement of a call of the service. -/
def authSends (i : CallId) : Pick CallId AuthInput AuthEntry := .act i ⟨false, "t", "s"⟩

end Sample

end ApiScore
