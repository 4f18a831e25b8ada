import GoCleanArch.AuthDomain

/-!
The calls of `service/auth/usecase` over the user and session tables, with the
user service's `Create` and `Update` and the user repository's `Delete`, which the
auth service reaches through the user RPC client.

Each call is a program of atomic steps, one per repository call, and `Call.step`
runs the next one: RefreshToken makes four (`FindByRefreshToken`,
`InvalidateRefreshToken`, the user lookup, `Update`) and Logout two (`FindByID`,
`Update`); Register, Login and the user service's calls run as one step each.
`AuthSystem` interleaves the steps of calls in flight. `AuthState.apply` is a
call run alone, and `runSteps_call` says that it is what the call's own steps do.

The RPC layer converts a user to protobuf and back, mapping an unknown status to
""; `Validate` keeps unknown statuses out of the table, so the model hands rows
over as they are. The username (`domain.User` has no column for it), the
verification email Register sends from a goroutine, and the created and updated
timestamps are left out.
-/

namespace GoCleanArch

-- `Hasher` (bcrypt refuses passwords past 72 bytes) and the access-token lifetime.
structure AuthEnv where
  hash : String → Option String
  compare : String → String → Bool
  accessTokenExpiresIn : Int

-- Both tables, and the counters fresh ids and refresh tokens are drawn from.
structure AuthState where
  users : List User
  sessions : List UserSession
  nextID : Nat
  nextToken : Nat

def AuthState.init : AuthState := ⟨[], [], 1, 1⟩

structure UserCreateRequest where
  email : String
  password : String
  firstName : String
  lastName : String

structure UserUpdateRequest where
  email : Option String
  firstName : Option String
  lastName : Option String
  status : Option String

structure RegisterRequest where
  email : String
  password : String
  firstName : String
  lastName : String
  ipAddress : String
  userAgent : String

structure LoginRequest where
  email : String
  password : String
  ipAddress : String
  userAgent : String

-- The handler binds with the tag `binding`, so `validate:"required"` is not
-- enforced: the empty token `0` can be sent.
structure RefreshTokenRequest where
  refreshToken : Nat
  ipAddress : String
  userAgent : String

structure AuthResponse where
  user : User
  accessToken : JwtClaims
  refreshToken : Nat
  deriving DecidableEq, Repr

namespace AuthState

/-! ### The user service -/

-- `userUsecase.FindOne`, under the repository filter's default `deleted_at = 0`.
def findUser (s : AuthState) (filter : User → Bool) : Except DbError User :=
  SQLHandler.findOne s.users (fun u => filter u && u.deletedAt == 0)

def createUser (env : AuthEnv) (s : AuthState) (req : UserCreateRequest) :
    Except GoError (User × AuthState) :=
  let user : User := ⟨0, req.email, req.password, req.firstName, req.lastName,
    userSTTWaitingVerify, 0⟩
  match user.validate with
  | .error e => .error (.detailed e)
  | .ok () =>
    match s.findUser (fun u => u.email == user.email) with
    | .ok _ => .error (.detailed errEmailAlreadyExists)
    | .error _ =>
      match env.hash user.password with
      | none => .error (.detailed errPasswordHashFailed)
      | some hashed =>
        -- the unique index on `email` also holds soft-deleted rows
        if s.users.any (fun u => u.email == user.email) then .error (.db .duplicateKey)
        else
          let created := { user with id := s.nextID, password := hashed }
          .ok (created, { s with users := s.users ++ [created], nextID := s.nextID + 1 })

-- `userUsecase.Update`: the row by `FindByID` (soft-deleted rows included), the
-- request's fields, `Validate`, and a `Save` that omits `Password`.
def updateUser (s : AuthState) (userID : Nat) (req : UserUpdateRequest) :
    Except GoError AuthState :=
  match SQLHandler.findByID s.users userID with
  | (_, some _) => .error (.detailed errUserNotFound)
  | (user, none) =>
    let user := { user with
      email := req.email.getD user.email
      firstName := req.firstName.getD user.firstName
      lastName := req.lastName.getD user.lastName
      status := req.status.getD user.status }
    match user.validate with
    | .error e => .error (.detailed e)
    | .ok () =>
      if s.users.any (fun u => u.id != user.id && u.email == user.email) then
        .error (.db .duplicateKey)
      else
        let keepPassword := fun (old new : User) => { new with password := old.password }
        .ok { s with users := SQLHandler.update s.users user keepPassword }

def deleteUser (s : AuthState) (userID : Nat) (now : Int) : AuthState :=
  { s with users := SQLHandler.deleteByID s.users userID (unixMilli now) }

/-! ### Register and Login -/

-- The tail Register and Login share: a fresh refresh token, the `Create` of an
-- active session row, and an access token for it.
def openSession (env : AuthEnv) (s : AuthState) (user : User) (ipAddress userAgent : String)
    (now : Int) : AuthResponse × AuthState :=
  let session : UserSession := ⟨s.nextID, user.id, s.nextToken, ipAddress, userAgent, true, 0, 0⟩
  (⟨user, generateAccessToken env.accessTokenExpiresIn user.id session.id now, s.nextToken⟩,
    { s with
      sessions := s.sessions ++ [session]
      nextID := s.nextID + 1
      nextToken := s.nextToken + 1 })

def register (env : AuthEnv) (s : AuthState) (req : RegisterRequest) (now : Int) :
    Except DetailedError AuthResponse × AuthState :=
  match s.createUser env ⟨req.email, req.password, req.firstName, req.lastName⟩ with
  | .error (.detailed e) => (.error e, s)
  | .error (.db _) => (.error errUserCreationFailed, s)
  | .ok (user, s) =>
    let opened := s.openSession env user req.ipAddress req.userAgent now
    (.ok opened.1, opened.2)

def login (env : AuthEnv) (s : AuthState) (req : LoginRequest) (now : Int) :
    Except DetailedError AuthResponse × AuthState :=
  match s.findUser (fun u => u.email == req.email) with
  | .error _ => (.error errInvalidCredentials, s)
  | .ok user =>
    if !env.compare user.password req.password then (.error errInvalidCredentials, s)
    else if user.status ≠ userSTTActive then (.error errUserInactive, s)
    else
      let opened := s.openSession env user req.ipAddress req.userAgent now
      (.ok opened.1, opened.2)

/-! ### RefreshToken and Logout, step by step -/

def refreshFind (s : AuthState) (req : RefreshTokenRequest) (now : Int) :
    Except DetailedError UserSession :=
  match SQLHandler.findOne s.sessions (fun row => row.refreshToken == req.refreshToken) with
  | .error _ => .error (errInvalidToken.withError "invalid refresh token")
  | .ok session =>
    if session.isActive (unixMilli now) then .ok session else .error errSessionExpired

def invalidateRefreshToken (s : AuthState) (sessionID : Nat) : AuthState :=
  let invalidate := fun (row : UserSession) => { row with refreshToken := 0 }
  { s with sessions := SQLHandler.updateFields s.sessions sessionID invalidate }

-- The user lookup, its `IsActive` check, and a new refresh token.
def refreshAuthorize (s : AuthState) (session : UserSession) :
    Except DetailedError (User × Nat × AuthState) :=
  match s.findUser (fun u => u.id == session.userID) with
  | .error _ => .error errUserNotFound
  | .ok user =>
    if user.isActive then .ok (user, s.nextToken, { s with nextToken := s.nextToken + 1 })
    else .error errUserInactive

-- The row RefreshToken writes back: the one it read, with the new token and the
-- request's client info where given.
def refreshedSession (req : RefreshTokenRequest) (session : UserSession)
    (newRefreshToken : Nat) : UserSession :=
  { session with
    refreshToken := newRefreshToken
    ipAddress := if req.ipAddress ≠ "" then req.ipAddress else session.ipAddress
    userAgent := if req.userAgent ≠ "" then req.userAgent else session.userAgent }

def saveSession (s : AuthState) (session : UserSession) : AuthState :=
  { s with sessions := SQLHandler.update s.sessions session (fun _ new => new) }

def refreshToken (env : AuthEnv) (s : AuthState) (req : RefreshTokenRequest) (now : Int) :
    Except DetailedError AuthResponse × AuthState :=
  match s.refreshFind req now with
  | .error e => (.error e, s)
  | .ok session =>
    let s := s.invalidateRefreshToken session.id
    match s.refreshAuthorize session with
    | .error e => (.error e, s)
    | .ok (user, token, s) =>
      (.ok ⟨user, generateAccessToken env.accessTokenExpiresIn user.id session.id now, token⟩,
        s.saveSession (refreshedSession req session token))

-- `FindByID` and the `Active` check: the row to write back inactive, or `none`
-- when the session is logged out already.
def logoutFind (s : AuthState) (sessionID : Nat) : Except DetailedError (Option UserSession) :=
  match SQLHandler.findByID s.sessions sessionID with
  | (_, some _) => .error errSessionExpired
  | (session, none) => .ok (if session.active then some { session with active := false } else none)

def logout (s : AuthState) (sessionID : Nat) : Except DetailedError Unit × AuthState :=
  match s.logoutFind sessionID with
  | .error e => (.error e, s)
  | .ok none => (.ok (), s)
  | .ok (some session) => (.ok (), s.saveSession session)

end AuthState

/-! ### Calls in flight -/

inductive AuthReply where
  | response (result : Except DetailedError AuthResponse)
  | done (result : Except GoError Unit)
  deriving DecidableEq, Repr

namespace AuthReply

def succeeded : AuthReply → Bool
  | .response (.ok _) => true
  | .done (.ok ()) => true
  | _ => false

def accessToken? : AuthReply → Option JwtClaims
  | .response (.ok r) => some r.accessToken
  | _ => none

end AuthReply

-- A call and what its steps so far have read.
inductive Call where
  | register (req : RegisterRequest)
  | login (req : LoginRequest)
  | refreshToken (req : RefreshTokenRequest)
  | refreshInvalidate (req : RefreshTokenRequest) (session : UserSession)
  | refreshAuthorize (req : RefreshTokenRequest) (session : UserSession)
  | refreshUpdate (req : RefreshTokenRequest) (session : UserSession) (user : User)
      (newRefreshToken : Nat)
  | logout (sessionID : Nat)
  | logoutUpdate (session : UserSession)
  | updateUser (userID : Nat) (req : UserUpdateRequest)
  | deleteUser (userID : Nat)
  | returned (reply : AuthReply)

def Call.reply? : Call → Option AuthReply
  | .returned reply => some reply
  | _ => none

def Call.step (env : AuthEnv) (s : AuthState) (now : Int) : Call → Call × AuthState
  | .register req => let r := s.register env req now; (.returned (.response r.1), r.2)
  | .login req => let r := s.login env req now; (.returned (.response r.1), r.2)
  | .refreshToken req =>
      match s.refreshFind req now with
      | .error e => (.returned (.response (.error e)), s)
      | .ok session => (.refreshInvalidate req session, s)
  | .refreshInvalidate req session =>
      (.refreshAuthorize req session, s.invalidateRefreshToken session.id)
  | .refreshAuthorize req session =>
      match s.refreshAuthorize session with
      | .error e => (.returned (.response (.error e)), s)
      | .ok (user, token, s) => (.refreshUpdate req session user token, s)
  | .refreshUpdate req session user token =>
      (.returned (.response (.ok
          ⟨user, generateAccessToken env.accessTokenExpiresIn user.id session.id now, token⟩)),
        s.saveSession (AuthState.refreshedSession req session token))
  | .logout sessionID =>
      match s.logoutFind sessionID with
      | .error e => (.returned (.done (.error (.detailed e))), s)
      | .ok none => (.returned (.done (.ok ())), s)
      | .ok (some session) => (.logoutUpdate session, s)
  | .logoutUpdate session => (.returned (.done (.ok ())), s.saveSession session)
  | .updateUser userID req =>
      match s.updateUser userID req with
      | .error e => (.returned (.done (.error e)), s)
      | .ok s => (.returned (.done (.ok ())), s)
  | .deleteUser userID => (.returned (.done (.ok ())), s.deleteUser userID now)
  | .returned reply => (.returned reply, s)

def Call.runSteps (env : AuthEnv) (now : Int) : Nat → Call → AuthState → Call × AuthState
  | 0, call, s => (call, s)
  | fuel + 1, call, s =>
      let next := call.step env s now
      runSteps env now fuel next.1 next.2

inductive AuthOp where
  | register (req : RegisterRequest)
  | login (req : LoginRequest)
  | refreshToken (req : RefreshTokenRequest)
  | logout (sessionID : Nat)
  | updateUser (userID : Nat) (req : UserUpdateRequest)
  | deleteUser (userID : Nat)

def AuthOp.call : AuthOp → Call
  | .register req => .register req
  | .login req => .login req
  | .refreshToken req => .refreshToken req
  | .logout sessionID => .logout sessionID
  | .updateUser userID req => .updateUser userID req
  | .deleteUser userID => .deleteUser userID

namespace AuthState

def apply (env : AuthEnv) (s : AuthState) (now : Int) : AuthOp → AuthReply × AuthState
  | .register req => let r := s.register env req now; (.response r.1, r.2)
  | .login req => let r := s.login env req now; (.response r.1, r.2)
  | .refreshToken req => let r := s.refreshToken env req now; (.response r.1, r.2)
  | .logout sessionID =>
      let r := s.logout sessionID
      (.done (match r.1 with | .ok () => .ok () | .error e => .error (.detailed e)), r.2)
  | .updateUser userID req =>
      match s.updateUser userID req with
      | .error e => (.done (.error e), s)
      | .ok s => (.done (.ok ()), s)
  | .deleteUser userID => (.done (.ok ()), s.deleteUser userID now)

def serve (env : AuthEnv) (s : AuthState) : List (AuthOp × Int) → List AuthReply × AuthState
  | [] => ([], s)
  | (op, now) :: rest =>
      let first := s.apply env now op
      let later := serve env first.2 rest
      (first.1 :: later.1, later.2)

end AuthState

theorem runSteps_call (env : AuthEnv) (s : AuthState) (now : Int) (op : AuthOp) :
    Call.runSteps env now 4 op.call s =
      (.returned (s.apply env now op).1, (s.apply env now op).2) := by
  cases op with
  | register req => rfl
  | login req => rfl
  | refreshToken req =>
      simp only [AuthOp.call, AuthState.apply, AuthState.refreshToken]
      cases found : s.refreshFind req now with
      | error e => simp only [Call.runSteps, Call.step, found]
      | ok session =>
        cases authorized : (s.invalidateRefreshToken session.id).refreshAuthorize session with
        | error e => simp only [Call.runSteps, Call.step, found, authorized]
        | ok result => simp only [Call.runSteps, Call.step, found, authorized]
  | logout sessionID =>
      simp only [AuthOp.call, AuthState.apply, AuthState.logout]
      cases found : s.logoutFind sessionID with
      | error e => simp only [Call.runSteps, Call.step, found]
      | ok session => cases session <;> simp only [Call.runSteps, Call.step, found]
  | updateUser userID req =>
      simp only [AuthOp.call, AuthState.apply]
      cases updated : s.updateUser userID req <;> simp only [Call.runSteps, Call.step, updated]
  | deleteUser userID => rfl

/-! ### Register, then Login -/

namespace AuthState

theorem createUser_ok {env : AuthEnv} {s s' : AuthState} {req : UserCreateRequest} {user : User}
    (created : s.createUser env req = .ok (user, s')) :
    user.email = req.email ∧ user.status = userSTTWaitingVerify ∧ user.deletedAt = 0 ∧
      (s.users.any fun u => u.email == req.email) = false ∧ s'.users = s.users ++ [user] := by
  unfold createUser at created
  dsimp only at created
  split at created
  · cases created
  · split at created
    · cases created
    · split at created
      · cases created
      · split at created
        · cases created
        · rename_i unused
          cases created
          exact ⟨rfl, rfl, rfl, by simpa using unused, rfl⟩

-- Register does not let its user log in: the account waits for verification, and
-- Login admits active accounts only.
theorem register_then_login_refused (env : AuthEnv) (s : AuthState) (req : RegisterRequest)
    (now later : Int) (response : AuthResponse) (registered : (s.register env req now).1 = .ok response) :
    ((s.register env req now).2.login env ⟨req.email, req.password, req.ipAddress, req.userAgent⟩
        later).1 = .error errInvalidCredentials ∨
      ((s.register env req now).2.login env ⟨req.email, req.password, req.ipAddress, req.userAgent⟩
        later).1 = .error errUserInactive := by
  unfold register at registered ⊢
  cases created : s.createUser env ⟨req.email, req.password, req.firstName, req.lastName⟩ with
  | error e => cases e <;> simp [created] at registered
  | ok result =>
    obtain ⟨user, s'⟩ := result
    obtain ⟨email, waiting, live, unused, users⟩ := createUser_ok created
    have found : (s'.openSession env user req.ipAddress req.userAgent now).2.findUser
        (fun u => u.email == req.email) = .ok user := by
      simp only [List.any_eq_false, beq_iff_eq] at unused
      have earlier : s.users.find? (fun u => u.email == req.email && u.deletedAt == 0) = none :=
        List.find?_eq_none.mpr fun u member => by simp [unused u member]
      simp [findUser, openSession, SQLHandler.findOne, users, List.find?_append, earlier, email, live]
    simp only [login, found]
    by_cases matched : env.compare user.password req.password
    · right; simp [matched, waiting, userSTTWaitingVerify, userSTTActive]
    · left; simp [matched]

end AuthState

theorem register_then_login_refused_alice :
    let env : AuthEnv := ⟨some, (· == ·), 15 * minute⟩
    let req : RegisterRequest := ⟨"alice@example.com", "secret1", "Alice", "Liddell", "", ""⟩
    let response : AuthResponse := ⟨⟨1, req.email, req.password, req.firstName, req.lastName,
      userSTTWaitingVerify, 0⟩, ⟨1, 2, 15 * minute⟩, 1⟩
    (AuthState.init.register env req 0).1 = .ok response ∧
      (((AuthState.init.register env req 0).2.login env
          ⟨req.email, req.password, req.ipAddress, req.userAgent⟩ second).1 = .error errInvalidCredentials ∨
        ((AuthState.init.register env req 0).2.login env
          ⟨req.email, req.password, req.ipAddress, req.userAgent⟩ second).1 = .error errUserInactive) :=
  by
  intro env req response
  have registered : (AuthState.init.register env req 0).1 = .ok response := by decide
  exact ⟨registered, AuthState.register_then_login_refused env .init req 0 second response registered⟩

/-! ### Interleavings -/

-- The tables and every call in flight, by position.
structure AuthSystem where
  state : AuthState
  calls : List Call

-- The scheduler runs the next step of call `i` at `now`.
def AuthSystem.step (env : AuthEnv) (sys : AuthSystem) (i : Nat) (now : Int) : AuthSystem :=
  match sys.calls.get? i with
  | some call => let next := call.step env sys.state now; ⟨next.2, sys.calls.set i next.1⟩
  | none => sys

def AuthSystem.run (env : AuthEnv) (sys : AuthSystem) : List (Nat × Int) → AuthSystem
  | [] => sys
  | (i, now) :: rest => run env (sys.step env i now) rest

end GoCleanArch
