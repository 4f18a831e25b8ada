import GoCleanArch.GoRuntime

/-!
The auth service's data: the `domain.User` and `domain.UserSession` rows, the
`DetailedError`s the auth and user use cases answer with, the access-token claims
of `common.JWTProvider`, and the generic `database.SQLHandler[T, V]` as gorm runs
it on one table.

A table is the list of its rows in creation order. Ids are the database's
`gen_random_uuid()` defaults and refresh tokens the provider's 32 random bytes in
hex: both are natural numbers drawn fresh from a counter, `0` standing for the
empty string (the `ID` of a zero struct, and the `refresh_token` that
`InvalidateRefreshToken` writes). Collisions of random values are left out, and so
are transport and connection failures: a repository call fails only where the
table's contents make it fail. `First` returns the first match by primary key;
the model takes the first in creation order, which differs only where several
rows match, as rows holding the empty token can.
-/

namespace GoCleanArch

/-! ### Errors -/

-- The fields of a `domain.DetailedError` that a response carries.
structure DetailedError where
  id : String
  statusCode : Nat
  message : String
  deriving DecidableEq, Repr

def DetailedError.withError (e : DetailedError) (message : String) : DetailedError :=
  { e with message := message }

def errInternalServerError : DetailedError :=
  ⟨"INTERNAL_SERVER_ERROR", 500,
    "An internal server error occurred, please contact the system administrator"⟩
def errInvalidCredentials : DetailedError :=
  ⟨"INVALID_CREDENTIALS", 401, "Invalid email or password"⟩
def errInvalidToken : DetailedError := ⟨"INVALID_TOKEN", 401, "Invalid or expired token"⟩
def errSessionExpired : DetailedError := ⟨"SESSION_EXPIRED", 401, "Session has expired"⟩
def errAccountBanned : DetailedError := ⟨"ACCOUNT_BANNED", 403, "Account has been banned"⟩
def errUserNotFound : DetailedError := ⟨"USER_NOT_FOUND", 404, "User not found"⟩
def errEmailAlreadyExists : DetailedError :=
  ⟨"EMAIL_ALREADY_EXISTS", 400, "User with this email already exists"⟩
def errUserCreationFailed : DetailedError :=
  ⟨"USER_CREATION_FAILED", 500, "Failed to create user"⟩
def errUserValidationFailed : DetailedError :=
  ⟨"USER_VALIDATION_FAILED", 400, "User validation failed"⟩
def errPasswordHashFailed : DetailedError :=
  ⟨"PASSWORD_HASH_FAILED", 500, "Failed to hash password"⟩
def errInvalidUserStatus : DetailedError := ⟨"INVALID_USER_STATUS", 400, "Invalid user status"⟩
def errUserInactive : DetailedError := ⟨"USER_INACTIVE", 403, "User account is inactive"⟩

-- The errors gorm returns: `First` on a miss, `FindOne`'s mapping of it, and a
-- unique index refusing a row.
inductive DbError where
  | recordNotFound
  | domainRecordNotFound
  | duplicateKey
  deriving DecidableEq, Repr

-- `common.IsRecordNotFound`: `errors.Is(err, domain.ErrRecordNotFound)`.
def isRecordNotFound (err : DbError) : Bool := err == .domainRecordNotFound

-- A Go `error` as a handler sees it: a `DetailedError`, or a database error
-- passed up unwrapped.
inductive GoError where
  | detailed (e : DetailedError)
  | db (e : DbError)
  deriving DecidableEq, Repr

-- `common.ResponseError`: anything but a `DetailedError` is answered as an
-- internal server error.
def responseError : GoError → DetailedError
  | .detailed e => e
  | .db _ => errInternalServerError

/-! ### Rows -/

def userSTTWaitingVerify : String := "waiting_verify"
def userSTTActive : String := "active"
def userSTTBanned : String := "banned"

-- `domain.User`; the default value is Go's zero struct.
structure User where
  id : Nat
  email : String
  password : String
  firstName : String
  lastName : String
  status : String
  deletedAt : Int
  deriving DecidableEq, Repr, Inhabited

def User.validate (u : User) : Except DetailedError Unit :=
  if u.email = "" then .error (errUserValidationFailed.withError "email must be not empty")
  else if u.firstName = "" then
    .error (errUserValidationFailed.withError "first_name must be not empty")
  else if u.lastName = "" then
    .error (errUserValidationFailed.withError "last_name must be not empty")
  else if u.status = userSTTWaitingVerify ∨ u.status = userSTTActive ∨ u.status = userSTTBanned then
    .ok ()
  else .error errInvalidUserStatus

def User.isBanned (u : User) : Bool := u.status == userSTTBanned
def User.isActive (u : User) : Bool := u.status == userSTTActive

-- `domain.UserSession`; `ExpiresAt` is milliseconds from the Unix epoch, `0` for none.
structure UserSession where
  id : Nat
  userID : Nat
  refreshToken : Nat
  ipAddress : String
  userAgent : String
  active : Bool
  expiresAt : Int
  deletedAt : Int
  deriving DecidableEq, Repr, Inhabited

-- `t.UnixMilli()`: Go's zero time is 62135596800 seconds before the Unix epoch.
def unixMilli (now : Int) : Int := (now - 62135596800 * second) / millisecond

def UserSession.isActive (s : UserSession) (nowMs : Int) : Bool :=
  s.active && (s.expiresAt == 0 || decide (nowMs < s.expiresAt))

theorem UserSession.isActive_of_no_expiry {s : UserSession} (nowMs : Int)
    (noExpiry : s.expiresAt = 0) : s.isActive nowMs = s.active := by
  simp [isActive, noExpiry]

/-! ### Access tokens -/

-- The claims of an access token; `ExpiresAt` is a `NumericDate`, whole seconds.
structure JwtClaims where
  sub : Nat
  sid : Nat
  expiresAt : Int
  deriving DecidableEq, Repr

def generateAccessToken (accessTokenExpiresIn : Int) (userID sessionID : Nat) (now : Int) :
    JwtClaims :=
  ⟨userID, sessionID, truncate (now + accessTokenExpiresIn) second⟩

-- `Verify(TokenTypeAccess, token)`: a token signed with the access secret is valid
-- while the clock is before its `exp`. A bearer that is no such token is `none`.
def verify (token : Option JwtClaims) (now : Int) : Option JwtClaims :=
  token.filter (fun claims => decide (now < claims.expiresAt))

/-! ### `database.SQLHandler` -/

-- The `domain.SQLModel` columns the handler reads and writes; `default` is the
-- zero entity `var entity T`.
class SQLModel (T : Type) extends Inhabited T where
  id : T → Nat
  deletedAt : T → Int
  withDeletedAt : T → Int → T
  id_withDeletedAt : ∀ (row : T) (stamp : Int), id (withDeletedAt row stamp) = id row

instance : SQLModel User where
  id := User.id
  deletedAt := User.deletedAt
  withDeletedAt row stamp := { row with deletedAt := stamp }
  id_withDeletedAt _ _ := rfl

instance : SQLModel UserSession where
  id := UserSession.id
  deletedAt := UserSession.deletedAt
  withDeletedAt row stamp := { row with deletedAt := stamp }
  id_withDeletedAt _ _ := rfl

@[simp] theorem sqlModel_id_user (row : User) : SQLModel.id row = row.id := rfl
@[simp] theorem sqlModel_id_session (row : UserSession) : SQLModel.id row = row.id := rfl

namespace SQLHandler

variable {T : Type}

-- `FindOne`: the first row the filter keeps, or `domain.ErrRecordNotFound`.
def findOne (rows : List T) (filter : T → Bool) : Except DbError T :=
  match rows.find? filter with
  | some row => .ok row
  | none => .error .domainRecordNotFound

theorem mem_of_findOne {rows : List T} {filter : T → Bool} {row : T}
    (found : findOne rows filter = .ok row) : row ∈ rows ∧ filter row = true := by
  unfold findOne at found
  split at found
  · cases found
    rename_i hit
    exact ⟨List.mem_of_find?_eq_some hit, List.find?_some hit⟩
  · cases found

variable [SQLModel T]

-- `FindByID`: `First` on `id = ?`, with no `deleted_at` filter. On a miss it
-- returns the zero entity with `gorm.ErrRecordNotFound`, never a nil pointer.
def findByID (rows : List T) (key : Nat) : T × Option DbError :=
  match rows.find? (fun row => SQLModel.id row == key) with
  | some row => (row, none)
  | none => (default, some .recordNotFound)

-- `Update`: gorm's `Save` writes every column of the rows with the entity's id
-- (`merge old new` keeps the omitted ones of `old`), and inserts the entity when
-- no row has that id.
def update (rows : List T) (entity : T) (merge : T → T → T) : List T :=
  if rows.any (fun row => SQLModel.id row == SQLModel.id entity) then
    rows.map (fun row => if SQLModel.id row = SQLModel.id entity then merge row entity else row)
  else rows ++ [entity]

def updateFields (rows : List T) (key : Nat) (fields : T → T) : List T :=
  rows.map (fun row => if SQLModel.id row = key then fields row else row)

-- `DeleteByID`: a soft delete, `deleted_at = now` where `id = ? AND deleted_at = 0`.
def deleteByID (rows : List T) (key : Nat) (nowMs : Int) : List T :=
  updateFields rows key
    (fun row => if SQLModel.deletedAt row = 0 then SQLModel.withDeletedAt row nowMs else row)

theorem findByID_of_find {rows : List T} {key : Nat} {row : T}
    (found : rows.find? (fun row => SQLModel.id row == key) = some row) :
    findByID rows key = (row, none) := by
  simp [findByID, found]

theorem findByID_miss {rows : List T} {key : Nat} {row : T} {err : DbError}
    (missed : findByID rows key = (row, some err)) : err = .recordNotFound := by
  unfold findByID at missed
  split at missed <;> cases missed
  rfl

theorem mem_of_findByID {rows : List T} {key : Nat} {row : T}
    (found : findByID rows key = (row, none)) : row ∈ rows ∧ SQLModel.id row = key := by
  unfold findByID at found
  split at found
  · cases found
    rename_i hit
    exact ⟨List.mem_of_find?_eq_some hit, by simpa using List.find?_some hit⟩
  · cases found

theorem mem_updateFields {rows : List T} {key : Nat} {fields : T → T} {row : T}
    (member : row ∈ updateFields rows key fields) :
    ∃ old ∈ rows, row = if SQLModel.id old = key then fields old else old := by
  simpa [updateFields, eq_comm] using member

theorem mem_update {rows : List T} {entity : T} {merge : T → T → T} {row : T}
    (member : row ∈ update rows entity merge) :
    row = entity ∨ ∃ old ∈ rows, row = if SQLModel.id old = SQLModel.id entity then
      merge old entity else old := by
  unfold update at member
  split at member
  · exact .inr (by simpa [eq_comm] using member)
  · rename_i absent
    rcases List.mem_append.mp member with old | new
    · have other : SQLModel.id row ≠ SQLModel.id entity := fun same =>
        absent (List.any_eq_true.mpr ⟨row, old, by simp [same]⟩)
      exact .inr ⟨row, old, by simp [other]⟩
    · exact .inl (List.mem_singleton.mp new)

theorem mem_update_replace {rows : List T} {entity row : T}
    (member : row ∈ update rows entity (fun _ new => new)) :
    row = entity ∨ (row ∈ rows ∧ SQLModel.id row ≠ SQLModel.id entity) := by
  rcases mem_update member with same | ⟨old, old_mem, rfl⟩
  · exact .inl same
  · by_cases hit : SQLModel.id old = SQLModel.id entity
    · exact .inl (by simp [hit])
    · exact .inr ⟨by simpa [hit] using old_mem, by simp [hit]⟩

theorem map_id_update (rows : List T) (entity : T) (merge : T → T → T)
    (present : ∃ row ∈ rows, SQLModel.id row = SQLModel.id entity)
    (keepsID : ∀ old, SQLModel.id (merge old entity) = SQLModel.id entity) :
    (update rows entity merge).map SQLModel.id = rows.map SQLModel.id := by
  have found : rows.any (fun row => SQLModel.id row == SQLModel.id entity) = true := by
    simpa using present
  simp only [update, found, if_true, List.map_map]
  congr 1
  funext row
  by_cases hit : SQLModel.id row = SQLModel.id entity <;> simp [hit, keepsID]

theorem map_id_updateFields (rows : List T) (key : Nat) (fields : T → T)
    (keepsID : ∀ row, SQLModel.id (fields row) = SQLModel.id row) :
    (updateFields rows key fields).map SQLModel.id = rows.map SQLModel.id := by
  simp only [updateFields, List.map_map]
  congr 1
  funext row
  by_cases hit : SQLModel.id row = key <;> simp [hit, keepsID]

end SQLHandler

end GoCleanArch
