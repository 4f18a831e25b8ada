import GoCleanArch.UserRoutes

/-!
`PUT /users/:id/password` of the user module's HTTP API (user_handler.go): the
`/users` group's middlewares, then `UserHandler.ChangePassword`, which binds the
JSON body, sets `req.UserID` to the path id and calls
`userUsecase.ChangePassword` (unnamed/part_012): `FindByID`, bcrypt's comparison
of the old password with the stored hash, the hash of the new one, and
`UserRepository.UpdatePassword`, an `UpdateFields` of the `password` column.

Nothing on the path writes the session table, and nothing that admits a request
reads the `password` column, so a password change revokes no session.
-/

namespace GoCleanArch

-- `domain.UserChangePasswordRequest`; bound with the tag `binding`, so
-- `validate:"required"` is not enforced.
structure UserChangePasswordRequest where
  userID : Nat
  oldPassword : String
  newPassword : String

namespace AuthState

def updatePassword (s : AuthState) (userID : Nat) (newPassword : String) : AuthState :=
  { s with users := SQLHandler.updateFields s.users userID fun u => { u with password := newPassword } }

def changePassword (env : AuthEnv) (s : AuthState) (req : UserChangePasswordRequest) :
    Except GoError AuthState :=
  match SQLHandler.findByID s.users req.userID with
  | (_, some _) => .error (.detailed errUserNotFound)
  | (user, none) =>
    if !env.compare user.password req.oldPassword then
      .error (.detailed (errInvalidCredentials.withError "old password is incorrect"))
    else
      match env.hash req.newPassword with
      | none => .error (.detailed errPasswordHashFailed)
      | some hashed => .ok (s.updatePassword req.userID hashed)

end AuthState

-- The middleware chain, then `UserHandler.ChangePassword` with `c.Param("id")`.
def putPassword (env : AuthEnv) (s : AuthState) (bearer : Option JwtClaims) (now : Int)
    (admitted : Bool) (id : Nat) (body : Except String UserChangePasswordRequest) :
    UserReply × AuthState :=
  match authenticator s bearer now with
  | .abort response => (.error response, s)
  | .next _ _ =>
    if !admitted then (.tooManyRequests, s)
    else
      match body with
      | .error message => (.badRequest message, s)
      | .ok req =>
        match s.changePassword env { req with userID := id } with
        | .error e => (.error (responseError e), s)
        | .ok s' => (.noContent, s')

namespace AuthState

/-! ### The user table after `UpdatePassword` -/

section UpdatePassword

variable (s : AuthState) (key : Nat) (password : String)

@[simp] theorem updatePassword_sessions : (s.updatePassword key password).sessions = s.sessions := rfl

theorem find?_updatePassword {p : User → Bool}
    (blind : ∀ u : User, p { u with password := password } = p u) :
    (s.updatePassword key password).users.find? p =
      (s.users.find? p).map fun u => if u.id = key then { u with password := password } else u := by
  simp only [updatePassword, SQLHandler.updateFields, List.find?_map]
  congr 2
  funext u
  simp only [Function.comp_apply, sqlModel_id_user]
  split
  · exact blind u
  · rfl

theorem findByID_updatePassword (id : Nat) :
    SQLHandler.findByID (s.updatePassword key password).users id =
      match SQLHandler.findByID s.users id with
      | (row, none) => (if row.id = key then { row with password := password } else row, none)
      | miss => miss := by
  unfold SQLHandler.findByID
  rw [find?_updatePassword s key password (p := fun row => SQLModel.id row == id) fun _ => rfl]
  cases s.users.find? (fun row => SQLModel.id row == id) <;> rfl

theorem authenticator_updatePassword (bearer : Option JwtClaims) (now : Int) :
    (authenticator (s.updatePassword key password) bearer now).continues =
      (authenticator s bearer now).continues := by
  unfold authenticator
  cases verify bearer now with
  | none => rfl
  | some claims =>
    dsimp only
    rw [updatePassword_sessions, findByID_updatePassword]
    rcases SQLHandler.findByID s.sessions claims.sid with ⟨session, sessionErr⟩
    rcases SQLHandler.findByID s.users claims.sub with ⟨row, _ | err⟩
    · dsimp only
      cases unexpectedError sessionErr with
      | some response => rfl
      | none =>
        have banned : (if row.id = key then { row with password := password } else row).isBanned =
            row.isBanned := by split <;> rfl
        dsimp only [unexpectedError]
        rw [banned]
        split_ifs <;> rfl
    · rfl

theorem refreshToken_updatePassword (env : AuthEnv) (req : RefreshTokenRequest) (now : Int) :
    ((s.updatePassword key password).refreshToken env req now).1.toBool =
      (s.refreshToken env req now).1.toBool := by
  unfold refreshToken
  rw [show (s.updatePassword key password).refreshFind req now = s.refreshFind req now from rfl]
  cases s.refreshFind req now with
  | error e => rfl
  | ok session =>
    dsimp only
    rw [show (s.updatePassword key password).invalidateRefreshToken session.id =
      (s.invalidateRefreshToken session.id).updatePassword key password from rfl]
    unfold refreshAuthorize findUser SQLHandler.findOne
    rw [find?_updatePassword _ key password (p := fun u => u.id == session.userID && u.deletedAt == 0)
      fun _ => rfl]
    cases (s.invalidateRefreshToken session.id).users.find?
      (fun u => u.id == session.userID && u.deletedAt == 0) with
    | none => rfl
    | some user =>
      have active : (if user.id = key then { user with password := password } else user).isActive =
          user.isActive := by split <;> rfl
      simp only [Option.map_some', active]
      split_ifs <;> rfl

end UpdatePassword

theorem changePassword_ok {env : AuthEnv} {s s' : AuthState} {req : UserChangePasswordRequest}
    (changed : s.changePassword env req = .ok s') :
    ∃ hashed, s' = s.updatePassword req.userID hashed := by
  unfold changePassword at changed
  split at changed
  · cases changed
  · split_ifs at changed
    split at changed
    · cases changed
    · cases changed
      exact ⟨_, rfl⟩

end AuthState

-- Whatever the route answers, it leaves the state as it was, or with one id's
-- password column rewritten.
theorem putPassword_state (env : AuthEnv) (s : AuthState) (bearer : Option JwtClaims) (now : Int)
    (admitted : Bool) (id : Nat) (body : Except String UserChangePasswordRequest) :
    (putPassword env s bearer now admitted id body).2 = s ∨
      ∃ hashed, (putPassword env s bearer now admitted id body).2 = s.updatePassword id hashed := by
  unfold putPassword
  split
  · exact .inl rfl
  · split
    · exact .inl rfl
    · split
      · exact .inl rfl
      · split
        · exact .inl rfl
        · next changed => exact .inr (AuthState.changePassword_ok changed)

/-- A password change revokes no session. Whatever `PUT /users/:id/password`
answers, the session table is unchanged, the `Authenticator` admits after it
exactly the bearer tokens it admitted before, and every refresh token that
refreshed before still refreshes. -/
theorem change_password_keeps_sessions (env : AuthEnv) (s : AuthState) (bearer : Option JwtClaims)
    (now : Int) (admitted : Bool) (id : Nat) (body : Except String UserChangePasswordRequest) :
    (putPassword env s bearer now admitted id body).2.sessions = s.sessions ∧
    (∀ token later, (authenticator (putPassword env s bearer now admitted id body).2 token later).continues =
      (authenticator s token later).continues) ∧
    (∀ req later, ((putPassword env s bearer now admitted id body).2.refreshToken env req later).1.toBool =
      (s.refreshToken env req later).1.toBool) := by
  rcases putPassword_state env s bearer now admitted id body with same | ⟨hashed, changed⟩
  · rw [same]
    exact ⟨rfl, fun _ _ => rfl, fun _ _ => rfl⟩
  · rw [changed]
    exact ⟨rfl, AuthState.authenticator_updatePassword s id hashed,
      AuthState.refreshToken_updatePassword s id hashed env⟩

end GoCleanArch
