import GoCleanArch.SessionSafety

/-!
`middlewares.Authenticator`: the bearer token, the session it names, and the user
it names, each looked up with `SQLHandler.FindByID`.

The bearer is the token `extractHeaderData` takes from an `Authorization:
Bearer` header, as the claims it carries when it is signed with the access
secret, and `none` otherwise. `FindByID` filters on the id alone and returns a
pointer even on a miss, so the middleware's nil checks never fire, and its miss,
`gorm.ErrRecordNotFound`, is not the `domain.ErrRecordNotFound` that
`IsRecordNotFound` looks for.
-/

namespace GoCleanArch

-- The request goes on to the next handler with the user and session the
-- middleware put in the context, or the chain is aborted with a response.
inductive AuthOutcome where
  | next (user : User) (sessionID : Nat)
  | abort (response : DetailedError)
  deriving DecidableEq, Repr

def AuthOutcome.continues : AuthOutcome → Bool
  | .next _ _ => true
  | .abort _ => false

def unexpectedError : Option DbError → Option DetailedError
  | some err => if isRecordNotFound err then none else some (responseError (.db err))
  | none => none

def authenticator (s : AuthState) (bearer : Option JwtClaims) (now : Int) : AuthOutcome :=
  match verify bearer now with
  | none => .abort errInvalidToken
  | some claims =>
    match SQLHandler.findByID s.sessions claims.sid with
    | (session, sessionErr) =>
      match unexpectedError sessionErr with
      | some response => .abort response
      | none =>
        if !session.isActive (unixMilli now) then .abort errSessionExpired
        else
          match SQLHandler.findByID s.users claims.sub with
          | (user, userErr) =>
            match unexpectedError userErr with
            -- `ResponseError` aborts the chain; the handler goes on with the zero
            -- user, which is not banned, and its `c.Next` runs no further handler
            | some response => .abort response
            | none => if user.isBanned then .abort errAccountBanned else .next user session.id

def aliceDeleted : List AuthReply × AuthState :=
  AuthState.serve plainEnv .init
    [(.register ⟨"alice@example.com", "secret1", "Alice", "Liddell", "", ""⟩, 0),
     (.deleteUser 1, second)]

-- The access token Register gave her still passes the middleware.
theorem authenticator_passes_deleted_user :
    aliceDeleted.2.users.all (·.deletedAt ≠ 0) = true ∧
      (authenticator aliceDeleted.2 (aliceDeleted.1.head?.bind AuthReply.accessToken?)
        (2 * second)).continues = true := by
  decide

end GoCleanArch
