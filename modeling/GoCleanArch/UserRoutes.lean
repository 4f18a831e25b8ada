import GoCleanArch.Authenticator

/-!
`PUT /users/:id` of the user module's HTTP API (user_handler.go): the `/users`
group's middlewares, `Authenticator` and `APIRateLimits`, then `UserHandler.Update`,
which binds the JSON body and hands the path id and the request to
`userUsecase.Update` (`AuthState.updateUser`).

The rate limiter keeps its counters in the cache, not in the user table; its
verdict for the request is the input `admitted`, and a refused request is answered
`tooManyRequests`. A body is the request `ShouldBindJSON` decodes, or the text of
its error. The group has no `RequireAnyRoles`, and the handler never reads the
user the middleware put in the context, so the route has no input for the
caller's roles: the statements below hold for every caller.
-/

namespace GoCleanArch

-- What the route answers: `ResponseBadRequest` with the bind error's text,
-- `ResponseError` with the error's `DetailedError`, the limiter's refusal, or
-- `ResponseNoContent`.
inductive UserReply where
  | badRequest (message : String)
  | error (response : DetailedError)
  | tooManyRequests
  | noContent
  deriving DecidableEq, Repr

def putUser (s : AuthState) (bearer : Option JwtClaims) (now : Int) (admitted : Bool) (id : Nat)
    (body : Except String UserUpdateRequest) : UserReply × AuthState :=
  match authenticator s bearer now with
  | .abort response => (.error response, s)
  | .next _ _ =>
    if !admitted then (.tooManyRequests, s)
    else
      match body with
      | .error message => (.badRequest message, s)
      | .ok req =>
        match s.updateUser id req with
        | .error e => (.error (responseError e), s)
        | .ok s' => (.noContent, s')

theorem putUser_of_next {s : AuthState} {bearer : Option JwtClaims} {now : Int} {caller : User}
    {sessionID : Nat} (next : authenticator s bearer now = .next caller sessionID) (id : Nat)
    (req : UserUpdateRequest) :
    putUser s bearer now true id (.ok req) =
      match s.updateUser id req with
      | .error e => (.error (responseError e), s)
      | .ok s' => (.noContent, s') := by
  simp only [putUser, next, Bool.not_true, if_false]
  rfl

namespace AuthState

theorem updateUser_status {s : AuthState} {id : Nat} {target : User}
    (found : SQLHandler.findByID s.users id = (target, none)) (status : String)
    (valid : { target with status := status }.validate = .ok ())
    (unique : (s.users.any fun u => u.id != target.id && u.email == target.email) = false) :
    s.updateUser id ⟨none, none, none, some status⟩ =
      .ok { s with users := (SQLHandler.update s.users { target with status := status }
        fun old new => { new with password := old.password }) } := by
  simp only [updateUser, found, Option.getD_none, Option.getD_some, valid, unique]
  rfl

end AuthState

theorem putUser_sets_status {s : AuthState} {bearer : Option JwtClaims} {now : Int} {caller : User}
    {sessionID : Nat} (next : authenticator s bearer now = .next caller sessionID) {id : Nat}
    {target : User} (found : SQLHandler.findByID s.users id = (target, none)) (status : String)
    (valid : { target with status := status }.validate = .ok ())
    (unique : (s.users.any fun u => u.id != target.id && u.email == target.email) = false) :
    putUser s bearer now true id (.ok ⟨none, none, none, some status⟩) =
      (.noContent, { s with users := (SQLHandler.update s.users { target with status := status }
        fun old new => { new with password := old.password }) }) := by
  rw [putUser_of_next next, AuthState.updateUser_status found status valid unique]

def aliceAndBob : List AuthReply × AuthState :=
  AuthState.serve plainEnv .init
    [(.register ⟨"alice@example.com", "secret1", "Alice", "Liddell", "", ""⟩, 0),
     (.register ⟨"bob@example.com", "secret2", "Bob", "Builder", "", ""⟩, 0)]

-- With her own access token Alice bans Bob, and activates herself.
theorem put_user_bans_other_account :
    (putUser aliceAndBob.2 (aliceAndBob.1.head?.bind AuthReply.accessToken?) second true 3
        (.ok ⟨none, none, none, some userSTTBanned⟩)).1 = .noContent ∧
      ((putUser aliceAndBob.2 (aliceAndBob.1.head?.bind AuthReply.accessToken?) second true 3
        (.ok ⟨none, none, none, some userSTTBanned⟩)).2.users.map fun u => (u.id, u.status)) =
        [(1, userSTTWaitingVerify), (3, userSTTBanned)] ∧
      ((putUser aliceAndBob.2 (aliceAndBob.1.head?.bind AuthReply.accessToken?) second true 1
        (.ok ⟨none, none, none, some userSTTActive⟩)).2.users.map fun u => (u.id, u.status)) =
        [(1, userSTTActive), (3, userSTTWaitingVerify)] := by
  decide

end GoCleanArch
