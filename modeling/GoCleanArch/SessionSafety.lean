import GoCleanArch.AuthUsecase
import Mathlib.Data.List.Nodup

/-!
The session table under the auth calls. Run one after another, the calls keep
the table well formed (`WellFormed`), so a refresh token other than the empty one
is accepted at most once, a session stays logged out once Logout has returned for
it, and RefreshToken answers alike at every instant: no row ever gets an expiry,
and `RefreshTokenExpiresIn` is read by no call. `SessionStep` says once what a
call can do to the table, and every invariant is derived from it.

Interleaved with other calls, RefreshToken's read, invalidation and full-row
write are separate steps; the traces at the end show a token accepted twice and
a logout undone.
-/

namespace GoCleanArch

-- The refresh token a call presented, when it was a RefreshToken that succeeded.
def acceptedToken? : AuthOp → AuthReply → Option Nat
  | .refreshToken req, .response (.ok _) => some req.refreshToken
  | _, _ => none

def acceptedTokens (ops : List (AuthOp × Int)) (replies : List AuthReply) : List Nat :=
  (ops.zip replies).filterMap (fun call => acceptedToken? call.1.1 call.2)

theorem acceptedTokens_cons (op : AuthOp) (now : Int) (ops : List (AuthOp × Int))
    (reply : AuthReply) (replies : List AuthReply) :
    acceptedTokens ((op, now) :: ops) (reply :: replies) =
      (acceptedToken? op reply).toList ++ acceptedTokens ops replies := by
  cases accepted : acceptedToken? op reply <;> simp [acceptedTokens, accepted]

namespace AuthState

/-! ### What each call does to the session table -/

theorem refreshFind_ok {s : AuthState} {req : RefreshTokenRequest} {now : Int}
    {session : UserSession} (found : s.refreshFind req now = .ok session) :
    session ∈ s.sessions ∧ session.refreshToken = req.refreshToken ∧
      session.isActive (unixMilli now) = true := by
  unfold refreshFind at found
  split at found
  · cases found
  · rename_i row read
    obtain ⟨member, token⟩ := SQLHandler.mem_of_findOne read
    split at found
    · cases found
      exact ⟨member, by simpa using token, by assumption⟩
    · cases found

theorem createUser_keeps_sessions {env : AuthEnv} {s s' : AuthState} {req : UserCreateRequest}
    {user : User} (created : s.createUser env req = .ok (user, s')) :
    s'.sessions = s.sessions ∧ s'.nextToken = s.nextToken ∧ s.nextID ≤ s'.nextID := by
  simp only [createUser] at created
  split at created
  · cases created
  · split at created
    · cases created
    · split at created
      · cases created
      · split at created
        · cases created
        · cases created
          exact ⟨rfl, rfl, Nat.le_succ _⟩

theorem updateUser_keeps_sessions {s s' : AuthState} {userID : Nat} {req : UserUpdateRequest}
    (updated : s.updateUser userID req = .ok s') :
    s'.sessions = s.sessions ∧ s'.nextToken = s.nextToken ∧ s'.nextID = s.nextID := by
  simp only [updateUser] at updated
  split at updated
  · cases updated
  · split at updated
    · cases updated
    · split at updated
      · cases updated
      · cases updated
        exact ⟨rfl, rfl, rfl⟩

-- What one call can do to the session table and the counters (`apply_sessionStep`).
inductive SessionStep (s : AuthState) (now : Int) : AuthReply → AuthState → Prop
  -- the table is untouched and no session is handed out
  | keep {reply : AuthReply} {s' : AuthState} :
      s'.sessions = s.sessions → s'.nextToken = s.nextToken → s.nextID ≤ s'.nextID →
      (∀ r, reply ≠ .response (.ok r)) → SessionStep s now reply s'
  -- Register or Login opens a session with a fresh id and token
  | opened {r : AuthResponse} {s' : AuthState} (session : UserSession) :
      s.nextID ≤ session.id → session.id < s'.nextID → session.refreshToken = s.nextToken →
      session.expiresAt = 0 → s'.sessions = s.sessions ++ [session] →
      s'.nextToken = s.nextToken + 1 → r.accessToken.sid = session.id →
      SessionStep s now (.response (.ok r)) s'
  -- RefreshToken found `session` by its token and invalidated it, then failed
  | invalidated {reply : AuthReply} {s' : AuthState} (req : RefreshTokenRequest)
      (session : UserSession) :
      s.refreshFind req now = .ok session →
      s'.sessions = (s.invalidateRefreshToken session.id).sessions →
      s'.nextToken = s.nextToken → s'.nextID = s.nextID →
      (∀ r, reply ≠ .response (.ok r)) → SessionStep s now reply s'
  -- or succeeded, writing back the row it read with a fresh token
  | refreshed {r : AuthResponse} {s' : AuthState} (req : RefreshTokenRequest)
      (session : UserSession) :
      s.refreshFind req now = .ok session →
      s'.sessions = ((s.invalidateRefreshToken session.id).saveSession
        (refreshedSession req session s.nextToken)).sessions →
      s'.nextToken = s.nextToken + 1 → s'.nextID = s.nextID → r.accessToken.sid = session.id →
      SessionStep s now (.response (.ok r)) s'
  -- Logout read an active row and wrote it back inactive
  | loggedOut {s' : AuthState} (row : UserSession) :
      row ∈ s.sessions → row.active = true →
      s'.sessions = (s.saveSession { row with active := false }).sessions →
      s'.nextToken = s.nextToken → s'.nextID = s.nextID →
      SessionStep s now (.done (.ok ())) s'

theorem openSession_step (env : AuthEnv) {s base : AuthState} (user : User)
    (ipAddress userAgent : String) (now : Int) (sessions : base.sessions = s.sessions)
    (tokens : base.nextToken = s.nextToken) (ids : s.nextID ≤ base.nextID) :
    SessionStep s now (.response (.ok (base.openSession env user ipAddress userAgent now).1))
      (base.openSession env user ipAddress userAgent now).2 :=
  .opened ⟨base.nextID, user.id, base.nextToken, ipAddress, userAgent, true, 0, 0⟩ ids
    (Nat.lt_succ_self _) tokens rfl (by simp [openSession, sessions]) (by simp [openSession, tokens])
    rfl

theorem register_step (env : AuthEnv) (s : AuthState) (req : RegisterRequest) (now : Int) :
    SessionStep s now (.response (s.register env req now).1) (s.register env req now).2 := by
  unfold register
  split
  · exact .keep rfl rfl le_rfl (by simp)
  · exact .keep rfl rfl le_rfl (by simp)
  · rename_i user base created
    obtain ⟨sessions, tokens, ids⟩ := createUser_keeps_sessions created
    exact openSession_step env user _ _ now sessions tokens ids

theorem login_step (env : AuthEnv) (s : AuthState) (req : LoginRequest) (now : Int) :
    SessionStep s now (.response (s.login env req now).1) (s.login env req now).2 := by
  unfold login
  split
  · exact .keep rfl rfl le_rfl (by simp)
  · split
    · exact .keep rfl rfl le_rfl (by simp)
    · split
      · exact .keep rfl rfl le_rfl (by simp)
      · exact openSession_step env _ _ _ now rfl rfl le_rfl

-- RefreshToken run alone: it fails before writing, fails after the invalidation,
-- or writes back the row it read with the next token.
theorem refreshToken_cases (env : AuthEnv) (s : AuthState) (req : RefreshTokenRequest)
    (now : Int) :
    (∃ e, s.refreshToken env req now = (.error e, s)) ∨
    ∃ session, s.refreshFind req now = .ok session ∧
      ((∃ e, s.refreshToken env req now = (.error e, s.invalidateRefreshToken session.id)) ∨
       ∃ user, s.refreshToken env req now =
        (.ok ⟨user, generateAccessToken env.accessTokenExpiresIn user.id session.id now,
            s.nextToken⟩,
          ({ s.invalidateRefreshToken session.id with nextToken := s.nextToken + 1 }).saveSession
            (refreshedSession req session s.nextToken))) := by
  unfold refreshToken
  split
  · exact .inl ⟨_, rfl⟩
  · rename_i session found
    refine .inr ⟨session, found, ?_⟩
    dsimp only
    unfold refreshAuthorize
    cases lookup : (s.invalidateRefreshToken session.id).findUser (fun u => u.id == session.userID)
      with
    | error _ => exact .inl ⟨errUserNotFound, by simp only [lookup]⟩
    | ok user =>
      cases active : user.isActive
      · exact .inl ⟨errUserInactive, by simp only [lookup, active, Bool.false_eq_true, if_false]⟩
      · exact .inr ⟨user, by simp only [lookup, active, if_true]; rfl⟩

theorem refreshToken_step (env : AuthEnv) (s : AuthState) (req : RefreshTokenRequest)
    (now : Int) :
    SessionStep s now (.response (s.refreshToken env req now).1)
      (s.refreshToken env req now).2 := by
  rcases refreshToken_cases env s req now with ⟨e, failed⟩ | ⟨session, found, ⟨e, failed⟩ | ⟨user, ok⟩⟩
  · rw [failed]
    exact .keep rfl rfl le_rfl (by simp)
  · rw [failed]
    exact .invalidated req session found rfl rfl rfl (by simp)
  · rw [ok]
    exact .refreshed req session found rfl rfl rfl rfl

theorem logout_step (s : AuthState) (sessionID : Nat) (now : Int) :
    SessionStep s now (.done (match (s.logout sessionID).1 with
      | .ok () => .ok ()
      | .error e => .error (.detailed e))) (s.logout sessionID).2 := by
  rcases found : SQLHandler.findByID s.sessions sessionID with ⟨row, _ | err⟩
  · by_cases active : row.active = true
    · simp only [logout, logoutFind, found, active, if_true]
      exact .loggedOut row (SQLHandler.mem_of_findByID found).1 active rfl rfl rfl
    · simp only [logout, logoutFind, found, active]
      exact .keep rfl rfl le_rfl (by simp)
  · simp only [logout, logoutFind, found]
    exact .keep rfl rfl le_rfl (by simp)

theorem apply_sessionStep (env : AuthEnv) (s : AuthState) (now : Int) (op : AuthOp) :
    SessionStep s now (s.apply env now op).1 (s.apply env now op).2 := by
  cases op with
  | register req => exact register_step env s req now
  | login req => exact login_step env s req now
  | refreshToken req => exact refreshToken_step env s req now
  | logout sessionID => exact logout_step s sessionID now
  | updateUser userID req =>
      simp only [apply]
      split
      · exact .keep rfl rfl le_rfl (by simp)
      · rename_i updated
        obtain ⟨sessions, tokens, ids⟩ := updateUser_keeps_sessions updated
        exact .keep sessions tokens (le_of_eq ids.symm) (by simp)
  | deleteUser userID => exact .keep rfl rfl le_rfl (by simp [apply])

/-! ### Rows after a write -/

theorem mem_invalidateRefreshToken {s : AuthState} {key : Nat} {row : UserSession}
    (member : row ∈ (s.invalidateRefreshToken key).sessions) :
    ∃ old ∈ s.sessions, (old.id = key ∧ row = { old with refreshToken := 0 }) ∨
      (old.id ≠ key ∧ row = old) := by
  obtain ⟨old, old_mem, rfl⟩ := SQLHandler.mem_updateFields member
  refine ⟨old, old_mem, ?_⟩
  by_cases hit : old.id = key
  · exact .inl ⟨hit, by simp [hit]⟩
  · exact .inr ⟨hit, by simp [hit]⟩

theorem map_id_invalidateRefreshToken (s : AuthState) (key : Nat) :
    (s.invalidateRefreshToken key).sessions.map (·.id) = s.sessions.map (·.id) :=
  SQLHandler.map_id_updateFields s.sessions key _ (fun _ => rfl)

theorem mem_saveSession {s : AuthState} {entity row : UserSession}
    (member : row ∈ (s.saveSession entity).sessions) :
    row = entity ∨ (row ∈ s.sessions ∧ row.id ≠ entity.id) :=
  SQLHandler.mem_update_replace member

theorem map_id_saveSession {s : AuthState} {entity : UserSession}
    (present : ∃ row ∈ s.sessions, row.id = entity.id) :
    (s.saveSession entity).sessions.map (·.id) = s.sessions.map (·.id) :=
  SQLHandler.map_id_update s.sessions entity (fun _ new => new) present (fun _ => rfl)

theorem mem_refreshed {s : AuthState} {session entity row : UserSession}
    (same : entity.id = session.id)
    (member : row ∈ ((s.invalidateRefreshToken session.id).saveSession entity).sessions) :
    row = entity ∨ (row ∈ s.sessions ∧ row.id ≠ session.id) := by
  rcases mem_saveSession member with written | ⟨kept, other⟩
  · exact .inl written
  · rw [same] at other
    obtain ⟨old, old_mem, ⟨hit, rfl⟩ | ⟨_, rfl⟩⟩ := mem_invalidateRefreshToken kept
    · exact absurd hit other
    · exact .inr ⟨old_mem, other⟩

/-! ### The invariant -/

-- Ids and tokens below their counters, distinct ids, no expiry, and each
-- non-empty token held by one session.
structure WellFormed (s : AuthState) : Prop where
  bounded : ∀ row ∈ s.sessions, row.id < s.nextID ∧ row.refreshToken < s.nextToken
  noExpiry : ∀ row ∈ s.sessions, row.expiresAt = 0
  idsNodup : (s.sessions.map (·.id)).Nodup
  tokenOwner : ∀ a ∈ s.sessions, ∀ b ∈ s.sessions, a.refreshToken = b.refreshToken →
    a.refreshToken ≠ 0 → a.id = b.id

theorem init_wellFormed : WellFormed init :=
  ⟨by simp [init], by simp [init], by simp [init], by simp [init]⟩

section Step

variable {s s' : AuthState} {now : Int} {reply : AuthReply}

-- A table in which one row of `s` gives way to `new`, with the row's id and expiry
-- and with the row's token or the next fresh one, stays well formed.
theorem WellFormed.replace (wf : WellFormed s) {row new : UserSession} (member : row ∈ s.sessions)
    (sameID : new.id = row.id) (expiry : new.expiresAt = row.expiresAt)
    (token : new.refreshToken = row.refreshToken ∨
      (new.refreshToken = s.nextToken ∧ s.nextToken < s'.nextToken))
    (tokens : s.nextToken ≤ s'.nextToken) (ids : s'.nextID = s.nextID)
    (rows : ∀ {r}, r ∈ s'.sessions → r = new ∨ (r ∈ s.sessions ∧ r.id ≠ new.id))
    (sameIDs : s'.sessions.map (·.id) = s.sessions.map (·.id)) : WellFormed s' := by
  have bounded := wf.bounded row member
  refine ⟨fun r r_mem => ?_, fun r r_mem => ?_, sameIDs ▸ wf.idsNodup, ?_⟩
  · rcases rows r_mem with rfl | ⟨kept, _⟩
    · rcases token with kept | ⟨fresh, _⟩ <;> omega
    · have := wf.bounded r kept; omega
  · rcases rows r_mem with rfl | ⟨kept, _⟩
    · rw [expiry]; exact wf.noExpiry row member
    · exact wf.noExpiry r kept
  -- the new row's token is the old row's, whose owner is the old row, or no row's yet
  have owner : ∀ b ∈ s.sessions, b.id ≠ new.id → new.refreshToken = b.refreshToken →
      new.refreshToken ≠ 0 → False := by
    intro b b_mem other same nonempty
    rcases token with kept | ⟨fresh, _⟩
    · have owned := wf.tokenOwner row member b b_mem (kept.symm.trans same)
        (fun zero => nonempty (kept.trans zero))
      exact other (sameID.trans owned).symm
    · have := (wf.bounded b b_mem).2; omega
  intro a a_mem b b_mem same nonempty
  rcases rows a_mem with rfl | ⟨a_kept, a_other⟩ <;> rcases rows b_mem with rfl | ⟨b_kept, b_other⟩
  · rfl
  · exact (owner b b_kept b_other same nonempty).elim
  · exact (owner a a_kept a_other same.symm (same ▸ nonempty)).elim
  · exact wf.tokenOwner a a_kept b b_kept same nonempty

theorem SessionStep.wellFormed (step : SessionStep s now reply s') (wf : WellFormed s) :
    WellFormed s' := by
  cases step with
  | keep sessions tokens ids _ =>
      refine ⟨?_, ?_, ?_, ?_⟩ <;> simp only [sessions, tokens]
      · exact fun row member => by have := wf.bounded row member; omega
      · exact wf.noExpiry
      · exact wf.idsNodup
      · exact wf.tokenOwner
  | opened session low high token expiry sessions tokens _ =>
      have old := wf.bounded
      refine ⟨?_, ?_, ?_, ?_⟩ <;> simp only [sessions, tokens]
      · intro row member
        rcases List.mem_append.mp member with kept | added
        · have := old row kept; omega
        · rw [List.mem_singleton.mp added]; omega
      · intro row member
        rcases List.mem_append.mp member with kept | added
        · exact wf.noExpiry row kept
        · rw [List.mem_singleton.mp added, expiry]
      · rw [List.map_append, List.nodup_append]
        refine ⟨wf.idsNodup, List.nodup_singleton _, fun id older newer => ?_⟩
        obtain ⟨row, kept, rfl⟩ := List.mem_map.mp older
        have := (old row kept).1
        simp only [List.map_cons, List.map_nil, List.mem_singleton] at newer
        omega
      · intro a a_mem b b_mem same _
        rcases List.mem_append.mp a_mem with a_kept | a_added <;>
          rcases List.mem_append.mp b_mem with b_kept | b_added
        · exact wf.tokenOwner a a_kept b b_kept same ‹_›
        · rw [List.mem_singleton.mp b_added] at same ⊢
          have := (old a a_kept).2; omega
        · rw [List.mem_singleton.mp a_added] at same ⊢
          have := (old b b_kept).2; omega
        · rw [List.mem_singleton.mp a_added, List.mem_singleton.mp b_added]
  | invalidated req session found sessions tokens ids _ =>
      refine ⟨?_, ?_, ?_, ?_⟩ <;> simp only [sessions, tokens, ids]
      · intro row member
        obtain ⟨_, old_mem, ⟨_, rfl⟩ | ⟨_, rfl⟩⟩ := mem_invalidateRefreshToken member <;>
          have := wf.bounded _ old_mem <;> simp only at this ⊢ <;> omega
      · intro row member
        obtain ⟨_, old_mem, ⟨_, rfl⟩ | ⟨_, rfl⟩⟩ := mem_invalidateRefreshToken member <;>
          have := wf.noExpiry _ old_mem <;> exact this
      · rw [map_id_invalidateRefreshToken]; exact wf.idsNodup
      · intro a a_mem b b_mem same nonempty
        obtain ⟨_, a_old, ⟨_, rfl⟩ | ⟨_, rfl⟩⟩ := mem_invalidateRefreshToken a_mem
        · exact absurd rfl nonempty
        · obtain ⟨_, b_old, ⟨_, rfl⟩ | ⟨_, rfl⟩⟩ := mem_invalidateRefreshToken b_mem
          · exact absurd same nonempty
          · exact wf.tokenOwner _ a_old _ b_old same nonempty
  | refreshed req session found sessions tokens ids _ =>
      obtain ⟨session_mem, -, -⟩ := refreshFind_ok found
      have written : ∃ row ∈ (s.invalidateRefreshToken session.id).sessions, row.id = session.id := by
        have := List.mem_map_of_mem (·.id) session_mem
        rw [← map_id_invalidateRefreshToken s session.id, List.mem_map] at this
        exact this
      refine @WellFormed.replace s s' wf session (refreshedSession req session s.nextToken)
        session_mem rfl rfl (.inr ⟨rfl, by omega⟩) (by omega) ids
        (fun member => mem_refreshed (by rfl) (by rwa [sessions] at member)) ?_
      rw [sessions, @map_id_saveSession _ (refreshedSession req session s.nextToken) written,
        map_id_invalidateRefreshToken]
  | loggedOut row member _ sessions tokens ids =>
      refine @WellFormed.replace s s' wf row { row with active := false } member rfl rfl (.inl rfl)
        (by omega) ids (fun r_mem => mem_saveSession (by rwa [sessions] at r_mem)) ?_
      rw [sessions, @map_id_saveSession s { row with active := false } ⟨row, member, rfl⟩]

-- A token no row holds and the generator has gone past.
def Retired (token : Nat) (s : AuthState) : Prop :=
  token < s.nextToken ∧ ∀ row ∈ s.sessions, row.refreshToken ≠ token

-- A session that exists and is inactive, in every row that bears its id.
def LoggedOut (sessionID : Nat) (s : AuthState) : Prop :=
  sessionID < s.nextID ∧ ∀ row ∈ s.sessions, row.id = sessionID → row.active = false

theorem SessionStep.retired {token : Nat} (step : SessionStep s now reply s')
    (nonempty : token ≠ 0) (retired : Retired token s) : Retired token s' := by
  obtain ⟨passed, unheld⟩ := retired
  cases step with
  | keep sessions tokens _ _ => exact ⟨by omega, by rw [sessions]; exact unheld⟩
  | opened session _ _ token _ sessions tokens _ =>
      refine ⟨by omega, fun row member => ?_⟩
      rw [sessions] at member
      rcases List.mem_append.mp member with kept | added
      · exact unheld row kept
      · rw [List.mem_singleton.mp added, token]; omega
  | invalidated req session _ sessions tokens _ _ =>
      refine ⟨by omega, fun row member => ?_⟩
      rw [sessions] at member
      obtain ⟨_, old_mem, ⟨_, rfl⟩ | ⟨_, rfl⟩⟩ := mem_invalidateRefreshToken member
      · exact Ne.symm nonempty
      · exact unheld _ old_mem
  | refreshed req session _ sessions tokens _ _ =>
      refine ⟨by omega, fun row member => ?_⟩
      rw [sessions] at member
      rcases mem_refreshed (by rfl) member with rfl | ⟨kept, _⟩
      · simp only [refreshedSession]; omega
      · exact unheld row kept
  | loggedOut row member _ sessions tokens _ =>
      refine ⟨by omega, fun r r_mem => ?_⟩
      rw [sessions] at r_mem
      rcases mem_saveSession r_mem with rfl | ⟨kept, _⟩
      · exact unheld row member
      · exact unheld r kept

-- A logged-out session stays so, and no answer hands it out.
theorem SessionStep.loggedOut_stays {sessionID : Nat} (step : SessionStep s now reply s')
    (out : LoggedOut sessionID s) :
    LoggedOut sessionID s' ∧ ∀ r, reply = .response (.ok r) → r.accessToken.sid ≠ sessionID := by
  obtain ⟨existed, inactive⟩ := out
  cases step with
  | keep sessions _ ids succeeded =>
      exact ⟨⟨by omega, by rw [sessions]; exact inactive⟩, fun r same => absurd same (succeeded r)⟩
  | opened session low high _ _ sessions _ handed =>
      refine ⟨⟨by omega, fun row member named => ?_⟩, fun r same => ?_⟩
      · rw [sessions] at member
        rcases List.mem_append.mp member with kept | added
        · exact inactive row kept named
        · rw [List.mem_singleton.mp added] at named; omega
      · cases same; omega
  | invalidated req session _ sessions _ ids succeeded =>
      refine ⟨⟨by omega, fun row member named => ?_⟩, fun r same => absurd same (succeeded r)⟩
      rw [sessions] at member
      obtain ⟨_, old_mem, ⟨_, rfl⟩ | ⟨_, rfl⟩⟩ := mem_invalidateRefreshToken member <;>
        have := inactive _ old_mem named <;> exact this
  | refreshed req session found sessions _ ids handed =>
      obtain ⟨session_mem, -, active⟩ := refreshFind_ok found
      have other : session.id ≠ sessionID := fun named => by
        simp [UserSession.isActive, inactive session session_mem named] at active
      refine ⟨⟨by omega, fun row member named => ?_⟩, fun r same => ?_⟩
      · rw [sessions] at member
        rcases mem_refreshed (by rfl) member with rfl | ⟨kept, _⟩
        · exact absurd named other
        · exact inactive row kept named
      · cases same; rw [handed]; exact other
  | loggedOut row member _ sessions _ ids =>
      refine ⟨⟨by omega, fun r r_mem named => ?_⟩, fun r same => by cases same⟩
      rw [sessions] at r_mem
      rcases mem_saveSession r_mem with rfl | ⟨kept, _⟩
      · rfl
      · exact inactive r kept named

end Step

-- When Logout answers success, the session is logged out: it was inactive
-- already, or Logout wrote its only row back inactive.
theorem logout_loggedOut {s : AuthState} {sessionID : Nat} (wf : WellFormed s)
    (succeeded : (s.logout sessionID).1 = .ok ()) : LoggedOut sessionID (s.logout sessionID).2 := by
  rcases found : SQLHandler.findByID s.sessions sessionID with ⟨row, _ | err⟩
  · obtain ⟨member, named⟩ := SQLHandler.mem_of_findByID found
    simp only [sqlModel_id_session] at named
    have only : ∀ r ∈ s.sessions, r.id = sessionID → r = row := fun r r_mem same =>
      List.inj_on_of_nodup_map wf.idsNodup r_mem member (by simp only [same, named])
    have existed : sessionID < s.nextID := named ▸ (wf.bounded row member).1
    cases active : row.active
    · simp only [logout, logoutFind, found, active, Bool.false_eq_true, if_false]
      exact ⟨existed, fun r r_mem same => by rw [only r r_mem same, active]⟩
    · simp only [logout, logoutFind, found, active, if_true]
      refine ⟨existed, fun r r_mem same => ?_⟩
      rcases mem_saveSession r_mem with rfl | ⟨_, other⟩
      · rfl
      · exact absurd (same.trans named.symm) other
  · simp only [logout, logoutFind, found] at succeeded
    cases succeeded

/-! ### Whole runs -/

theorem serve_wellFormed (env : AuthEnv) {s : AuthState} (ops : List (AuthOp × Int))
    (wf : WellFormed s) : WellFormed (serve env s ops).2 := by
  induction ops generalizing s with
  | nil => exact wf
  | cons call rest ih => exact ih ((apply_sessionStep env s call.2 call.1).wellFormed wf)

theorem serve_retired (env : AuthEnv) {s : AuthState} {token : Nat} (ops : List (AuthOp × Int))
    (nonempty : token ≠ 0) (retired : Retired token s) : Retired token (serve env s ops).2 := by
  induction ops generalizing s with
  | nil => exact retired
  | cons call rest ih => exact ih ((apply_sessionStep env s call.2 call.1).retired nonempty retired)

theorem serve_loggedOut (env : AuthEnv) {s : AuthState} {sessionID : Nat}
    (ops : List (AuthOp × Int)) (out : LoggedOut sessionID s) :
    LoggedOut sessionID (serve env s ops).2 ∧
      ∀ r, .response (.ok r) ∈ (serve env s ops).1 → r.accessToken.sid ≠ sessionID := by
  induction ops generalizing s with
  | nil => exact ⟨out, by simp [serve]⟩
  | cons call rest ih =>
      obtain ⟨out', first⟩ := (apply_sessionStep env s call.2 call.1).loggedOut_stays out
      obtain ⟨later, replies⟩ := ih out'
      refine ⟨later, fun r member => ?_⟩
      rcases List.mem_cons.mp member with here | there
      · exact first r here.symm
      · exact replies r there

theorem apply_accepted (env : AuthEnv) {s : AuthState} {now : Int} {op : AuthOp} {token : Nat}
    (wf : WellFormed s) (accepted : acceptedToken? op (s.apply env now op).1 = some token) :
    (∃ row ∈ s.sessions, row.refreshToken = token) ∧
      (token ≠ 0 → Retired token (s.apply env now op).2) := by
  cases op with
  | refreshToken req =>
      simp only [apply] at accepted ⊢
      rcases refreshToken_cases env s req now with
        ⟨e, failed⟩ | ⟨session, found, ⟨e, failed⟩ | ⟨user, ok⟩⟩
      · simp [failed, acceptedToken?] at accepted
      · simp [failed, acceptedToken?] at accepted
      · simp only [ok, acceptedToken?, Option.some.injEq] at accepted ⊢
        subst accepted
        obtain ⟨session_mem, held, -⟩ := refreshFind_ok found
        have below := (wf.bounded session session_mem).2
        refine ⟨⟨session, session_mem, held⟩, fun nonempty => ⟨Nat.lt_succ_of_lt (held ▸ below), ?_⟩⟩
        intro row member same
        rcases mem_refreshed (by rfl) member with rfl | ⟨kept, other⟩
        · simp only [refreshedSession] at same; omega
        · exact other (wf.tokenOwner row kept session session_mem (same.trans held.symm)
            (same ▸ nonempty))
  | _ => simp [apply, acceptedToken?] at accepted

theorem serve_unaccepted (env : AuthEnv) {s : AuthState} {token : Nat} (ops : List (AuthOp × Int))
    (wf : WellFormed s) (nonempty : token ≠ 0) (retired : Retired token s) :
    token ∉ acceptedTokens ops (serve env s ops).1 := by
  induction ops generalizing s with
  | nil => simp [acceptedTokens, serve]
  | cons call rest ih =>
      obtain ⟨op, now⟩ := call
      have step := apply_sessionStep env s now op
      show token ∉ acceptedTokens ((op, now) :: rest)
        ((s.apply env now op).1 :: (serve env (s.apply env now op).2 rest).1)
      rw [acceptedTokens_cons, List.mem_append, not_or]
      refine ⟨fun first => ?_, ih (step.wellFormed wf) ?_⟩
      · obtain ⟨row, member, held⟩ := (apply_accepted env wf (by simpa using first)).1
        exact retired.2 row member held
      · exact step.retired nonempty retired

theorem serve_accepted_nodup (env : AuthEnv) {s : AuthState} (ops : List (AuthOp × Int))
    (wf : WellFormed s) : ((acceptedTokens ops (serve env s ops).1).filter (· ≠ 0)).Nodup := by
  induction ops generalizing s with
  | nil => simp [acceptedTokens, serve]
  | cons call rest ih =>
      obtain ⟨op, now⟩ := call
      have step := apply_sessionStep env s now op
      have later := ih (step.wellFormed wf)
      show ((acceptedTokens ((op, now) :: rest)
        ((s.apply env now op).1 :: (serve env (s.apply env now op).2 rest).1)).filter
          (· ≠ 0)).Nodup
      rw [acceptedTokens_cons, List.filter_append]
      cases first : acceptedToken? op (s.apply env now op).1 with
      | none => simpa using later
      | some token =>
          by_cases nonempty : token = 0
          · simpa [nonempty] using later
          · have kept : ([token] : List Nat).filter (· ≠ 0) = [token] := by simp [nonempty]
            rw [Option.toList_some, kept, List.singleton_append]
            refine List.nodup_cons.mpr ⟨fun again => ?_, later⟩
            exact serve_unaccepted env rest (step.wellFormed wf) nonempty
              ((apply_accepted env wf first).2 nonempty) (List.mem_of_mem_filter again)

/-! ### The instant of a refresh -/

theorem refreshFind_instant {s : AuthState} (wf : WellFormed s) (req : RefreshTokenRequest)
    (now₁ now₂ : Int) : s.refreshFind req now₁ = s.refreshFind req now₂ := by
  unfold refreshFind
  split
  · rfl
  · rename_i session read
    have noExpiry := wf.noExpiry session (SQLHandler.mem_of_findOne read).1
    rw [UserSession.isActive_of_no_expiry _ noExpiry, UserSession.isActive_of_no_expiry _ noExpiry]

theorem refreshToken_instant (env : AuthEnv) {s : AuthState} (wf : WellFormed s)
    (req : RefreshTokenRequest) (now₁ now₂ : Int) :
    (s.refreshToken env req now₁).2 = (s.refreshToken env req now₂).2 ∧
      (s.refreshToken env req now₁).1.map (·.refreshToken) =
        (s.refreshToken env req now₂).1.map (·.refreshToken) := by
  unfold refreshToken
  rw [refreshFind_instant wf req now₁ now₂]
  cases s.refreshFind req now₂ with
  | error e => exact ⟨rfl, rfl⟩
  | ok session =>
      dsimp only
      cases (s.invalidateRefreshToken session.id).refreshAuthorize session with
      | error e => exact ⟨rfl, rfl⟩
      | ok result => exact ⟨rfl, rfl⟩

/-! ### Reachable states -/

def Reachable (env : AuthEnv) (s : AuthState) : Prop := ∃ ops, (serve env init ops).2 = s

theorem Reachable.wellFormed {env : AuthEnv} {s : AuthState} (reachable : Reachable env s) :
    WellFormed s := by
  obtain ⟨ops, rfl⟩ := reachable
  exact serve_wellFormed env ops init_wellFormed

theorem logout_of_apply {env : AuthEnv} {s : AuthState} {sessionID : Nat} {now : Int}
    (succeeded : (s.apply env now (.logout sessionID)).1 = .done (.ok ())) :
    (s.logout sessionID).1 = .ok () := by
  simp only [apply] at succeeded
  cases result : (s.logout sessionID).1 with
  | ok _ => rfl
  | error e => simp [result] at succeeded

end AuthState

-- bcrypt stood in for by the identity; access tokens live 15 minutes.
def plainEnv : AuthEnv := ⟨some, (· == ·), 15 * minute⟩

-- Alice registered and an administrator activated her: user 1, session 2 with
-- refresh token 1.
def aliceActive : AuthState :=
  (AuthState.serve plainEnv .init
    [(.register ⟨"alice@example.com", "secret1", "Alice", "Liddell", "", ""⟩, 0),
     (.updateUser 1 ⟨none, none, none, some userSTTActive⟩, 0)]).2

-- Run one after another, the calls accept each non-empty refresh token at most
-- once; once Logout has answered success for a session, the session stays
-- inactive and no later answer hands it out; and whether RefreshToken accepts a
-- token, and what it writes, does not depend on when the token is presented.
theorem sessions_safe_sequentially (env : AuthEnv) :
    (∀ ops, ((acceptedTokens ops (AuthState.serve env .init ops).1).filter (· ≠ 0)).Nodup) ∧
    (∀ s sessionID now later, AuthState.Reachable env s →
      (s.apply env now (.logout sessionID)).1 = .done (.ok ()) →
      (∀ n, ∀ row ∈ (AuthState.serve env (s.apply env now (.logout sessionID)).2
          (later.take n)).2.sessions, row.id = sessionID → row.active = false) ∧
      ∀ r, .response (.ok r) ∈ (AuthState.serve env (s.apply env now (.logout sessionID)).2
        later).1 → r.accessToken.sid ≠ sessionID) ∧
    (∀ s req now₁ now₂, AuthState.Reachable env s →
      (s.refreshToken env req now₁).2 = (s.refreshToken env req now₂).2 ∧
      (s.refreshToken env req now₁).1.map (·.refreshToken) =
        (s.refreshToken env req now₂).1.map (·.refreshToken)) := by
  refine ⟨fun ops => AuthState.serve_accepted_nodup env ops AuthState.init_wellFormed,
    fun s sessionID now later reachable succeeded => ?_,
    fun s req now₁ now₂ reachable => AuthState.refreshToken_instant env reachable.wellFormed req now₁ now₂⟩
  have out := AuthState.logout_loggedOut reachable.wellFormed (AuthState.logout_of_apply succeeded)
  exact ⟨fun n row member => (AuthState.serve_loggedOut env (later.take n) out).1.2 row member,
    (AuthState.serve_loggedOut env later out).2⟩

-- Once Alice has logged out of session 2, no run of later calls hands session 2 out.
theorem sessions_safe_sequentially_alice_logout :
    (aliceActive.apply plainEnv 0 (.logout 2)).1 = .done (.ok ()) ∧
    ∀ later r, AuthReply.response (.ok r) ∈
      (AuthState.serve plainEnv (aliceActive.apply plainEnv 0 (.logout 2)).2 later).1 →
        r.accessToken.sid ≠ 2 :=
  ⟨by decide, fun later =>
    ((sessions_safe_sequentially plainEnv).2.1 aliceActive 2 0 later ⟨_, rfl⟩ (by decide)).2⟩

/-! ### Interleavings -/

-- Two RefreshTokens with token 1 both read the row before either invalidates
-- it, and both succeed. A Logout of session 2 returns between a RefreshToken's
-- read and its write; the write brings the session back, and a RefreshToken
-- started after the Logout succeeds for it. And token 1 is accepted at every
-- instant, however long after its issue at 0.
theorem refresh_interleavings_unsafe :
    (AuthSystem.run plainEnv
        ⟨aliceActive, [.refreshToken ⟨1, "", ""⟩, .refreshToken ⟨1, "", ""⟩]⟩
        [(0, 0), (1, 0), (0, 0), (0, 0), (0, 0), (1, 0), (1, 0), (1, 0)]).calls.map
      (fun call => call.reply?.map AuthReply.succeeded) = [some true, some true] ∧
    (let raced := AuthSystem.run plainEnv
        ⟨aliceActive, [.refreshToken ⟨1, "", ""⟩, .logout 2, .refreshToken ⟨2, "", ""⟩]⟩
        [(0, 0), (1, 0), (1, 0)]
      let after := AuthSystem.run plainEnv raced
        [(0, 0), (0, 0), (0, 0), (2, 0), (2, 0), (2, 0), (2, 0)]
      raced.calls.map (fun call => call.reply?.map AuthReply.succeeded) = [none, some true, none] ∧
      after.state.sessions.map (·.active) = [true] ∧
      ((after.calls.getLast?.bind Call.reply?).bind AuthReply.accessToken?).map (·.sid) =
        some 2) ∧
    ∀ now, (aliceActive.refreshToken plainEnv ⟨1, "", ""⟩ now).1.map (·.refreshToken) = .ok 2 := by
  have wf : aliceActive.WellFormed := AuthState.serve_wellFormed plainEnv _ AuthState.init_wellFormed
  refine ⟨by decide, by decide, fun now => ?_⟩
  rw [← (AuthState.refreshToken_instant plainEnv wf ⟨1, "", ""⟩ 0 now).2]
  decide

end GoCleanArch
