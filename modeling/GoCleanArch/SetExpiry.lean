import GoCleanArch.Counters

/-!
The expiry `SAdd` gives a new set on each backend. MemoryCache makes the set and
its deadline in one step under its mutex. RedisCache sends SADD, then SCARD, then
EXPIRE in three round trips, and sends the EXPIRE only when SCARD counts just the
members its own SADD added. Calls that do not overlap keep a live key due within
DefaultTTL (`set_expiry_without_overlap`), given a DefaultTTL of a second or more,
since go-redis sends at least one second. `SAddRace` runs the round trips of
several calls in any order against one server, each command atomic there, and two
calls that add at the same time can leave the set with no deadline.
-/

namespace GoCleanArch

namespace RedisServer

-- The deadline of a live `key`, if it has one, lies at most `ttl` nanoseconds past `now`.
def ExpiresWithin (r : RedisServer) (key : String) (ttl now : Int) : Prop :=
  ∀ entry, r.lookupLive key now = some entry →
    ∃ whenMs, entry.expiresAt = some whenMs ∧ (whenMs - clockMs now) * 1000000 ≤ ttl

theorem ExpiresWithin.later {r : RedisServer} {key : String} {ttl now later : Int}
    (within : r.ExpiresWithin key ttl now) (le : now ≤ later) : r.ExpiresWithin key ttl later := by
  intro entry live
  obtain ⟨whenMs, deadline, bound⟩ := within entry (lookupLive_of_le live le)
  have := clockMs_le le
  exact ⟨whenMs, deadline, by omega⟩

theorem expire_expiresWithin (r : RedisServer) (key : String) {ttl : Int} (now : Int)
    (atLeastSecond : second ≤ ttl) :
    (r.expire key (RedisCache.formatSec ttl) now).2.ExpiresWithin key ttl now := by
  have whole : RedisCache.formatSec ttl = ttl / 1000000000 := by
    unfold RedisCache.formatSec second at *
    rw [if_neg (by omega), Int.tdiv_eq_ediv (by omega) (by decide)]
  have positive : 0 < RedisCache.formatSec ttl := by unfold second at *; omega
  intro entry live
  cases stored : r.lookupLive key now with
  | none => simp [expire, stored] at live
  | some old =>
      rw [lookupLive_of_lookup (expire_lookup stored positive)] at live
      split at live
      · cases live
      · cases live
        exact ⟨_, rfl, by omega⟩

end RedisServer

namespace RedisCache

theorem sAdd_expiresWithin (r : RedisCache) (key : String) (members : List Bytes) {now : Int}
    (atLeastSecond : second ≤ r.config.defaultTTL)
    (within : r.server.ExpiresWithin key r.config.defaultTTL now) :
    (r.sAdd key members now).2.server.ExpiresWithin key r.config.defaultTTL now := by
  have expired := RedisServer.expire_expiresWithin (r.server.sadd key members now).2 key now
    atLeastSecond
  suffices written : (r.server.sadd key members now).2.ExpiresWithin key r.config.defaultTTL now ∨
      (r.sAdd key members now).2.server =
        ((r.server.sadd key members now).2.expire key (formatSec r.config.defaultTTL) now).2 by
    rcases written with bounded | expires
    · rcases sAdd_server r key members now with same | same <;> rw [same]
      · exact bounded
      · exact expired
    · rw [expires]
      exact expired
  have positive : 0 < r.config.defaultTTL := by
    unfold second at atLeastSecond
    omega
  by_cases empty : members = []
  · subst empty
    exact .inl (by rw [RedisServer.sadd_nil]; exact within)
  cases live : r.server.lookupLive key now with
  | none =>
      obtain ⟨grown, added, counted, written⟩ := RedisServer.sadd_of_missing live empty
      by_cases zero : added = 0
      · exact .inl (by rw [written, if_pos zero]; exact within)
      · rw [if_neg zero] at written
        have some : 0 < added := by omega
        rw [written]
        refine .inr (sAdd_of_count written positive some ?_)
        simp [RedisServer.scard, RedisServer.lookupLive_insert_self, RedisServer.isExpired, counted]
  | some entry =>
      refine .inl ?_
      rcases entry with ⟨bytes | setMap, expiresAt⟩
      · rw [RedisServer.sadd_of_str live]
        exact within
      · obtain ⟨grown, added, written⟩ := RedisServer.sadd_of_set live empty
        rw [written]
        split
        · exact within
        · obtain ⟨whenMs, deadline, bound⟩ := within _ live
          have fresh := RedisServer.not_expired_of_lookupLive live
          intro entry stored
          rw [RedisServer.lookupLive_insert_self] at stored
          split at stored
          · rename_i expired
            exact absurd (fresh ▸ expired) (by decide)
          · cases stored
            exact ⟨whenMs, deadline, bound⟩

theorem sAddRun_expiresWithin (r : RedisCache) (key : String) (calls : List (List Bytes × Int))
    {start stop : Int} (atLeastSecond : second ≤ r.config.defaultTTL)
    (within : r.server.ExpiresWithin key r.config.defaultTTL start)
    (ordered : List.Chain (· ≤ ·) start (calls.map Prod.snd ++ [stop])) :
    (calls.foldl (fun r call => (r.sAdd key call.1 call.2).2) r).server.ExpiresWithin key
      r.config.defaultTTL stop := by
  induction calls generalizing r start with
  | nil =>
      cases ordered with
      | cons le _ => exact within.later le
  | cons call calls ih =>
      cases ordered with
      | cons le rest =>
          have stepped := sAdd_expiresWithin r key call.1 atLeastSecond (within.later le)
          have := ih (r.sAdd key call.1 call.2).2 (by rwa [sAdd_config]) (by rwa [sAdd_config]) rest
          rwa [sAdd_config] at this

end RedisCache

namespace MemoryCache

def ExpiresWithin (m : MemoryCache) (key : String) (ttl now : Int) : Prop :=
  ∀ item, m.lookupLive key now = some item →
    ∃ expiresAt, item.expiresAt = some expiresAt ∧ expiresAt - now ≤ ttl

theorem ExpiresWithin.later {m : MemoryCache} {key : String} {ttl now later : Int}
    (within : m.ExpiresWithin key ttl now) (le : now ≤ later) : m.ExpiresWithin key ttl later := by
  intro item live
  obtain ⟨expiresAt, deadline, bound⟩ := within item (lookupLive_of_le live le)
  exact ⟨expiresAt, deadline, by omega⟩

theorem sAdd_expiresWithin (m : MemoryCache) (key : String) (members : List Bytes) {now : Int}
    (positive : 0 < m.config.defaultTTL) (within : m.ExpiresWithin key m.config.defaultTTL now) :
    (m.sAdd key members now).2.ExpiresWithin key m.config.defaultTTL now := by
  intro item stored
  unfold sAdd at stored
  cases live : m.lookupLive key now with
  | none =>
      simp only [live] at stored
      rw [lookupLive_insert_self, if_neg (by simp [isExpired_expiryAfter])] at stored
      cases stored
      exact ⟨now + m.config.defaultTTL, expiryAfter_of_pos now positive, by omega⟩
  | some old =>
      simp only [live] at stored
      split at stored
      · exact within item stored
      · split at stored
        · exact within item stored
        · obtain ⟨expiresAt, deadline, bound⟩ := within old live
          dsimp only at stored
          rw [lookupLive_insert_self] at stored
          split at stored
          · cases stored
          · cases stored
            exact ⟨expiresAt, deadline, bound⟩

theorem sAddRun_expiresWithin (m : MemoryCache) (key : String) (calls : List (List Bytes × Int))
    {start stop : Int} (positive : 0 < m.config.defaultTTL)
    (within : m.ExpiresWithin key m.config.defaultTTL start)
    (ordered : List.Chain (· ≤ ·) start (calls.map Prod.snd ++ [stop])) :
    (calls.foldl (fun m call => (m.sAdd key call.1 call.2).2) m).ExpiresWithin key
      m.config.defaultTTL stop := by
  induction calls generalizing m start with
  | nil =>
      cases ordered with
      | cons le _ => exact within.later le
  | cons call calls ih =>
      cases ordered with
      | cons le rest =>
          have stepped := sAdd_expiresWithin m key call.1 positive (within.later le)
          have := ih (m.sAdd key call.1 call.2).2 (by rwa [sAdd_config]) (by rwa [sAdd_config]) rest
          rwa [sAdd_config] at this

end MemoryCache

-- SAdd calls on a key absent at `start`, at instants in order up to `stop`: MemoryCache,
-- whose calls are atomic, keeps a live key due within DefaultTTL whenever that is
-- positive; RedisCache does when its calls do not overlap and DefaultTTL is a second
-- or more.
theorem set_expiry_without_overlap :
    (∀ (m : MemoryCache) key (calls : List (List Bytes × Int)) start stop,
      0 < m.config.defaultTTL → m.lookupLive key start = none →
      List.Chain (· ≤ ·) start (calls.map Prod.snd ++ [stop]) →
      (calls.foldl (fun m call => (m.sAdd key call.1 call.2).2) m).ExpiresWithin key
        m.config.defaultTTL stop) ∧
    (∀ (r : RedisCache) key (calls : List (List Bytes × Int)) start stop,
      second ≤ r.config.defaultTTL → r.server.lookupLive key start = none →
      List.Chain (· ≤ ·) start (calls.map Prod.snd ++ [stop]) →
      (calls.foldl (fun r call => (r.sAdd key call.1 call.2).2) r).server.ExpiresWithin key
        r.config.defaultTTL stop) :=
  ⟨fun m key calls _ _ positive absent ordered => m.sAddRun_expiresWithin key calls positive
      (fun _ live => by rw [absent] at live; cases live) ordered,
    fun r key calls _ _ atLeastSecond absent ordered => r.sAddRun_expiresWithin key calls
      atLeastSecond (fun _ live => by rw [absent] at live; cases live) ordered⟩

-- Two SAdds at 0 and 5 s under a DefaultTTL of 10 s leave the set due by 15 s on
-- either backend.
theorem set_expiry_without_overlap_two_calls :
    (([([[1]], 0), ([[2]], 5 * second)] : List (List Bytes × Int)).foldl
        (fun m call => (m.sAdd "k" call.1 call.2).2)
        (⟨∅, ⟨10 * second⟩⟩ : MemoryCache)).ExpiresWithin "k" (10 * second) (5 * second) ∧
    (([([[1]], 0), ([[2]], 5 * second)] : List (List Bytes × Int)).foldl
        (fun r call => (r.sAdd "k" call.1 call.2).2)
        (⟨⟨∅⟩, ⟨10 * second⟩⟩ : RedisCache)).server.ExpiresWithin "k" (10 * second) (5 * second) :=
  have ordered : List.Chain (· ≤ ·) (0 : Int) [0, 5 * second, 5 * second] :=
    .cons le_rfl (.cons (by decide) (.cons le_rfl .nil))
  ⟨set_expiry_without_overlap.1 _ "k" _ 0 _ (by decide) rfl ordered,
    set_expiry_without_overlap.2 _ "k" _ 0 _ (by decide) rfl ordered⟩

/-! ### Round trips and interleavings -/

inductive SAddPhase where
  | sending (members : List Bytes)
  | counting (added : Int)
  | expiring (added : Int)
  | returned (reply : Except CacheError Int)
  deriving DecidableEq

def sAddStep (config : Config) (key : String) (server : RedisServer) (now : Int) :
    SAddPhase → SAddPhase × RedisServer
  | .sending members =>
      match server.sadd key members now with
      | (.error e, server) => (.returned (.error (.operation "sadd" key e)), server)
      | (.ok added, server) =>
          if 0 < config.defaultTTL ∧ 0 < added then (.counting added, server)
          else (.returned (.ok added), server)
  | .counting added =>
      match server.scard key now with
      | .ok size => if size = added then (.expiring added, server) else (.returned (.ok added), server)
      | .error _ => (.returned (.ok added), server)
  | .expiring added =>
      (.returned (.ok added), (server.expire key (RedisCache.formatSec config.defaultTTL) now).2)
  | .returned reply => (.returned reply, server)

theorem sAddStep_sequential (r : RedisCache) (key : String) (members : List Bytes) (now : Int) :
    let first := sAddStep r.config key r.server now (.sending members)
    let second := sAddStep r.config key first.2 now first.1
    sAddStep r.config key second.2 now second.1 =
      (.returned (r.sAdd key members now).1, (r.sAdd key members now).2.server) := by
  rcases written : r.server.sadd key members now with ⟨_ | added, server⟩
  · simp [sAddStep, RedisCache.sAdd, written]
  · by_cases go : 0 < r.config.defaultTTL ∧ 0 < added
    · rcases counted : server.scard key now with _ | size
      · simp [sAddStep, RedisCache.sAdd, written, go, counted]
      · by_cases same : size = added <;> simp [sAddStep, RedisCache.sAdd, written, go, counted, same]
    · simp only [sAddStep, RedisCache.sAdd, written, if_neg go, RedisCache.withServer_server]

-- Concurrent SAdd calls on one key: each caller's phase, and the shared server.
structure SAddRace where
  server : RedisServer
  calls : List SAddPhase

namespace SAddRace

def step (config : Config) (key : String) (race : SAddRace) (caller : Nat) (now : Int) : SAddRace :=
  match race.calls[caller]? with
  | some phase =>
      let next := sAddStep config key race.server now phase
      ⟨next.2, race.calls.set caller next.1⟩
  | none => race

-- A schedule names the caller whose round trip the server runs next, and when.
def run (config : Config) (key : String) : SAddRace → List (Nat × Int) → SAddRace
  | race, [] => race
  | race, (caller, now) :: schedule => run config key (race.step config key caller now) schedule

end SAddRace

-- Two callers each add one member to a new key and both SADDs land before either SCARD:
-- both count 2, not 1, so neither sends EXPIRE and the set never expires. Alone, a call
-- under a DefaultTTL of half a second sends a one-second EXPIRE.
theorem set_expiry_race_fails :
    (SAddRace.run ⟨10 * second⟩ "k" ⟨⟨∅⟩, [.sending [[1]], .sending [[2]]]⟩
        [(0, 0), (1, 0), (0, 0), (1, 0)]).calls = [.returned (.ok 1), .returned (.ok 1)] ∧
      ¬(SAddRace.run ⟨10 * second⟩ "k" ⟨⟨∅⟩, [.sending [[1]], .sending [[2]]]⟩
        [(0, 0), (1, 0), (0, 0), (1, 0)]).server.ExpiresWithin "k" (10 * second) 0 ∧
      ¬((⟨⟨∅⟩, ⟨500 * millisecond⟩⟩ : RedisCache).sAdd "k" [[1]] 0).2.server.ExpiresWithin "k"
        (500 * millisecond) 0 := by
  refine ⟨by decide, fun within => ?_, fun within => ?_⟩
  · obtain ⟨_, deadline, _⟩ := within _ rfl
    cases deadline
  · obtain ⟨_, deadline, bound⟩ := within _ rfl
    cases deadline
    revert bound
    decide

end GoCleanArch
