import GoCleanArch.BackendAgreement

/-!
`Increment` and `Decrement` of both backends against the counter a `Get` at the
call's instant shows: a miss counts as 0, and a hit is an int64 in the decimal form
`formatInt64` writes. Where the exact result fits in int64 both backends return it
and leave it readable, except RedisCache's `Decrement` by `math.MinInt64`, whose
negation wraps back to `math.MinInt64`. Past that range the two part: MemoryCache
never fails (it wraps, and counts an unparsable value as 0), while RedisCache fails
with the value kept but still runs the pipelined EXPIRE.
-/

namespace GoCleanArch

-- The counter `v` a `Get` shows at the call's instant, in the sense of the contract.
def CounterAt (read : Except CacheError Bytes) (v : Int) : Prop :=
  InInt64 v ∧ (read = .error .keyNotFound ∧ v = 0 ∨ read = .ok (formatInt64 v))

theorem wrap64_add_wrap64_right (a b : Int) : wrap64 (a + wrap64 b) = wrap64 (a + b) := by
  rw [Int.add_comm, wrap64_add_wrap64, Int.add_comm]

namespace MemoryCache

theorem isExpired_expiryAfter (value : Bytes) (ttl now : Int) :
    isExpired ⟨value, expiryAfter ttl now⟩ now = false := by
  unfold expiryAfter
  split
  · simp only [isExpired, after, decide_eq_false_iff_not]
    omega
  · rfl

theorem counterValue_of_counterAt {m : MemoryCache} {key : String} {now v : Int}
    (holds : CounterAt (m.get key now) v) : m.counterValue key now = v := by
  obtain ⟨range, ⟨missing, rfl⟩ | hit⟩ := holds
  · cases live : m.lookupLive key now with
    | none => exact counterValue_of_not_live live
    | some item => simp [get, live] at missing
  · cases live : m.lookupLive key now with
    | none => simp [get, live] at hit
    | some item =>
        simp only [get, live, Except.ok.injEq] at hit
        exact counterValue_of_live
          (show m.lookupLive key now = some ⟨formatInt64 v, item.expiresAt⟩ by rw [live, ← hit]) range

theorem get_increment (m : MemoryCache) (key : String) (delta ttl now : Int) :
    (m.increment key delta ttl now).2.get key now =
      .ok (formatInt64 (m.increment key delta ttl now).1) := by
  simp [get, lookupLive_of_lookup (increment_lookup m key delta ttl now), isExpired_expiryAfter,
    increment_fst]

theorem increment_of_counterAt {m : MemoryCache} {key : String} {now v delta : Int} (ttl : Int)
    (holds : CounterAt (m.get key now) v) (sum : InInt64 (v + delta)) :
    (m.increment key delta ttl now).1 = v + delta ∧
      (m.increment key delta ttl now).2.get key now = .ok (formatInt64 (v + delta)) := by
  have result : (m.increment key delta ttl now).1 = v + delta := by
    rw [increment_fst, counterValue_of_counterAt holds, wrap64_of_inInt64 sum]
  exact ⟨result, by rw [get_increment, result]⟩

theorem decrement_of_counterAt {m : MemoryCache} {key : String} {now v delta : Int} (ttl : Int)
    (holds : CounterAt (m.get key now) v) (difference : InInt64 (v - delta)) :
    (m.decrement key delta ttl now).1 = v - delta := by
  rw [decrement, increment_fst, counterValue_of_counterAt holds, wrap64_add_wrap64_right,
    ← Int.sub_eq_add_neg, wrap64_of_inInt64 difference]

end MemoryCache

namespace RedisServer

theorem incrBy_error {r : RedisServer} {key : String} {delta now : Int} {e : String}
    (failed : (r.incrBy key delta now).1 = .error e) : (r.incrBy key delta now).2 = r := by
  simp only [incrBy] at failed ⊢
  split at failed
  · rfl
  · split at failed <;> simp_all

theorem expire_value (r : RedisServer) (key : String) {seconds : Int} (now : Int)
    (positive : 0 < seconds) :
    ((r.expire key seconds now).2.keyspace.lookup key).map RedisEntry.value =
      (r.keyspace.lookup key).map RedisEntry.value := by
  unfold expire
  cases live : r.lookupLive key now with
  | none => rfl
  | some entry =>
      simp [show ¬clockMs now + seconds * 1000 ≤ clockMs now by omega, lookup_of_lookupLive live]

end RedisServer

namespace RedisCache

theorem incrementExpiry_pos {r : RedisCache} {ttl seconds : Int}
    (sent : r.incrementExpiry ttl = some seconds) : 0 < seconds := by
  unfold incrementExpiry at sent
  split at sent
  · cases sent
    exact formatSec_pos ‹_›
  · split at sent
    · cases sent
      exact formatSec_pos ‹_ ∧ _›.2
    · cases sent

theorem increment_snd (r : RedisCache) (key : String) (delta ttl now : Int) :
    (r.increment key delta ttl now).2 =
      r.withServer (expireStep key (r.incrementExpiry ttl) now (r.server.incrBy key delta now).2) := by
  simp only [increment]
  split <;> rfl

theorem lookupLive_of_counterAt {r : RedisCache} {key : String} {now v : Int}
    (holds : CounterAt (r.get key now) v) :
    r.server.lookupLive key now = none ∧ v = 0 ∨
      ∃ expiresAt, r.server.lookupLive key now = some ⟨.str (formatInt64 v), expiresAt⟩ := by
  obtain ⟨-, ⟨missing, rfl⟩ | hit⟩ := holds
  · refine .inl ⟨?_, rfl⟩
    cases live : r.server.lookupLive key now with
    | none => rfl
    | some entry => rcases entry with ⟨_ | _, _⟩ <;> simp [get, RedisServer.get, live] at missing
  · cases live : r.server.lookupLive key now with
    | none => simp [get, RedisServer.get, live] at hit
    | some entry =>
        rcases entry with ⟨_ | _, expiresAt⟩ <;> simp [get, RedisServer.get, live] at hit
        exact .inr ⟨expiresAt, by rw [hit]⟩

theorem incrBy_of_counterAt {r : RedisCache} {key : String} {now v delta : Int}
    (holds : CounterAt (r.get key now) v) (delta64 : InInt64 delta) (sum : InInt64 (v + delta)) :
    ∃ expiresAt, r.server.incrBy key delta now =
        (.ok (v + delta), ⟨r.server.keyspace.insert key ⟨.str (formatInt64 (v + delta)), expiresAt⟩⟩) ∧
      RedisServer.isExpired ⟨.str (formatInt64 (v + delta)), expiresAt⟩ now = false := by
  rcases lookupLive_of_counterAt holds with ⟨missing, rfl⟩ | ⟨expiresAt, live⟩
  · exact ⟨none, by simpa using RedisServer.incrBy_of_missing missing delta64, rfl⟩
  · exact ⟨expiresAt, RedisServer.incrBy_of_live live holds.1 sum,
      (RedisServer.not_expired_of_lookupLive live : _)⟩

theorem increment_of_counterAt {r : RedisCache} {key : String} {now v delta : Int} (ttl : Int)
    (holds : CounterAt (r.get key now) v) (delta64 : InInt64 delta) (sum : InInt64 (v + delta)) :
    (r.increment key delta ttl now).1 = .ok (v + delta) ∧
      (r.increment key delta ttl now).2.get key now = .ok (formatInt64 (v + delta)) := by
  obtain ⟨expiresAt, incr, fresh⟩ := incrBy_of_counterAt holds delta64 sum
  simp only [increment, incr, true_and]
  cases sent : r.incrementExpiry ttl with
  | none => simp [expireStep, get, RedisServer.get, RedisServer.lookupLive_insert_self, fresh]
  | some seconds =>
      have positive := incrementExpiry_pos sent
      rw [expireStep, RedisServer.expire_insert fresh positive]
      simp [get, RedisServer.get, RedisServer.lookupLive_insert_self, RedisServer.isExpired,
        show ¬RedisServer.clockMs now + seconds * 1000 < RedisServer.clockMs now by omega]

theorem decrement_of_counterAt {r : RedisCache} {key : String} {now v delta : Int} (ttl : Int)
    (holds : CounterAt (r.get key now) v) (delta64 : InInt64 delta) (notMin : delta ≠ int64Min)
    (difference : InInt64 (v - delta)) :
    (r.decrement key delta ttl now).1 = .ok (v - delta) := by
  have negated : InInt64 (-delta) := by
    unfold InInt64 int64Min int64Max at *
    omega
  rw [decrement, wrap64_of_inInt64 negated, Int.sub_eq_add_neg,
    (increment_of_counterAt ttl holds negated (by rwa [← Int.sub_eq_add_neg])).1]

-- A failed Increment keeps the value; only a call that sends no EXPIRE keeps the rest.
theorem increment_error {r : RedisCache} {key : String} {delta ttl now : Int} {e : CacheError}
    (failed : (r.increment key delta ttl now).1 = .error e) :
    ((r.increment key delta ttl now).2.server.keyspace.lookup key).map RedisEntry.value =
        (r.server.keyspace.lookup key).map RedisEntry.value ∧
      (r.incrementExpiry ttl = none → (r.increment key delta ttl now).2 = r) := by
  have unchanged : (r.server.incrBy key delta now).2 = r.server := by
    simp only [increment] at failed
    split at failed
    · exact RedisServer.incrBy_error ‹_›
    · cases failed
  rw [increment_snd, unchanged]
  cases sent : r.incrementExpiry ttl with
  | none => exact ⟨rfl, fun _ => withServer_self r⟩
  | some seconds => exact ⟨RedisServer.expire_value _ _ _ (incrementExpiry_pos sent), nofun⟩

end RedisCache

-- In range both backends return the exact result and store it; MemoryCache never
-- fails; a failure of RedisCache keeps the value, and the whole cache when it sends
-- no EXPIRE.
theorem counter_calls_contract :
    (∀ (m : MemoryCache) key v delta ttl now, CounterAt (m.get key now) v →
      (InInt64 (v + delta) → (m.increment key delta ttl now).1 = v + delta ∧
        (m.increment key delta ttl now).2.get key now = .ok (formatInt64 (v + delta))) ∧
      (InInt64 (v - delta) → (m.decrement key delta ttl now).1 = v - delta)) ∧
    (∀ (r : RedisCache) key v delta ttl now, CounterAt (r.get key now) v → InInt64 delta →
      (InInt64 (v + delta) → (r.increment key delta ttl now).1 = .ok (v + delta) ∧
        (r.increment key delta ttl now).2.get key now = .ok (formatInt64 (v + delta))) ∧
      (delta ≠ int64Min → InInt64 (v - delta) →
        (r.decrement key delta ttl now).1 = .ok (v - delta))) ∧
    (∀ (m : MemoryCache) key delta ttl now,
      (m.increment key delta ttl now).1 = wrap64 (m.counterValue key now + delta) ∧
      (m.increment key delta ttl now).2.get key now =
        .ok (formatInt64 (m.increment key delta ttl now).1)) ∧
    (∀ (r : RedisCache) key delta ttl now e, (r.increment key delta ttl now).1 = .error e →
      ((r.increment key delta ttl now).2.server.keyspace.lookup key).map RedisEntry.value =
          (r.server.keyspace.lookup key).map RedisEntry.value ∧
        (r.incrementExpiry ttl = none → (r.increment key delta ttl now).2 = r)) :=
  ⟨fun _ _ _ _ ttl _ holds => ⟨MemoryCache.increment_of_counterAt ttl holds,
      MemoryCache.decrement_of_counterAt ttl holds⟩,
    fun _ _ _ _ ttl _ holds delta64 => ⟨RedisCache.increment_of_counterAt ttl holds delta64,
      RedisCache.decrement_of_counterAt ttl holds delta64⟩,
    fun m key delta ttl now => ⟨MemoryCache.increment_fst m key delta ttl now,
      MemoryCache.get_increment m key delta ttl now⟩,
    fun _ _ _ _ _ _ failed => RedisCache.increment_error failed⟩

-- A counter at 41 is incremented to 42 and read back as "42" on either backend.
theorem counter_calls_contract_at_forty_one :
    ((⟨(∅ : ItemMap).insert "k" ⟨formatInt64 41, none⟩, ⟨0⟩⟩ : MemoryCache).increment
      "k" 1 0 0).1 = 42 ∧
    ((⟨⟨(∅ : AList _).insert "k" ⟨.str (formatInt64 41), none⟩⟩, ⟨0⟩⟩ : RedisCache).increment
      "k" 1 0 0).2.get "k" 0 = .ok (formatInt64 42) := by
  refine ⟨((counter_calls_contract.1 _ "k" 41 1 0 0 ⟨?_, .inr ?_⟩).1 ?_).1,
    ((counter_calls_contract.2.1 _ "k" 41 1 0 0 ⟨?_, .inr ?_⟩ ?_).1 ?_).2⟩ <;> decide

-- Where the contract's error clause fails: MemoryCache wraps past MaxInt64 and
-- overwrites a value that is not a number, both without an error; RedisCache fails on
-- that value but its EXPIRE gives the key a deadline it did not have; and RedisCache's
-- Decrement by MinInt64 from -1, whose exact result is MaxInt64, overflows.
theorem counter_error_clause_fails :
    ((⟨(∅ : ItemMap).insert "k" ⟨formatInt64 int64Max, none⟩, ⟨0⟩⟩ : MemoryCache).increment
      "k" 1 0 0).1 = int64Min ∧
    ((⟨(∅ : ItemMap).insert "k" ⟨[97, 98, 99], none⟩, ⟨0⟩⟩ : MemoryCache).increment
      "k" 5 0 0).1 = 5 ∧
    ((⟨⟨(∅ : AList _).insert "k" ⟨.str [97, 98, 99], none⟩⟩, ⟨0⟩⟩ : RedisCache).increment
      "k" 1 second 0).1 = .error (.operation "increment" "k" RedisServer.notInteger) ∧
    (((⟨⟨(∅ : AList _).insert "k" ⟨.str [97, 98, 99], none⟩⟩, ⟨0⟩⟩ : RedisCache).increment
      "k" 1 second 0).2.server.keyspace.lookup "k").map RedisEntry.expiresAt = some (some 1000) ∧
    InInt64 (-1 - int64Min) ∧
    ((⟨⟨(∅ : AList _).insert "k" ⟨.str (formatInt64 (-1)), none⟩⟩, ⟨0⟩⟩ : RedisCache).decrement
      "k" int64Min 0 0).1 = .error (.operation "increment" "k" RedisServer.incrOverflow) := by
  decide

end GoCleanArch
