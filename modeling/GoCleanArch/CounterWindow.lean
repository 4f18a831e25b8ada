import GoCleanArch.MemoryCache
import GoCleanArch.RedisCache

/-!
What `Increment` does to a counter's expiry. `MemoryCache.Increment` writes
`now + ttl` on every call and `RedisCache.Increment` pipelines EXPIRE on every
call, so the window slides: a counter lives until its last increment plus `ttl`,
and an increment strictly after that instant starts again from zero.
`Counter` is the abstract counter and `Counter.slidingStep` one increment on it;
`Decrement` is `Increment` of the wrapped negation, so a run of increments
covers both. Every `MemoryCache` method holds `m.mu` for its whole body, so any
interleaving of concurrent increments is a sequence of whole calls, which is
what a run is.
-/

namespace GoCleanArch

structure Counter where
  value : Int
  expiresAt : Int
  deriving DecidableEq, Repr

namespace Counter

-- The count an increment at `now` adds to: zero once the counter has expired.
def base (counter : Option Counter) (now : Int) : Int :=
  match counter with
  | some c => if c.expiresAt < now then 0 else c.value
  | none => 0

-- Every increment moves the expiry to its own instant plus `ttl`.
def slidingStep (ttl now delta : Int) (counter : Option Counter) : Counter :=
  ⟨wrap64 (base counter now + delta), now + ttl⟩

def slidingRun (ttl : Int) (counter : Option Counter) : List (Int × Int) → Option Counter
  | [] => counter
  | (now, delta) :: rest => slidingRun ttl (some (slidingStep ttl now delta counter)) rest

def toItem (c : Counter) : MemoryItem := ⟨formatInt64 c.value, some c.expiresAt⟩

theorem slidingStep_inInt64 (ttl now delta : Int) (counter : Option Counter) :
    InInt64 (slidingStep ttl now delta counter).value :=
  wrap64_inInt64 _

end Counter

namespace MemoryCache

open Counter

def incrementRun (m : MemoryCache) (key : String) (ttl : Int) : List (Int × Int) → MemoryCache
  | [] => m
  | (now, delta) :: rest => incrementRun (m.increment key delta ttl now).2 key ttl rest

theorem counterValue_toItem {m : MemoryCache} {key : String} {c : Counter}
    (stored : m.data.lookup key = some c.toItem) (range : InInt64 c.value) (now : Int) :
    m.counterValue key now = base (some c) now := by
  rw [base]
  split
  · next expired =>
      exact counterValue_of_not_live (by simp [lookupLive_of_lookup stored, toItem, isExpired,
        expired])
  · next fresh =>
      have live : m.lookupLive key now = some c.toItem := by
        simp [lookupLive_of_lookup stored, toItem, isExpired, fresh]
      exact counterValue_of_live live range

theorem increment_slidingStep (m : MemoryCache) (key : String) {ttl : Int} (now delta : Int)
    (positive : 0 < ttl) {counter : Option Counter}
    (agrees : m.counterValue key now = base counter now) :
    (m.increment key delta ttl now).2.data.lookup key =
      some (slidingStep ttl now delta counter).toItem := by
  rw [increment_lookup, agrees, withDefault_of_pos m positive, expiryAfter_of_pos now positive]
  rfl

theorem incrementRun_from (key : String) {ttl : Int} (positive : 0 < ttl)
    (run : List (Int × Int)) :
    ∀ (m : MemoryCache) (c : Counter), m.data.lookup key = some c.toItem → InInt64 c.value →
      (m.incrementRun key ttl run).data.lookup key = (slidingRun ttl (some c) run).map toItem := by
  induction run with
  | nil => exact fun _ _ stored _ => stored
  | cons step rest ih =>
      intro m c stored range
      exact ih _ _ (increment_slidingStep m key step.1 step.2 positive
        (counterValue_toItem stored range step.1)) (slidingStep_inInt64 ..)

end MemoryCache

open Counter

/-- Increments slide the window in both backends. In `MemoryCache` a key that is
not live at the first increment holds, after any run of increments, the sliding
counter: each increment sets the expiry to its own instant plus `ttl`, and one
strictly after the previous expiry starts from zero. In `RedisCache` the
pipeline leaves the key with its EXPIRE's deadline whatever the key held; in an
interleaving of concurrent pipelines INCRBY never moves a live key's deadline
and every EXPIRE sets it to its own instant plus the ttl's seconds. -/
theorem increment_window_slides {ttl : Int} (positive : 0 < ttl) :
    (∀ (m : MemoryCache) (key : String) (t₁ d₁ : Int) (run : List (Int × Int)),
      m.lookupLive key t₁ = none →
      (m.incrementRun key ttl ((t₁, d₁) :: run)).data.lookup key =
        (slidingRun ttl none ((t₁, d₁) :: run)).map toItem) ∧
    (∀ (r : RedisCache) (key : String) (delta now : Int), InInt64 delta →
      ((r.increment key delta ttl now).2.server.keyspace.lookup key).map RedisEntry.expiresAt =
        some (some (RedisServer.clockMs now + RedisCache.formatSec ttl * 1000))) ∧
    (∀ (s : RedisServer) (key : String) (delta now : Int) (entry : RedisEntry),
      s.lookupLive key now = some entry →
      ((s.incrBy key delta now).2.keyspace.lookup key).map RedisEntry.expiresAt =
        some entry.expiresAt) ∧
    (∀ (s : RedisServer) (key : String) (now : Int) (entry : RedisEntry),
      s.lookupLive key now = some entry →
      (s.expire key (RedisCache.formatSec ttl) now).2.keyspace.lookup key =
        some { entry with
          expiresAt := some (RedisServer.clockMs now + RedisCache.formatSec ttl * 1000) }) := by
  refine ⟨?memory, ?pipeline, ?incrBy, ?expire⟩
  case memory =>
    intro m key t₁ d₁ run fresh
    exact MemoryCache.incrementRun_from key positive run _ _
      (m.increment_slidingStep key t₁ d₁ positive (MemoryCache.counterValue_of_not_live fresh))
      (slidingStep_inInt64 ..)
  case pipeline => exact fun r key delta now range => r.increment_deadline key now range positive
  case incrBy => exact fun s key delta now entry live => RedisServer.incrBy_keeps_expiry live
  case expire =>
    exact fun s key now entry live => RedisServer.expire_lookup live (RedisCache.formatSec_pos positive)

theorem increment_window_slides_at_minute :
    (MemoryCache.incrementRun ⟨∅, ⟨0⟩⟩ "k" minute [(0, 1), (30 * second, 1)]).data.lookup "k" =
      some ⟨formatInt64 2, some (30 * second + minute)⟩ ∧
    (((RedisCache.mk ⟨∅⟩ ⟨0⟩).increment "k" 1 minute 0).2.server.keyspace.lookup "k").map
      RedisEntry.expiresAt = some (some 60000) ∧
    ((((RedisServer.mk ∅).incrBy "k" 1 0).2.incrBy "k" 1 0).2.keyspace.lookup "k").map
      RedisEntry.expiresAt = some none ∧
    ((((RedisServer.mk ∅).incrBy "k" 1 0).2.expire "k" 60 0).2.keyspace.lookup "k").map
      RedisEntry.expiresAt = some (some 60000) := by
  have slides := increment_window_slides (show 0 < minute by decide)
  refine ⟨?_, ?_, ?_, ?_⟩
  · rw [slides.1 ⟨∅, ⟨0⟩⟩ "k" 0 1 [(30 * second, 1)] rfl]
    decide
  · rw [slides.2.1 ⟨⟨∅⟩, ⟨0⟩⟩ "k" 1 0 (by decide)]
    decide
  · exact slides.2.2.1 ((RedisServer.mk ∅).incrBy "k" 1 0).2 "k" 1 0 ⟨.str (formatInt64 1), none⟩
      rfl
  · rw [show (60 : Int) = RedisCache.formatSec minute by decide,
      slides.2.2.2 ((RedisServer.mk ∅).incrBy "k" 1 0).2 "k" 0 ⟨.str (formatInt64 1), none⟩ rfl]
    decide

-- Two increments inside one window: the second moves the expiry past `t₁ + ttl`,
-- in memory and in Redis.
theorem increment_moves_expiry :
    ((MemoryCache.incrementRun ⟨∅, ⟨0⟩⟩ "k" minute [(0, 1), (30 * second, 1)]).data.lookup
      "k").bind MemoryItem.expiresAt ≠ some (0 + minute) ∧
    ((((RedisCache.mk ⟨∅⟩ ⟨0⟩).increment "k" 1 minute 0).2.increment "k" 1 minute
      (30 * second)).2.server.keyspace.lookup "k").bind RedisEntry.expiresAt ≠
        some (RedisServer.clockMs 0 + 60000) := by
  decide

end GoCleanArch
