import GoCleanArch.CounterWindow
import Mathlib.Data.List.Chain

/-!
The rate-limiting middleware of validator/tags.go: `RateLimit` and
`checkRateLimit` over a `MemoryCache`. A request is the part of its
`gin.Context` the middleware reads; `KeyGenerator` and `SkipCondition` are
functions of it. `checkRateLimit` reads `time.Now()` (`now`) before calling
`Increment`, which takes its own instant under `m.mu` (`incrementAt`); between
the two, other requests may increment, so a run lists the requests in the order
of their increments. `setRateLimitHeaders` and `OnLimitReached` write the
response and are not modelled: a request is let through exactly when the
middleware calls `c.Next()`.
-/

namespace GoCleanArch

structure Request where
  path : String
  clientIP : String

structure RateLimitConfig where
  windowSize : Int
  maxRequests : Int
  keyPrefix : String
  keyGenerator : Option (Request → String)
  skipPaths : List String
  skipCondition : Option (Request → Bool)

structure RateLimitInfo where
  key : String
  limit : Int
  remaining : Int
  resetTime : Int
  retryAt : Int
  windowSize : Int
  deriving DecidableEq, Repr

def defaultKeyGenerator (c : Request) : String := c.clientIP

def defaultRateLimitConfig : RateLimitConfig where
  windowSize := minute
  maxRequests := 100
  keyPrefix := "rate_limit:"
  keyGenerator := some defaultKeyGenerator
  skipPaths := ["/health", "/metrics"]
  skipCondition := none

namespace RateLimitConfig

-- The zero fields `RateLimit` replaces before it builds the handler.
def withDefaults (cfg : RateLimitConfig) : RateLimitConfig :=
  { cfg with
    keyGenerator := some (cfg.keyGenerator.getD defaultKeyGenerator)
    keyPrefix := if cfg.keyPrefix = "" then "rate_limit:" else cfg.keyPrefix
    windowSize := if cfg.windowSize = 0 then minute else cfg.windowSize
    maxRequests := if cfg.maxRequests = 0 then 100 else cfg.maxRequests }

end RateLimitConfig

-- The configuration the handler of `RateLimit(config...)` runs with.
def effectiveConfig (config : Option RateLimitConfig) : RateLimitConfig :=
  (config.getD defaultRateLimitConfig).withDefaults

def rateLimitKey (cfg : RateLimitConfig) (c : Request) : String :=
  cfg.keyPrefix ++ (cfg.keyGenerator.getD defaultKeyGenerator) c

-- What `checkRateLimit` returns once `cache.Increment` has answered; a failed
-- increment lets the request through with a zero `RetryAt`.
def decideRateLimit (key : String) (cfg : RateLimitConfig) (now : Int) :
    Except CacheError Int → RateLimitInfo × Bool
  | .error _ =>
      (⟨key, cfg.maxRequests, cfg.maxRequests, truncate now cfg.windowSize + cfg.windowSize, 0,
        cfg.windowSize⟩, true)
  | .ok current =>
      let remaining := wrap64 (cfg.maxRequests - current)
      (⟨key, cfg.maxRequests, if remaining < 0 then 0 else remaining,
        truncate now cfg.windowSize + cfg.windowSize,
        truncate now cfg.windowSize + cfg.windowSize, cfg.windowSize⟩,
        decide (current ≤ cfg.maxRequests))

def checkRateLimit (m : MemoryCache) (key : String) (cfg : RateLimitConfig) (now incrementAt : Int) :
    (RateLimitInfo × Bool) × MemoryCache :=
  let incremented := m.increment key 1 cfg.windowSize incrementAt
  (decideRateLimit key cfg now (.ok incremented.1), incremented.2)

inductive Verdict where
  -- a skip path or `SkipCondition`: `c.Next()` without counting
  | skipped
  -- headers set, then `c.Next()`
  | passed (info : RateLimitInfo)
  -- headers set, then `cfg.OnLimitReached(c, info)`
  | limited (info : RateLimitInfo)
  deriving DecidableEq, Repr

namespace Verdict

def callsNext : Verdict → Bool
  | .limited _ => false
  | _ => true

def info? : Verdict → Option RateLimitInfo
  | .skipped => none
  | .passed info => some info
  | .limited info => some info

end Verdict

-- The middleware's answer to a counted request whose `Increment` returned `count`.
def verdictOf (cfg : RateLimitConfig) (key : String) (now count : Int) : Verdict :=
  let decision := decideRateLimit key cfg now (.ok count)
  if decision.2 then .passed decision.1 else .limited decision.1

def skips (cfg : RateLimitConfig) (c : Request) : Bool :=
  decide (c.path ∈ cfg.skipPaths) || (cfg.skipCondition.map (fun condition => condition c)).getD false

def rateLimit (config : Option RateLimitConfig) (m : MemoryCache) (c : Request)
    (now incrementAt : Int) : Verdict × MemoryCache :=
  let cfg := effectiveConfig config
  if skips cfg c then (.skipped, m)
  else
    let checked := checkRateLimit m (rateLimitKey cfg c) cfg now incrementAt
    (if checked.1.2 then .passed checked.1.1 else .limited checked.1.1, checked.2)

structure Arrival where
  request : Request
  now : Int
  incrementAt : Int

def rateLimitRun (config : Option RateLimitConfig) (m : MemoryCache) :
    List Arrival → List Verdict × MemoryCache
  | [] => ([], m)
  | a :: rest =>
      let first := rateLimit config m a.request a.now a.incrementAt
      let later := rateLimitRun config first.2 rest
      (first.1 :: later.1, later.2)

/-! ### One request -/

def Reaches (config : Option RateLimitConfig) (key : String) (a : Arrival) : Prop :=
  skips (effectiveConfig config) a.request = false ∧ rateLimitKey (effectiveConfig config) a.request = key

instance (config : Option RateLimitConfig) (key : String) (a : Arrival) :
    Decidable (Reaches config key a) :=
  inferInstanceAs (Decidable (_ ∧ _))

theorem callsNext_verdictOf (cfg : RateLimitConfig) (key : String) (now count : Int) :
    (verdictOf cfg key now count).callsNext = decide (count ≤ cfg.maxRequests) := by
  by_cases within : count ≤ cfg.maxRequests <;>
    simp [verdictOf, decideRateLimit, Verdict.callsNext, within]

theorem rateLimit_of_reaches {config : Option RateLimitConfig} {key : String} {a : Arrival}
    (reach : Reaches config key a) (m : MemoryCache) :
    rateLimit config m a.request a.now a.incrementAt =
      (verdictOf (effectiveConfig config) key a.now
        (m.increment key 1 (effectiveConfig config).windowSize a.incrementAt).1,
        (m.increment key 1 (effectiveConfig config).windowSize a.incrementAt).2) := by
  simp only [rateLimit, reach.1, reach.2, checkRateLimit, verdictOf]
  rfl

/-! ### One lifetime of a counter -/

-- The counts `Increment` returns to the requests of one lifetime after `start` of them.
def lifetimeCounts (start n : Nat) : List Int :=
  (List.range' start n).map (fun i : Nat => wrap64 ((i : Int) + 1))

theorem lifetimeCounts_succ (start n : Nat) :
    lifetimeCounts start (n + 1) = wrap64 (start + 1) :: lifetimeCounts (start + 1) n := rfl

theorem lifetimeCounts_nodup {start n : Nat} (short : (start + n : Int) ≤ int64Max) :
    (lifetimeCounts start n).Nodup := by
  refine (List.nodup_range' start n).map_on fun i member j other same => ?_
  rw [List.mem_range'_1] at member other
  rw [wrap64_of_inInt64 ⟨by unfold int64Min; omega, by omega⟩,
    wrap64_of_inInt64 ⟨by unfold int64Min; omega, by omega⟩] at same
  omega

-- Within one lifetime a request passes only with a count at most the limit, so at
-- most `max (limit - start) 0` of the remaining ones pass.
theorem countP_lifetimeCounts_le (limit : Int) :
    ∀ {start n : Nat}, (start + n : Int) ≤ int64Max →
      ((lifetimeCounts start n).countP (fun count => decide (count ≤ limit)) : Int) ≤
        max (limit - start) 0
  | _, 0, _ => by simp [lifetimeCounts]
  | start, n + 1, short => by
      have rest := @countP_lifetimeCounts_le limit (start + 1) n (by push_cast; omega)
      rw [lifetimeCounts_succ, List.countP_cons,
        wrap64_of_inInt64 ⟨by unfold int64Min; omega, by omega⟩]
      push_cast at rest ⊢
      by_cases within : (start : Int) + 1 ≤ limit
      · rw [if_pos (by simpa using within)]
        omega
      · rw [if_neg (by simpa using within)]
        omega

theorem countP_zipWith_verdictOf (cfg : RateLimitConfig) (key : String) :
    ∀ (arrivals : List Arrival) (counts : List Int), arrivals.length = counts.length →
      (List.zipWith (fun a count => verdictOf cfg key a.now count) arrivals counts).countP
        Verdict.callsNext = counts.countP (fun count => decide (count ≤ cfg.maxRequests))
  | [], [], _ => rfl
  | a :: arrivals, count :: counts, same => by
      simp only [List.zipWith_cons_cons, List.countP_cons, callsNext_verdictOf,
        countP_zipWith_verdictOf cfg key arrivals counts (by simpa using same)]
  | [], _ :: _, same => by simp at same
  | _ :: _, [], same => by simp at same

theorem verdictOf_limited {cfg : RateLimitConfig} {key : String} {now count : Int}
    {info : RateLimitInfo} (limited : verdictOf cfg key now count = .limited info) :
    cfg.maxRequests < count ∧ info.retryAt = truncate now cfg.windowSize + cfg.windowSize := by
  by_cases within : count ≤ cfg.maxRequests <;>
    simp only [verdictOf, decideRateLimit, within, decide_True, decide_False, if_true, if_false,
      reduceCtorEq, Verdict.limited.injEq] at limited
  subst limited
  exact ⟨by omega, rfl⟩

section Lifetime

variable {config : Option RateLimitConfig} {key : String}

-- The run lemma: while every increment comes within the window of the previous one,
-- the counter stays alive and the requests get consecutive counts.
theorem rateLimitRun_live (positive : 0 < (effectiveConfig config).windowSize) :
    ∀ (arrivals : List Arrival) (m : MemoryCache) (start : Nat),
      (∀ a ∈ arrivals, Reaches config key a) →
      List.Chain' (fun t u => u ≤ t + (effectiveConfig config).windowSize)
        (arrivals.map Arrival.incrementAt) →
      (∀ a ∈ arrivals.head?, m.counterValue key a.incrementAt = wrap64 start) →
      (rateLimitRun config m arrivals).1 =
        List.zipWith (fun a count => verdictOf (effectiveConfig config) key a.now count) arrivals
          (lifetimeCounts start arrivals.length)
  | [], _, _, _, _, _ => rfl
  | a :: rest, m, start, reach, within, counted => by
      have count := counted a rfl
      have stored : (m.increment key 1 (effectiveConfig config).windowSize a.incrementAt).2.data.lookup
          key = some (Counter.mk (wrap64 (start + 1))
            (a.incrementAt + (effectiveConfig config).windowSize)).toItem := by
        rw [MemoryCache.increment_lookup, count, wrap64_add_wrap64,
          MemoryCache.withDefault_of_pos _ positive, MemoryCache.expiryAfter_of_pos _ positive]
        rfl
      have later := rateLimitRun_live positive rest _ (start + 1)
        (fun b member => reach b (List.mem_cons_of_mem _ member)) within.tail
        (fun b first => by
          have near := within.rel_head? (y := b.incrementAt) (by simp_all)
          rw [MemoryCache.counterValue_toItem stored (wrap64_inInt64 _), Counter.base,
            if_neg (not_lt.mpr near)]
          push_cast
          rfl)
      simp only [rateLimitRun, rateLimit_of_reaches (reach a (List.mem_cons_self _ _)),
        List.length_cons, lifetimeCounts_succ, List.zipWith_cons_cons, MemoryCache.increment_fst,
        count, wrap64_add_wrap64, later]

/-- Requests of one lifetime of the counter, in the order of their increments: the
`i`-th gets the count `wrap64 i`, and the middleware passes it exactly when that
count is at most the effective `MaxRequests` (0 is replaced by 100), with
`Remaining = max 0 (wrap64 (MaxRequests - count))`. Unless a lifetime reaches
`math.MaxInt64` increments, the counts are distinct and at most
`max MaxRequests 0` requests pass. -/
theorem rateLimit_lifetime_decided (m : MemoryCache) (first : Arrival) (rest : List Arrival)
    (positive : 0 < (effectiveConfig config).windowSize)
    (reach : ∀ a ∈ first :: rest, Reaches config key a)
    (fresh : m.lookupLive key first.incrementAt = none)
    (oneLifetime : List.Chain' (fun t u => u ≤ t + (effectiveConfig config).windowSize)
      ((first :: rest).map Arrival.incrementAt)) :
    (rateLimitRun config m (first :: rest)).1 =
      List.zipWith (fun a count => verdictOf (effectiveConfig config) key a.now count)
        (first :: rest) (lifetimeCounts 0 (rest.length + 1)) ∧
    ((rest.length + 1 : Int) ≤ int64Max →
      (lifetimeCounts 0 (rest.length + 1)).Nodup ∧
      (((rateLimitRun config m (first :: rest)).1.countP Verdict.callsNext : Int) ≤
        max (effectiveConfig config).maxRequests 0)) := by
  have verdicts := rateLimitRun_live positive (first :: rest) m 0 reach oneLifetime
    (fun a head => by
      cases Option.mem_some_iff.mp head
      exact MemoryCache.counterValue_of_not_live fresh)
  refine ⟨verdicts, fun short => ⟨lifetimeCounts_nodup (by simpa using short), ?_⟩⟩
  rw [verdicts, countP_zipWith_verdictOf _ _ _ _ (by simp [lifetimeCounts])]
  simpa using @countP_lifetimeCounts_le (effectiveConfig config).maxRequests 0 _
    (by simpa using short)

theorem rateLimit_lifetime_decided_two_requests :
    (rateLimitRun (some { defaultRateLimitConfig with maxRequests := 1 }) ⟨∅, ⟨0⟩⟩
      [⟨⟨"/api/v1/users", "10.0.0.1"⟩, 0, 0⟩,
        ⟨⟨"/api/v1/users", "10.0.0.1"⟩, second, second⟩]).1.map Verdict.callsNext =
      [true, false] := by
  rw [(@rateLimit_lifetime_decided (some { defaultRateLimitConfig with maxRequests := 1 })
    "rate_limit:10.0.0.1" ⟨∅, ⟨0⟩⟩ ⟨⟨"/api/v1/users", "10.0.0.1"⟩, 0, 0⟩
    [⟨⟨"/api/v1/users", "10.0.0.1"⟩, second, second⟩] (by decide) (by decide) rfl
    (List.chain'_pair.mpr (by decide))).1]
  decide

-- `MaxRequests = 0` is replaced by 100, so the first request passes; with
-- `MaxRequests = math.MinInt64` the subtraction wraps and `Remaining` is `math.MaxInt64`.
theorem rateLimit_limit_edge_cases :
    (rateLimitRun (some { defaultRateLimitConfig with maxRequests := 0 }) ⟨∅, ⟨0⟩⟩
      [⟨⟨"/api/v1/users", "10.0.0.1"⟩, 0, 0⟩]).1.map Verdict.callsNext = [true] ∧
    (rateLimitRun (some { defaultRateLimitConfig with maxRequests := int64Min }) ⟨∅, ⟨0⟩⟩
      [⟨⟨"/api/v1/users", "10.0.0.1"⟩, 0, 0⟩]).1.map
        (fun v => v.info?.map RateLimitInfo.remaining) = [some int64Max] := by
  decide

/-- After a denied request `a`, the next request `b` on the same key passes exactly
when its increment comes strictly after `a`'s increment plus the window, where
the refreshed counter expires, or `a` took the count to `math.MaxInt64`. The
`RetryAt` that `a` receives is `now.Truncate(W) + W`, which can come before that
instant. -/
theorem rateLimit_retry_after_window (m : MemoryCache) (a b : Arrival) (info : RateLimitInfo)
    (positive : 0 < (effectiveConfig config).windowSize)
    (allowsOne : 1 ≤ (effectiveConfig config).maxRequests)
    (reachA : Reaches config key a) (reachB : Reaches config key b)
    (denied : (rateLimit config m a.request a.now a.incrementAt).1 = .limited info) :
    info.retryAt = truncate a.now (effectiveConfig config).windowSize +
      (effectiveConfig config).windowSize ∧
    ((rateLimit config (rateLimit config m a.request a.now a.incrementAt).2 b.request b.now
        b.incrementAt).1.callsNext = true ↔
      a.incrementAt + (effectiveConfig config).windowSize < b.incrementAt ∨
        (m.increment key 1 (effectiveConfig config).windowSize a.incrementAt).1 = int64Max) := by
  rw [rateLimit_of_reaches reachA] at denied ⊢
  obtain ⟨over, retry⟩ := verdictOf_limited denied
  refine ⟨retry, ?_⟩
  have stored : (m.increment key 1 (effectiveConfig config).windowSize a.incrementAt).2.data.lookup
      key = some (Counter.mk (m.increment key 1 (effectiveConfig config).windowSize a.incrementAt).1
        (a.incrementAt + (effectiveConfig config).windowSize)).toItem := by
    rw [MemoryCache.increment_lookup, MemoryCache.withDefault_of_pos _ positive,
      MemoryCache.expiryAfter_of_pos _ positive]
    rfl
  have range := wrap64_inInt64 (m.counterValue key a.incrementAt + 1)
  rw [rateLimit_of_reaches reachB, callsNext_verdictOf, MemoryCache.increment_fst,
    MemoryCache.counterValue_toItem stored range, Counter.base, decide_eq_true_iff]
  rw [MemoryCache.increment_fst] at over ⊢
  generalize wrap64 (m.counterValue key a.incrementAt + 1) = count at over range ⊢
  unfold InInt64 int64Min int64Max at range
  dsimp only
  split
  · next expired =>
      rw [wrap64_of_inInt64 (by decide)]
      exact ⟨fun _ => Or.inl expired, fun _ => by omega⟩
  · next live =>
      by_cases top : count = int64Max
      · rw [top, show int64Max + 1 = 9223372036854775808 by rfl]
        exact ⟨fun _ => Or.inr rfl, fun _ => by unfold wrap64; omega⟩
      · rw [wrap64_of_inInt64 ⟨by unfold int64Min; omega, by unfold int64Max at top ⊢; omega⟩]
        constructor
        · intro passes; omega
        · rintro (later | reached) <;> contradiction

end Lifetime

theorem rateLimit_retry_after_window_at_ninety_seconds :
    (rateLimit (some { defaultRateLimitConfig with maxRequests := 1 })
      (rateLimit (some { defaultRateLimitConfig with maxRequests := 1 }) ⟨∅, ⟨0⟩⟩
        ⟨"/api/v1/users", "10.0.0.1"⟩ (10 * second) (10 * second)).2
      ⟨"/api/v1/users", "10.0.0.1"⟩ (20 * second) (20 * second)).1 =
      .limited ⟨"rate_limit:10.0.0.1", 1, 0, minute, minute, minute⟩ ∧
    (rateLimit (some { defaultRateLimitConfig with maxRequests := 1 })
      (rateLimit (some { defaultRateLimitConfig with maxRequests := 1 })
        (rateLimit (some { defaultRateLimitConfig with maxRequests := 1 }) ⟨∅, ⟨0⟩⟩
          ⟨"/api/v1/users", "10.0.0.1"⟩ (10 * second) (10 * second)).2
        ⟨"/api/v1/users", "10.0.0.1"⟩ (20 * second) (20 * second)).2
      ⟨"/api/v1/users", "10.0.0.1"⟩ (90 * second) (90 * second)).1.callsNext = true := by
  have denied : (rateLimit (some { defaultRateLimitConfig with maxRequests := 1 })
      (rateLimit (some { defaultRateLimitConfig with maxRequests := 1 }) ⟨∅, ⟨0⟩⟩
        ⟨"/api/v1/users", "10.0.0.1"⟩ (10 * second) (10 * second)).2
      ⟨"/api/v1/users", "10.0.0.1"⟩ (20 * second) (20 * second)).1 =
      .limited ⟨"rate_limit:10.0.0.1", 1, 0, minute, minute, minute⟩ := by decide
  exact ⟨denied, (@rateLimit_retry_after_window (some { defaultRateLimitConfig with maxRequests := 1 })
    "rate_limit:10.0.0.1" _ ⟨⟨"/api/v1/users", "10.0.0.1"⟩, 20 * second,
    20 * second⟩ ⟨⟨"/api/v1/users", "10.0.0.1"⟩, 90 * second, 90 * second⟩ _ (by decide)
    (by decide) (by decide) (by decide) denied).2.mpr (Or.inl (by decide))⟩

-- A request denied at 20 s is told to retry at 60 s, but the counter it refreshed
-- lives until 80 s, so the retry at 60 s is denied again.
theorem retry_at_still_limited :
    (rateLimitRun (some { defaultRateLimitConfig with maxRequests := 1 }) ⟨∅, ⟨0⟩⟩
      [⟨⟨"/api/v1/users", "10.0.0.1"⟩, 10 * second, 10 * second⟩,
        ⟨⟨"/api/v1/users", "10.0.0.1"⟩, 20 * second, 20 * second⟩,
        ⟨⟨"/api/v1/users", "10.0.0.1"⟩, 60 * second, 60 * second⟩]).1.map
      (fun v => (v.callsNext, v.info?.map RateLimitInfo.retryAt)) =
      [(true, some (60 * second)), (false, some (60 * second)), (false, some (120 * second))] := by
  decide

end GoCleanArch
