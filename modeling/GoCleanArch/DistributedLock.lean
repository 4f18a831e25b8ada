import GoCleanArch.RedisCache
import GoCleanArch.MemoryCache
import Mathlib.Logic.Function.Basic

/-!
`Lock(r, ttl)` and `Unlock(r)` of both stores as a lock protocol on `lock:<r>`.
`LockBackend` says what a store offers: `Lock` with a positive ttl succeeds
exactly when the entry is not live, and then keeps it live up to the deadline
`clock now + span ttl` in the store's own clock; `Unlock` deletes the entry
whoever wrote it. `MemoryCache` counts in nanoseconds; Redis keeps PX or EX
deadlines in milliseconds. The ghost field `held` records, for each client, the
deadline of the lock its last successful `Lock` took, until its own `Unlock`: a
client holds `r` at `t` while `t` has not passed that deadline.
-/

namespace GoCleanArch

structure LockBackend (S : Type) where
  tryLock : S → Int → Int → Bool × S
  release : S → Int → S
  live : S → Int → Bool
  clock : Int → Int
  span : Int → Int
  clock_mono : ∀ {t u : Int}, t ≤ u → clock t ≤ clock u
  span_pos : ∀ {ttl : Int}, 0 < ttl → 0 < span ttl
  tryLock_live : ∀ (s : S) (ttl now : Int), 0 < ttl → live s now = true →
    tryLock s ttl now = (false, s)
  tryLock_free : ∀ (s : S) (ttl now : Int), 0 < ttl → live s now = false →
    (tryLock s ttl now).1 = true ∧
      ∀ t, live (tryLock s ttl now).2 t = decide (clock t ≤ clock now + span ttl)
  release_free : ∀ (s : S) (now t : Int), live (release s now) t = false

inductive LockCall where
  | lock (client : Nat) (ttl : Int)
  | unlock (client : Nat)
  deriving DecidableEq, Repr

structure LockSystem (S : Type) where
  store : S
  held : Nat → Option Int

namespace LockBackend

variable {S : Type} (B : LockBackend S)

def step (sys : LockSystem S) : LockCall → Int → LockSystem S
  | .lock client ttl, now =>
      let attempt := B.tryLock sys.store ttl now
      ⟨attempt.2, if attempt.1 then Function.update sys.held client (some (B.clock now + B.span ttl))
        else sys.held⟩
  | .unlock client, now => ⟨B.release sys.store now, Function.update sys.held client none⟩

def run (sys : LockSystem S) : List (LockCall × Int) → LockSystem S
  | [] => sys
  | (call, now) :: rest => run (B.step sys call now) rest

def holds (sys : LockSystem S) (client : Nat) (t : Int) : Bool :=
  match sys.held client with
  | some deadline => decide (B.clock t ≤ deadline)
  | none => false

-- A call as the safe protocol allows it: `Lock` with a positive ttl, `Unlock` by a
-- client that still holds the lock.
def allowed (sys : LockSystem S) (now : Int) : LockCall → Bool
  | .lock _ ttl => decide (0 < ttl)
  | .unlock client => B.holds sys client now

-- Allowed calls at instants from `since` on, in order.
def safeRun (sys : LockSystem S) (since : Int) : List (LockCall × Int) → Bool
  | [] => true
  | (call, now) :: rest =>
      decide (since ≤ now) && B.allowed sys now call && safeRun (B.step sys call now) now rest

-- The invariant at instant `since`: a client whose hold has not expired is the
-- only one, and the store keeps the entry live exactly up to its deadline.
def Exclusive (sys : LockSystem S) (since : Int) : Prop :=
  ∀ client deadline, sys.held client = some deadline → B.clock since ≤ deadline →
    (∀ t, since ≤ t → B.live sys.store t = decide (B.clock t ≤ deadline)) ∧
    ∀ other other_deadline, other ≠ client → sys.held other = some other_deadline →
      other_deadline < B.clock since

variable {B}

theorem exclusive_later {sys : LockSystem S} {since now : Int} (exclusive : B.Exclusive sys since)
    (later : since ≤ now) : B.Exclusive sys now := by
  intro client deadline held current
  have earlier := B.clock_mono later
  obtain ⟨live, others⟩ := exclusive client deadline held (by omega)
  exact ⟨fun t after => live t (by omega), fun other d different held' =>
    (others other d different held').trans_le earlier⟩

theorem no_holder_of_free {sys : LockSystem S} {since now : Int}
    (exclusive : B.Exclusive sys since) (later : since ≤ now) (free : B.live sys.store now = false)
    (client : Nat) (deadline : Int) (held : sys.held client = some deadline) :
    deadline < B.clock now := by
  by_contra unexpired
  have live := (exclusive_later exclusive later client deadline held (by omega)).1 now le_rfl
  rw [free] at live
  exact absurd (of_decide_eq_false live.symm) (by omega)

theorem step_exclusive {sys : LockSystem S} {since now : Int} (exclusive : B.Exclusive sys since)
    (later : since ≤ now) (call : LockCall) (allowed : B.allowed sys now call = true) :
    B.Exclusive (B.step sys call now) now := by
  cases call with
  | lock client ttl =>
      replace allowed : 0 < ttl := of_decide_eq_true allowed
      cases free : B.live sys.store now
      · obtain ⟨taken, deadline⟩ := B.tryLock_free sys.store ttl now allowed free
        intro c d held current
        simp only [step, taken, if_true] at held ⊢
        by_cases mine : c = client
        · subst mine
          simp only [Function.update_same, Option.some.injEq] at held
          subst held
          refine ⟨fun t _ => deadline t, fun other d' different held' => ?_⟩
          rw [Function.update_noteq different] at held'
          exact no_holder_of_free exclusive later free other d' held'
        · rw [Function.update_noteq mine] at held
          exact absurd (no_holder_of_free exclusive later free c d held) (by omega)
      · simp only [step, B.tryLock_live sys.store ttl now allowed free, Bool.false_eq_true, if_false]
        exact exclusive_later exclusive later
  | unlock client =>
      simp only [LockBackend.allowed, holds] at allowed
      split at allowed
      · next deadline held =>
          have holder := exclusive_later exclusive later client deadline held
            (of_decide_eq_true allowed)
          intro c d held' current
          simp only [step] at held' ⊢
          by_cases mine : c = client
          · subst mine
            simp at held'
          · rw [Function.update_noteq mine] at held'
            exact absurd (holder.2 c d mine held') (by omega)
      · cases allowed

theorem run_exclusive :
    ∀ (calls : List (LockCall × Int)) (sys : LockSystem S) (since : Int),
      B.Exclusive sys since → B.safeRun sys since calls = true → ∀ t, since ≤ t →
      (∀ call ∈ calls, call.2 ≤ t) → B.Exclusive (B.run sys calls) t
  | [], _, _, exclusive, _, _, later, _ => exclusive_later exclusive later
  | (call, now) :: rest, sys, since, exclusive, safe, t, _, bound => by
      simp only [safeRun, Bool.and_eq_true, decide_eq_true_eq] at safe
      exact run_exclusive rest _ now (step_exclusive exclusive safe.1.1 call safe.1.2) safe.2 t
        (bound _ (List.mem_cons_self _ _)) (fun c member => bound c (List.mem_cons_of_mem _ member))

theorem exclusive_not_two {sys : LockSystem S} {since t : Int} (exclusive : B.Exclusive sys since)
    (later : since ≤ t) {first second : Nat} (different : first ≠ second)
    (holdsFirst : B.holds sys first t = true) : B.holds sys second t = false := by
  simp only [holds] at holdsFirst ⊢
  split at holdsFirst
  · next deadline held =>
      split
      · next other_deadline held' =>
          have earlier := B.clock_mono later
          have expired := (exclusive first deadline held
            (by have := of_decide_eq_true holdsFirst; omega)).2 second other_deadline
              (Ne.symm different) held'
          exact decide_eq_false (by omega)
      · rfl
  · cases holdsFirst

/-- Mutual exclusion: from a state where no client holds the lock, after any run of
calls whose unlocks come from clients still holding it, no two clients hold the
lock at any instant after the last call. -/
theorem no_two_holders (sys : LockSystem S) (since : Int) (free : ∀ client, sys.held client = none)
    (calls : List (LockCall × Int)) (safe : B.safeRun sys since calls = true) (t : Int)
    (later : since ≤ t)
    (after : ∀ call ∈ calls, call.2 ≤ t) {first second : Nat} (different : first ≠ second)
    (holdsFirst : B.holds (B.run sys calls) first t = true) :
    B.holds (B.run sys calls) second t = false :=
  exclusive_not_two (run_exclusive calls sys since
    (fun client _ held => by simp [free client] at held) safe t later after) le_rfl different
    holdsFirst

end LockBackend

/-! ### The two stores -/

namespace MemoryCache

theorem lock_of_live {m : MemoryCache} {resource : String} {ttl now : Int}
    (live : (m.lookupLive (lockKey resource) now).isSome = true) : m.lock resource ttl now = (false, m) := by
  obtain ⟨item, found⟩ := Option.isSome_iff_exists.mp live
  simp [lock, found]

theorem lock_of_free {m : MemoryCache} {resource : String} {ttl now : Int}
    (free : (m.lookupLive (lockKey resource) now).isSome = false) :
    m.lock resource ttl now =
      (true, m.withData (m.data.insert (lockKey resource) ⟨lockedValue, expiryAfter ttl now⟩)) := by
  have gone : m.lookupLive (lockKey resource) now = none := by simpa using free
  simp [lock, gone]

def lockBackend (resource : String) : LockBackend MemoryCache where
  tryLock m ttl now := m.lock resource ttl now
  release m _ := m.unlock resource
  live m now := (m.lookupLive (lockKey resource) now).isSome
  clock t := t
  span ttl := ttl
  clock_mono later := later
  span_pos positive := positive
  tryLock_live _ _ _ _ live := lock_of_live live
  tryLock_free m ttl now positive free := by
    dsimp only at free ⊢
    refine ⟨by rw [lock_of_free free], fun t => ?_⟩
    rw [lock_of_free free, expiryAfter_of_pos now positive]
    by_cases expired : now + ttl < t
    · simp [MemoryCache.lookupLive, isExpired, expired]
    · simp [MemoryCache.lookupLive, isExpired, expired]
      omega
  release_free m _ t := by simp [unlock, delete, MemoryCache.lookupLive]

end MemoryCache

namespace RedisCache

-- The deadline a positive ttl gives a lock, in milliseconds: PX or EX as `SetNX` sends it.
def lockSpan (ttl : Int) : Int :=
  if usePrecise ttl then formatMs ttl else formatSec ttl * 1000

theorem lockSpan_pos {ttl : Int} (positive : 0 < ttl) : 0 < lockSpan ttl := by
  unfold lockSpan
  split
  · exact formatMs_pos positive
  · have := formatSec_pos positive
    omega

theorem lock_of_pos (r : RedisCache) (resource : String) {ttl : Int} (now : Int)
    (positive : 0 < ttl) :
    r.lock resource ttl now =
      if (r.server.lookupLive (lockKey resource) now).isSome then (.ok false, r)
      else (.ok true, r.withServer ⟨r.server.keyspace.insert (lockKey resource)
        ⟨.str lockedValue, some (RedisServer.clockMs now + lockSpan ttl)⟩⟩) := by
  have notZero : ttl ≠ 0 := by omega
  have notKeep : ttl ≠ keepTTL := by unfold keepTTL; omega
  have ms := formatMs_pos positive
  have sec := formatSec_pos positive
  by_cases precise : usePrecise ttl <;>
    by_cases live : (r.server.lookupLive (lockKey resource) now).isSome <;>
    simp [lock, notZero, notKeep, precise, RedisServer.set, lockSpan, live,
      show ¬formatMs ttl ≤ 0 by omega, show ¬formatSec ttl ≤ 0 by omega]

def lockBackend (resource : String) : LockBackend RedisCache where
  tryLock r ttl now :=
    let reply := r.lock resource ttl now
    (match reply.1 with
      | .ok acquired => acquired
      | .error _ => false, reply.2)
  release r now := r.unlock resource now
  live r now := (r.server.lookupLive (lockKey resource) now).isSome
  clock := RedisServer.clockMs
  span := lockSpan
  clock_mono later := by unfold RedisServer.clockMs; omega
  span_pos positive := lockSpan_pos positive
  tryLock_live r _ now positive live := by
    dsimp only at live ⊢
    simp [lock_of_pos r resource now positive, live]
  tryLock_free r ttl now positive free := by
    dsimp only at free ⊢
    simp only [lock_of_pos r resource now positive, free, Bool.false_eq_true, if_false, true_and]
    intro t
    by_cases expired : RedisServer.clockMs now + lockSpan ttl < RedisServer.clockMs t
    · simp [RedisServer.lookupLive_insert_self, RedisServer.isExpired, expired]
    · simp [RedisServer.lookupLive_insert_self, RedisServer.isExpired, expired]
      omega
  release_free r now t := by
    simp [unlock, RedisServer.del, RedisServer.lookupLive]

end RedisCache

/-- With a positive ttl on every `Lock`, if each client calls `Unlock(r)` only while
it still holds `r`, then on either store no two clients hold `r` at any instant:
each holds from its successful `Lock` until its own `Unlock` or its deadline. -/
theorem lock_mutual_exclusion (resource : String) :
    (∀ (m : MemoryCache) (since : Int) (calls : List (LockCall × Int)) (t : Int),
      (MemoryCache.lockBackend resource).safeRun ⟨m, fun _ => none⟩ since calls = true →
      since ≤ t → (∀ call ∈ calls, call.2 ≤ t) → ∀ first second, first ≠ second →
      (MemoryCache.lockBackend resource).holds
        ((MemoryCache.lockBackend resource).run ⟨m, fun _ => none⟩ calls) first t = true →
      (MemoryCache.lockBackend resource).holds
        ((MemoryCache.lockBackend resource).run ⟨m, fun _ => none⟩ calls) second t = false) ∧
    (∀ (r : RedisCache) (since : Int) (calls : List (LockCall × Int)) (t : Int),
      (RedisCache.lockBackend resource).safeRun ⟨r, fun _ => none⟩ since calls = true →
      since ≤ t → (∀ call ∈ calls, call.2 ≤ t) → ∀ first second, first ≠ second →
      (RedisCache.lockBackend resource).holds
        ((RedisCache.lockBackend resource).run ⟨r, fun _ => none⟩ calls) first t = true →
      (RedisCache.lockBackend resource).holds
        ((RedisCache.lockBackend resource).run ⟨r, fun _ => none⟩ calls) second t = false) :=
  ⟨fun m since calls t safe later after _ _ different =>
      LockBackend.no_two_holders ⟨m, fun _ => none⟩ since (fun _ => rfl) calls safe t later after
        different,
    fun r since calls t safe later after _ _ different =>
      LockBackend.no_two_holders ⟨r, fun _ => none⟩ since (fun _ => rfl) calls safe t later after
        different⟩

theorem lock_mutual_exclusion_handover :
    (MemoryCache.lockBackend "report").holds ((MemoryCache.lockBackend "report").run
      ⟨⟨∅, ⟨0⟩⟩, fun _ => none⟩ [(.lock 1 10, 0), (.unlock 1, 5), (.lock 2 10, 6)]) 2 6 = true ∧
    (MemoryCache.lockBackend "report").holds ((MemoryCache.lockBackend "report").run
      ⟨⟨∅, ⟨0⟩⟩, fun _ => none⟩ [(.lock 1 10, 0), (.unlock 1, 5), (.lock 2 10, 6)]) 1 6 = false ∧
    (RedisCache.lockBackend "report").holds ((RedisCache.lockBackend "report").run
      ⟨⟨⟨∅⟩, ⟨0⟩⟩, fun _ => none⟩ [(.lock 1 second, 0), (.unlock 1, 1), (.lock 2 second, 2)]) 1 2 =
      false := by
  refine ⟨by decide, (lock_mutual_exclusion "report").1 ⟨∅, ⟨0⟩⟩ 0 _ 6 (by decide) (by decide)
    (by decide) 2 1 (by decide) (by decide), (lock_mutual_exclusion "report").2 ⟨⟨∅⟩, ⟨0⟩⟩ 0 _ 2
    (by decide) (by decide) (by decide) 2 1 (by decide) (by decide)⟩

-- Client 1's lock expires, client 2 takes it, client 1 (whose own `Lock` succeeded)
-- unlocks, and client 3 takes it while client 2 still holds it: at 26 both hold,
-- in memory and in Redis.
theorem lock_stale_unlock_overlap :
    ((MemoryCache.lockBackend "report").run ⟨⟨∅, ⟨0⟩⟩, fun _ => none⟩
      [(.lock 1 10, 0), (.lock 2 10, 20)]).held 1 = some 10 ∧
    (MemoryCache.lockBackend "report").holds ((MemoryCache.lockBackend "report").run
      ⟨⟨∅, ⟨0⟩⟩, fun _ => none⟩
      [(.lock 1 10, 0), (.lock 2 10, 20), (.unlock 1, 25), (.lock 3 10, 26)]) 2 26 = true ∧
    (MemoryCache.lockBackend "report").holds ((MemoryCache.lockBackend "report").run
      ⟨⟨∅, ⟨0⟩⟩, fun _ => none⟩
      [(.lock 1 10, 0), (.lock 2 10, 20), (.unlock 1, 25), (.lock 3 10, 26)]) 3 26 = true ∧
    (RedisCache.lockBackend "report").holds ((RedisCache.lockBackend "report").run
      ⟨⟨⟨∅⟩, ⟨0⟩⟩, fun _ => none⟩ [(.lock 1 (10 * second), 0), (.lock 2 (10 * second), 20 * second),
        (.unlock 1, 25 * second), (.lock 3 (10 * second), 26 * second)]) 2 (26 * second) = true ∧
    (RedisCache.lockBackend "report").holds ((RedisCache.lockBackend "report").run
      ⟨⟨⟨∅⟩, ⟨0⟩⟩, fun _ => none⟩ [(.lock 1 (10 * second), 0), (.lock 2 (10 * second), 20 * second),
        (.unlock 1, 25 * second), (.lock 3 (10 * second), 26 * second)]) 3 (26 * second) = true := by
  decide

end GoCleanArch
