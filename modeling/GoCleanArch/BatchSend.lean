import GoCleanArch.GoRuntime

/-!
`BatchSendEmails` of pkg/email/utils.go. The loop index and the batch end are
`int`s, so `i + batchSize` wraps, and `messages[i:end]` panics unless
`0 ≤ i ≤ end ≤ len(messages)` (the loop never slices past the length, so the
capacity is left out). What the client and the context do is an environment:
whether the k-th `SendBulk` call succeeds, and whether the k-th delay ends on its
timer or on `ctx.Done()`. The loop runs on fuel; `none` is a loop that has not
ended when the fuel runs out.
-/

namespace GoCleanArch

section BatchSend

variable {Message : Type}

structure BatchEnv where
  bulkOk : Nat → Bool
  waitOk : Nat → Bool

def BatchEnv.allOk : BatchEnv := ⟨fun _ => true, fun _ => true⟩

@[simp] theorem BatchEnv.allOk_bulkOk (calls : Nat) : BatchEnv.allOk.bulkOk calls = true := rfl

@[simp] theorem BatchEnv.allOk_waitOk (waits : Nat) : BatchEnv.allOk.waitOk waits = true := rfl

inductive BatchResult where
  | ok
  -- `fmt.Errorf("failed to send batch %d-%d: %w", i, end-1, err)`
  | sendFailed (first last : Int)
  -- `ctx.Err()`
  | cancelled
  -- a slice out of range
  | panicked
  deriving DecidableEq, Repr

def sliceList (s : List Message) (lo hi : Int) : Option (List Message) :=
  if 0 ≤ lo ∧ lo ≤ hi ∧ hi ≤ s.length then some ((s.drop lo.toNat).take (hi - lo).toNat) else none

-- The batches handed to `SendBulk`, in order, and how the call ended.
def batchSendLoop (messages : List Message) (batchSize delay : Int) (env : BatchEnv) :
    Nat → Int → Nat → Nat → Option (List (List Message) × BatchResult)
  | 0, _, _, _ => none
  | fuel + 1, i, calls, waits =>
      if i < messages.length then
        let stop := if messages.length < wrap64 (i + batchSize) then (messages.length : Int)
          else wrap64 (i + batchSize)
        match sliceList messages i stop with
        | none => some ([], .panicked)
        | some batch =>
            if env.bulkOk calls then
              let rest :=
                if 0 < delay ∧ stop < messages.length then
                  if env.waitOk waits then
                    batchSendLoop messages batchSize delay env fuel (wrap64 (i + batchSize))
                      (calls + 1) (waits + 1)
                  else some ([], .cancelled)
                else
                  batchSendLoop messages batchSize delay env fuel (wrap64 (i + batchSize))
                    (calls + 1) waits
              rest.map fun ended => (batch :: ended.1, ended.2)
            else some ([batch], .sendFailed i (stop - 1))
      else some ([], .ok)

def batchSendEmails (messages : List Message) (batchSize delay : Int) (env : BatchEnv) (fuel : Nat) :
    Option (List (List Message) × BatchResult) :=
  batchSendLoop messages batchSize delay env fuel 0 0 0

-- A split into batches: each non-empty and at most `batchSize` long, together exactly
-- the messages, in order.
def ChunksOf (batchSize : Int) (batches : List (List Message)) (messages : List Message) : Prop :=
  batches.flatten = messages ∧ ∀ batch ∈ batches, batch ≠ [] ∧ (batch.length : Int) ≤ batchSize

/-! ### A positive batch size over at most 2^62 messages -/

section Positive

variable {messages : List Message} {batchSize delay : Int} {env : BatchEnv}

theorem wrap64_next (positive : 0 < batchSize) (bounded : batchSize ≤ int64Max)
    (short : 2 * (messages.length : Int) ≤ int64Max + 1) {i : Int} (start : i = 0 ∨ batchSize ≤ i)
    (inside : i < messages.length) : wrap64 (i + batchSize) = i + batchSize :=
  wrap64_of_inInt64 ⟨by unfold int64Min; omega, by omega⟩

theorem sliceList_batch (positive : 0 < batchSize) {i : Int} (start : 0 ≤ i)
    (inside : i < messages.length) :
    sliceList messages i (if messages.length < i + batchSize then (messages.length : Int)
      else i + batchSize) =
      some ((messages.drop i.toNat).take batchSize.toNat) := by
  unfold sliceList
  split
  · rw [if_pos ⟨start, by omega, by omega⟩]
    rw [List.take_of_length_le (by rw [List.length_drop]; omega),
      List.take_of_length_le (by rw [List.length_drop]; omega)]
  · rw [if_pos ⟨start, by omega, by omega⟩]
    congr 2
    omega

theorem batchSendLoop_done {fuel : Nat} {i : Int} (calls waits : Nat)
    (finished : (messages.length : Int) ≤ i) :
    batchSendLoop messages batchSize delay env (fuel + 1) i calls waits = some ([], .ok) := by
  rw [batchSendLoop, if_neg (by omega)]

theorem batchSendLoop_panics {fuel : Nat} {i : Int} (calls waits : Nat) (inside : i < messages.length)
    (outside : sliceList messages i (if messages.length < wrap64 (i + batchSize)
      then (messages.length : Int) else wrap64 (i + batchSize)) = none) :
    batchSendLoop messages batchSize delay env (fuel + 1) i calls waits = some ([], .panicked) := by
  rw [batchSendLoop, if_pos inside]
  simp only [outside]

theorem batchSendLoop_step (positive : 0 < batchSize) (env : BatchEnv) (delay : Int)
    (fuel : Nat) {i : Int} (start : 0 ≤ i) (inside : i < messages.length)
    (noWrap : wrap64 (i + batchSize) = i + batchSize) (calls waits : Nat) :
    ∃ stop : Int, batchSendLoop messages batchSize delay env (fuel + 1) i calls waits =
      if env.bulkOk calls then
        (if 0 < delay ∧ stop < messages.length then
          if env.waitOk waits then
            batchSendLoop messages batchSize delay env fuel (i + batchSize) (calls + 1) (waits + 1)
          else some ([], .cancelled)
        else batchSendLoop messages batchSize delay env fuel (i + batchSize) (calls + 1) waits).map
          fun ended => ((messages.drop i.toNat).take batchSize.toNat :: ended.1, ended.2)
      else some ([(messages.drop i.toNat).take batchSize.toNat], .sendFailed i (stop - 1)) := by
  rw [batchSendLoop, if_pos inside, noWrap]
  dsimp only
  rw [sliceList_batch positive start inside]
  exact ⟨if (messages.length : Int) < i + batchSize then (messages.length : Int) else i + batchSize,
    rfl⟩

-- With enough fuel the loop ends, on any answers of the client and the context, and it
-- never slices out of range.
theorem batchSendLoop_ends (positive : 0 < batchSize) (bounded : batchSize ≤ int64Max)
    (short : 2 * (messages.length : Int) ≤ int64Max + 1) (fuel : Nat) {i : Int}
    (start : i = 0 ∨ batchSize ≤ i) (enough : messages.length - i.toNat < fuel) (calls waits : Nat) :
    ∃ batches result, batchSendLoop messages batchSize delay env fuel i calls waits =
      some (batches, result) ∧ result ≠ .panicked := by
  induction fuel generalizing i calls waits with
  | zero => omega
  | succ fuel ih =>
      by_cases inside : i < messages.length
      · have next := ih (i := i + batchSize) (by omega) (by omega)
        obtain ⟨stop, step⟩ := batchSendLoop_step positive env delay fuel (by omega) inside
          (wrap64_next positive bounded short start inside) calls waits
        rw [step]
        cases bulk : env.bulkOk calls
        · simp only [bulk, Bool.false_eq_true, if_false]
          exact ⟨_, _, rfl, nofun⟩
        · simp only [bulk, if_true]
          split
          · cases waited : env.waitOk waits
            · simp only [Bool.false_eq_true, if_false, Option.map_some']
              exact ⟨_, _, rfl, nofun⟩
            · obtain ⟨batches, result, ended, fine⟩ := next (calls + 1) (waits + 1)
              simp only [if_true, ended, Option.map_some']
              exact ⟨_, _, rfl, fine⟩
          · obtain ⟨batches, result, ended, fine⟩ := next (calls + 1) waits
            simp only [ended, Option.map_some']
            exact ⟨_, _, rfl, fine⟩
      · exact ⟨_, _, batchSendLoop_done calls waits (by omega), nofun⟩

-- When every `SendBulk` call and every delay succeeds, the batches are the messages from
-- `i` on, cut into runs of `batchSize`.
theorem batchSendLoop_chunks (positive : 0 < batchSize) (bounded : batchSize ≤ int64Max)
    (short : 2 * (messages.length : Int) ≤ int64Max + 1) (fuel : Nat) {i : Int}
    (start : i = 0 ∨ batchSize ≤ i) (enough : messages.length - i.toNat < fuel) (calls waits : Nat) :
    ∃ batches, batchSendLoop messages batchSize delay BatchEnv.allOk fuel i calls waits =
      some (batches, .ok) ∧ ChunksOf batchSize batches (messages.drop i.toNat) := by
  induction fuel generalizing i calls waits with
  | zero => omega
  | succ fuel ih =>
      by_cases inside : i < messages.length
      · have next := ih (i := i + batchSize) (by omega) (by omega)
        have later : ∀ batches, ChunksOf batchSize batches (messages.drop (i + batchSize).toNat) →
            ChunksOf batchSize ((messages.drop i.toNat).take batchSize.toNat :: batches)
              (messages.drop i.toNat) := by
          rintro batches ⟨flat, sized⟩
          refine ⟨?_, List.forall_mem_cons.mpr ⟨⟨?_, ?_⟩, sized⟩⟩
          · rw [List.flatten_cons, flat, show (i + batchSize).toNat = i.toNat + batchSize.toNat by omega,
              ← List.drop_drop, List.take_append_drop]
          · simp only [ne_eq, List.take_eq_nil_iff, List.drop_eq_nil_iff]
            omega
          · simp only [List.length_take]
            omega
        obtain ⟨stop, step⟩ :=
          batchSendLoop_step positive BatchEnv.allOk delay fuel (by omega) inside
            (wrap64_next positive bounded short start inside) calls waits
        rw [step]
        simp only [BatchEnv.allOk_bulkOk, BatchEnv.allOk_waitOk, if_true]
        split
        · obtain ⟨batches, ended, chunks⟩ := next (calls + 1) (waits + 1)
          simp only [ended, Option.map_some']
          exact ⟨_, rfl, later batches chunks⟩
        · obtain ⟨batches, ended, chunks⟩ := next (calls + 1) waits
          simp only [ended, Option.map_some']
          exact ⟨_, rfl, later batches chunks⟩
      · refine ⟨[], batchSendLoop_done calls waits (by omega), ?_, nofun⟩
        rw [List.flatten_nil, List.drop_eq_nil_of_le (by omega)]

end Positive

-- For a positive `int` batch size and at most 2^62 messages, the call ends with enough
-- fuel and never panics; when the client and the context never fail it sends the
-- messages once each, in order, in non-empty runs of at most `batchSize`.
theorem batch_send_chunks (messages : List Message) (batchSize delay : Int)
    (positive : 0 < batchSize) (bounded : batchSize ≤ int64Max)
    (short : 2 * (messages.length : Int) ≤ int64Max + 1) (fuel : Nat) (enough : messages.length < fuel) :
    (∀ env, ∃ batches result, batchSendEmails messages batchSize delay env fuel =
      some (batches, result) ∧ result ≠ .panicked) ∧
    ∃ batches, batchSendEmails messages batchSize delay BatchEnv.allOk fuel = some (batches, .ok) ∧
      ChunksOf batchSize batches messages :=
  ⟨fun _ => batchSendLoop_ends positive bounded short fuel (.inl rfl) (by omega) 0 0,
    batchSendLoop_chunks positive bounded short fuel (.inl rfl) (by omega) 0 0⟩

theorem batch_send_chunks_five_by_two :
    0 < (2 : Int) ∧ (2 : Int) ≤ int64Max ∧ 2 * (([1, 2, 3, 4, 5] : List Nat).length : Int) ≤ int64Max + 1 ∧
      ([1, 2, 3, 4, 5] : List Nat).length < 6 ∧
      ((∀ env, ∃ batches result, batchSendEmails [1, 2, 3, 4, 5] 2 0 env 6 =
        some (batches, result) ∧ result ≠ .panicked) ∧
      ∃ batches, batchSendEmails [1, 2, 3, 4, 5] 2 0 BatchEnv.allOk 6 = some (batches, .ok) ∧
        ChunksOf 2 batches [1, 2, 3, 4, 5]) :=
  ⟨by decide, by decide, by decide, by decide,
    batch_send_chunks [1, 2, 3, 4, 5] 2 0 (by decide) (by decide) (by decide) 6 (by decide)⟩

theorem batchSendLoop_zero (messages : List Message) (delay : Int) (nonempty : messages ≠ [])
    (fuel calls waits : Nat) :
    batchSendLoop messages 0 delay BatchEnv.allOk fuel 0 calls waits = none := by
  have inside : (0 : Int) < messages.length := by
    cases messages with
    | nil => exact absurd rfl nonempty
    | cons _ _ => simp
  induction fuel generalizing calls waits with
  | zero => rfl
  | succ fuel ih =>
      have notNegative : ¬(messages.length : Int) < 0 := by omega
      have empty : sliceList messages 0 0 = some [] := by
        unfold sliceList
        rw [if_pos ⟨Int.le_refl 0, Int.le_refl 0, by omega⟩]
        rfl
      rw [batchSendLoop, if_pos inside, show wrap64 (0 + 0) = 0 from rfl]
      simp only [notNegative, if_false, empty, BatchEnv.allOk_bulkOk, BatchEnv.allOk_waitOk, if_true]
      split <;> rw [ih] <;> rfl

theorem batchSendEmails_wraps :
    batchSendEmails (List.replicate 4611686018427387905 0) 4611686018427387904 0 BatchEnv.allOk 3 =
      some ([List.replicate 4611686018427387904 0], .panicked) := by
  have length : ((List.replicate 4611686018427387905 0 : List Nat).length : Int) =
      4611686018427387905 := by
    rw [List.length_replicate]
    rfl
  obtain ⟨stop, first⟩ := batchSendLoop_step (by decide : (0 : Int) < 4611686018427387904)
    BatchEnv.allOk 0 2 (Int.le_refl 0)
    (show (0 : Int) < (List.replicate 4611686018427387905 0 : List Nat).length by rw [length]; decide)
    (by decide) 0 0
  have outside : sliceList (List.replicate 4611686018427387905 0 : List Nat) (0 + 4611686018427387904)
      (if ((List.replicate 4611686018427387905 0 : List Nat).length : Int) <
          wrap64 (0 + 4611686018427387904 + 4611686018427387904)
        then ((List.replicate 4611686018427387905 0 : List Nat).length : Int)
        else wrap64 (0 + 4611686018427387904 + 4611686018427387904)) = none := by
    rw [show wrap64 (0 + 4611686018427387904 + 4611686018427387904) = int64Min by decide,
      sliceList, length, if_neg (by decide)]
  rw [batchSendEmails, first]
  simp only [BatchEnv.allOk_bulkOk, if_true, Int.lt_irrefl, false_and, if_false]
  rw [batchSendLoop_panics 1 0 (by rw [length]; decide) outside, Option.map_some']
  show some ([List.take 4611686018427387904 (List.drop 0 (List.replicate 4611686018427387905 0))],
    BatchResult.panicked) = _
  rw [List.drop_zero, List.take_replicate]
  rfl

-- Batch size 0 loops forever; a negative one panics on the first slice; and over
-- 2^62 + 1 messages a batch size of 2^62 wraps `i + batchSize` and panics on the second.
theorem batch_send_unchecked_size :
    (∀ fuel, batchSendEmails [1] 0 0 BatchEnv.allOk fuel = none) ∧
      batchSendEmails [1] (-1) 0 BatchEnv.allOk 1 = some ([], .panicked) ∧
      batchSendEmails (List.replicate 4611686018427387905 0) 4611686018427387904 0 BatchEnv.allOk 3 =
        some ([List.replicate 4611686018427387904 0], .panicked) :=
  ⟨fun fuel => batchSendLoop_zero [1] 0 (by decide) fuel 0 0, by decide, batchSendEmails_wraps⟩

end BatchSend

end GoCleanArch
