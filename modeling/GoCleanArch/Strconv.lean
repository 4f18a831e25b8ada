import GoCleanArch.GoRuntime
import Mathlib.Algebra.Group.Nat.Basic

/-!
`formatInt64` and `parseInt64` of pkg/cache (part_022), which call
`strconv.FormatInt(v, 10)` and `strconv.ParseInt(s, 10, 64)`. Byte strings are
`List UInt8`. `decimalAux` is the digit loop of strconv's `formatBits`, with its
iteration count as fuel. `parseInt` follows `ParseInt`: one optional sign, then
`ParseUint` in base 10 (no prefix and no underscores in base 10), then the int64
range check; every error is `none`.
-/

namespace GoCleanArch

abbrev Bytes := List UInt8

def digitByte (d : Nat) : UInt8 := (d + 48).toUInt8

def isDigitByte (b : UInt8) : Bool := 48 ≤ b.toNat && b.toNat ≤ 57

def byteDigit (b : UInt8) : Nat := b.toNat - 48

-- formatBits writes the least significant digit first, at the end of its buffer.
def decimalAux : Nat → Nat → Bytes → Bytes
  | 0, _, acc => acc
  | fuel + 1, u, acc =>
      if u < 10 then digitByte u :: acc
      else decimalAux fuel (u / 10) (digitByte (u % 10) :: acc)

def decimal (u : Nat) : Bytes := decimalAux (u + 1) u []

def formatInt (v : Int) : Bytes :=
  if v < 0 then 45 :: decimal v.natAbs else decimal v.natAbs

def formatInt64 (value : Int) : Bytes := formatInt value

def digitsValue (s : Bytes) : Nat := s.foldl (fun acc b => 10 * acc + byteDigit b) 0

-- `ParseUint(s, 10, 64)` up to its range error, which `parseInt` subsumes.
def parseDigits (s : Bytes) : Option Nat :=
  if s ≠ [] ∧ s.all isDigitByte = true then some (digitsValue s) else none

def parseMagnitude (neg : Bool) (digits : Bytes) : Option Int :=
  match parseDigits digits with
  | none => none
  | some un =>
      if !neg && 9223372036854775808 ≤ un then none
      else if neg && 9223372036854775808 < un then none
      else some (if neg then -(un : Int) else un)

def parseInt : Bytes → Option Int
  | [] => none
  | c :: rest =>
      if c = 43 then parseMagnitude false rest
      else if c = 45 then parseMagnitude true rest
      else parseMagnitude false (c :: rest)

def parseInt64 (data : Bytes) : Option Int := parseInt data

theorem digitByte_spec : ∀ d, d < 10 →
    isDigitByte (digitByte d) = true ∧ byteDigit (digitByte d) = d := by
  decide

theorem digitsValue_append_digit (s : Bytes) (d : Nat) (small : d < 10) :
    digitsValue (s ++ [digitByte d]) = 10 * digitsValue s + d := by
  simp [digitsValue, List.foldl_append, (digitByte_spec d small).2]

theorem decimalAux_acc (fuel u : Nat) (acc : Bytes) :
    decimalAux fuel u acc = decimalAux fuel u [] ++ acc := by
  induction fuel generalizing u acc with
  | zero => rfl
  | succ fuel ih =>
      simp only [decimalAux]
      split
      · rfl
      · rw [ih, ih (u / 10) [digitByte (u % 10)]]
        simp

theorem decimalAux_spec (fuel u : Nat) (enough : u < fuel) :
    decimalAux fuel u [] ≠ [] ∧ (decimalAux fuel u []).all isDigitByte = true ∧
      digitsValue (decimalAux fuel u []) = u := by
  induction fuel generalizing u with
  | zero => omega
  | succ fuel ih =>
      simp only [decimalAux]
      split
      case isTrue small =>
        have digit := digitByte_spec u small
        simp [digit.1, digitsValue, digit.2]
      case isFalse large =>
        obtain ⟨nonempty, digits, value⟩ := ih (u / 10) (by omega)
        have last := digitByte_spec (u % 10) (Nat.mod_lt u (by omega))
        rw [decimalAux_acc]
        refine ⟨by simp, by simp [digits, last.1], ?_⟩
        rw [digitsValue_append_digit _ _ (Nat.mod_lt u (by omega)), value]
        omega

theorem parseDigits_decimal (u : Nat) : parseDigits (decimal u) = some u := by
  obtain ⟨nonempty, digits, value⟩ := decimalAux_spec (u + 1) u (by omega)
  simp [parseDigits, decimal, nonempty, digits, value]

theorem decimal_head_digit (u : Nat) :
    ∃ c rest, decimal u = c :: rest ∧ isDigitByte c = true := by
  obtain ⟨nonempty, digits, -⟩ := decimalAux_spec (u + 1) u (by omega)
  unfold decimal
  cases h : decimalAux (u + 1) u [] with
  | nil => exact absurd h nonempty
  | cons c rest =>
      rw [h] at digits
      exact ⟨c, rest, rfl, (List.all_eq_true.mp digits) c (by simp)⟩

-- A number below 10^(k+1) has at most k+1 digits.
theorem decimalAux_length (fuel u k : Nat) (small : u < 10 ^ (k + 1)) :
    (decimalAux fuel u []).length ≤ k + 1 := by
  induction fuel generalizing u k with
  | zero => exact Nat.zero_le _
  | succ fuel ih =>
    simp only [decimalAux]
    split
    · exact Nat.le_add_left 1 k
    · cases k with
      | zero => rw [Nat.zero_add, Nat.pow_one] at small; omega
      | succ j =>
        have := ih (u / 10) j (by rw [Nat.pow_succ] at small; omega)
        rw [decimalAux_acc, List.length_append, List.length_singleton]
        omega

-- A positive number is written without a leading zero.
theorem decimalAux_head (fuel u : Nat) (positive : 0 < u) (enough : u < fuel) :
    ∃ c rest, decimalAux fuel u [] = c :: rest ∧ 49 ≤ c.toNat ∧ c.toNat ≤ 57 := by
  induction fuel generalizing u with
  | zero => omega
  | succ fuel ih =>
    simp only [decimalAux]
    split
    · rename_i small
      have digit : ∀ d, d < 10 → 0 < d → 49 ≤ (digitByte d).toNat ∧ (digitByte d).toNat ≤ 57 := by
        decide
      exact ⟨_, _, rfl, digit u small positive⟩
    · obtain ⟨c, rest, split, low, high⟩ := ih (u / 10) (by omega) (by omega)
      exact ⟨c, rest ++ [digitByte (u % 10)], by rw [decimalAux_acc, split]; rfl, low, high⟩

-- Every int64 value reads back from its own decimal form.
theorem parseInt64_formatInt64 {v : Int} (range : InInt64 v) :
    parseInt64 (formatInt64 v) = some v := by
  unfold InInt64 int64Min int64Max at range
  obtain ⟨c, rest, split, digit⟩ := decimal_head_digit v.natAbs
  have notSign : c ≠ 43 ∧ c ≠ 45 := by
    constructor <;> rintro rfl <;> exact absurd digit (by decide)
  unfold parseInt64 formatInt64 formatInt
  by_cases negative : v < 0
  · have small : ¬ 9223372036854775808 < v.natAbs := by omega
    have back : -(v.natAbs : Int) = v := by omega
    rw [if_pos negative, parseInt, if_neg (by decide), if_pos rfl, parseMagnitude,
      parseDigits_decimal]
    simp only [Bool.not_true, Bool.false_and, Bool.true_and, decide_eq_true_eq, small, if_false,
      if_true, back, Bool.false_eq_true]
  · have small : ¬ 9223372036854775808 ≤ v.natAbs := by omega
    have back : (v.natAbs : Int) = v := by omega
    rw [if_neg negative, split, parseInt, if_neg notSign.1, if_neg notSign.2, parseMagnitude,
      ← split, parseDigits_decimal]
    simp only [Bool.not_false, Bool.false_and, Bool.true_and, decide_eq_true_eq, small, if_false,
      back, Bool.false_eq_true]

-- ParseInt reports a range error outside int64, so what it returns is an int64.
theorem parseInt64_inInt64 {data : Bytes} {n : Int} (parsed : parseInt64 data = some n) :
    InInt64 n := by
  have magnitude : ∀ neg digits, parseMagnitude neg digits = some n → InInt64 n := by
    intro neg digits parsed
    unfold parseMagnitude at parsed
    split at parsed
    · cases parsed
    · unfold InInt64 int64Min int64Max
      cases neg <;> simp at parsed <;> omega
  unfold parseInt64 parseInt at parsed
  split at parsed
  · cases parsed
  · split at parsed
    · exact magnitude _ _ parsed
    · split at parsed <;> exact magnitude _ _ parsed

end GoCleanArch
