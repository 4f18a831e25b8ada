import Mathlib.Data.Int.Defs

/-!
The Go values the cache and the rate limiter compute with. A `time.Time` is an
`Int` of nanoseconds from Go's zero time and a `time.Duration` an `Int` of
nanoseconds. `Time.Add` saturates only past ±2^63 seconds, which no modelled call
reaches, so it is exact addition here. Counters are `int64` and wrap as Go's `+`
and unary `-` do; `wrap64` is that reduction.
-/

namespace GoCleanArch

-- Results are compared whole: a value, or an error with its text.
instance decEqExcept {ε : Type u} {α : Type v} [DecidableEq ε] [DecidableEq α] :
    DecidableEq (Except ε α)
  | .error a, .error b => decidable_of_iff (a = b) ⟨congrArg _, Except.error.inj⟩
  | .ok a, .ok b => decidable_of_iff (a = b) ⟨congrArg _, Except.ok.inj⟩
  | .error _, .ok _ => isFalse nofun
  | .ok _, .error _ => isFalse nofun

def millisecond : Int := 1000000
def second : Int := 1000000000
def minute : Int := 60000000000

-- `t.After(u)`
def after (t u : Int) : Bool := decide (u < t)

-- `t.Truncate(d)` rounds down to a multiple of `d` counted from the zero time.
def truncate (t d : Int) : Int :=
  if d ≤ 0 then t else t - t % d

@[simp] theorem after_eq_true (t u : Int) : after t u = true ↔ u < t := by
  simp [after]

theorem truncate_le (t d : Int) : truncate t d ≤ t := by
  unfold truncate
  split
  · exact Int.le_refl t
  · have := Int.emod_nonneg t (b := d) (by omega)
    omega

theorem lt_truncate_add (t : Int) {d : Int} (positive : 0 < d) :
    t < truncate t d + d := by
  have := Int.emod_lt_of_pos t positive
  simp only [truncate, show ¬ d ≤ 0 by omega, if_false]
  omega

/-! ### int64 -/

def int64Min : Int := -9223372036854775808
def int64Max : Int := 9223372036854775807

def InInt64 (x : Int) : Prop := int64Min ≤ x ∧ x ≤ int64Max

instance : DecidablePred InInt64 := fun _ => inferInstanceAs (Decidable (_ ∧ _))

-- Two's complement reduction of an exact result, as Go's int64 `+` and `-` produce it.
def wrap64 (x : Int) : Int :=
  (x + 9223372036854775808) % 18446744073709551616 - 9223372036854775808

theorem wrap64_of_inInt64 {x : Int} (range : InInt64 x) : wrap64 x = x := by
  unfold InInt64 int64Min int64Max at range
  unfold wrap64
  rw [Int.emod_eq_of_lt (by omega) (by omega)]
  omega

theorem wrap64_inInt64 (x : Int) : InInt64 (wrap64 x) := by
  have low := Int.emod_nonneg (x + 9223372036854775808) (b := 18446744073709551616) (by decide)
  have high := Int.emod_lt_of_pos (x + 9223372036854775808) (b := 18446744073709551616) (by decide)
  unfold InInt64 int64Min int64Max wrap64
  omega

-- Wrapping an intermediate result changes nothing: a chain of int64 additions
-- ends where the exact sum wraps to.
theorem wrap64_add_wrap64 (a b : Int) : wrap64 (wrap64 a + b) = wrap64 (a + b) := by
  unfold wrap64
  rw [show (a + 9223372036854775808) % 18446744073709551616 - 9223372036854775808 + b +
      9223372036854775808 = (a + 9223372036854775808) % 18446744073709551616 + b by omega,
    Int.emod_add_emod, show a + 9223372036854775808 + b = a + b + 9223372036854775808 by omega]

end GoCleanArch
