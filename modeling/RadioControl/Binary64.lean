import Mathlib.Algebra.Order.Field.Rat

/-! # Doubles, as `strtod` makes them and `static_cast<int>` reads them

A `double` is a finite binary64 number, an infinity or a NaN (`Double`).
`std::stod` hands its exact decimal or hexadecimal value to glibc's `strtod`,
which rounds it to the nearest binary64 number, ties to even, and sets
`ERANGE` when the value overflows or when it is tiny and inexact, tininess
being judged after rounding (`round`).  Everything is Nat and Int arithmetic on
a mantissa and an exponent, so the rounding of a concrete string can be
evaluated.

`static_cast<int>` truncates toward zero, and its behaviour is undefined when
the truncated value is not an `int`, as for a NaN or an infinity
(`staticCastInt`).  An integer below `2^53` rounds to itself, so its cast is
itself when it is an `int` (`round_nat`).  The sign plays no part in the
rounding (`round_sign`).
-/
namespace RadioControl

/-- A `double`: `finite neg m e` is `(-1)^neg · m · 2^e`. -/
inductive Double
  | finite (neg : Bool) (m : Nat) (e : Int)
  | inf (neg : Bool)
  | nan
  deriving DecidableEq, Repr

/-- `x` with the sign `neg`; a NaN has none. -/
def Double.withSign (neg : Bool) : Double → Double
  | .finite _ m e => .finite neg m e
  | .inf _ => .inf neg
  | .nan => .nan

/-- A `double` in the one form its bits give it: a zero with exponent `0`, a
normal number with a 53-bit significand and an exponent from `-1074` to `971`,
a subnormal number with exponent `-1074`, an infinity or a NaN. -/
def Double.Canonical : Double → Prop
  | .finite _ m e =>
    (m = 0 ∧ e = 0) ∨ (2 ^ 52 ≤ m ∧ m < 2 ^ 53 ∧ -1074 ≤ e ∧ e ≤ 971) ∨ (0 < m ∧ m < 2 ^ 52 ∧ e = -1074)
  | .inf _ | .nan => True

instance Double.decidableCanonical : DecidablePred Double.Canonical
  | .finite _ _ _ => inferInstanceAs (Decidable (_ ∨ _))
  | .inf _ | .nan => isTrue trivial

namespace Binary64

/-! ## Rounding an exact value -/

/-- The number of binary digits of `n`, found by at most `fuel` halvings. -/
def bitLengthAux : Nat → Nat → Nat
  | 0, _ => 0
  | fuel + 1, n => if n = 0 then 0 else bitLengthAux fuel (n / 2) + 1

/-- The number of binary digits of `n` (`0` for `0`). -/
def bitLength (n : Nat) : Nat := bitLengthAux n n

/-- `⌊log₂ (num / den)⌋`, for positive `num` and `den`: the difference of the
bit lengths, or one less. -/
def floorLog2 (num den : Nat) : Int :=
  let e : Int := (bitLength num : Int) - bitLength den
  if den * 2 ^ e.toNat ≤ num * 2 ^ (-e).toNat then e else e - 1

/-- `num / den` counted in units of `2^q`, rounded to nearest with ties to
even, and whether no rounding was needed. -/
def roundAt (num den : Nat) (q : Int) : Nat × Bool :=
  let n := num * 2 ^ (-q).toNat
  let d := den * 2 ^ q.toNat
  let m := n / d
  let r := n % d
  (if d < 2 * r ∨ (2 * r = d ∧ m % 2 = 1) then m + 1 else m, r = 0)

/-- What `strtod` returns for a value, and whether it sets `ERANGE`. -/
structure Rounded where
  value : Double
  erange : Bool
  deriving DecidableEq, Repr

/-- **glibc's rounding of `±num / den` to binary64.**  The unit is `2^q` with
`q = t - 52` for a value in `[2^t, 2^(t+1))`, and never below `2^-1074`, the
unit of the subnormals.  A result of `2^1024` or more overflows to an
infinity.  A value is tiny when, rounded to 53 bits with no lower bound on the
exponent, it is still below `2^-1022`; a tiny inexact value underflows. -/
def round (neg : Bool) (num den : Nat) : Rounded :=
  if num = 0 then ⟨.finite neg 0 0, false⟩
  else
    let t := floorLog2 num den
    let q := max (t - 52) (-1074)
    let rounded := roundAt num den q
    if 1025 ≤ q + bitLength rounded.1 then ⟨.inf neg, true⟩
    else
      let tiny := decide (t < -1023 ∨ (t = -1023 ∧ (roundAt num den (t - 52)).1 < 2 ^ 53))
      ⟨.finite neg rounded.1 q, tiny && !rounded.2⟩

/-! ## `static_cast<int>` -/

/-- The integer part of `(-1)^neg · m · 2^e`, rounded toward zero. -/
def truncate (neg : Bool) (m : Nat) (e : Int) : Int :=
  let t : Nat := if 0 ≤ e then m <<< e.toNat else m >>> (-e).toNat
  if neg then -t else t

/-- `static_cast<int>(x)`: `x` truncated toward zero, or `none` where the
behaviour is undefined, namely when that is not an `int` (32 bits), NaN and the
infinities included. -/
def staticCastInt : Double → Option Int
  | .finite neg m e =>
    let t := truncate neg m e
    if -2 ^ 31 ≤ t ∧ t < 2 ^ 31 then some t else none
  | _ => none

/-! ## Integers round to themselves -/

@[simp] theorem bitLengthAux_zero (fuel : Nat) : bitLengthAux fuel 0 = 0 := by
  cases fuel <;> rfl

theorem bitLengthAux_spec : ∀ fuel n, n ≤ fuel →
    n < 2 ^ bitLengthAux fuel n ∧ (n ≠ 0 → 2 ^ bitLengthAux fuel n ≤ 2 * n)
  | 0, n, h => by simp [Nat.le_zero.1 h, bitLengthAux]
  | fuel + 1, n, h => by
    by_cases hn : n = 0
    · simp [hn]
    · have ih := bitLengthAux_spec fuel (n / 2) (by omega)
      simp only [bitLengthAux, hn, if_false, Nat.pow_succ]
      by_cases hh : n / 2 = 0
      · simp only [hh, bitLengthAux_zero]; omega
      · have := ih.2 hh; omega

theorem lt_two_pow_bitLength (n : Nat) : n < 2 ^ bitLength n :=
  (bitLengthAux_spec n n le_rfl).1

theorem two_pow_bitLength_le {n : Nat} (hn : n ≠ 0) : 2 ^ bitLength n ≤ 2 * n :=
  (bitLengthAux_spec n n le_rfl).2 hn

theorem bitLength_le_of_lt {n k : Nat} (h : n < 2 ^ k) : bitLength n ≤ k := by
  by_cases hn : n = 0
  · simp [hn, bitLength]
  · by_contra hk
    have : 2 ^ (k + 1) ≤ 2 ^ bitLength n := Nat.pow_le_pow_right (by decide) (by omega)
    have := two_pow_bitLength_le hn
    rw [Nat.pow_succ] at *
    omega

theorem bitLength_pos {n : Nat} (hn : n ≠ 0) : 0 < bitLength n := by
  have := lt_two_pow_bitLength n
  by_contra h
  simp_all

/-- `⌊log₂ n⌋` of a positive integer is one less than its bit length. -/
theorem floorLog2_nat {n : Nat} (hn : n ≠ 0) : floorLog2 n 1 = (bitLength n : Int) - 1 := by
  have hL0 := bitLength_pos hn
  have hp : 2 ^ (bitLength n - 1) ≤ n := by
    have hle := two_pow_bitLength_le hn
    obtain ⟨L, hL⟩ : ∃ L, bitLength n = L + 1 := ⟨_, (Nat.succ_pred_eq_of_pos hL0).symm⟩
    rw [hL, Nat.pow_succ] at hle
    rw [hL, Nat.add_sub_cancel]; omega
  have e1 : ((bitLength n : Int) - 1).toNat = bitLength n - 1 := by omega
  have e2 : (-((bitLength n : Int) - 1)).toNat = 0 := by omega
  simp only [floorLog2, show ((bitLength 1 : Nat) : Int) = 1 from rfl, e1, e2, Nat.pow_zero,
    Nat.mul_one, Nat.one_mul, if_pos hp]

/-- **An integer below `2^53` is a double**: `strtod` returns it exactly,
without `ERANGE`, and its cast to `int` is itself when it is an `int`. -/
theorem round_nat {n : Nat} (h : n < 2 ^ 53) :
    (round false n 1).erange = false ∧ ∃ m q, (round false n 1).value = .finite false m q ∧
      truncate false m q = n := by
  by_cases hn : n = 0
  · exact ⟨by simp [round, hn], 0, 0, by simp [round, hn], by simp [truncate, hn]⟩
  have hL0 := bitLength_pos hn
  have hL53 : bitLength n ≤ 53 := bitLength_le_of_lt h
  have hlt := lt_two_pow_bitLength n
  have ht := floorLog2_nat hn
  generalize bitLength n = L at *
  have hq : max ((L : Int) - 1 - 52) (-1074) = (L : Int) - 53 := by omega
  have hm : roundAt n 1 ((L : Int) - 53) = (n * 2 ^ (53 - L), true) := by
    simp only [roundAt, show (-((L : Int) - 53)).toNat = 53 - L by omega,
      show ((L : Int) - 53).toNat = 0 by omega, Nat.pow_zero, Nat.mul_one, Nat.div_one, Nat.mod_one]
    simp
  have hmlt : n * 2 ^ (53 - L) < 2 ^ 53 := by
    calc n * 2 ^ (53 - L) < 2 ^ L * 2 ^ (53 - L) := Nat.mul_lt_mul_of_pos_right hlt (Nat.two_pow_pos _)
      _ = 2 ^ 53 := by rw [← Nat.pow_add]; congr 1; omega
  have hb := bitLength_le_of_lt hmlt
  have hround : round false n 1 = ⟨.finite false (n * 2 ^ (53 - L)) ((L : Int) - 53), false⟩ := by
    simp only [round, hn, if_false, ht, hq, hm]
    rw [if_neg (by omega)]
    simp only [Bool.not_true, Bool.and_false]
  refine ⟨by rw [hround], _, _, by rw [hround], ?_⟩
  simp only [truncate, Bool.false_eq_true, if_false]
  split
  · have h53 : L = 53 := by omega
    simp [h53]
  · rw [show (-((L : Int) - 53)).toNat = 53 - L by omega, Nat.shiftRight_eq_div_pow,
      Nat.mul_div_cancel _ (Nat.two_pow_pos _)]

/-! ## Signs -/

/-- **Rounding is symmetric**: the sign of the exact value is the sign of the
double, and nothing else depends on it. -/
theorem round_sign (neg : Bool) (num den : Nat) :
    round neg num den = ⟨(round false num den).value.withSign neg, (round false num den).erange⟩ := by
  simp only [round]
  split_ifs <;> rfl

theorem truncate_true (m : Nat) (e : Int) : truncate true m e = -truncate false m e := by
  simp [truncate]

end Binary64
end RadioControl
