import Mathlib.Tactic.NormNum

/-! # Go's machine numbers

What the service's arithmetic does on a 64-bit platform where it departs from the mathematical
values. `int` and `time.Duration` are 64-bit two's complement and wrap around (`wrapInt64`).
`strconv.Atoi` accepts an optional sign and decimal digits whose value fits in `int`
(`strconvAtoi`). `float64(d)` of an integer keeps 53 significant bits (`roundToFloat64`), as does
a float quotient (`roundQuotient`, for the Redis queue's scores), and converting a float back to
an integer truncates toward zero; for a value outside the `int64` range the Go specification
leaves the result to the implementation, and amd64's conversion instruction gives
`math.MinInt64` (`scaledDuration`).

* **`wrapInt64_eq_self`** — in range, wrap-around changes nothing.
* **`strconvAtoi_eq_some`** — what `Atoi` accepts is an `int`.
* **`roundToFloat64_eq_self`** — an integer of at most 53 bits is a float as it is.
* **`roundToFloat64_sub_le`** — below `2^63` a float is within 512 of the integer it was made
  from; **`roundToFloat64_sub_le_rel`** — at any magnitude `m`, within `m / 2^52 + 1`.
* **`fastLog2_eq`** — the exponent the roundings use is `Nat.log2`, found by a bisection that
  `decide` can follow. -/

namespace NotificationService

/-- The `int64` value of the mathematical integer `x`: two's complement wrap-around. -/
def wrapInt64 (x : Int) : Int := (x + 2 ^ 63) % 2 ^ 64 - 2 ^ 63

theorem wrapInt64_eq_self {x : Int} (h₁ : -2 ^ 63 ≤ x) (h₂ : x < 2 ^ 63) : wrapInt64 x = x := by
  unfold wrapInt64
  rw [Int.emod_eq_of_lt (by omega) (by omega)]
  omega

/-! ## `strconv.Atoi` -/

/-- The value of decimal digits, most significant first. -/
def decimalValue (ds : List Char) : Nat :=
  ds.foldl (fun acc c => 10 * acc + (c.toNat - '0'.toNat)) 0

/-- The sign of a numeral and its digits: a leading `-` or `+` is taken off. -/
def splitSign : List Char → Bool × List Char
  | '-' :: ds => (true, ds)
  | '+' :: ds => (false, ds)
  | ds => (false, ds)

/-- `strconv.Atoi` with a 64-bit `int`: an optional sign, then one or more decimal digits whose
value lies in `[math.MinInt64, math.MaxInt64]`; anything else is an error. Its fast path (fewer
than 19 bytes) and `ParseInt(s, 10, 0)` accept the same strings with the same values. -/
def strconvAtoi (s : String) : Option Int :=
  let ds := (splitSign s.data).2
  if ds ≠ [] ∧ ds.all Char.isDigit = true then
    let v : Int := if (splitSign s.data).1 then -(decimalValue ds : Int) else decimalValue ds
    if -2 ^ 63 ≤ v ∧ v < 2 ^ 63 then some v else none
  else none

/-- **What `Atoi` accepts is an `int`.** -/
theorem strconvAtoi_eq_some {s : String} {v : Int} (h : strconvAtoi s = some v) :
    -2 ^ 63 ≤ v ∧ v < 2 ^ 63 := by
  simp only [strconvAtoi, Option.ite_none_right_eq_some, Option.some.injEq] at h
  obtain ⟨-, hr, rfl⟩ := h
  exact hr

/-! ## Floats -/

/-- `⌊log₂ n⌋` for `2^lo ≤ n < 2^(lo + 2^k)`, by bisection on the exponent. -/
def log2Between : Nat → Nat → Nat → Nat
  | 0, lo, _ => lo
  | k + 1, lo, n =>
    if 2 ^ (lo + 2 ^ k) ≤ n then log2Between k (lo + 2 ^ k) n else log2Between k lo n

/-- `Nat.log2 n` (`fastLog2_eq`), found by bisection below `2^256`, which covers every
magnitude the model rounds, so that `decide` can evaluate it. -/
def fastLog2 (n : Nat) : Nat := if n < 2 ^ 256 then log2Between 8 0 n else n.log2

theorem log2Between_eq : ∀ (k lo n : Nat), 2 ^ lo ≤ n → n < 2 ^ (lo + 2 ^ k) →
    log2Between k lo n = n.log2
  | 0, lo, n, h₁, h₂ => by
    have hn : n ≠ 0 := Nat.pos_iff_ne_zero.1 (lt_of_lt_of_le (Nat.two_pow_pos lo) h₁)
    have := (Nat.le_log2 hn).2 h₁
    have := (Nat.log2_lt hn).2 h₂
    rw [log2Between]
    omega
  | k + 1, lo, n, h₁, h₂ => by
    rw [Nat.pow_succ] at h₂
    rw [log2Between]
    split_ifs with h
    · exact log2Between_eq k _ n h (by rwa [Nat.add_assoc, ← Nat.mul_two])
    · exact log2Between_eq k lo n h₁ (Nat.lt_of_not_le h)

theorem fastLog2_eq (n : Nat) : fastLog2 n = n.log2 := by
  unfold fastLog2
  split_ifs with h
  · rcases Nat.eq_zero_or_pos n with rfl | hn
    · rw [Nat.log2_zero]; decide
    · exact log2Between_eq 8 0 n hn h
  · rfl

/-- The magnitude `float64` keeps of the quotient `n / d`: rounded to 53 significant bits, to
the even one on a tie. The spacing `2^s` is that of the floats at `⌊n / d⌋`, so this is the
float nearest `n / d` whenever `n / d ≥ 2^52`, where floats are integers. -/
def roundQuotient (n d : Nat) : Nat :=
  let s := fastLog2 (n / d) - 52
  let q := n / (d * 2 ^ s)
  let r := n % (d * 2 ^ s)
  (if d * 2 ^ s < 2 * r ∨ (2 * r = d * 2 ^ s ∧ q % 2 = 1) then q + 1 else q) * 2 ^ s

/-- The magnitude `float64` keeps of `n`: `n` rounded to 53 significant bits, to the even one
on a tie. -/
def roundMagnitude (n : Nat) : Nat := roundQuotient n 1

/-- `float64(d)` for an integer `d`: the nearest value with at most 53 significant bits, the one
with an even last bit on a tie. -/
def roundToFloat64 (d : Int) : Int :=
  if d.natAbs < 2 ^ 53 then d else d.sign * roundMagnitude d.natAbs

theorem roundToFloat64_eq_self {d : Int} (h : d.natAbs < 2 ^ 53) : roundToFloat64 d = d :=
  if_pos h

/-- Below `2^63` the spacing of floats is at most `2^10`, so the kept magnitude is within 512. -/
theorem roundMagnitude_near {n : Nat} (h : n < 2 ^ 63) :
    roundMagnitude n ≤ n + 512 ∧ n ≤ roundMagnitude n + 512 := by
  have hs : n.log2 - 52 ≤ 10 := by
    rcases Nat.eq_zero_or_pos n with rfl | hpos
    · simp [Nat.log2_zero]
    · have := (Nat.log2_lt hpos.ne').2 h
      omega
  have hP : 2 ^ (n.log2 - 52) ≤ 1024 := (Nat.pow_le_pow_right (by norm_num) hs).trans (by norm_num)
  have hn := Nat.div_add_mod' n (2 ^ (n.log2 - 52))
  have hr := Nat.mod_lt n (Nat.two_pow_pos (n.log2 - 52))
  unfold roundMagnitude roundQuotient
  dsimp only
  rw [Nat.div_one, fastLog2_eq, Nat.one_mul]
  split_ifs
  · rw [Nat.add_mul, Nat.one_mul]; omega
  · omega

/-- **Below `2^63`, `float64(d)` is within 512 of `d`**: half the spacing of floats there. -/
theorem roundToFloat64_sub_le {d : Int} (h : d.natAbs < 2 ^ 63) :
    |roundToFloat64 d - d| ≤ 512 := by
  unfold roundToFloat64
  split_ifs with hsmall
  · simp
  · obtain ⟨h₁, h₂⟩ := roundMagnitude_near h
    generalize roundMagnitude d.natAbs = m at h₁ h₂ ⊢
    rcases Int.natAbs_eq d with hd | hd <;> rw [hd] at hsmall ⊢ <;> simp only [Int.natAbs_neg,
      Int.natAbs_ofNat] at hsmall h₁ h₂ ⊢
    · rw [Int.sign_natCast_of_ne_zero (by omega), one_mul, abs_le]
      constructor <;> omega
    · rw [Int.sign_neg, Int.sign_natCast_of_ne_zero (by omega), abs_le]
      constructor <;> omega

/-- Within the `int64` range, `float64(d)` is within 512 of `d` either way. -/
theorem roundToFloat64_near {d : Int} (h₁ : -2 ^ 63 < d) (h₂ : d < 2 ^ 63) :
    d - 512 ≤ roundToFloat64 d ∧ roundToFloat64 d ≤ d + 512 := by
  have h := roundToFloat64_sub_le (show d.natAbs < 2 ^ 63 by omega)
  rw [abs_le] at h
  omega

/-- A magnitude with the sign of `f` is no larger than the magnitude. -/
theorem abs_sign_mul_le (f : Int) (R : Nat) : |f.sign * (R : Int)| ≤ R := by
  rcases lt_trichotomy f 0 with h | rfl | h
  · rw [Int.sign_eq_neg_one_of_neg h, neg_one_mul, abs_neg, Nat.abs_cast]
  · simp
  · rw [Int.sign_eq_one_of_pos h, one_mul, Nat.abs_cast]

/-- The kept quotient is within one spacing of `⌊n / d⌋`. -/
theorem roundQuotient_near (n d : Nat) :
    n / d ≤ roundQuotient n d + 2 ^ ((n / d).log2 - 52) ∧
      roundQuotient n d ≤ n / d + 2 ^ ((n / d).log2 - 52) := by
  unfold roundQuotient
  dsimp only
  rw [fastLog2_eq, ← Nat.div_div_eq_div_mul]
  have hm := Nat.div_add_mod' (n / d) (2 ^ ((n / d).log2 - 52))
  have hr := Nat.mod_lt (n / d) (Nat.two_pow_pos ((n / d).log2 - 52))
  split_ifs
  · rw [Nat.add_mul, Nat.one_mul]; omega
  · omega

/-- The spacing of floats at `m` is at most `m / 2^52`, and 1 below `2^53`. -/
theorem two_pow_log2_sub_le (m : Nat) : 2 ^ (m.log2 - 52) ≤ m / 2 ^ 52 + 1 := by
  rcases Nat.lt_or_ge m.log2 52 with h | h
  · rw [Nat.sub_eq_zero_of_le h.le, Nat.pow_zero]
    omega
  · have hm : m ≠ 0 := fun hm => by rw [hm, Nat.log2_zero] at h; omega
    have hle : 2 ^ (m.log2 - 52) * 2 ^ 52 ≤ m := by
      rw [← Nat.pow_add, Nat.sub_add_cancel h]
      exact Nat.log2_self_le hm
    have := (Nat.le_div_iff_mul_le (Nat.two_pow_pos 52)).2 hle
    omega

/-- **At every magnitude, `float64(d)` is within `|d| / 2^52 + 1` of `d`.** -/
theorem roundToFloat64_sub_le_rel (d : Int) :
    |roundToFloat64 d - d| ≤ (d.natAbs / 2 ^ 52 + 1 : Nat) := by
  have hq := roundQuotient_near d.natAbs 1
  have hg := two_pow_log2_sub_le d.natAbs
  rw [Nat.div_one] at hq
  unfold roundToFloat64 roundMagnitude
  split_ifs with hsmall
  · rw [sub_self, abs_zero]; positivity
  · generalize roundQuotient d.natAbs 1 = m at hq ⊢
    generalize 2 ^ (d.natAbs.log2 - 52) = g at hq hg
    rcases Int.natAbs_eq d with hd | hd <;> rw [hd] at hsmall ⊢ <;>
      simp only [Int.natAbs_neg, Int.natAbs_ofNat] at hsmall hq hg ⊢
    · rw [Int.sign_natCast_of_ne_zero (by omega), one_mul, abs_le]
      constructor <;> omega
    · rw [Int.sign_neg, Int.sign_natCast_of_ne_zero (by omega), abs_le]
      constructor <;> omega

/-- `math.MinInt64`. -/
def minInt64 : Int := -2 ^ 63

/-- `time.Duration(float64(d) * math.Pow(2, e))` on amd64. `math.Pow(2, e)` is exact up to
`e = 1023` and `+Inf` above. For `e < 0` the product is exact, or less than 1 in size, so the
conversion, which truncates toward zero, gives `float64(d) / 2^-e` truncated. A product outside
the `int64` range, infinite, or NaN (`0 · Inf`) gives `math.MinInt64`. -/
def scaledDuration (d e : Int) : Int :=
  let f := roundToFloat64 d
  if e < 0 then f.tdiv (2 ^ e.natAbs)
  else if e ≤ 1023 ∧ -2 ^ 63 ≤ f * 2 ^ e.toNat ∧ f * 2 ^ e.toNat < 2 ^ 63 then f * 2 ^ e.toNat
  else minInt64

end NotificationService
