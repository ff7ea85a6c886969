import Mathlib.Algebra.Order.Field.Power
import Mathlib.Algebra.Order.Field.Rat
import Mathlib.Data.Nat.Log
import Mathlib.Tactic.Linarith
import Mathlib.Tactic.NormNum
import Mathlib.Tactic.Positivity
import Mathlib.Tactic.Ring
import LiveTemplates.Delay

/-!
# Rounding

A number of double precision that is read or computed from a quotient of moderate size differs from
it by at most one part in `2 ^ 53` (`exists_ofQuotient`). A delay is computed in three such steps,
so what it is reported as, and how long a timer waits, are exactly the milliseconds that were given
as long as these are not too many (`ofMilliseconds_eq`).
-/

namespace LiveTemplates

namespace Binary64

/-! ## Quotients -/

/-- What is rounded differs from a quotient by at most a half. -/
theorem abs_roundQuotient_sub_le (num : Nat) {den : Nat} (hden : 0 < den) :
    |(roundQuotient num den : ℚ) - num / den| ≤ 1 / 2 := by
  have hq : (0 : ℚ) < den := by exact_mod_cast hden
  -- Twice the distance, in units of the denominator, is an integer that is at most the denominator.
  have hdivision : den * (num / den) + num % den = num := Nat.div_add_mod num den
  have hlt : num % den < den := Nat.mod_lt _ hden
  have hbounds : 2 * num ≤ (2 * roundQuotient num den + 1) * den ∧
      2 * roundQuotient num den * den ≤ 2 * num + den := by
    unfold roundQuotient
    generalize num / den = q at hdivision ⊢
    generalize num % den = m at hdivision hlt ⊢
    subst hdivision
    dsimp only
    split
    · constructor
      · nlinarith
      · nlinarith
    · split
      · constructor
        · nlinarith
        · nlinarith
      · have hhalf : 2 * m = den := by omega
        have hparity : q % 2 = 0 ∨ q % 2 = 1 := by omega
        rcases hparity with hparity | hparity
        · rw [hparity]
          constructor
          · nlinarith
          · nlinarith
        · rw [hparity]
          constructor
          · nlinarith
          · nlinarith
  obtain ⟨hlow, hhigh⟩ := hbounds
  have hlow : (2 * num : ℚ) ≤ (2 * roundQuotient num den + 1) * den := by exact_mod_cast hlow
  have hhigh : (2 * roundQuotient num den * den : ℚ) ≤ 2 * num + den := by exact_mod_cast hhigh
  have hcancel : (num : ℚ) / den * den = num := div_mul_cancel₀ _ hq.ne'
  rw [abs_le]
  constructor
  · nlinarith
  · nlinarith

theorem scaled_pos (n : Nat) (e : Int) : 0 < (scaled n 2 e).2 := by
  show 0 < 2 ^ (-e).toNat
  positivity

/-- A scaled number as a quotient. -/
theorem scaled_div (n : Nat) (e : Int) :
    ((scaled n 2 e).1 : ℚ) / (scaled n 2 e).2 = n * 2 ^ e := by
  show ((n * 2 ^ e.toNat : ℕ) : ℚ) / ((2 ^ (-e).toNat : ℕ) : ℚ) = n * 2 ^ e
  push_cast
  rcases le_total 0 e with he | he
  · obtain ⟨k, rfl⟩ := Int.eq_ofNat_of_zero_le he
    simp
  · obtain ⟨k, hk⟩ := Int.eq_ofNat_of_zero_le (neg_nonneg.mpr he)
    obtain rfl : e = -(k : ℤ) := by omega
    simp [div_eq_mul_inv]

/-- To scale a quotient is to multiply it. -/
theorem scaled_mul_div (num den : Nat) (e : Int) :
    ((num * (scaled 1 2 e).1 : ℕ) : ℚ) / ((den * (scaled 1 2 e).2 : ℕ) : ℚ)
      = num / den * 2 ^ e := by
  push_cast
  rw [mul_div_mul_comm, scaled_div, Nat.cast_one, one_mul]

/-- A bound on a scaled quotient, in naturals. -/
theorem mul_le_scaled_iff {c num den : Nat} (hden : 0 < den) (e : Int) :
    c * (den * (scaled 1 2 e).2) ≤ num * (scaled 1 2 e).1 ↔ (c : ℚ) ≤ num / den * 2 ^ e := by
  have hpos : (0 : ℚ) < ((den * (scaled 1 2 e).2 : ℕ) : ℚ) := by
    exact_mod_cast Nat.mul_pos hden (scaled_pos 1 e)
  rw [← scaled_mul_div, le_div_iff₀ hpos]
  exact_mod_cast Iff.rfl

/-! ## The number nearest to a quotient -/

/-- A quotient lies between two powers of two. -/
theorem div_bounds {num den : Nat} (hnum : 0 < num) (hden : 0 < den) :
    (2 : ℚ) ^ ((num.log2 : ℤ) - den.log2 - 1) < num / den ∧
      (num / den : ℚ) < 2 ^ ((num.log2 : ℤ) - den.log2 + 1) := by
  have hq : (0 : ℚ) < den := by exact_mod_cast hden
  have hnumLow : (2 : ℚ) ^ (num.log2 : ℤ) ≤ num := by
    exact_mod_cast Nat.log2_self_le hnum.ne'
  have hnumHigh : (num : ℚ) < 2 ^ ((num.log2 : ℤ) + 1) := by
    exact_mod_cast Nat.lt_log2_self (n := num)
  have hdenLow : (2 : ℚ) ^ (den.log2 : ℤ) ≤ den := by
    exact_mod_cast Nat.log2_self_le hden.ne'
  have hdenHigh : (den : ℚ) < 2 ^ ((den.log2 : ℤ) + 1) := by
    exact_mod_cast Nat.lt_log2_self (n := den)
  constructor
  · rw [lt_div_iff₀ hq]
    calc (2 : ℚ) ^ ((num.log2 : ℤ) - den.log2 - 1) * den
        < 2 ^ ((num.log2 : ℤ) - den.log2 - 1) * 2 ^ ((den.log2 : ℤ) + 1) := by gcongr
      _ = 2 ^ (num.log2 : ℤ) := by rw [← zpow_add₀ two_ne_zero]; congr 1; ring
      _ ≤ num := hnumLow
  · rw [div_lt_iff₀ hq]
    calc (num : ℚ) < 2 ^ ((num.log2 : ℤ) + 1) := hnumHigh
      _ = 2 ^ ((num.log2 : ℤ) - den.log2 + 1) * 2 ^ (den.log2 : ℤ) := by
        rw [← zpow_add₀ two_ne_zero]; congr 1; ring
      _ ≤ 2 ^ ((num.log2 : ℤ) - den.log2 + 1) * den := by gcongr

theorem cast_leastFull : ((leastFull : ℕ) : ℚ) = 2 ^ 52 := by
  unfold leastFull
  norm_num

/-- A quotient that is rounded with an exponent. -/
def roundedWith (negative : Bool) (num den : Nat) (e : Int) : Binary64 :=
  let significand := roundQuotient (num * (scaled 1 2 (-e)).1) (den * (scaled 1 2 (-e)).2)
  if significand = 2 * leastFull then .finite negative leastFull (e + 1)
  else .finite negative significand e

/-- A quotient is rounded with the exponent for which it has 53 bits in front of the point. -/
theorem exists_exponent (negative : Bool) {num den : Nat} (hnum : 0 < num) (hden : 0 < den)
    (hlow : -1020 ≤ (num.log2 : Int) - den.log2) (hhigh : (num.log2 : Int) - den.log2 ≤ 1020) :
    ∃ e : Int, ofQuotient negative num den = roundedWith negative num den e ∧
      (2 : ℚ) ^ 52 ≤ num / den * 2 ^ (-e) ∧ (num / den * 2 ^ (-e) : ℚ) < 2 ^ 53 ∧
      (num.log2 : Int) - den.log2 - 53 ≤ e ∧ e ≤ (num.log2 : Int) - den.log2 - 52 := by
  obtain ⟨hmore, hless⟩ := div_bounds hnum hden
  generalize hguess : (num.log2 : Int) - den.log2 - 52 = guess
  have hmore : (2 : ℚ) ^ 51 < num / den * 2 ^ (-guess) := by
    rw [zpow_neg, ← div_eq_mul_inv, lt_div_iff₀ (by positivity)]
    calc (2 : ℚ) ^ 51 * 2 ^ guess = 2 ^ ((51 : ℤ) + guess) := by
          rw [zpow_add₀ two_ne_zero]; norm_num
      _ = 2 ^ ((num.log2 : ℤ) - den.log2 - 1) := by congr 1; omega
      _ < num / den := hmore
  have hless : (num / den * 2 ^ (-guess) : ℚ) < 2 ^ 53 := by
    rw [zpow_neg, ← div_eq_mul_inv, div_lt_iff₀ (by positivity)]
    calc (num / den : ℚ) < 2 ^ ((num.log2 : ℤ) - den.log2 + 1) := hless
      _ = 2 ^ ((53 : ℤ) + guess) := by congr 1; omega
      _ = 2 ^ 53 * 2 ^ guess := by rw [zpow_add₀ two_ne_zero]; norm_num
  have hlarge : ¬ 2 * leastFull * (den * (scaled 1 2 (-guess)).2)
      ≤ num * (scaled 1 2 (-guess)).1 := by
    rw [mul_le_scaled_iff hden]
    push_cast
    rw [cast_leastFull]
    linarith
  have hround : ∀ e : Int, (if num * (scaled 1 2 (-guess)).1
      < leastFull * (den * (scaled 1 2 (-guess)).2) then guess - 1 else guess) = e →
      guess - 1 ≤ e → e ≤ guess → ofQuotient negative num den = roundedWith negative num den e := by
    intro e he _ _
    have hmax : max e (-1074) = e := max_eq_left (by omega)
    unfold ofQuotient roundedWith
    rw [hguess]
    dsimp only
    rw [if_neg hlarge, he, hmax]
    split
    · rw [if_neg (by omega)]
    · rw [if_neg (by omega)]
  by_cases hsmall : num * (scaled 1 2 (-guess)).1 < leastFull * (den * (scaled 1 2 (-guess)).2)
  · refine ⟨guess - 1, hround _ (if_pos hsmall) le_rfl (by omega), ?_, ?_, by omega, by omega⟩
    · rw [neg_sub, sub_eq_add_neg, add_comm, zpow_add₀ two_ne_zero]
      linarith
    · rw [← not_le, mul_le_scaled_iff hden, cast_leastFull, not_le] at hsmall
      rw [neg_sub, sub_eq_add_neg, add_comm, zpow_add₀ two_ne_zero]
      linarith
  · refine ⟨guess, hround _ (if_neg hsmall) (by omega) le_rfl, ?_, hless, by omega, by omega⟩
    rw [not_lt, mul_le_scaled_iff hden, cast_leastFull] at hsmall
    exact hsmall

/-- **A number that is nearest to a quotient differs from it by at most one part in `2 ^ 53`.** -/
theorem exists_ofQuotient (negative : Bool) {num den a b : Nat} (hnum : 0 < num) (hden : 0 < den)
    (hnumSize : num < 2 ^ a) (hdenSize : den < 2 ^ b) (ha : a ≤ 1000) (hb : b ≤ 1000) :
    ∃ (s : Nat) (e : Int), ofQuotient negative num den = .finite negative s e ∧ 0 < s ∧
      s < 2 ^ 53 ∧ -(b + 53 : Int) ≤ e ∧ e ≤ a ∧
      |(s * 2 ^ e : ℚ) - num / den| ≤ num / den / 2 ^ 53 := by
  have hnumLog : num.log2 < a := (Nat.log2_lt hnum.ne').mpr hnumSize
  have hdenLog : den.log2 < b := (Nat.log2_lt hden.ne').mpr hdenSize
  obtain ⟨e, hround, hfull, hless, hlow, hhigh⟩ :=
    exists_exponent negative hnum hden (by omega) (by omega)
  have hpos : (0 : ℚ) < 2 ^ e := by positivity
  have hvalue : (num / den * 2 ^ (-e) * 2 ^ e : ℚ) = num / den := by
    rw [mul_assoc, ← zpow_add₀ two_ne_zero, neg_add_cancel, zpow_zero, mul_one]
  have hnear := abs_roundQuotient_sub_le (num * (scaled 1 2 (-e)).1)
    (Nat.mul_pos hden (scaled_pos 1 (-e)))
  rw [scaled_mul_div] at hnear
  generalize hx : (num / den * 2 ^ (-e) : ℚ) = x at hfull hless hnear hvalue
  unfold roundedWith at hround
  dsimp only at hround
  generalize roundQuotient (num * (scaled 1 2 (-e)).1) (den * (scaled 1 2 (-e)).2) = k
    at hnear hround
  -- The number is `k` times the power of two, also where the bits of `k` are one too many.
  have hclose : |(k * 2 ^ e : ℚ) - num / den| ≤ num / den / 2 ^ 53 := by
    rw [← hvalue, ← sub_mul, abs_mul, abs_of_pos hpos, mul_div_right_comm]
    refine mul_le_mul_of_nonneg_right ?_ hpos.le
    linarith
  obtain ⟨hbelow, habove⟩ := abs_le.mp hnear
  have hkLow : 2 ^ 52 ≤ k := by
    have : ((2 ^ 52 : ℕ) : ℚ) < ((k + 1 : ℕ) : ℚ) := by push_cast; linarith
    exact Nat.lt_succ_iff.mp (by exact_mod_cast this)
  have hkHigh : k ≤ 2 ^ 53 := by
    have : ((k : ℕ) : ℚ) < ((2 ^ 53 + 1 : ℕ) : ℚ) := by push_cast; linarith
    exact Nat.lt_succ_iff.mp (by exact_mod_cast this)
  have hleast : leastFull = 2 ^ 52 := rfl
  split at hround
  · next hk =>
    refine ⟨leastFull, e + 1, hround, by omega, by omega, by omega, by omega, ?_⟩
    have hsame : ((leastFull : ℕ) * 2 ^ (e + 1) : ℚ) = k * 2 ^ e := by
      rw [hk, zpow_add_one₀ two_ne_zero]
      push_cast
      ring
    rw [hsame]
    exact hclose
  · next hk => exact ⟨k, e, hround, by omega, by omega, by omega, by omega, hclose⟩

/-- To scale a number is to round what comes of it. -/
theorem exists_scale (negative : Bool) {s num den a b c : Nat} {e : Int} (hs : 0 < s)
    (hsize : s < 2 ^ 53) (hlow : -(b : Int) ≤ e) (hhigh : e ≤ a) (hnum : 0 < num)
    (hden : 0 < den) (hnumSize : num ≤ 2 ^ c) (hdenSize : den ≤ 2 ^ c) (ha : a + c ≤ 900)
    (hb : b + c ≤ 900) :
    ∃ (s' : Nat) (e' : Int), scale num den (.finite negative s e) = .finite negative s' e' ∧
      0 < s' ∧ s' < 2 ^ 53 ∧ -(b + c + 54 : Int) ≤ e' ∧ e' ≤ a + c + 53 ∧
      |(s' * 2 ^ e' : ℚ) - s * 2 ^ e * num / den| ≤ s * 2 ^ e * num / den / 2 ^ 53 := by
  have hfirst : (scaled s 2 e).1 * num < 2 ^ (a + c + 53) := by
    have hpow : 2 ^ e.toNat ≤ 2 ^ a := Nat.pow_le_pow_right two_pos (by omega)
    calc (scaled s 2 e).1 * num ≤ s * 2 ^ a * 2 ^ c :=
          Nat.mul_le_mul (Nat.mul_le_mul_left s hpow) hnumSize
      _ < 2 ^ 53 * 2 ^ a * 2 ^ c := by gcongr
      _ = 2 ^ (a + c + 53) := by ring
  have hsecond : (scaled s 2 e).2 * den < 2 ^ (b + c + 1) := by
    have hpow : 2 ^ (-e).toNat ≤ 2 ^ b := Nat.pow_le_pow_right two_pos (by omega)
    calc (scaled s 2 e).2 * den ≤ 2 ^ b * 2 ^ c := Nat.mul_le_mul hpow hdenSize
      _ < 2 ^ (b + c + 1) := by rw [← pow_add]; exact Nat.pow_lt_pow_right (by norm_num) (by omega)
  have hpositive : 0 < (scaled s 2 e).1 * num := by
    have : 0 < s * 2 ^ e.toNat := by positivity
    exact Nat.mul_pos this hnum
  obtain ⟨s', e', hround, hs', hsize', hlow', hhigh', hnear⟩ := exists_ofQuotient negative hpositive
    (Nat.mul_pos (scaled_pos s e) hden) hfirst hsecond (by omega) (by omega)
  have hvalue : (((scaled s 2 e).1 * num : ℕ) : ℚ) / (((scaled s 2 e).2 * den : ℕ) : ℚ)
      = s * 2 ^ e * num / den := by
    push_cast
    rw [mul_div_mul_comm, scaled_div, mul_div_assoc]
  rw [hvalue] at hnear
  refine ⟨s', e', ?_, hs', hsize', ?_, ?_, hnear⟩
  · unfold scale
    dsimp only
    rw [if_neg hs.ne']
    exact hround
  · push_cast at hlow'
    omega
  · push_cast at hhigh'
    omega

/-- A number close to an integer is rounded to it. -/
theorem round?_eq {s n : Nat} {e : Int} (h : |(s * 2 ^ e : ℚ) - n| < 1 / 2) :
    round? (.finite false s e) = some (n : Int) := by
  have hnear := abs_roundQuotient_sub_le (scaled s 2 e).1 (scaled_pos s e)
  rw [scaled_div] at hnear
  unfold round?
  dsimp only
  generalize roundQuotient (scaled s 2 e).1 (scaled s 2 e).2 = k at hnear
  obtain ⟨hbelow, habove⟩ := abs_lt.mp h
  obtain ⟨hbelow', habove'⟩ := abs_le.mp hnear
  have hlt : ((k : ℕ) : ℚ) < ((n + 1 : ℕ) : ℚ) := by push_cast; linarith
  have hgt : ((n : ℕ) : ℚ) < ((k + 1 : ℕ) : ℚ) := by push_cast; linarith
  have hlt : k < n + 1 := by exact_mod_cast hlt
  have hgt : n < k + 1 := by exact_mod_cast hgt
  obtain rfl : k = n := by omega
  rfl

end Binary64

/-! ## Delays -/

open Binary64

/-- **A delay of not too many milliseconds is exact.** -/
theorem Delay.ofMilliseconds_eq {ms : Int} (hlow : 0 ≤ ms) (hhigh : ms ≤ 2 ^ 32) :
    Delay.ofMilliseconds ms = .ok ⟨ms, 1000 * ms⟩ := by
  obtain ⟨n, rfl⟩ := Int.eq_ofNat_of_zero_le hlow
  rcases Nat.eq_zero_or_pos n with rfl | hn
  · rfl
  have hsize : n < 2 ^ 33 := by omega
  obtain ⟨s₀, e₀, hmilliseconds, hs₀, hsize₀, hlow₀, hhigh₀, hnear₀⟩ :=
    exists_ofQuotient false hn one_pos hsize (Nat.one_lt_two_pow (one_ne_zero)) (by norm_num)
      (by norm_num)
  obtain ⟨s₁, e₁, hseconds, hs₁, hsize₁, hlow₁, hhigh₁, hnear₁⟩ := exists_scale false
    (a := 33) (b := 54) (c := 10) hs₀ hsize₀ hlow₀ hhigh₀ one_pos (by norm_num : 0 < 1000)
    (by norm_num) (by norm_num) (by norm_num) (by norm_num)
  obtain ⟨s₂, e₂, hreported, _, _, _, _, hnear₂⟩ := exists_scale false
    (a := 96) (b := 118) (c := 10) hs₁ hsize₁ hlow₁ hhigh₁ (by norm_num : 0 < 1000) one_pos
    (by norm_num) (by norm_num) (by norm_num) (by norm_num)
  obtain ⟨s₃, e₃, hwaited, _, _, _, _, hnear₃⟩ := exists_scale false
    (a := 96) (b := 118) (c := 20) hs₁ hsize₁ hlow₁ hhigh₁ (by norm_num : 0 < 1000000) one_pos
    (by norm_num) (by norm_num) (by norm_num) (by norm_num)
  have hbound : (n : ℚ) ≤ 2 ^ 32 := by exact_mod_cast hhigh
  rw [Nat.cast_one, div_one] at hnear₀
  norm_num only [Nat.cast_one, Nat.cast_ofNat, mul_one, div_one] at hnear₁ hnear₂ hnear₃
  obtain ⟨hless₀, hmore₀⟩ := abs_le.mp hnear₀
  obtain ⟨hless₁, hmore₁⟩ := abs_le.mp hnear₁
  obtain ⟨hless₂, hmore₂⟩ := abs_le.mp hnear₂
  obtain ⟨hless₃, hmore₃⟩ := abs_le.mp hnear₃
  have hmicroseconds : round? (.finite false s₃ e₃) = some ((1000 * n : ℕ) : Int) := by
    refine round?_eq (abs_lt.mpr ⟨?_, ?_⟩)
    · push_cast
      linarith
    · push_cast
      linarith
  have hnumber : ofInt (n : Int) = .finite false s₀ e₀ := by
    unfold ofInt
    rw [if_neg (by omega), decide_eq_false (by omega)]
    exact hmilliseconds
  unfold Delay.ofMilliseconds
  dsimp only
  rw [hnumber, hseconds, hreported, hwaited, hmicroseconds,
    round?_eq (n := n) (abs_lt.mpr ⟨by linarith, by linarith⟩)]
  rfl

end LiveTemplates
