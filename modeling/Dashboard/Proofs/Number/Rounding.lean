import Dashboard.Number.Binary64
import Mathlib.Algebra.Order.Field.Power
import Mathlib.Data.Rat.Cast.Order
import Mathlib.Tactic.FieldSimp
import Mathlib.Tactic.Linarith
import Mathlib.Tactic.NormNum
import Mathlib.Tactic.Positivity
import Mathlib.Tactic.Ring

/-!
# Reading a number from a quotient

A number is the result of rounding every quotient of its interval. The exponent that is tried first
is off by at most two: it is right, or one too small and then the quotient does not fit, or two too
small when the quotient lies just below a power of two and rounds up to it.
-/

namespace Dashboard.Number

/-- Whether `n` is the natural number next to `r`, where a number between two goes to the even
one. -/
structure RoundsTo (r : ℚ) (n : ℕ) : Prop where
  low : 2 * (n : ℚ) - 1 ≤ 2 * r
  high : 2 * r ≤ 2 * n + 1
  low_odd : n % 2 = 1 → 2 * (n : ℚ) - 1 < 2 * r
  high_odd : n % 2 = 1 → 2 * r < 2 * n + 1

theorem RoundsTo.le {r : ℚ} {m n : ℕ} (hm : RoundsTo r m) (hn : RoundsTo r n) : m ≤ n := by
  by_contra hlt
  obtain rfl : m = n + 1 := by
    have : (m : ℚ) ≤ n + 1 := by linarith [hm.low, hn.high]
    have : m ≤ n + 1 := by exact_mod_cast this
    omega
  -- between two neighbours lies one point, and the odd one does not take it
  have hlow := hm.low
  have hlowOdd := hm.low_odd
  push_cast at hlow hlowOdd
  rcases Nat.mod_two_eq_zero_or_one n with heven | hodd
  · linarith [hlowOdd (by omega), hn.high]
  · linarith [hn.high_odd hodd]

theorem RoundsTo.unique {r : ℚ} {m n : ℕ} (hm : RoundsTo r m) (hn : RoundsTo r n) : m = n :=
  le_antisymm (hm.le hn) (hn.le hm)

/-- What is at least as near to an even number as the number below is rounds to it or above. -/
theorem RoundsTo.even_le {r : ℚ} {n k : ℕ} (h : RoundsTo r n) (hk : k % 2 = 0)
    (hr : 2 * (k : ℚ) - 1 ≤ 2 * r) : k ≤ n := by
  by_contra hlt
  obtain rfl : k = n + 1 := by
    have : (k : ℚ) ≤ n + 1 := by linarith [h.high]
    have : k ≤ n + 1 := by exact_mod_cast this
    omega
  push_cast at hr
  linarith [h.high_odd (by omega)]

namespace Binary64

/-! ### Rounding a quotient -/

theorem roundsTo_roundHalfEven (num : ℕ) {den : ℕ} (hden : 0 < den) :
    RoundsTo ((num : ℚ) / den) (roundHalfEven num den) := by
  have hpos : (0 : ℚ) < den := by exact_mod_cast hden
  have hr : num % den < den := Nat.mod_lt _ hden
  have hvalue : (num : ℚ) / den = (num / den : ℕ) + ((num % den : ℕ) : ℚ) / den := by
    field_simp
    exact_mod_cast (Nat.div_add_mod num den).symm
  rw [roundHalfEven, hvalue]
  generalize num / den = q, num % den = r at hr
  -- the quotient is `q + t` with `t` in `[0, 1)`
  have ht0 : (0 : ℚ) ≤ r / den := by positivity
  have ht1 : (r : ℚ) / den < 1 := by rw [div_lt_one hpos]; exact_mod_cast hr
  have hlarge : den < 2 * r ↔ 1 < 2 * ((r : ℚ) / den) := by
    rw [mul_div_assoc', one_lt_div hpos]; norm_cast
  have htie : 2 * r = den ↔ 2 * ((r : ℚ) / den) = 1 := by
    rw [mul_div_assoc', div_eq_one_iff_eq hpos.ne']; norm_cast
  simp only [gt_iff_lt, Bool.or_eq_true, Bool.and_eq_true, decide_eq_true_eq, beq_iff_eq, hlarge,
    htie]
  generalize (r : ℚ) / den = t at ht0 ht1
  split
  · rename_i hup
    have hhalf : 1 ≤ 2 * t := hup.elim le_of_lt fun h => h.1.ge
    constructor <;> push_cast
    · linarith
    · linarith
    · intro hodd
      rcases hup with hlt | ⟨-, hq⟩
      · linarith
      · omega
    · intro _; linarith
  · rename_i hdown
    have hhalf : 2 * t ≤ 1 := not_lt.1 fun h => hdown (.inl h)
    constructor
    · linarith
    · linarith
    · intro _; linarith
    · intro hodd
      have : 2 * t ≠ 1 := fun h => hdown (.inr ⟨h, hodd⟩)
      linarith [lt_of_le_of_ne hhalf this]

theorem roundsTo_scaledQuotient (num : ℕ) {den : ℕ} (hden : 0 < den) (q : ℤ) :
    RoundsTo ((num : ℚ) / den / 2 ^ q) (scaledQuotient num den q) := by
  rw [scaledQuotient]
  split
  · rename_i hq
    have hpow : (2 : ℚ) ^ q = 2 ^ q.toNat := by
      rw [← zpow_natCast, Int.toNat_of_nonneg hq]
    have hshift : 0 < den <<< q.toNat := by
      rw [Nat.shiftLeft_eq]
      positivity
    have h := roundsTo_roundHalfEven num hshift
    rw [Nat.shiftLeft_eq] at h ⊢
    push_cast at h
    rwa [hpow, div_div]
  · rename_i hq
    have hpow : (2 : ℚ) ^ q = (2 ^ (-q).toNat)⁻¹ := by
      rw [← zpow_natCast, Int.toNat_of_nonneg (by omega), zpow_neg, inv_inv]
    have h := roundsTo_roundHalfEven (num <<< (-q).toNat) hden
    rw [Nat.shiftLeft_eq] at h ⊢
    push_cast at h
    rwa [hpow, div_inv_eq_mul, div_mul_eq_mul_div]

/-- Whether a quotient lies in the interval of a number: it rounds to the mantissa and, when the
numbers below lie twice as close, is no further below than they allow. -/
structure Nearest (x : Binary64) (r : ℚ) : Prop where
  rounds : RoundsTo (r / 2 ^ x.exponent) x.mantissa
  near : x.mantissa = 2 ^ 52 → x.exponent ≠ -1074 → (2 : ℚ) ^ 52 - 1 / 4 ≤ r / 2 ^ x.exponent

theorem nearest_self (x : Binary64) : x.Nearest (x.mantissa * 2 ^ x.exponent) := by
  have hself : (x.mantissa * 2 ^ x.exponent : ℚ) / 2 ^ x.exponent = x.mantissa := by
    field_simp
  refine ⟨⟨?_, ?_, fun _ => ?_, fun _ => ?_⟩, fun hm _ => ?_⟩ <;> rw [hself]
  · linarith
  · linarith
  · linarith
  · linarith
  · rw [hm]
    norm_num

/-! ### The parts of a number -/

theorem bits_lt (x : Binary64) : x.bits.toNat < 2 ^ 64 := x.bits.toNat_lt

theorem mantissa_lt (x : Binary64) : x.mantissa < 2 ^ 53 := by
  have : x.fraction < 2 ^ 52 := Nat.mod_lt _ (by norm_num)
  simp only [mantissa]
  split <;> omega

theorem exponent_ge (x : Binary64) : -1074 ≤ x.exponent := by
  simp only [exponent]
  split <;> omega

theorem exponent_le {x : Binary64} (h : x.isFinite = true) : x.exponent ≤ 971 := by
  have hlt : x.exponentField < 2048 := Nat.mod_lt _ (by norm_num)
  have hne : x.exponentField ≠ 2047 := by simpa [isFinite] using h
  simp only [exponent]
  split <;> omega

theorem mantissa_ge {x : Binary64} (h : x.exponent ≠ -1074) : 2 ^ 52 ≤ x.mantissa := by
  simp only [exponent] at h
  simp only [mantissa]
  split at h
  · exact absurd rfl h
  · rename_i hfield
    rw [if_neg hfield]
    omega

/-- A finite number is its sign and its magnitude. -/
theorem ofMagnitude_mantissa {x : Binary64} (h : x.isFinite = true) :
    ofMagnitude x.isNegative (((x.exponent + 1074).toNat <<< 52) + x.mantissa) = x := by
  have hbits := x.bits_lt
  have hfinite : x.bits.toNat / 2 ^ 52 % 2048 ≠ 2047 := by
    simpa [isFinite, exponentField, Nat.shiftRight_eq_div_pow] using h
  have hmagnitude : ((x.exponent + 1074).toNat <<< 52) + x.mantissa = x.bits.toNat % 2 ^ 63 := by
    simp only [exponent, mantissa, fraction, exponentField, Nat.shiftRight_eq_div_pow,
      Nat.shiftLeft_eq]
    split <;> omega
  have hmin : x.bits.toNat % 2 ^ 63 ≤ 2047 <<< 52 := by
    rw [Nat.shiftLeft_eq]; omega
  have hsign : (if x.isNegative then 1 <<< 63 else 0) + x.bits.toNat % 2 ^ 63 = x.bits.toNat := by
    simp only [isNegative, Nat.shiftRight_eq_div_pow, Nat.shiftLeft_eq, beq_iff_eq]
    split <;> omega
  rw [hmagnitude, ofMagnitude, min_eq_left hmin, hsign, UInt64.ofNat_toNat]

/-! ### Choosing the exponent -/

theorem ratio_bounds {num den : ℕ} (hnum : num ≠ 0) (hden : den ≠ 0) :
    (2 : ℚ) ^ ((num.log2 : ℤ) - den.log2 - 1) < num / den ∧
      (num : ℚ) / den < 2 ^ ((num.log2 : ℤ) - den.log2 + 1) := by
  have hpos : (0 : ℚ) < den := by exact_mod_cast Nat.pos_of_ne_zero hden
  have hnumLow : (2 : ℚ) ^ (num.log2 : ℤ) ≤ num := by
    rw [zpow_natCast]; exact_mod_cast Nat.log2_self_le hnum
  have hnumHigh : (num : ℚ) < 2 ^ ((num.log2 : ℤ) + 1) := by
    rw [← Nat.cast_succ, zpow_natCast]; exact_mod_cast Nat.lt_log2_self
  have hdenLow : (2 : ℚ) ^ (den.log2 : ℤ) ≤ den := by
    rw [zpow_natCast]; exact_mod_cast Nat.log2_self_le hden
  have hdenHigh : (den : ℚ) < 2 ^ ((den.log2 : ℤ) + 1) := by
    rw [← Nat.cast_succ, zpow_natCast]; exact_mod_cast Nat.lt_log2_self
  constructor
  · rw [lt_div_iff₀ hpos]
    calc (2 : ℚ) ^ ((num.log2 : ℤ) - den.log2 - 1) * den
        < 2 ^ ((num.log2 : ℤ) - den.log2 - 1) * 2 ^ ((den.log2 : ℤ) + 1) := by gcongr
      _ = 2 ^ (num.log2 : ℤ) := by rw [← zpow_add₀ (by norm_num)]; congr 1; omega
      _ ≤ num := hnumLow
  · rw [div_lt_iff₀ hpos]
    calc (num : ℚ) < 2 ^ ((num.log2 : ℤ) + 1) := hnumHigh
      _ = 2 ^ ((num.log2 : ℤ) - den.log2 + 1) * 2 ^ (den.log2 : ℤ) := by
        rw [← zpow_add₀ (by norm_num)]; congr 1; omega
      _ ≤ 2 ^ ((num.log2 : ℤ) - den.log2 + 1) * den := by gcongr

/-- The exponent that is tried first. -/
def firstExponent (num den : ℕ) : ℤ := max (-1074) ((num.log2 : ℤ) - (den.log2 : ℤ) - 53)

section Nearest

variable {x : Binary64} {r : ℚ}

theorem Nearest.lt (h : x.Nearest r) : r / 2 ^ x.exponent < 2 ^ 53 := by
  have hm : (x.mantissa : ℚ) + 1 ≤ 2 ^ 53 := by exact_mod_cast x.mantissa_lt
  linarith [h.rounds.high]

theorem Nearest.ge (h : x.Nearest r) (hq : x.exponent ≠ -1074) :
    (2 : ℚ) ^ 52 - 1 / 4 ≤ r / 2 ^ x.exponent := by
  rcases Nat.eq_or_lt_of_le (mantissa_ge hq) with hm | hm
  · exact h.near hm.symm hq
  · have hm' : (2 : ℚ) ^ 52 + 1 ≤ x.mantissa := by exact_mod_cast hm
    linarith [h.rounds.low]

/-- The same quotient in other units. -/
theorem div_zpow_eq (r : ℚ) {p q k : ℤ} (h : p = q + k) : r / 2 ^ q = r / 2 ^ p * 2 ^ k := by
  rw [h, zpow_add₀ (by norm_num)]
  field_simp

theorem Nearest.firstExponent_cases {num den : ℕ} (h : x.Nearest ((num : ℚ) / den)) (hnum : num ≠ 0)
    (hden : den ≠ 0) :
    x.exponent = firstExponent num den ∨ x.exponent = firstExponent num den + 1 ∨
      x.exponent = firstExponent num den + 2 ∧ x.mantissa = 2 ^ 52 ∧
        (num : ℚ) / den / 2 ^ x.exponent < 2 ^ 52 := by
  obtain ⟨hbelow, habove⟩ := ratio_bounds hnum hden
  have hlt := h.lt
  have hfirst : firstExponent num den = max (-1074) ((num.log2 : ℤ) - den.log2 - 53) := rfl
  generalize (num.log2 : ℤ) - den.log2 = e at *
  generalize firstExponent num den = p at *
  generalize hr : (num : ℚ) / den = r at *
  rcases lt_trichotomy p x.exponent with hp | hp | hp
  · have hge := h.ge (by omega)
    -- in units of the first exponent the quotient has at most fifty-four bits
    have hsmall : r / 2 ^ p < 2 ^ 54 := by
      rw [div_lt_iff₀ (by positivity), ← zpow_natCast, ← zpow_add₀ (by norm_num)]
      exact habove.trans_le (zpow_le_zpow_right₀ (by norm_num) (by push_cast; omega))
    obtain ⟨k, hk⟩ := Int.eq_ofNat_of_zero_le (sub_nonneg.2 hp.le)
    have hscale := div_zpow_eq r (show x.exponent = p + (k : ℤ) by omega)
    rw [zpow_natCast] at hscale
    have hk2 : k ≤ 2 := by
      by_contra hlarge
      have : (2 : ℚ) ^ 3 ≤ 2 ^ k := pow_le_pow_right₀ (by norm_num) (by omega)
      have : (2 ^ 52 - 1 / 4) * (2 : ℚ) ^ 3 ≤ r / 2 ^ x.exponent * 2 ^ k := by gcongr
      linarith
    by_cases hk1 : k = 2
    · subst hk1
      have hbelow : r / 2 ^ x.exponent < 2 ^ 52 := by linarith
      refine .inr (.inr ⟨by omega, ?_, hbelow⟩)
      have hm : (x.mantissa : ℚ) < 2 ^ 52 + 1 := by linarith [h.rounds.low]
      have hm : x.mantissa < 2 ^ 52 + 1 := by exact_mod_cast hm
      exact le_antisymm (by omega) (mantissa_ge (by omega))
    · exact .inr (.inl (by omega))
  · exact .inl hp.symm
  · exfalso
    have hlarge : (2 : ℚ) ^ 53 ≤ r / 2 ^ x.exponent := by
      rw [le_div_iff₀ (by positivity), ← zpow_natCast, ← zpow_add₀ (by norm_num)]
      exact le_trans (zpow_le_zpow_right₀ (by norm_num)
        (by have := x.exponent_ge; push_cast; omega)) hbelow.le
    linarith

end Nearest

theorem ofRatio_of_ne_zero (negative : Bool) {num : ℕ} (hnum : num ≠ 0) (den : ℕ) :
    ofRatio negative num den =
      if scaledQuotient num den (firstExponent num den) < 2 ^ 53 then
        ofMagnitude negative (((firstExponent num den + 1074).toNat <<< 52) +
          scaledQuotient num den (firstExponent num den))
      else
        ofMagnitude negative (((firstExponent num den + 1075).toNat <<< 52) +
          scaledQuotient num den (firstExponent num den + 1)) := by
  rw [ofRatio, if_neg hnum]
  rfl

/-- Every quotient in the interval of a number is read as that number. -/
theorem ofRatio_eq {x : Binary64} (hx : x.isFinite = true) (hx0 : x.mantissa ≠ 0) {num den : ℕ}
    (hden : den ≠ 0) (h : x.Nearest ((num : ℚ) / den)) : ofRatio x.isNegative num den = x := by
  have hnum : num ≠ 0 := by
    rintro rfl
    have : (1 : ℚ) ≤ x.mantissa := by exact_mod_cast Nat.pos_of_ne_zero hx0
    have hlow := h.rounds.low
    simp only [Nat.cast_zero, zero_div] at hlow
    linarith
  have hpos := Nat.pos_of_ne_zero hden
  have hround (q : ℤ) := roundsTo_scaledQuotient num hpos q
  have hexact : scaledQuotient num den x.exponent = x.mantissa := (hround _).unique h.rounds
  have hx' := ofMagnitude_mantissa hx
  have hfirst : -1074 ≤ firstExponent num den := le_max_left _ _
  rw [ofRatio_of_ne_zero _ hnum]
  rcases h.firstExponent_cases hnum hden with hp | hp | ⟨hp, hm, hbelow⟩
  · rw [← hp, hexact, if_pos x.mantissa_lt, hx']
  · -- one too small: the quotient has fifty-four bits
    have hlarge : 2 ^ 53 ≤ scaledQuotient num den (firstExponent num den) := by
      refine (hround _).even_le (by norm_num) ?_
      have hge := h.ge (by omega)
      rw [div_zpow_eq _ hp, zpow_one]
      push_cast
      linarith
    rw [if_neg (not_lt.2 hlarge), ← hp, hexact,
      show firstExponent num den + 1075 = x.exponent + 1074 by omega, hx']
  · -- two too small: the quotient rounds up to the power of two
    have hge := h.ge (by omega)
    have hlarge : 2 ^ 53 ≤ scaledQuotient num den (firstExponent num den) := by
      refine (hround _).even_le (by norm_num) ?_
      rw [div_zpow_eq _ hp]
      push_cast
      linarith
    have hpower : scaledQuotient num den (firstExponent num den + 1) = 2 ^ 53 := by
      have hvalue := div_zpow_eq ((num : ℚ) / den)
        (show x.exponent = firstExponent num den + 1 + 1 by omega)
      rw [zpow_one] at hvalue
      refine le_antisymm ?_ ((hround _).even_le (by norm_num) ?_)
      · have : (scaledQuotient num den (firstExponent num den + 1) : ℚ) < 2 ^ 53 + 1 := by
          linarith [(hround (firstExponent num den + 1)).low]
        exact Nat.lt_succ_iff.1 (by exact_mod_cast this)
      · rw [hvalue]
        push_cast
        linarith
    have hbits : ((firstExponent num den + 1075).toNat <<< 52) + 2 ^ 53 =
        ((x.exponent + 1074).toNat <<< 52) + x.mantissa := by
      rw [hm, hp, Nat.shiftLeft_eq, Nat.shiftLeft_eq]
      omega
    rw [if_neg (not_lt.2 hlarge), hpower, hbits, hx']

/-! ### Reading decimals -/

section Nearest

variable {x : Binary64} {r : ℚ}

theorem Nearest.ge_half (h : x.Nearest r) (hx0 : x.mantissa ≠ 0) :
    1 / 2 ≤ r / 2 ^ x.exponent := by
  have : (1 : ℚ) ≤ x.mantissa := by exact_mod_cast Nat.pos_of_ne_zero hx0
  linarith [h.rounds.low]

theorem Nearest.two_pow_le (h : x.Nearest r) (hx0 : x.mantissa ≠ 0) :
    (2 : ℚ) ^ (-1075 : ℤ) ≤ r := by
  have hhalf := h.ge_half hx0
  rw [le_div_iff₀ (by positivity)] at hhalf
  refine le_trans ?_ hhalf
  calc (2 : ℚ) ^ (-1075 : ℤ) = 1 / 2 * 2 ^ (-1074 : ℤ) := by
        rw [show (-1075 : ℤ) = -1 + -1074 by norm_num, zpow_add₀ (by norm_num)]
        norm_num
    _ ≤ 1 / 2 * 2 ^ x.exponent := by
      gcongr
      · norm_num
      · exact x.exponent_ge

theorem Nearest.lt_two_pow (h : x.Nearest r) (hx : x.isFinite = true) :
    r < (2 : ℚ) ^ (1024 : ℤ) := by
  have hlt := h.lt
  rw [div_lt_iff₀ (by positivity)] at hlt
  refine hlt.trans_le ?_
  calc (2 : ℚ) ^ 53 * 2 ^ x.exponent ≤ 2 ^ 53 * 2 ^ (971 : ℤ) := by
        gcongr
        · norm_num
        · exact exponent_le hx
    _ = 2 ^ (1024 : ℤ) := by
        rw [← zpow_natCast, ← zpow_add₀ (by norm_num)]
        rfl

end Nearest

theorem ten_pow_le_smallest : (10 : ℚ) ^ (-330 : ℤ) ≤ 2 ^ (-1075 : ℤ) := by
  have hpow : 2 ^ 1075 ≤ 10 ^ 330 := by decide +kernel
  rw [zpow_neg, zpow_neg]
  gcongr
  exact_mod_cast hpow

theorem two_pow_le_largest : (2 : ℚ) ^ (1024 : ℤ) ≤ 10 ^ (310 : ℤ) := by
  have hpow : 2 ^ 1024 ≤ 10 ^ 310 := by decide +kernel
  exact_mod_cast hpow

theorem length_toDigits_bounds {n : ℕ} (hn : n ≠ 0) :
    10 ^ ((Nat.toDigits 10 n).length - 1) ≤ n ∧ n < 10 ^ (Nat.toDigits 10 n).length := by
  have hpos : 0 < (Nat.toDigits 10 n).length := Nat.length_toDigits_pos
  refine ⟨?_, (Nat.length_toDigits_le_iff (by norm_num) hpos).1 le_rfl⟩
  rcases Nat.eq_zero_or_pos ((Nat.toDigits 10 n).length - 1) with h | h
  · rw [h, pow_zero]
    exact Nat.pos_of_ne_zero hn
  · by_contra hlt
    have := (Nat.length_toDigits_le_iff (by norm_num) h).2 (not_le.1 hlt)
    omega

/-- Every decimal in the interval of a number is read as that number. -/
theorem ofDecimal_eq {x : Binary64} (hx : x.isFinite = true) (hx0 : x.mantissa ≠ 0) {digits : ℕ}
    {exponent : ℤ} (h : x.Nearest (digits * 10 ^ exponent)) :
    ofDecimal x.isNegative digits exponent = x := by
  have hlow := h.two_pow_le hx0
  have hhigh := h.lt_two_pow hx
  have hdigits : digits ≠ 0 := by
    rintro rfl
    have : (0 : ℚ) < 2 ^ (-1075 : ℤ) := by positivity
    simp only [Nat.cast_zero, zero_mul] at hlow
    linarith
  obtain ⟨hlen, hlen'⟩ := length_toDigits_bounds hdigits
  have hpos : 0 < (Nat.toDigits 10 digits).length := Nat.length_toDigits_pos
  generalize hn : (Nat.toDigits 10 digits).length = n at *
  -- the guards keep numbers that are far too small or too large for an interval
  have hsmall : ¬(n : ℤ) + exponent < -330 := fun hlt => by
    have hbound : (digits : ℚ) * 10 ^ exponent < 10 ^ (-330 : ℤ) :=
      calc (digits : ℚ) * 10 ^ exponent < 10 ^ (n : ℤ) * 10 ^ exponent := by
            gcongr
            rw [zpow_natCast]
            exact_mod_cast hlen'
        _ = 10 ^ ((n : ℤ) + exponent) := (zpow_add₀ (by norm_num) _ _).symm
        _ ≤ 10 ^ (-330 : ℤ) := zpow_le_zpow_right₀ (by norm_num) hlt.le
    exact absurd hlow (not_le.2 (hbound.trans_le ten_pow_le_smallest))
  have hlarge : ¬310 < (n : ℤ) + exponent := fun hlt => by
    have hbound : (10 : ℚ) ^ (310 : ℤ) ≤ digits * 10 ^ exponent :=
      calc (10 : ℚ) ^ (310 : ℤ) ≤ 10 ^ (((n - 1 : ℕ) : ℤ) + exponent) :=
            zpow_le_zpow_right₀ (by norm_num) (by omega)
        _ = 10 ^ ((n - 1 : ℕ) : ℤ) * 10 ^ exponent := zpow_add₀ (by norm_num) _ _
        _ ≤ digits * 10 ^ exponent := by
            gcongr
            rw [zpow_natCast]
            exact_mod_cast hlen
    exact absurd hhigh (not_lt.2 (two_pow_le_largest.trans hbound))
  rw [ofDecimal, hn]
  simp only [Bool.or_eq_true, decide_eq_true_eq]
  rw [if_neg (by rintro (h0 | hlt) <;> contradiction), if_neg hlarge]
  split
  · rename_i hexponent
    refine ofRatio_eq hx hx0 one_ne_zero ?_
    obtain ⟨k, rfl⟩ := Int.eq_ofNat_of_zero_le hexponent
    simpa [tenTo] using h
  · rename_i hexponent
    obtain ⟨k, hk⟩ := Int.eq_ofNat_of_zero_le (show 0 ≤ -exponent by omega)
    obtain rfl : exponent = -(k : ℤ) := by omega
    refine ofRatio_eq hx hx0 (by simp [tenTo]) ?_
    simpa [tenTo, div_eq_mul_inv] using h

end Binary64

end Dashboard.Number
