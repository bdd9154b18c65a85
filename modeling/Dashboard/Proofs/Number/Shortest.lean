import Dashboard.Number.Shortest
import Dashboard.Proofs.Number.Rounding

/-!
# The shortest decimal is read as the number

A decimal that is found lies in the interval of the number, so it is read as that number. With
seventeen digits one is always found: then the grid of decimals is finer than the interval is wide,
because the number has fifty-three bits and its first decimal digit is in the right place.
-/

namespace Dashboard.Number

/-! ### The interval -/

namespace RoundingInterval

variable {x : Binary64}

/-- How far the interval reaches below the number, in quarters of the unit of its mantissa. -/
def reach (x : Binary64) : ℕ := if x.mantissa = 1 <<< 52 && x.exponent != -1074 then 1 else 2

theorem reach_cases (x : Binary64) :
    reach x = 2 ∨ reach x = 1 ∧ x.mantissa = 2 ^ 52 := by
  rw [reach]
  split
  · rename_i h
    simp only [Bool.and_eq_true, decide_eq_true_eq] at h
    exact .inr ⟨rfl, h.1⟩
  · exact .inl rfl

theorem denominator_pos (x : Binary64) : 0 < (ofBinary64 x).denominator := by
  simp only [ofBinary64, Nat.shiftLeft_eq]
  split <;> positivity

/-- A multiple of the scale over the denominator is that multiple of a quarter of the unit. -/
theorem scale_div (x : Binary64) (n : ℕ) :
    ((n * (if 0 ≤ x.exponent - 2 then 1 <<< (x.exponent - 2).toNat else 1) : ℕ) : ℚ) /
      (ofBinary64 x).denominator = n / 4 * 2 ^ x.exponent := by
  have hquarter : (2 : ℚ) ^ x.exponent = 4 * 2 ^ (x.exponent - 2) := by
    rw [zpow_sub₀ (by norm_num)]; field_simp; norm_num
  rw [hquarter]
  simp only [ofBinary64, Nat.shiftLeft_eq]
  split
  · rename_i hq
    obtain ⟨k, hk⟩ := Int.eq_ofNat_of_zero_le hq
    rw [hk, zpow_natCast]
    push_cast
    simp only [Int.toNat_natCast]
    ring
  · rename_i hq
    obtain ⟨k, hk⟩ := Int.eq_ofNat_of_zero_le (show 0 ≤ -(x.exponent - 2) by omega)
    rw [hk, show x.exponent - 2 = -(k : ℤ) by omega, zpow_neg, zpow_natCast]
    push_cast
    simp only [Int.toNat_natCast]
    field_simp

theorem value_div (x : Binary64) :
    ((ofBinary64 x).value : ℚ) / (ofBinary64 x).denominator = x.mantissa * 2 ^ x.exponent := by
  have h := scale_div x (4 * x.mantissa)
  rw [show (ofBinary64 x).value = 4 * x.mantissa *
    (if 0 ≤ x.exponent - 2 then 1 <<< (x.exponent - 2).toNat else 1) from rfl, h]
  push_cast
  ring

theorem low_div (hx0 : x.mantissa ≠ 0) :
    ((ofBinary64 x).low : ℚ) / (ofBinary64 x).denominator =
      (x.mantissa - reach x / 4) * 2 ^ x.exponent := by
  have h := scale_div x (4 * x.mantissa - reach x)
  rw [show (ofBinary64 x).low = (4 * x.mantissa - reach x) *
    (if 0 ≤ x.exponent - 2 then 1 <<< (x.exponent - 2).toNat else 1) from rfl, h,
    Nat.cast_sub (by have := reach_cases x; omega)]
  push_cast
  ring

theorem high_div (x : Binary64) :
    ((ofBinary64 x).high : ℚ) / (ofBinary64 x).denominator =
      (x.mantissa + 1 / 2) * 2 ^ x.exponent := by
  have h := scale_div x (4 * x.mantissa + 2)
  rw [show (ofBinary64 x).high = (4 * x.mantissa + 2) *
    (if 0 ≤ x.exponent - 2 then 1 <<< (x.exponent - 2).toNat else 1) from rfl, h]
  push_cast
  ring

theorem contains_iff (hx0 : x.mantissa ≠ 0) {num den : ℕ} (hden : den ≠ 0) :
    (ofBinary64 x).contains num den = true ↔
      if x.mantissa % 2 = 0 then
        (x.mantissa - reach x / 4 : ℚ) * 2 ^ x.exponent ≤ num / den ∧
          (num : ℚ) / den ≤ (x.mantissa + 1 / 2) * 2 ^ x.exponent
      else
        (x.mantissa - reach x / 4 : ℚ) * 2 ^ x.exponent < num / den ∧
          (num : ℚ) / den < (x.mantissa + 1 / 2) * 2 ^ x.exponent := by
  have hD : (0 : ℚ) < (ofBinary64 x).denominator := by exact_mod_cast denominator_pos x
  have hd : (0 : ℚ) < den := by exact_mod_cast Nat.pos_of_ne_zero hden
  rw [← low_div hx0, ← high_div, div_le_div_iff₀ hD hd, div_le_div_iff₀ hd hD,
    div_lt_div_iff₀ hD hd, div_lt_div_iff₀ hd hD, contains,
    show (ofBinary64 x).includesEnds = (x.mantissa % 2 == 0) from rfl]
  norm_cast
  simp only [beq_iff_eq]
  split <;> simp

theorem contains_of_lt (hx0 : x.mantissa ≠ 0) (num : ℕ) {den : ℕ} (hden : den ≠ 0)
    (hlow : (x.mantissa - reach x / 4 : ℚ) * 2 ^ x.exponent < num / den)
    (hhigh : (num : ℚ) / den < (x.mantissa + 1 / 2) * 2 ^ x.exponent) :
    (ofBinary64 x).contains num den = true := by
  rw [contains_iff hx0 hden]
  split
  · exact ⟨hlow.le, hhigh.le⟩
  · exact ⟨hlow, hhigh⟩

/-- What lies in the interval is read as the number. -/
theorem nearest_of_contains (hx0 : x.mantissa ≠ 0) {num den : ℕ} (hden : den ≠ 0)
    (h : (ofBinary64 x).contains num den = true) : x.Nearest ((num : ℚ) / den) := by
  rw [contains_iff hx0 hden] at h
  generalize (num : ℚ) / den = r at h
  have hpow : (0 : ℚ) < 2 ^ x.exponent := by positivity
  rw [← le_div_iff₀ hpow, ← lt_div_iff₀ hpow, ← div_le_iff₀ hpow, ← div_lt_iff₀ hpow] at h
  have hreach : (reach x : ℚ) ≤ 2 := by
    have := reach_cases x
    exact_mod_cast (by omega : reach x ≤ 2)
  have hle : (x.mantissa - reach x / 4 : ℚ) ≤ r / 2 ^ x.exponent ∧
      r / 2 ^ x.exponent ≤ x.mantissa + 1 / 2 := by
    split at h
    · exact h
    · exact ⟨h.1.le, h.2.le⟩
  refine ⟨⟨by linarith, by linarith, fun hodd => ?_, fun hodd => ?_⟩, fun hm hq => ?_⟩
  · rw [if_neg (by omega)] at h
    linarith [h.1]
  · rw [if_neg (by omega)] at h
    linarith [h.2]
  · have : reach x = 1 := by
      rw [reach, if_pos]
      simpa [hm] using hq
    rw [this, hm] at hle
    push_cast at hle
    exact hle.1

/-! ### The place of the first digit -/

/-- The powers of two and of ten that the estimate compares. -/
theorem estimate_powers : ∀ n < 1100, 10 ^ (n * 30103 / 100000) ≤ 10 * 2 ^ n ∧
    2 ^ n ≤ 10 ^ ((n * 30103 + 99999) / 100000) := by
  decide +kernel

theorem ten_pow_estimate_le {t : ℤ} (hlow : -1100 < t) (hhigh : t < 1100) :
    (10 : ℚ) ^ (t * 30103 / 100000 - 1) ≤ 2 ^ t := by
  rw [zpow_sub₀ (by norm_num), zpow_one, div_le_iff₀' (by norm_num)]
  rcases le_or_gt 0 t with ht | ht
  · obtain ⟨n, rfl⟩ := Int.eq_ofNat_of_zero_le ht
    have h := (estimate_powers n (by omega)).1
    rw [show ((n : ℤ) * 30103 / 100000) = ((n * 30103 / 100000 : ℕ) : ℤ) by omega, zpow_natCast,
      zpow_natCast]
    exact_mod_cast h
  · obtain ⟨n, hn⟩ := Int.eq_ofNat_of_zero_le (show 0 ≤ -t by omega)
    obtain rfl : t = -(n : ℤ) := by omega
    have h := (estimate_powers n (by omega)).2
    rw [show (-(n : ℤ) * 30103 / 100000) = -(((n * 30103 + 99999) / 100000 : ℕ) : ℤ) by omega,
      zpow_neg, zpow_neg, zpow_natCast, zpow_natCast]
    have h' : ((10 : ℚ) ^ ((n * 30103 + 99999) / 100000))⁻¹ ≤ (2 ^ n)⁻¹ := by
      gcongr
      exact_mod_cast h
    have : (0 : ℚ) < (2 ^ n)⁻¹ := by positivity
    linarith

/-- Whether the value is at least `10 ^ k`. -/
def atLeast (i : RoundingInterval) (k : ℤ) : Bool :=
  if 0 ≤ k then i.denominator * tenTo k.toNat ≤ i.value
  else i.denominator ≤ i.value * tenTo (-k).toNat

theorem atLeast_iff {i : RoundingInterval} (hden : 0 < i.denominator) (k : ℤ) :
    i.atLeast k = true ↔ (10 : ℚ) ^ k ≤ i.value / i.denominator := by
  have hD : (0 : ℚ) < i.denominator := by exact_mod_cast hden
  rw [le_div_iff₀ hD, atLeast]
  split
  · rename_i hk
    obtain ⟨n, rfl⟩ := Int.eq_ofNat_of_zero_le hk
    rw [decide_eq_true_eq, zpow_natCast, mul_comm]
    exact_mod_cast Iff.rfl
  · rename_i hk
    obtain ⟨n, hn⟩ := Int.eq_ofNat_of_zero_le (show 0 ≤ -k by omega)
    obtain rfl : k = -(n : ℤ) := by omega
    rw [decide_eq_true_eq, zpow_neg, zpow_natCast, inv_mul_le_iff₀ (by positivity), mul_comm, hn]
    exact_mod_cast Iff.rfl

/-- The estimate from the number of binary digits. -/
def estimate (i : RoundingInterval) : ℤ :=
  ((i.value.log2 : ℤ) - (i.denominator.log2 : ℤ) - 2) * 30103 / 100000

theorem decimalMagnitude_eq (i : RoundingInterval) :
    i.decimalMagnitude =
      if i.atLeast (i.estimate + 1) then
        if i.atLeast (i.estimate + 2) then i.estimate + 3 else i.estimate + 2
      else if i.atLeast i.estimate then i.estimate + 1 else i.estimate :=
  rfl

/-- The first digit of a number is not behind the place that is found. -/
theorem ten_pow_le_value (hx : x.isFinite = true) (hx0 : x.mantissa ≠ 0) :
    (10 : ℚ) ^ ((ofBinary64 x).decimalMagnitude - 1) ≤ x.mantissa * 2 ^ x.exponent := by
  have hden := denominator_pos x
  have hvalue := value_div x
  have hmantissa : (1 : ℚ) ≤ x.mantissa := by exact_mod_cast Nat.pos_of_ne_zero hx0
  have hvalue0 : (ofBinary64 x).value ≠ 0 := by
    intro h
    rw [h, Nat.cast_zero, zero_div] at hvalue
    have : (0 : ℚ) < x.mantissa * 2 ^ x.exponent := by positivity
    linarith
  have hfirst (k : ℤ) := atLeast_iff hden k
  rw [hvalue] at hfirst
  rw [decimalMagnitude_eq]
  split_ifs with h1 h2 h0
  · rw [show (ofBinary64 x).estimate + 3 - 1 = (ofBinary64 x).estimate + 2 by ring]
    exact (hfirst _).1 h2
  · rw [show (ofBinary64 x).estimate + 2 - 1 = (ofBinary64 x).estimate + 1 by ring]
    exact (hfirst _).1 h1
  · rw [add_sub_cancel_right]
    exact (hfirst _).1 h0
  · -- the estimate itself is then the place, and it is not too large
    obtain ⟨hlow, hhigh⟩ := Binary64.ratio_bounds hvalue0 hden.ne'
    rw [hvalue] at hlow hhigh
    have hsmall : ((ofBinary64 x).value.log2 : ℤ) - (ofBinary64 x).denominator.log2 - 1 < 1024 := by
      exact (zpow_lt_zpow_iff_right₀ (by norm_num)).1
        (hlow.trans (x.nearest_self.lt_two_pow hx))
    have hlarge :
        -1075 < ((ofBinary64 x).value.log2 : ℤ) - (ofBinary64 x).denominator.log2 + 1 := by
      exact (zpow_lt_zpow_iff_right₀ (by norm_num)).1
        ((x.nearest_self.two_pow_le hx0).trans_lt hhigh)
    exact (ten_pow_estimate_le (by omega) (by omega)).trans
      ((zpow_le_zpow_right₀ (by norm_num) (by omega)).trans hlow.le)

/-! ### The grid -/

/-- The numerator of `10 ^ e`. -/
def placeNum (e : ℤ) : ℕ := if 0 ≤ e then tenTo e.toNat else 1

/-- The denominator of `10 ^ e`. -/
def placeDen (e : ℤ) : ℕ := if 0 ≤ e then 1 else tenTo (-e).toNat

theorem placeNum_ne_zero (e : ℤ) : placeNum e ≠ 0 := by
  rw [placeNum]
  split <;> simp [tenTo]

theorem placeDen_ne_zero (e : ℤ) : placeDen e ≠ 0 := by
  rw [placeDen]
  split <;> simp [tenTo]

theorem placeNum_div (e : ℤ) : (placeNum e : ℚ) / placeDen e = 10 ^ e := by
  rw [placeNum, placeDen]
  split
  · rename_i he
    obtain ⟨n, rfl⟩ := Int.eq_ofNat_of_zero_le he
    rw [Nat.cast_one, div_one, zpow_natCast]
    exact_mod_cast rfl
  · rename_i he
    obtain ⟨n, hn⟩ := Int.eq_ofNat_of_zero_le (show 0 ≤ -e by omega)
    obtain rfl : e = -(n : ℤ) := by omega
    rw [Nat.cast_one, one_div, zpow_neg, zpow_natCast, hn, inv_inj]
    exact_mod_cast rfl

/-- The value in units of the last place, rounded down. -/
def onGridBelow (i : RoundingInterval) (e : ℤ) : ℕ :=
  i.value * placeDen e / (i.denominator * placeNum e)

/-- Of the two neighbours one in the interval is taken. -/
theorem onGrid?_eq (i : RoundingInterval) (tie : TieRule) (e : ℤ) :
    ∃ up : Bool, i.onGrid? tie e =
      if i.contains (i.onGridBelow e * placeNum e) (placeDen e) &&
          (!i.contains ((i.onGridBelow e + 1) * placeNum e) (placeDen e) || !up) then
        some ⟨i.onGridBelow e, e⟩
      else if i.contains ((i.onGridBelow e + 1) * placeNum e) (placeDen e) then
        some ⟨i.onGridBelow e + 1, e⟩
      else none :=
  ⟨_, rfl⟩

theorem onGrid?_isSome_eq (i : RoundingInterval) (tie : TieRule) (e : ℤ) :
    (i.onGrid? tie e).isSome =
      (i.contains (i.onGridBelow e * placeNum e) (placeDen e) ||
        i.contains ((i.onGridBelow e + 1) * placeNum e) (placeDen e)) := by
  obtain ⟨up, hup⟩ := onGrid?_eq i tie e
  rw [hup]
  generalize i.contains (i.onGridBelow e * placeNum e) (placeDen e) = below
  generalize i.contains ((i.onGridBelow e + 1) * placeNum e) (placeDen e) = above
  cases below <;> cases above <;> cases up <;> rfl

/-- A decimal that is found on the grid is read as the number. -/
theorem nearest_of_onGrid? (hx0 : x.mantissa ≠ 0) {tie : TieRule} {e : ℤ} {d : Decimal}
    (h : (ofBinary64 x).onGrid? tie e = some d) : x.Nearest (d.digits * 10 ^ d.exponent) := by
  have hnearest {n : ℕ}
      (hn : (ofBinary64 x).contains (n * placeNum e) (placeDen e) = true) :
      x.Nearest (n * 10 ^ e) := by
    have := nearest_of_contains hx0 (placeDen_ne_zero e) hn
    rwa [Nat.cast_mul, mul_div_assoc, placeNum_div] at this
  obtain ⟨up, hup⟩ := onGrid?_eq (ofBinary64 x) tie e
  rw [hup] at h
  split_ifs at h with hbelow habove
  · obtain rfl := Option.some.inj h
    exact hnearest (Bool.and_eq_true_iff.1 hbelow).1
  · obtain rfl := Option.some.inj h
    exact hnearest habove

/-- The value lies between its neighbours on the grid. -/
theorem onGridBelow_le (x : Binary64) (e : ℤ) :
    ((ofBinary64 x).onGridBelow e : ℚ) * 10 ^ e ≤ x.mantissa * 2 ^ x.exponent ∧
      (x.mantissa : ℚ) * 2 ^ x.exponent < ((ofBinary64 x).onGridBelow e + 1 : ℕ) * 10 ^ e := by
  have hD := denominator_pos x
  have hnum := Nat.pos_of_ne_zero (placeNum_ne_zero e)
  have hD' : (0 : ℚ) < (ofBinary64 x).denominator := by exact_mod_cast hD
  have hden : (0 : ℚ) < placeDen e := by exact_mod_cast Nat.pos_of_ne_zero (placeDen_ne_zero e)
  rw [← value_div, ← placeNum_div, mul_div_assoc', mul_div_assoc', div_le_div_iff₀ hden hD',
    div_lt_div_iff₀ hD' hden]
  obtain ⟨d, hd⟩ : ∃ d, d = (ofBinary64 x).onGridBelow e := ⟨_, rfl⟩
  rw [← hd]
  have hle := Nat.div_mul_le_self ((ofBinary64 x).value * placeDen e)
    ((ofBinary64 x).denominator * placeNum e)
  have hlt := Nat.lt_div_mul_add (a := (ofBinary64 x).value * placeDen e) (Nat.mul_pos hD hnum)
  rw [← onGridBelow, ← hd] at hle hlt
  constructor
  · exact_mod_cast (by linarith : d * placeNum e * (ofBinary64 x).denominator ≤ _)
  · exact_mod_cast (by linarith : _ < (d + 1) * placeNum e * (ofBinary64 x).denominator)

/-- Where the grid is finer than the interval is wide, one of the neighbours is in the interval. -/
theorem onGrid?_isSome (hx0 : x.mantissa ≠ 0) (tie : TieRule) {e : ℤ}
    (he : (10 : ℚ) ^ e < (reach x / 4 + 1 / 2) * 2 ^ x.exponent) :
    ((ofBinary64 x).onGrid? tie e).isSome = true := by
  obtain ⟨hle, hlt⟩ := onGridBelow_le x e
  have hcontains (n : ℕ) := contains_of_lt hx0 (n * placeNum e) (placeDen_ne_zero e)
  simp only [Nat.cast_mul, mul_div_assoc, placeNum_div] at hcontains
  have hunit : (0 : ℚ) < 2 ^ x.exponent := by positivity
  have hreach : (0 : ℚ) ≤ reach x / 4 * 2 ^ x.exponent := by positivity
  rw [onGrid?_isSome_eq, Bool.or_eq_true]
  by_contra hnone
  rw [not_or] at hnone
  have hbelow := not_lt.1 fun h => hnone.1 (hcontains _ h (by linarith))
  have habove := not_lt.1 fun h => hnone.2 (hcontains _ (by linarith) h)
  push_cast at habove
  linarith

/-- With seventeen digits a decimal is found. -/
theorem onGrid?_seventeen (hx : x.isFinite = true) (hx0 : x.mantissa ≠ 0) (tie : TieRule) :
    ((ofBinary64 x).onGrid? tie ((ofBinary64 x).decimalMagnitude - 17)).isSome = true := by
  refine onGrid?_isSome hx0 tie ?_
  have hunit : (0 : ℚ) < 2 ^ x.exponent := by positivity
  have hfine : (x.mantissa : ℚ) < (reach x / 4 + 1 / 2) * 10 ^ 16 := by
    have hm : (x.mantissa : ℚ) ≤ 2 ^ 53 := by exact_mod_cast x.mantissa_lt.le
    rcases reach_cases x with h | ⟨h, hm'⟩
    · rw [h]
      norm_num at hm ⊢
      linarith
    · rw [h, hm']
      norm_num
  calc (10 : ℚ) ^ ((ofBinary64 x).decimalMagnitude - 17)
      = 10 ^ ((ofBinary64 x).decimalMagnitude - 1) / 10 ^ 16 := by
        rw [eq_div_iff (by norm_num), ← zpow_natCast, ← zpow_add₀ (by norm_num)]
        congr 1
        push_cast
        ring
    _ ≤ x.mantissa * 2 ^ x.exponent / 10 ^ 16 := by
        gcongr
        exact ten_pow_le_value hx hx0
    _ < (reach x / 4 + 1 / 2) * 2 ^ x.exponent := by
        rw [div_lt_iff₀ (by norm_num), mul_right_comm]
        gcongr

end RoundingInterval

namespace Decimal

open RoundingInterval

/-- Zeros at the end do not count. -/
theorem value_stripZeros (fuel : ℕ) (d : Decimal) :
    ((stripZeros fuel d).digits : ℚ) * 10 ^ (stripZeros fuel d).exponent =
      d.digits * 10 ^ d.exponent := by
  induction fuel generalizing d with
  | zero => rfl
  | succ fuel ih =>
    rw [stripZeros]
    split
    · rename_i h
      simp only [Bool.and_eq_true, beq_iff_eq] at h
      obtain ⟨n, hn⟩ := Nat.dvd_of_mod_eq_zero h.2
      rw [ih, zpow_add₀ (by norm_num), zpow_one, hn, Nat.mul_div_cancel_left _ (by norm_num)]
      push_cast
      ring
    · rfl

/-- The shortest decimal of a number is read as that number. -/
theorem nearest_shortest {x : Binary64} (hx : x.isFinite = true) (hx0 : x.mantissa ≠ 0)
    (tie : TieRule) :
    x.Nearest ((shortest tie x).digits * 10 ^ (shortest tie x).exponent) := by
  have hzero : ¬x.isZero = true := fun h => hx0 (by
    simp only [Binary64.isZero, Bool.and_eq_true, beq_iff_eq] at h
    rw [Binary64.mantissa, if_pos h.1, h.2])
  rw [shortest, if_neg hzero]
  simp only [value_stripZeros]
  cases hfound : (List.range 17).findSome? fun n =>
      (ofBinary64 x).onGrid? tie ((ofBinary64 x).decimalMagnitude - (n + 1 : ℕ)) with
  | some d =>
    obtain ⟨n, -, hn⟩ := List.exists_of_findSome?_eq_some hfound
    exact nearest_of_onGrid? hx0 hn
  | none =>
    have hnone := List.findSome?_eq_none_iff.1 hfound 16 (by simp)
    have hsome := onGrid?_seventeen hx hx0 tie
    rw [show (ofBinary64 x).decimalMagnitude - 17 =
      (ofBinary64 x).decimalMagnitude - (16 + 1 : ℕ) from rfl, hnone] at hsome
    exact absurd hsome (by simp)

end Decimal

end Dashboard.Number
