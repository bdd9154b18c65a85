import Dashboard.Proofs.Number.Shortest
import Dashboard.Toml.Printer

/-!
# Numbers in a document

What the printer writes for an integer or a finite number is read back as that number, whatever may
follow a value. Neither is taken for a date: a date needs a dash or a colon behind its first digits.
-/

namespace Dashboard.Toml

open Number

/-- The characters that may follow a value. -/
def isValueEnd (c : Char) : Bool := c == '\n' || c == ',' || c == ']' || c == ' '

/-- No character that follows a value is of the given kind. -/
theorem eq_of_isValueEnd {c : Char} (h : isValueEnd c = true) {p : Char → Bool} {b : Bool}
    (hp : ['\n', ',', ']', ' '].all (p · == b) = true) : p c = b := by
  simp only [isValueEnd, Bool.or_eq_true, beq_iff_eq] at h
  have hp := List.all_eq_true.1 hp
  rcases h with ((rfl | rfl) | rfl) | rfl <;> exact eq_of_beq (hp _ (by decide))

theorem ne_of_isValueEnd {c d : Char} (h : isValueEnd c = true) (hd : isValueEnd d = false) :
    c ≠ d := by
  rintro rfl
  exact absurd h (by simp [hd])

/-! ### Runs of digits -/

theorem digitRun_append {ds : List Char} (hds : ∀ d ∈ ds, d.isDigit = true) {c : Char}
    (hc : c.isDigit = false) (hc' : c ≠ '_') (s : List Char) :
    digitRun Char.isDigit (ds ++ c :: s) = (ds, c :: s) := by
  induction ds with
  | nil =>
    rw [List.nil_append, digitRun, if_neg (by simp [hc])]
    exact fun d s h => absurd h hc'
  | cons d ds ih =>
    obtain ⟨hd, hds⟩ := List.forall_mem_cons.1 hds
    rw [List.cons_append, digitRun, if_pos hd, ih hds]
    rintro e s rfl
    exact absurd hd (by decide)

theorem digits_append {ds : List Char} (hds : ∀ d ∈ ds, d.isDigit = true) (hne : ds ≠ []) {c : Char}
    (hc : c.isDigit = false) (hc' : c ≠ '_') (s : List Char) :
    digits Char.isDigit (ds ++ c :: s) = some (ds, c :: s) := by
  obtain ⟨d, ds, rfl⟩ := List.exists_cons_of_ne_nil hne
  rw [List.cons_append, digits, if_pos (hds d List.mem_cons_self), ← List.cons_append,
    digitRun_append hds hc hc']

theorem digitsValue_eq_ofDigitChars {ds : List Char} (hds : ∀ d ∈ ds, d.isDigit = true) :
    digitsValue 10 ds = Nat.ofDigitChars 10 ds 0 := by
  rw [digitsValue, Nat.ofDigitChars_eq_foldl]
  refine List.foldl_ext _ _ _ fun n d hd => ?_
  rw [hexDigit?, if_pos (hds d hd), Option.getD_some, Nat.mul_comm]

theorem isDigit_of_mem_toDigits {n : ℕ} {d : Char} (h : d ∈ Nat.toDigits 10 n) :
    d.isDigit = true :=
  Nat.isDigit_of_mem_toDigits (by decide) (by decide) h

theorem digitsValue_toDigits (n : ℕ) : digitsValue 10 (Nat.toDigits 10 n) = n := by
  rw [digitsValue_eq_ofDigitChars fun d => isDigit_of_mem_toDigits, Nat.ofDigitChars_ten_toDigits]

theorem digitsValue_append_zeros (ds : List Char) (n : ℕ) :
    digitsValue 10 (ds ++ List.replicate n '0') = digitsValue 10 ds * 10 ^ n := by
  induction n with
  | zero => rw [List.replicate_zero, List.append_nil, pow_zero, mul_one]
  | succ n ih =>
    rw [List.replicate_succ', ← List.append_assoc, digitsValue, List.foldl_append, ← digitsValue,
      ih, pow_succ, ← mul_assoc]
    rfl

theorem digitsValue_zeros_append (ds : List Char) (n : ℕ) :
    digitsValue 10 (List.replicate n '0' ++ ds) = digitsValue 10 ds := by
  induction n with
  | zero => rfl
  | succ n ih => exact ih

/-- No number but zero is written with a zero in front. -/
theorem head_toDigits_ne {n : ℕ} (hn : n ≠ 0) : (Nat.toDigits 10 n).head? ≠ some '0' := by
  induction n using Nat.strongRecOn with
  | ind n ih =>
    rcases lt_or_ge n 10 with hlt | hge
    · have hdigit : ∀ n < 10, n ≠ 0 → [Nat.digitChar n].head? ≠ some '0' := by decide
      rw [Nat.toDigits_of_lt_base hlt]
      exact hdigit n hlt hn
    · have hne : Nat.toDigits 10 (n / 10) ≠ [] := Nat.toDigits_ne_nil
      rw [Nat.toDigits_of_base_le (by decide) hge, List.head?_append_of_ne_nil _ hne]
      exact ih (n / 10) (by omega) (by omega)

/-- Digits that a number may begin with: a zero alone, or any number of digits without one in
front. -/
def IsWhole (ds : List Char) : Prop :=
  ds = ['0'] ∨ ds ≠ [] ∧ ds.head? ≠ some '0' ∧ ∀ d ∈ ds, d.isDigit = true

theorem IsWhole.isDigit {ds : List Char} (h : IsWhole ds) : ∀ d ∈ ds, d.isDigit = true := by
  rcases h with rfl | ⟨-, -, h⟩
  · exact List.forall_mem_singleton.2 rfl
  · exact h

theorem IsWhole.ne_nil {ds : List Char} (h : IsWhole ds) : ds ≠ [] := by
  rcases h with rfl | ⟨h, -, -⟩
  · decide
  · exact h

theorem isWhole_toDigits (n : ℕ) : IsWhole (Nat.toDigits 10 n) := by
  rcases eq_or_ne n 0 with rfl | hn
  · exact .inl rfl
  · exact .inr ⟨Nat.toDigits_ne_nil, head_toDigits_ne hn, fun d => isDigit_of_mem_toDigits⟩

theorem isDigit_of_mem_zeros {n : ℕ} {c : Char} (h : c ∈ List.replicate n '0') :
    c.isDigit = true := by
  rw [List.eq_of_mem_replicate h]
  rfl

theorem isWhole_append_zeros {n : ℕ} (hn : n ≠ 0) (k : ℕ) :
    IsWhole (Nat.toDigits 10 n ++ List.replicate k '0') := by
  refine .inr ⟨by simp [Nat.toDigits_ne_nil], ?_, fun c hc => ?_⟩
  · rw [List.head?_append_of_ne_nil _ Nat.toDigits_ne_nil]
    exact head_toDigits_ne hn
  · exact (List.mem_append.1 hc).elim isDigit_of_mem_toDigits isDigit_of_mem_zeros

/-- Some of the digits, but not all, are not a zero alone. -/
theorem IsWhole.take {ds : List Char} (h : IsWhole ds) {k : ℕ} (hk : k ≠ 0) (hlt : k < ds.length) :
    IsWhole (ds.take k) := by
  rcases h with rfl | ⟨hne, hhead, hdigits⟩
  · rw [List.length_singleton] at hlt
    omega
  · refine .inr ⟨?_, ?_, fun c hc => hdigits c (List.mem_of_mem_take hc)⟩
    · rw [Ne, List.take_eq_nil_iff]
      exact fun h => h.elim hk hne
    · rwa [List.head?_take, if_neg hk]

theorem decimalDigits_append {ds : List Char} (hds : IsWhole ds) {c : Char}
    (hc : c.isDigit = false) (hc' : c ≠ '_') (s : List Char) :
    decimalDigits (ds ++ c :: s) = some (ds, c :: s) := by
  rcases hds with rfl | ⟨hne, hhead, hds⟩
  · rfl
  · obtain ⟨d, ds, rfl⟩ := List.exists_cons_of_ne_nil hne
    rw [← digits_append hds hne hc hc' s, List.cons_append, decimalDigits]
    intro s h
    exact hhead (congrArg some (List.cons.inj h).1)

/-! ### What is no date -/

section Datetime

variable {ds : List Char} {c : Char} {s : List Char}

/-- Behind a fixed number of digits comes another digit, or what ends the run. -/
theorem head_drop_fixedDigits (hc : c.isDigit = false) {n v : ℕ} (hn : n ≠ 0) {t : List Char}
    (h : fixedDigits n (ds ++ c :: s) = some (v, t)) :
    ds ≠ [] ∧ ∃ d u, t = d :: u ∧ (d ∈ ds ∨ d = c) := by
  rw [fixedDigits] at h
  split at h
  · exact absurd h (by simp)
  · rename_i hcond
    simp only [Bool.or_eq_true, decide_eq_true_eq, Bool.not_eq_true', not_or, not_lt,
      Bool.not_eq_false] at hcond
    obtain ⟨hlen, hall⟩ := hcond
    obtain rfl := (Prod.mk.inj (Option.some.inj h)).2
    have hle : n ≤ ds.length := by
      by_contra hlt
      have hmem : c ∈ (ds ++ c :: s).take n := by
        rw [List.take_append, List.mem_append]
        refine .inr ?_
        obtain ⟨k, hk⟩ := Nat.exists_eq_succ_of_ne_zero (show n - ds.length ≠ 0 by omega)
        rw [hk, List.take_succ_cons]
        exact List.mem_cons_self
      rw [List.all_eq_true] at hall
      exact absurd (hall c hmem) (by simp [hc])
    refine ⟨fun hnil => hn (by simpa [hnil] using hle), ?_⟩
    rw [List.drop_append_of_le_length hle]
    cases hdrop : ds.drop n with
    | nil => exact ⟨c, s, rfl, .inr rfl⟩
    | cons d u =>
      exact ⟨d, u ++ c :: s, rfl,
        .inl (List.mem_of_mem_drop (hdrop ▸ List.mem_cons_self))⟩

theorem after?_fixedDigits (hds : ∀ d ∈ ds, d.isDigit = true) (hc : c.isDigit = false)
    {n v : ℕ} (hn : n ≠ 0) {t : List Char} (h : fixedDigits n (ds ++ c :: s) = some (v, t))
    (mark : Char) (hmark : mark.isDigit = false) (hne : ds = [] ∨ c ≠ mark) :
    after? mark t = none := by
  obtain ⟨hds0, d, u, rfl, hd⟩ := head_drop_fixedDigits hc hn h
  rw [after?, if_neg]
  rintro rfl
  rcases hd with hd | rfl
  · exact absurd (hds d hd) (by simp [hmark])
  · exact hne.elim hds0 fun h => h rfl

/-- Digits are no date or time unless a dash or a colon follows. -/
theorem datetime_eq_none (hds : ∀ d ∈ ds, d.isDigit = true) (hc : c.isDigit = false)
    (hne : ds = [] ∨ c ≠ '-' ∧ c ≠ ':') : datetime (ds ++ c :: s) = none := by
  have hdate : date (ds ++ c :: s) = none := by
    rw [date]
    cases h : fixedDigits 4 (ds ++ c :: s) with
    | none => rfl
    | some r =>
      have := after?_fixedDigits hds hc (by decide) h '-' (by decide)
        (hne.imp_right (·.1))
      simp [this]
  have htime : time (ds ++ c :: s) = none := by
    rw [time]
    cases h : fixedDigits 2 (ds ++ c :: s) with
    | none => rfl
    | some r =>
      have := after?_fixedDigits hds hc (by decide) h ':' (by decide)
        (hne.imp_right (·.2))
      simp [this]
  rw [datetime, hdate, htime]

end Datetime

/-! ### Signed numbers -/

/-- A text with a minus in front when it is negative. -/
def signed (negative : Bool) (s : List Char) : List Char := if negative then '-' :: s else s

theorem sign_signed {d : Char} (hd : d.isDigit = true) (negative : Bool) (s : List Char) :
    sign (signed negative (d :: s)) = (negative, d :: s) := by
  cases negative with
  | true => rfl
  | false =>
    rw [signed, if_neg (by decide), sign]
    · rintro s h
      obtain rfl := (List.cons.inj h).1
      exact absurd hd (by decide)
    · rintro s h
      obtain rfl := (List.cons.inj h).1
      exact absurd hd (by decide)

section Signed

variable {ds : List Char} {c : Char} (negative : Bool) (s : List Char)

theorem sign_signed_append (hds : IsWhole ds) :
    sign (signed negative (ds ++ s)) = (negative, ds ++ s) := by
  obtain ⟨d, ds', rfl⟩ := List.exists_cons_of_ne_nil hds.ne_nil
  exact sign_signed (hds.isDigit d List.mem_cons_self) negative _

theorem datetime_signed (hds : ∀ d ∈ ds, d.isDigit = true) (hc : c.isDigit = false)
    (hdash : c ≠ '-') (hcolon : c ≠ ':') : datetime (signed negative (ds ++ c :: s)) = none := by
  cases negative with
  | true => exact datetime_eq_none (List.forall_mem_nil _) (by decide) (.inl rfl)
  | false => exact datetime_eq_none hds hc (.inr ⟨hdash, hcolon⟩)

theorem word?_eq_none {word : String} (h : word.toList.head? ≠ some c) (hne : word.length ≠ 0) :
    word? word (c :: s) = none := by
  rw [word?, if_neg]
  intro heq
  obtain ⟨n, hn⟩ := Nat.exists_eq_succ_of_ne_zero hne
  rw [hn, List.take_succ_cons] at heq
  exact h (heq ▸ rfl)

/-- A text that begins like a number and is no date is a number. -/
theorem scalar_of_number (hc : c = '-' ∨ c.isDigit = true) (hdate : datetime (c :: s) = none) :
    scalar (c :: s) =
      match numericFloat (c :: s) <|> specialFloat (c :: s) with
      | some (x, r) => some (.float x, r)
      | none => (integer (c :: s)).map fun (n, r) => (.integer n, r) := by
  have hne {d : Char} (hd : d ≠ '-') (hd' : d.isDigit = false) : c ≠ d := by
    rintro rfl
    exact hc.elim hd fun h => by simp [h] at hd'
  have hquote : ¬(c == '"' || c == '\'') = true := by
    simp [hne (d := '"') (by decide) (by decide), hne (d := '\'') (by decide) (by decide)]
  have htrue : word? "true" (c :: s) = none :=
    word?_eq_none s (by simpa using (hne (d := 't') (by decide) (by decide)).symm) (by decide)
  have hfalse : word? "false" (c :: s) = none :=
    word?_eq_none s (by simpa using (hne (d := 'f') (by decide) (by decide)).symm) (by decide)
  rewrite [scalar, if_neg hquote, htrue, hfalse, hdate]
  rfl

theorem scalar_signed (hds : IsWhole ds) (hc : c.isDigit = false) (hdash : c ≠ '-')
    (hcolon : c ≠ ':') :
    scalar (signed negative (ds ++ c :: s)) =
      match numericFloat (signed negative (ds ++ c :: s)) <|>
        specialFloat (signed negative (ds ++ c :: s)) with
      | some (x, r) => some (.float x, r)
      | none => (integer (signed negative (ds ++ c :: s))).map fun (n, r) => (.integer n, r) := by
  have hdate := datetime_signed negative s hds.isDigit hc hdash hcolon
  obtain ⟨d, ds', rfl⟩ := List.exists_cons_of_ne_nil hds.ne_nil
  cases negative with
  | true => exact scalar_of_number _ (.inl rfl) hdate
  | false => exact scalar_of_number _ (.inr (hds.isDigit d List.mem_cons_self)) hdate

end Signed

/-! ### Integers -/

section Integers

variable {ds : List Char} {c : Char} (negative : Bool) (s : List Char)

theorem numericFloat_whole (hds : IsWhole ds) (hc : isValueEnd c = true) :
    numericFloat (signed negative (ds ++ c :: s)) = none := by
  have hdigits := decimalDigits_append hds (eq_of_isValueEnd hc (by decide))
    (ne_of_isValueEnd hc (by decide)) s
  have hfraction : fractionDigits (c :: s) = none := by
    rw [fractionDigits]
    rintro s h
    exact ne_of_isValueEnd hc (by decide) (List.cons.inj h).1
  have hexponent : exponentPart (c :: s) = none := by
    rw [exponentPart, if_neg]
    simp [ne_of_isValueEnd hc (d := 'e') (by decide), ne_of_isValueEnd hc (d := 'E') (by decide)]
  rw [numericFloat, sign_signed_append negative _ hds]
  simp [hdigits, hfraction, hexponent]

theorem specialFloat_whole (hds : IsWhole ds) :
    specialFloat (signed negative (ds ++ s)) = none := by
  have hsign := sign_signed_append negative s hds
  obtain ⟨d, ds', rfl⟩ := List.exists_cons_of_ne_nil hds.ne_nil
  have hd := hds.isDigit d List.mem_cons_self
  have hne {e : Char} (he : e.isDigit = false) : d ≠ e := by
    rintro rfl
    exact absurd hd (by simp [he])
  rw [specialFloat, hsign]
  split
  · rename_i h
    exact absurd (List.cons.inj (Prod.mk.inj h).2).1 (hne (by decide))
  · rename_i h
    exact absurd (List.cons.inj (Prod.mk.inj h).2).1 (hne (by decide))
  · rfl

/-- A decimal number does not begin with the mark of another base. -/
theorem signed_ne_based (hds : IsWhole ds) (hc : isValueEnd c = true) {mark : Char}
    (hmark : isValueEnd mark = false) (t : List Char) :
    signed negative (ds ++ c :: s) ≠ '0' :: mark :: t := by
  intro h
  cases negative with
  | true => exact absurd (List.cons.inj h).1 (by decide)
  | false =>
    change ds ++ c :: s = '0' :: mark :: t at h
    rcases hds with rfl | ⟨hne, hhead, -⟩
    · exact ne_of_isValueEnd hc hmark (List.cons.inj (List.cons.inj h).2).1
    · obtain ⟨d, ds', rfl⟩ := List.exists_cons_of_ne_nil hne
      exact hhead (congrArg some (List.cons.inj h).1)

theorem integer_whole (hds : IsWhole ds) (hc : isValueEnd c = true) :
    integer (signed negative (ds ++ c :: s)) =
      (inRange (if negative then -(digitsValue 10 ds : ℤ) else digitsValue 10 ds)).map
        fun n => (n, c :: s) := by
  have hdigits := decimalDigits_append hds (eq_of_isValueEnd hc (by decide))
    (ne_of_isValueEnd hc (by decide)) s
  rw [integer, sign_signed_append negative _ hds]
  · simp only [hdigits, Option.bind_eq_bind, Option.bind_some]
    exact Option.map_eq_bind.symm
  · exact signed_ne_based negative s hds hc (by decide)
  · exact signed_ne_based negative s hds hc (by decide)
  · exact signed_ne_based negative s hds hc (by decide)

end Integers

theorem toList_integerText (n : ℤ) :
    (integerText n).toList = signed (decide (n < 0)) (Nat.toDigits 10 n.natAbs) := by
  cases n with
  | ofNat n =>
    rw [show decide (Int.ofNat n < 0) = false by simp]
    exact String.toList_ofList
  | negSucc n =>
    rw [show decide (Int.negSucc n < 0) = true by simp [Int.negSucc_lt_zero]]
    exact String.toList_ofList

/-- An integer of 64 bits is read as it was written, and no other is. -/
theorem scalar_integerText (n : ℤ) {c : Char} (hc : isValueEnd c = true) (s : List Char) :
    scalar ((integerText n).toList ++ c :: s) =
      (inRange n).map fun n => (.integer n, c :: s) := by
  have hwhole := isWhole_toDigits n.natAbs
  have hn : (if decide (n < 0) = true then -(n.natAbs : ℤ) else n.natAbs) = n := by
    simp only [decide_eq_true_eq]
    split <;> omega
  have happend : (integerText n).toList ++ c :: s =
      signed (decide (n < 0)) (Nat.toDigits 10 n.natAbs ++ c :: s) := by
    rw [toList_integerText]
    cases decide (n < 0) <;> rfl
  rw [happend, scalar_signed _ _ hwhole (eq_of_isValueEnd hc (by decide))
    (ne_of_isValueEnd hc (by decide)) (ne_of_isValueEnd hc (by decide)),
    numericFloat_whole _ _ hwhole hc, specialFloat_whole _ _ hwhole, integer_whole _ _ hwhole hc,
    digitsValue_toDigits, hn]
  cases inRange n <;> rfl

/-! ### Floating-point numbers -/

/-- A decimal with a point. -/
def pointed (d : Decimal) : List Char :=
  if d.positional.contains '.' then d.positional else d.positional ++ ['.', '0']

/-- A text of digits with a point, and the decimal that it denotes. -/
structure IsPointed (text whole fraction : List Char) (d : Decimal) : Prop where
  text_eq : text = whole ++ '.' :: fraction
  isWhole : IsWhole whole
  fraction_ne : fraction ≠ []
  fraction_digits : ∀ c ∈ fraction, c.isDigit = true
  value : (digitsValue 10 (whole ++ fraction) : ℚ) * 10 ^ (-(fraction.length : ℤ)) =
    d.digits * 10 ^ d.exponent

theorem isPointed_of_integral {ds : List Char} (hds : IsWhole ds) {d : Decimal}
    (hpositional : d.positional = ds)
    (hvalue : (digitsValue 10 ds : ℚ) = d.digits * 10 ^ d.exponent) :
    IsPointed (pointed d) ds ['0'] d where
  text_eq := by
    rw [pointed, hpositional, if_neg]
    rw [List.contains_iff_mem]
    exact fun h => absurd (hds.isDigit _ h) (by decide)
  isWhole := hds
  fraction_ne := by decide
  fraction_digits := List.forall_mem_singleton.2 rfl
  value := by
    have happend : digitsValue 10 (ds ++ ['0']) = digitsValue 10 ds * 10 ^ 1 :=
      digitsValue_append_zeros ds 1
    rw [happend, ← hvalue]
    push_cast
    rw [mul_assoc]
    norm_num

theorem isPointed_of_fraction {whole fraction : List Char} (hwhole : IsWhole whole)
    (hne : fraction ≠ []) (hdigits : ∀ c ∈ fraction, c.isDigit = true) {d : Decimal}
    (hpositional : d.positional = whole ++ '.' :: fraction)
    (hvalue : digitsValue 10 (whole ++ fraction) = d.digits)
    (hexponent : -(fraction.length : ℤ) = d.exponent) :
    IsPointed (pointed d) whole fraction d where
  text_eq := by
    rw [pointed, hpositional, if_pos]
    rw [List.contains_iff_mem]
    exact List.mem_append_right _ List.mem_cons_self
  isWhole := hwhole
  fraction_ne := hne
  fraction_digits := hdigits
  value := by rw [hvalue, hexponent]

theorem exists_isPointed (d : Decimal) :
    ∃ whole fraction, IsPointed (pointed d) whole fraction d := by
  have hwhole := isWhole_toDigits d.digits
  have hvalue := digitsValue_toDigits d.digits
  have hpositional := Decimal.positional.eq_1 d
  rw [digitsOf] at hpositional
  split at hpositional
  · rename_i hexponent
    obtain ⟨n, hn⟩ := Int.eq_ofNat_of_zero_le hexponent
    split at hpositional
    · rename_i hzero
      exact ⟨_, _, isPointed_of_integral (.inl rfl) hpositional (by simp [hzero]; rfl)⟩
    · rename_i hdigits
      refine ⟨_, _, isPointed_of_integral (isWhole_append_zeros hdigits _) hpositional ?_⟩
      rw [digitsValue_append_zeros, hvalue, hn, Int.toNat_natCast, zpow_natCast]
      push_cast
      rfl
  · rename_i hexponent
    obtain ⟨n, hn⟩ := Int.eq_ofNat_of_zero_le (show 0 ≤ -d.exponent by omega)
    rw [hn, Int.toNat_natCast] at hpositional
    dsimp only at hpositional
    generalize Nat.toDigits 10 d.digits = ds at hpositional hwhole hvalue
    have hlen : 0 < ds.length := List.length_pos_iff.2 hwhole.ne_nil
    split at hpositional
    · -- the point stands among the digits
      have hfraction : (ds.drop (ds.length - n)).length = n := by
        rw [List.length_drop]
        omega
      refine ⟨_, _, isPointed_of_fraction (hwhole.take (by omega) (by omega)) ?_
        (fun c hc => hwhole.isDigit c (List.mem_of_mem_drop hc)) hpositional ?_ ?_⟩
      · rw [← List.length_pos_iff]
        omega
      · rw [List.take_append_drop, hvalue]
      · omega
    · -- the point stands in front of them, and zeros fill up
      refine ⟨['0'], List.replicate (n - ds.length) '0' ++ ds,
        isPointed_of_fraction (.inl rfl) (by simp [hwhole.ne_nil]) (fun c hc => ?_)
          hpositional ?_ ?_⟩
      · exact (List.mem_append.1 hc).elim isDigit_of_mem_zeros (hwhole.isDigit c)
      · exact (digitsValue_zeros_append ds (n - ds.length + 1)).trans hvalue
      · rw [List.length_append, List.length_replicate]
        omega

theorem numericFloat_pointed {whole fraction : List Char} (hwhole : IsWhole whole)
    (hne : fraction ≠ []) (hdigits : ∀ c ∈ fraction, c.isDigit = true) (negative : Bool) {c : Char}
    (hc : isValueEnd c = true) (s : List Char) {x : Binary64} (hx : x.isInfinite = false)
    (hread : Binary64.ofDecimal negative (digitsValue 10 (whole ++ fraction))
      (-(fraction.length : ℤ)) = x) :
    numericFloat (signed negative (whole ++ '.' :: (fraction ++ c :: s))) = some (x, c :: s) := by
  have hwholeDigits := decimalDigits_append hwhole (c := '.') (by decide) (by decide)
    (fraction ++ c :: s)
  have hfraction : fractionDigits ('.' :: (fraction ++ c :: s)) = some (fraction, c :: s) :=
    digits_append hdigits hne (eq_of_isValueEnd hc (by decide)) (ne_of_isValueEnd hc (by decide)) s
  have hexponent : exponentPart (c :: s) = none := by
    rw [exponentPart, if_neg]
    simp [ne_of_isValueEnd hc (d := 'e') (by decide), ne_of_isValueEnd hc (d := 'E') (by decide)]
  rw [numericFloat, sign_signed_append negative _ hwhole]
  simp [hwholeDigits, hfraction, hexponent, hread, hx]

theorem isNaN_eq_false {x : Binary64} (hx : x.isFinite = true) : x.isNaN = false := by
  rw [Binary64.isFinite, bne_iff_ne] at hx
  simp [Binary64.isNaN, hx]

theorem isInfinite_eq_false {x : Binary64} (hx : x.isFinite = true) : x.isInfinite = false := by
  rw [Binary64.isFinite, bne_iff_ne] at hx
  simp [Binary64.isInfinite, hx]

/-- A finite number is written with a sign and a point. -/
theorem toList_pointedText {x : Binary64} (hx : x.isFinite = true) :
    x.pointedText.toList = signed x.isNegative (pointed (Decimal.shortest .upward x)) := by
  have hnan : ¬x.isNaN = true := by simp [isNaN_eq_false hx]
  have htext : x.positionalText.toList =
      signed x.isNegative (Decimal.shortest .upward x).positional := by
    rw [Binary64.positionalText, if_neg hnan, if_pos hx, String.toList_ofList, Binary64.signText,
      signed]
    cases x.isNegative <;> rfl
  have hpoint : x.positionalText.toList.contains '.' =
      (Decimal.shortest .upward x).positional.contains '.' := by
    rw [htext, signed]
    cases x.isNegative <;> simp
  rw [Binary64.pointedText, hx, hpoint, pointed]
  cases (Decimal.shortest .upward x).positional.contains '.' <;>
    cases hneg : x.isNegative <;> simp [htext, hneg, signed]

theorem floatText_eq {x : Binary64} (hx : x.isFinite = true) :
    floatText x = signed x.isNegative (pointed (Decimal.shortest .upward x)) := by
  rw [floatText, if_neg (by simp [isNaN_eq_false hx]), toList_pointedText hx]

/-- A finite number is read from any text with a point that denotes its shortest decimal. -/
theorem ofDecimal_of_isPointed {x : Binary64} (hx : x.isFinite = true)
    {text whole fraction : List Char}
    (h : IsPointed text whole fraction (Decimal.shortest .upward x)) :
    Binary64.ofDecimal x.isNegative (digitsValue 10 (whole ++ fraction))
      (-(fraction.length : ℤ)) = x := by
  by_cases hx0 : x.mantissa = 0
  · have hzero : x.exponentField = 0 ∧ x.fraction = 0 := by
      rw [Binary64.mantissa] at hx0
      split at hx0
      · rename_i hfield
        exact ⟨hfield, hx0⟩
      · simp at hx0
    have hshortest : Decimal.shortest .upward x = ⟨0, 0⟩ := by
      rw [Decimal.shortest, if_pos]
      simp [Binary64.isZero, hzero]
    have hvalue := h.value
    rw [hshortest, Nat.cast_zero, zero_mul, mul_eq_zero, Nat.cast_eq_zero,
      or_iff_left (by positivity)] at hvalue
    have hself := Binary64.ofMagnitude_mantissa hx
    rw [hx0, Binary64.exponent, if_pos hzero.1] at hself
    rw [hvalue, Binary64.ofDecimal]
    exact hself
  · refine Binary64.ofDecimal_eq hx hx0 ?_
    rw [h.value]
    exact Decimal.nearest_shortest hx hx0 .upward

/-- A finite number is read as it was written. -/
theorem scalar_floatText {x : Binary64} (hx : x.isFinite = true) {c : Char}
    (hc : isValueEnd c = true) (s : List Char) :
    scalar (floatText x ++ c :: s) = some (.float x, c :: s) := by
  obtain ⟨whole, fraction, h⟩ := exists_isPointed (Decimal.shortest .upward x)
  have happend : floatText x ++ c :: s =
      signed x.isNegative (whole ++ '.' :: (fraction ++ c :: s)) := by
    rw [floatText_eq hx, h.text_eq]
    cases x.isNegative <;> simp [signed]
  rw [happend, scalar_signed _ _ h.isWhole (by decide) (by decide) (by decide),
    numericFloat_pointed h.isWhole h.fraction_ne h.fraction_digits _ hc s
      (isInfinite_eq_false hx) (ofDecimal_of_isPointed hx h)]
  rfl

end Dashboard.Toml
