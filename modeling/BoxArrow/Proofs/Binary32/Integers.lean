import BoxArrow.Proofs.Binary32.Rounding

/-!
# Integers in binary32

Up to `2 ^ 24` every integer is a binary32 number, and up to `2 ^ 25` every even one is. Sums and
differences of such integers are rounded from the exact result, and an odd integer in between is
rounded to the multiple of four next to it.

## Main definitions

* `IsExact` — integers that are not rounded

## Main results

* `add_ofInt`, `sub_ofInt` — sums and differences are rounded once
* `ofInt_of_odd` — where odd integers are rounded to
-/

namespace BoxArrow.Binary32

open Float.Model Float.Model.UnpackedFloat

/-- An integer that is a binary32 number. Even integers are looked at one digit further. -/
def IsExact (n : Int) : Prop := n.natAbs ≤ 2 ^ 24 ∨ n.natAbs ≤ 2 ^ 25 ∧ 2 ∣ n

/-! ### Digits -/

theorem target_of_mem {q : Nat} {e : Int} (hlow : 2 ^ 23 ≤ q) (hhigh : q < 2 ^ 24)
    (he : -149 ≤ e) : target .binary32 q e = e := by
  have hlog : q.log2 = 23 := (Nat.log2_eq_iff (by omega)).2 ⟨hlow, hhigh⟩
  change max (((q.log2 : Nat) : Int) + 1 + e - 24) (-149) = e
  rw [hlog]
  omega

theorem shiftToTargetExponent_of_target_eq {spec : Format} {m : Nat} {e : Int}
    (h : target spec m e = e) :
    shiftToTargetExponent spec m e .exact = (⟨m, false, false⟩, e) := by
  unfold shiftToTargetExponent
  change shiftToExponent m e .exact (target spec m e) = _
  rw [h, shiftToExponent, Int.sub_self]
  exact Prod.ext rfl (Int.add_zero e)

theorem roundWithAccuracy_of_target_eq {spec : Format} {m : Nat} {e : Int} (sign : Sign)
    (hm : 0 < m) (h : target spec m e = e) :
    roundWithAccuracy spec sign m e .exact = .finite sign m e hm := by
  have hshift := shiftToTargetExponent_of_target_eq h
  unfold roundWithAccuracy
  rw [hshift]
  dsimp only
  have hrounded : (ExtendedMantissa.mk m false false).roundedMantissa = m := rfl
  rw [hrounded, hshift]
  dsimp only
  rw [dif_neg hm.ne']

/-- A number that has the exponent it would be rounded to is left as it is. -/
theorem round_of_target_eq {spec : Format} {m : Nat} {e : Int} (sign : Sign) (hm : 0 < m)
    (h : target spec m e = e) : round spec sign m e = .finite sign m e hm := by
  have hround : roundWithAccuracy spec sign (m <<< 0) (e - (0 : Nat)) .exact =
      round spec sign m e := roundWithAccuracy_shiftLeft sign hm.ne' 0 (by omega)
  have hexponent : e - ((0 : Nat) : Int) = e := by omega
  rw [← hround, hexponent, Nat.shiftLeft_zero]
  exact roundWithAccuracy_of_target_eq sign hm h

/-- A number with all its digits is left as it is. -/
theorem round_of_mem {q : Nat} {e : Int} (sign : Sign) (hlow : 2 ^ 23 ≤ q) (hhigh : q < 2 ^ 24)
    (he : -149 ≤ e) : round .binary32 sign q e = .finite sign q e (by omega) :=
  round_of_target_eq sign (by omega) (target_of_mem hlow hhigh he)

/-- The digits of an integer that is not rounded. -/
structure Digits (n : Int) where
  mantissa : Nat
  exponent : Int
  low : 2 ^ 23 ≤ mantissa
  high : mantissa < 2 ^ 24
  exponent_ge : -23 ≤ exponent
  exponent_le : exponent ≤ 2
  /-- Mantissa and exponent stand for the absolute value. -/
  value : n.natAbs <<< 23 = mantissa <<< (exponent + 23).toNat

theorem IsExact.nonempty_digits {n : Int} (h : IsExact n) (hn : n ≠ 0) : Nonempty (Digits n) := by
  have hpos : n.natAbs ≠ 0 := Int.natAbs_ne_zero.2 hn
  -- A small integer is moved up to the full number of digits. A large one is even and loses its
  -- last digit, or two of them at the limit.
  by_cases hsmall : n.natAbs < 2 ^ 24
  · obtain ⟨hlow, hhigh⟩ := (Nat.log2_eq_iff hpos).1 rfl
    have hlog : n.natAbs.log2 ≤ 23 := Nat.le_of_lt_succ ((Nat.log2_lt hpos).2 hsmall)
    have hadd : 23 - n.natAbs.log2 + n.natAbs.log2 = 23 := by omega
    refine ⟨⟨n.natAbs <<< (23 - n.natAbs.log2), n.natAbs.log2 - 23, ?_, ?_, by omega, by omega, ?_⟩⟩
    · rw [Nat.shiftLeft_eq]
      calc 2 ^ 23 = 2 ^ n.natAbs.log2 * 2 ^ (23 - n.natAbs.log2) := by
            rw [← Nat.pow_add, Nat.add_comm, hadd]
        _ ≤ _ := Nat.mul_le_mul_right _ hlow
    · rw [Nat.shiftLeft_eq]
      calc _ < 2 ^ (n.natAbs.log2 + 1) * 2 ^ (23 - n.natAbs.log2) :=
            Nat.mul_lt_mul_of_pos_right hhigh (Nat.two_pow_pos _)
        _ = 2 ^ 24 := by
            rw [← Nat.pow_add]
            congr 1
            omega
    · have hexponent : ((n.natAbs.log2 : Int) - 23 + 23).toNat = n.natAbs.log2 := by omega
      rw [hexponent, ← Nat.shiftLeft_add, hadd]
  · have heven : n.natAbs % 2 = 0 ∧ n.natAbs ≤ 2 ^ 25 := by
      rcases h with h | ⟨h, hdvd⟩ <;> omega
    by_cases hlast : n.natAbs = 2 ^ 25
    · refine ⟨⟨2 ^ 23, 2, by decide, by decide, by decide, by decide, ?_⟩⟩
      rw [hlast]
      rfl
    · refine ⟨⟨n.natAbs / 2, 1, by omega, by omega, by decide, by decide, ?_⟩⟩
      have hexponent : ((1 : Int) + 23).toNat = 24 := rfl
      rw [hexponent, Nat.shiftLeft_eq, Nat.shiftLeft_eq]
      omega

namespace Digits

variable {n : Int} (digits : Digits n)

theorem mantissa_pos : 0 < digits.mantissa := Nat.lt_of_lt_of_le (by decide) digits.low

theorem round_natAbs (hn : n ≠ 0) (sign : Sign) :
    round .binary32 sign n.natAbs 0 =
      .finite sign digits.mantissa digits.exponent digits.mantissa_pos := by
  have hexponent : (0 : Int) - (23 : Nat) = digits.exponent - (digits.exponent + 23).toNat := by
    have := digits.exponent_ge
    omega
  rw [← round_shiftLeft sign (Int.natAbs_ne_zero.2 hn) 23, digits.value, hexponent,
    round_shiftLeft sign digits.mantissa_pos.ne']
  exact round_of_mem sign digits.low digits.high (by have := digits.exponent_ge; omega)

/-- An integer that is not rounded consists of its digits. -/
theorem ofInt_eq (hn : n ≠ 0) :
    ofInt .binary32 n =
      .finite (signOf n) digits.mantissa digits.exponent digits.mantissa_pos := by
  rw [UnpackedFloat.ofInt, normalize_of_ne_zero hn, digits.round_natAbs hn]

/-- The digits, at a scale where all integers that are not rounded have whole ones. -/
theorem apply_mul (k : Nat) (hk : (k : Int) ≤ digits.exponent + 23) :
    (signOf n).apply (digits.mantissa <<< ((digits.exponent + 23).toNat - k)) * 2 ^ k =
      n * 2 ^ 23 := by
  have hvalue : digits.mantissa <<< ((digits.exponent + 23).toNat - k) * 2 ^ k =
      n.natAbs * 2 ^ 23 := by
    rw [← Nat.shiftLeft_eq, ← Nat.shiftLeft_add, ← Nat.shiftLeft_eq, digits.value]
    congr 1
    omega
  have hcast : ((digits.mantissa <<< ((digits.exponent + 23).toNat - k) : Nat) : Int) * 2 ^ k =
      n.natAbs * 2 ^ 23 := by
    exact_mod_cast hvalue
  unfold signOf Sign.apply
  split <;> rename_i hsign <;> split at hsign
  · rw [Int.neg_mul, hcast]
    omega
  · cases hsign
  · cases hsign
  · rw [hcast]
    omega

end Digits

/-- Integers that are not rounded are told apart. -/
theorem eq_of_ofInt_eq {a b : Int} (ha : IsExact a) (hb : IsExact b)
    (h : ofInt .binary32 a = ofInt .binary32 b) : a = b := by
  by_cases ha0 : a = 0
  · by_contra hne
    obtain ⟨db⟩ := hb.nonempty_digits (by omega)
    rw [ha0, db.ofInt_eq (by omega)] at h
    cases h
  · obtain ⟨da⟩ := ha.nonempty_digits ha0
    by_cases hb0 : b = 0
    · rw [hb0, da.ofInt_eq ha0] at h
      cases h
    · obtain ⟨db⟩ := hb.nonempty_digits hb0
      rw [da.ofInt_eq ha0, db.ofInt_eq hb0] at h
      obtain ⟨hsign, hmantissa, hexponent⟩ := UnpackedFloat.finite.inj h
      -- Equal digits at one scale are equal absolute values, and the signs are equal too.
      have hvalue : a.natAbs <<< 23 = b.natAbs <<< 23 := by
        rw [da.value, db.value, hmantissa, hexponent]
      rw [Nat.shiftLeft_eq, Nat.shiftLeft_eq] at hvalue
      unfold signOf at hsign
      split at hsign <;> split at hsign <;> first | omega | cases hsign

/-! ### Sums and differences -/

/-- What is done with the digits of two integers, brought to one scale, is done with the
integers. -/
theorem normalize_digits {a b n : Int} (da : Digits a) (db : Digits b) (op : Int → Int → Int)
    (hop : ∀ x y z, op x y * z = op (x * z) (y * z))
    (hn : op (a * 2 ^ 23) (b * 2 ^ 23) = n * 2 ^ 23) (sign : Sign) :
    UnpackedFloat.normalize .binary32
      (op
        ((signOf a).apply (da.mantissa <<< (da.exponent - min da.exponent db.exponent).toNat))
        ((signOf b).apply (db.mantissa <<< (db.exponent - min da.exponent db.exponent).toNat)))
      (min da.exponent db.exponent) sign = UnpackedFloat.normalize .binary32 n 0 sign := by
  have ha := da.exponent_ge
  have hb := db.exponent_ge
  have hscale (e : Int) (he : min da.exponent db.exponent ≤ e) :
      (e - min da.exponent db.exponent).toNat =
        (e + 23).toNat - (min da.exponent db.exponent + 23).toNat := by
    omega
  have hzero : (0 : Int) - (23 : Nat) =
      min da.exponent db.exponent - (min da.exponent db.exponent + 23).toNat := by
    omega
  rw [← normalize_mul_two_pow n 0 23, ← hn, hzero, hscale _ (Int.min_le_left ..),
    hscale _ (Int.min_le_right ..),
    ← normalize_mul_two_pow _ _ (min da.exponent db.exponent + 23).toNat, hop,
    da.apply_mul _ (by omega), db.apply_mul _ (by omega)]

variable {a b : Int}

/-- The sum of two integers that are not rounded is rounded once. -/
theorem add_ofInt (ha : IsExact a) (hb : IsExact b) :
    add .binary32 (ofInt .binary32 a) (ofInt .binary32 b) = ofInt .binary32 (a + b) := by
  by_cases ha0 : a = 0
  · by_cases hb0 : b = 0
    · rw [ha0, hb0]
      rfl
    · obtain ⟨db⟩ := hb.nonempty_digits hb0
      rw [ha0, Int.zero_add, db.ofInt_eq hb0]
      rfl
  · obtain ⟨da⟩ := ha.nonempty_digits ha0
    by_cases hb0 : b = 0
    · rw [hb0, Int.add_zero, da.ofInt_eq ha0]
      rfl
    · obtain ⟨db⟩ := hb.nonempty_digits hb0
      rw [da.ofInt_eq ha0, db.ofInt_eq hb0]
      exact normalize_digits da db (· + ·) Int.add_mul (Int.add_mul ..).symm .positive

theorem neg_signOf (hb : b ≠ 0) : -signOf b = signOf (-b) := by
  unfold signOf
  rcases Int.lt_or_gt_of_ne hb with h | h
  · rw [if_pos h, if_neg (by omega)]
    rfl
  · rw [if_neg (by omega), if_pos (by omega)]
    rfl

theorem neg_round (sign : Sign) (m : Nat) (e : Int) :
    (round .binary32 sign m e).neg = round .binary32 (-sign) m e := by
  rw [Binary32.round_eq, Binary32.round_eq]
  unfold roundWithAccuracy
  exact apply_dite UnpackedFloat.neg _ _ _

theorem ofInt_neg (hb : b ≠ 0) : ofInt .binary32 (-b) = (ofInt .binary32 b).neg := by
  rw [UnpackedFloat.ofInt, UnpackedFloat.ofInt, normalize_of_ne_zero hb,
    normalize_of_ne_zero (Int.neg_ne_zero.2 hb), neg_round, neg_signOf hb, Int.natAbs_neg]

/-- The difference of two integers that are not rounded is rounded once. -/
theorem sub_ofInt (ha : IsExact a) (hb : IsExact b) :
    sub .binary32 (ofInt .binary32 a) (ofInt .binary32 b) = ofInt .binary32 (a - b) := by
  by_cases ha0 : a = 0
  · by_cases hb0 : b = 0
    · rw [ha0, hb0]
      rfl
    · obtain ⟨db⟩ := hb.nonempty_digits hb0
      rw [ha0, Int.zero_sub, ofInt_neg hb0, db.ofInt_eq hb0]
      rfl
  · obtain ⟨da⟩ := ha.nonempty_digits ha0
    by_cases hb0 : b = 0
    · rw [hb0, Int.sub_zero, da.ofInt_eq ha0]
      rfl
    · obtain ⟨db⟩ := hb.nonempty_digits hb0
      rw [da.ofInt_eq ha0, db.ofInt_eq hb0]
      exact normalize_digits da db (· - ·) Int.sub_mul (Int.sub_mul ..).symm .positive

/-! ### Odd integers -/

/-- An odd integer of twenty-five digits lies halfway between two numbers. The one with the even
mantissa is taken. -/
theorem round_of_odd {q : Nat} (sign : Sign) (hlow : 2 ^ 23 ≤ q) (hhigh : q < 2 ^ 24) :
    round .binary32 sign (2 * q + 1) 0 = round .binary32 sign (2 * (q + q % 2)) 0 := by
  have hlog : (2 * q + 1).log2 = 24 := (Nat.log2_eq_iff (by omega)).2 (by omega)
  have htarget : target .binary32 (2 * q + 1) 0 = 1 := by
    change max ((((2 * q + 1).log2 : Nat) : Int) + 1 + 0 - 24) (-149) = 1
    rw [hlog]
    rfl
  have hshift : shiftToTargetExponent .binary32 (2 * q + 1) 0 .exact = (⟨q, true, false⟩, 1) := by
    unfold shiftToTargetExponent
    change shiftToExponent (2 * q + 1) 0 .exact (target .binary32 (2 * q + 1) 0) = _
    rw [htarget]
    refine Prod.ext ?_ rfl
    change ExtendedMantissa.shiftRightOne ⟨2 * q + 1, false, false⟩ = _
    rw [ExtendedMantissa.shiftRightOne]
    simp only [ExtendedMantissa.mk.injEq]
    refine ⟨by omega, ?_, rfl⟩
    simp
  have hdouble : 2 * (q + q % 2) = (q + q % 2) <<< 1 := by
    rw [Nat.shiftLeft_eq]
    omega
  have hzero : (0 : Int) = 1 - (1 : Nat) := rfl
  have hright : round .binary32 sign (2 * (q + q % 2)) 0 = round .binary32 sign (q + q % 2) 1 := by
    rw [hdouble, hzero, round_shiftLeft sign (by omega)]
  rw [hright, Binary32.round_eq, htarget]
  change roundWithAccuracy .binary32 sign (2 * q + 1) 0 .exact = _
  unfold roundWithAccuracy
  rw [hshift]
  have hrounded : (ExtendedMantissa.mk q true false).roundedMantissa = q + q % 2 := rfl
  dsimp only
  rw [hrounded]
  -- Rounding up may need one digit more, which is a zero.
  by_cases hlast : q + q % 2 = 2 ^ 24
  · rw [hlast]
    rfl
  · have hmem : 2 ^ 23 ≤ q + q % 2 ∧ q + q % 2 < 2 ^ 24 := by omega
    rw [shiftToTargetExponent_of_target_eq (target_of_mem hmem.1 hmem.2 (by decide)),
      round_of_mem sign hmem.1 hmem.2 (by decide)]
    dsimp only
    rw [dif_neg (by omega)]

/-- Where an odd integer of twenty-five digits is rounded to. -/
theorem ofInt_of_odd {n : Int} (hodd : n % 2 = 1) (hlow : 2 ^ 24 < n) (hhigh : n < 2 ^ 25) :
    ofInt .binary32 n = ofInt .binary32 (if n % 4 = 1 then n - 1 else n + 1) := by
  obtain ⟨q, rfl⟩ : ∃ q : Nat, n = 2 * q + 1 := ⟨(n / 2).toNat, by omega⟩
  have hnext : (if (2 * (q : Int) + 1) % 4 = 1 then 2 * (q : Int) + 1 - 1 else 2 * q + 1 + 1) =
      (2 * (q + q % 2) : Nat) := by
    split <;> omega
  have hcast : 2 * (q : Int) + 1 = (2 * q + 1 : Nat) := rfl
  rw [hnext, hcast, UnpackedFloat.ofInt, UnpackedFloat.ofInt, normalize_of_ne_zero (by omega),
    normalize_of_ne_zero (by omega)]
  exact round_of_odd .positive (by omega) (by omega)

end BoxArrow.Binary32
