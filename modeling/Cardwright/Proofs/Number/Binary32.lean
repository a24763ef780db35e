import Cardwright.Number.Binary32
import Mathlib.Tactic.Ring

/-!
# Exact binary32 numbers

A finite number is the nearest one to its own value (`nearest_of_value`), so a finite number is
determined by its sign and its units (`eq_of_value`).

Whole numbers of half seconds, as far as cooldowns go, are exact (`value_ofHalves`), and apart from
the negative zero there is one binary32 number for each of them (`IsHalves.eq`).
-/

namespace Cardwright

/-- A whole quotient is rounded to itself. -/
theorem roundHalfEven_mul (q : Nat) {den : Nat} (h : 0 < den) :
    roundHalfEven (q * den) den = q := by
  have hrest : q * den % den = 0 := Nat.mul_mod_left q den
  have hquotient : q * den / den = q := Nat.mul_div_cancel q h
  simp only [roundHalfEven, hrest, hquotient]
  rw [if_pos (by omega)]

namespace Binary32

variable {x y : Binary32} {negative : Bool} {units : Nat}

/-! ### Fields -/

theorem unitsPerOne_pos : 0 < unitsPerOne := by decide

/-- The bits are the sign, the exponent and the fraction, one above the other. -/
theorem bits_eq (x : Binary32) : x.bits.toNat =
    (x.bits.toNat / exponentBit % 256) * exponentBit + x.bits.toNat % exponentBit +
      if x.isNegative then signBit else 0 := by
  have hsign : signBit = 2147483648 := by decide
  have hexponent : exponentBit = 8388608 := by decide
  have hbits : x.bits.toNat < 4294967296 := x.bits.toNat_lt
  simp only [isNegative, hsign, hexponent, decide_eq_true_eq]
  split <;> omega

/-- A finite number has a significand of at most 24 bits, normal unless the exponent is the least
one, and the magnitude of its bits is put together from the two. -/
theorem exists_significand (h : x.value = .finite negative units) :
    ∃ significand scale, units = significand * 2 ^ scale ∧ significand < 2 * exponentBit ∧
      (scale = 0 ∨ exponentBit ≤ significand) ∧ scale * exponentBit + significand < infinityBits ∧
      x = ofMagnitude negative (scale * exponentBit + significand) := by
  have hinfinity : infinityBits = 255 * exponentBit := rfl
  have hfraction : x.bits.toNat % exponentBit < exponentBit := Nat.mod_lt _ (by decide)
  have hmagnitude : ∀ m, x.bits.toNat = m + (if x.isNegative then signBit else 0) →
      x = ofMagnitude x.isNegative m := by
    intro m hm
    rw [ofMagnitude, ← hm, UInt32.ofNat_toNat]
  have hbits := x.bits_eq
  have hexponent : x.bits.toNat / exponentBit % 256 < 256 := Nat.mod_lt _ (by decide)
  rw [value] at h
  generalize x.bits.toNat / exponentBit % 256 = exponent at *
  generalize x.bits.toNat % exponentBit = fraction at *
  split at h
  · split at h <;> cases h
  · split at h
    · next _ hzero =>
      obtain ⟨rfl, rfl⟩ := Value.finite.inj h
      refine ⟨fraction, 0, by simp, by omega, .inl rfl, by omega, hmagnitude _ ?_⟩
      rw [hbits, hzero]
    · next hnot hzero =>
      obtain ⟨rfl, rfl⟩ := Value.finite.inj h
      obtain ⟨scale, rfl⟩ : ∃ scale, exponent = scale + 1 := ⟨exponent - 1, by omega⟩
      refine ⟨exponentBit + fraction, scale, ?_, by omega, .inr (by omega), ?_, hmagnitude _ ?_⟩
      · rw [Nat.add_sub_cancel, Nat.shiftLeft_eq]
      · rw [hinfinity]
        have hscale : (scale + 2) * exponentBit ≤ 255 * exponentBit :=
          Nat.mul_le_mul_right _ (by omega)
        rw [Nat.add_mul] at hscale
        omega
      · rw [hbits, Nat.add_mul, Nat.one_mul, Nat.add_assoc (scale * exponentBit)]

/-! ### Exact values -/

/-- **A finite number is the nearest one to its own value.** -/
theorem nearest_of_value (h : x.value = .finite negative units) :
    nearest negative units unitsPerOne = x := by
  obtain ⟨significand, scale, hunits, hlarge, hnormal, hfinite, hx⟩ := exists_significand h
  -- The highest of the 24 bits of the significand says how far it is shifted.
  have hscale : units.log2 - 23 = scale := by
    have hexponent : exponentBit = 2 ^ 23 := by decide
    rcases Nat.eq_zero_or_pos units with hzero | hpos
    · rcases hnormal with rfl | hnormal
      · simp [hzero]
      · have hpositive : 0 < significand * 2 ^ scale :=
          Nat.mul_pos (by omega) (Nat.two_pow_pos scale)
        omega
    · have hupper : units < 2 ^ (24 + scale) := by
        rw [hunits, Nat.pow_add]
        exact Nat.mul_lt_mul_of_pos_right (by omega) (Nat.two_pow_pos scale)
      have hlog : units.log2 < 24 + scale := (Nat.log2_lt (by omega)).2 hupper
      rcases hnormal with rfl | hnormal
      · omega
      · have hlower : 2 ^ (23 + scale) ≤ units := by
          rw [hunits, Nat.pow_add]
          exact Nat.mul_le_mul_right _ (by omega)
        have hlog' : 23 + scale ≤ units.log2 := (Nat.le_log2 (by omega)).2 hlower
        omega
  have hsignificand :
      roundHalfEven (units * unitsPerOne) (unitsPerOne <<< scale) = significand := by
    have hproduct : units * unitsPerOne = significand * (unitsPerOne <<< scale) := by
      rw [hunits, Nat.shiftLeft_eq]
      ring
    rw [hproduct]
    refine roundHalfEven_mul significand ?_
    rw [Nat.shiftLeft_eq]
    exact Nat.mul_pos unitsPerOne_pos (Nat.two_pow_pos scale)
  rw [nearest, Nat.mul_div_cancel units unitsPerOne_pos]
  simp only [hscale, hsignificand]
  rw [Nat.min_eq_left (by omega), ← hx]

/-- Sign and units determine a finite number. -/
theorem eq_of_value (hx : x.value = .finite negative units)
    (hy : y.value = .finite negative units) : x = y :=
  (nearest_of_value hx).symm.trans (nearest_of_value hy)

/-! ### Half seconds -/

/-- The number of units in one half. -/
def unitsPerHalf : Nat := unitsPerOne / 2

/-- A whole number of half seconds. A zero may have either sign. -/
def IsHalves (x : Binary32) (halves : Nat) : Prop :=
  ∃ negative, x.value = .finite negative (halves * unitsPerHalf) ∧ (negative = true → halves = 0)

/-- Half seconds up to a quarter of a minute are exact. -/
theorem value_ofHalves {halves : Nat} (h : halves ≤ 30) :
    (ofHalves halves).value = .finite false (halves * unitsPerHalf) := by
  have hall : ∀ n ≤ 30, (ofHalves n).value = .finite false (n * unitsPerHalf) := by decide +kernel
  exact hall halves h

theorem isHalves_ofHalves {halves : Nat} (h : halves ≤ 30) : (ofHalves halves).IsHalves halves :=
  ⟨false, value_ofHalves h, nofun⟩

/-- Whole numbers of half seconds are in the order of their counts. -/
theorem IsHalves.lt_eq {m n : Nat} (hx : x.IsHalves m) (hy : y.IsHalves n) :
    x.lt y = decide (m < n) := by
  obtain ⟨a, hxvalue, ha⟩ := hx
  obtain ⟨b, hyvalue, hb⟩ := hy
  have hpositive : 0 < unitsPerHalf := by decide
  -- A sign does nothing, as a number with a minus is zero.
  have hsign : ∀ {negative : Bool} {halves : Nat}, (negative = true → halves = 0) →
      (if negative then -((halves * unitsPerHalf : Nat) : Int) else (halves * unitsPerHalf : Nat)) =
        ((halves * unitsPerHalf : Nat) : Int) := by
    intro negative halves hzero
    cases negative with
    | false => rfl
    | true => simp [hzero rfl]
  simp only [lt, hxvalue, hyvalue, decide_eq_decide]
  rw [hsign ha, hsign hb]
  exact Int.ofNat_lt.trans (Nat.mul_lt_mul_right hpositive)

/-- A whole number of half seconds is the one that is made of them, or the negative zero. -/
theorem IsHalves.eq {halves : Nat} (hx : x.IsHalves halves) (h : halves ≤ 30) :
    x = ofHalves halves ∨ x = ofMagnitude true 0 := by
  obtain ⟨negative, hvalue, hzero⟩ := hx
  cases negative with
  | false => exact .inl (eq_of_value hvalue (value_ofHalves h))
  | true =>
    rw [hzero rfl, Nat.zero_mul] at hvalue
    exact .inr (eq_of_value hvalue (by decide))

end Binary32

end Cardwright
