import Cardwright.Number.Decimal
import Cardwright.Proofs.Number.Binary32
import Mathlib.Data.Nat.Digits.Defs

/-!
# Numerals are read back

The digits of a number in a base up to sixteen stand for that number
(`Decimal.natOfDigits?_toDigits`), decimal digits for their value and nothing else for a number
(`Decimal.natOfDigits?_eq_some_iff`), and digits with a point between them are a decimal numeral
(`Decimal.exists_ofText?_point`).

The text of a cooldown has one decimal (`Binary32.text_ofHalves`), and every whole number of half
seconds is written as a numeral that reads back as the same bits, the sign of a zero included
(`Binary32.IsHalves.readsBack`).
-/

namespace Cardwright

/-! ### Digits -/

namespace Text

theorem toNat_of_isDigit {c : Char} (h : c.isDigit = true) : 48 ≤ c.toNat ∧ c.toNat ≤ 57 := by
  simpa [Char.isDigit, UInt32.le_iff_toNat_le] using h

/-- A nonempty text of decimal digits. -/
def IsDigits (t : Text) : Prop := t ≠ [] ∧ ∀ c ∈ t, c.isDigit = true

theorem isDigits_decimal (n : Nat) : IsDigits (decimal n) :=
  ⟨Nat.toDigits_ne_nil, fun _ => Nat.isDigit_of_mem_toDigits (by decide) (by decide)⟩

theorem IsDigits.exists_cons {t : Text} (h : IsDigits t) :
    ∃ c u, t = c :: u ∧ c.isDigit = true ∧ ∀ d ∈ u, d.isDigit = true := by
  obtain ⟨hne, hdigits⟩ := h
  obtain ⟨c, u, rfl⟩ := List.exists_cons_of_ne_nil hne
  exact ⟨c, u, rfl, List.forall_mem_cons.1 hdigits⟩

/-- A text that does not go on with a character of a class. -/
def Stops (p : Char → Bool) (t : Text) : Prop := ∀ c ∈ t.head?, p c = false

/-- A run of characters that ends is found. -/
theorem takeWhile_append_stops {p : Char → Bool} {t rest : Text} (ht : ∀ c ∈ t, p c = true)
    (hrest : Stops p rest) : (t ++ rest).takeWhile p = t ∧ (t ++ rest).dropWhile p = rest := by
  rw [List.takeWhile_append_of_pos ht, List.dropWhile_append_of_pos ht]
  cases rest with
  | nil => simp
  | cons c rest => simp [hrest c rfl]

end Text

open Text (IsDigits)

namespace Decimal

theorem digit?_digitChar {base d : Nat} (hbase : base ≤ 16) (h : d < base) :
    digit? base d.digitChar = some d := by
  have hall : ∀ base ≤ 16, ∀ d < base, digit? base d.digitChar = some d := by decide +kernel
  exact hall base hbase d h

theorem natOfDigits?_of_ne_nil {base : Nat} {cs : Text} (h : cs ≠ []) :
    natOfDigits? base cs = cs.foldlM (fun n c => (digit? base c).map (base * n + ·)) 0 := by
  cases cs with
  | nil => exact absurd rfl h
  | cons c cs => rfl

/-- **The digits of a number stand for it.** -/
theorem natOfDigits?_toDigits {base : Nat} (hlow : 1 < base) (hhigh : base ≤ 16) (n : Nat) :
    natOfDigits? base (Nat.toDigits base n) = some n := by
  rw [natOfDigits?_of_ne_nil Nat.toDigits_ne_nil]
  induction n using Nat.strongRecOn with
  | ind n ih =>
    rw [Nat.toDigits_eq_if hlow]
    split
    · next hsmall => simp [digit?_digitChar hhigh hsmall]
    · next hlarge =>
      have hquotient : n / base < n := Nat.div_lt_self (by omega) hlow
      have hrest : n % base < base := Nat.mod_lt n (by omega)
      rw [List.foldlM_append, ih _ hquotient]
      simp [digit?_digitChar hhigh hrest, Nat.div_add_mod]

theorem natOfDigits?_decimal (n : Nat) : natOfDigits? 10 (Text.decimal n) = some n :=
  natOfDigits?_toDigits (by decide) (by decide) n

/-- The value of decimal digits, the last one of which counts ones. -/
def digitsValue (ds : Text) : Nat := Nat.ofDigits 10 (ds.reverse.map fun d => d.toNat - '0'.toNat)

theorem digitsValue_cons (d : Char) (ds : Text) :
    digitsValue (d :: ds) = (d.toNat - '0'.toNat) * 10 ^ ds.length + digitsValue ds := by
  rw [digitsValue, List.reverse_cons, List.map_append, Nat.ofDigits_append, List.length_map,
    List.length_reverse, List.map_singleton, Nat.ofDigits_singleton, Nat.add_comm, Nat.mul_comm]
  rfl

theorem digit?_ten_eq_some_iff {c : Char} {d : Nat} :
    digit? 10 c = some d ↔ c.isDigit = true ∧ d = c.toNat - '0'.toNat := by
  by_cases hc : c.isDigit = true
  · have hrange := Text.toNat_of_isDigit hc
    have hsmall : c.toNat - 48 < 10 := by omega
    have hdigit : digit? 10 c = some (c.toNat - 48) := by simp [digit?, hc, hsmall]
    rw [hdigit, Option.some.injEq]
    exact ⟨fun h => ⟨hc, h.symm⟩, fun h => h.2.symm⟩
  · -- Letters are digits from ten on, which is out of the base.
    have hnone : digit? 10 c = none := by
      simp only [digit?, hc, Bool.false_eq_true, if_false]
      split_ifs <;> simp
    simp [hnone, hc]

/-- By induction on the digits, whatever the digits before them stand for. -/
theorem foldlM_digit?_eq_some_iff {t : Text} {start n : Nat} :
    t.foldlM (fun n c => (digit? 10 c).map (10 * n + ·)) start = some n ↔
      (∀ c ∈ t, c.isDigit = true) ∧ n = start * 10 ^ t.length + digitsValue t := by
  induction t generalizing start with
  | nil =>
    have hnil : digitsValue [] = 0 := rfl
    simp only [List.foldlM_nil, List.not_mem_nil, false_imp_iff, implies_true, true_and, hnil,
      List.length_nil, Nat.pow_zero, Nat.mul_one, Nat.add_zero]
    exact Option.some_inj.trans eq_comm
  | cons c t ih =>
    have hvalue : ∀ d, (10 * start + d) * 10 ^ t.length =
        start * 10 ^ (c :: t).length + d * 10 ^ t.length := by
      intro d
      rw [List.length_cons, Nat.pow_succ]
      ring
    simp only [List.foldlM_cons, Option.bind_eq_bind, Option.bind_eq_some_iff,
      Option.map_eq_some_iff, digit?_ten_eq_some_iff, ih, List.forall_mem_cons, digitsValue_cons]
    constructor
    · rintro ⟨_, ⟨d, ⟨hc, rfl⟩, rfl⟩, ht, rfl⟩
      exact ⟨⟨hc, ht⟩, by rw [hvalue, Nat.add_assoc]⟩
    · rintro ⟨⟨hc, ht⟩, rfl⟩
      exact ⟨_, ⟨_, ⟨hc, rfl⟩, rfl⟩, ht, by rw [hvalue, Nat.add_assoc]⟩

/-- **Digits stand for their value**, and nothing else stands for a number. -/
theorem natOfDigits?_eq_some_iff {t : Text} {n : Nat} :
    natOfDigits? 10 t = some n ↔ IsDigits t ∧ n = digitsValue t := by
  by_cases hne : t = []
  · simp [hne, natOfDigits?, IsDigits]
  · rw [natOfDigits?_of_ne_nil hne, foldlM_digit?_eq_some_iff, Nat.zero_mul, Nat.zero_add, IsDigits]
    exact and_congr_left' (by simp [hne])

/-- Any digits stand for some number. -/
theorem exists_natOfDigits? {t : Text} (h : IsDigits t) : ∃ n, natOfDigits? 10 t = some n :=
  ⟨_, natOfDigits?_eq_some_iff.2 ⟨h, rfl⟩⟩

/-! ### Numerals with a point -/

/-- A sign in front of a digit is read as one. -/
theorem sign_signed {t : Text} (h : IsDigits t) (negative : Bool) (u : Text) :
    sign (Binary32.signed negative (t ++ u)) = (negative, t ++ u) := by
  obtain ⟨c, t, rfl, hc, -⟩ := h.exists_cons
  cases negative with
  | true => rfl
  | false =>
    show sign (c :: (t ++ u)) = (false, c :: (t ++ u))
    unfold sign
    split
    · next heq =>
      cases heq
      exact absurd hc (by decide)
    · next heq =>
      cases heq
      exact absurd hc (by decide)
    · rfl

theorem exists_ofText?_point {whole places : Text} (hwhole : IsDigits whole)
    (hplaces : IsDigits places) (negative : Bool) :
    ∃ d, ofText? (Binary32.signed negative (whole ++ '.' :: places)) = some d := by
  obtain ⟨n, hn⟩ := exists_natOfDigits? (t := whole ++ places)
    ⟨List.append_ne_nil_of_left_ne_nil hwhole.1 _, by
      simpa [or_imp, forall_and] using ⟨hwhole.2, hplaces.2⟩⟩
  have hpoint : Text.Stops Char.isDigit ('.' :: places) := by simp [Text.Stops]
  have hend : Text.Stops Char.isDigit [] := by simp [Text.Stops]
  obtain ⟨htake, hdrop⟩ := Text.takeWhile_append_stops hwhole.2 hpoint
  obtain ⟨htake', hdrop'⟩ := Text.takeWhile_append_stops hplaces.2 hend
  rw [List.append_nil] at htake' hdrop'
  refine ⟨⟨negative, n, 0 - places.length⟩, ?_⟩
  simp only [ofText?, sign_signed hwhole, htake, hdrop, htake', hdrop', hn, power?]
  rfl

end Decimal

/-! ### Half seconds -/

namespace Binary32

/-- The digit behind the point of a number of half seconds. -/
def halfDigit (halves : Nat) : Char := if halves % 2 = 0 then '0' else '5'

/-- Half seconds are written with one decimal. -/
theorem text_ofHalves {halves : Nat} (h : halves ≤ 30) :
    (ofHalves halves).text = Text.decimal (halves / 2) ++ ['.', halfDigit halves] := by
  have hall : ∀ n ≤ 30,
      (ofHalves n).text = Text.decimal (n / 2) ++ ['.', halfDigit n] := by decide +kernel
  exact hall halves h

/-- Half seconds have no more than one decimal, so nothing is rounded. -/
theorem tenths_ofHalves {halves : Nat} (h : halves ≤ 30) :
    (ofHalves halves).tenths = Text.decimal (halves / 2) ++ ['.', halfDigit halves] := by
  have hall : ∀ n ≤ 30,
      (ofHalves n).tenths = Text.decimal (n / 2) ++ ['.', halfDigit n] := by decide +kernel
  exact hall halves h

/-- A numeral with one decimal is read as half seconds. -/
theorem ofText?_halves {halves : Nat} (h : halves ≤ 30) :
    ofText? (Text.decimal (halves / 2) ++ ['.', halfDigit halves]) = some (ofHalves halves) := by
  have hall : ∀ n ≤ 30,
      ofText? (Text.decimal (n / 2) ++ ['.', halfDigit n]) = some (ofHalves n) := by decide +kernel
  exact hall halves h

/-- A number that is written as digits with a point, and read back as it was. -/
structure ReadsBack (x : Binary32) : Prop where
  numeral : ∃ negative whole places, IsDigits whole ∧ IsDigits places ∧
    x.text = signed negative (whole ++ '.' :: places)
  ofText? : Binary32.ofText? x.text = some x

/-- **Whole numbers of half seconds are read back**, up to a quarter of a minute. -/
theorem IsHalves.readsBack {x : Binary32} {halves : Nat} (hx : x.IsHalves halves)
    (h : halves ≤ 30) : x.ReadsBack := by
  rcases hx.eq h with rfl | rfl
  · have htext := text_ofHalves h
    refine ⟨⟨false, Text.decimal (halves / 2), [halfDigit halves], Text.isDigits_decimal _, ?_,
      htext⟩, ?_⟩
    · refine ⟨by simp, ?_⟩
      rw [halfDigit]
      split <;> simp
    · rw [htext]
      exact ofText?_halves h
  · refine ⟨⟨true, ['0'], ['0'], ?_, ?_, by decide +kernel⟩, by decide +kernel⟩
    · exact Text.isDigits_decimal 0
    · exact Text.isDigits_decimal 0

end Binary32

end Cardwright
