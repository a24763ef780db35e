import Cardwright.Text.Ascii
import Mathlib

/-!
# Equality up to the case of ASCII letters

`EqIgnoringCase` is an equivalence that goes well with appending, and it keeps lengths, in
characters (`EqIgnoringCase.length_eq`) and in bytes (`EqIgnoringCase.byteLength_eq`), since a
letter and its counterpart take one byte each.  A word ends in one text where it ends in the other
(`EqIgnoringCase.atWordEnd_eq`).  Raising the letters picks one text of each class
(`EqIgnoringCase.upperAscii_eq`).
-/

namespace Cardwright.Text

/-! ### Characters -/

/-- A character that is no letter is the lower case of itself only. -/
theorem eq_of_toLower_eq {c d : Char} (hd : d.isAlpha = false) (h : c.toLower = d) : c = d := by
  have hc : c.isAlpha = false := by rw [← Char.isAlpha_toLower_eq_isAlpha, h, hd]
  have hupper : ¬ c.isUpper = true := by
    intro hupper
    rw [Char.isAlpha, hupper, Bool.true_or] at hc
    cases hc
  rw [← h, Char.toLower_eq_of_not_isUpper hupper]

/-- Two characters with one lower case are letters, or the same. -/
theorem eq_or_isAlpha {c d : Char} (h : c.toLower = d.toLower) :
    c = d ∨ c.isAlpha = true ∧ d.isAlpha = true := by
  have halpha : c.isAlpha = d.isAlpha := by
    rw [← Char.isAlpha_toLower_eq_isAlpha c, h, Char.isAlpha_toLower_eq_isAlpha]
  cases hd : d.isAlpha with
  | true => exact Or.inr ⟨by rw [halpha, hd], rfl⟩
  | false =>
    -- No letter is lowered to a character that is none.
    have hsame : d.toLower = d :=
      (eq_of_toLower_eq ((Char.isAlpha_toLower_eq_isAlpha d).trans hd) rfl).symm
    exact Or.inl (eq_of_toLower_eq hd (h.trans hsame))

theorem isWordChar_congr {c d : Char} (h : c.toLower = d.toLower) :
    isWordChar c = isWordChar d := by
  rcases eq_or_isAlpha h with rfl | ⟨hc, hd⟩
  · rfl
  · simp [isWordChar, Char.isAlphanum, hc, hd]

theorem isAlpha_of_isWordChar_eq_false {c : Char} (h : isWordChar c = false) :
    c.isAlpha = false := by
  simp only [isWordChar, Char.isAlphanum, Bool.or_eq_false_iff] at h
  exact h.1.1

theorem utf8Size_toLower (c : Char) : c.toLower.utf8Size = c.utf8Size := by
  by_cases hupper : c.isUpper = true
  · have hbounds : 65 ≤ c.toNat ∧ c.toNat ≤ 90 := by
      simpa [Char.isUpper, UInt32.le_iff_toNat_le] using hupper
    have hlower : c.toLower.toNat = c.toNat + 32 := by
      rw [Char.toLower_eq_of_isUpper hupper, Char.toNat_ofNat, if_pos]
      exact Or.inl (by omega)
    have hone : ∀ d : Char, d.toNat ≤ 127 → d.utf8Size = 1 := fun d hd =>
      Char.utf8Size_eq_one_iff.2 (UInt32.le_iff_toNat_le.2 hd)
    rw [hone c (by omega), hone c.toLower (by omega)]
  · rw [Char.toLower_eq_of_not_isUpper hupper]

theorem isWordChar_of_toLower_eq_s {c : Char} (h : c.toLower = 's') : isWordChar c = true := by
  have hc : c.isAlpha = true := by
    rw [← Char.isAlpha_toLower_eq_isAlpha, h]
    rfl
  simp [isWordChar, Char.isAlphanum, hc]

/-! ### Lengths in bytes -/

theorem byteLength_cons (c : Char) (t : Text) : byteLength (c :: t) = c.utf8Size + byteLength t :=
  rfl

theorem byteLength_append (s t : Text) : byteLength (s ++ t) = byteLength s + byteLength t := by
  induction s with
  | nil => simp [byteLength]
  | cons c s ih => rw [List.cons_append, byteLength_cons, byteLength_cons, ih, Nat.add_assoc]

theorem eq_nil_of_byteLength_eq_zero {t : Text} (h : byteLength t = 0) : t = [] := by
  cases t with
  | nil => rfl
  | cons c t =>
    have hpos : 0 < c.utf8Size := Char.utf8Size_pos c
    rw [byteLength_cons] at h
    omega

/-! ### Texts -/

theorem atWordEnd_iff {t : Text} : atWordEnd t = true ↔ ∀ c ∈ t.head?, isWordChar c = false := by
  cases t with
  | nil => simp [atWordEnd]
  | cons c t => simp [atWordEnd]

namespace EqIgnoringCase

theorem refl (t : Text) : EqIgnoringCase t t := rfl

theorem symm {s t : Text} (h : EqIgnoringCase s t) : EqIgnoringCase t s := Eq.symm h

theorem trans {s t u : Text} (h : EqIgnoringCase s t) (h' : EqIgnoringCase t u) :
    EqIgnoringCase s u := Eq.trans h h'

theorem append {s s' t t' : Text} (h : EqIgnoringCase s s') (h' : EqIgnoringCase t t') :
    EqIgnoringCase (s ++ t) (s' ++ t') := by
  rw [EqIgnoringCase, lowerAscii, lowerAscii, List.map_append, List.map_append]
  exact congrArg₂ (· ++ ·) h h'

theorem length_eq {s t : Text} (h : EqIgnoringCase s t) : s.length = t.length := by
  have hlength := congrArg List.length h
  rwa [lowerAscii, lowerAscii, List.length_map, List.length_map] at hlength

theorem byteLength_eq {s t : Text} (h : EqIgnoringCase s t) : byteLength s = byteLength t := by
  have hlower : ∀ u : Text, byteLength (lowerAscii u) = byteLength u := by
    intro u
    induction u with
    | nil => rfl
    | cons c u ih =>
      rw [lowerAscii, List.map_cons, byteLength_cons, byteLength_cons, utf8Size_toLower]
      exact congrArg (c.utf8Size + ·) ih
  rw [← hlower s, ← hlower t, h]

theorem upperAscii_eq {s t : Text} (h : EqIgnoringCase s t) : upperAscii s = upperAscii t := by
  have hlower : ∀ u : Text, upperAscii (lowerAscii u) = upperAscii u := by
    intro u
    rw [upperAscii, lowerAscii, List.map_map]
    exact List.map_congr_left fun c _ => Char.toUpper_toLower_eq_toUpper c
  rw [← hlower s, ← hlower t, h]

theorem cons_iff {s t : Text} {c d : Char} :
    EqIgnoringCase (c :: s) (d :: t) ↔ c.toLower = d.toLower ∧ EqIgnoringCase s t :=
  List.cons_eq_cons

theorem exists_cons {s t : Text} {c : Char} (h : EqIgnoringCase (c :: s) t) :
    ∃ d u, t = d :: u ∧ c.toLower = d.toLower ∧ EqIgnoringCase s u := by
  cases t with
  | nil => cases h
  | cons d u => exact ⟨d, u, rfl, cons_iff.1 h⟩

theorem eq_nil {t : Text} (h : EqIgnoringCase [] t) : t = [] :=
  List.length_eq_zero_iff.1 h.length_eq.symm

theorem atWordEnd_eq {s t : Text} (h : EqIgnoringCase s t) : atWordEnd s = atWordEnd t := by
  cases s with
  | nil => rw [h.eq_nil]
  | cons c s =>
    obtain ⟨d, u, rfl, hcd, -⟩ := h.exists_cons
    rw [atWordEnd, atWordEnd, isWordChar_congr hcd]

/-- What is equal to an appended text consists of two parts that are equal to its parts. -/
theorem exists_append {s t u : Text} (h : EqIgnoringCase (s ++ t) u) :
    ∃ v w, u = v ++ w ∧ EqIgnoringCase s v ∧ EqIgnoringCase t w := by
  rw [EqIgnoringCase, lowerAscii, List.map_append] at h
  obtain ⟨v, w, rfl, hv, hw⟩ := List.map_eq_append_iff.1 h.symm
  exact ⟨v, w, rfl, hv.symm, hw.symm⟩

/-- A text that is equal to one with an "s" at its end has such a letter there itself. -/
theorem exists_append_s {s u : Text} (h : EqIgnoringCase (s ++ ['s']) u) :
    ∃ v c, u = v ++ [c] ∧ EqIgnoringCase s v ∧ c.toLower = 's' := by
  obtain ⟨v, w, rfl, hv, hw⟩ := h.exists_append
  obtain ⟨c, rfl⟩ := List.length_eq_one_iff.1 hw.length_eq.symm
  exact ⟨v, c, rfl, hv, (List.cons.inj hw).1.symm⟩

/-- A character that is no letter stands in both texts or in neither. -/
theorem not_mem {s t : Text} (h : EqIgnoringCase s t) {d : Char} (hd : d.isAlpha = false)
    (hs : d ∉ s) : d ∉ t := by
  intro hmem
  have hlower : d.toLower ∈ lowerAscii t := List.mem_map_of_mem hmem
  rw [← h] at hlower
  obtain ⟨c, hc, heq⟩ := List.mem_map.1 hlower
  have hsame : d.toLower = d := Char.toLower_eq_of_not_isUpper fun hupper => by
    rw [Char.isAlpha, hupper, Bool.true_or] at hd
    cases hd
  rw [hsame] at heq
  rw [eq_of_toLower_eq hd heq] at hc
  exact hs hc

end EqIgnoringCase

theorem eqIgnoringCase_upperAscii (t : Text) : EqIgnoringCase (upperAscii t) t := by
  rw [EqIgnoringCase, lowerAscii, upperAscii, List.map_map]
  exact List.map_congr_left fun c _ => Char.toLower_toUpper_eq_toLower c

theorem upperAscii_upperAscii (t : Text) : upperAscii (upperAscii t) = upperAscii t :=
  (eqIgnoringCase_upperAscii t).upperAscii_eq

end Cardwright.Text
