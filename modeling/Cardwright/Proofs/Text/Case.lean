import Cardwright.Proofs.Text.Words
import Cardwright.Text.Case

/-!
# What changing the case of a letter can give

The case mappings take a character to letters: each character of the upper or lower case of `c` is
`c` itself, an ASCII letter, or a character outside ASCII that is no blank (`mem_upper`,
`mem_lower`).  The tables are checked for this once, run by run.  So raising or lowering the first
letter keeps a text normal (`normalize_capitalize`, `normalize_uncapitalize`).
-/

namespace Cardwright.Text

/-- An ASCII letter, or a character outside ASCII that is no blank. -/
def IsLetterLike (d : Char) : Prop := d.isAlpha = true ∨ 128 ≤ d.toNat ∧ isBlank d = false

instance : DecidablePred IsLetterLike := fun d =>
  inferInstanceAs (Decidable (d.isAlpha = true ∨ 128 ≤ d.toNat ∧ isBlank d = false))

/-! ### The tables -/

/-- Stretches of code points outside ASCII without a blank. -/
def blankFreeStretches : List (Nat × Nat) :=
  [(0xA1, 0x167F), (0x1681, 0x1FFF), (0x2060, 0x2FFF), (0x3001, 0xD7FF), (0xE000, 0x10FFFF)]

theorem letterLike_of_stretch {z : Nat × Nat} (hz : z ∈ blankFreeStretches) {n : Nat}
    (h : z.1 ≤ n) (h' : n ≤ z.2) : IsLetterLike (Char.ofNat n) := by
  -- Each stretch lies within the code points and between two blanks.
  have hbounds : (0xA1 ≤ n ∧ n ≤ 0x167F) ∨ (0x1681 ≤ n ∧ n ≤ 0x1FFF) ∨ (0x2060 ≤ n ∧ n ≤ 0x2FFF) ∨
      (0x3001 ≤ n ∧ n ≤ 0xD7FF) ∨ (0xE000 ≤ n ∧ n ≤ 0x10FFFF) := by
    simp only [blankFreeStretches, List.mem_cons, List.not_mem_nil, or_false] at hz
    rcases hz with rfl | rfl | rfl | rfl | rfl <;> simp only at h h' <;> omega
  have hvalid : n.isValidChar := by
    simp only [Nat.isValidChar]
    omega
  have hnat : (Char.ofNat n).toNat = n := by
    rw [Char.ofNat, dif_pos hvalid]
    rfl
  refine .inr ⟨by omega, ?_⟩
  rw [isBlank, hnat]
  simp only [Bool.or_eq_false_iff, Bool.and_eq_false_iff, decide_eq_false_iff_not,
    beq_eq_false_iff_ne]
  omega

/-- A run all of whose images are like letters: one such image, or a part of one stretch. -/
def CaseTable.Run.Lettered (r : CaseTable.Run) : Prop :=
  (r.first = r.last ∧ IsLetterLike (Char.ofNat r.image)) ∨
    ∃ z ∈ blankFreeStretches, z.1 ≤ r.image ∧ r.image + (r.last - r.first) ≤ z.2

instance : DecidablePred CaseTable.Run.Lettered := fun r =>
  inferInstanceAs (Decidable ((r.first = r.last ∧ IsLetterLike (Char.ofNat r.image)) ∨
    ∃ z ∈ blankFreeStretches, z.1 ≤ r.image ∧ r.image + (r.last - r.first) ≤ z.2))

theorem lettered_upperRuns : ∀ r ∈ CaseTable.upperRuns, r.Lettered := by decide +kernel

theorem lettered_lowerRuns : ∀ r ∈ CaseTable.lowerRuns, r.Lettered := by decide +kernel

theorem letterLike_upperSeveral : ∀ e ∈ CaseTable.upperSeveral,
    e.2 ≠ [] ∧ ∀ n ∈ e.2, IsLetterLike (Char.ofNat n) := by
  decide +kernel

theorem CaseTable.Run.Lettered.letterLike {r : CaseTable.Run} (hr : r.Lettered) {n k : Nat}
    (h : r.map? n = some k) : IsLetterLike (Char.ofNat k) := by
  unfold CaseTable.Run.map? at h
  split at h
  · next hn =>
    cases h
    rcases hr with ⟨heq, hone⟩ | ⟨z, hz, hlow, hhigh⟩
    · -- A run of a single code point has the image it was checked for.
      have hzero : r.image + (n - r.first) = r.image := by omega
      rwa [hzero]
    · exact letterLike_of_stretch hz (by omega) (by omega)
  · cases h

/-- Runs with such images leave a code point alone or map it to what is like a letter. -/
theorem letterLike_of_runs {runs : List CaseTable.Run} (hruns : ∀ r ∈ runs, r.Lettered) (c : Char) :
    Char.ofNat ((runs.findSome? (·.map? c.toNat)).getD c.toNat) = c ∨
      IsLetterLike (Char.ofNat ((runs.findSome? (·.map? c.toNat)).getD c.toNat)) := by
  cases h : runs.findSome? (·.map? c.toNat) with
  | none => exact .inl (Char.ofNat_toNat c)
  | some k =>
    obtain ⟨r, hr, hk⟩ := List.exists_of_findSome?_eq_some h
    exact .inr ((hruns r hr).letterLike hk)

theorem mem_upperSeveral {n : Nat} {several : List Nat}
    (h : CaseTable.upperSeveral.lookup n = some several) :
    (n, several) ∈ CaseTable.upperSeveral := by
  obtain ⟨before, behind, heq, -⟩ := List.lookup_eq_some_iff.1 h
  rw [heq]
  simp

/-! ### One character -/

theorem forall_ascii {P : Char → Prop} (h : ∀ n < 128, P (Char.ofNat n)) {c : Char}
    (hc : c.toNat < 128) : P c := by
  have hP := h c.toNat hc
  rwa [Char.ofNat_toNat] at hP

theorem letterLike_toUpper {c : Char} (hc : c.toNat < 128) :
    c.toUpper = c ∨ IsLetterLike c.toUpper :=
  forall_ascii (P := fun c => c.toUpper = c ∨ IsLetterLike c.toUpper) (by decide +kernel) hc

theorem letterLike_toLower {c : Char} (hc : c.toNat < 128) :
    c.toLower = c ∨ IsLetterLike c.toLower :=
  forall_ascii (P := fun c => c.toLower = c ∨ IsLetterLike c.toLower) (by decide +kernel) hc

/-- Raising a character gives it back, or characters like letters. -/
theorem mem_upper {c d : Char} (h : d ∈ upper c) : d = c ∨ IsLetterLike d := by
  unfold upper at h
  split at h
  · next hascii =>
    obtain rfl : d = c.toUpper := by simpa using h
    exact letterLike_toUpper hascii
  · split at h
    · next several hseveral =>
      obtain ⟨n, hn, rfl⟩ := List.mem_map.1 h
      have hentry := mem_upperSeveral hseveral
      exact .inr ((letterLike_upperSeveral _ hentry).2 n hn)
    · rw [List.mem_singleton.1 h]
      exact letterLike_of_runs lettered_upperRuns c

theorem mem_lower {c d : Char} (h : d ∈ lower c) : d = c ∨ IsLetterLike d := by
  unfold lower at h
  split at h
  · next hascii =>
    obtain rfl : d = c.toLower := by simpa using h
    exact letterLike_toLower hascii
  · split at h
    · rcases List.mem_pair.1 h with rfl | rfl <;> exact .inr (by decide)
    · rw [List.mem_singleton.1 h]
      exact letterLike_of_runs lettered_lowerRuns c

theorem upper_ne_nil (c : Char) : upper c ≠ [] := by
  unfold upper
  split
  · simp
  · split
    · next several hseveral =>
      have hentry := mem_upperSeveral hseveral
      simpa using (letterLike_upperSeveral _ hentry).1
    · simp

theorem lower_ne_nil (c : Char) : lower c ≠ [] := by
  unfold lower
  split
  · simp
  · split <;> simp

theorem toNat_of_isAlpha {d : Char} (h : d.isAlpha = true) :
    65 ≤ d.toNat ∧ d.toNat ≤ 90 ∨ 97 ≤ d.toNat ∧ d.toNat ≤ 122 := by
  have hcases : d.isUpper = true ∨ d.isLower = true := (Bool.or_eq_true _ _).mp h
  rcases hcases with hupper | hlower
  · have hrange : 'A'.val ≤ d.val ∧ d.val ≤ 'Z'.val := of_decide_eq_true hupper
    exact .inl hrange
  · have hboth := (Bool.and_eq_true _ _).mp hlower
    have hlow : 'a'.val ≤ d.val := of_decide_eq_true hboth.1
    have hhigh : d.val ≤ 'z'.val := of_decide_eq_true hboth.2
    exact .inr ⟨hlow, hhigh⟩

theorem IsLetterLike.isBlank_eq_false {d : Char} (h : IsLetterLike d) : isBlank d = false := by
  rcases h with halpha | ⟨-, hblank⟩
  · have hrange := toNat_of_isAlpha halpha
    simp only [isBlank, Bool.or_eq_false_iff, Bool.and_eq_false_iff, decide_eq_false_iff_not,
      beq_eq_false_iff_ne]
    omega
  · exact hblank

theorem IsLetterLike.ne {d e : Char} (h : IsLetterLike d) (hascii : e.toNat < 128)
    (he : e.isAlpha = false) : d ≠ e := by
  rintro rfl
  rcases h with halpha | ⟨hlarge, -⟩
  · rw [he] at halpha
    cases halpha
  · omega

theorem isWord_upper {c : Char} (hc : isBlank c = false) : IsWord (upper c) := by
  refine ⟨upper_ne_nil c, fun d hd => ?_⟩
  rcases mem_upper hd with rfl | hletter
  · exact hc
  · exact hletter.isBlank_eq_false

theorem isWord_lower {c : Char} (hc : isBlank c = false) : IsWord (lower c) := by
  refine ⟨lower_ne_nil c, fun d hd => ?_⟩
  rcases mem_lower hd with rfl | hletter
  · exact hc
  · exact hletter.isBlank_eq_false

/-! ### The first letter of a text -/

/-- A word stays one when its first letter is raised. -/
theorem IsWord.capitalize {w : Text} (h : IsWord w) : IsWord (capitalize w) := by
  obtain ⟨hne, hw⟩ := h
  obtain ⟨c, v, rfl⟩ := List.exists_cons_of_ne_nil hne
  obtain ⟨hc, hv⟩ := List.forall_mem_cons.1 hw
  obtain ⟨hupper, hblank⟩ := isWord_upper hc
  refine ⟨List.append_ne_nil_of_left_ne_nil hupper v, fun d hd => ?_⟩
  rcases List.mem_append.1 hd with hd | hd
  · exact hblank d hd
  · exact hv d hd

/-- A word may take the place of the first character of a normal text. -/
theorem normalize_replaceFirst {c : Char} {t u : Text} (h : normalize (c :: t) = c :: t)
    (hu : isBlank c = false → IsWord u) : normalize (u ++ t) = u ++ t := by
  obtain ⟨ws, hws, hjoin⟩ := normalize_eq_self_iff.1 h
  match ws, hws with
  | [], _ => simp at hjoin
  | w :: ws, hws =>
    obtain ⟨⟨hne, hw⟩, hrest⟩ := List.forall_mem_cons.1 hws
    obtain ⟨d, v, rfl⟩ := List.exists_cons_of_ne_nil hne
    have hfront : ∀ x : Text,
        [' '].intercalate ((x ++ v) :: ws) = x ++ [' '].intercalate (v :: ws) :=
      fun x => by cases ws <;> simp [List.intercalate_cons_cons]
    have hd := hfront [d]
    rw [List.singleton_append, ← hjoin, List.singleton_append, List.cons.injEq] at hd
    obtain ⟨rfl, rfl⟩ := hd
    obtain ⟨hune, hublank⟩ := hu (hw c List.mem_cons_self)
    refine normalize_eq_self_iff.2 ⟨(u ++ v) :: ws, List.forall_mem_cons.2 ⟨⟨by simp [hune], ?_⟩,
      hrest⟩, (hfront u).symm⟩
    intro e he
    rcases List.mem_append.1 he with heu | hev
    · exact hublank e heu
    · exact hw e (List.mem_cons_of_mem _ hev)

/-- Raising the first letter keeps a text normal. -/
theorem normalize_capitalize {t : Text} (h : normalize t = t) :
    normalize (capitalize t) = capitalize t := by
  match t, h with
  | [], _ => rfl
  | c :: t, h => exact normalize_replaceFirst h isWord_upper

theorem normalize_uncapitalize {t : Text} (h : normalize t = t) :
    normalize (uncapitalize t) = uncapitalize t := by
  match t, h with
  | [], _ => rfl
  | c :: t, h => exact normalize_replaceFirst h isWord_lower

theorem mem_capitalize {t : Text} {d : Char} (h : d ∈ capitalize t) : d ∈ t ∨ IsLetterLike d := by
  match t, h with
  | c :: t, h =>
    rcases List.mem_append.1 h with hc | ht
    · rcases mem_upper hc with rfl | hletter
      · exact .inl List.mem_cons_self
      · exact .inr hletter
    · exact .inl (List.mem_cons_of_mem _ ht)

theorem mem_uncapitalize {t : Text} {d : Char} (h : d ∈ uncapitalize t) :
    d ∈ t ∨ IsLetterLike d := by
  match t, h with
  | c :: t, h =>
    rcases List.mem_append.1 h with hc | ht
    · rcases mem_lower hc with rfl | hletter
      · exact .inl List.mem_cons_self
      · exact .inr hletter
    · exact .inl (List.mem_cons_of_mem _ ht)

end Cardwright.Text
