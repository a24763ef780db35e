import Cardwright.Text.Case
import Mathlib.Data.List.TakeWhile

/-!
# Changes of case, written out

What raising and lowering should give is described here apart from the functions that compute it:
where runs of letters take a code point (`Moves`), the case of one character (`UpperCase`,
`LowerCase`), a text whose first letter is raised or lowered (`RaisesFirst`, `LowersFirst`), and a
whole text in lower case (`Lowers`), where a capital sigma takes its final form at the end of a
word.

Each text has exactly one result, the one that the function gives (`raisesFirst_iff`,
`lowersFirst_iff`, `lowers_iff`).
-/

namespace Cardwright.Text

/-! ### Runs of letters -/

/-- A run of letters holds a code point. -/
def CaseTable.Run.Holds (r : CaseTable.Run) (n : Nat) : Prop :=
  r.first ≤ n ∧ n ≤ r.last ∧ r.stride ∣ n - r.first

/-- Where runs of letters take a code point: the first one that holds it moves it along with its
first letter, and it stays where it is if none holds it. -/
inductive Moves (runs : List CaseTable.Run) (n : Nat) : Nat → Prop
  | run {before behind : List CaseTable.Run} {r : CaseTable.Run}
      (hruns : runs = before ++ r :: behind) (hbefore : ∀ earlier ∈ before, ¬ earlier.Holds n)
      (h : r.Holds n) : Moves runs n (r.image + (n - r.first))
  | stay (hnone : ∀ r ∈ runs, ¬ r.Holds n) : Moves runs n n

theorem CaseTable.Run.map?_eq_some_iff {r : CaseTable.Run} {n k : Nat} :
    r.map? n = some k ↔ r.Holds n ∧ r.image + (n - r.first) = k := by
  simp only [map?, Holds, Nat.dvd_iff_mod_eq_zero, Option.ite_none_right_eq_some,
    Option.some.injEq]

theorem CaseTable.Run.map?_eq_none_iff {r : CaseTable.Run} {n : Nat} :
    r.map? n = none ↔ ¬ r.Holds n := by
  simp only [map?, Holds, Nat.dvd_iff_mod_eq_zero, ite_eq_right_iff, reduceCtorEq, imp_false]

theorem moves_iff {runs : List CaseTable.Run} {n k : Nat} :
    Moves runs n k ↔ k = (runs.findSome? (·.map? n)).getD n := by
  constructor
  · rintro (⟨hruns, hbefore, h⟩ | hnone)
    · have hsome := List.findSome?_eq_some_iff.2 ⟨_, _, _, hruns,
        CaseTable.Run.map?_eq_some_iff.2 ⟨h, rfl⟩,
        fun earlier hmem => CaseTable.Run.map?_eq_none_iff.2 (hbefore earlier hmem)⟩
      rw [hsome, Option.getD_some]
    · rw [List.findSome?_eq_none_iff.2 fun r hr => CaseTable.Run.map?_eq_none_iff.2 (hnone r hr),
        Option.getD_none]
  · rintro rfl
    cases hfound : runs.findSome? (·.map? n) with
    | none =>
      rw [List.findSome?_eq_none_iff] at hfound
      exact .stay fun r hr => CaseTable.Run.map?_eq_none_iff.1 (hfound r hr)
    | some k =>
      obtain ⟨before, r, behind, hruns, hr, hbefore⟩ := List.findSome?_eq_some_iff.1 hfound
      obtain ⟨hholds, rfl⟩ := CaseTable.Run.map?_eq_some_iff.1 hr
      exact .run hruns (fun earlier hmem => CaseTable.Run.map?_eq_none_iff.1 (hbefore earlier hmem))
        hholds

/-! ### One character -/

/-- The upper case of a character: on ASCII that of the core library, beyond it that of the tables,
which may be several characters. -/
inductive UpperCase (c : Char) : Text → Prop
  | ascii (h : c.toNat < 128) : UpperCase c [c.toUpper]
  | several (h : 128 ≤ c.toNat) {several : List Nat}
      (hseveral : CaseTable.upperSeveral.lookup c.toNat = some several) :
      UpperCase c (several.map Char.ofNat)
  | single (h : 128 ≤ c.toNat) (hnone : CaseTable.upperSeveral.lookup c.toNat = none) {n : Nat}
      (hn : Moves CaseTable.upperRuns c.toNat n) : UpperCase c [Char.ofNat n]

/-- The lower case of a character on its own.  Only the dotted capital `İ` becomes two. -/
inductive LowerCase (c : Char) : Text → Prop
  | ascii (h : c.toNat < 128) : LowerCase c [c.toLower]
  | dotted (h : c = 'İ') : LowerCase c ['i', '\u0307']
  | single (h : 128 ≤ c.toNat) (hdotted : c ≠ 'İ') {n : Nat}
      (hn : Moves CaseTable.lowerRuns c.toNat n) : LowerCase c [Char.ofNat n]

theorem upperCase_upper (c : Char) : UpperCase c (upper c) := by
  unfold upper
  split
  · next hascii => exact .ascii hascii
  · next hbeyond =>
    split
    · next several hseveral => exact .several (Nat.not_lt.1 hbeyond) hseveral
    · next hnone => exact .single (Nat.not_lt.1 hbeyond) hnone (moves_iff.2 rfl)

theorem UpperCase.eq {c : Char} {u : Text} (h : UpperCase c u) : u = upper c := by
  unfold upper
  cases h with
  | ascii h => rw [if_pos h]
  | several h hseveral => rw [if_neg (Nat.not_lt.2 h), hseveral]
  | single h hnone hn =>
    rw [if_neg (Nat.not_lt.2 h), hnone, moves_iff.1 hn]
    rfl

theorem lowerCase_lower (c : Char) : LowerCase c (lower c) := by
  unfold lower
  split_ifs with hascii hdotted
  · exact .ascii hascii
  · exact .dotted hdotted
  · exact .single (Nat.not_lt.1 hascii) hdotted (moves_iff.2 rfl)

theorem LowerCase.eq {c : Char} {u : Text} (h : LowerCase c u) : u = lower c := by
  unfold lower
  cases h with
  | ascii h => rw [if_pos h]
  | dotted h => rw [h, if_neg (by decide), if_pos rfl]
  | single h hdotted hn =>
    rw [if_neg (Nat.not_lt.2 h), if_neg hdotted, moves_iff.1 hn]
    rfl

/-! ### The first letter -/

/-- A text, and the same with its first letter raised. -/
inductive RaisesFirst : Text → Text → Prop
  | nil : RaisesFirst [] []
  | cons {c : Char} {t u : Text} (h : UpperCase c u) : RaisesFirst (c :: t) (u ++ t)

/-- A text, and the same with its first letter lowered. -/
inductive LowersFirst : Text → Text → Prop
  | nil : LowersFirst [] []
  | cons {c : Char} {t u : Text} (h : LowerCase c u) : LowersFirst (c :: t) (u ++ t)

theorem raisesFirst_capitalize (t : Text) : RaisesFirst t (capitalize t) := by
  cases t with
  | nil => exact .nil
  | cons c t => exact .cons (upperCase_upper c)

theorem lowersFirst_uncapitalize (t : Text) : LowersFirst t (uncapitalize t) := by
  cases t with
  | nil => exact .nil
  | cons c t => exact .cons (lowerCase_lower c)

theorem raisesFirst_iff {t u : Text} : RaisesFirst t u ↔ u = capitalize t := by
  constructor
  · rintro (_ | h)
    · rfl
    · rw [h.eq, capitalize]
  · rintro rfl
    exact raisesFirst_capitalize t

theorem lowersFirst_iff {t u : Text} : LowersFirst t u ↔ u = uncapitalize t := by
  constructor
  · rintro (_ | h)
    · rfl
    · rw [h.eq, uncapitalize]
  · rintro rfl
    exact lowersFirst_uncapitalize t

/-! ### Whole texts in lower case -/

/-- A character of one of some closed ranges of code points. -/
def InRanges (ranges : List (Nat × Nat)) (c : Char) : Prop :=
  ∃ r ∈ ranges, r.1 ≤ c.toNat ∧ c.toNat ≤ r.2

/-- A text goes on with a cased character, apart from those that questions of case ignore. -/
def CasedNext (t : Text) : Prop :=
  ∃ ignored c rest, t = ignored ++ c :: rest ∧
    (∀ d ∈ ignored, InRanges CaseTable.caseIgnorable d) ∧
    ¬ InRanges CaseTable.caseIgnorable c ∧ InRanges CaseTable.cased c

/-- A word with a cased character ends between two texts: looking back there is one, and looking on
there is none. -/
def ClosesWord (before behind : Text) : Prop := CasedNext before.reverse ∧ ¬ CasedNext behind

/-- A text that stands behind `before`, and the same in lower case. -/
inductive LowersBehind : Text → Text → Text → Prop
  | nil {before : Text} : LowersBehind before [] []
  | letter {before t u v : Text} {c : Char} (hc : c ≠ 'Σ') (h : LowerCase c u)
      (hrest : LowersBehind (before ++ [c]) t v) : LowersBehind before (c :: t) (u ++ v)
  | finalSigma {before t v : Text} (h : ClosesWord before t)
      (hrest : LowersBehind (before ++ ['Σ']) t v) : LowersBehind before ('Σ' :: t) ('ς' :: v)
  | sigma {before t v : Text} (h : ¬ ClosesWord before t)
      (hrest : LowersBehind (before ++ ['Σ']) t v) : LowersBehind before ('Σ' :: t) ('σ' :: v)

/-- A text, and the same in lower case. -/
def Lowers (t u : Text) : Prop := LowersBehind [] t u

theorem within_iff {ranges : List (Nat × Nat)} {c : Char} :
    CaseTable.within ranges c.toNat = true ↔ InRanges ranges c := by
  simp [CaseTable.within, InRanges]

theorem casedAhead_iff {t : Text} : casedAhead t = true ↔ CasedNext t := by
  have hfront : ∀ d ∈ t.takeWhile (CaseTable.within CaseTable.caseIgnorable ·.toNat),
      InRanges CaseTable.caseIgnorable d := fun d hd =>
    within_iff.1 (List.all_eq_true.1 List.all_takeWhile d hd)
  constructor
  · intro h
    unfold casedAhead at h
    split at h
    · cases h
    · next c rest hdrop =>
      refine ⟨_, c, rest, ?_, hfront, ?_, within_iff.1 h⟩
      · rw [← hdrop, List.takeWhile_append_dropWhile]
      · have hhead := List.head?_dropWhile_not (CaseTable.within CaseTable.caseIgnorable ·.toNat) t
        rw [hdrop] at hhead
        rw [← within_iff]
        simpa using hhead
  · rintro ⟨ignored, c, rest, rfl, hignored, hc, hcased⟩
    have hdrop : (ignored ++ c :: rest).dropWhile
        (CaseTable.within CaseTable.caseIgnorable ·.toNat) = c :: rest := by
      rw [List.dropWhile_append_of_pos fun d hd => within_iff.2 (hignored d hd)]
      exact List.dropWhile_cons_of_neg fun hwithin => hc (within_iff.1 hwithin)
    rw [casedAhead, hdrop]
    exact within_iff.2 hcased

/-- A sigma takes its final form exactly where it closes a word. -/
theorem closesWord_iff {before behind : Text} :
    (casedAhead before.reverse && !casedAhead behind) = true ↔ ClosesWord before behind := by
  rw [Bool.and_eq_true, Bool.not_eq_true', ← Bool.not_eq_true, casedAhead_iff, casedAhead_iff,
    ClosesWord]

/-- By induction on the text, with all that stands before it. -/
theorem lowersBehind_lowerAfter (before t : Text) :
    LowersBehind before t (lowerAfter before.reverse t) := by
  induction t generalizing before with
  | nil => exact .nil
  | cons c t ih =>
    have hrest := ih (before ++ [c])
    rw [List.reverse_append, List.reverse_singleton, List.singleton_append] at hrest
    rw [lowerAfter]
    by_cases hc : c = 'Σ'
    · subst hc
      rw [if_pos rfl]
      by_cases hcloses : ClosesWord before t
      · rw [if_pos (closesWord_iff.2 hcloses)]
        exact .finalSigma hcloses hrest
      · rw [if_neg (mt closesWord_iff.1 hcloses)]
        exact .sigma hcloses hrest
    · rw [if_neg hc]
      exact .letter hc (lowerCase_lower c) hrest

theorem LowersBehind.eq {before t u : Text} (h : LowersBehind before t u) :
    u = lowerAfter before.reverse t := by
  induction h with
  | nil => rfl
  | letter hc h _ ih =>
    rw [lowerAfter, if_neg hc, ih, h.eq, List.reverse_append]
    rfl
  | finalSigma hcloses _ ih =>
    rw [lowerAfter, if_pos rfl, if_pos (closesWord_iff.2 hcloses), ih, List.reverse_append]
    rfl
  | sigma hcloses _ ih =>
    rw [lowerAfter, if_pos rfl, if_neg (mt closesWord_iff.1 hcloses), ih, List.reverse_append]
    rfl

/-- **The lower case of a text is what its relation says.** -/
theorem lowers_iff {t u : Text} : Lowers t u ↔ u = lowerAll t := by
  constructor
  · exact LowersBehind.eq
  · rintro rfl
    exact lowersBehind_lowerAfter [] t

end Cardwright.Text
