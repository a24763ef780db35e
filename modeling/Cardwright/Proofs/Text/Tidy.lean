import Cardwright.Proofs.Number.Decimal
import Cardwright.Proofs.Text.Case
import Cardwright.Proofs.Text.Mapping
import Cardwright.Text.Ascii
import Mathlib.Data.List.Chain

/-!
# Blanks that stand apart

A text is tidy if it neither begins nor ends with a blank and has no blanks but single spaces
between its words (`Tidy`).  The tidy texts are exactly those that normalizing leaves alone
(`tidy_iff`), and that is so once their first letter is raised or lowered as well
(`Normal.of_normalize_eq`).
-/

namespace Cardwright

namespace Text

/-! ### Blanks -/

/-- A blank belongs to no word. -/
theorem isWordChar_of_isBlank {c : Char} (h : isBlank c = true) : isWordChar c = false := by
  by_contra hword
  simp only [isWordChar, Char.isAlphanum, Bool.not_eq_false, Bool.or_eq_true, beq_iff_eq] at hword
  rcases hword with (halpha | hdigit) | rfl
  · rw [IsLetterLike.isBlank_eq_false (.inl halpha)] at h
    cases h
  · have hrange := toNat_of_isDigit hdigit
    simp only [isBlank, Bool.or_eq_true, Bool.and_eq_true, decide_eq_true_eq, beq_iff_eq] at h
    omega
  · cases h

/-- A text without blanks. -/
def BlankFree (t : Text) : Prop := ∀ c ∈ t, isBlank c = false

/-- No blank stands right behind another one. -/
def BlanksApart (t : Text) : Prop := t.IsChain fun c d => isBlank c = true → isBlank d = false

/-! ### Tidy texts -/

/-- A text with no blank at its ends and with single spaces only. -/
structure Tidy (t : Text) : Prop where
  front : ∀ c ∈ t.head?, isBlank c = false
  back : ∀ c ∈ t.getLast?, isBlank c = false
  spaces : ∀ c ∈ t, isBlank c = true → c = ' '
  apart : BlanksApart t

instance : DecidablePred BlankFree := fun t =>
  decidable_of_iff (t.all (!isBlank ·) = true) (by simp [BlankFree])

theorem BlankFree.not_mem {t : Text} (h : BlankFree t) {b : Char} (hb : isBlank b = true) :
    b ∉ t := by
  intro hmem
  rw [h b hmem] at hb
  cases hb

theorem BlankFree.of_not_mem {t : Text} (h : ∀ b, isBlank b = true → b ∉ t) : BlankFree t := by
  intro c hc
  by_contra hblank
  exact h c (by simpa using hblank) hc

theorem blanksApart_append {s t : Text} :
    BlanksApart (s ++ t) ↔ BlanksApart s ∧ BlanksApart t ∧
      ∀ c ∈ s.getLast?, ∀ d ∈ t.head?, isBlank c = true → isBlank d = false :=
  List.isChain_append

theorem blanksApart_cons {c : Char} {t : Text} :
    BlanksApart (c :: t) ↔
      (∀ d ∈ t.head?, isBlank c = true → isBlank d = false) ∧ BlanksApart t :=
  List.isChain_cons

theorem BlankFree.tidy {t : Text} (h : BlankFree t) : Tidy t where
  front c hc := h c (List.mem_of_mem_head? hc)
  back c hc := h c (List.mem_of_mem_getLast? hc)
  spaces c hc hblank := by
    rw [h c hc] at hblank
    cases hblank
  apart := by
    induction t with
    | nil => exact List.isChain_nil
    | cons c t ih =>
      obtain ⟨-, ht⟩ := List.forall_mem_cons.1 h
      exact blanksApart_cons.2 ⟨fun d hd _ => ht d (List.mem_of_mem_head? hd), ih ht⟩

/-- Behind a tidy text blanks stay apart. -/
theorem Tidy.blanksApart_append {s t : Text} (hs : Tidy s) (ht : BlanksApart t) :
    BlanksApart (s ++ t) := by
  refine Text.blanksApart_append.2 ⟨hs.apart, ht, fun c hc _ _ hblank => ?_⟩
  rw [hs.back c hc] at hblank
  cases hblank

theorem Tidy.append {s t : Text} (hs : Tidy s) (ht : Tidy t) : Tidy (s ++ t) where
  front c hc := by
    rw [List.head?_append, Option.mem_def, Option.or_eq_some_iff] at hc
    rcases hc with hc | ⟨-, hc⟩
    · exact hs.front c hc
    · exact ht.front c hc
  back c hc := by
    rw [List.getLast?_append, Option.mem_def, Option.or_eq_some_iff] at hc
    rcases hc with hc | ⟨-, hc⟩
    · exact ht.back c hc
    · exact hs.back c hc
  spaces c hc := by
    rcases List.mem_append.1 hc with hc | hc
    · exact hs.spaces c hc
    · exact ht.spaces c hc
  apart := hs.blanksApart_append ht.apart

/-- A blank stands in a tidy text only as a single space between two tidy texts. -/
theorem tidy_append_blank_iff {s t : Text} {b : Char} (hb : isBlank b = true) :
    Tidy (s ++ b :: t) ↔ b = ' ' ∧ (s ≠ [] ∧ Tidy s) ∧ (t ≠ [] ∧ Tidy t) := by
  have hfront : s ≠ [] → (s ++ b :: t).head? = s.head? := List.head?_append_of_ne_nil s
  have hback : t ≠ [] → (s ++ b :: t).getLast? = t.getLast? := fun ht => by
    rw [List.append_cons]
    exact List.getLast?_append_of_ne_nil _ ht
  constructor
  · intro h
    have hs : s ≠ [] := by
      rintro rfl
      rw [h.front b rfl] at hb
      cases hb
    have ht : t ≠ [] := by
      rintro rfl
      rw [h.back b List.getLast?_concat] at hb
      cases hb
    obtain ⟨hsapart, hrest, hseam⟩ := blanksApart_append.1 h.apart
    obtain ⟨hnext, htapart⟩ := blanksApart_cons.1 hrest
    refine ⟨h.spaces b (by simp) hb, ⟨hs, ?_⟩, ht, ?_⟩
    · refine ⟨fun c hc => h.front c (hfront hs ▸ hc), fun c hc => ?_,
        fun c hc => h.spaces c (List.mem_append_left _ hc), hsapart⟩
      by_contra hblank
      rw [hseam c hc b rfl (by simpa using hblank)] at hb
      cases hb
    · exact ⟨fun d hd => hnext d hd hb, fun d hd => h.back d (hback ht ▸ hd),
        fun d hd => h.spaces d (by simp [hd]), htapart⟩
  · rintro ⟨rfl, ⟨hs, hstidy⟩, ht, httidy⟩
    refine ⟨hfront hs ▸ hstidy.front, hback ht ▸ httidy.back, fun c hc hblank => ?_, ?_⟩
    · rcases List.mem_append.1 hc with hc | hc
      · exact hstidy.spaces c hc hblank
      · rcases List.mem_cons.1 hc with rfl | hc
        · rfl
        · exact httidy.spaces c hc hblank
    · exact hstidy.blanksApart_append
        (blanksApart_cons.2 ⟨fun d hd _ => httidy.front d hd, httidy.apart⟩)

/-! ### Normal texts -/

theorem intercalate_append {ws vs : List Text} (hws : ws ≠ []) (hvs : vs ≠ []) :
    [' '].intercalate (ws ++ vs) = [' '].intercalate ws ++ ' ' :: [' '].intercalate vs := by
  induction ws with
  | nil => exact absurd rfl hws
  | cons w ws ih =>
    obtain ⟨v, vs, rfl⟩ := List.exists_cons_of_ne_nil hvs
    match ws with
    | [] => simp [List.intercalate_cons_cons]
    | w' :: ws =>
      have hrest := ih (List.cons_ne_nil w' ws)
      rw [List.cons_append] at hrest
      rw [List.cons_append, List.cons_append, List.intercalate_cons_cons, hrest,
        List.intercalate_cons_cons]
      simp

theorem intercalate_ne_nil {ws : List Text} (h : ∀ w ∈ ws, IsWord w) (hws : ws ≠ []) :
    [' '].intercalate ws ≠ [] := by
  obtain ⟨c, hc, -⟩ := visible_intercalate h hws
  exact List.ne_nil_of_mem hc

/-- Words with single spaces between them are tidy. -/
theorem tidy_intercalate {ws : List Text} (h : ∀ w ∈ ws, IsWord w) :
    Tidy ([' '].intercalate ws) := by
  induction ws with
  | nil => exact BlankFree.tidy (List.forall_mem_nil _)
  | cons w ws ih =>
    obtain ⟨⟨hne, hw⟩, hws⟩ := List.forall_mem_cons.1 h
    by_cases hnil : ws = []
    · rw [hnil, List.intercalate_singleton]
      exact BlankFree.tidy hw
    · have hjoin := intercalate_append (List.cons_ne_nil w []) hnil
      rw [List.singleton_append, List.intercalate_singleton] at hjoin
      rw [hjoin]
      exact (tidy_append_blank_iff (by decide)).2
        ⟨rfl, ⟨hne, BlankFree.tidy hw⟩, intercalate_ne_nil hws hnil, ih hws⟩

/-- **The texts that normalizing leaves alone are the tidy ones.** -/
theorem tidy_iff {t : Text} : Tidy t ↔ normalize t = t := by
  constructor
  · -- A blank has to be a single space between two texts that are tidy themselves.
    refine blank_induction (P := fun t => Tidy t → normalize t = t) (fun w hw _ => ?_)
      (fun s b t hb hs ht h => ?_) t
    · by_cases hne : w = []
      · rw [hne]
        rfl
      · exact normalize_eq_self_iff.2 ⟨[w], by simpa using ⟨hne, hw⟩, by simp⟩
    · obtain ⟨rfl, ⟨hsne, hstidy⟩, htne, httidy⟩ := (tidy_append_blank_iff hb).1 h
      have hwords : ∀ {u : Text}, u ≠ [] → normalize u = u → words u ≠ [] := by
        rintro u hne hu hnil
        rw [normalize, hnil] at hu
        exact hne hu.symm
      rw [normalize, words_append_blank hb,
        intercalate_append (hwords hsne (hs hstidy)) (hwords htne (ht httidy))]
      exact congrArg₂ (· ++ ' ' :: ·) (hs hstidy) (ht httidy)
  · intro h
    obtain ⟨ws, hws, rfl⟩ := normalize_eq_self_iff.1 h
    exact tidy_intercalate hws

/-- A text that normalizing leaves alone, also once its first letter is raised or lowered: it is
tidy. -/
structure Normal (t : Text) : Prop where
  tidy : Tidy t
  self : normalize t = t
  raised : ∀ u, RaisesFirst t u → Tidy u ∧ normalize u = u
  lowered : ∀ u, LowersFirst t u → Tidy u ∧ normalize u = u

theorem Normal.of_normalize_eq {t : Text} (h : normalize t = t) : Normal t where
  tidy := tidy_iff.2 h
  self := h
  raised u hu := by
    have hself : normalize u = u := raisesFirst_iff.1 hu ▸ normalize_capitalize h
    exact ⟨tidy_iff.2 hself, hself⟩
  lowered u hu := by
    have hself : normalize u = u := lowersFirst_iff.1 hu ▸ normalize_uncapitalize h
    exact ⟨tidy_iff.2 hself, hself⟩

end Text

end Cardwright
