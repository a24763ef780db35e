import Cardwright.Text.Blank
import Mathlib.Data.List.Basic

/-!
# Words and normal texts

A word is nonempty and holds no blank.  A word in front of a blank, or at the end, is read as a word
(`words_append`), and nothing is read across a blank (`words_append_blank`).  So words with single
spaces between them are read back as they are (`words_intercalate`).  Hence normalizing a second
time changes nothing (`normalize_normalize`), and the normal texts are exactly the words with single
spaces between them (`normalize_eq_self_iff`).

The words of a text are its longest runs without a blank.  `HasWords` says this without the function
that reads them, and `hasWords_iff` that the two agree.

A text with a word is visible, and normalizing keeps it so (`Visible.normalize`).
-/

namespace Cardwright.Text

/-- A nonempty text without blanks. -/
def IsWord (w : Text) : Prop := w ≠ [] ∧ ∀ c ∈ w, isBlank c = false

/-- A text that is over or goes on with a blank, so that a word in front of it ends. -/
def EndsWord (t : Text) : Prop := ∀ c ∈ t.head?, isBlank c = true

/-- A word that ends is the first one that is read. -/
theorem words_append {w t : Text} (hw : IsWord w) (ht : EndsWord t) :
    words (w ++ t) = w :: words t := by
  obtain ⟨hne, hw⟩ := hw
  induction w with
  | nil => exact absurd rfl hne
  | cons c w ih =>
    obtain ⟨hc, hw⟩ := List.forall_mem_cons.1 hw
    match w, hw with
    | [], _ =>
      -- The last character of the word: what follows does not touch it.
      have hfront : t.head?.any (!isBlank ·) = false := by
        cases h : t.head? with
        | none => rfl
        | some d => simp [ht d h]
      cases hwords : words t <;> simp [words, hc, hfront, hwords, attach]
    | d :: w, hw =>
      -- A character before the last is put into the word that begins behind it.
      have hrest := ih (by simp) hw
      rw [List.cons_append, words, hc, hrest]
      simp [attach, hw d]

theorem attach_false (c : Char) (ws : List Text) : attach c false ws = [c] :: ws := by
  cases ws <;> rfl

/-- Nothing is read across a blank. -/
theorem words_append_blank {b : Char} (hb : isBlank b = true) (x y : Text) :
    words (x ++ b :: y) = words x ++ words y := by
  induction x with
  | nil => simp [words, hb]
  | cons c x ih =>
    rw [List.cons_append, words, words, ih]
    by_cases hc : isBlank c = true
    · rw [if_pos hc, if_pos hc]
    · rw [if_neg hc, if_neg hc]
      cases x with
      | nil => simp [words, hb, attach_false]
      | cons d x =>
        by_cases hd : isBlank d = true
        · simp [hd, attach_false]
        · -- The character is put into a word that stands in front of the blank.
          obtain ⟨w, ws, hw⟩ : ∃ w ws, words (d :: x) = w :: ws :=
            List.exists_cons_of_ne_nil fun hnil => hd (words_eq_nil_iff.1 hnil d (by simp))
          simp [hw, hd, attach]

/-- Blanks in front are no part of a word. -/
theorem words_blanks_append {bs : Text} (hbs : ∀ b ∈ bs, isBlank b = true) (t : Text) :
    words (bs ++ t) = words t := by
  induction bs with
  | nil => rfl
  | cons b bs ih =>
    obtain ⟨hb, hbs⟩ := List.forall_mem_cons.1 hbs
    rw [List.cons_append, words, if_pos hb, ih hbs]

/-- Nothing is read across blanks. -/
theorem words_append_blanks {bs : Text} (hne : bs ≠ []) (hbs : ∀ b ∈ bs, isBlank b = true)
    (x y : Text) : words (x ++ (bs ++ y)) = words x ++ words y := by
  obtain ⟨b, bs, rfl⟩ := List.exists_cons_of_ne_nil hne
  obtain ⟨hb, hbs⟩ := List.forall_mem_cons.1 hbs
  rw [List.cons_append, words_append_blank hb, words_blanks_append hbs]

/-- **Induction along the blanks of a text.**  It has none, or it is two such texts with a blank
between them. -/
theorem blank_induction {P : Text → Prop} (word : ∀ w, (∀ c ∈ w, isBlank c = false) → P w)
    (blank : ∀ s b t, isBlank b = true → P s → P t → P (s ++ b :: t)) (t : Text) : P t := by
  induction hn : t.length using Nat.strongRecOn generalizing t with
  | ind n ih =>
    by_cases h : ∃ b ∈ t, isBlank b = true
    · obtain ⟨b, hmem, hb⟩ := h
      obtain ⟨s, u, rfl⟩ := List.append_of_mem hmem
      rw [List.length_append, List.length_cons] at hn
      exact blank s b u hb (ih s.length (by omega) s rfl) (ih u.length (by omega) u rfl)
    · exact word t fun c hc => by simpa using fun hb => h ⟨c, hc, hb⟩

theorem words_trimStart_append (x y : Text) : words (trimStart x ++ y) = words (x ++ y) := by
  have hfront : ∀ b ∈ x.takeWhile isBlank, isBlank b = true := List.all_eq_true.1 List.all_takeWhile
  rw [← words_blanks_append hfront, ← List.append_assoc, trimStart,
    List.takeWhile_append_dropWhile]

/-- Words with single spaces between them are read back. -/
theorem words_intercalate {ws : List Text} (h : ∀ w ∈ ws, IsWord w) :
    words ([' '].intercalate ws) = ws := by
  match ws with
  | [] => rfl
  | [w] =>
    have hlast := words_append (h w (by simp)) (t := []) (by simp [EndsWord])
    simpa [words] using hlast
  | w :: w' :: ws =>
    have hrest : words ([' '].intercalate (w' :: ws)) = w' :: ws :=
      words_intercalate fun v hv => h v (List.mem_cons_of_mem _ hv)
    have hends : EndsWord (' ' :: [' '].intercalate (w' :: ws)) := by simp [EndsWord, isBlank]
    have hfirst := words_append (h w (by simp)) hends
    rw [words, if_pos (by decide), hrest] at hfirst
    simpa [List.intercalate_cons_cons] using hfirst

theorem words_normalize (t : Text) : words (normalize t) = words t :=
  words_intercalate fun _ => ne_nil_of_mem_words

theorem normalize_normalize (t : Text) : normalize (normalize t) = normalize t :=
  congrArg [' '].intercalate (words_normalize t)

/-- The normal texts are the words with single spaces between them. -/
theorem normalize_eq_self_iff {t : Text} :
    normalize t = t ↔ ∃ ws : List Text, (∀ w ∈ ws, IsWord w) ∧ t = [' '].intercalate ws := by
  constructor
  · intro h
    exact ⟨words t, fun _ hw => ne_nil_of_mem_words hw, h.symm⟩
  · rintro ⟨ws, hws, rfl⟩
    rw [normalize, words_intercalate hws]

/-! ### Longest runs without a blank -/

/-- The code points of the characters with the property `White_Space`. -/
def blankCodes : List Nat :=
  [0x9, 0xA, 0xB, 0xC, 0xD, 0x20, 0x85, 0xA0, 0x1680, 0x2000, 0x2001, 0x2002, 0x2003, 0x2004,
    0x2005, 0x2006, 0x2007, 0x2008, 0x2009, 0x200A, 0x2028, 0x2029, 0x202F, 0x205F, 0x3000]

/-- A blank, by its code point. -/
def Blank (c : Char) : Prop := c.toNat ∈ blankCodes

instance : DecidablePred Blank := fun c => inferInstanceAs (Decidable (c.toNat ∈ blankCodes))

theorem isBlank_iff {c : Char} : isBlank c = true ↔ Blank c := by
  simp only [isBlank, Blank, blankCodes, Bool.or_eq_true, Bool.and_eq_true, decide_eq_true_eq,
    beq_iff_eq, List.mem_cons, List.not_mem_nil, or_false]
  omega

theorem isBlank_eq_false_iff {c : Char} : isBlank c = false ↔ ¬ Blank c := by
  rw [← isBlank_iff, Bool.not_eq_true]

/-- A text has some words, which are its longest runs without a blank: it is blank, or behind blanks
there is a word that ends, and the other words follow. -/
inductive HasWords : Text → List Text → Prop
  | nil {bs : Text} (hbs : ∀ b ∈ bs, Blank b) : HasWords bs []
  | cons {bs w t : Text} {ws : List Text} (hbs : ∀ b ∈ bs, Blank b) (hne : w ≠ [])
      (hw : ∀ c ∈ w, ¬ Blank c) (hends : ∀ c ∈ t.head?, Blank c) (hrest : HasWords t ws) :
      HasWords (bs ++ (w ++ t)) (w :: ws)

theorem HasWords.words_eq {t : Text} {ws : List Text} (h : HasWords t ws) : words t = ws := by
  induction h with
  | nil hbs => exact words_eq_nil_iff.2 fun b hb => isBlank_iff.2 (hbs b hb)
  | cons hbs hne hw hends _ ih =>
    have hword : IsWord _ := ⟨hne, fun c hc => isBlank_eq_false_iff.2 (hw c hc)⟩
    rw [words_blanks_append fun b hb => isBlank_iff.2 (hbs b hb),
      words_append hword fun c hc => isBlank_iff.2 (hends c hc), ih]

/-- A text is a run of characters of a class, and what is behind goes on with none of them. -/
theorem exists_run (p : Char → Bool) (t : Text) :
    ∃ run rest, t = run ++ rest ∧ (∀ c ∈ run, p c = true) ∧ ∀ c ∈ rest.head?, p c = false := by
  refine ⟨t.takeWhile p, t.dropWhile p, List.takeWhile_append_dropWhile.symm,
    List.all_eq_true.1 List.all_takeWhile, fun c hc => ?_⟩
  have hhead := List.head?_dropWhile_not p t
  rw [Option.mem_def.1 hc] at hhead
  simpa using hhead

/-- By induction on the length: the first word is taken off with the blanks in front of it. -/
theorem hasWords_words (t : Text) : HasWords t (words t) := by
  induction hn : t.length using Nat.strongRecOn generalizing t with
  | ind n ih =>
    obtain ⟨bs, s, rfl, hbs, hfront⟩ := exists_run isBlank t
    obtain ⟨w, u, rfl, hw, hends⟩ := exists_run (!isBlank ·) s
    rw [words_blanks_append hbs]
    have hblanks : ∀ b ∈ bs, Blank b := fun b hb => isBlank_iff.1 (hbs b hb)
    by_cases hne : w = []
    · -- What is behind the blanks begins neither with a blank nor with a word.
      have hu : u = [] := by
        rw [hne, List.nil_append] at hfront
        refine List.head?_eq_none_iff.1 (Option.eq_none_iff_forall_not_mem.2 fun c hc => ?_)
        have hblank := hends c hc
        rw [hfront c hc] at hblank
        cases hblank
      rw [hne, hu, List.append_nil, List.append_nil]
      exact .nil hblanks
    · have hword : IsWord w := ⟨hne, fun c hc => by simpa using hw c hc⟩
      have hstop : EndsWord u := fun c hc => by simpa using hends c hc
      have hpos : 0 < w.length := List.length_pos_iff.2 hne
      rw [List.length_append, List.length_append] at hn
      rw [words_append hword hstop]
      exact .cons hblanks hne (fun c hc => isBlank_eq_false_iff.1 (hword.2 c hc))
        (fun c hc => isBlank_iff.1 (hstop c hc)) (ih u.length (by omega) u rfl)

/-- **The words of a text are its longest runs without a blank.** -/
theorem hasWords_iff {t : Text} {ws : List Text} : HasWords t ws ↔ words t = ws := by
  constructor
  · exact HasWords.words_eq
  · rintro rfl
    exact hasWords_words t

instance (t : Text) (ws : List Text) : Decidable (HasWords t ws) :=
  decidable_of_iff _ hasWords_iff.symm

/-! ### Visible texts -/

/-- A text with a character that is not blank. -/
def Visible (t : Text) : Prop := ∃ c ∈ t, isBlank c = false

instance (t : Text) : Decidable (Visible t) :=
  decidable_of_iff (t.any (!isBlank ·) = true) (by simp [Visible])

theorem visible_iff_words_ne_nil {t : Text} : Visible t ↔ words t ≠ [] := by
  rw [ne_eq, words_eq_nil_iff]
  simp [Visible]

theorem Visible.append_right {t : Text} (h : Visible t) (u : Text) : Visible (t ++ u) := by
  obtain ⟨c, hmem, hc⟩ := h
  exact ⟨c, List.mem_append_left u hmem, hc⟩

theorem Visible.append_left {t : Text} (h : Visible t) (u : Text) : Visible (u ++ t) := by
  obtain ⟨c, hmem, hc⟩ := h
  exact ⟨c, List.mem_append_right u hmem, hc⟩

/-- Words with spaces between them are visible as soon as there is one. -/
theorem visible_intercalate {ws : List Text} (h : ∀ w ∈ ws, IsWord w) (hne : ws ≠ []) :
    Visible ([' '].intercalate ws) := by
  rw [visible_iff_words_ne_nil, words_intercalate h]
  exact hne

theorem Visible.normalize {t : Text} (h : Visible t) : Visible (normalize t) :=
  visible_intercalate (fun _ => ne_nil_of_mem_words) (visible_iff_words_ne_nil.1 h)

/-! ### Characters of words -/

theorem mem_of_mem_attach {c d : Char} {touches : Bool} {ws : List Text} {w : Text}
    (hw : w ∈ attach c touches ws) (hd : d ∈ w) : d = c ∨ ∃ v ∈ ws, d ∈ v := by
  match ws, touches with
  | [], _ =>
    obtain rfl : w = [c] := by simpa [attach] using hw
    exact .inl (by simpa using hd)
  | v :: ws, true =>
    rcases List.mem_cons.1 hw with rfl | hmem
    · rcases List.mem_cons.1 hd with rfl | hv
      · exact .inl rfl
      · exact .inr ⟨v, by simp, hv⟩
    · exact .inr ⟨w, List.mem_cons_of_mem _ hmem, hd⟩
  | v :: ws, false =>
    rcases List.mem_cons.1 hw with rfl | hmem
    · exact .inl (by simpa using hd)
    · exact .inr ⟨w, hmem, hd⟩

theorem mem_of_mem_words {t w : Text} {d : Char} (hw : w ∈ words t) (hd : d ∈ w) : d ∈ t := by
  induction t generalizing w with
  | nil => simp [words] at hw
  | cons c t ih =>
    rw [words] at hw
    split at hw
    · exact List.mem_cons_of_mem _ (ih hw hd)
    · rcases mem_of_mem_attach hw hd with rfl | ⟨v, hv, hdv⟩
      · exact List.mem_cons_self
      · exact List.mem_cons_of_mem _ (ih hv hdv)

theorem mem_of_mem_intercalate {ws : List Text} {d : Char} (h : d ∈ [' '].intercalate ws) :
    d = ' ' ∨ ∃ w ∈ ws, d ∈ w := by
  match ws with
  | [] => simp at h
  | [w] => exact .inr ⟨w, by simp, by simpa using h⟩
  | w :: w' :: ws =>
    simp only [List.intercalate_cons_cons, List.append_assoc, List.mem_append,
      List.mem_singleton] at h
    rcases h with hw | rfl | hrest
    · exact .inr ⟨w, by simp, hw⟩
    · exact .inl rfl
    · rcases mem_of_mem_intercalate hrest with rfl | ⟨v, hv, hd⟩
      · exact .inl rfl
      · exact .inr ⟨v, List.mem_cons_of_mem _ hv, hd⟩

/-- Normalizing brings no character in but the space. -/
theorem mem_of_mem_normalize {t : Text} {d : Char} (h : d ∈ normalize t) : d = ' ' ∨ d ∈ t := by
  rcases mem_of_mem_intercalate h with rfl | ⟨w, hw, hd⟩
  · exact .inl rfl
  · exact .inr (mem_of_mem_words hw hd)

end Cardwright.Text
