import Cardwright.Proofs.Random.Outcome
import Cardwright.Proofs.Template.Reading
import Cardwright.Template.Fill

/-!
# What the passes keep

The passes of `Template.fillAll` build every template with `cons`, so its literals stay nonempty and
apart; and each of its segments comes from the template before or from the text of a fill, by
joining literals and by dropping the word "as".  A property of segments that survives those two
steps (`Hereditary`) therefore holds after a pass if it holds of what goes in, slots of the pass's
own kind aside, since those are filled (`returns_fillPass`).  The run of the passes follows by
induction on their number (`returns_fillAll`).

All of this holds of steps in any monad; for draws, a run of passes also succeeds if each fill does
(`succeeds_fillAll`).
-/

namespace Cardwright

namespace Placeholder

theorem take_rank_succ (k : Placeholder) : all.take (k.rank + 1) = all.take k.rank ++ [k] := by
  cases k <;> rfl

theorem exists_rank_eq {n : Nat} (h : n < all.length) : ∃ k : Placeholder, k.rank = n := by
  match n, h with
  | 0, _ => exact ⟨.tag, rfl⟩
  | 1, _ => exact ⟨.times, rfl⟩
  | 2, _ => exact ⟨.value, rfl⟩
  | 3, _ => exact ⟨.duration, rfl⟩
  | 4, _ => exact ⟨.percent, rfl⟩

theorem rank_injective : Function.Injective rank := by
  intro p q h
  cases p <;> cases q <;> first | rfl | cases h

end Placeholder

namespace Template

/-! ### The word that is dropped -/

/-- A blank is no capital, so lowering leaves it as it is. -/
theorem toLower_of_isBlank {c : Char} (h : Text.isBlank c = true) : c.toLower = c := by
  have hcapital : ¬ (c.val ≥ 'A'.val ∧ c.val ≤ 'Z'.val) := by
    rintro ⟨hlow, hhigh⟩
    have hlow : 65 ≤ c.toNat := hlow
    have hhigh : c.toNat ≤ 90 := hhigh
    simp only [Text.isBlank, Bool.or_eq_true, Bool.and_eq_true, decide_eq_true_eq,
      beq_iff_eq] at h
    omega
  exact dif_neg hcapital

theorem isBlank_eq_false_of_toLower {c d : Char} (h : c.toLower = d)
    (hd : Text.isBlank d = false) : Text.isBlank c = false := by
  by_contra hblank
  rw [Bool.not_eq_false] at hblank
  rw [← h, toLower_of_isBlank hblank, hblank] at hd
  cases hd

theorem isBlank_a {c : Char} (h : c.toLower = 'a') : Text.isBlank c = false :=
  isBlank_eq_false_of_toLower h (by decide)

/-- Where the word "as" stands behind blanks, with a blank behind it, the rest is what follows
them. -/
theorem behindAs?_eq_some_iff {t rest : Text} :
    behindAs? t = some rest ↔
      ∃ (blanks : Text) (a s c : Char) (more : Text), t = blanks ++ a :: s :: c :: more ∧
        (∀ b ∈ blanks, Text.isBlank b = true) ∧ a.toLower = 'a' ∧ s.toLower = 's' ∧
        Text.isBlank c = true ∧ rest = Text.trimStart more := by
  constructor
  · intro h
    unfold behindAs? at h
    split at h
    · next a s c more htrim =>
      split at h
      · next hword =>
        refine ⟨t.takeWhile Text.isBlank, a, s, c, more, ?_, List.all_eq_true.1 List.all_takeWhile,
          hword.1, hword.2.1, hword.2.2, (Option.some.inj h).symm⟩
        rw [← htrim]
        exact List.takeWhile_append_dropWhile.symm
      · cases h
    · cases h
  · rintro ⟨blanks, a, s, c, more, rfl, hblanks, ha, hs, hc, rfl⟩
    have htrim : Text.trimStart (blanks ++ a :: s :: c :: more) = a :: s :: c :: more := by
      rw [Text.trimStart, List.dropWhile_append_of_pos hblanks, List.dropWhile_cons,
        if_neg (by simp [isBlank_a ha])]
    rw [behindAs?, htrim]
    exact if_pos ⟨ha, hs, hc⟩

/-- The word is dropped with the blanks behind it; those before it stay. -/
theorem dropAs_append_word {blanks more : Text} {a s c : Char}
    (hblanks : ∀ b ∈ blanks, Text.isBlank b = true) (ha : a.toLower = 'a') (hs : s.toLower = 's')
    (hc : Text.isBlank c = true) :
    dropAs (blanks ++ a :: s :: c :: more) = blanks ++ Text.trimStart more := by
  have hrest := behindAs?_eq_some_iff.2 ⟨blanks, a, s, c, more, rfl, hblanks, ha, hs, hc, rfl⟩
  rw [dropAs, hrest]
  have htake : (blanks ++ a :: s :: c :: more).takeWhile Text.isBlank = blanks := by
    rw [List.takeWhile_append_of_pos hblanks, List.takeWhile_cons,
      if_neg (by simp [isBlank_a ha]), List.append_nil]
  exact congrArg (· ++ Text.trimStart more) htake

/-- What is behind the word "as" is the end of the text. -/
theorem suffix_of_behindAs? {t rest : Text} (h : behindAs? t = some rest) : rest <:+ t := by
  obtain ⟨blanks, a, s, c, more, rfl, -, -, -, -, rfl⟩ := behindAs?_eq_some_iff.1 h
  have hmore : Text.trimStart more <:+ [a, s, c] ++ more :=
    (List.dropWhile_suffix _).trans (List.suffix_append _ _)
  exact hmore.trans (List.suffix_append blanks _)

theorem mem_of_mem_dropAs {t : Text} {c : Char} (h : c ∈ dropAs t) : c ∈ t := by
  unfold dropAs at h
  split at h
  · next rest hrest =>
    rcases List.mem_append.1 h with hblank | hin
    · exact (List.takeWhile_prefix _).subset hblank
    · exact (suffix_of_behindAs? hrest).subset hin
  · exact h

/-! ### Properties of segments -/

/-- A property of segments that joining literals and dropping the word "as" keep. -/
structure Hereditary (S : Segment → Prop) : Prop where
  append : ∀ a b : Text, S (.literal a) → S (.literal b) → S (.literal (a ++ b))
  dropAs : ∀ a : Text, S (.literal a) → S (.literal (dropAs a))

variable {S : Segment → Prop}

theorem Hereditary.consLiteral (hS : Hereditary S) {l : Text} {t : Template}
    (hl : S (.literal l)) (ht : ∀ s ∈ t, S s) : ∀ s ∈ consLiteral l t, S s := by
  rcases literal_cons_or_opensWithSlot t with ⟨next, u, rfl⟩ | hopen
  · intro s hs
    rcases List.mem_cons.1 hs with rfl | hmem
    · exact hS.append l next hl (ht _ List.mem_cons_self)
    · exact ht s (List.mem_cons_of_mem _ hmem)
  · by_cases hnil : l = []
    · rwa [hnil, consLiteral_nil]
    · rw [consLiteral_of_opensWithSlot hnil hopen]
      exact List.forall_mem_cons.2 ⟨hl, ht⟩

theorem Hereditary.splice (hS : Hereditary S) {front back : Template} (hfront : ∀ s ∈ front, S s)
    (hback : ∀ s ∈ back, S s) : ∀ s ∈ splice front back, S s := by
  induction front with
  | nil => exact hback
  | cons s front ih =>
    obtain ⟨hs, htail⟩ := List.forall_mem_cons.1 hfront
    cases s with
    | literal l => exact hS.consLiteral hs (ih htail)
    | slot p => exact List.forall_mem_cons.2 ⟨hs, ih htail⟩

/-! ### One pass -/

section Passes

variable {m : Type → Type} [Monad m] [LawfulMonad m] {fill : Placeholder → Bool → m Fill}

/-- **One pass.**  What it returns is merged, and has a hereditary property that the texts of its
fills have and the template before has, the slots that are filled aside. -/
theorem returns_fillPass (hS : Hereditary S) {kind : Placeholder}
    (hfill : ∀ flag, Returns (fun f => ∀ s ∈ parse f.text, S s) (fill kind flag)) (drops : Bool)
    {t : Template} (ht : ∀ s ∈ t, s ≠ .slot kind → S s) :
    Returns (fun u => Merged u ∧ ∀ s ∈ u, S s) (fillPass fill kind drops t) := by
  -- The flag differs from segment to segment: the fill of a slot sets it for what follows.
  induction t generalizing drops with
  | nil => exact returns_pure ⟨merged_nil, by simp⟩
  | cons s t ih =>
    obtain ⟨hs, htail⟩ := List.forall_mem_cons.1 ht
    cases s with
    | literal l =>
      rw [fillPass]
      refine (ih false htail).bind fun u ⟨hmerged, hu⟩ =>
        returns_pure ⟨merged_consLiteral hmerged, ?_⟩
      have hl : S (.literal l) := hs (by simp)
      refine hS.consLiteral ?_ hu
      split
      · exact hS.dropAs l hl
      · exact hl
    | slot p =>
      rw [fillPass]
      split
      · refine (hfill _).bind fun f hf => ?_
        exact (ih _ htail).bind fun u ⟨hmerged, hu⟩ =>
          returns_pure ⟨merged_splice hmerged, hS.splice hf hu⟩
      · next hne =>
        refine (ih false htail).bind fun u ⟨hmerged, hu⟩ =>
          returns_pure ⟨merged_slot_cons.2 hmerged, List.forall_mem_cons.2 ⟨hs ?_, hu⟩⟩
        simpa using hne

/-! ### The run of the passes -/

theorem fillAll_take_rank_succ (k : Placeholder) (t : Template) :
    fillAll fill (Placeholder.all.take (k.rank + 1)) t =
      fillAll fill (Placeholder.all.take k.rank) t >>= fillPass fill k false := by
  rw [Placeholder.take_rank_succ, fillAll, List.foldlM_append]
  simp [fillAll]

/-- **The run.**  Let `S n` be what holds of the segments once `n` passes are over.  If it is
hereditary, if each pass makes it one stronger by filling its slots, and if each fill brings only
segments that its pass may leave behind, then it holds after any number of passes. -/
theorem returns_fillAll {S : Nat → Segment → Prop} (hS : ∀ n, Hereditary (S n))
    (hstep : ∀ (k : Placeholder) (s : Segment), S k.rank s → s ≠ .slot k → S (k.rank + 1) s)
    (hfill : ∀ k flag, Returns (fun f => ∀ s ∈ parse f.text, S (k.rank + 1) s) (fill k flag))
    {t : Template} (hmerged : Merged t) (ht : ∀ s ∈ t, S 0 s) {n : Nat}
    (hn : n ≤ Placeholder.all.length) :
    Returns (fun u => Merged u ∧ ∀ s ∈ u, S n s) (fillAll fill (Placeholder.all.take n) t) := by
  induction n with
  | zero => exact returns_pure ⟨hmerged, ht⟩
  | succ n ih =>
    -- The pass that comes next is that of the one kind with this place.
    obtain ⟨k, rfl⟩ := Placeholder.exists_rank_eq hn
    rw [fillAll_take_rank_succ]
    refine (ih (Nat.le_of_succ_le hn)).bind fun u ⟨_, hu⟩ => ?_
    exact returns_fillPass (hS _) (hfill k) false fun s hs hne => hstep k s (hu s hs) hne

theorem resolveWith_eq_map (text : Text) :
    resolveWith fill text =
      (fun u => Text.normalize (render u)) <$> fillAll fill Placeholder.all (parse text) := by
  rw [resolveWith, map_eq_pure_bind]

end Passes

/-! ### Draws -/

section Draws

variable {σ : Type} {fill : Placeholder → Bool → Draw σ Fill}

theorem succeeds_fillPass (hfill : ∀ k flag, Draw.Succeeds (fill k flag)) (kind : Placeholder)
    (drops : Bool) (t : Template) : Draw.Succeeds (fillPass fill kind drops t) := by
  induction t generalizing drops with
  | nil => exact Draw.succeeds_pure _
  | cons s t ih =>
    cases s with
    | literal l =>
      rw [fillPass]
      exact (ih false).bind fun _ => Draw.succeeds_pure _
    | slot p =>
      rw [fillPass]
      split
      · exact (hfill kind _).bind fun _ => (ih _).bind fun _ => Draw.succeeds_pure _
      · exact (ih false).bind fun _ => Draw.succeeds_pure _

/-- A run of passes succeeds if the fills do. -/
theorem succeeds_fillAll (hfill : ∀ k flag, Draw.Succeeds (fill k flag)) (kinds : List Placeholder)
    (t : Template) : Draw.Succeeds (fillAll fill kinds t) := by
  induction kinds generalizing t with
  | nil => exact Draw.succeeds_pure _
  | cons k kinds ih =>
    rw [fillAll, List.foldlM_cons]
    exact (succeeds_fillPass hfill k false t).bind fun u => ih u

end Draws

end Template

end Cardwright
