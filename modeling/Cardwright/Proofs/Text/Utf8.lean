import Cardwright.Proofs.Text.Ascii
import Cardwright.Proofs.Text.Case

/-!
# Text in UTF-8

In memory a text is a sequence of bytes, each character taking one to four of them (`Text.utf8`).
An ASCII character is one byte, and no byte of another character is in ASCII (`ascii_or_beyond`), so
words, letters and brackets can be told by their bytes.  The bytes of one text begin those of
another only if the texts do (`Text.utf8_prefix_iff`).

A part of the bytes is cut out by `Bytes.slice?`, which fails where it would cut a character: it
gives exactly the bytes of the parts of the text (`Bytes.slice?_utf8_eq_some_iff`).
-/

namespace Cardwright

/-- A text as it lies in memory. -/
abbrev Bytes := List UInt8

namespace Text

/-- The bytes of a text in UTF-8. -/
def utf8 (t : Text) : Bytes := t.flatMap String.utf8EncodeChar

@[simp] theorem utf8_nil : utf8 [] = [] := rfl

theorem utf8_cons (c : Char) (t : Text) : utf8 (c :: t) = String.utf8EncodeChar c ++ utf8 t := rfl

theorem utf8_singleton (c : Char) : utf8 [c] = String.utf8EncodeChar c := List.append_nil _

@[simp] theorem utf8_append (s t : Text) : utf8 (s ++ t) = utf8 s ++ utf8 t :=
  List.flatMap_append

theorem length_utf8 (t : Text) : (utf8 t).length = byteLength t := by
  induction t with
  | nil => rfl
  | cons c t ih =>
    rw [utf8_cons, List.length_append, ih, String.length_utf8EncodeChar, byteLength_cons]

theorem length_utf8_concat (t : Text) (c : Char) :
    (utf8 (t ++ [c])).length = (utf8 t).length + (String.utf8EncodeChar c).length := by
  rw [utf8_append, List.length_append, utf8_singleton]

theorem length_utf8EncodeChar_pos (c : Char) : 0 < (String.utf8EncodeChar c).length := by
  rw [String.length_utf8EncodeChar]
  exact c.utf8Size_pos

theorem length_utf8_eq {s t : Text} (h : EqIgnoringCase s t) :
    (utf8 s).length = (utf8 t).length := by
  rw [length_utf8, length_utf8, h.byteLength_eq]

theorem length_utf8_eq_zero {t : Text} (h : (utf8 t).length = 0) : t = [] :=
  eq_nil_of_byteLength_eq_zero (length_utf8 t ▸ h)

/-- The bytes of texts are what is valid UTF-8. -/
theorem isValidUTF8_iff {b : Bytes} : b.toByteArray.IsValidUTF8 ↔ ∃ t, b = utf8 t := by
  constructor
  · rintro ⟨t, ht⟩
    refine ⟨t, ?_⟩
    have hlist := congrArg (fun a : ByteArray => a.data.toList) ht
    simpa [List.utf8Encode, utf8] using hlist
  · rintro ⟨t, rfl⟩
    exact ⟨t, rfl⟩

/-- The first character can be told from its bytes, whatever stands behind them. -/
theorem eq_of_utf8EncodeChar_append {c d : Char} {x y : Bytes}
    (h : String.utf8EncodeChar c ++ x = String.utf8EncodeChar d ++ y) : c = d ∧ x = y := by
  have hdecode : ∀ (e : Char) (z : Bytes),
      (String.utf8EncodeChar e ++ z).toByteArray.utf8DecodeChar? 0 = some e := by
    intro e z
    rw [List.toByteArray_append]
    exact ByteArray.utf8DecodeChar?_utf8EncodeChar_append
  have hc := hdecode c x
  rw [h, hdecode d y] at hc
  obtain rfl := Option.some.inj hc
  exact ⟨rfl, List.append_cancel_left h⟩

/-- The bytes of a text begin those of another one exactly if the text begins the other one. -/
theorem utf8_prefix_iff {s t : Text} : utf8 s <+: utf8 t ↔ s <+: t := by
  constructor
  · intro h
    induction s generalizing t with
    | nil => exact List.nil_prefix
    | cons c s ih =>
      obtain ⟨rest, hrest⟩ := h
      cases t with
      | nil => simp [utf8_cons] at hrest
      | cons d t =>
        rw [utf8_cons, utf8_cons, List.append_assoc] at hrest
        obtain ⟨rfl, htail⟩ := eq_of_utf8EncodeChar_append hrest
        exact List.cons_prefix_cons.2 ⟨rfl, ih ⟨rest, htail⟩⟩
  · rintro ⟨rest, rfl⟩
    rw [utf8_append]
    exact List.prefix_append _ _

/-! ### Bytes of characters -/

/-- An ASCII character is one byte, and no byte of another character is in ASCII. -/
theorem ascii_or_beyond (c : Char) :
    (c.toNat < 128 ∧ String.utf8EncodeChar c = [UInt8.ofNat c.toNat]) ∨
      (128 ≤ c.toNat ∧ ∀ b ∈ String.utf8EncodeChar c, 128 ≤ b.toNat) := by
  have hv : c.val.toNat = c.toNat := rfl
  unfold String.utf8EncodeChar
  simp only [hv]
  split_ifs with h₁ h₂ h₃
  · exact Or.inl ⟨by omega, rfl⟩
  all_goals
    refine Or.inr ⟨by omega, ?_⟩
    simp only [List.forall_mem_cons, UInt8.toNat_ofNat', List.not_mem_nil, false_imp_iff,
      implies_true, and_true]
    omega

/-- A property of a character and a byte holds of each character and its bytes, if it holds of the
ASCII characters and of any other character with any other byte. -/
theorem forall_mem_utf8EncodeChar {P : Char → UInt8 → Prop}
    (ascii : ∀ n < 128, P (Char.ofNat n) (UInt8.ofNat n))
    (beyond : ∀ c b, 128 ≤ c.toNat → 128 ≤ b.toNat → P c b) (c : Char) :
    ∀ b ∈ String.utf8EncodeChar c, P c b := by
  rcases ascii_or_beyond c with ⟨hc, heq⟩ | ⟨hc, hbytes⟩
  · rw [heq, List.forall_mem_singleton]
    have hP := ascii c.toNat hc
    rwa [Char.ofNat_toNat] at hP
  · exact fun b hb => beyond c b hc (hbytes b hb)

/-- Beyond ASCII there are no letters in the sense of ASCII. -/
theorem isAlpha_of_le {c : Char} (h : 128 ≤ c.toNat) : c.isAlpha = false := by
  by_contra hne
  have hrange := toNat_of_isAlpha (Bool.not_eq_false _ ▸ hne)
  omega

theorem toLower_of_le {c : Char} (h : 128 ≤ c.toNat) : c.toLower = c := by
  refine Char.toLower_eq_of_not_isUpper fun hupper => ?_
  have halpha := isAlpha_of_le h
  rw [Char.isAlpha, hupper, Bool.true_or] at halpha
  cases halpha

theorem toUpper_of_le {c : Char} (h : 128 ≤ c.toNat) : c.toUpper = c := by
  refine Char.toUpper_eq_of_not_isLower fun hlower => ?_
  have halpha := isAlpha_of_le h
  rw [Char.isAlpha, hlower, Bool.or_true] at halpha
  cases halpha

theorem isWordChar_of_le {c : Char} (h : 128 ≤ c.toNat) : isWordChar c = false := by
  have hdigit : c.isDigit = false := by
    rw [Char.isDigit, Bool.and_eq_false_iff, decide_eq_false_iff_not, decide_eq_false_iff_not]
    refine Or.inr fun hle => ?_
    have hle : c.toNat ≤ 57 := hle
    omega
  have hscore : c ≠ '_' := by
    rintro rfl
    exact absurd h (by decide)
  rw [isWordChar, Char.isAlphanum, isAlpha_of_le h, hdigit, beq_false_of_ne hscore]
  rfl

/-- A character of a word is one byte. -/
theorem utf8EncodeChar_of_isWordChar {c : Char} (h : isWordChar c = true) :
    String.utf8EncodeChar c = [UInt8.ofNat c.toNat] := by
  rcases ascii_or_beyond c with ⟨-, heq⟩ | ⟨hle, -⟩
  · exact heq
  · rw [isWordChar_of_le hle] at h
    cases h

end Text

namespace Bytes

open Text

/-- Lower a byte that is an ASCII letter. -/
def lower (b : UInt8) : UInt8 := if 65 ≤ b.toNat ∧ b.toNat ≤ 90 then b + 32 else b

/-- Raise a byte that is an ASCII letter. -/
def upper (b : UInt8) : UInt8 := if 97 ≤ b.toNat ∧ b.toNat ≤ 122 then b - 32 else b

/-- The bytes that words consist of: ASCII letters, digits and the underscore. -/
def isWord (b : UInt8) : Bool :=
  let n := b.toNat
  (48 ≤ n && n ≤ 57) || (65 ≤ n && n ≤ 90) || (97 ≤ n && n ≤ 122) || n == 95

/-- Each byte of a character says whether the character belongs to words. -/
theorem isWord_of_mem {c : Char} {b : UInt8} (hb : b ∈ String.utf8EncodeChar c) :
    isWord b = isWordChar c := by
  refine forall_mem_utf8EncodeChar (P := fun c b => isWord b = isWordChar c) ?_ ?_ c b hb
  · decide +kernel
  · intro c b hc hb
    rw [isWordChar_of_le hc, isWord]
    simp only [Bool.or_eq_false_iff, Bool.and_eq_false_iff, decide_eq_false_iff_not,
      beq_eq_false_iff_ne]
    omega

theorem lower_of_le {b : UInt8} (h : 128 ≤ b.toNat) : lower b = b := if_neg (by omega)

theorem upper_of_le {b : UInt8} (h : 128 ≤ b.toNat) : upper b = b := if_neg (by omega)

/-- A change of ASCII bytes changes the bytes of a character as the like change of ASCII characters
changes the character. -/
theorem map_utf8EncodeChar {f : UInt8 → UInt8} {g : Char → Char}
    (ascii : ∀ n < 128, (String.utf8EncodeChar (Char.ofNat n)).map f =
      String.utf8EncodeChar (g (Char.ofNat n)))
    (hf : ∀ b, 128 ≤ b.toNat → f b = b) (hg : ∀ c, 128 ≤ c.toNat → g c = c) (c : Char) :
    (String.utf8EncodeChar c).map f = String.utf8EncodeChar (g c) := by
  rcases ascii_or_beyond c with ⟨hc, -⟩ | ⟨hc, hbytes⟩
  · exact forall_ascii (P := fun c => (String.utf8EncodeChar c).map f =
      String.utf8EncodeChar (g c)) ascii hc
  · rw [hg c hc]
    exact (List.map_congr_left fun b hb => hf b (hbytes b hb)).trans (List.map_id _)

theorem map_lower_utf8EncodeChar (c : Char) :
    (String.utf8EncodeChar c).map lower = String.utf8EncodeChar c.toLower :=
  map_utf8EncodeChar (by decide +kernel) (fun _ => lower_of_le) (fun _ => toLower_of_le) c

theorem map_upper_utf8EncodeChar (c : Char) :
    (String.utf8EncodeChar c).map upper = String.utf8EncodeChar c.toUpper :=
  map_utf8EncodeChar (by decide +kernel) (fun _ => upper_of_le) (fun _ => toUpper_of_le) c

/-- Lowering a text is lowering its bytes. -/
theorem map_lower_utf8 (t : Text) : (utf8 t).map lower = utf8 (lowerAscii t) := by
  induction t with
  | nil => rfl
  | cons c t ih =>
    rw [utf8_cons, List.map_append, ih, map_lower_utf8EncodeChar]
    rfl

/-- An ASCII character stands in a text exactly if its byte stands among the bytes. -/
theorem ofNat_mem_utf8_iff {c : Char} (hc : c.toNat < 128) {t : Text} :
    UInt8.ofNat c.toNat ∈ utf8 t ↔ c ∈ t := by
  have hbyte : (UInt8.ofNat c.toNat).toNat = c.toNat := by
    rw [UInt8.toNat_ofNat']
    omega
  rw [utf8, List.mem_flatMap]
  constructor
  · rintro ⟨d, hd, hmem⟩
    rcases ascii_or_beyond d with ⟨hascii, heq⟩ | ⟨-, hbytes⟩
    · rw [heq, List.mem_singleton] at hmem
      have hsame := congrArg UInt8.toNat hmem
      rw [hbyte, UInt8.toNat_ofNat'] at hsame
      have hcd : c = d := Char.toNat_inj.1 (by omega)
      rwa [hcd]
    · have hle := hbytes _ hmem
      omega
  · intro hmem
    refine ⟨c, hmem, ?_⟩
    rcases ascii_or_beyond c with ⟨-, heq⟩ | ⟨hle, -⟩
    · rw [heq]
      exact List.mem_singleton_self _
    · omega

/-! ### Cutting -/

/-- A place where the bytes of a text can be cut: at its ends, and where a character begins. -/
def IsBoundary (b : Bytes) (i : Nat) : Prop :=
  i = 0 ∨ i = b.length ∨ ∃ x ∈ b[i]?, x.IsUTF8FirstByte

instance (b : Bytes) : DecidablePred (IsBoundary b) := fun i =>
  inferInstanceAs (Decidable (i = 0 ∨ i = b.length ∨ ∃ x ∈ b[i]?, x.IsUTF8FirstByte))

/-- The bytes from one place to another one.  It fails if one of them is no place to cut at, or lies
behind the end, or if the second comes before the first. -/
def slice? (b : Bytes) (i j : Nat) : Option Bytes :=
  if i ≤ j ∧ j ≤ b.length ∧ IsBoundary b i ∧ IsBoundary b j then some (b.extract i j) else none

/-- A text can be cut exactly between its characters. -/
theorem isBoundary_utf8_iff {t : Text} {i : Nat} :
    IsBoundary (utf8 t) i ↔ ∃ s u, t = s ++ u ∧ i = (utf8 s).length := by
  constructor
  · intro h
    induction t generalizing i with
    | nil =>
      refine ⟨[], [], rfl, ?_⟩
      simpa [IsBoundary] using h
    | cons c t ih =>
      rcases h with rfl | rfl | ⟨x, hx, hfirst⟩
      · exact ⟨[], c :: t, rfl, rfl⟩
      · exact ⟨c :: t, [], (List.append_nil _).symm, rfl⟩
      · rw [utf8_cons] at hx
        by_cases hi : i < (String.utf8EncodeChar c).length
        · -- Of the bytes of one character only the first one begins it.
          rw [List.getElem?_append_left hi, List.getElem?_eq_getElem hi, Option.mem_some] at hx
          rw [← hx, UInt8.isUTF8FirstByte_getElem_utf8EncodeChar] at hfirst
          exact ⟨[], c :: t, rfl, hfirst⟩
        · rw [not_lt] at hi
          rw [List.getElem?_append_right hi] at hx
          obtain ⟨s, u, rfl, hs⟩ := ih (Or.inr (Or.inr ⟨x, hx, hfirst⟩))
          refine ⟨c :: s, u, rfl, ?_⟩
          rw [utf8_cons, List.length_append, ← hs]
          omega
  · rintro ⟨s, u, rfl, rfl⟩
    cases u with
    | nil =>
      rw [List.append_nil]
      exact Or.inr (Or.inl rfl)
    | cons c u =>
      have hpos := length_utf8EncodeChar_pos c
      refine Or.inr (Or.inr ⟨(String.utf8EncodeChar c)[0], ?_, ?_⟩)
      · rw [utf8_append, utf8_cons, List.getElem?_append_right le_rfl, Nat.sub_self,
          List.getElem?_append_left hpos, List.getElem?_eq_getElem hpos, Option.mem_some]
      · exact UInt8.isUTF8FirstByte_getElem_zero_utf8EncodeChar

/-- A part of a text can be cut out of its bytes. -/
theorem slice?_utf8 (s m u : Text) :
    slice? (utf8 (s ++ m ++ u)) (utf8 s).length (utf8 (s ++ m)).length = some (utf8 m) := by
  have hstart : IsBoundary (utf8 (s ++ m ++ u)) (utf8 s).length :=
    isBoundary_utf8_iff.2 ⟨s, m ++ u, List.append_assoc s m u, rfl⟩
  have hstop : IsBoundary (utf8 (s ++ m ++ u)) (utf8 (s ++ m)).length :=
    isBoundary_utf8_iff.2 ⟨s ++ m, u, rfl, rfl⟩
  have hle : (utf8 s).length ≤ (utf8 (s ++ m)).length := by simp
  have hend : (utf8 (s ++ m)).length ≤ (utf8 (s ++ m ++ u)).length := by simp
  rw [slice?, if_pos ⟨hle, hend, hstart, hstop⟩]
  simp [List.extract_eq_take_drop]

/-- What follows a front part can be cut off. -/
theorem slice?_utf8_tail (s u : Text) :
    slice? (utf8 (s ++ u)) (utf8 s).length (utf8 (s ++ u)).length = some (utf8 u) := by
  have hslice := slice?_utf8 s u []
  rwa [List.append_nil] at hslice

/-- **What can be cut out of the bytes of a text are the bytes of its parts.** -/
theorem slice?_utf8_eq_some_iff {t : Text} {i j : Nat} {x : Bytes} :
    slice? (utf8 t) i j = some x ↔
      ∃ s m u, t = s ++ m ++ u ∧ i = (utf8 s).length ∧ j = (utf8 (s ++ m)).length ∧ x = utf8 m := by
  constructor
  · intro h
    have hslice := h
    unfold slice? at h
    split_ifs at h with hcut
    obtain ⟨hle, -, hstart, hstop⟩ := hcut
    obtain ⟨s, u, rfl, rfl⟩ := isBoundary_utf8_iff.1 hstart
    obtain ⟨s', u', heq, rfl⟩ := isBoundary_utf8_iff.1 hstop
    -- The second place is not before the first, so the text before it is the longer one.
    obtain ⟨m, rfl⟩ : s <+: s' := by
      rcases List.append_eq_append_iff.1 heq with ⟨m, rfl, -⟩ | ⟨m, rfl, -⟩
      · exact List.prefix_append s m
      · rw [utf8_append, List.length_append] at hle
        have hm : m = [] := length_utf8_eq_zero (by omega)
        rw [hm, List.append_nil]
    refine ⟨s, m, u', heq, rfl, rfl, ?_⟩
    rw [heq, slice?_utf8] at hslice
    exact (Option.some.inj hslice).symm
  · rintro ⟨s, m, u, rfl, rfl, rfl, rfl⟩
    exact slice?_utf8 s m u

example : slice? (utf8 ['é', '<']) 0 2 = some (utf8 ['é']) := by decide

example : slice? (utf8 ['é', '<']) 0 1 = none := by decide

/-- How many bytes the first character takes, as its first byte says. -/
def firstWidth : Bytes → Nat
  | [] => 0
  | b :: _ =>
    if b.toNat < 0x80 then 1 else if b.toNat < 0xE0 then 2 else if b.toNat < 0xF0 then 3 else 4

theorem firstWidth_utf8 (c : Char) (t : Text) :
    firstWidth (utf8 (c :: t)) = (String.utf8EncodeChar c).length := by
  rw [utf8_cons]
  unfold String.utf8EncodeChar
  dsimp only
  -- The first byte of a character is in one of four ranges, one for each width.
  split_ifs with h₁ h₂ h₃
  all_goals
    simp only [List.cons_append, firstWidth, UInt8.toNat_ofNat', List.length_cons, List.length_nil]
    split_ifs <;> omega

end Bytes

end Cardwright
