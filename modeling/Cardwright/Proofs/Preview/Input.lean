import Cardwright.Preview.Shell
import Cardwright.Proofs.Number.Decimal
import Cardwright.Proofs.Text.Words
import Mathlib.Tactic.SplitIfs

/-!
# What is typed into the shell

The input of the shell is a text, and what it asks for is said here without the functions that read
it: the lines of the text (`Text.HasLines`), the words that are numbers of 64 bits
(`Console.Unsigned`), and the words of a line that spell a command (`Command.Spells`).

The functions agree with this: each text has the lines that are found (`Text.hasLines_iff`), a word
is read as a number exactly if it is one (`Console.unsigned?_eq_some_iff`), and a line is understood
by its words (`Command.spells_ofLine`).
-/

namespace Cardwright

/-! ### Lines -/

namespace Text

/-- The lines of a text.  Each of them ends with a line break, but the last one may end with the
text if it is not empty. -/
inductive HasLines : Text → List Text → Prop
  | nil : HasLines [] []
  | last {l : Text} (hne : l ≠ []) (hl : '\n' ∉ l) : HasLines l [l]
  | cons {l t : Text} {ls : List Text} (hl : '\n' ∉ l) (hrest : HasLines t ls) :
      HasLines (l ++ '\n' :: t) (l :: ls)

theorem linesOf_append {l : Text} (hl : '\n' ∉ l) (t : Text) :
    linesOf (l ++ '\n' :: t) = l :: linesOf t := by
  induction l with
  | nil => rfl
  | cons c l ih =>
    obtain ⟨hc, hrest⟩ := List.ne_and_not_mem_of_not_mem_cons hl
    rw [List.cons_append, linesOf, if_neg hc.symm, ih hrest]

theorem linesOf_of_not_mem {l : Text} (hne : l ≠ []) (hl : '\n' ∉ l) : linesOf l = [l] := by
  induction l with
  | nil => exact absurd rfl hne
  | cons c l ih =>
    obtain ⟨hc, hrest⟩ := List.ne_and_not_mem_of_not_mem_cons hl
    rw [linesOf, if_neg hc.symm]
    by_cases hnil : l = []
    · rw [hnil]
      rfl
    · rw [ih hnil hrest]

theorem hasLines_linesOf (t : Text) : HasLines t (linesOf t) := by
  induction t with
  | nil => exact .nil
  | cons c t ih =>
    rw [linesOf]
    by_cases hc : c = '\n'
    · subst hc
      rw [if_pos rfl]
      exact .cons List.not_mem_nil ih
    · -- The character is put into the first line of the rest, if there is one.
      have hfree : ∀ {l : Text}, '\n' ∉ l → '\n' ∉ c :: l := fun hl =>
        List.not_mem_cons_of_ne_of_not_mem (Ne.symm hc) hl
      rw [if_neg hc]
      generalize linesOf t = ls at ih
      cases ih with
      | nil => exact .last (List.cons_ne_nil c []) (hfree List.not_mem_nil)
      | last _ hl => exact .last (List.cons_ne_nil c _) (hfree hl)
      | cons hl hrest => exact .cons (hfree hl) hrest

/-- **The lines of a text are what is between its line breaks.** -/
theorem hasLines_iff {t : Text} {ls : List Text} : HasLines t ls ↔ linesOf t = ls := by
  constructor
  · intro h
    induction h with
    | nil => rfl
    | last hne hl => exact linesOf_of_not_mem hne hl
    | cons hl _ ih => rw [linesOf_append hl, ih]
  · rintro rfl
    exact hasLines_linesOf t

instance (t : Text) (ls : List Text) : Decidable (HasLines t ls) :=
  decidable_of_iff _ hasLines_iff.symm

end Text

/-! ### Numbers -/

namespace Console

open Decimal (digitsValue)

/-- A word that stands for a number of 64 bits: decimal digits, with or without a plus sign in
front. -/
inductive Unsigned : Text → Nat → Prop
  | plain {ds : Text} (h : Text.IsDigits ds) (hsmall : digitsValue ds < 2 ^ 64) :
      Unsigned ds (digitsValue ds)
  | plus {ds : Text} (h : Text.IsDigits ds) (hsmall : digitsValue ds < 2 ^ 64) :
      Unsigned ('+' :: ds) (digitsValue ds)

theorem filter_natOfDigits?_eq_some_iff {ds : Text} {n : Nat} :
    (Decimal.natOfDigits? 10 ds).filter (· < UInt64.size) = some n ↔
      Text.IsDigits ds ∧ digitsValue ds < 2 ^ 64 ∧ n = digitsValue ds := by
  rw [Option.filter_eq_some_iff, Decimal.natOfDigits?_eq_some_iff, decide_eq_true_eq]
  constructor
  · rintro ⟨⟨hds, rfl⟩, hsmall⟩
    exact ⟨hds, hsmall, rfl⟩
  · rintro ⟨hds, hsmall, rfl⟩
    exact ⟨⟨hds, rfl⟩, hsmall⟩

theorem unsigned?_plus (ds : Text) :
    unsigned? ('+' :: ds) = (Decimal.natOfDigits? 10 ds).filter (· < UInt64.size) := rfl

theorem unsigned?_of_ne_plus {w : Text} (h : ∀ ds, w ≠ '+' :: ds) :
    unsigned? w = (Decimal.natOfDigits? 10 w).filter (· < UInt64.size) := by
  unfold unsigned?
  split
  · next ds => exact absurd rfl (h ds)
  · rfl

/-- **A word is read as a number exactly if it is one.** -/
theorem unsigned?_eq_some_iff {w : Text} {n : Nat} : unsigned? w = some n ↔ Unsigned w n := by
  constructor
  · intro h
    by_cases hplus : ∃ ds, w = '+' :: ds
    · obtain ⟨ds, rfl⟩ := hplus
      rw [unsigned?_plus, filter_natOfDigits?_eq_some_iff] at h
      obtain ⟨hds, hsmall, rfl⟩ := h
      exact .plus hds hsmall
    · rw [unsigned?_of_ne_plus (not_exists.1 hplus), filter_natOfDigits?_eq_some_iff] at h
      obtain ⟨hds, hsmall, rfl⟩ := h
      exact .plain hds hsmall
  · rintro (⟨hds, hsmall⟩ | ⟨hds, hsmall⟩)
    · -- A digit is no sign.
      have hplus : ∀ ds, w ≠ '+' :: ds := by
        rintro ds rfl
        exact absurd (hds.2 '+' List.mem_cons_self) (by decide)
      rw [unsigned?_of_ne_plus hplus]
      exact filter_natOfDigits?_eq_some_iff.2 ⟨hds, hsmall, rfl⟩
    · exact filter_natOfDigits?_eq_some_iff.2 ⟨hds, hsmall, rfl⟩

theorem unsigned?_eq_none_iff {w : Text} : unsigned? w = none ↔ ∀ n, ¬ Unsigned w n := by
  simp only [← unsigned?_eq_some_iff, Option.eq_none_iff_forall_ne_some]

end Console

/-! ### Commands -/

namespace Command

open Console

/-- The words of lines that are understood. -/
def Known (ws : List Text) : Prop :=
  ws = [] ∨ (∃ w ∈ ["quit", "exit", "help", "next"], ws = [w.toList]) ∨
    ∃ w : Text, ws = ["seed".toList, w] ∨ ws = ["bulk".toList, w]

/-- Words that spell a command. -/
inductive Spells : List Text → Command → Prop
  | blank : Spells [] .blank
  | quit : Spells ["quit"] .quit
  | exit : Spells ["exit"] .quit
  | help : Spells ["help"] .help
  | next : Spells ["next"] .next
  | reseed {w : Text} {seed : UInt64} (h : Unsigned w seed.toNat) :
      Spells ["seed", w] (.reseed seed)
  | badSeed {w : Text} (h : ∀ n, ¬ Unsigned w n) : Spells ["seed", w] (.badSeed w)
  | bulk {w : Text} {n : Nat} (h : Unsigned w n) : Spells ["bulk", w] (.bulk n)
  | badCount {w : Text} (h : ∀ n, ¬ Unsigned w n) : Spells ["bulk", w] (.badCount w)
  | unknown {ws : List Text} (h : ¬ Known ws) : Spells ws .unknown

theorem spells_reseed {w : Text} {n : Nat} (h : unsigned? w = some n) :
    Spells ["seed", w] (.reseed (UInt64.ofNat n)) := by
  have hnumber := unsigned?_eq_some_iff.1 h
  have hsmall : n < 2 ^ 64 := by
    rcases hnumber with ⟨-, hsmall⟩ | ⟨-, hsmall⟩ <;> exact hsmall
  refine .reseed ?_
  rwa [UInt64.toNat_ofNat_of_lt' hsmall]

/-- **A line is understood by its words.** -/
theorem spells_ofLine (t : Text) : Spells (Text.words t) (ofLine t) := by
  unfold ofLine
  generalize Text.words t = ws
  match ws with
  | [] => exact .blank
  | [w] =>
    simp only
    split_ifs with hquit hhelp hnext
    · rcases hquit with rfl | rfl
      · exact .quit
      · exact .exit
    · rw [hhelp]
      exact .help
    · rw [hnext]
      exact .next
    · exact .unknown (by simp_all [Known])
  | [w, n] =>
    simp only
    split_ifs with hseed hbulk
    · rw [hseed]
      split
      · next k hk => exact spells_reseed hk
      · next hk => exact .badSeed (unsigned?_eq_none_iff.1 hk)
    · rw [hbulk]
      split
      · next k hk => exact .bulk (unsigned?_eq_some_iff.1 hk)
      · next hk => exact .badCount (unsigned?_eq_none_iff.1 hk)
    · exact .unknown (by simp_all [Known])
  | w :: n :: m :: ws => exact .unknown (by simp [Known])

theorem ofLine_eq_next {t : Text} (h : Text.HasWords t ["next"]) : ofLine t = .next := by
  rw [ofLine, Text.hasWords_iff.1 h]
  decide

end Command

end Cardwright
