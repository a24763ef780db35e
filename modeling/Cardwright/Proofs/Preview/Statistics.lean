import Cardwright.Preview.Shell
import Cardwright.Proofs.Preview.Display
import Cardwright.Proofs.Text.Order
import Mathlib

/-!
# Statistics of a bulk

The report of a bulk of cards gives the number of cards under each heading, the items and the skills
among them and the number of distinct names.  `Statistics.Of` says what these numbers have to be;
above all, the numbers under the headings add up to the number of cards, and so do the items and the
skills.  The report is one of such numbers (`exists_statistics`).
-/

namespace Cardwright

open Console

/-! ### Members without repetition -/

section Members

variable {α : Type} [BEq α] [LawfulBEq α]

theorem nodup_eraseDups (l : List α) : l.eraseDups.Nodup := by
  cases l with
  | nil => simp
  | cons a l =>
    rw [List.eraseDups_cons, List.nodup_cons]
    exact ⟨by simp [List.mem_eraseDups], nodup_eraseDups _⟩
termination_by l.length
decreasing_by
  have hle := List.length_filter_le (fun b => !b == a) l
  rw [List.length_cons]
  omega

theorem eraseDups_perm_dedup [DecidableEq α] (l : List α) : l.eraseDups.Perm l.dedup := by
  rw [List.perm_ext_iff_of_nodup (nodup_eraseDups l) l.nodup_dedup]
  intro a
  rw [List.mem_eraseDups, List.mem_dedup]

/-- The numbers of occurrences of all members add up to the length. -/
theorem sum_count_eraseDups [DecidableEq α] (l : List α) :
    (l.eraseDups.map fun a => l.count a).sum = l.length := by
  obtain rfl := lawful_beq_subsingleton ‹BEq α› instBEqOfDecidableEq
  rw [((eraseDups_perm_dedup l).map _).sum_eq]
  exact List.sum_map_count_dedup_eq_length l

end Members

/-! ### What is reported -/

/-- The numbers that are reported of some cards. -/
structure Statistics where
  /-- How many cards stand under each heading. -/
  headings : List (Text × Nat)
  items : Nat
  skills : Nat
  /-- How many distinct names there are. -/
  names : Nat

/-- The titles of cards, in alphabetical order. -/
def Card.titles : List Text := ["Item", "Item (Passive)", "Skill", "Skill (Passive)"]

theorem Card.title_mem_titles (kind : Kind) (activity : Activity) :
    Card.title kind activity ∈ Card.titles := by
  cases kind <;> cases activity <;> decide

namespace Statistics

/-- The numbers are those of some cards.  Each title that occurs is listed once, in alphabetical
order. -/
structure Of (s : Statistics) (cards : List Card) : Prop where
  mem_headings : ∀ h n, (h, n) ∈ s.headings ↔
    n = (cards.map fun c => Card.title c.kind c.activity).count h ∧ n ≠ 0
  ordered : (s.headings.map (·.1)).Sublist Card.titles
  sum_headings : (s.headings.map (·.2)).sum = cards.length
  items_eq : s.items = cards.countP (·.kind = .item)
  skills_eq : s.skills = cards.countP (·.kind = .skill)
  items_add_skills : s.items + s.skills = cards.length
  names_eq : s.names = (cards.map (·.name)).toFinset.card

/-- The line about a title in a report: the title in sixteen places, the number in six. -/
def titleLine (title : Text) (n : Nat) : Text :=
  "  " ++ title.rightpad 16 ' ' ++ " " ++ (Nat.toDigits 10 n).leftpad 6 ' '

/-- The lines of a report about `n` cards. -/
def lines (s : Statistics) (n : Nat) : List Text :=
  let header : Text := "=== Bulk Generation: " ++ Nat.toDigits 10 n ++ " cards ==="
  let kinds : Text :=
    "  items: " ++ Nat.toDigits 10 s.items ++ ", skills: " ++ Nat.toDigits 10 s.skills
  let names : Text := "  distinct names: " ++ Nat.toDigits 10 s.names
  [[], header, []] ++ s.headings.map (fun (title, n) => titleLine title n) ++ [kinds, names, []]

/-- A report about `n` cards: its lines, with a line break behind each. -/
def report (s : Statistics) (n : Nat) : Text := (s.lines n).flatMap (· ++ ['\n'])

end Statistics

/-! ### The report -/

theorem map_heading (cards : List Card) :
    cards.map (·.heading) = cards.map fun c => Card.title c.kind c.activity :=
  List.map_congr_left fun c _ => c.heading_eq_title

theorem map_fst_headingCounts (cards : List Card) :
    (headingCounts cards).map (·.1) =
      (cards.map (·.heading)).eraseDups.mergeSort Text.inOrder := by
  simp [headingCounts, Function.comp_def]

theorem mem_headingCounts {cards : List Card} {h : Text} {n : Nat} :
    (h, n) ∈ headingCounts cards ↔ n = (cards.map (·.heading)).count h ∧ n ≠ 0 := by
  have hmem : ∀ h, h ∈ (cards.map (·.heading)).eraseDups.mergeSort Text.inOrder ↔
      (cards.map (·.heading)).count h ≠ 0 := by
    intro h
    rw [List.mem_mergeSort, List.mem_eraseDups, ← List.count_pos_iff, Nat.pos_iff_ne_zero]
  simp only [headingCounts, List.mem_map, hmem, Prod.mk.injEq]
  constructor
  · rintro ⟨h', hcount, rfl, rfl⟩
    exact ⟨rfl, hcount⟩
  · rintro ⟨rfl, hcount⟩
    exact ⟨h, hcount, rfl, rfl⟩

/-- What is listed is in order and has no title twice, so it is the list of all titles with some
left out. -/
theorem sublist_headingCounts (cards : List Card) :
    ((headingCounts cards).map (·.1)).Sublist Card.titles := by
  have hantisymm : Std.Antisymm fun s t => Text.inOrder s t = true :=
    ⟨fun _ _ => Text.inOrder_antisymm⟩
  rw [map_fst_headingCounts]
  have hperm := List.mergeSort_perm (cards.map (·.heading)).eraseDups Text.inOrder
  have hsubset : (cards.map (·.heading)).eraseDups.mergeSort Text.inOrder ⊆ Card.titles := by
    intro h hh
    rw [List.mem_mergeSort, List.mem_eraseDups, map_heading] at hh
    obtain ⟨c, -, rfl⟩ := List.mem_map.1 hh
    exact Card.title_mem_titles c.kind c.activity
  have hsubperm := List.subperm_of_subset (hperm.nodup_iff.2 (nodup_eraseDups _)) hsubset
  exact List.sublist_of_subperm_of_pairwise hsubperm
    (List.pairwise_mergeSort Text.inOrder_trans Text.inOrder_total _) (by decide)

/-- **The numbers under the headings add up.** -/
theorem sum_headingCounts (cards : List Card) :
    ((headingCounts cards).map (·.2)).sum = cards.length := by
  have hperm := List.mergeSort_perm (cards.map (·.heading)).eraseDups Text.inOrder
  calc ((headingCounts cards).map (·.2)).sum
      = (((cards.map (·.heading)).eraseDups.mergeSort Text.inOrder).map
          fun h => (cards.map (·.heading)).count h).sum := by
        simp [headingCounts, Function.comp_def]
    _ = ((cards.map (·.heading)).eraseDups.map fun h => (cards.map (·.heading)).count h).sum :=
        (hperm.map _).sum_eq
    _ = (cards.map (·.heading)).length := sum_count_eraseDups _
    _ = cards.length := List.length_map _

/-- Every card is an item or a skill. -/
theorem countP_item_add_countP_skill (cards : List Card) :
    cards.countP (·.kind = .item) + cards.countP (·.kind = .skill) = cards.length := by
  have hskill : ∀ c : Card,
      decide (¬ decide (c.kind = .item) = true) = decide (c.kind = .skill) := by
    intro c
    cases c.kind <;> rfl
  rw [List.length_eq_countP_add_countP (·.kind = .item)]
  simp only [hskill]

theorem length_filter_isItem (cards : List Card) :
    (cards.filter (·.isItem)).length = cards.countP (·.kind = .item) := by
  rw [← List.countP_eq_length_filter]
  rfl

theorem report_eq (s : Statistics) (n : Nat) :
    s.report n = line ("\n=== Bulk Generation: " ++ Text.decimal n ++ " cards ===\n")
      ++ s.headings.flatMap (fun (heading, n) =>
        line ("  " ++ Text.padRight 16 heading ++ " " ++ Text.padLeft 6 (Text.decimal n)))
      ++ line ("  items: " ++ Text.decimal s.items ++ ", skills: " ++ Text.decimal s.skills)
      ++ line ("  distinct names: " ++ Text.decimal s.names ++ "\n") := by
  have htitle : ∀ h n, Statistics.titleLine h n ++ ['\n'] =
      line ("  " ++ Text.padRight 16 h ++ " " ++ Text.padLeft 6 (Text.decimal n)) := by
    intro h n
    rw [Statistics.titleLine, line, Text.padRight, Text.padLeft, List.rightpad, List.leftpad]
    rfl
  simp only [Statistics.report, Statistics.lines, List.flatMap_append, List.flatMap_map, htitle]
  simp [line, Text.decimal]

/-- **What is reported of cards are their statistics.** -/
theorem exists_statistics (cards : List Card) :
    ∃ s : Statistics, s.Of cards ∧ bulkReport cards = s.report cards.length := by
  have hskills : cards.length - cards.countP (·.kind = .item) = cards.countP (·.kind = .skill) := by
    rw [← countP_item_add_countP_skill cards, Nat.add_sub_cancel_left]
  refine ⟨⟨headingCounts cards, cards.countP (·.kind = .item), cards.countP (·.kind = .skill),
    (cards.map (·.name)).eraseDups.length⟩, ?_, ?_⟩
  · exact
      { mem_headings := fun h n => by rw [← map_heading]; exact mem_headingCounts
        ordered := sublist_headingCounts cards
        sum_headings := sum_headingCounts cards
        items_eq := rfl
        skills_eq := rfl
        items_add_skills := countP_item_add_countP_skill cards
        names_eq := by
          rw [List.card_toFinset]
          exact (eraseDups_perm_dedup _).length_eq }
  · rw [report_eq]
    simp only [bulkReport, length_filter_isItem, hskills]

end Cardwright
