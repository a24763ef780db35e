import Cardwright.Text.Basic
import Mathlib.Data.List.Basic

/-!
# Replacing all occurrences

`Text.replaceAll` reads a text from the left: the needle comes off whole and its value takes its
place (`replaceAll_needle_append`), any other character is copied (`replaceAll_cons`).

Main statements: `prefix_of_prefix_replaceAll` (what stands at the front of the result stood there
before, unless it has the first character of the value in it) and `not_infix_replaceAll` (no needle
is left if the value has no character of it).
-/

namespace Cardwright.Text

variable {needle value : Text}

@[simp] theorem replaceAll_nil : replaceAll needle value [] = [] := by rw [replaceAll]

theorem replaceAll_needle_append (h : needle ≠ []) (t : Text) :
    replaceAll needle value (needle ++ t) = value ++ replaceAll needle value t := by
  obtain ⟨c, n, rfl⟩ := List.exists_cons_of_ne_nil h
  have hstart : afterStart? (c :: n) (c :: (n ++ t)) = some t := afterStart?_eq_some_iff.2 rfl
  rw [List.cons_append, replaceAll]
  split
  · next rest hrest =>
    rw [hstart] at hrest
    cases hrest
    rw [if_pos (by simp)]
  · next hnone => rw [hstart] at hnone; cases hnone

theorem replaceAll_cons {c : Char} {t : Text} (h : ¬ needle <+: c :: t) :
    replaceAll needle value (c :: t) = c :: replaceAll needle value t := by
  rw [replaceAll]
  split
  · next rest hrest => exact absurd ⟨rest, (afterStart?_eq_some_iff.1 hrest).symm⟩ h
  · rfl

theorem replaceAll_append_of_not_mem {c : Char} {n : Text} {a : Text} (h : c ∉ a) (t : Text) :
    replaceAll (c :: n) value (a ++ t) = a ++ replaceAll (c :: n) value t := by
  induction a with
  | nil => rfl
  | cons d a ih =>
    simp only [List.mem_cons, not_or] at h
    have hstart : ¬ c :: n <+: d :: (a ++ t) := fun hpre => h.1 (List.cons_prefix_cons.1 hpre).1
    rw [List.cons_append, replaceAll_cons hstart, ih h.2]
    rfl

/-- Induction along the replacing in a text: the needle comes off whole, any other character
alone. -/
theorem replaceAll_induction {motive : Text → Prop} (h : needle ≠ []) (nil : motive [])
    (needle_append : ∀ t, motive t → motive (needle ++ t))
    (char : ∀ c t, ¬ needle <+: c :: t → motive t → motive (c :: t)) (t : Text) : motive t := by
  induction hn : t.length using Nat.strongRecOn generalizing t with
  | ind n ih =>
  match t with
  | [] => exact nil
  | c :: t =>
    by_cases hstart : needle <+: c :: t
    · obtain ⟨rest, hrest⟩ := hstart
      rw [← hrest]
      have hlen := congrArg List.length hrest
      have hpos := List.length_pos_iff.2 h
      simp only [List.length_append] at hlen
      exact needle_append rest (ih rest.length (by omega) rest rfl)
    · exact char c t hstart (ih t.length (by simp only [List.length_cons] at hn; omega) t rfl)

/-- What stands at the front of the result, without the first character of the value in it, stood at
the front before. -/
theorem prefix_of_prefix_replaceAll {d : Char} {v x t : Text} (hneedle : needle ≠ [])
    (hx : d ∉ x) (h : x <+: replaceAll needle (d :: v) t) : x <+: t := by
  induction t using replaceAll_induction hneedle generalizing x with
  | nil => simpa using h
  | needle_append t _ =>
    rw [replaceAll_needle_append hneedle] at h
    -- The result begins with the value here, and the text in question does not.
    match x with
    | [] => exact List.nil_prefix
    | c :: x => exact absurd (List.cons_prefix_cons.1 h).1.symm (by simp_all)
  | char c t hc ih =>
    rw [replaceAll_cons hc] at h
    match x with
    | [] => exact List.nil_prefix
    | e :: x =>
      obtain ⟨rfl, hrest⟩ := List.cons_prefix_cons.1 h
      simp only [List.mem_cons, not_or] at hx
      exact List.cons_prefix_cons.2 ⟨rfl, ih hx.2 hrest⟩

/-- What shares no character with the text in front of another one does not reach into it. -/
theorem infix_of_infix_append {x w u : Text} (hne : x ≠ []) (hw : ∀ c ∈ w, c ∉ x)
    (h : x <:+: w ++ u) : x <:+: u := by
  induction w with
  | nil => exact h
  | cons c w ih =>
    obtain ⟨hc, hw⟩ := List.forall_mem_cons.1 hw
    rcases List.infix_cons_iff.1 h with hfront | hbehind
    · obtain ⟨d, x, rfl⟩ := List.exists_cons_of_ne_nil hne
      obtain ⟨rfl, -⟩ := List.cons_prefix_cons.1 hfront
      exact absurd List.mem_cons_self hc
    · exact ih hw hbehind

/-- **No needle is left** where it is replaced by a value that is not empty and shares no character
with it. -/
theorem not_infix_replaceAll {d : Char} {v : Text} (hneedle : needle ≠ [])
    (hvalue : ∀ c ∈ d :: v, c ∉ needle) (t : Text) :
    ¬ needle <:+: replaceAll needle (d :: v) t := by
  induction t using replaceAll_induction hneedle with
  | nil =>
    rw [replaceAll_nil, List.infix_nil]
    exact hneedle
  | needle_append t ih =>
    rw [replaceAll_needle_append hneedle]
    exact fun h => ih (infix_of_infix_append hneedle hvalue h)
  | char c t hc ih =>
    -- A needle at the front of the result would have been there before.
    intro h
    rw [replaceAll_cons hc] at h
    rcases List.infix_cons_iff.1 h with hfront | hbehind
    · rw [← replaceAll_cons hc] at hfront
      exact hc (prefix_of_prefix_replaceAll hneedle (hvalue d List.mem_cons_self) hfront)
    · exact ih hbehind

end Cardwright.Text
