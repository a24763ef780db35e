import Cardwright.Text.Basic
import Mathlib.Data.List.Nodup

/-!
# Alphabetical order

`Text.inOrder` is a linear order of texts.  Sorting by a text that belongs to each member, such as
its name, brings the members in this order and leaves those of one name as they stood to each other
(`named_mergeSort`).  So two lists are sorted alike exactly if, for every name, they have the same
members of that name in the same order (`mergeSort_eq_iff`); where names are distinct, any order of
the members will do (`named_eq_of_perm_of_nodup`).
-/

namespace Cardwright.Text

theorem inOrder_cons {c d : Char} {s t : Text} :
    inOrder (c :: s) (d :: t) = true ↔ c.toNat < d.toNat ∨ c = d ∧ inOrder s t = true := by
  simp [inOrder]

theorem inOrder_trans (s t u : Text) (hst : inOrder s t = true) (htu : inOrder t u = true) :
    inOrder s u = true := by
  induction s generalizing t u with
  | nil => rfl
  | cons c s ih =>
    cases t with
    | nil => cases hst
    | cons d t =>
      cases u with
      | nil => cases htu
      | cons e u =>
        rw [inOrder_cons] at hst htu ⊢
        rcases hst with hcd | ⟨rfl, hst⟩
        · rcases htu with hde | ⟨rfl, -⟩
          · exact .inl (by omega)
          · exact .inl hcd
        · rcases htu with hce | ⟨rfl, htu⟩
          · exact .inl hce
          · exact .inr ⟨rfl, ih t u hst htu⟩

theorem inOrder_total (s t : Text) : (inOrder s t || inOrder t s) = true := by
  rw [Bool.or_eq_true]
  induction s generalizing t with
  | nil => exact .inl rfl
  | cons c s ih =>
    cases t with
    | nil => exact .inr rfl
    | cons d t =>
      rw [inOrder_cons, inOrder_cons]
      rcases Nat.lt_trichotomy c.toNat d.toNat with hlt | heq | hgt
      · exact .inl (.inl hlt)
      · have hcd : c = d := Char.toNat_inj.1 heq
        rcases ih t with hst | hts
        · exact .inl (.inr ⟨hcd, hst⟩)
        · exact .inr (.inr ⟨hcd.symm, hts⟩)
      · exact .inr (.inl hgt)

theorem inOrder_refl (s : Text) : inOrder s s = true := by
  have h := inOrder_total s s
  rwa [Bool.or_self] at h

theorem inOrder_antisymm {s t : Text} (hst : inOrder s t = true) (hts : inOrder t s = true) :
    s = t := by
  induction s generalizing t with
  | nil =>
    cases t with
    | nil => rfl
    | cons d t => cases hts
  | cons c s ih =>
    cases t with
    | nil => cases hst
    | cons d t =>
      rw [inOrder_cons] at hst hts
      rcases hst with hcd | ⟨rfl, hst⟩
      · rcases hts with hdc | ⟨rfl, -⟩ <;> omega
      · rcases hts with hlt | ⟨-, hts⟩
        · omega
        · rw [ih hst hts]

/-! ### Sorting by names -/

section Sorting

variable {α : Type} (name : α → Text)

/-- Whether the names of two members are in order. -/
def byName (a b : α) : Bool := inOrder (name a) (name b)

/-- The members of one name. -/
def named (k : Text) (l : List α) : List α := l.filter fun a => name a == k

variable {name}

theorem byName_trans (a b c : α) (hab : byName name a b = true) (hbc : byName name b c = true) :
    byName name a c = true :=
  inOrder_trans _ _ _ hab hbc

theorem byName_total (a b : α) : (byName name a b || byName name b a) = true :=
  inOrder_total _ _

theorem mem_named {k : Text} {l : List α} {a : α} : a ∈ named name k l ↔ a ∈ l ∧ name a = k := by
  rw [named, List.mem_filter, beq_iff_eq]

theorem named_cons_of_eq {k : Text} {a : α} (h : name a = k) (l : List α) :
    named name k (a :: l) = a :: named name k l :=
  List.filter_cons_of_pos (beq_iff_eq.2 h)

theorem named_cons_of_ne {k : Text} {a : α} (h : name a ≠ k) (l : List α) :
    named name k (a :: l) = named name k l :=
  List.filter_cons_of_neg fun heq => h (beq_iff_eq.1 heq)

theorem named_append (k : Text) (l l' : List α) :
    named name k (l ++ l') = named name k l ++ named name k l' :=
  List.filter_append l l'

/-- **Sorting leaves the members of one name as they stood to each other.** -/
theorem named_mergeSort (k : Text) (l : List α) :
    named name k (l.mergeSort (byName name)) = named name k l := by
  have hsame : (named name k l).Pairwise fun a b => byName name a b = true := by
    rw [List.pairwise_iff_forall_sublist]
    intro a b hab
    have ha := (mem_named.1 (hab.subset List.mem_cons_self)).2
    have hb := (mem_named.1 (hab.subset (List.mem_cons_of_mem a List.mem_cons_self))).2
    rw [byName, ha, hb]
    exact inOrder_refl k
  have hsub : (named name k l).Sublist (l.mergeSort (byName name)) :=
    List.sublist_mergeSort byName_trans byName_total hsame List.filter_sublist
  -- The members of the name are among those of the sorted list, which has no more of them.
  have hnamed : (named name k l).Sublist (named name k (l.mergeSort (byName name))) := by
    have hfilter := hsub.filter fun a => name a == k
    simpa only [named, List.filter_filter, Bool.and_self] using hfilter
  have hlength := ((List.mergeSort_perm l (byName name)).filter fun a => name a == k).length_eq
  exact (hnamed.eq_of_length hlength.symm).symm

theorem mem_iff_of_named_eq {l l' : List α} (h : ∀ k, named name k l = named name k l') (a : α) :
    a ∈ l ↔ a ∈ l' := by
  have ha := congrArg (a ∈ ·) (h (name a))
  simpa only [mem_named, and_true, eq_iff_iff] using ha

/-- What follows the same member in lists with the same members of each name. -/
theorem named_eq_of_cons {a : α} {l l' : List α}
    (h : ∀ k, named name k (a :: l) = named name k (a :: l')) (k : Text) :
    named name k l = named name k l' := by
  have hk := h k
  by_cases heq : name a = k
  · rw [named_cons_of_eq heq, named_cons_of_eq heq] at hk
    exact (List.cons.inj hk).2
  · rwa [named_cons_of_ne heq, named_cons_of_ne heq] at hk

/-- Lists in the order of their names are the same if they have the same members of each name, in
the same order. -/
theorem eq_of_pairwise_of_named_eq {l l' : List α}
    (h : l.Pairwise fun a b => byName name a b = true)
    (h' : l'.Pairwise fun a b => byName name a b = true)
    (hnamed : ∀ k, named name k l = named name k l') : l = l' := by
  induction l generalizing l' with
  | nil =>
    symm
    rw [List.eq_nil_iff_forall_not_mem]
    intro a ha
    cases (mem_iff_of_named_eq hnamed a).2 ha
  | cons a l ih =>
    cases l' with
    | nil => cases (mem_iff_of_named_eq hnamed a).1 List.mem_cons_self
    | cons b l' =>
      obtain ⟨ha, hl⟩ := List.pairwise_cons.1 h
      obtain ⟨hb, hl'⟩ := List.pairwise_cons.1 h'
      -- The first names are the same, since neither comes before the other.
      have hab : byName name a b = true := by
        rcases List.mem_cons.1 ((mem_iff_of_named_eq hnamed b).2 List.mem_cons_self) with rfl | hbl
        · exact inOrder_refl _
        · exact ha b hbl
      have hba : byName name b a = true := by
        rcases List.mem_cons.1 ((mem_iff_of_named_eq hnamed a).1 List.mem_cons_self) with rfl | hal
        · exact inOrder_refl _
        · exact hb a hal
      have hname : name a = name b := inOrder_antisymm hab hba
      have hfirst : a = b := by
        have hk := hnamed (name a)
        rw [named_cons_of_eq rfl, named_cons_of_eq hname.symm] at hk
        exact (List.cons.inj hk).1
      subst hfirst
      rw [ih hl hl' (named_eq_of_cons hnamed)]

/-- **Two lists are sorted alike exactly if they have the same members of each name, in the same
order.** -/
theorem mergeSort_eq_iff {l l' : List α} :
    l.mergeSort (byName name) = l'.mergeSort (byName name) ↔
      ∀ k, named name k l = named name k l' := by
  constructor
  · intro h k
    rw [← named_mergeSort k l, h, named_mergeSort]
  · intro h
    refine eq_of_pairwise_of_named_eq (List.pairwise_mergeSort byName_trans byName_total l)
      (List.pairwise_mergeSort byName_trans byName_total l') fun k => ?_
    rw [named_mergeSort, named_mergeSort, h k]

/-- Where names are distinct, there is at most one member of a name, whatever the order. -/
theorem named_eq_of_perm_of_nodup {l l' : List α} (h : l.Perm l') (hnodup : (l.map name).Nodup)
    (k : Text) : named name k l = named name k l' := by
  have hperm : (named name k l).Perm (named name k l') := h.filter _
  have hone : (named name k l).length ≤ 1 := by
    have hcount := List.nodup_iff_count_le_one.1 hnodup k
    rw [List.count_eq_countP, List.countP_map, List.countP_eq_length_filter] at hcount
    exact hcount
  match hl : named name k l with
  | [] =>
    rw [hl] at hperm
    exact hperm.nil_eq
  | [a] =>
    rw [hl] at hperm
    exact hperm.singleton_eq
  | a :: b :: rest =>
    rw [hl, List.length_cons, List.length_cons] at hone
    omega

end Sorting

end Cardwright.Text
