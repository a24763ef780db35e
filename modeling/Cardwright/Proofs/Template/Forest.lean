import Cardwright.Proofs.Template.Weave

/-!
# Which slots are filled

What a run of passes does with the slots of a template is a forest.  Its roots are the slots of the
template; a slot that is filled carries its filling, and below it stand the slots which that filling
brings.  Since a kind is filled in one pass, the forest obeys a law (`Forest.Follows`): below a
filling, slots of its own and of earlier kinds stay open, and all others are filled.

The passes are followed from the last one back.  From the forest of what a pass returns, the forest
of what it was given is got by putting together the slots that one filling brought (`Grafts`).  That
leaves the later fillings where they were, so what the forest says of the later passes remains true
(`exists_graft`, `exists_forest`).

Everything about the number of calls follows from the forest.  Slots are conserved: those that a
template has and those that fillings bring are filled or left open (`Forest.conservation`).  Hence
the account of a run (`Account`), for fills that keep a state and bring whatever slots they like
(`resolveWith_account`).
-/

namespace Cardwright

namespace Template

/-! ### Forests -/

/-- What becomes of some slots: each of them stays open, or is filled; below a filling stand the
slots that it brings. -/
inductive Forest
  | nil
  | stays (p : Placeholder) (behind : Forest)
  | filled (c : Filling) (inside behind : Forest)

namespace Forest

/-- The slots at the roots. -/
def slots : Forest → List Placeholder
  | nil => []
  | stays p behind => p :: behind.slots
  | filled c _ behind => c.kind :: behind.slots

/-- The slots that stay open, from left to right. -/
def left : Forest → List Placeholder
  | nil => []
  | stays p behind => p :: behind.left
  | filled _ inside behind => inside.left ++ behind.left

/-- The fillings, from left to right; each of them comes before those below it. -/
def calls : Forest → List Filling
  | nil => []
  | stays _ behind => behind.calls
  | filled c inside behind => c :: (inside.calls ++ behind.calls)

/-- One forest beside another. -/
def append : Forest → Forest → Forest
  | nil, G => G
  | stays p behind, G => stays p (behind.append G)
  | filled c inside behind, G => filled c inside (behind.append G)

/-- Slots that all stay open. -/
def bare : List Placeholder → Forest
  | [] => nil
  | p :: ps => stays p (bare ps)

/-- The law of a forest that comes from the passes from the `n`-th on: slots of earlier kinds stay
open, all others are filled, and below a filling the passes that come after its own are at work. -/
def Follows : Forest → Nat → Prop
  | nil, _ => True
  | stays p behind, n => p.rank < n ∧ behind.Follows n
  | filled c inside behind, n =>
    n ≤ c.kind.rank ∧ inside.slots = c.slots ∧ inside.Follows (c.kind.rank + 1) ∧ behind.Follows n

/-- The calls of a run: one kind after another, and those of one kind from left to right. -/
def order (F : Forest) (kinds : List Placeholder) : List Filling :=
  kinds.flatMap fun k => F.calls.filter (·.kind = k)

/-! ### Forests side by side -/

@[simp] theorem slots_append (F G : Forest) : (F.append G).slots = F.slots ++ G.slots := by
  induction F with
  | nil => rfl
  | stays p behind ih => simp [append, slots, ih]
  | filled c inside behind _ ih => simp [append, slots, ih]

@[simp] theorem left_append (F G : Forest) : (F.append G).left = F.left ++ G.left := by
  induction F with
  | nil => rfl
  | stays p behind ih => simp [append, left, ih]
  | filled c inside behind _ ih => simp [append, left, ih]

@[simp] theorem calls_append (F G : Forest) : (F.append G).calls = F.calls ++ G.calls := by
  induction F with
  | nil => rfl
  | stays p behind ih => simp [append, calls, ih]
  | filled c inside behind _ ih => simp [append, calls, ih]

theorem follows_append {F G : Forest} {n : Nat} :
    (F.append G).Follows n ↔ F.Follows n ∧ G.Follows n := by
  induction F with
  | nil => simp [append, Follows]
  | stays p behind ih => simp [append, Follows, ih, and_assoc]
  | filled c inside behind _ ih => simp [append, Follows, ih, and_assoc]

/-- A forest can be parted wherever its roots can. -/
theorem exists_eq_append {F : Forest} {ps qs : List Placeholder} (h : F.slots = ps ++ qs) :
    ∃ G H : Forest, F = G.append H ∧ G.slots = ps ∧ H.slots = qs := by
  induction ps generalizing F with
  | nil => exact ⟨nil, F, rfl, rfl, h⟩
  | cons p ps ih =>
    cases F with
    | nil => simp [slots] at h
    | stays q behind =>
      obtain ⟨rfl, hbehind⟩ := List.cons.inj h
      obtain ⟨G, H, rfl, hG, hH⟩ := ih hbehind
      exact ⟨stays q G, H, rfl, by rw [slots, hG], hH⟩
    | filled c inside behind =>
      obtain ⟨rfl, hbehind⟩ := List.cons.inj h
      obtain ⟨G, H, rfl, hG, hH⟩ := ih hbehind
      exact ⟨filled c inside G, H, rfl, by rw [slots, hG], hH⟩

@[simp] theorem slots_bare (ps : List Placeholder) : (bare ps).slots = ps := by
  induction ps with
  | nil => rfl
  | cons p ps ih => rw [bare, slots, ih]

@[simp] theorem left_bare (ps : List Placeholder) : (bare ps).left = ps := by
  induction ps with
  | nil => rfl
  | cons p ps ih => rw [bare, left, ih]

/-- Once all passes are over, every slot stays. -/
theorem follows_bare (ps : List Placeholder) : (bare ps).Follows Placeholder.all.length := by
  induction ps with
  | nil => trivial
  | cons p ps ih => exact ⟨by cases p <;> decide, ih⟩

/-! ### The law -/

/-- The passes from the `n`-th on fill no slot of an earlier kind. -/
theorem Follows.le_rank {F : Forest} {n : Nat} (h : F.Follows n) :
    ∀ c ∈ F.calls, n ≤ c.kind.rank := by
  induction F generalizing n with
  | nil => exact fun c hc => by cases hc
  | stays p behind ih => exact ih h.2
  | filled c inside behind ihinside ihbehind =>
    obtain ⟨hrank, -, hinside, hbehind⟩ := h
    refine List.forall_mem_cons.2 ⟨hrank, fun d hd => ?_⟩
    rcases List.mem_append.1 hd with hin | hbeh
    · exact Nat.le_trans (Nat.le_succ_of_le hrank) (ihinside hinside d hin)
    · exact ihbehind hbehind d hbeh

theorem Follows.filter_later {F : Forest} {n : Nat} (h : F.Follows n) {r : Nat} (hr : r < n) :
    F.calls.filter (r < ·.kind.rank) = F.calls :=
  List.filter_eq_self.2 fun c hc => decide_eq_true (Nat.lt_of_lt_of_le hr (h.le_rank c hc))

theorem Follows.filter_now {F : Forest} {n : Nat} (h : F.Follows n) {k : Placeholder}
    (hk : k.rank < n) : F.calls.filter (·.kind = k) = [] := by
  rw [List.filter_eq_nil_iff]
  intro c hc hck
  have hle := h.le_rank c hc
  rw [of_decide_eq_true hck] at hle
  omega

/-- **Conservation of slots.**  The slots at the roots and those that fillings bring are filled or
left open. -/
theorem conservation {F : Forest} {n : Nat} (h : F.Follows n) (k : Placeholder) :
    F.left.count k + (F.calls.map (·.kind)).count k =
      F.slots.count k + (F.calls.flatMap Filling.slots).count k := by
  induction F generalizing n with
  | nil => rfl
  | stays p behind ih =>
    have hbehind := ih h.2
    simp only [left, slots, calls, List.count_cons]
    omega
  | filled c inside behind ihinside ihbehind =>
    obtain ⟨-, hslots, hinside, hbehind⟩ := h
    have hinside := ihinside hinside
    have hbehind := ihbehind hbehind
    rw [hslots] at hinside
    simp only [left, slots, calls, List.map_cons, List.map_append, List.flatMap_cons,
      List.flatMap_append, List.count_cons, List.count_append]
    omega

/-- The slots that are brought in time for the pass of a kind, by fillings of earlier kinds. -/
def inTime (k : Placeholder) (calls : List Filling) : List Placeholder :=
  (calls.filter (·.kind.rank < k.rank)).flatMap Filling.slots

/-- The slots that are brought too late for the pass of a kind, by itself or after it. -/
def late (k : Placeholder) (calls : List Filling) : List Placeholder :=
  (calls.filter (k.rank ≤ ·.kind.rank)).flatMap Filling.slots

theorem count_inTime_add_late (k p : Placeholder) (calls : List Filling) :
    (inTime k calls).count p + (late k calls).count p = (calls.flatMap Filling.slots).count p := by
  induction calls with
  | nil => rfl
  | cons c calls ih =>
    by_cases hc : c.kind.rank < k.rank
    · have hnot : ¬ k.rank ≤ c.kind.rank := Nat.not_le_of_lt hc
      simp only [inTime, late, List.filter_cons, hc, hnot, decide_true, decide_false, if_true,
        Bool.false_eq_true, if_false, List.flatMap_cons, List.count_append] at ih ⊢
      omega
    · have hle : k.rank ≤ c.kind.rank := Nat.le_of_not_lt hc
      simp only [inTime, late, List.filter_cons, hc, hle, decide_true, decide_false, if_true,
        Bool.false_eq_true, if_false, List.flatMap_cons, List.count_append] at ih ⊢
      omega

/-- A kind whose pass is over before those at work gets no fillings and no slots in time. -/
theorem Follows.nothing_before {F : Forest} {n : Nat} (h : F.Follows n) {k : Placeholder}
    (hk : k.rank < n) : (F.calls.map (·.kind)).count k = 0 ∧ inTime k F.calls = [] := by
  have hrank : ∀ c ∈ F.calls, k.rank < c.kind.rank := fun c hc =>
    Nat.lt_of_lt_of_le hk (h.le_rank c hc)
  constructor
  · rw [List.count_eq_zero]
    intro hmem
    obtain ⟨c, hc, rfl⟩ := List.mem_map.1 hmem
    exact Nat.lt_irrefl _ (hrank c hc)
  · have hfilter : F.calls.filter (·.kind.rank < k.rank) = [] := by
      rw [List.filter_eq_nil_iff]
      intro c hc
      rw [decide_eq_true_eq, Nat.not_lt]
      exact Nat.le_of_lt (hrank c hc)
    rw [inTime, hfilter, List.flatMap_nil]

/-- **The slots that are filled** are those at the roots and those that are brought in time. -/
theorem Follows.count_calls {F : Forest} {n : Nat} (h : F.Follows n) {k : Placeholder}
    (hk : n ≤ k.rank) :
    (F.calls.map (·.kind)).count k = F.slots.count k + (inTime k F.calls).count k := by
  induction F generalizing n with
  | nil => rfl
  | stays p behind ih =>
    -- An open slot at the root is of an earlier kind.
    have hne : p ≠ k := fun heq => by
      have hlt := h.1
      rw [heq] at hlt
      omega
    have hbehind := ih h.2 hk
    simpa [slots, calls, hne] using hbehind
  | filled c inside behind ihinside ihbehind =>
    obtain ⟨-, hslots, hinside, hbehind⟩ := h
    have hbehind := ihbehind hbehind hk
    by_cases hc : c.kind.rank < k.rank
    · -- The slots that the filling brings are in time.
      have hin := ihinside hinside hc
      have hne : c.kind ≠ k := fun heq => by
        rw [heq] at hc
        exact Nat.lt_irrefl _ hc
      rw [hslots] at hin
      simp only [inTime, slots, calls, List.map_cons, List.map_append, List.filter_cons,
        List.filter_append, hc, decide_true, if_true, List.flatMap_cons, List.flatMap_append,
        List.count_append, List.count_cons_of_ne hne] at hin hbehind ⊢
      omega
    · -- They are too late, and so is everything below.
      obtain ⟨hnone, hnil⟩ := hinside.nothing_before (Nat.lt_succ_of_le (Nat.le_of_not_lt hc))
      rw [inTime] at hnil
      simp only [inTime, slots, calls, List.map_cons, List.map_append, List.filter_cons,
        List.filter_append, hc, decide_false, Bool.false_eq_true, if_false, List.flatMap_append,
        List.count_append, List.count_cons, hnone, hnil, List.nil_append] at hbehind ⊢
      omega

/-- **The slots that stay open** in the end are those that are brought too late. -/
theorem Follows.count_left {F : Forest} (h : F.Follows 0) (k : Placeholder) :
    F.left.count k = (late k F.calls).count k := by
  have hcons := conservation h k
  have hcalls := h.count_calls (Nat.zero_le k.rank)
  have hparts := count_inTime_add_late k k F.calls
  omega

/-! ### The order of the calls -/

/-- Taking the calls one kind after another leaves none out. -/
theorem order_perm (F : Forest) : (F.order Placeholder.all).Perm F.calls := by
  rw [List.perm_iff_count]
  intro c
  have hcount : ∀ k, (F.calls.filter (·.kind = k)).count c =
      if c.kind = k then F.calls.count c else 0 := by
    intro k
    split
    · next hk => exact List.count_filter (by simpa using hk)
    · next hk =>
      refine List.count_eq_zero.2 fun hmem => hk ?_
      simpa using (List.mem_filter.1 hmem).2
  simp only [order, Placeholder.all, List.flatMap_cons, List.flatMap_nil, List.count_append, hcount]
  cases c.kind <;> simp

theorem pairwise_order (F : Forest) :
    (F.order Placeholder.all).Pairwise fun c d => c.kind.rank ≤ d.kind.rank := by
  rw [order, List.pairwise_flatMap]
  have hkind : ∀ k, ∀ c ∈ F.calls.filter (·.kind = k), c.kind = k := fun k c hc => by
    simpa using (List.mem_filter.1 hc).2
  constructor
  · intro k _
    refine List.pairwise_of_forall_mem_list fun c hc d hd => ?_
    exact Nat.le_of_eq (by rw [hkind k c hc, hkind k d hd])
  · have hall : Placeholder.all.Pairwise fun k l => k.rank < l.rank := by decide
    refine hall.imp fun hlt c hc d hd => ?_
    rw [hkind _ c hc, hkind _ d hd]
    exact Nat.le_of_lt hlt

/-! ### Grafting -/

/-- From the forest behind a pass to the forest before it: the roots that one filling of the pass
brought are put below a root of its kind. -/
inductive Grafts (k : Placeholder) : List Filling → Forest → Forest → Prop
  | nil : Grafts k [] nil nil
  | stays {new : List Filling} {F G : Forest} {p : Placeholder} (hp : p ≠ k)
      (h : Grafts k new F G) : Grafts k new (stays p F) (stays p G)
  | through {new : List Filling} {F G : Forest} {c : Filling} {inside : Forest} (hc : c.kind ≠ k)
      (h : Grafts k new F G) : Grafts k new (filled c inside F) (filled c inside G)
  | filled {new : List Filling} {F G : Forest} {c : Filling} {inside : Forest} (hc : c.kind = k)
      (hslots : inside.slots = c.slots) (h : Grafts k new F G) :
      Grafts k (c :: new) (inside.append F) (filled c inside G)

/-- Where a pass has turned the slots of a template into those of a forest, the forest can be
grafted back. -/
theorem exists_graft {k : Placeholder} {ps : List Placeholder} {new : List Filling} {F : Forest}
    (hlength : new.length = ps.count k) (hkinds : ∀ c ∈ new, c.kind = k)
    (hF : F.slots = refill k ps new) : ∃ G, Grafts k new F G ∧ G.slots = ps := by
  induction ps generalizing new F with
  | nil =>
    obtain rfl : new = [] := List.length_eq_zero_iff.1 hlength
    cases F with
    | nil => exact ⟨nil, .nil, rfl⟩
    | stays p behind => simp [slots, refill] at hF
    | filled c inside behind => simp [slots, refill] at hF
  | cons p ps ih =>
    by_cases hp : p = k
    · -- The roots that the first filling brought are split off.
      cases new with
      | nil => simp [hp] at hlength
      | cons c new =>
        obtain ⟨hc, hnew⟩ := List.forall_mem_cons.1 hkinds
        simp only [refill, if_pos hp] at hF
        obtain ⟨inside, behind, rfl, hinside, hbehind⟩ := exists_eq_append hF
        have hlength : new.length = ps.count k := by simpa [hp] using hlength
        obtain ⟨G, hG, hslots⟩ := ih hlength hnew hbehind
        exact ⟨.filled c inside G, .filled hc hinside hG, by rw [slots, hslots, hc, hp]⟩
    · rw [List.count_cons_of_ne hp] at hlength
      simp only [refill, if_neg hp] at hF
      cases F with
      | nil => simp [slots] at hF
      | stays q behind =>
        obtain ⟨rfl, hbehind⟩ := List.cons.inj hF
        obtain ⟨G, hG, hslots⟩ := ih hlength hkinds hbehind
        exact ⟨.stays q G, .stays hp hG, by rw [slots, hslots]⟩
      | filled c inside behind =>
        obtain ⟨rfl, hbehind⟩ := List.cons.inj hF
        obtain ⟨G, hG, hslots⟩ := ih hlength hkinds hbehind
        exact ⟨.filled c inside G, .through hp hG, by rw [slots, hslots]⟩

section Grafts

variable {k : Placeholder} {new : List Filling} {F G : Forest}

theorem Grafts.left_eq (h : Grafts k new F G) : G.left = F.left := by
  induction h with
  | nil => rfl
  | stays _ _ ih => rw [left, left, ih]
  | through _ _ ih => rw [left, left, ih]
  | filled _ _ _ ih => rw [left, left_append, ih]

/-- Grafting a pass back gives a forest of the passes from that one on. -/
theorem Grafts.follows (h : Grafts k new F G) (hF : F.Follows (k.rank + 1)) :
    G.Follows k.rank := by
  induction h with
  | nil => trivial
  | @stays new F G p hp h ih =>
    have hne : p.rank ≠ k.rank := fun heq => hp (Placeholder.rank_injective heq)
    have hlt := hF.1
    exact ⟨by omega, ih hF.2⟩
  | through _ _ ih =>
    obtain ⟨hrank, hslots, hinside, hbehind⟩ := hF
    exact ⟨Nat.le_of_succ_le hrank, hslots, hinside, ih hbehind⟩
  | filled hc hslots _ ih =>
    obtain ⟨hinside, hbehind⟩ := follows_append.1 hF
    exact ⟨Nat.le_of_eq (by rw [hc]), hslots, by rwa [hc], ih hbehind⟩

/-- The fillings of the later passes are where they were. -/
theorem Grafts.calls_later (h : Grafts k new F G) (hF : F.Follows (k.rank + 1)) :
    G.calls.filter (k.rank < ·.kind.rank) = F.calls := by
  induction h with
  | nil => rfl
  | stays _ _ ih => exact ih hF.2
  | through _ _ ih =>
    obtain ⟨hrank, -, hinside, hbehind⟩ := hF
    have hlater := hinside.filter_later (Nat.lt_succ_of_lt hrank)
    simp only [calls, List.filter_cons, List.filter_append, hlater, ih hbehind]
    exact if_pos (decide_eq_true hrank)
  | filled hc _ _ ih =>
    obtain ⟨hinside, hbehind⟩ := follows_append.1 hF
    have hlater := hinside.filter_later (Nat.lt_succ_self k.rank)
    simp only [calls, List.filter_cons, List.filter_append, hlater, ih hbehind, calls_append, hc]
    exact if_neg (by simp)

/-- The others are the fillings of the pass, in their order. -/
theorem Grafts.calls_now (h : Grafts k new F G) (hF : F.Follows (k.rank + 1)) :
    G.calls.filter (·.kind = k) = new := by
  induction h with
  | nil => rfl
  | stays _ _ ih => exact ih hF.2
  | through hc _ ih =>
    obtain ⟨hrank, -, hinside, hbehind⟩ := hF
    have hnone := hinside.filter_now (Nat.lt_succ_of_lt hrank)
    simp only [calls, List.filter_cons, List.filter_append, hnone, ih hbehind]
    exact if_neg (by simpa using hc)
  | filled hc _ _ ih =>
    obtain ⟨hinside, hbehind⟩ := follows_append.1 hF
    have hnone := hinside.filter_now (Nat.lt_succ_self k.rank)
    simp only [calls, List.filter_cons, List.filter_append, hnone, ih hbehind]
    exact if_pos (by simpa using hc)

end Grafts

/-- The forest behind the first `n` passes has grown to one of the whole run.  The calls that the
passes have made are those of the new fillings. -/
structure Regrown (n : Nat) (log : List Filling) (F G : Forest) : Prop where
  follows : G.Follows 0
  left_eq : G.left = F.left
  calls_later : G.calls.filter (n ≤ ·.kind.rank) = F.calls
  log_eq : log = G.order (Placeholder.all.take n)

theorem Regrown.zero {F : Forest} (hF : F.Follows 0) : Regrown 0 [] F F where
  follows := hF
  left_eq := rfl
  calls_later := List.filter_eq_self.2 fun _ _ => decide_eq_true (Nat.zero_le _)
  log_eq := rfl

/-- One pass more is one graft less. -/
theorem Regrown.succ {k : Placeholder} {log new : List Filling} {F G H : Forest}
    (hgraft : Grafts k new F G) (hF : F.Follows (k.rank + 1)) (h : Regrown k.rank log G H) :
    Regrown (k.rank + 1) (log ++ new) F H where
  follows := h.follows
  left_eq := h.left_eq.trans hgraft.left_eq
  calls_later := by
    calc H.calls.filter (k.rank + 1 ≤ ·.kind.rank)
        = (H.calls.filter (k.rank ≤ ·.kind.rank)).filter (k.rank < ·.kind.rank) := by
          rw [List.filter_filter]
          refine List.filter_congr fun c _ => ?_
          rw [← Bool.decide_and, decide_eq_decide]
          omega
      _ = F.calls := by rw [h.calls_later, hgraft.calls_later hF]
  log_eq := by
    have hnow : H.calls.filter (·.kind = k) = new := by
      calc H.calls.filter (·.kind = k)
          = (H.calls.filter (k.rank ≤ ·.kind.rank)).filter (·.kind = k) := by
            rw [List.filter_filter]
            refine List.filter_congr fun c _ => ?_
            by_cases hc : c.kind = k <;> simp [hc]
        _ = new := by rw [h.calls_later, hgraft.calls_now hF]
    rw [Placeholder.take_rank_succ, order, List.flatMap_append, List.flatMap_singleton, hnow,
      h.log_eq, order]

end Forest

/-! ### The run -/

section Runs

variable {σ : Type} (fill : Placeholder → Bool → StateM σ Fill)

theorem Answered.length_eq {fill : Placeholder → Bool → StateM σ Fill} {kind : Placeholder}
    {t : Template} {s s' : σ} {new : List Filling}
    (h : Answered fill kind (flags kind t) s new s') :
    new.length = (placeholders t).count kind := by
  rw [← length_flags, ← h.asAhead_eq, List.length_map]

/-- **A run and its forest.**  Whatever becomes of the slots that the first passes leave, it can be
grown back to what becomes of the slots of the template. -/
theorem exists_forest (t : Template) (s : σ) {n : Nat} (hn : n ≤ Placeholder.all.length) :
    ∃ (u : Template) (log : List Filling) (s' : σ),
      fillAll fill (Placeholder.all.take n) t s = (u, s') ∧
      fillAll (logged fill) (Placeholder.all.take n) t ([], s) = (u, log, s') ∧
      (∀ c ∈ log, c.asAhead = true → c.kind = .value) ∧
      ∀ F : Forest, F.slots = placeholders u → F.Follows n →
        ∃ G : Forest, G.slots = placeholders t ∧ Forest.Regrown n log F G := by
  induction n with
  | zero =>
    exact ⟨t, [], s, rfl, rfl, by simp, fun F hslots hF => ⟨F, hslots, .zero hF⟩⟩
  | succ n ih =>
    obtain ⟨k, rfl⟩ := Placeholder.exists_rank_eq hn
    obtain ⟨u, log, s₁, hrun, hlogged, hflagged, hgrow⟩ := ih (Nat.le_of_succ_le hn)
    obtain ⟨new, s₂, hnew⟩ := exists_answered fill k (flags k u) s₁
    refine ⟨weave k false u new, log ++ new, s₂, ?_, ?_, ?_, fun F hslots hF => ?_⟩
    · rw [fillAll_take_rank_succ]
      exact (bind_apply hrun _).trans hnew.fillPass_eq
    · rw [fillAll_take_rank_succ]
      exact (bind_apply hlogged _).trans (hnew.fillPass_logged log)
    · intro c hc
      exact (List.mem_append.1 hc).elim (hflagged c) hnew.kind_eq_value
    · -- The slots of this pass are put back first, then those of the passes before it.
      rw [placeholders_weave] at hslots
      obtain ⟨G, hgraft, hG⟩ := Forest.exists_graft hnew.length_eq hnew.kinds hslots
      obtain ⟨H, hH, hregrown⟩ := hgrow G hG (hgraft.follows hF)
      exact ⟨H, hH, hregrown.succ hgraft hF⟩

/-- The account of a run that has filled the slots of `t` with the given calls and returned `u`. -/
structure Account (t u : Template) (log : List Filling) : Prop where
  /-- One kind is filled after another. -/
  ordered : log.Pairwise fun c d => c.kind.rank ≤ d.kind.rank
  /-- Only the fills of values are told of a word behind the slot. -/
  flagged : ∀ c ∈ log, c.asAhead = true → c.kind = .value
  /-- The slots of a kind that are filled are those of the template and those brought in time. -/
  filled : ∀ k, (log.map (·.kind)).count k =
    (placeholders t).count k + (Forest.inTime k log).count k
  /-- The slots of a kind that stay open are those brought too late. -/
  left : ∀ k, (placeholders u).count k = (Forest.late k log).count k

theorem Forest.Regrown.account {t u : Template} {log : List Filling} {G : Forest}
    (hslots : G.slots = placeholders t)
    (h : Regrown Placeholder.all.length log (bare (placeholders u)) G)
    (hflagged : ∀ c ∈ log, c.asAhead = true → c.kind = .value) : Account t u log := by
  have hlog : log = G.order Placeholder.all := h.log_eq
  have hperm : log.Perm G.calls := by
    rw [hlog]
    exact G.order_perm
  refine ⟨?_, hflagged, fun k => ?_, fun k => ?_⟩
  · rw [hlog]
    exact G.pairwise_order
  · have htime : (inTime k log).Perm (inTime k G.calls) := (hperm.filter _).flatMap_right _
    rw [(hperm.map _).count_eq, htime.count_eq, ← hslots]
    exact h.follows.count_calls (Nat.zero_le _)
  · have hlate : (late k log).Perm (late k G.calls) := (hperm.filter _).flatMap_right _
    have hleft : G.left = placeholders u := h.left_eq.trans (left_bare _)
    rw [hlate.count_eq, ← hleft]
    exact h.follows.count_left k

/-- **The account of resolving a text.**  For every fill with a state, whatever slots it brings,
resolving a text comes to an end.  The calls are those of the fillings in a forest whose roots are
the slots of the text, so that no slot is filled twice; the slots that stay open there are those of
the template that is rendered; and the calls are made and counted as in the account of the run. -/
theorem resolveWith_account (text : Text) (s : σ) :
    ∃ (u : Template) (log : List Filling) (s' : σ) (F : Forest),
      fillAll (logged fill) Placeholder.all (parse text) ([], s) = (u, log, s') ∧
      resolveWith (logged fill) text ([], s) = (Text.normalize (render u), log, s') ∧
      resolveWith fill text s = (Text.normalize (render u), s') ∧
      F.slots = placeholders (parse text) ∧ F.Follows 0 ∧ F.left = placeholders u ∧
      log = F.order Placeholder.all ∧ Account (parse text) u log := by
  obtain ⟨u, log, s', hrun, hlogged, hflagged, hgrow⟩ :=
    exists_forest fill (parse text) s (Nat.le_refl Placeholder.all.length)
  obtain ⟨F, hslots, hF⟩ :=
    hgrow (.bare (placeholders u)) (Forest.slots_bare _) (Forest.follows_bare _)
  rw [List.take_length] at hrun hlogged
  refine ⟨u, log, s', F, hlogged, ?_, ?_, hslots, hF.follows, ?_, hF.log_eq,
    hF.account hslots hflagged⟩
  · rw [resolveWith_eq_map]
    exact map_apply hlogged _
  · rw [resolveWith_eq_map]
    exact map_apply hrun _
  · exact hF.left_eq.trans (Forest.left_bare _)

/-- Slots that are brought in time double the calls from kind to kind, and those that are brought
too late make none, so this comes to an end. -/
example :
    let fill : Placeholder → Bool → StateM Unit Fill := fun _ _ =>
      pure (.plain "\x7bTag\x7d\x7bTimes\x7d\x7bValue\x7d\x7bDuration\x7d\x7bPercent\x7d")
    let log := (Id.run (resolveWith (logged fill) "a \x7bTag\x7d" ([], ()))).2.1
    log.map (·.kind.rank) = [0, 1, 2, 2, 3, 3, 3, 3, 4, 4, 4, 4, 4, 4, 4, 4] := by
  decide +kernel

end Runs

end Template

end Cardwright
