import Cardwright.Proofs.Template.Passes

/-!
# Asking and weaving

A pass does two things: it asks for fills, and it puts the answers in.  What it asks is settled by
the template alone.  Whether the word "as" stands behind a slot is read off the next segment, which
no answer has touched yet; so the flags can be listed beforehand (`flags`), and a pass is a run of
calls followed by a pure function of what they gave (`weave`), in any monad (`fillPass_eq_weave`).

For a stateful fill the calls can be kept in a log (`logged`).  Neither keeping the log nor refusing
to drop any word (`keeping`) changes what is asked: the answers to one list of flags (`Answered`)
are those of every variant of the pass.
-/

namespace Cardwright

/-- The same text, with the word "as" behind it kept. -/
def Fill.keep (f : Fill) : Fill := { f with dropsAs := false }

namespace Template

/-! ### Calls and their answers -/

/-- A call of a fill with its answer: the kind of the slot, whether the word "as" stands behind it,
and what the slot is filled with. -/
structure Filling where
  kind : Placeholder
  asAhead : Bool
  fill : Fill
deriving DecidableEq, Repr

namespace Filling

/-- The slots that a filling brings. -/
def slots (c : Filling) : List Placeholder := placeholders (parse c.fill.text)

/-- Whether a word is dropped behind a filling: it fills a value with the word behind it, and asks
for the word to be dropped. -/
def drops (c : Filling) : Bool := c.kind == .value && c.asAhead && c.fill.dropsAs

/-- The same filling, with the word behind it kept. -/
def keep (c : Filling) : Filling := { c with fill := c.fill.keep }

@[simp] theorem slots_keep (c : Filling) : c.keep.slots = c.slots := rfl

@[simp] theorem text_keep (c : Filling) : c.keep.fill.text = c.fill.text := rfl

@[simp] theorem drops_keep (c : Filling) : c.keep.drops = false := Bool.and_false _

/-- Words are dropped behind values only. -/
theorem kind_of_drops {c : Filling} (h : c.drops = true) : c.kind = .value := by
  rw [drops, Bool.and_assoc] at h
  exact beq_iff_eq.1 (Bool.and_eq_true_iff.1 h).1

theorem drops_eq_false {c : Filling} (h : c.kind ≠ .value) : c.drops = false := by
  by_contra hdrops
  rw [Bool.not_eq_false] at hdrops
  exact h (kind_of_drops hdrops)

end Filling

/-- For each slot of a kind in a template, whether it is a value with the word "as" behind it. -/
def flags (kind : Placeholder) : Template → List Bool
  | [] => []
  | .literal _ :: t => flags kind t
  | .slot p :: t =>
    if p = kind then (kind == .value && asAhead t) :: flags kind t else flags kind t

/-- Put fillings in the places of the slots of a kind, from left to right.  `drops` says that the
word "as" in front is to be dropped. -/
def weave (kind : Placeholder) : (drops : Bool) → Template → List Filling → Template
  | _, [], _ => []
  | drops, .literal text :: t, new =>
    consLiteral (if drops then dropAs text else text) (weave kind false t new)
  | _, .slot p :: t, new =>
    if p = kind then
      match new with
      | [] => []
      | c :: new => splice (parse c.fill.text) (weave kind c.drops t new)
    else .slot p :: weave kind false t new

section Asking

variable {m : Type → Type} [Monad m]

/-- Ask for a fill, and return the call with its answer. -/
def ask (fill : Placeholder → Bool → m Fill) (kind : Placeholder) (flag : Bool) : m Filling :=
  (⟨kind, flag, ·⟩) <$> fill kind flag

/-- A fill whose answers never drop a word. -/
def keeping (fill : Placeholder → Bool → m Fill) (kind : Placeholder) (flag : Bool) : m Fill :=
  Fill.keep <$> fill kind flag

variable [LawfulMonad m] {fill : Placeholder → Bool → m Fill} {kind : Placeholder}

/-- **A pass asks first and weaves then**, in any monad. -/
theorem fillPass_eq_weave (drops : Bool) (t : Template) :
    fillPass fill kind drops t =
      weave kind drops t <$> (flags kind t).mapM (ask fill kind) := by
  induction t generalizing drops with
  | nil => simp [fillPass, flags, weave]
  | cons s t ih =>
    cases s with
    | literal l =>
      rw [fillPass, flags, ih]
      simp [weave]
    | slot p =>
      rw [fillPass, flags]
      by_cases hp : p = kind
      · -- The flag that a call is given is the one that goes into the filling.
        rw [if_pos hp, if_pos hp, List.mapM_cons]
        simp [ih, ask, weave, hp, Filling.drops]
      · rw [if_neg hp, if_neg hp, ih]
        simp [weave, hp]

/-- A fill that drops nothing asks the same, and its answers are the ones kept. -/
theorem mapM_ask_keeping (bs : List Bool) :
    bs.mapM (ask (keeping fill) kind) =
      List.map Filling.keep <$> bs.mapM (ask fill kind) := by
  induction bs with
  | nil => simp
  | cons b bs ih =>
    have hask : ask (keeping fill) kind b = Filling.keep <$> ask fill kind b := by
      simp [ask, keeping, Filling.keep]
    simp [ih, hask]

end Asking

/-! ### The slots behind a pass -/

/-- What the slots of a template become when those of a kind are filled. -/
def refill (kind : Placeholder) : List Placeholder → List Filling → List Placeholder
  | [], _ => []
  | p :: ps, new =>
    if p = kind then
      match new with
      | [] => []
      | c :: new => c.slots ++ refill kind ps new
    else p :: refill kind ps new

/-- A pass leaves the slots of the other kinds and those that its fillings bring. -/
theorem placeholders_weave (kind : Placeholder) (drops : Bool) (t : Template)
    (new : List Filling) :
    placeholders (weave kind drops t new) = refill kind (placeholders t) new := by
  induction t generalizing drops new with
  | nil => rfl
  | cons s t ih =>
    cases s with
    | literal l => simpa [weave] using ih false new
    | slot p =>
      by_cases hp : p = kind
      · cases new with
        | nil => simp [weave, hp, refill, placeholders_nil]
        | cons c new =>
          simpa [weave, hp, refill, Filling.slots] using ih c.drops new
      · simpa [weave, hp, refill] using ih false new

theorem length_flags (kind : Placeholder) (t : Template) :
    (flags kind t).length = (placeholders t).count kind := by
  induction t with
  | nil => rfl
  | cons s t ih =>
    cases s with
    | literal l => simpa [flags] using ih
    | slot p => by_cases hp : p = kind <;> simpa [flags, hp] using ih

/-- Away from values no flag is raised, so what is asked is settled by the slots. -/
theorem flags_eq_replicate {kind : Placeholder} (hkind : kind ≠ .value) (t : Template) :
    flags kind t = List.replicate ((placeholders t).count kind) false := by
  rw [← length_flags, List.eq_replicate_iff]
  refine ⟨rfl, fun b hb => ?_⟩
  induction t with
  | nil => cases hb
  | cons s t ih =>
    cases s with
    | literal l => exact ih hb
    | slot p =>
      have hvalue : (kind == Placeholder.value) = false := beq_eq_false_iff_ne.2 hkind
      rw [flags, hvalue, Bool.false_and] at hb
      split at hb
      · exact (List.mem_cons.1 hb).elim id ih
      · exact ih hb

/-! ### Logged runs -/

section Logs

variable {σ : Type}

/-- A stateful fill that keeps a log of its calls and answers beside its state. -/
def logged (fill : Placeholder → Bool → StateM σ Fill) (kind : Placeholder) (flag : Bool) :
    StateM (List Filling × σ) Fill := fun (log, s) =>
  let (answer, s') := fill kind flag s
  (answer, log ++ [⟨kind, flag, answer⟩], s')

theorem map_apply {α β : Type} {x : StateM σ α} {s s' : σ} {a : α} (h : x s = (a, s'))
    (f : α → β) : (f <$> x) s = (f a, s') := by
  have hmap : (f <$> x) s = (f (x s).1, (x s).2) := rfl
  rw [hmap, h]

theorem bind_apply {α β : Type} {x : StateM σ α} {s s' : σ} {a : α} (h : x s = (a, s'))
    (f : α → StateM σ β) : (x >>= f) s = f a s' := by
  have hbind : (x >>= f) s = f (x s).1 (x s).2 := rfl
  rw [hbind, h]

theorem mapM_cons_apply {α β : Type} (f : α → StateM σ β) (a : α) (l : List α) (s : σ) :
    (a :: l).mapM f s =
      ((f a s).1 :: (l.mapM f (f a s).2).1, (l.mapM f (f a s).2).2) := by
  rw [List.mapM_cons]
  rfl

/-- Calls of one kind with the given flags, their answers and the state behind them; a log takes
down just these answers. -/
structure Answered (fill : Placeholder → Bool → StateM σ Fill) (kind : Placeholder)
    (bs : List Bool) (s : σ) (new : List Filling) (s' : σ) : Prop where
  asAhead_eq : new.map (·.asAhead) = bs
  kinds : ∀ c ∈ new, c.kind = kind
  run : bs.mapM (ask fill kind) s = (new, s')
  log : ∀ log, bs.mapM (ask (logged fill) kind) (log, s) = (new, log ++ new, s')

/-- Calls are answered, whatever the fill. -/
theorem exists_answered (fill : Placeholder → Bool → StateM σ Fill) (kind : Placeholder)
    (bs : List Bool) (s : σ) : ∃ new s', Answered fill kind bs s new s' := by
  induction bs generalizing s with
  | nil => exact ⟨[], s, rfl, by simp, rfl, fun log => by rw [List.append_nil]; rfl⟩
  | cons b bs ih =>
    obtain ⟨new, s', h⟩ := ih (fill kind b s).2
    let c : Filling := ⟨kind, b, (fill kind b s).1⟩
    have hcall : ask fill kind b s = (c, (fill kind b s).2) := rfl
    have hlogged : ∀ log, ask (logged fill) kind b (log, s) =
        (c, log ++ [c], (fill kind b s).2) := fun _ => rfl
    refine ⟨c :: new, s', ?_, ?_, ?_, fun log => ?_⟩
    · rw [List.map_cons, h.asAhead_eq]
    · exact List.forall_mem_cons.2 ⟨rfl, h.kinds⟩
    · rw [mapM_cons_apply, hcall, h.run]
    · rw [mapM_cons_apply, hlogged, h.log, List.append_assoc, List.singleton_append]

variable {fill : Placeholder → Bool → StateM σ Fill} {kind : Placeholder}

/-- A fill that drops nothing is asked the same and comes to the same state. -/
theorem Answered.keep {bs : List Bool} {s s' : σ} {new : List Filling}
    (h : Answered fill kind bs s new s') :
    Answered (keeping fill) kind bs s (new.map Filling.keep) s' := by
  obtain ⟨kept, s₂, hkept⟩ := exists_answered (keeping fill) kind bs s
  have hrun : bs.mapM (ask (keeping fill) kind) s = (new.map Filling.keep, s') := by
    rw [mapM_ask_keeping]
    exact map_apply h.run _
  obtain ⟨rfl, rfl⟩ := Prod.mk.inj (hkept.run.symm.trans hrun)
  exact hkept

/-- Only the calls of values may be told of a word. -/
theorem Answered.kind_eq_value {t : Template} {s s' : σ} {new : List Filling}
    (h : Answered fill kind (flags kind t) s new s') {c : Filling} (hc : c ∈ new)
    (hflag : c.asAhead = true) : c.kind = .value := by
  rw [h.kinds c hc]
  by_contra hne
  have hmem : c.asAhead ∈ flags kind t := by
    rw [← h.asAhead_eq]
    exact List.mem_map_of_mem hc
  rw [flags_eq_replicate hne, hflag] at hmem
  exact absurd (List.eq_of_mem_replicate hmem) (by decide)

variable {t : Template} {s s' : σ} {new : List Filling}

theorem Answered.fillPass_eq (h : Answered fill kind (flags kind t) s new s') :
    fillPass fill kind false t s = (weave kind false t new, s') := by
  rw [fillPass_eq_weave]
  exact map_apply h.run _

theorem Answered.fillPass_logged (h : Answered fill kind (flags kind t) s new s')
    (log : List Filling) :
    fillPass (logged fill) kind false t (log, s) = (weave kind false t new, log ++ new, s') := by
  rw [fillPass_eq_weave]
  exact map_apply (h.log log) _

end Logs

end Template

end Cardwright
