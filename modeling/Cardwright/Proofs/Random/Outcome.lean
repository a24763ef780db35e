import Cardwright.Random.Draw
import Mathlib.Data.Subtype
import Mathlib.Tactic.Choose

/-!
# What steps come to

A step of a monad *returns* values with a property (`Returns`) if it can be written as a step on
such values; nothing is said about whether it returns at all.  Two steps that follow one that
returns such values need to agree on those values only (`Returns.bind_congr`).

A draw *always* gives a value with a property (`Draw.Always`) if it succeeds at every source, with
such a value.  That is the notion for generation: `always_iff` splits it into succeeding
(`Draw.Succeeds`) and returning, so that what is proved of a step in every monad carries over to
draws.
-/

namespace Cardwright

/-! ### Returning -/

section Returns

variable {m : Type → Type} [Monad m] {α β : Type}

/-- Every value that a step can return has a property: the step is one on such values. -/
def Returns (P : α → Prop) (x : m α) : Prop := ∃ y : m { a // P a }, Subtype.val <$> y = x

variable [LawfulMonad m] {P Q : α → Prop} {R : β → Prop} {x : m α}

theorem returns_pure {a : α} (h : P a) : Returns P (pure a : m α) :=
  ⟨pure ⟨a, h⟩, by simp⟩

theorem Returns.mono (hx : Returns P x) (h : ∀ a, P a → Q a) : Returns Q x := by
  obtain ⟨y, rfl⟩ := hx
  exact ⟨(fun a => ⟨a.1, h a.1 a.2⟩) <$> y, by simp⟩

theorem Returns.bind {f : α → m β} (hx : Returns P x) (hf : ∀ a, P a → Returns R (f a)) :
    Returns R (x >>= f) := by
  obtain ⟨y, rfl⟩ := hx
  choose g hg using hf
  exact ⟨y >>= fun a => g a.1 a.2, by simp [hg]⟩

/-- Two continuations may be exchanged if they agree on what the step before them returns. -/
theorem Returns.bind_congr {f g : α → m β} (hx : Returns P x) (h : ∀ a, P a → f a = g a) :
    x >>= f = x >>= g := by
  obtain ⟨y, rfl⟩ := hx
  rw [bind_map_left, bind_map_left]
  exact congrArg (y >>= ·) (funext fun a => h a.1 a.2)

theorem returns_of_state {σ : Type} {x : StateM σ α} (h : ∀ s, P (x s).1) : Returns P x :=
  ⟨fun s => (⟨(x s).1, h s⟩, (x s).2), rfl⟩

end Returns

namespace Draw

/-! ### Succeeding -/

variable {σ α β : Type} {P Q : α → Prop} {R : β → Prop} {d : Draw σ α}

/-- A draw succeeds at every source, with a value that has a property. -/
def Always (P : α → Prop) (d : Draw σ α) : Prop := ∀ s, ∃ a s', d s = some (a, s') ∧ P a

/-- A draw succeeds at every source. -/
def Succeeds (d : Draw σ α) : Prop := Always (fun _ => True) d

theorem always_pure {a : α} (h : P a) : Always P (pure a : Draw σ α) := fun s => ⟨a, s, rfl, h⟩

theorem Always.mono (hd : Always P d) (h : ∀ a, P a → Q a) : Always Q d := by
  intro s
  obtain ⟨a, s', hs, ha⟩ := hd s
  exact ⟨a, s', hs, h a ha⟩

/-- A value that a draw gives at some source. -/
def CanGive (d : Draw σ α) (a : α) : Prop := ∃ s s', d s = some (a, s')

/-- What a draw gives is what it can give. -/
theorem Always.canGive (hd : Always P d) : Always (fun a => P a ∧ d.CanGive a) d := by
  intro s
  obtain ⟨a, s', hs, ha⟩ := hd s
  exact ⟨a, s', hs, ha, s, s', hs⟩

theorem Always.bind {f : α → Draw σ β} (hd : Always P d) (hf : ∀ a, P a → Always R (f a)) :
    Always R (d >>= f) := by
  intro s
  obtain ⟨a, s', hs, ha⟩ := hd s
  obtain ⟨b, s'', hs', hb⟩ := hf a ha s'
  exact ⟨b, s'', by simp [Bind.bind, StateT.bind, hs, hs'], hb⟩

theorem Always.map {f : α → β} (hd : Always P d) (hf : ∀ a, P a → R (f a)) :
    Always R (f <$> d) := by
  rw [map_eq_pure_bind]
  exact hd.bind fun a ha => always_pure (hf a ha)

theorem Always.succeeds (hd : Always P d) : Succeeds d := hd.mono fun _ _ => trivial

theorem succeeds_pure (a : α) : Succeeds (pure a : Draw σ α) := always_pure trivial

/-- A draw that succeeds, whatever it gives, may stand in front of any other. -/
theorem Succeeds.bind {f : α → Draw σ β} (hd : Succeeds d) (hf : ∀ a, Always R (f a)) :
    Always R (d >>= f) :=
  Always.bind hd fun a _ => hf a

/-! ### Succeeding and returning -/

theorem returns_iff : Returns P d ↔ ∀ s a s', d s = some (a, s') → P a := by
  constructor
  · rintro ⟨y, rfl⟩ s a s' h
    obtain ⟨⟨b, s''⟩, -, hb⟩ := Option.bind_eq_some_iff.1 h
    cases hb
    exact b.2
  · intro h
    -- Each outcome can be moved into the subtype by itself, and so can the draw.
    have hlift : ∀ s, ∃ o : Option ({ a // P a } × σ), o.map (fun x => (x.1.1, x.2)) = d s := by
      intro s
      rcases hs : d s with _ | ⟨a, s'⟩
      · exact ⟨none, rfl⟩
      · exact ⟨some (⟨a, h s a s' hs⟩, s'), rfl⟩
    choose y hy using hlift
    refine ⟨y, funext fun s => ?_⟩
    rw [← hy s]
    cases hs : y s <;> simp [Functor.map, StateT.map, hs, pure]

/-- A draw that always gives values with a property is one that succeeds and returns such values. -/
theorem always_iff : Always P d ↔ Succeeds d ∧ Returns P d := by
  rw [returns_iff]
  constructor
  · intro h
    refine ⟨h.succeeds, fun s a s' hs => ?_⟩
    obtain ⟨b, s'', hs', hb⟩ := h s
    rw [hs] at hs'
    cases hs'
    exact hb
  · rintro ⟨hsucc, hret⟩ s
    obtain ⟨a, s', hs, -⟩ := hsucc s
    exact ⟨a, s', hs, hret s a s' hs⟩

theorem Always.returns (hd : Always P d) : Returns P d := (always_iff.1 hd).2

theorem Always.and_returns (hd : Always P d) (h : Returns Q d) : Always (fun a => P a ∧ Q a) d := by
  intro s
  obtain ⟨a, s', hs, ha⟩ := hd s
  exact ⟨a, s', hs, ha, returns_iff.1 h s a s' hs⟩

/-! ### Elementary draws -/

variable [WordSource σ]

theorem succeeds_roll : Succeeds (roll : Draw σ Float) := fun _ => ⟨_, _, rfl, trivial⟩

theorem succeeds_chance (probability : Float) : Succeeds (chance probability : Draw σ Bool) :=
  fun _ => ⟨_, _, rfl, trivial⟩

theorem always_natBetween {low high : Nat} (h : low ≤ high) :
    Always (fun n => low ≤ n ∧ n ≤ high) (natBetween low high : Draw σ Nat) := by
  intro s
  obtain ⟨n, s', hs, hn⟩ := natBetween_eq_some h s
  exact ⟨n, s', hs, hn⟩

theorem always_between {low high : Int} (h : low ≤ high) :
    Always (fun n => low ≤ n ∧ n ≤ high) (between low high : Draw σ Int) := by
  intro s
  obtain ⟨n, s', hs, hn⟩ := between_eq_some h s
  exact ⟨n, s', hs, hn⟩

/-- A pick fails exactly on an empty list. -/
theorem pick_eq_none_iff {items : List α} {s : σ} : pick items s = none ↔ items = [] := by
  constructor
  · intro hnone
    by_contra hne
    obtain ⟨x, s', hs, -⟩ := pick_eq_some hne s
    rw [hnone] at hs
    cases hs
  · rintro rfl
    rfl

theorem always_pick {items : List α} (h : items ≠ []) :
    Always (· ∈ items) (pick items : Draw σ α) := by
  intro s
  obtain ⟨x, s', hs, hx⟩ := pick_eq_some h s
  exact ⟨x, s', hs, hx⟩

end Draw

end Cardwright
