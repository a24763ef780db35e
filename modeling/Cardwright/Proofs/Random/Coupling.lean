import Cardwright.Proofs.Random.Outcome

/-!
# Two draws from one source

Two draws are *coupled* by a relation if both succeed from every source, with outcomes in that
relation; an outcome is a value with the source that is left behind.

As long as two draws take the same steps, they read the same words (`Always.coupled_bind`).  What a
draw consumes depends on what it draws from, so behind the first step in which they differ nothing
is known of their sources, and they are coupled only by what always holds of either one
(`Always.coupled`).
-/

namespace Cardwright.Draw

variable {σ α β γ : Type} {R : α × σ → β × σ → Prop}

/-- From every source, two draws succeed with related outcomes. -/
def Coupled (R : α × σ → β × σ → Prop) (d : Draw σ α) (d' : Draw σ β) : Prop :=
  ∀ s, ∃ x y, d s = some x ∧ d' s = some y ∧ R x y

/-- Draws that read nothing more leave the same source behind. -/
theorem coupled_pure {a : α} {b : β} (h : ∀ s, R (a, s) (b, s)) :
    Coupled R (pure a : Draw σ α) (pure b) :=
  fun s => ⟨(a, s), (b, s), rfl, rfl, h s⟩

/-- Two draws that begin with the same step are coupled if what follows it is. -/
theorem Always.coupled_bind {P : γ → Prop} {d : Draw σ γ} {f : γ → Draw σ α} {g : γ → Draw σ β}
    (hd : Always P d) (h : ∀ c, P c → Coupled R (f c) (g c)) : Coupled R (d >>= f) (d >>= g) := by
  intro s
  obtain ⟨c, s', hs, hc⟩ := hd s
  obtain ⟨x, y, hx, hy, hR⟩ := h c hc s'
  refine ⟨x, y, ?_, ?_, hR⟩
  · simp [Bind.bind, StateT.bind, hs, hx]
  · simp [Bind.bind, StateT.bind, hs, hy]

/-- Two draws with nothing in common are coupled by what always holds of their values. -/
theorem Always.coupled {P : α → Prop} {Q : β → Prop} {d : Draw σ α} {d' : Draw σ β}
    (hd : Always P d) (hd' : Always Q d') (h : ∀ a b s s', P a → Q b → R (a, s) (b, s')) :
    Coupled R d d' := by
  intro s
  obtain ⟨a, s₁, ha, hP⟩ := hd s
  obtain ⟨b, s₂, hb, hQ⟩ := hd' s
  exact ⟨(a, s₁), (b, s₂), ha, hb, h a b s₁ s₂ hP hQ⟩

end Cardwright.Draw
