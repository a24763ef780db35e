/-!
# Draws

Everything random is a *draw*: a step that consumes 32-bit words of a source and may fail, namely
when it is asked to pick from nothing. What the words are is left open, so what is proved of a draw
holds of every outcome; seeded streams are one kind of source (`Cardwright.Random.SeededStream`).

Main statements: `between_eq_some` and `natBetween_eq_some` (a bounded draw always succeeds, within
its bounds), and `pick_eq_some` (a pick from a nonempty list succeeds and is one of its members).
-/

namespace Cardwright

/-- A source of random 32-bit words. -/
class WordSource (σ : Type) where
  /-- The next word and the source behind it. -/
  next : σ → UInt32 × σ

/-- A step that draws from a source and can fail. -/
abbrev Draw (σ : Type) := StateT σ Option

namespace Draw

variable {σ : Type} [WordSource σ]

/-! ### Words and rolls -/

/-- The next word. -/
def word32 : Draw σ UInt32 := fun s => some (WordSource.next s)

/-- The next two words, the first being the low half. -/
def word64 : Draw σ UInt64 := do
  let low ← word32
  let high ← word32
  pure ((high.toUInt64 <<< 32) ||| low.toUInt64)

/-- A number in `[0, 1)`: 53 random bits behind the binary point. -/
def roll : Draw σ Float := do
  let w ← word64
  pure ((w >>> 11).toFloat / 9007199254740992.0)

/-- True with the given probability, which is taken in units of `2 ^ -64`. -/
def chance (probability : Float) : Draw σ Bool := do
  let w ← word64
  pure (w < (probability * 18446744073709551616.0).toUInt64)

/-! ### Bounded numbers -/

/-- How often a bounded draw rejects a word before it takes what comes. Each word is rejected with a
probability below one half, so the bound is never met in practice; it makes drawing total. -/
def maxRejections : Nat := 1024

/-- Draw a number below `n` from words of the given width. A word times `n` has its result in the
high half; the low half is rejected where it would make some results likelier than others. -/
def scaled (width : Nat) (word : Draw σ Nat) (n : Nat) : Nat → Draw σ Nat
  | 0 => do return ((← word) * n) >>> width
  | tries + 1 => do
    let product := (← word) * n
    if product % (1 <<< width) < n <<< (width - 1 - n.log2) then pure (product >>> width)
    else scaled width word n tries

/-- A uniform number from `low` up to `high`. -/
def between (low high : Int) : Draw σ Int := do
  let n ← scaled 32 (UInt32.toNat <$> word32) (high - low + 1).toNat maxRejections
  pure (low + n)

/-- A uniform natural number from `low` up to `high`. -/
def natBetween (low high : Nat) : Draw σ Nat := do
  let n ← scaled 32 (UInt32.toNat <$> word32) (high - low + 1) maxRejections
  pure (low + n)

/-- A uniform position in a list of the given length. -/
def position (length : Nat) : Draw σ Nat :=
  scaled 64 (UInt64.toNat <$> word64) length maxRejections

/-! ### Picks -/

/-- A uniform member of a list; it fails, drawing nothing, if there is none. -/
def pick {α : Type} (items : List α) : Draw σ α :=
  if items.isEmpty then failure
  else do
    let i ← position items.length
    match items[i]? with
    | some item => pure item
    | none => failure

/-! ### Bounds -/

/-- A draw of a number succeeds at every source and stays below a limit. -/
def Below (d : Draw σ Nat) (limit : Nat) : Prop :=
  ∀ s, ∃ k s', d s = some (k, s') ∧ k < limit

omit [WordSource σ] in
theorem below_scaled {width : Nat} {word : Draw σ Nat} (hw : Below word (1 <<< width)) {n : Nat}
    (hn : 0 < n) (tries : Nat) : Below (scaled width word n tries) n := by
  have bound : ∀ v, v < 1 <<< width → (v * n) >>> width < n := fun v hv => by
    rw [Nat.one_shiftLeft] at hv
    rw [Nat.shiftRight_eq_div_pow]
    exact Nat.div_lt_of_lt_mul (Nat.mul_lt_mul_of_pos_right hv hn)
  induction tries with
  | zero =>
    intro s
    obtain ⟨v, s', h, hv⟩ := hw s
    exact ⟨_, s', by simp only [scaled, bind, StateT.bind, h]; rfl, bound v hv⟩
  | succ tries ih =>
    intro s
    obtain ⟨v, s', h, hv⟩ := hw s
    simp only [scaled, bind, StateT.bind, h]
    by_cases accepted : v * n % (1 <<< width) < n <<< (width - 1 - n.log2)
    · exact ⟨_, s', by simp only [Option.bind_some, accepted, if_true]; rfl, bound v hv⟩
    · obtain ⟨k, s'', h', hk⟩ := ih s'
      exact ⟨k, s'', by simp only [Option.bind_some, accepted, if_false]; exact h', hk⟩

theorem below_word32 : Below (UInt32.toNat <$> word32 : Draw σ Nat) (1 <<< 32) := fun _ =>
  ⟨_, _, rfl, UInt32.toNat_lt _⟩

theorem below_word64 : Below (UInt64.toNat <$> word64 : Draw σ Nat) (1 <<< 64) := fun _ =>
  ⟨_, _, rfl, UInt64.toNat_lt _⟩

/-- A number between two bounds in order is always drawn. -/
theorem between_eq_some {low high : Int} (h : low ≤ high) (s : σ) :
    ∃ n s', between low high s = some (n, s') ∧ low ≤ n ∧ n ≤ high := by
  obtain ⟨k, s', hs, hk⟩ := below_scaled (σ := σ) below_word32
    (n := (high - low + 1).toNat) (by omega) maxRejections s
  exact ⟨low + k, s', by simp only [between, bind, StateT.bind, hs]; rfl, by omega, by omega⟩

/-- A natural number between two bounds in order is always drawn. -/
theorem natBetween_eq_some {low high : Nat} (h : low ≤ high) (s : σ) :
    ∃ n s', natBetween low high s = some (n, s') ∧ low ≤ n ∧ n ≤ high := by
  obtain ⟨k, s', hs, hk⟩ := below_scaled (σ := σ) below_word32
    (n := high - low + 1) (by omega) maxRejections s
  exact ⟨low + k, s', by simp only [natBetween, bind, StateT.bind, hs]; rfl, by omega, by omega⟩

/-- A pick from a nonempty list succeeds, and what it picks is a member. -/
theorem pick_eq_some {α : Type} {items : List α} (h : items ≠ []) (s : σ) :
    ∃ x s', pick items s = some (x, s') ∧ x ∈ items := by
  obtain ⟨k, s', hs, hk⟩ := below_scaled (σ := σ) below_word64
    (n := items.length) (List.length_pos_iff.2 h) maxRejections s
  refine ⟨items[k], s', ?_, List.getElem_mem hk⟩
  have empty : items.isEmpty = false := by simpa using h
  simp only [pick, empty, position, bind, StateT.bind, Bool.false_eq_true, if_false, hs,
    Option.bind_some, List.getElem?_eq_getElem hk]
  rfl

end Draw

end Cardwright
