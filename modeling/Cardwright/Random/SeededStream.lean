import Cardwright.Random.Draw

/-!
# Seeded streams

A stream of random words that is determined by a 64-bit seed: the ChaCha key stream with twelve
rounds, under a key expanded from the seed. The block counter starts at zero and the nonce is zero,
so equal seeds give equal streams.
-/

namespace Cardwright.SeededStream

/-! ### The block function -/

/-- Four words, one row of the cipher's state. -/
structure Row where
  a : UInt32
  b : UInt32
  c : UInt32
  d : UInt32

namespace Row

/-- Combine two rows word by word. -/
@[inline] def zip (f : UInt32 → UInt32 → UInt32) (x y : Row) : Row :=
  ⟨f x.a y.a, f x.b y.b, f x.c y.c, f x.d y.d⟩

/-- Rotate each word to the left. -/
@[inline] def rotate (x : Row) (n : UInt32) : Row :=
  let turn := fun w : UInt32 => (w <<< n) ||| (w >>> (32 - n))
  ⟨turn x.a, turn x.b, turn x.c, turn x.d⟩

/-- Move every word one column to the left, the first to the end. -/
@[inline] def shift (x : Row) : Row := ⟨x.b, x.c, x.d, x.a⟩

/-- The words in order. -/
def toList (x : Row) : List UInt32 := [x.a, x.b, x.c, x.d]

end Row

/-- The cipher's state, by rows: constants, the two halves of the key, counter and nonce. -/
structure State where
  r0 : Row
  r1 : Row
  r2 : Row
  r3 : Row

namespace State

/-- The quarter round on all four columns at once. -/
def columnRound (s : State) : State :=
  let add := Row.zip (· + ·)
  let xor := Row.zip (· ^^^ ·)
  let r0 := add s.r0 s.r1
  let r3 := (xor s.r3 r0).rotate 16
  let r2 := add s.r2 r3
  let r1 := (xor s.r1 r2).rotate 12
  let r0 := add r0 r1
  let r3 := (xor r3 r0).rotate 8
  let r2 := add r2 r3
  let r1 := (xor r1 r2).rotate 7
  ⟨r0, r1, r2, r3⟩

/-- One round on the columns and one on the diagonals. -/
def doubleRound (s : State) : State :=
  let s := s.columnRound
  let t := columnRound ⟨s.r0, s.r1.shift, s.r2.shift.shift, s.r3.shift.shift.shift⟩
  ⟨t.r0, t.r1.shift.shift.shift, t.r2.shift.shift, t.r3.shift⟩

/-- The sixteen words of a block: twelve rounds, added to the state they started from. -/
def block (s : State) : List UInt32 :=
  let t := (List.range 6).foldl (fun t _ => t.doubleRound) s
  let add := Row.zip (· + ·)
  (add s.r0 t.r0).toList ++ (add s.r1 t.r1).toList ++ (add s.r2 t.r2).toList
    ++ (add s.r3 t.r3).toList

end State

/-! ### Seeds -/

/-- One step of the generator that expands a seed, and the word that it puts out. -/
def expand (s : UInt64) : UInt32 × UInt64 :=
  let s := s * 6364136223846793005 + 11634580027462260723
  let x := (((s >>> 18) ^^^ s) >>> 27).toUInt32
  let n := (s >>> 59).toUInt32
  ((x >>> n) ||| (x <<< ((32 - n) % 32)), s)

/-- Four successive words of an expanded seed. -/
def expandRow (s : UInt64) : Row × UInt64 :=
  let (a, s) := expand s
  let (b, s) := expand s
  let (c, s) := expand s
  let (d, s) := expand s
  (⟨a, b, c, d⟩, s)

end SeededStream

/-- A position in a seeded stream: the key, the next block's number and what is left of this block.
-/
structure SeededStream where
  keyLow : SeededStream.Row
  keyHigh : SeededStream.Row
  counter : UInt64
  pending : List UInt32

namespace SeededStream

/-- The beginning of the stream of a seed. -/
def ofSeed (seed : UInt64) : SeededStream :=
  let (low, s) := expandRow seed
  let (high, _) := expandRow s
  ⟨low, high, 0, []⟩

/-- The words of the block with the given number. -/
def blockAt (s : SeededStream) (counter : UInt64) : List UInt32 :=
  State.block ⟨⟨0x61707865, 0x3320646e, 0x79622d32, 0x6b206574⟩, s.keyLow, s.keyHigh,
    ⟨counter.toUInt32, (counter >>> 32).toUInt32, 0, 0⟩⟩

/-- The next word, which begins a new block if the last one is used up. -/
def next (s : SeededStream) : UInt32 × SeededStream :=
  match s.pending with
  | w :: rest => (w, { s with pending := rest })
  | [] =>
    match s.blockAt s.counter with
    | w :: rest => (w, { s with counter := s.counter + 1, pending := rest })
    | [] => (0, s)

instance : WordSource SeededStream := ⟨next⟩

end SeededStream

end Cardwright
