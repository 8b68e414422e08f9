import RoadTraffic.Random.Source

/-!
# The ChaCha stream

The words of the ChaCha block function with twelve rounds, block after block from block zero,
under a key that is spread out of a 64-bit seed by a linear congruential sequence.

A stream is its key and the index of its next word, so that two streams that have drawn equally
often under one key are equal.
-/

namespace RoadTraffic

namespace ChaCha

/-- A row of four words. -/
structure Row where
  w0 : UInt32
  w1 : UInt32
  w2 : UInt32
  w3 : UInt32
  deriving DecidableEq, Inhabited

namespace Row

/-- Two rows combined word by word. -/
def zip (f : UInt32 → UInt32 → UInt32) (a b : Row) : Row :=
  ⟨f a.w0 b.w0, f a.w1 b.w1, f a.w2 b.w2, f a.w3 b.w3⟩

/-- A word turned left by `n` bits, for `0 < n < 32`. -/
def turn (n : UInt32) (w : UInt32) : UInt32 := (w <<< n) ||| (w >>> (32 - n))

/-- Two rows combined by exclusive or and turned left by `n` bits. -/
def mix (n : UInt32) (a b : Row) : Row := zip (fun x y => turn n (x ^^^ y)) a b

/-- The row with its first word moved to the end. -/
def rotate (a : Row) : Row := ⟨a.w1, a.w2, a.w3, a.w0⟩

/-- The word at a position below four. -/
def get (a : Row) : Nat → UInt32
  | 0 => a.w0
  | 1 => a.w1
  | 2 => a.w2
  | _ => a.w3

end Row

/-- The state of the block function, row by row. -/
structure Block where
  a : Row
  b : Row
  c : Row
  d : Row
  deriving DecidableEq, Inhabited

namespace Block

/-- A quarter round on each column. -/
def columnRound (s : Block) : Block :=
  let a := s.a.zip (· + ·) s.b
  let d := Row.mix 16 s.d a
  let c := s.c.zip (· + ·) d
  let b := Row.mix 12 s.b c
  let a := a.zip (· + ·) b
  let d := Row.mix 8 d a
  let c := c.zip (· + ·) d
  let b := Row.mix 7 b c
  ⟨a, b, c, d⟩

/-- A quarter round on each diagonal. -/
def diagonalRound (s : Block) : Block :=
  let t := columnRound ⟨s.a, s.b.rotate, s.c.rotate.rotate, s.d.rotate.rotate.rotate⟩
  ⟨t.a, t.b.rotate.rotate.rotate, t.c.rotate.rotate, t.d.rotate⟩

/-- Repeats a round on the columns and one on the diagonals. -/
def doubleRounds : Nat → Block → Block
  | 0, s => s
  | n + 1, s => doubleRounds n s.columnRound.diagonalRound

/-- Two blocks added word by word. -/
def add (s t : Block) : Block :=
  ⟨s.a.zip (· + ·) t.a, s.b.zip (· + ·) t.b, s.c.zip (· + ·) t.c, s.d.zip (· + ·) t.d⟩

/-- The word at a position below sixteen. -/
def get (s : Block) (i : Nat) : UInt32 :=
  match i / 4 with
  | 0 => s.a.get (i % 4)
  | 1 => s.b.get (i % 4)
  | 2 => s.c.get (i % 4)
  | _ => s.d.get (i % 4)

end Block

/-- The first row of every block. -/
def constants : Row := ⟨0x61707865, 0x3320646e, 0x79622d32, 0x6b206574⟩

/-- A key of 256 bits. -/
structure Key where
  low : Row
  high : Row
  deriving DecidableEq, Inhabited

/-- The block of a key at a position in its stream. -/
def block (k : Key) (index : UInt64) : Block :=
  let s : Block := ⟨constants, k.low, k.high, ⟨index.toUInt32, (index >>> 32).toUInt32, 0, 0⟩⟩
  (s.doubleRounds 6).add s

/-- One step of the sequence that keys are made of, and the word read off it. -/
def spread (s : UInt64) : UInt32 × UInt64 :=
  let s := s * 6364136223846793005 + 11634580027462260723
  let x := (((s >>> 18) ^^^ s) >>> 27).toUInt32
  let by' := (s >>> 59).toUInt32
  ((x >>> by') ||| (x <<< ((32 - by') % 32)), s)

/-- A row of four words of the sequence. -/
def spreadRow (s : UInt64) : Row × UInt64 :=
  let (w0, s) := spread s
  let (w1, s) := spread s
  let (w2, s) := spread s
  let (w3, s) := spread s
  (⟨w0, w1, w2, w3⟩, s)

/-- The key of a seed. -/
def Key.ofSeed (seed : UInt64) : Key :=
  let (low, s) := spreadRow seed
  let (high, _) := spreadRow s
  ⟨low, high⟩

end ChaCha

/-- A key and the index of the next word of its stream. -/
structure ChaCha where
  key : ChaCha.Key
  drawn : Nat
  deriving DecidableEq, Inhabited

instance : RandomSource ChaCha where
  seeded seed := ⟨ChaCha.Key.ofSeed seed, 0⟩
  word r :=
    ((ChaCha.block r.key (UInt64.ofNat (r.drawn / 16))).get (r.drawn % 16),
      { r with drawn := r.drawn + 1 })

end RoadTraffic
