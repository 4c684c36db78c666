/-!
# The ChaCha stream

A block of sixteen words is mixed by double rounds, each of which works on the four columns and
then on the four diagonals of the block, and added to what it was before. Blocks differ in their
counter. Six double rounds make the variant with twelve rounds.
-/
namespace Lanes.ChaCha

/-- The words of a block in order. -/
structure Block where
  x0 : UInt32
  x1 : UInt32
  x2 : UInt32
  x3 : UInt32
  x4 : UInt32
  x5 : UInt32
  x6 : UInt32
  x7 : UInt32
  x8 : UInt32
  x9 : UInt32
  x10 : UInt32
  x11 : UInt32
  x12 : UInt32
  x13 : UInt32
  x14 : UInt32
  x15 : UInt32

def rotateLeft (x n : UInt32) : UInt32 :=
  (x <<< n) ||| (x >>> (32 - n))

/-- Four words mixed with one another. -/
def quarterRound (a b c d : UInt32) : UInt32 × UInt32 × UInt32 × UInt32 :=
  let a := a + b
  let d := rotateLeft (d ^^^ a) 16
  let c := c + d
  let b := rotateLeft (b ^^^ c) 12
  let a := a + b
  let d := rotateLeft (d ^^^ a) 8
  let c := c + d
  let b := rotateLeft (b ^^^ c) 7
  (a, b, c, d)

def columns (s : Block) : Block :=
  let p := quarterRound s.x0 s.x4 s.x8 s.x12
  let q := quarterRound s.x1 s.x5 s.x9 s.x13
  let r := quarterRound s.x2 s.x6 s.x10 s.x14
  let t := quarterRound s.x3 s.x7 s.x11 s.x15
  ⟨p.1, q.1, r.1, t.1, p.2.1, q.2.1, r.2.1, t.2.1,
    p.2.2.1, q.2.2.1, r.2.2.1, t.2.2.1, p.2.2.2, q.2.2.2, r.2.2.2, t.2.2.2⟩

def diagonals (s : Block) : Block :=
  let p := quarterRound s.x0 s.x5 s.x10 s.x15
  let q := quarterRound s.x1 s.x6 s.x11 s.x12
  let r := quarterRound s.x2 s.x7 s.x8 s.x13
  let t := quarterRound s.x3 s.x4 s.x9 s.x14
  ⟨p.1, q.1, r.1, t.1, t.2.1, p.2.1, q.2.1, r.2.1,
    r.2.2.1, t.2.2.1, p.2.2.1, q.2.2.1, q.2.2.2, r.2.2.2, t.2.2.2, p.2.2.2⟩

def mix : Nat → Block → Block
  | 0, s => s
  | n + 1, s => mix n (diagonals (columns s))

def sum (s t : Block) : List UInt32 :=
  [s.x0 + t.x0, s.x1 + t.x1, s.x2 + t.x2, s.x3 + t.x3, s.x4 + t.x4, s.x5 + t.x5, s.x6 + t.x6,
    s.x7 + t.x7, s.x8 + t.x8, s.x9 + t.x9, s.x10 + t.x10, s.x11 + t.x11, s.x12 + t.x12,
    s.x13 + t.x13, s.x14 + t.x14, s.x15 + t.x15]

/-- The block of a key and a counter before mixing. Words that the key lacks are zero. -/
def seedBlock (key : List UInt32) (counter : Nat) : Block :=
  let k (i : Nat) : UInt32 := key.getD i 0
  ⟨0x61707865, 0x3320646e, 0x79622d32, 0x6b206574, k 0, k 1, k 2, k 3, k 4, k 5, k 6, k 7,
    .ofNat counter, .ofNat (counter / 0x100000000), 0, 0⟩

def doubleRounds : Nat := 6

/-- The words of one block of the stream. -/
def block (key : List UInt32) (counter : Nat) : List UInt32 :=
  let start := seedBlock key counter
  sum (mix doubleRounds start) start

/-- Word `n` of the stream. -/
def word (key : List UInt32) (n : Nat) : UInt32 :=
  (block key (n / 16)).getD (n % 16) 0

end Lanes.ChaCha
