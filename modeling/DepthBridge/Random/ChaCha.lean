/-!
# The ChaCha stream generator

The simulated camera draws its sensor noise from a seeded generator: the ChaCha stream cipher
with twelve rounds, keyed by 32 bytes, with a zero nonce. Its output is the keystream read as
little-endian words, block after block, the block counter starting at zero.

A 64-bit seed becomes a key through the PCG32 step: each of the eight key words is the output
of one step of the permuted congruential generator started at the seed.

Everything here is total: a block is a fixed `Vector UInt32 16`, the rounds are counted by a
natural number, and the generator's state is a key, a block counter and the words still unread
from the current block.
-/

namespace DepthBridge
namespace ChaCha

/-- A 32-bit word rotated left by `n` places. -/
def rotl (x : UInt32) (n : UInt32) : UInt32 := (x <<< n) ||| (x >>> (32 - n))

/-- A 32-bit word rotated right by `n` places (`n < 32`). -/
def rotr (x : UInt32) (n : UInt32) : UInt32 := (x >>> n) ||| (x <<< (32 - n))

/-- The state of one block: sixteen words. -/
abbrev Block := Vector UInt32 16

/-- The quarter round on the words at `a`, `b`, `c`, `d`. -/
def quarter (s : Block) (a b c d : Fin 16) : Block :=
  let va := s[a] + s[b]
  let vd := rotl (s[d] ^^^ va) 16
  let vc := s[c] + vd
  let vb := rotl (s[b] ^^^ vc) 12
  let va := va + vb
  let vd := rotl (vd ^^^ va) 8
  let vc := vc + vd
  let vb := rotl (vb ^^^ vc) 7
  ((((s.set a va).set b vb).set c vc).set d vd)

/-- A column round followed by a diagonal round. -/
def doubleRound (s : Block) : Block :=
  let s := quarter s 0 4 8 12
  let s := quarter s 1 5 9 13
  let s := quarter s 2 6 10 14
  let s := quarter s 3 7 11 15
  let s := quarter s 0 5 10 15
  let s := quarter s 1 6 11 12
  let s := quarter s 2 7 8 13
  quarter s 3 4 9 14

/-- `n` double rounds. -/
def doubleRounds : Nat → Block → Block
  | 0, s => s
  | n + 1, s => doubleRounds n (doubleRound s)

/-- The four constant words, the ASCII text `expand 32-byte k`. -/
def constants : List UInt32 := [0x61707865, 0x3320646e, 0x79622d32, 0x6b206574]

/-- The input block for key `key`, block counter `counter` and a zero nonce. -/
def initial (key : Vector UInt32 8) (counter : UInt64) : Block :=
  Vector.ofFn fun i =>
    if h : i.val < 4 then (constants.toArray.getD i.val 0)
    else if h2 : i.val < 12 then key[i.val - 4]
    else if i.val = 12 then counter.toUInt32
    else if i.val = 13 then (counter >>> 32).toUInt32
    else 0

/-- The keystream block number `counter` with `rounds` rounds: the scrambled input added word by
word to the input. -/
def block (rounds : Nat) (key : Vector UInt32 8) (counter : UInt64) : Block :=
  let input := initial key counter
  let mixed := doubleRounds (rounds / 2) input
  Vector.zipWith (· + ·) mixed input

/-- One step of the PCG32 generator: the advanced state and its output word. -/
def pcgStep (state : UInt64) : UInt64 × UInt32 :=
  let state := state * 6364136223846793005 + 11634580027462260723
  let xorshifted := (((state >>> 18) ^^^ state) >>> 27).toUInt32
  let rot := (state >>> 59).toUInt32
  (state, rotr xorshifted rot)

/-- The first `n` outputs of PCG32 from `state`. -/
def pcgWords : Nat → UInt64 → List UInt32
  | 0, _ => []
  | n + 1, state =>
    let (next, w) := pcgStep state
    w :: pcgWords n next

/-- The key expanded from a 64-bit seed. -/
def keyOfSeed (seed : UInt64) : Vector UInt32 8 :=
  Vector.ofFn fun i => (pcgWords 8 seed).getD i.val 0

end ChaCha

/-- A seeded ChaCha generator with twelve rounds: its key, the number of the next block to
compute and the words of the current block not read yet. -/
structure SeededRng where
  key : Vector UInt32 8
  nextBlock : UInt64 := 0
  pending : List UInt32 := []

namespace SeededRng

/-- The rounds of the generator. -/
def rounds : Nat := 12

/-- The generator seeded by a 64-bit number. -/
def ofSeed (seed : UInt64) : SeededRng := { key := ChaCha.keyOfSeed seed }

/-- The next word of the keystream and the advanced generator. -/
def nextWord (g : SeededRng) : UInt32 × SeededRng :=
  match g.pending with
  | w :: rest => (w, { g with pending := rest })
  | [] =>
    match (ChaCha.block rounds g.key g.nextBlock).toList with
    | w :: rest => (w, { g with nextBlock := g.nextBlock + 1, pending := rest })
    | [] => (0, g)

/-- A single drawn uniformly from `[low, high)`: the top 23 bits of a word give a value in
`[1, 2)`, which is shifted to `[0, 1)`, scaled by the width of the range and moved to `low`. -/
def uniform (g : SeededRng) (low high : Float32) : Float32 × SeededRng :=
  let (w, g) := g.nextWord
  let oneToTwo := Float32.ofBits (((127 : UInt32) <<< 23) ||| (w >>> 9))
  ((oneToTwo - 1) * (high - low) + low, g)

/-- A single drawn uniformly from `[-n, n)`. -/
def noise (g : SeededRng) (n : Float32) : Float32 × SeededRng := g.uniform (-n) n

end SeededRng

end DepthBridge
