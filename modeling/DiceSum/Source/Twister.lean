/-!
# A twisted generator of random words

The generator keeps a block of 624 words of 32 bits. Words are handed out from the block in order, each
after a last mixing of its bits, and when the block is used up every word is replaced by a combination
of itself, its neighbour and the word 397 places on. A seed is an integer; its sign is ignored, and
all words of its magnitude take part in filling the first block.

Numbers below a bound are made from as few high bits as the bound needs. A number that is not below
the bound is thrown away and made again.
-/

namespace DiceSum

/-- The state of the generator. -/
structure Twister where
  /-- The current block of words. -/
  block : Vector UInt32 624
  /-- The number of words of the block that are used up. -/
  used : Nat

namespace Twister

/-- A word of a block; positions wrap around. -/
def word (block : Vector UInt32 624) (i : Nat) : UInt32 :=
  block.get ⟨i % 624, Nat.mod_lt i (by decide)⟩

/-- A block with one word replaced; positions wrap around. -/
def put (block : Vector UInt32 624) (i : Nat) (w : UInt32) : Vector UInt32 624 :=
  block.set (i % 624) w (Nat.mod_lt i (by decide))

/-- A word with its two highest bits mixed into its lowest. -/
def fold (w : UInt32) : UInt32 :=
  w ^^^ (w >>> 30)

/-- The block that all fillings start from. -/
def blank : Vector UInt32 624 :=
  (List.range 623).foldl
    (fun block i => put block (i + 1) (1812433253 * fold (word block i) + (i + 1).toUInt32))
    (Vector.replicate 624 19650218)

/-- A block while a key is worked into it, and the position of the next word to change. -/
structure Filling where
  block : Vector UInt32 624
  position : Nat

/-- Changes one word by its predecessor and a number, and moves on. The first word is not changed by
itself: it takes over the last word when the end of the block is reached. -/
def Filling.step (filling : Filling) (factor number : UInt32) : Filling :=
  let i := filling.position
  let mixed := word filling.block i ^^^ (fold (word filling.block (i - 1)) * factor)
  let block := put filling.block i (mixed + number)
  if i + 1 < 624 then { block, position := i + 1 }
  else { block := put block 0 (word block 623), position := 1 }

/-- The 32-bit words of a number, the least significant first. -/
def key (n : Nat) : List UInt32 :=
  if n < UInt32.size then [n.toUInt32] else n.toUInt32 :: key (n / UInt32.size)
termination_by n
decreasing_by simp only [UInt32.size] at *; omega

/-- Works a key into a block, word by word, as often as it takes to reach every word. -/
def Filling.absorb (filling : Filling) (words : Array UInt32) : Filling :=
  (List.range (max 624 words.size)).foldl
    (fun filling i =>
      let j := i % words.size
      filling.step 1664525 (words.getD j 0 + j.toUInt32))
    filling

/-- Mixes every word of a block once more. -/
def Filling.settle (filling : Filling) : Filling :=
  (List.range 623).foldl
    (fun filling _ => filling.step 1566083941 (0 - filling.position.toUInt32)) filling

/-- The generator for a seed. -/
def ofSeed (seed : Int) : Twister :=
  let start : Filling := { block := blank, position := 1 }
  let filled := (start.absorb (key seed.natAbs).toArray).settle
  { block := put filled.block 0 0x80000000, used := 624 }

/-- The block that follows a used-up block. -/
def following (block : Vector UInt32 624) : Vector UInt32 624 :=
  (List.range 624).foldl
    (fun block i =>
      let y := (word block i &&& 0x80000000) ||| (word block (i + 1) &&& 0x7fffffff)
      let twist : UInt32 := if y &&& 1 = 1 then 0x9908b0df else 0
      put block i (word block (i + 397) ^^^ (y >>> 1) ^^^ twist))
    block

/-- The last mixing of a word before it is handed out. -/
def temper (w : UInt32) : UInt32 :=
  let a := w ^^^ (w >>> 11)
  let b := a ^^^ ((a <<< 7) &&& 0x9d2c5680)
  let c := b ^^^ ((b <<< 15) &&& 0xefc60000)
  c ^^^ (c >>> 18)

/-- The next random word. -/
def next : StateM Twister UInt32 := do
  modify fun twister =>
    if twister.used < 624 then twister else { block := following twister.block, used := 0 }
  modifyGet fun twister =>
    (temper (word twister.block twister.used), { twister with used := twister.used + 1 })

/-- A random number of so many bits. Whole words come first, the least significant in front; what is
left over is the top of one more word. -/
def bits (count : Nat) : StateM Twister Nat := do
  let w ← next
  if count ≤ 32 then return w.toNat >>> (32 - count)
  else
    let high ← bits (count - 32)
    return w.toNat + UInt32.size * high
termination_by count
decreasing_by omega

/-- How often a number is made again before it is reduced to the range. More than half of all numbers
of the right length are below the bound, so this many failures in a row are not to be met. -/
def maxAttempts : Nat := 100000

/-- A random number below a positive bound, with a limit on the attempts. -/
def belowWithin (bound : Nat) : Nat → StateM Twister Nat
  | 0 => do return (← bits (bound.log2 + 1)) % bound
  | attempts + 1 => do
    let n ← bits (bound.log2 + 1)
    if n < bound then return n else belowWithin bound attempts

/-- A random number below a positive bound. -/
def below (bound : Nat) : StateM Twister Nat :=
  belowWithin bound maxAttempts

end Twister

end DiceSum
