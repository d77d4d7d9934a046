import Skirmish.Scalar.Binary64

namespace Skirmish

-- A source of random numbers: what it draws and the source that is left.
class Draws (R : outParam Type) (G : Type) where
  -- A number in [0, 1).
  unit : G → R × G
  -- An integer below the given one, which is positive.
  below : Nat → G → Nat × G

namespace Draws

variable {R G : Type} [Draws R G] {α : Type}

-- Exchanges each place from `top` down to the second with one not above it.
def shuffleFrom : Nat → Array α → G → Array α × G
  | 0, items, g => (items, g)
  | top + 1, items, g =>
    let (other, g) := below (top + 2) g
    shuffleFrom top (items.swapIfInBounds (top + 1) other) g

def shuffle (items : List α) (g : G) : List α × G :=
  let (shuffled, g) := shuffleFrom (items.length - 1) items.toArray g
  (shuffled.toList, g)

end Draws

-- A linear congruential generator on 128 bits. What it gives out are 64 bits,
-- its two halves combined and then rotated by its highest bits.
structure Generator where
  state : BitVec 128
  increment : BitVec 128

namespace Generator

def multiplier : BitVec 128 := 0x2360ED051FC65DA44385DF649FCCF645

def step (g : Generator) : Generator :=
  { g with state := g.state * multiplier + g.increment }

def next (g : Generator) : BitVec 64 × Generator :=
  let g := g.step
  let folded := (g.state >>> 64).truncate 64 ^^^ g.state.truncate 64
  (folded.rotateRight (g.state >>> 122).toNat, g)

-- The words that fill a generator: each is a mix of the bits of a state that
-- runs through a congruential sequence of its own.
def seedWords : Nat → BitVec 64 → List (BitVec 32)
  | 0, _ => []
  | n + 1, s =>
    let s := s * 6364136223846793005 + 11634580027462260723
    let mixed := (((s >>> 18) ^^^ s) >>> 27).truncate 32
    mixed.rotateRight (s >>> 59).toNat :: seedWords n s

-- Words joined into one number, the lowest first.
def join : List (BitVec 32) → BitVec 128
  | [] => 0
  | w :: ws => w.zeroExtend 128 ||| (join ws <<< 32)

-- The increment is made odd, as the full period needs.
def ofSeed (seed : UInt64) : Generator :=
  let words := seedWords 8 seed.toBitVec
  let increment := join (words.drop 4) ||| 1
  step ⟨join (words.take 4) + increment, increment⟩

-- The upper 53 bits, as a fraction of their range.
def unit (g : Generator) : Float × Generator :=
  let (bits, g) := g.next
  ((UInt64.ofBitVec bits >>> 11).toFloat * Float.ofBits 0x3CA0000000000000, g)

-- Scales 32 bits to the range, drawing again while the part below the point
-- lies where some results would come up more often than others. One of the
-- states of a full period always ends the search.
def scaled (range limit : Nat) : Nat → Generator → Nat × Generator
  | 0, g => (0, g)
  | fuel + 1, g =>
    let (bits, g) := g.next
    let product := bits.toNat % UInt32.size * range
    if product % UInt32.size ≤ limit then (product / UInt32.size, g) else scaled range limit fuel g

def below (range : Nat) (g : Generator) : Nat × Generator :=
  let limit := range <<< (31 - range.log2) - 1
  scaled range limit (Nat.pow 2 128) g

instance : Draws Float Generator := ⟨unit, below⟩

end Generator

end Skirmish
