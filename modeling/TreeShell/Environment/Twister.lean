namespace TreeShell

structure Twister where
  words : Array UInt32
  place : Nat

namespace Twister

def ringSize : Nat := 624

def lookAhead : Nat := 397

def stir (word : UInt32) : UInt32 := word ^^^ (word >>> 30)

def grow (start : UInt32) : Array UInt32 :=
  (List.range (ringSize - 1)).foldl
    (fun words i => words.push (1812433253 * stir (words.back?.getD 0) + UInt32.ofNat (i + 1)))
    #[start]

def mixAt (change : UInt32 → UInt32 → UInt32) (words : Array UInt32) (place : Nat) :
    Array UInt32 × Nat :=
  let words := words.setIfInBounds place
    (change (stir (words.getD (place - 1) 0)) (words.getD place 0))
  if place + 1 < ringSize then (words, place + 1)
  else (words.setIfInBounds 0 (words.getD (ringSize - 1) 0), 1)

/-- A number cut into words of 32 bits, lowest first; zero has one word. -/
def keyWords (key : Nat) : Array UInt32 :=
  ((List.range (key.log2 / 32 + 1)).map fun i => UInt32.ofNat (key >>> (32 * i))).toArray

def ringOfKey (key : Array UInt32) : Array UInt32 :=
  let absorbed := (List.range (max ringSize key.size)).foldl
    (fun (words, place) k =>
      let j := k % key.size
      mixAt (fun left word =>
        (word ^^^ (left * 1664525)) + key.getD j 0 + UInt32.ofNat j) words place)
    (grow 19650218, 1)
  let mixed := (List.range (ringSize - 1)).foldl
    (fun (words, place) _ =>
      mixAt (fun left word => (word ^^^ (left * 1566083941)) - UInt32.ofNat place) words place)
    absorbed
  mixed.1.setIfInBounds 0 0x80000000

def ofSeed (seed : Int) : Twister := ⟨ringOfKey (keyWords seed.natAbs), 0⟩

def twist (high low ahead : UInt32) : UInt32 :=
  let joined := (high &&& 0x80000000) ||| (low &&& 0x7FFFFFFF)
  ahead ^^^ (joined >>> 1) ^^^ (if joined &&& 1 = 1 then 0x9908B0DF else 0)

def temper (word : UInt32) : UInt32 :=
  let word := word ^^^ (word >>> 11)
  let word := word ^^^ ((word <<< 7) &&& 0x9D2C5680)
  let word := word ^^^ ((word <<< 15) &&& 0xEFC60000)
  word ^^^ (word >>> 18)

def next (source : Twister) : UInt32 × Twister :=
  let wordAt (distance : Nat) := source.words.getD ((source.place + distance) % ringSize) 0
  let word := twist (wordAt 0) (wordAt 1) (wordAt lookAhead)
  (temper word, ⟨source.words.setIfInBounds source.place word, (source.place + 1) % ringSize⟩)

def maxSize : Nat := 9999

/-- Draws the top fourteen bits of a word until they are a size. The draws are bounded, so that a
    source that only misses gives the size 0 in the end instead of being asked for ever. -/
def drawSize (source : Twister) : Nat → Nat × Twister
  | 0 => (0, source)
  | tries + 1 =>
    let (word, source) := source.next
    let size := (word >>> 18).toNat
    if size ≤ maxSize then (size, source) else drawSize source tries

def patience : Nat := 10000

def size (source : Twister) : Nat × Twister := drawSize source patience

def sizes (source : Twister) : Nat → List Nat × Twister
  | 0 => ([], source)
  | count + 1 =>
    let (first, source) := source.size
    let (others, source) := source.sizes count
    (first :: others, source)

end Twister

end TreeShell
