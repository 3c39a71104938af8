/-!
# Ensemble.Text.Digest

**Digests**: numbers of a fixed size that stand for texts of any size. A text is filled up to whole blocks
with its length at the end, and the blocks are mixed into a state one after the other. The constants of
the newer digests are the first bits of roots of primes.
-/

namespace Ensemble.Text.Digest

/-! ### Filling up -/

/-- The octets of a number, the highest first. -/
def octetsOf (count n : Nat) : List Nat :=
  (List.range count).map fun i => n / Nat.pow 256 (count - 1 - i) % 256

/-- A text filled up to whole blocks: one bit, zeros, and the number of bits in so many octets. -/
def filled (block lengthSize : Nat) (lowFirst : Bool) (text : List Nat) : List Nat :=
  let used := (text.length + 1 + lengthSize) % block
  let length := octetsOf lengthSize (8 * text.length)
  text ++ 0x80 :: List.replicate ((block - used) % block) 0 ++
    (if lowFirst then length.reverse else length)

/-- The number of octets, of which the first is the highest. -/
def number (octets : List Nat) : Nat :=
  octets.foldl (fun n b => n * 256 + b) 0

/-- A list in pieces of so many. -/
def pieces (size : Nat) : Nat → List α → List (List α)
  | 0, _ => []
  | _, [] => []
  | fuel + 1, xs => xs.take size :: pieces size fuel (xs.drop size)

/-- The words of a text that has been filled up, block by block. -/
def blocksOf (wordSize words : Nat) (lowFirst : Bool) (text : List Nat) : List (Array Nat) :=
  let all := (pieces wordSize (text.length + 1) text).map fun w =>
    number (if lowFirst then w.reverse else w)
  (pieces words (all.length + 1) all).map List.toArray

/-! ### Roots -/

/-- The greatest number whose power is not above another, bit by bit. -/
def root (power n : Nat) : Nat → Nat → Nat
  | 0, found => found
  | bits + 1, found =>
    let next := found + Nat.pow 2 bits
    root power n bits (if n < Nat.pow next power then found else next)

/-- So many of the first primes. -/
def primes : Nat → Nat → List Nat → List Nat
  | 0, _, found => found
  | fuel + 1, n, found =>
    primes fuel (n + 1) (if found.any fun p => n % p == 0 then found else found ++ [n])

/-- The first 80 primes. -/
def firstPrimes : List Nat :=
  primes 409 2 []

/-- The first 64 bits behind the point of a root. -/
def rootBits (power p : Nat) : Nat :=
  root power (p * Nat.pow 2 (64 * power)) 70 0 % Nat.pow 2 64

/-! ### 32 bits, the lowest octet first -/

def turnLeft (x : UInt32) (n : UInt32) : UInt32 :=
  (x <<< n) ||| (x >>> (32 - n))

def sines : Array UInt32 :=
  #[0xd76aa478, 0xe8c7b756, 0x242070db, 0xc1bdceee, 0xf57c0faf, 0x4787c62a, 0xa8304613, 0xfd469501,
    0x698098d8, 0x8b44f7af, 0xffff5bb1, 0x895cd7be, 0x6b901122, 0xfd987193, 0xa679438e, 0x49b40821,
    0xf61e2562, 0xc040b340, 0x265e5a51, 0xe9b6c7aa, 0xd62f105d, 0x02441453, 0xd8a1e681, 0xe7d3fbc8,
    0x21e1cde6, 0xc33707d6, 0xf4d50d87, 0x455a14ed, 0xa9e3e905, 0xfcefa3f8, 0x676f02d9, 0x8d2a4c8a,
    0xfffa3942, 0x8771f681, 0x6d9d6122, 0xfde5380c, 0xa4beea44, 0x4bdecfa9, 0xf6bb4b60, 0xbebfbc70,
    0x289b7ec6, 0xeaa127fa, 0xd4ef3085, 0x04881d05, 0xd9d4d039, 0xe6db99e5, 0x1fa27cf8, 0xc4ac5665,
    0xf4292244, 0x432aff97, 0xab9423a7, 0xfc93a039, 0x655b59c3, 0x8f0ccc92, 0xffeff47d, 0x85845dd1,
    0x6fa87e4f, 0xfe2ce6e0, 0xa3014314, 0x4e0811a1, 0xf7537e82, 0xbd3af235, 0x2ad7d2bb, 0xeb86d391]

def turns : Array UInt32 :=
  #[7, 12, 17, 22, 5, 9, 14, 20, 4, 11, 16, 23, 6, 10, 15, 21]

/-- A state of four words. -/
abbrev Four := UInt32 × UInt32 × UInt32 × UInt32

/-- One step with a block. -/
def md5Step (block : Array Nat) (s : Four) (i : Nat) : Four :=
  let (a, b, c, d) := s
  let (f, g) : UInt32 × Nat :=
    if i < 16 then ((b &&& c) ||| (~~~b &&& d), i)
    else if i < 32 then ((d &&& b) ||| (~~~d &&& c), (5 * i + 1) % 16)
    else if i < 48 then (b ^^^ c ^^^ d, (3 * i + 5) % 16)
    else (c ^^^ (b ||| ~~~d), 7 * i % 16)
  let sum := a + f + (sines[i]?).getD 0 + ((block[g]?).getD 0).toUInt32
  (d, b + turnLeft sum ((turns[i / 16 * 4 + i % 4]?).getD 0), b, c)

def md5 (text : List Nat) : List Nat :=
  let blocks := blocksOf 4 16 true (filled 64 8 true text)
  let (a, b, c, d) := blocks.foldl (fun (s : Four) block =>
    let (a, b, c, d) := (List.range 64).foldl (md5Step block) s
    (s.1 + a, s.2.1 + b, s.2.2.1 + c, s.2.2.2 + d))
    (0x67452301, 0xefcdab89, 0x98badcfe, 0x10325476)
  [a, b, c, d].flatMap fun w => (octetsOf 4 w.toNat).reverse

/-! ### 32 bits, the highest octet first -/

/-- The words of a block, with those that are made of them up to so many. -/
def sha1Words (block : Array Nat) : Array UInt32 :=
  (List.range 64).foldl (fun ws i =>
    let w (back : Nat) : UInt32 := (ws[16 + i - back]?).getD 0
    ws.push (turnLeft (w 3 ^^^ w 8 ^^^ w 14 ^^^ w 16) 1)) (block.map (·.toUInt32))

/-- A state of five words. -/
abbrev Five := UInt32 × UInt32 × UInt32 × UInt32 × UInt32

def sha1Step (ws : Array UInt32) (s : Five) (i : Nat) : Five :=
  let (a, b, c, d, e) := s
  let (f, k) : UInt32 × UInt32 :=
    if i < 20 then ((b &&& c) ||| (~~~b &&& d), 0x5a827999)
    else if i < 40 then (b ^^^ c ^^^ d, 0x6ed9eba1)
    else if i < 60 then ((b &&& c) ||| (b &&& d) ||| (c &&& d), 0x8f1bbcdc)
    else (b ^^^ c ^^^ d, 0xca62c1d6)
  (turnLeft a 5 + f + e + k + (ws[i]?).getD 0, a, turnLeft b 30, c, d)

def sha1 (text : List Nat) : List Nat :=
  let blocks := blocksOf 4 16 false (filled 64 8 false text)
  let (a, b, c, d, e) := blocks.foldl (fun (s : Five) block =>
    let ws := sha1Words block
    let (a, b, c, d, e) := (List.range 80).foldl (sha1Step ws) s
    (s.1 + a, s.2.1 + b, s.2.2.1 + c, s.2.2.2.1 + d, s.2.2.2.2 + e))
    (0x67452301, 0xefcdab89, 0x98badcfe, 0x10325476, 0xc3d2e1f0)
  [a, b, c, d, e].flatMap fun w => octetsOf 4 w.toNat

/-! ### States of eight words -/

/-- How words of a size are mixed: by turning them to the right and moving them. -/
structure Mixture where
  bits : Nat
  rounds : Nat
  /-- The turns of the first and the fifth word of the state. -/
  first : Nat × Nat × Nat
  fifth : Nat × Nat × Nat
  /-- The turns of the words before, and how far they are moved. -/
  near : Nat × Nat × Nat
  far : Nat × Nat × Nat

def short : Mixture := ⟨32, 64, (2, 13, 22), (6, 11, 25), (7, 18, 3), (17, 19, 10)⟩

def long : Mixture := ⟨64, 80, (28, 34, 39), (14, 18, 41), (1, 8, 7), (19, 61, 6)⟩

namespace Mixture

def size (m : Mixture) : Nat :=
  Nat.pow 2 m.bits

def turned (m : Mixture) (x n : Nat) : Nat :=
  x / Nat.pow 2 n ||| x * Nat.pow 2 (m.bits - n) % m.size

def sumOfTurns (m : Mixture) (ns : Nat × Nat × Nat) (x : Nat) : Nat :=
  m.turned x ns.1 ^^^ m.turned x ns.2.1 ^^^ m.turned x ns.2.2

def sumWithMove (m : Mixture) (ns : Nat × Nat × Nat) (x : Nat) : Nat :=
  m.turned x ns.1 ^^^ m.turned x ns.2.1 ^^^ x / Nat.pow 2 ns.2.2

/-- The words of a block, with those that are made of them. -/
def words (m : Mixture) (block : Array Nat) : Array Nat :=
  (List.range (m.rounds - 16)).foldl (fun ws i =>
    let w (back : Nat) : Nat := (ws[16 + i - back]?).getD 0
    ws.push ((w 16 + m.sumWithMove m.near (w 15) + w 7 + m.sumWithMove m.far (w 2)) % m.size)) block

/-- The constants of the rounds. -/
def constants (m : Mixture) : Array Nat :=
  ((firstPrimes.take m.rounds).map fun p => rootBits 3 p / Nat.pow 2 (64 - m.bits)).toArray

/-- One step. -/
def step (m : Mixture) (ks ws : Array Nat) (s : List Nat) (i : Nat) : List Nat :=
  match s with
  | [a, b, c, d, e, f, g, h] =>
    let choice := (e &&& f) ^^^ ((m.size - 1 - e) &&& g)
    let most := (a &&& b) ^^^ (a &&& c) ^^^ (b &&& c)
    let t := h + m.sumOfTurns m.fifth e + choice + (ks[i]?).getD 0 + (ws[i]?).getD 0
    let u := m.sumOfTurns m.first a + most
    [(t + u) % m.size, a, b, c, (d + t) % m.size, e, f, g]
  | s => s

/-- The state after all blocks of a text, in octets. -/
def run (m : Mixture) (start : List Nat) (text : List Nat) : List Nat :=
  let wordSize := m.bits / 8
  let blocks := blocksOf wordSize 16 false (filled (16 * wordSize) (2 * wordSize) false text)
  let ks := m.constants
  let state := blocks.foldl (fun s block =>
    let ws := m.words block
    let t := (List.range m.rounds).foldl (m.step ks ws) s
    s.zipWith (fun x y => (x + y) % m.size) t) start
  state.flatMap (octetsOf wordSize)

end Mixture

/-- The roots of some primes that a state begins with. -/
def startOf (skipped : Nat) : List Nat :=
  ((firstPrimes.drop skipped).take 8).map (rootBits 2)

def sha224 (text : List Nat) : List Nat :=
  (short.run ((startOf 8).map (· % Nat.pow 2 32)) text).take 28

def sha256 (text : List Nat) : List Nat :=
  short.run ((startOf 0).map (· / Nat.pow 2 32)) text

def sha384 (text : List Nat) : List Nat :=
  (long.run (startOf 8) text).take 48

def sha512 (text : List Nat) : List Nat :=
  long.run (startOf 0) text

/-! ### Sums -/

/-- The remainder by a polynomial of 32 bits, with one more octet. -/
def crcStep (r octet : Nat) : Nat :=
  (List.range 8).foldl (fun r i =>
    let bit := octet / Nat.pow 2 (7 - i) % 2
    let high := r / Nat.pow 2 31
    let r := r * 2 % Nat.pow 2 32
    if high ^^^ bit = 1 then r ^^^ 0x04c11db7 else r) r

/-- The octets of a length, the lowest first, without zeros at the end. -/
def lengthOctets : Nat → Nat → List Nat
  | 0, _ => []
  | fuel + 1, n => if n = 0 then [] else n % 256 :: lengthOctets fuel (n / 256)

/-- The remainder of a text with its length behind it. -/
def crc (text : List Nat) : Nat :=
  let r := (text ++ lengthOctets 10 text.length).foldl crcStep 0
  Nat.pow 2 32 - 1 - r

/-- A sum of 16 bits that is turned before each octet. -/
def turningSum (text : List Nat) : Nat :=
  text.foldl (fun s b => (s / 2 + s % 2 * 0x8000 + b) % 0x10000) 0

/-- A sum of 16 bits, with what goes beyond added at the end. -/
def plainSum (text : List Nat) : Nat :=
  let s := text.foldl (· + ·) 0 % Nat.pow 2 32
  let r := s % 0x10000 + s / 0x10000
  r % 0x10000 + r / 0x10000

end Ensemble.Text.Digest
