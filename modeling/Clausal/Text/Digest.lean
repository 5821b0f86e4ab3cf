import Clausal.Text.Utf8

/-!
# Digests

Numbers of a fixed size that stand for texts of any length.  A text is filled up to whole
blocks, and every block changes a few words, which are the digest in the end.  The constants
that the words are mixed with come from sines and from roots of the first primes.
-/

namespace Clausal.Text.Digest

/-- A text filled up to whole blocks: a single bit, zeros, and the number of its bits. -/
def padded (block room : Nat) (lowFirst : Bool) (message : Array UInt8) : Array UInt8 :=
  let zeros := (block - (message.size + 1 + room) % block) % block
  let length := (Array.range room).map fun i =>
    UInt8.ofNat ((8 * message.size) >>> (8 * if lowFirst then i else room - 1 - i))
  message.push 0x80 ++ Array.replicate zeros 0 ++ length

theorem size_padded_mod {block : Nat} (hb : 0 < block) (room : Nat) (lowFirst : Bool)
    (message : Array UInt8) : (padded block room lowFirst message).size % block = 0 := by
  have h (n : Nat) : (n + (block - n % block) % block) % block = 0 := by
    have hn := Nat.mod_lt n hb
    rw [Nat.add_mod, Nat.mod_mod]
    rcases Nat.eq_zero_or_pos (n % block) with hz | hp
    · simp [hz]
    · rw [Nat.mod_eq_of_lt (Nat.sub_lt hb hp), Nat.add_sub_cancel' (Nat.le_of_lt hn),
        Nat.mod_self]
  have hs : (padded block room lowFirst message).size =
      message.size + 1 + room + (block - (message.size + 1 + room) % block) % block := by
    simp [padded]
    omega
  rw [hs]
  exact h _

def number (lowFirst : Bool) (bytes : Array UInt8) : UInt64 :=
  let add (n : UInt64) (byte : UInt8) : UInt64 := n <<< 8 ||| byte.toUInt64
  if lowFirst then bytes.foldr (fun byte n => add n byte) 0 else bytes.foldl add 0

def blockWords (lowFirst : Bool) (size count place : Nat) (bytes : Array UInt8) : Array UInt64 :=
  (Array.range count).map fun i =>
    number lowFirst (bytes.extract (place + i * size) (place + (i + 1) * size))

def wordBytes (lowFirst : Bool) (size : Nat) (word : UInt64) : List UInt8 :=
  let bytes := (List.range size).map fun i => (word >>> (8 * i).toUInt64).toUInt8
  if lowFirst then bytes else bytes.reverse

/-! ## Constants -/

/-- The largest number whose power is at most a given one, bit by bit from the highest. -/
def rootBits (power : Nat → Nat) (n : Nat) : Nat → Nat → Nat
  | 0, root => root
  | bit + 1, root =>
      let more := root + (1 <<< bit)
      rootBits power n bit (if power more ≤ n then more else root)

theorem power_rootBits_le (power : Nat → Nat) (n : Nat) :
    ∀ bits root, power root ≤ n → power (rootBits power n bits root) ≤ n
  | 0, _, h => h
  | bit + 1, root, h => by
      rw [rootBits]
      split
      · exact power_rootBits_le power n bit _ ‹_›
      · exact power_rootBits_le power n bit _ h

def squareRoot (n : Nat) : Nat := rootBits (fun r => r * r) n 72 0

def cubeRoot (n : Nat) : Nat := rootBits (fun r => r * r * r) n 72 0

def primes : List Nat :=
  (List.range 410).filter fun n =>
    decide (2 ≤ n) && (List.range n).all fun d => decide (d < 2) || n % d != 0

/-- The bits after the point of the cube roots of the first primes. -/
def cubeConstants (bits : Nat) : Array UInt64 :=
  (primes.map fun p => (cubeRoot (p <<< (3 * bits)) % (1 <<< bits)).toUInt64).toArray

/-- The bits after the point of the square roots of eight of the first primes. -/
def squareConstants (bits first : Nat) : List UInt64 :=
  ((primes.drop first).take 8).map fun p => (squareRoot (p <<< (2 * bits)) % (1 <<< bits)).toUInt64

/-! ## Digests of eight words -/

/-- How far a word is turned or moved. -/
structure Turns where
  first : UInt64
  second : UInt64
  third : UInt64

/-- A digest of eight words. -/
structure Octet where
  bits : UInt64
  mask : UInt64
  constants : Array UInt64
  start : List UInt64
  bigA : Turns
  bigE : Turns
  early : Turns
  late : Turns

namespace Octet

def rotated (o : Octet) (n word : UInt64) : UInt64 :=
  (word >>> n ||| word <<< (o.bits - n)) &&& o.mask

def big (o : Octet) (t : Turns) (word : UInt64) : UInt64 :=
  o.rotated t.first word ^^^ o.rotated t.second word ^^^ o.rotated t.third word

def small (o : Octet) (t : Turns) (word : UInt64) : UInt64 :=
  o.rotated t.first word ^^^ o.rotated t.second word ^^^ word >>> t.third

def stretched (o : Octet) (words : Array UInt64) (count : Nat) : Array UInt64 :=
  (Array.range count).foldl (fun words _ =>
    let back (n : Nat) : UInt64 := words.getD (words.size - n) 0
    words.push ((back 16 + o.small o.early (back 15) + back 7 + o.small o.late (back 2)) &&& o.mask))
    words

def mix (o : Octet) (state : List UInt64) (entry : UInt64 × UInt64) : List UInt64 :=
  match state with
  | [a, b, c, d, e, f, g, h] =>
      let choice := (e &&& f) ^^^ ((e ^^^ o.mask) &&& g)
      let majority := (a &&& b) ^^^ (a &&& c) ^^^ (b &&& c)
      let x := h + o.big o.bigE e + choice + entry.1 + entry.2
      let y := o.big o.bigA a + majority
      [(x + y) &&& o.mask, a, b, c, (d + x) &&& o.mask, e, f, g]
  | state => state

def block (o : Octet) (state : List UInt64) (words : Array UInt64) : List UInt64 :=
  let words := o.stretched words (o.constants.size - 16)
  let mixed := (o.constants.zip words).foldl o.mix state
  List.zipWith (fun a b => (a + b) &&& o.mask) state mixed

def digest (o : Octet) (count : Nat) (message : Array UInt8) : List UInt8 :=
  let size := (o.bits / 8).toNat
  let bytes := padded (16 * size) (2 * size) false message
  let words := (List.range (bytes.size / (16 * size))).foldl (fun state i =>
    o.block state (blockWords false size 16 (i * (16 * size)) bytes)) o.start
  (words.flatMap (wordBytes false size)).take count

def short (start : List UInt64) : Octet where
  bits := 32
  mask := 0xFFFFFFFF
  constants := (cubeConstants 32).extract 0 64
  start
  bigA := ⟨2, 13, 22⟩
  bigE := ⟨6, 11, 25⟩
  early := ⟨7, 18, 3⟩
  late := ⟨17, 19, 10⟩

def long (start : List UInt64) : Octet where
  bits := 64
  mask := 0xFFFFFFFFFFFFFFFF
  constants := (cubeConstants 64).extract 0 80
  start
  bigA := ⟨28, 34, 39⟩
  bigE := ⟨14, 18, 41⟩
  early := ⟨1, 8, 7⟩
  late := ⟨19, 61, 6⟩

end Octet

def sha224 (message : Array UInt8) : List UInt8 :=
  (Octet.short ((squareConstants 64 8).map (· &&& 0xFFFFFFFF))).digest 28 message

def sha256 (message : Array UInt8) : List UInt8 :=
  (Octet.short (squareConstants 32 0)).digest 32 message

def sha384 (message : Array UInt8) : List UInt8 :=
  (Octet.long (squareConstants 64 8)).digest 48 message

def sha512 (message : Array UInt8) : List UInt8 :=
  (Octet.long (squareConstants 64 0)).digest 64 message

/-! ## Older digests -/

def rotatedLeft (n word : UInt32) : UInt32 := word <<< n ||| word >>> (32 - n)

def md5Block (state : List UInt32) (words : Array UInt32) : List UInt32 :=
  let turns : Array UInt32 := #[7, 12, 17, 22, 5, 9, 14, 20, 4, 11, 16, 23, 6, 10, 15, 21]
  let mix (state : List UInt32) (i : Nat) : List UInt32 :=
    match state with
    | [a, b, c, d] =>
        let (mixed, index) : UInt32 × Nat :=
          match i / 16 with
          | 0 => ((b &&& c) ||| (~~~b &&& d), i)
          | 1 => ((d &&& b) ||| (~~~d &&& c), 5 * i + 1)
          | 2 => (b ^^^ c ^^^ d, 3 * i + 5)
          | _ => (c ^^^ (b ||| ~~~d), 7 * i)
        let sine := ((i + 1).toFloat.sin.abs * 4294967296).toUInt32
        let sum := mixed + a + sine + words.getD (index % 16) 0
        [d, b + rotatedLeft (turns.getD (i / 16 * 4 + i % 4) 0) sum, b, c]
    | state => state
  List.zipWith (· + ·) state ((List.range 64).foldl mix state)

def sha1Block (state : List UInt32) (words : Array UInt32) : List UInt32 :=
  let words := (List.range 64).foldl (fun (words : Array UInt32) _ =>
    let back (n : Nat) : UInt32 := words.getD (words.size - n) 0
    words.push (rotatedLeft 1 (back 3 ^^^ back 8 ^^^ back 14 ^^^ back 16))) words
  let mix (state : List UInt32) (i : Nat) : List UInt32 :=
    match state with
    | [a, b, c, d, e] =>
        let mixed : UInt32 :=
          match i / 20 with
          | 0 => ((b &&& c) ||| (~~~b &&& d)) + 0x5A827999
          | 1 => (b ^^^ c ^^^ d) + 0x6ED9EBA1
          | 2 => ((b &&& c) ||| (b &&& d) ||| (c &&& d)) + 0x8F1BBCDC
          | _ => (b ^^^ c ^^^ d) + 0xCA62C1D6
        [rotatedLeft 5 a + mixed + e + words.getD i 0, a, rotatedLeft 30 b, c, d]
    | state => state
  List.zipWith (· + ·) state ((List.range 80).foldl mix state)

/-- A digest of words of 32 bits, given what becomes of them with a block. -/
def ofBlocks (lowFirst : Bool) (block : List UInt32 → Array UInt32 → List UInt32)
    (start : List UInt32) (message : Array UInt8) : List UInt8 :=
  let bytes := padded 64 8 lowFirst message
  let state := (List.range (bytes.size / 64)).foldl (fun state i =>
    block state ((blockWords lowFirst 4 16 (i * 64) bytes).map (·.toUInt32))) start
  state.flatMap fun word => wordBytes lowFirst 4 word.toUInt64

def md5 : Array UInt8 → List UInt8 :=
  ofBlocks true md5Block [0x67452301, 0xEFCDAB89, 0x98BADCFE, 0x10325476]

def sha1 : Array UInt8 → List UInt8 :=
  ofBlocks false sha1Block [0x67452301, 0xEFCDAB89, 0x98BADCFE, 0x10325476, 0xC3D2E1F0]

/-! ## Sums -/

/-- The remainder of a text as a polynomial, with the number of its bytes after it. -/
def remainder (message : Array UInt8) : UInt32 :=
  let bit (crc : UInt32) : UInt32 :=
    if crc &&& 0x80000000 != 0 then (crc <<< 1) ^^^ 0x04C11DB7 else crc <<< 1
  let byte (crc : UInt32) (b : UInt8) : UInt32 :=
    Nat.repeat bit 8 (crc ^^^ b.toUInt32 <<< 24)
  ~~~(sizeBytes 9 message.size).foldl byte (message.foldl byte 0)
where
  sizeBytes : Nat → Nat → List UInt8
    | 0, _ => []
    | rounds + 1, n => if n = 0 then [] else UInt8.ofNat n :: sizeBytes rounds (n / 256)

def turnedSum (message : Array UInt8) : Nat :=
  message.foldl (fun sum b => (sum / 2 + sum % 2 * 32768 + b.toNat) % 65536) 0

def plainSum (message : Array UInt8) : Nat :=
  let sum := message.foldl (fun sum b => sum + b.toNat) 0 % 4294967296
  let folded := sum % 65536 + sum / 65536
  folded % 65536 + folded / 65536

end Clausal.Text.Digest
