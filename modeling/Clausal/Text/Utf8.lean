/-!
# Text and bytes

`decodeUnits` reads bytes of UTF-8 into characters and marks each malformed part once, taking as
one part a lead byte with those continuation bytes that may follow it.  `decodeLossy` shows a
replacement character for each mark, `decode?` refuses them.

Programs that count, cut and compare bytes have text of `Octets`, whose characters stand for
single bytes.
-/

namespace Clausal.Text

abbrev ByteRange := Nat × Nat

def continuation : ByteRange := (0x80, 0xbf)

/-- The bits that a lead byte gives and the ranges of the bytes that have to follow it. -/
def lead? (byte : Nat) : Option (Nat × List ByteRange) :=
  if byte < 0x80 then some (byte, [])
  else if 0xc2 ≤ byte ∧ byte ≤ 0xdf then some (byte % 32, [continuation])
  else if byte = 0xe0 then some (0, [(0xa0, 0xbf), continuation])
  else if byte = 0xed then some (13, [(0x80, 0x9f), continuation])
  else if 0xe1 ≤ byte ∧ byte ≤ 0xef then some (byte % 16, [continuation, continuation])
  else if byte = 0xf0 then some (0, [(0x90, 0xbf), continuation, continuation])
  else if byte = 0xf4 then some (4, [(0x80, 0x8f), continuation, continuation])
  else if 0xf1 ≤ byte ∧ byte ≤ 0xf3 then
    some (byte % 8, [continuation, continuation, continuation])
  else none

/-- Reads the bytes that have to follow a lead byte, and stops at the first that may not. -/
def readFollowers : Nat → List ByteRange → List UInt8 → Option Nat × List UInt8
  | value, [], bytes => (some value, bytes)
  | _, _ :: _, [] => (none, [])
  | value, (low, high) :: more, byte :: bytes =>
      if low ≤ byte.toNat ∧ byte.toNat ≤ high then
        readFollowers (64 * value + byte.toNat % 64) more bytes
      else (none, byte :: bytes)

theorem length_readFollowers (value : Nat) (ranges : List ByteRange) (bytes : List UInt8) :
    (readFollowers value ranges bytes).2.length ≤ bytes.length := by
  induction ranges generalizing value bytes with
  | nil => simp [readFollowers]
  | cons range more ih =>
      cases bytes with
      | nil => simp [readFollowers]
      | cons byte bytes =>
          simp only [readFollowers]
          split
          · exact Nat.le_trans (ih _ bytes) (by simp)
          · simp

/-- The characters in order; `none` stands for a malformed part. -/
def decodeUnits : List UInt8 → List (Option Char)
  | [] => []
  | byte :: bytes =>
      match lead? byte.toNat with
      | none => none :: decodeUnits bytes
      | some (value, ranges) =>
          let followers := readFollowers value ranges bytes
          followers.1.map Char.ofNat :: decodeUnits followers.2
termination_by bytes => bytes.length
decreasing_by
  · simp
  · have := length_readFollowers value ranges bytes
    simp only [List.length_cons]
    omega

def replacementCharacter : Char := '\ufffd'

def decodeLossy (bytes : List UInt8) : String :=
  String.ofList ((decodeUnits bytes).map (·.getD replacementCharacter))

def decode? (bytes : List UInt8) : Option String :=
  ((decodeUnits bytes).mapM id).map String.ofList

def encode (text : String) : List UInt8 :=
  text.toUTF8.toList

/-! ## Text of bytes -/

abbrev Octets := List Char

namespace Octets

def ofBytes (bytes : List UInt8) : Octets := bytes.map fun byte => Char.ofNat byte.toNat

def toBytes (octets : Octets) : List UInt8 := octets.map fun c => UInt8.ofNat c.toNat

def ofString (text : String) : Octets := ofBytes (encode text)

/-- The text that bytes stand for; malformed parts are marked. -/
def toText (octets : Octets) : String := decodeLossy (toBytes octets)

def le : Octets → Octets → Bool
  | [], _ => true
  | _ :: _, [] => false
  | a :: as, b :: bs => if a = b then le as bs else decide (a < b)

instance : Hashable Octets where
  hash octets := octets.foldl (fun seed c => mixHash seed c.val.toUInt64) 7

theorem le_self (octets : Octets) : le octets octets = true := by
  induction octets with
  | nil => rfl
  | cons c cs ih => simp [le, ih]

theorem length_ofBytes (bytes : List UInt8) : (ofBytes bytes).length = bytes.length := by
  simp [ofBytes]

end Octets

end Clausal.Text
