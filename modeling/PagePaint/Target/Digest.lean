set_option autoImplicit false

/-!
# MD5 digests

The 128-bit digest of a byte sequence, used as a checksum of pixels.
-/

namespace PagePaint.Digest

/-- The integer part of `2 ^ 32 * |sin (i + 1)|` for each of the 64 steps. -/
def sines : Array UInt32 := #[
  0xd76aa478, 0xe8c7b756, 0x242070db, 0xc1bdceee, 0xf57c0faf, 0x4787c62a, 0xa8304613, 0xfd469501,
  0x698098d8, 0x8b44f7af, 0xffff5bb1, 0x895cd7be, 0x6b901122, 0xfd987193, 0xa679438e, 0x49b40821,
  0xf61e2562, 0xc040b340, 0x265e5a51, 0xe9b6c7aa, 0xd62f105d, 0x02441453, 0xd8a1e681, 0xe7d3fbc8,
  0x21e1cde6, 0xc33707d6, 0xf4d50d87, 0x455a14ed, 0xa9e3e905, 0xfcefa3f8, 0x676f02d9, 0x8d2a4c8a,
  0xfffa3942, 0x8771f681, 0x6d9d6122, 0xfde5380c, 0xa4beea44, 0x4bdecfa9, 0xf6bb4b60, 0xbebfbc70,
  0x289b7ec6, 0xeaa127fa, 0xd4ef3085, 0x04881d05, 0xd9d4d039, 0xe6db99e5, 0x1fa27cf8, 0xc4ac5665,
  0xf4292244, 0x432aff97, 0xab9423a7, 0xfc93a039, 0x655b59c3, 0x8f0ccc92, 0xffeff47d, 0x85845dd1,
  0x6fa87e4f, 0xfe2ce6e0, 0xa3014314, 0x4e0811a1, 0xf7537e82, 0xbd3af235, 0x2ad7d2bb, 0xeb86d391]

/-- The rotation of each step, repeating every four steps of a round. -/
def rotations : Array UInt32 := #[7, 12, 17, 22, 5, 9, 14, 20, 4, 11, 16, 23, 6, 10, 15, 21]

/-- The four running words. -/
structure State where
  a : UInt32
  b : UInt32
  c : UInt32
  d : UInt32
deriving DecidableEq, Repr

def initial : State := ⟨0x67452301, 0xefcdab89, 0x98badcfe, 0x10325476⟩

private def rotateLeft (word amount : UInt32) : UInt32 :=
  (word <<< amount) ||| (word >>> (32 - amount))

/-- The little-endian word at a byte position. Bytes past the end count as zero. -/
def wordAt (message : ByteArray) (position : Nat) : UInt32 :=
  let byte (offset : Nat) : UInt32 := (message[position + offset]?.getD 0).toUInt32
  byte 0 ||| (byte 1 <<< 8) ||| (byte 2 <<< 16) ||| (byte 3 <<< 24)

def step (words : Array UInt32) (state : State) (index : Nat) : State :=
  let ⟨a, b, c, d⟩ := state
  let (mixed, chosen) :=
    if index < 16 then ((b &&& c) ||| (~~~b &&& d), index)
    else if index < 32 then ((d &&& b) ||| (~~~d &&& c), (5 * index + 1) % 16)
    else if index < 48 then (b ^^^ c ^^^ d, (3 * index + 5) % 16)
    else (c ^^^ (b ||| ~~~d), (7 * index) % 16)
  let sum := mixed + a + sines[index]?.getD 0 + words[chosen]?.getD 0
  let rotation := rotations[index / 16 * 4 + index % 4]?.getD 0
  ⟨d, b + rotateLeft sum rotation, b, c⟩

def absorb (message : ByteArray) (state : State) (block : Nat) : State :=
  let words := Array.ofFn (n := 16) fun index => wordAt message (64 * block + 4 * index)
  let mixed := (List.range 64).foldl (step words) state
  ⟨state.a + mixed.a, state.b + mixed.b, state.c + mixed.c, state.d + mixed.d⟩

private def littleEndian (value : Nat) (count : Nat) : List UInt8 :=
  (List.range count).map fun index => UInt8.ofNat (value >>> (8 * index))

/-- A message followed by one set bit, zeroes to the last eight bytes of a block, and its length in
bits. -/
def pad (message : ByteArray) : ByteArray :=
  let zeros := (119 - message.size % 64) % 64
  let tail := 0x80 :: List.replicate zeros 0 ++ littleEndian (8 * message.size) 8
  tail.foldl ByteArray.push message

def md5 (message : ByteArray) : List UInt8 :=
  let padded := pad message
  let final := (List.range (padded.size / 64)).foldl (absorb padded) initial
  [final.a, final.b, final.c, final.d].flatMap fun word => littleEndian word.toNat 4

end PagePaint.Digest
