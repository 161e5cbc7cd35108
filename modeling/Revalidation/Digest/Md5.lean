import Revalidation.Text.Charset

/-!
# MD5

The message digest MD5, byte by byte: a hasher takes the message in pieces of any size, compresses
each block of 64 bytes as soon as it is full, and gives the digest of all that it was fed.
-/

namespace Revalidation.Md5

structure Chain where
  a : UInt32
  b : UInt32
  c : UInt32
  d : UInt32
  deriving DecidableEq, Repr

def Chain.initial : Chain := ⟨0x67452301, 0xefcdab89, 0x98badcfe, 0x10325476⟩

def sines : List UInt32 := [
  0xd76aa478, 0xe8c7b756, 0x242070db, 0xc1bdceee, 0xf57c0faf, 0x4787c62a, 0xa8304613, 0xfd469501,
  0x698098d8, 0x8b44f7af, 0xffff5bb1, 0x895cd7be, 0x6b901122, 0xfd987193, 0xa679438e, 0x49b40821,
  0xf61e2562, 0xc040b340, 0x265e5a51, 0xe9b6c7aa, 0xd62f105d, 0x02441453, 0xd8a1e681, 0xe7d3fbc8,
  0x21e1cde6, 0xc33707d6, 0xf4d50d87, 0x455a14ed, 0xa9e3e905, 0xfcefa3f8, 0x676f02d9, 0x8d2a4c8a,
  0xfffa3942, 0x8771f681, 0x6d9d6122, 0xfde5380c, 0xa4beea44, 0x4bdecfa9, 0xf6bb4b60, 0xbebfbc70,
  0x289b7ec6, 0xeaa127fa, 0xd4ef3085, 0x04881d05, 0xd9d4d039, 0xe6db99e5, 0x1fa27cf8, 0xc4ac5665,
  0xf4292244, 0x432aff97, 0xab9423a7, 0xfc93a039, 0x655b59c3, 0x8f0ccc92, 0xffeff47d, 0x85845dd1,
  0x6fa87e4f, 0xfe2ce6e0, 0xa3014314, 0x4e0811a1, 0xf7537e82, 0xbd3af235, 0x2ad7d2bb, 0xeb86d391]

def rotations : List (List UInt32) := [
  [7, 12, 17, 22],
  [5, 9, 14, 20],
  [4, 11, 16, 23],
  [6, 10, 15, 21]]

def wordOf (b₀ b₁ b₂ b₃ : UInt8) : UInt32 :=
  b₀.toUInt32 ||| (b₁.toUInt32 <<< 8) ||| (b₂.toUInt32 <<< 16) ||| (b₃.toUInt32 <<< 24)

def words : Bytes → List UInt32
  | b₀ :: b₁ :: b₂ :: b₃ :: rest => wordOf b₀ b₁ b₂ b₃ :: words rest
  | _ => []

def mix (step : Nat) (b c d : UInt32) : UInt32 :=
  match step / 16 with
  | 0 => (b &&& c) ||| (~~~b &&& d)
  | 1 => (d &&& b) ||| (~~~d &&& c)
  | 2 => b ^^^ c ^^^ d
  | _ => c ^^^ (b ||| ~~~d)

def wordIndex (step : Nat) : Nat :=
  match step / 16 with
  | 0 => step
  | 1 => (5 * step + 1) % 16
  | 2 => (3 * step + 5) % 16
  | _ => (7 * step) % 16

def rotateLeft (x n : UInt32) : UInt32 := (x <<< n) ||| (x >>> (32 - n))

def step (block : Array UInt32) (s : Chain) (i : Nat) : Chain :=
  let sum := s.a + mix i s.b s.c s.d + sines.getD i 0 + block.getD (wordIndex i) 0
  ⟨s.d, s.b + rotateLeft sum ((rotations.getD (i / 16) []).getD (i % 4) 0), s.b, s.c⟩

def compress (s : Chain) (block : Bytes) : Chain :=
  let r := (List.range 64).foldl (step (words block).toArray) s
  ⟨s.a + r.a, s.b + r.b, s.c + r.c, s.d + r.d⟩

structure Hasher where
  chain : Chain := Chain.initial
  /-- The bytes of the unfinished block, the last one first. -/
  pending : Bytes := []
  /-- The number of bytes so far. -/
  length : Nat := 0
  deriving DecidableEq, Repr

namespace Hasher

def feed (h : Hasher) (byte : UInt8) : Hasher :=
  if (h.length + 1) % 64 = 0 then
    ⟨compress h.chain (byte :: h.pending).reverse, [], h.length + 1⟩
  else ⟨h.chain, byte :: h.pending, h.length + 1⟩

def update (h : Hasher) (bytes : Bytes) : Hasher := bytes.foldl feed h

end Hasher

def littleEndian (n : Nat) : Nat → Bytes
  | 0 => []
  | count + 1 => UInt8.ofNat (n % 256) :: littleEndian (n / 256) count

/-- What follows a message of the given length: a one bit, zeros up to eight bytes before the end of a
block, and the length in bits. -/
def padding (length : Nat) : Bytes :=
  0x80 :: List.replicate ((119 - length % 64) % 64) 0 ++ littleEndian (8 * length) 8

def Chain.bytes (s : Chain) : Bytes :=
  littleEndian s.a.toNat 4 ++ littleEndian s.b.toNat 4 ++ littleEndian s.c.toNat 4
    ++ littleEndian s.d.toNat 4

def Hasher.finish (h : Hasher) : Bytes := (h.update (padding h.length)).chain.bytes

def hash (message : Bytes) : Bytes := (({} : Hasher).update message).finish

end Revalidation.Md5
