import RequestSigning.Bytes

/-!
# SHA-2

The message digests SHA-256, SHA-384 and SHA-512. SHA-256 works on 32-bit words and blocks of
64 bytes, the other two on 64-bit words and blocks of 128 bytes; words are written most
significant byte first.

The message is padded with a bit, zeros and its length in bits to whole blocks, and each block
changes the state by its schedule of words. SHA-384 is SHA-512 from another initial state, cut to 48
bytes.
-/

namespace RequestSigning.Sha2

/-! ### Padding -/

/-- The message, a one bit, zeros, and the length in bits in `lengthBytes` bytes, up to a whole
number of blocks of `block` bytes. -/
def pad (block lengthBytes : Nat) (message : Bytes) : Bytes :=
  let length := message.length
  message ++ 0x80 :: List.replicate ((2 * block - 1 - lengthBytes - length % block) % block) 0 ++
    Bytes.ofNat lengthBytes (length * 8)

/-! ### 32-bit words -/

/-- The eight words of a chaining value. -/
structure State32 where
  a : UInt32
  b : UInt32
  c : UInt32
  d : UInt32
  e : UInt32
  f : UInt32
  g : UInt32
  h : UInt32

/-- The constants of the 64 steps: the first 32 bits of the fractions of the cube roots of the
first 64 primes. -/
def constants32 : List UInt32 := [
  0x428a2f98, 0x71374491, 0xb5c0fbcf, 0xe9b5dba5, 0x3956c25b, 0x59f111f1, 0x923f82a4, 0xab1c5ed5,
  0xd807aa98, 0x12835b01, 0x243185be, 0x550c7dc3, 0x72be5d74, 0x80deb1fe, 0x9bdc06a7, 0xc19bf174,
  0xe49b69c1, 0xefbe4786, 0x0fc19dc6, 0x240ca1cc, 0x2de92c6f, 0x4a7484aa, 0x5cb0a9dc, 0x76f988da,
  0x983e5152, 0xa831c66d, 0xb00327c8, 0xbf597fc7, 0xc6e00bf3, 0xd5a79147, 0x06ca6351, 0x14292967,
  0x27b70a85, 0x2e1b2138, 0x4d2c6dfc, 0x53380d13, 0x650a7354, 0x766a0abb, 0x81c2c92e, 0x92722c85,
  0xa2bfe8a1, 0xa81a664b, 0xc24b8b70, 0xc76c51a3, 0xd192e819, 0xd6990624, 0xf40e3585, 0x106aa070,
  0x19a4c116, 0x1e376c08, 0x2748774c, 0x34b0bcb5, 0x391c0cb3, 0x4ed8aa4a, 0x5b9cca4f, 0x682e6ff3,
  0x748f82ee, 0x78a5636f, 0x84c87814, 0x8cc70208, 0x90befffa, 0xa4506ceb, 0xbef9a3f7, 0xc67178f2]

/-- The chaining value of SHA-256 before the first block. -/
def initial256 : State32 :=
  ⟨0x6a09e667, 0xbb67ae85, 0x3c6ef372, 0xa54ff53a,
   0x510e527f, 0x9b05688c, 0x1f83d9ab, 0x5be0cd19⟩

/-- Rotation of a 32-bit word to the right. -/
def rotate32 (x s : UInt32) : UInt32 :=
  (x >>> s) ||| (x <<< (32 - s))

/-- A 32-bit word from its bytes. -/
def word32 (bytes : Bytes) : UInt32 :=
  bytes.foldl (fun w b => (w <<< 8) ||| b.toUInt32) 0

/-- The bytes of a 32-bit word. -/
def wordBytes32 (w : UInt32) : Bytes :=
  [(w >>> 24).toUInt8, (w >>> 16).toUInt8, (w >>> 8).toUInt8, w.toUInt8]

/-- The message schedule: `left` more words behind those given. -/
def schedule32 : Nat → Array UInt32 → Array UInt32
  | 0, w => w
  | left + 1, w =>
    let t := w.size
    let x := w.getD (t - 15) 0
    let y := w.getD (t - 2) 0
    let s0 := rotate32 x 7 ^^^ rotate32 x 18 ^^^ (x >>> 3)
    let s1 := rotate32 y 17 ^^^ rotate32 y 19 ^^^ (y >>> 10)
    schedule32 left (w.push (w.getD (t - 16) 0 + s0 + w.getD (t - 7) 0 + s1))

/-- One of the 64 steps of a block. -/
def step32 (words : Array UInt32) (s : State32) (constant : UInt32 × Nat) : State32 :=
  let s1 := rotate32 s.e 6 ^^^ rotate32 s.e 11 ^^^ rotate32 s.e 25
  let choice := (s.e &&& s.f) ^^^ (~~~s.e &&& s.g)
  let t1 := s.h + s1 + choice + constant.1 + words.getD constant.2 0
  let s0 := rotate32 s.a 2 ^^^ rotate32 s.a 13 ^^^ rotate32 s.a 22
  let majority := (s.a &&& s.b) ^^^ (s.a &&& s.c) ^^^ (s.b &&& s.c)
  ⟨t1 + (s0 + majority), s.a, s.b, s.c, s.d + t1, s.e, s.f, s.g⟩

/-- The chaining value after a block of 64 bytes. -/
def compress32 (s : State32) (block : Bytes) : State32 :=
  let words := schedule32 48 ((Bytes.chunks 4 block).map word32).toArray
  let t := constants32.zipIdx.foldl (step32 words) s
  ⟨s.a + t.a, s.b + t.b, s.c + t.c, s.d + t.d, s.e + t.e, s.f + t.f, s.g + t.g, s.h + t.h⟩

/-- The SHA-256 digest: 32 bytes. -/
def sha256 (message : Bytes) : Bytes :=
  let s := (Bytes.chunks 64 (pad 64 8 message)).foldl compress32 initial256
  [s.a, s.b, s.c, s.d, s.e, s.f, s.g, s.h].flatMap wordBytes32

/-! ### 64-bit words -/

/-- The eight words of a chaining value. -/
structure State64 where
  a : UInt64
  b : UInt64
  c : UInt64
  d : UInt64
  e : UInt64
  f : UInt64
  g : UInt64
  h : UInt64

/-- The constants of the 80 steps: the first 64 bits of the fractions of the cube roots of the
first 80 primes. -/
def constants64 : List UInt64 := [
  0x428a2f98d728ae22, 0x7137449123ef65cd, 0xb5c0fbcfec4d3b2f, 0xe9b5dba58189dbbc,
  0x3956c25bf348b538, 0x59f111f1b605d019, 0x923f82a4af194f9b, 0xab1c5ed5da6d8118,
  0xd807aa98a3030242, 0x12835b0145706fbe, 0x243185be4ee4b28c, 0x550c7dc3d5ffb4e2,
  0x72be5d74f27b896f, 0x80deb1fe3b1696b1, 0x9bdc06a725c71235, 0xc19bf174cf692694,
  0xe49b69c19ef14ad2, 0xefbe4786384f25e3, 0x0fc19dc68b8cd5b5, 0x240ca1cc77ac9c65,
  0x2de92c6f592b0275, 0x4a7484aa6ea6e483, 0x5cb0a9dcbd41fbd4, 0x76f988da831153b5,
  0x983e5152ee66dfab, 0xa831c66d2db43210, 0xb00327c898fb213f, 0xbf597fc7beef0ee4,
  0xc6e00bf33da88fc2, 0xd5a79147930aa725, 0x06ca6351e003826f, 0x142929670a0e6e70,
  0x27b70a8546d22ffc, 0x2e1b21385c26c926, 0x4d2c6dfc5ac42aed, 0x53380d139d95b3df,
  0x650a73548baf63de, 0x766a0abb3c77b2a8, 0x81c2c92e47edaee6, 0x92722c851482353b,
  0xa2bfe8a14cf10364, 0xa81a664bbc423001, 0xc24b8b70d0f89791, 0xc76c51a30654be30,
  0xd192e819d6ef5218, 0xd69906245565a910, 0xf40e35855771202a, 0x106aa07032bbd1b8,
  0x19a4c116b8d2d0c8, 0x1e376c085141ab53, 0x2748774cdf8eeb99, 0x34b0bcb5e19b48a8,
  0x391c0cb3c5c95a63, 0x4ed8aa4ae3418acb, 0x5b9cca4f7763e373, 0x682e6ff3d6b2b8a3,
  0x748f82ee5defb2fc, 0x78a5636f43172f60, 0x84c87814a1f0ab72, 0x8cc702081a6439ec,
  0x90befffa23631e28, 0xa4506cebde82bde9, 0xbef9a3f7b2c67915, 0xc67178f2e372532b,
  0xca273eceea26619c, 0xd186b8c721c0c207, 0xeada7dd6cde0eb1e, 0xf57d4f7fee6ed178,
  0x06f067aa72176fba, 0x0a637dc5a2c898a6, 0x113f9804bef90dae, 0x1b710b35131c471b,
  0x28db77f523047d84, 0x32caab7b40c72493, 0x3c9ebe0a15c9bebc, 0x431d67c49c100d4c,
  0x4cc5d4becb3e42b6, 0x597f299cfc657e2a, 0x5fcb6fab3ad6faec, 0x6c44198c4a475817]

/-- The chaining value of SHA-512 before the first block. -/
def initial512 : State64 :=
  ⟨0x6a09e667f3bcc908, 0xbb67ae8584caa73b,
   0x3c6ef372fe94f82b, 0xa54ff53a5f1d36f1,
   0x510e527fade682d1, 0x9b05688c2b3e6c1f,
   0x1f83d9abfb41bd6b, 0x5be0cd19137e2179⟩

/-- The chaining value of SHA-384 before the first block. -/
def initial384 : State64 :=
  ⟨0xcbbb9d5dc1059ed8, 0x629a292a367cd507,
   0x9159015a3070dd17, 0x152fecd8f70e5939,
   0x67332667ffc00b31, 0x8eb44a8768581511,
   0xdb0c2e0d64f98fa7, 0x47b5481dbefa4fa4⟩

/-- Rotation of a 64-bit word to the right. -/
def rotate64 (x s : UInt64) : UInt64 :=
  (x >>> s) ||| (x <<< (64 - s))

/-- A 64-bit word from its bytes. -/
def word64 (bytes : Bytes) : UInt64 :=
  bytes.foldl (fun w b => (w <<< 8) ||| b.toUInt64) 0

/-- The bytes of a 64-bit word. -/
def wordBytes64 (w : UInt64) : Bytes :=
  [(w >>> 56).toUInt8, (w >>> 48).toUInt8, (w >>> 40).toUInt8, (w >>> 32).toUInt8,
    (w >>> 24).toUInt8, (w >>> 16).toUInt8, (w >>> 8).toUInt8, w.toUInt8]

/-- The message schedule: `left` more words behind those given. -/
def schedule64 : Nat → Array UInt64 → Array UInt64
  | 0, w => w
  | left + 1, w =>
    let t := w.size
    let x := w.getD (t - 15) 0
    let y := w.getD (t - 2) 0
    let s0 := rotate64 x 1 ^^^ rotate64 x 8 ^^^ (x >>> 7)
    let s1 := rotate64 y 19 ^^^ rotate64 y 61 ^^^ (y >>> 6)
    schedule64 left (w.push (w.getD (t - 16) 0 + s0 + w.getD (t - 7) 0 + s1))

/-- One of the 80 steps of a block. -/
def step64 (words : Array UInt64) (s : State64) (constant : UInt64 × Nat) : State64 :=
  let s1 := rotate64 s.e 14 ^^^ rotate64 s.e 18 ^^^ rotate64 s.e 41
  let choice := (s.e &&& s.f) ^^^ (~~~s.e &&& s.g)
  let t1 := s.h + s1 + choice + constant.1 + words.getD constant.2 0
  let s0 := rotate64 s.a 28 ^^^ rotate64 s.a 34 ^^^ rotate64 s.a 39
  let majority := (s.a &&& s.b) ^^^ (s.a &&& s.c) ^^^ (s.b &&& s.c)
  ⟨t1 + (s0 + majority), s.a, s.b, s.c, s.d + t1, s.e, s.f, s.g⟩

/-- The chaining value after a block of 128 bytes. -/
def compress64 (s : State64) (block : Bytes) : State64 :=
  let words := schedule64 64 ((Bytes.chunks 8 block).map word64).toArray
  let t := constants64.zipIdx.foldl (step64 words) s
  ⟨s.a + t.a, s.b + t.b, s.c + t.c, s.d + t.d, s.e + t.e, s.f + t.f, s.g + t.g, s.h + t.h⟩

/-- The SHA-512 digest: 64 bytes. -/
def sha512 (message : Bytes) : Bytes :=
  let s := (Bytes.chunks 128 (pad 128 16 message)).foldl compress64 initial512
  [s.a, s.b, s.c, s.d, s.e, s.f, s.g, s.h].flatMap wordBytes64

theorem length_sha512 (message : Bytes) : (sha512 message).length = 64 := rfl

/-- The SHA-384 digest: 48 bytes. -/
def sha384 (message : Bytes) : Bytes :=
  let s := (Bytes.chunks 128 (pad 128 16 message)).foldl compress64 initial384
  [s.a, s.b, s.c, s.d, s.e, s.f].flatMap wordBytes64

end RequestSigning.Sha2
