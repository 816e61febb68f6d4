import ContainerClients.Program.Tool.Usage

/-!
# Sums of texts

A digest takes a text in blocks of 64 bytes, after filling it up with a mark and its length, and
mixes each block into a few words.

* `paddedBlocks`, `blockWords` — the blocks of a text, and the words of a block.
* `md5`, `sha1`, `sha256` — the digests.
* `cyclicSum` — a sum by division of polynomials.
* `md5sum`, `sha1sum`, `sha256sum`, `cksum` — the tools.
-/

namespace ContainerClients.Program

/-! ## Blocks and words -/

/-- A number as bytes, the lowest first. -/
def bytesOf : Nat → Nat → Octets
  | 0, _ => []
  | count + 1, n => Char.ofNat (n % 256) :: bytesOf count (n / 256)

/-- **The blocks of a text**, filled up with a mark and its length in bits. -/
def paddedBlocks (highFirst : Bool) (text : Octets) : List Octets :=
  let zeros := (119 - text.length % 64) % 64
  let length := bytesOf 8 (8 * text.length)
  let padded := text ++ '\x80' :: List.replicate zeros '\x00' ++
    (if highFirst then length.reverse else length)
  Octets.groups 64 (padded.length + 1) padded

/-- **The words of a block.** -/
def blockWords (highFirst : Bool) (block : Octets) : Array UInt32 :=
  ((Octets.groups 4 (block.length + 1) block).map fun bytes =>
    (if highFirst then bytes else bytes.reverse).foldl
      (fun word c => 256 * word + c.toNat.toUInt32) 0).toArray

/-- A word turned to the left. -/
def turnLeft (word count : UInt32) : UInt32 := (word <<< count) ||| (word >>> (32 - count))

/-- A word turned to the right. -/
def turnRight (word count : UInt32) : UInt32 := turnLeft word (32 - count)

/-- Words, as digits of base 16. -/
def wordText (highFirst : Bool) (words : List UInt32) : Octets :=
  words.flatMap fun word =>
    let bytes := bytesOf 4 word.toNat
    (if highFirst then bytes.reverse else bytes).flatMap fun c =>
      [Nat.digitChar (c.toNat / 16), Nat.digitChar (c.toNat % 16)]

/-! ## Digests of four and five words -/

/-- What is added in the steps of `md5`. -/
def sineWords : Array UInt32 :=
   #[0xd76aa478, 0xe8c7b756, 0x242070db, 0xc1bdceee, 0xf57c0faf, 0x4787c62a, 0xa8304613, 0xfd469501,
    0x698098d8, 0x8b44f7af, 0xffff5bb1, 0x895cd7be, 0x6b901122, 0xfd987193, 0xa679438e, 0x49b40821,
    0xf61e2562, 0xc040b340, 0x265e5a51, 0xe9b6c7aa, 0xd62f105d, 0x02441453, 0xd8a1e681, 0xe7d3fbc8,
    0x21e1cde6, 0xc33707d6, 0xf4d50d87, 0x455a14ed, 0xa9e3e905, 0xfcefa3f8, 0x676f02d9, 0x8d2a4c8a,
    0xfffa3942, 0x8771f681, 0x6d9d6122, 0xfde5380c, 0xa4beea44, 0x4bdecfa9, 0xf6bb4b60, 0xbebfbc70,
    0x289b7ec6, 0xeaa127fa, 0xd4ef3085, 0x04881d05, 0xd9d4d039, 0xe6db99e5, 0x1fa27cf8, 0xc4ac5665,
    0xf4292244, 0x432aff97, 0xab9423a7, 0xfc93a039, 0x655b59c3, 0x8f0ccc92, 0xffeff47d, 0x85845dd1,
    0x6fa87e4f, 0xfe2ce6e0, 0xa3014314, 0x4e0811a1, 0xf7537e82, 0xbd3af235, 0x2ad7d2bb, 0xeb86d391]

/-- How far words are turned in the steps of `md5`: four numbers for every 16 steps. -/
def turnCounts : Array UInt32 := #[7, 12, 17, 22, 5, 9, 14, 20, 4, 11, 16, 23, 6, 10, 15, 21]

/-- A step of `md5`. -/
def md5Step (words : Array UInt32) :
    UInt32 × UInt32 × UInt32 × UInt32 → Nat → UInt32 × UInt32 × UInt32 × UInt32
  | (a, b, c, d), i =>
    let (mixed, k) :=
      if i < 16 then ((b &&& c) ||| (~~~b &&& d), i)
      else if i < 32 then ((d &&& b) ||| (~~~d &&& c), (5 * i + 1) % 16)
      else if i < 48 then (b ^^^ c ^^^ d, (3 * i + 5) % 16)
      else (c ^^^ (b ||| ~~~d), 7 * i % 16)
    let sum := a + mixed + sineWords.getD i 0 + words.getD k 0
    (d, b + turnLeft sum (turnCounts.getD (i / 16 * 4 + i % 4) 0), b, c)

/-- **The digest of 16 bytes.** -/
def md5 (text : Octets) : Octets :=
  let (a, b, c, d) := (paddedBlocks false text).foldl (fun (a, b, c, d) block =>
    let (a', b', c', d') := (List.range 64).foldl (md5Step (blockWords false block)) (a, b, c, d)
    (a + a', b + b', c + c', d + d')) (0x67452301, 0xefcdab89, 0x98badcfe, 0x10325476)
  wordText false [a, b, c, d]

/-- The words of a block followed by words that are mixed from those before them. -/
def extendWords (mix : Array UInt32 → Nat → UInt32) (count : Nat) (words : Array UInt32) :
    Array UInt32 :=
  (List.range count).foldl (fun words i => if i < 16 then words else words.push (mix words i)) words

/-- A step of `sha1`. -/
def sha1Step (words : Array UInt32) :
    UInt32 × UInt32 × UInt32 × UInt32 × UInt32 → Nat →
      UInt32 × UInt32 × UInt32 × UInt32 × UInt32
  | (a, b, c, d, e), i =>
    let (mixed, added) : UInt32 × UInt32 :=
      if i < 20 then ((b &&& c) ||| (~~~b &&& d), 0x5a827999)
      else if i < 40 then (b ^^^ c ^^^ d, 0x6ed9eba1)
      else if i < 60 then ((b &&& c) ||| (b &&& d) ||| (c &&& d), 0x8f1bbcdc)
      else (b ^^^ c ^^^ d, 0xca62c1d6)
    (turnLeft a 5 + mixed + e + added + words.getD i 0, a, turnLeft b 30, c, d)

/-- **The digest of 20 bytes.** -/
def sha1 (text : Octets) : Octets :=
  let mix (words : Array UInt32) (i : Nat) : UInt32 :=
    turnLeft (words.getD (i - 3) 0 ^^^ words.getD (i - 8) 0 ^^^ words.getD (i - 14) 0 ^^^
      words.getD (i - 16) 0) 1
  let (a, b, c, d, e) := (paddedBlocks true text).foldl (fun (a, b, c, d, e) block =>
    let words := extendWords mix 80 (blockWords true block)
    let (a', b', c', d', e') := (List.range 80).foldl (sha1Step words) (a, b, c, d, e)
    (a + a', b + b', c + c', d + d', e + e'))
    (0x67452301, 0xefcdab89, 0x98badcfe, 0x10325476, 0xc3d2e1f0)
  wordText true [a, b, c, d, e]

/-! ## The digest of eight words -/

/-- What is added in the steps of `sha256`. -/
def cubeRootWords : Array UInt32 :=
   #[0x428a2f98, 0x71374491, 0xb5c0fbcf, 0xe9b5dba5, 0x3956c25b, 0x59f111f1, 0x923f82a4, 0xab1c5ed5,
    0xd807aa98, 0x12835b01, 0x243185be, 0x550c7dc3, 0x72be5d74, 0x80deb1fe, 0x9bdc06a7, 0xc19bf174,
    0xe49b69c1, 0xefbe4786, 0x0fc19dc6, 0x240ca1cc, 0x2de92c6f, 0x4a7484aa, 0x5cb0a9dc, 0x76f988da,
    0x983e5152, 0xa831c66d, 0xb00327c8, 0xbf597fc7, 0xc6e00bf3, 0xd5a79147, 0x06ca6351, 0x14292967,
    0x27b70a85, 0x2e1b2138, 0x4d2c6dfc, 0x53380d13, 0x650a7354, 0x766a0abb, 0x81c2c92e, 0x92722c85,
    0xa2bfe8a1, 0xa81a664b, 0xc24b8b70, 0xc76c51a3, 0xd192e819, 0xd6990624, 0xf40e3585, 0x106aa070,
    0x19a4c116, 0x1e376c08, 0x2748774c, 0x34b0bcb5, 0x391c0cb3, 0x4ed8aa4a, 0x5b9cca4f, 0x682e6ff3,
    0x748f82ee, 0x78a5636f, 0x84c87814, 0x8cc70208, 0x90befffa, 0xa4506ceb, 0xbef9a3f7, 0xc67178f2]

/-- What `sha256` starts with. -/
def squareRootWords : Array UInt32 :=
   #[0x6a09e667, 0xbb67ae85, 0x3c6ef372, 0xa54ff53a, 0x510e527f, 0x9b05688c, 0x1f83d9ab, 0x5be0cd19]

/-- A step of `sha256`, on eight words. -/
def sha256Step (words state : Array UInt32) (i : Nat) : Array UInt32 :=
  let pick (k : Nat) : UInt32 := state.getD k 0
  let (a, b, c, e, f, g) := (pick 0, pick 1, pick 2, pick 4, pick 5, pick 6)
  let high := turnRight e 6 ^^^ turnRight e 11 ^^^ turnRight e 25
  let sum := pick 7 + high + ((e &&& f) ^^^ (~~~e &&& g)) + cubeRootWords.getD i 0 + words.getD i 0
  let low := turnRight a 2 ^^^ turnRight a 13 ^^^ turnRight a 22
  let other := low + ((a &&& b) ^^^ (a &&& c) ^^^ (b &&& c))
  #[sum + other, a, b, c, pick 3 + sum, e, f, g]

/-- **The digest of 32 bytes.** -/
def sha256 (text : Octets) : Octets :=
  let mix (words : Array UInt32) (i : Nat) : UInt32 :=
    let far := words.getD (i - 15) 0
    let near := words.getD (i - 2) 0
    words.getD (i - 16) 0 + (turnRight far 7 ^^^ turnRight far 18 ^^^ (far >>> 3)) +
      words.getD (i - 7) 0 + (turnRight near 17 ^^^ turnRight near 19 ^^^ (near >>> 10))
  let state := (paddedBlocks true text).foldl (fun state block =>
    let words := extendWords mix 64 (blockWords true block)
    let mixed := (List.range 64).foldl (sha256Step words) state
    Array.zipWith (· + ·) state mixed) squareRootWords
  wordText true state.toList

/-! ## A sum by division -/

/-- One byte more in a sum. -/
def cyclicStep (sum : UInt32) (c : Char) : UInt32 :=
  (List.range 8).foldl (fun sum _ =>
    if sum >>> 31 = 1 then (sum <<< 1) ^^^ 0x04c11db7 else sum <<< 1)
    (sum ^^^ (c.toNat.toUInt32 <<< 24))

/-- The bytes of a length, the lowest first, without zeros at the end. -/
def lengthBytes (n : Nat) : Octets := ((bytesOf 8 n).reverse.dropWhile (· == '\x00')).reverse

/-- **The sum of a text by division of polynomials.** -/
def cyclicSum (text : Octets) : Nat :=
  (~~~((text ++ lengthBytes text.length).foldl cyclicStep 0)).toNat

/-! ## The tools -/

/-- A tool that writes the digest of each text, with its name. -/
def digesting (digest : Octets → Octets) (call : Call) : Effect :=
  call.byUsage [.flag 'b' "binary", .flag 't' "text"] false 1 fun usage =>
    let mark := if usage.last? ['b', 't'] == some 'b' then '*' else ' '
    call.throughFiles usage.operands fun name text =>
      digest text ++ ' ' :: mark :: name ++ ['\n']

/-- Writes digests of 16 bytes. -/
def md5sum : Tool := digesting md5

/-- Writes digests of 20 bytes. -/
def sha1sum : Tool := digesting sha1

/-- Writes digests of 32 bytes. -/
def sha256sum : Tool := digesting sha256

/-- **Writes sums by division**, with lengths. -/
def cksum (call : Call) : Effect :=
  call.byUsage [] false 1 fun usage =>
    call.throughFiles usage.operands fun name text =>
      Octets.ofNat (cyclicSum text) ++ ' ' :: Octets.ofNat text.length ++
        (if usage.operands.isEmpty then [] else ' ' :: name) ++ ['\n']

end ContainerClients.Program
