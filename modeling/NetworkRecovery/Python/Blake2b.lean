import Mathlib.Data.List.Basic

/-!
# BLAKE2b

`hashlib.blake2b(data, digest_size=n).digest()`, without a key: the message is
cut into blocks of 128 bytes, the last one filled up with zeros, and each block
is mixed into eight words of state in twelve rounds.
-/

namespace Python.Blake2b

/-- The initial words. -/
def iv : List UInt64 :=
  [0x6a09e667f3bcc908, 0xbb67ae8584caa73b, 0x3c6ef372fe94f82b, 0xa54ff53a5f1d36f1,
    0x510e527fade682d1, 0x9b05688c2b3e6c1f, 0x1f83d9abfb41bd6b, 0x5be0cd19137e2179]

/-- The order in which a round takes the words of a block. -/
def sigma : List (List Nat) :=
  [[0, 1, 2, 3, 4, 5, 6, 7, 8, 9, 10, 11, 12, 13, 14, 15],
    [14, 10, 4, 8, 9, 15, 13, 6, 1, 12, 0, 2, 11, 7, 5, 3],
    [11, 8, 12, 0, 5, 2, 15, 13, 10, 14, 3, 6, 7, 1, 9, 4],
    [7, 9, 3, 1, 13, 12, 11, 14, 2, 6, 5, 10, 4, 0, 15, 8],
    [9, 0, 5, 7, 2, 4, 10, 15, 14, 1, 11, 12, 6, 8, 3, 13],
    [2, 12, 6, 10, 0, 11, 8, 3, 4, 13, 7, 5, 15, 14, 1, 9],
    [12, 5, 1, 15, 14, 13, 4, 10, 0, 7, 6, 3, 9, 2, 8, 11],
    [13, 11, 7, 14, 12, 1, 3, 9, 5, 0, 15, 4, 8, 6, 2, 10],
    [6, 15, 14, 9, 11, 3, 0, 8, 12, 2, 13, 7, 1, 4, 10, 5],
    [10, 2, 8, 4, 7, 6, 1, 5, 15, 11, 9, 14, 3, 12, 13, 0]]

/-- The words a round mixes: the columns, then the diagonals. -/
def lanes : List (Nat × Nat × Nat × Nat) :=
  [(0, 4, 8, 12), (1, 5, 9, 13), (2, 6, 10, 14), (3, 7, 11, 15),
    (0, 5, 10, 15), (1, 6, 11, 12), (2, 7, 8, 13), (3, 4, 9, 14)]

def rotr (x n : UInt64) : UInt64 := (x >>> n) ||| (x <<< (64 - n))

/-- Mix two words of the block into four words of the working vector. -/
def mix (v : List UInt64) (lane : Nat × Nat × Nat × Nat) (x y : UInt64) : List UInt64 :=
  let (i, j, k, l) := lane
  let a := v.getD i 0 + v.getD j 0 + x
  let d := rotr (v.getD l 0 ^^^ a) 32
  let c := v.getD k 0 + d
  let b := rotr (v.getD j 0 ^^^ c) 24
  let a := a + b + y
  let d := rotr (d ^^^ a) 16
  let c := c + d
  let b := rotr (b ^^^ c) 63
  (((v.set i a).set j b).set k c).set l d

def round (block : List UInt64) (v : List UInt64) (r : Nat) : List UInt64 :=
  let order := sigma.getD (r % 10) []
  lanes.zipIdx.foldl (fun v entry =>
    mix v entry.1 (block.getD (order.getD (2 * entry.2) 0) 0)
      (block.getD (order.getD (2 * entry.2 + 1) 0) 0)) v

/-- One block, after which `count` bytes have been read. -/
def compress (h : List UInt64) (block : List UInt64) (count : Nat) (last : Bool) : List UInt64 :=
  let v := h ++ iv
  let v := v.set 12 (v.getD 12 0 ^^^ UInt64.ofNat count)
  let v := v.set 13 (v.getD 13 0 ^^^ UInt64.ofNat (count >>> 64))
  let v := if last then v.set 14 (~~~ v.getD 14 0) else v
  let v := (List.range 12).foldl (round block) v
  List.zipWith (· ^^^ ·) h (List.zipWith (· ^^^ ·) (v.take 8) (v.drop 8))

/-- Eight bytes as a little-endian word. -/
def word (bytes : List UInt8) : UInt64 :=
  bytes.foldr (fun b w => w <<< 8 ||| b.toUInt64) 0

/-- A block of at most 128 bytes as sixteen words. -/
def words (bytes : List UInt8) : List UInt64 :=
  (List.range 16).map fun i => word ((bytes.drop (8 * i)).take 8)

/-- The blocks after the first `read` bytes; `fuel` bounds their number. -/
def blocks : Nat → Nat → List UInt64 → List UInt8 → List UInt64
  | 0, _, h, _ => h
  | fuel + 1, read, h, data =>
    if data.length ≤ 128 then compress h (words data) (read + data.length) true
    else blocks fuel (read + 128) (compress h (words (data.take 128)) (read + 128) false)
      (data.drop 128)

/-- `hashlib.blake2b(data, digest_size=size).digest()`. -/
def digest (data : List UInt8) (size : Nat) : List UInt8 :=
  let h := iv.set 0 (iv.getD 0 0 ^^^ 0x01010000 ^^^ UInt64.ofNat size)
  ((blocks (data.length + 1) 0 h data).flatMap fun w =>
    (List.range 8).map fun i => (w >>> UInt64.ofNat (8 * i)).toUInt8).take size

/-- `int.from_bytes(bytes, "big")`. -/
def ofBytesBig (bytes : List UInt8) : Nat := bytes.foldl (fun n b => 256 * n + b.toNat) 0

end Python.Blake2b
