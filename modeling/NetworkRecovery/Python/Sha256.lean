import NetworkRecovery.Python.JsonLaws

/-!
# SHA-256

`hashlib.sha256(data).hexdigest()`: the message is padded to blocks of 64
bytes, each block is expanded to 64 words and mixed into eight words of state,
and the state prints as 64 hexadecimal digits, which is all that is proved of
it (`hexdigest_hex`, `hexdigest_length`).
-/

namespace Python.Sha256

/-- The round constants. -/
def roundConstants : List UInt32 :=
  [0x428a2f98, 0x71374491, 0xb5c0fbcf, 0xe9b5dba5, 0x3956c25b, 0x59f111f1, 0x923f82a4, 0xab1c5ed5,
    0xd807aa98, 0x12835b01, 0x243185be, 0x550c7dc3, 0x72be5d74, 0x80deb1fe, 0x9bdc06a7, 0xc19bf174,
    0xe49b69c1, 0xefbe4786, 0x0fc19dc6, 0x240ca1cc, 0x2de92c6f, 0x4a7484aa, 0x5cb0a9dc, 0x76f988da,
    0x983e5152, 0xa831c66d, 0xb00327c8, 0xbf597fc7, 0xc6e00bf3, 0xd5a79147, 0x06ca6351, 0x14292967,
    0x27b70a85, 0x2e1b2138, 0x4d2c6dfc, 0x53380d13, 0x650a7354, 0x766a0abb, 0x81c2c92e, 0x92722c85,
    0xa2bfe8a1, 0xa81a664b, 0xc24b8b70, 0xc76c51a3, 0xd192e819, 0xd6990624, 0xf40e3585, 0x106aa070,
    0x19a4c116, 0x1e376c08, 0x2748774c, 0x34b0bcb5, 0x391c0cb3, 0x4ed8aa4a, 0x5b9cca4f, 0x682e6ff3,
    0x748f82ee, 0x78a5636f, 0x84c87814, 0x8cc70208, 0x90befffa, 0xa4506ceb, 0xbef9a3f7, 0xc67178f2]

/-- The eight words of state. -/
structure State where
  a : UInt32
  b : UInt32
  c : UInt32
  d : UInt32
  e : UInt32
  f : UInt32
  g : UInt32
  h : UInt32

def State.init : State :=
  ⟨0x6a09e667, 0xbb67ae85, 0x3c6ef372, 0xa54ff53a, 0x510e527f, 0x9b05688c, 0x1f83d9ab, 0x5be0cd19⟩

def rotr (x n : UInt32) : UInt32 := (x >>> n) ||| (x <<< (32 - n))

/-- The message followed by a one bit, zeros, and its length in bits. -/
def padded (data : List UInt8) : List UInt8 :=
  let zeros := (119 - data.length % 64) % 64
  let bits := 8 * data.length
  data ++ 0x80 :: (List.replicate zeros 0 ++
    (List.range 8).reverse.map fun i => UInt8.ofNat (bits / 256 ^ i))

/-- Bytes as big-endian words. -/
def words : List UInt8 → List UInt32
  | b0 :: b1 :: b2 :: b3 :: rest =>
    (b0.toUInt32 <<< 24 ||| b1.toUInt32 <<< 16 ||| b2.toUInt32 <<< 8 ||| b3.toUInt32) :: words rest
  | _ => []

/-- The next word of the message schedule, from the words so far, last first. -/
def nextWord (ws : List UInt32) : UInt32 :=
  let w (i : Nat) := ws.getD (i - 1) 0
  let s0 := rotr (w 15) 7 ^^^ rotr (w 15) 18 ^^^ (w 15 >>> 3)
  let s1 := rotr (w 2) 17 ^^^ rotr (w 2) 19 ^^^ (w 2 >>> 10)
  w 16 + s0 + w 7 + s1

/-- The message schedule of a block of sixteen words. -/
def schedule (block : List UInt32) : List UInt32 :=
  ((List.range 48).foldl (fun ws _ => nextWord ws :: ws) block.reverse).reverse

def round (s : State) (kw : UInt32 × UInt32) : State :=
  let s1 := rotr s.e 6 ^^^ rotr s.e 11 ^^^ rotr s.e 25
  let ch := (s.e &&& s.f) ^^^ (~~~s.e &&& s.g)
  let t1 := s.h + s1 + ch + kw.1 + kw.2
  let s0 := rotr s.a 2 ^^^ rotr s.a 13 ^^^ rotr s.a 22
  let maj := (s.a &&& s.b) ^^^ (s.a &&& s.c) ^^^ (s.b &&& s.c)
  ⟨t1 + (s0 + maj), s.a, s.b, s.c, s.d + t1, s.e, s.f, s.g⟩

def compress (s : State) (block : List UInt32) : State :=
  let r := (roundConstants.zip (schedule block)).foldl round s
  ⟨s.a + r.a, s.b + r.b, s.c + r.c, s.d + r.d, s.e + r.e, s.f + r.f, s.g + r.g, s.h + r.h⟩

/-- Blocks of sixteen words; `fuel` bounds their number. -/
def blocks : Nat → List UInt32 → List (List UInt32)
  | 0, _ => []
  | _, [] => []
  | fuel + 1, ws => ws.take 16 :: blocks fuel (ws.drop 16)

def digest (data : ByteArray) : State :=
  let ws := words (padded data.toList)
  (blocks ws.length ws).foldl compress .init

/-- Eight hexadecimal digits. -/
def wordHex (w : UInt32) : List Char :=
  (List.range 8).reverse.map fun i => hexDigit (w.toNat / 16 ^ i)

/-- `hashlib.sha256(data).hexdigest()`. -/
def hexdigest (data : ByteArray) : String :=
  let s := digest data
  .ofList ([s.a, s.b, s.c, s.d, s.e, s.f, s.g, s.h].flatMap wordHex)

theorem hexdigest_hex (data : ByteArray) :
    ∀ c ∈ (hexdigest data).toList, (hexValue c).isSome := by
  intro c hc
  rw [hexdigest, String.toList_ofList] at hc
  obtain ⟨w, _, hw⟩ := List.mem_flatMap.mp hc
  obtain ⟨i, _, rfl⟩ := List.mem_map.mp hw
  rw [hexValue_hexDigit]
  rfl

theorem hexdigest_length (data : ByteArray) : (hexdigest data).toList.length = 64 := by
  simp [hexdigest, wordHex]

end Python.Sha256
