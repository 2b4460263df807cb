-- SHA-256 of a text, as `hashlib.sha256(text.encode("utf-8")).hexdigest()`
-- computes it. The proofs use of it that a digest is written in 64
-- hexadecimal digits.
import Mathlib.Tactic.Common
import Mathlib.Tactic.IntervalCases

namespace sha256

/-- The round constants. -/
def K : List (BitVec 32) :=
  [0x428a2f98, 0x71374491, 0xb5c0fbcf, 0xe9b5dba5, 0x3956c25b, 0x59f111f1, 0x923f82a4, 0xab1c5ed5,
    0xd807aa98, 0x12835b01, 0x243185be, 0x550c7dc3, 0x72be5d74, 0x80deb1fe, 0x9bdc06a7, 0xc19bf174,
    0xe49b69c1, 0xefbe4786, 0x0fc19dc6, 0x240ca1cc, 0x2de92c6f, 0x4a7484aa, 0x5cb0a9dc, 0x76f988da,
    0x983e5152, 0xa831c66d, 0xb00327c8, 0xbf597fc7, 0xc6e00bf3, 0xd5a79147, 0x06ca6351, 0x14292967,
    0x27b70a85, 0x2e1b2138, 0x4d2c6dfc, 0x53380d13, 0x650a7354, 0x766a0abb, 0x81c2c92e, 0x92722c85,
    0xa2bfe8a1, 0xa81a664b, 0xc24b8b70, 0xc76c51a3, 0xd192e819, 0xd6990624, 0xf40e3585, 0x106aa070,
    0x19a4c116, 0x1e376c08, 0x2748774c, 0x34b0bcb5, 0x391c0cb3, 0x4ed8aa4a, 0x5b9cca4f, 0x682e6ff3,
    0x748f82ee, 0x78a5636f, 0x84c87814, 0x8cc70208, 0x90befffa, 0xa4506ceb, 0xbef9a3f7, 0xc67178f2]

/-- The eight words that a hash is made of. -/
structure Digest where
  (a b c d e f g h : BitVec 32)

def start : Digest :=
  ⟨0x6a09e667, 0xbb67ae85, 0x3c6ef372, 0xa54ff53a, 0x510e527f, 0x9b05688c, 0x1f83d9ab, 0x5be0cd19⟩

/-! ## One block -/

/-- One word of the message schedule, from the sixteen before it, newest
first. -/
def nextWord (ws : List (BitVec 32)) : BitVec 32 :=
  let w2 := ws.getD 1 0
  let w15 := ws.getD 14 0
  let s0 := w15.rotateRight 7 ^^^ w15.rotateRight 18 ^^^ (w15 >>> 3)
  let s1 := w2.rotateRight 17 ^^^ w2.rotateRight 19 ^^^ (w2 >>> 10)
  ws.getD 15 0 + s0 + ws.getD 6 0 + s1

def round (s : Digest) (k w : BitVec 32) : Digest :=
  let s1 := s.e.rotateRight 6 ^^^ s.e.rotateRight 11 ^^^ s.e.rotateRight 25
  let ch := (s.e &&& s.f) ^^^ (~~~s.e &&& s.g)
  let t1 := s.h + s1 + ch + k + w
  let s0 := s.a.rotateRight 2 ^^^ s.a.rotateRight 13 ^^^ s.a.rotateRight 22
  let maj := (s.a &&& s.b) ^^^ (s.a &&& s.c) ^^^ (s.b &&& s.c)
  ⟨t1 + (s0 + maj), s.a, s.b, s.c, s.d + t1, s.e, s.f, s.g⟩

def schedule : ℕ → List (BitVec 32) → List (BitVec 32)
  | 0, ws => ws
  | n + 1, ws => schedule n (nextWord ws :: ws)

def rounds : List (BitVec 32) → List (BitVec 32) → Digest → Digest
  | k :: ks, w :: ws, s => rounds ks ws (round s k w)
  | _, _, s => s

def compress (s : Digest) (block : List (BitVec 32)) : Digest :=
  let t := rounds K (schedule 48 block.reverse).reverse s
  ⟨s.a + t.a, s.b + t.b, s.c + t.c, s.d + t.d, s.e + t.e, s.f + t.f, s.g + t.g, s.h + t.h⟩

/-! ## The message -/

/-- Four bytes make a word, the first one on top. -/
def words : List ℕ → List (BitVec 32)
  | a :: b :: c :: d :: rest => BitVec.ofNat 32 (((a * 256 + b) * 256 + c) * 256 + d) :: words rest
  | _ => []

def blocks : ℕ → List (BitVec 32) → List (List (BitVec 32))
  | 0, _ => []
  | n + 1, ws => ws.take 16 :: blocks n (ws.drop 16)

/-- The message, a one bit, zeros, and the length in bits in eight bytes. -/
def padded (bytes : List ℕ) : List ℕ :=
  let zeros := (119 - bytes.length % 64) % 64
  bytes ++ 0x80 :: List.replicate zeros 0 ++
    (List.range 8).map fun i => bytes.length * 8 / 256 ^ (7 - i) % 256

def digest (bytes : List ℕ) : Digest :=
  (blocks ((bytes.length + 72) / 64) (words (padded bytes))).foldl compress start

def hexWord (w : BitVec 32) : List Char :=
  (List.range 8).map fun i => Nat.digitChar (w.toNat / 16 ^ (7 - i) % 16)

def hexdigest (text : List Char) : String :=
  let s := digest ((text.flatMap String.utf8EncodeChar).map (·.toNat))
  String.ofList ([s.a, s.b, s.c, s.d, s.e, s.f, s.g, s.h].flatMap hexWord)

/-- The same for a message of bytes. -/
def hexdigest_bytes (message : List ℕ) : String :=
  let s := digest message
  String.ofList ([s.a, s.b, s.c, s.d, s.e, s.f, s.g, s.h].flatMap hexWord)

theorem hexdigest_toList (text : List Char) :
    ∃ ws : List (BitVec 32), ws.length = 8 ∧ (hexdigest text).toList = ws.flatMap hexWord := by
  unfold hexdigest
  dsimp only
  exact ⟨_, rfl, String.toList_ofList⟩

theorem hexdigest_length (text : List Char) : (hexdigest text).toList.length = 64 := by
  obtain ⟨ws, hlen, htext⟩ := hexdigest_toList text
  have hword : ∀ w, (hexWord w).length = 8 := by simp [hexWord]
  rw [htext, List.length_flatMap]
  simp [hword, List.map_const', hlen]

theorem hexdigest_digits (text : List Char) :
    ∀ c ∈ (hexdigest text).toList, c.isDigit ∨ c ∈ ['a', 'b', 'c', 'd', 'e', 'f'] := by
  intro c hc
  obtain ⟨ws, -, htext⟩ := hexdigest_toList text
  rw [htext, List.mem_flatMap] at hc
  obtain ⟨w, -, hc⟩ := hc
  obtain ⟨i, -, rfl⟩ := List.mem_map.mp hc
  have hlt : w.toNat / 16 ^ (7 - i) % 16 < 16 := Nat.mod_lt _ (by omega)
  generalize w.toNat / 16 ^ (7 - i) % 16 = n at hlt
  interval_cases n <;> decide

example : hexdigest ['a', 'b', 'c'] =
    "ba7816bf8f01cfea414140de5dae2223b00361a396177a9cb410ff61f20015ad" := by decide +kernel

/-! ## HMAC -/

/-- A word as four bytes, the top one first. -/
def bytesOfWord (w : BitVec 32) : List ℕ := (List.range 4).map fun i => w.toNat / 256 ^ (3 - i) % 256

/-- The digest as 32 bytes. -/
def bytes (message : List ℕ) : List ℕ :=
  let s := digest message
  [s.a, s.b, s.c, s.d, s.e, s.f, s.g, s.h].flatMap bytesOfWord

/-- The key in one block: a longer one is hashed first. -/
def blockKey (key : List ℕ) : List ℕ :=
  let key := if 64 < key.length then bytes key else key
  key ++ List.replicate (64 - key.length) 0

/-- `hmac.new(key, message, hashlib.sha256).digest()`. -/
def hmac (key message : List ℕ) : List ℕ :=
  let key := blockKey key
  bytes (key.map (· ^^^ 0x5c) ++ bytes (key.map (· ^^^ 0x36) ++ message))

theorem bytes_lt (message : List ℕ) : ∀ b ∈ bytes message, b < 256 := by
  intro b hb
  obtain ⟨w, -, hb⟩ := List.mem_flatMap.mp hb
  obtain ⟨i, -, rfl⟩ := List.mem_map.mp hb
  exact Nat.mod_lt _ (by omega)

theorem hmac_lt (key message : List ℕ) : ∀ b ∈ hmac key message, b < 256 := bytes_lt _

example : hmac ("Jefe".toList.map Char.toNat)
    ("what do ya want for nothing?".toList.map Char.toNat) =
    [0x5b, 0xdc, 0xc1, 0x46, 0xbf, 0x60, 0x75, 0x4e, 0x6a, 0x04, 0x24, 0x26, 0x08, 0x95, 0x75, 0xc7,
      0x5a, 0x00, 0x3f, 0x08, 0x9d, 0x27, 0x39, 0x83, 0x9d, 0xec, 0x58, 0xb9, 0x64, 0xec, 0x38,
      0x43] := by decide +kernel

end sha256
