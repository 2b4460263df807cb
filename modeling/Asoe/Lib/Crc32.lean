-- CRC-32 as `zlib.crc32` computes it, one bit of the message at a time.
import Mathlib.Tactic.Common

namespace crc32

def POLYNOMIAL : BitVec 32 := 0xedb88320

/-- One bit is shifted out; a one is divided by the polynomial. -/
def shift (crc : BitVec 32) : BitVec 32 :=
  if crc &&& 1 = 1 then (crc >>> 1) ^^^ POLYNOMIAL else crc >>> 1

def step (crc : BitVec 32) (byte : ℕ) : BitVec 32 :=
  Nat.repeat shift 8 (crc ^^^ BitVec.ofNat 32 byte)

/-- `zlib.crc32(bytes)`. -/
def checksum (bytes : List ℕ) : ℕ := (bytes.foldl step 0xffffffff ^^^ 0xffffffff).toNat

/-- The check value of the standard, for the digits one to nine. -/
example : checksum [49, 50, 51, 52, 53, 54, 55, 56, 57] = 0xcbf43926 := by decide +kernel

end crc32
