import Lanes.Hash.Basic

/-!
# CRC-32

The cyclic redundancy check of IEEE 802.3: bytes enter the lowest bits of the register first, and
the register is complemented before the first and after the last byte.
-/
namespace Lanes.Hash

/-- The generator polynomial, its bits reversed and the leading one left out. -/
def polynomial : UInt32 := 0xedb88320

/-- Divides the register by the generator, `n` bits of it. -/
def reduceBits : Nat → UInt32 → UInt32
  | 0, register => register
  | n + 1, register =>
    let shifted := register >>> 1
    reduceBits n (if register &&& 1 = 1 then shifted ^^^ polynomial else shifted)

def absorb (register : UInt32) (byte : UInt8) : UInt32 :=
  reduceBits 8 (register ^^^ byte.toUInt32)

def crc32 : HashFunction := fun bytes =>
  bytes.foldl absorb 0xffffffff ^^^ 0xffffffff

end Lanes.Hash
