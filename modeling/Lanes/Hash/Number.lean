import Lanes.Hash.Crc32
import Lanes.Number.Decimal

/-!
# Hashing numbers to themselves

A text that is a decimal number of 64 bits with sign hashes to that number modulo `2 ^ 32`, which
makes layouts that can be worked out by hand. All other bytes hash to their CRC-32.
-/
namespace Lanes.Hash

/-- The decimal number written by the bytes. Only digits and signs, which are ASCII, can take part
in one, so bytes are looked at one by one. -/
def int64? (bytes : Bytes) : Option Int :=
  Decimal.int64? (bytes.map (fun byte => Char.ofNat byte.toNat))

/-- The low 32 bits of an integer. -/
def low32 (n : Int) : UInt32 := .ofNat (n % 0x100000000).toNat

def number : HashFunction := fun bytes =>
  match int64? bytes with
  | some n => low32 n
  | none => crc32 bytes

end Lanes.Hash
