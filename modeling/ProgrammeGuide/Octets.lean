/-!
Octets as they are broadcast: big-endian words and the bit fields inside an octet.
-/

namespace ProgrammeGuide

abbrev Octets := List UInt8

/-- The field of `width` bits from bit `low` up; bit 0 is the lowest. -/
def bits (low width : Nat) (octet : UInt8) : UInt8 :=
  UInt8.ofNat ((octet.toNat >>> low) % (1 <<< width))

def flag (position : Nat) (octet : UInt8) : Bool :=
  (octet.toNat >>> position) % 2 = 1

def word16 (high low : UInt8) : UInt16 :=
  UInt16.ofNat (high.toNat * 256 + low.toNat)

/-- The lower twelve bits of two octets, the form of every section and loop length. -/
def length12 (high low : UInt8) : UInt16 :=
  UInt16.ofNat (high.toNat % 16 * 256 + low.toNat)

def word32 (first second third fourth : UInt8) : UInt32 :=
  UInt32.ofNat (((first.toNat * 256 + second.toNat) * 256 + third.toNat) * 256 + fourth.toNat)

def octets16 (word : UInt16) : Octets :=
  [UInt8.ofNat (word.toNat / 256), UInt8.ofNat word.toNat]

theorem bits_toNat (low width : Nat) (octet : UInt8) :
    (bits low width octet).toNat = (octet.toNat >>> low) % (1 <<< width) := by
  have bound : (octet.toNat >>> low) % (1 <<< width) < 256 :=
    Nat.lt_of_le_of_lt (Nat.le_trans (Nat.mod_le _ _) (Nat.shiftRight_le _ _)) octet.toNat_lt
  simp only [bits, UInt8.toNat_ofNat']
  exact Nat.mod_eq_of_lt bound

theorem bits_lt (low width : Nat) (octet : UInt8) :
    (bits low width octet).toNat < 1 <<< width := by
  rw [bits_toNat, Nat.one_shiftLeft]
  exact Nat.mod_lt _ (Nat.two_pow_pos width)

theorem word16_toNat (high low : UInt8) :
    (word16 high low).toNat = high.toNat * 256 + low.toNat := by
  have highBound := high.toNat_lt
  have lowBound := low.toNat_lt
  simp only [word16, UInt16.toNat_ofNat']
  omega

theorem length12_toNat (high low : UInt8) :
    (length12 high low).toNat = high.toNat % 16 * 256 + low.toNat := by
  have lowBound := low.toNat_lt
  simp only [length12, UInt16.toNat_ofNat']
  omega

theorem word32_toNat (first second third fourth : UInt8) :
    (word32 first second third fourth).toNat =
      ((first.toNat * 256 + second.toNat) * 256 + third.toNat) * 256 + fourth.toNat := by
  have firstBound := first.toNat_lt
  have secondBound := second.toNat_lt
  have thirdBound := third.toNat_lt
  have fourthBound := fourth.toNat_lt
  simp only [word32, UInt32.toNat_ofNat']
  omega

theorem octets16_word16 (high low : UInt8) : octets16 (word16 high low) = [high, low] := by
  have lowBound := low.toNat_lt
  simp only [octets16, word16_toNat]
  congr 1
  · rw [← UInt8.toNat_inj, UInt8.toNat_ofNat']
    have highBound := high.toNat_lt
    omega
  · congr 1
    rw [← UInt8.toNat_inj, UInt8.toNat_ofNat']
    omega

end ProgrammeGuide
