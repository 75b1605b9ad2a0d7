/-!
Binary coded decimals: two decimal digits in the two halves of an octet. A half above nine is
not refused; it counts for what it is, so an octet is worth at most 165.
-/

namespace ProgrammeGuide.BinaryDecimal

def value (octet : UInt8) : Nat :=
  octet.toNat / 16 * 10 + octet.toNat % 16

/-- The octet for a number below one hundred. -/
def encode (number : Nat) : UInt8 :=
  UInt8.ofNat (number / 10 * 16 + number % 10)

/-- Both halves are decimal digits. -/
def Proper (octet : UInt8) : Prop := octet.toNat / 16 ≤ 9 ∧ octet.toNat % 16 ≤ 9

instance (octet : UInt8) : Decidable (Proper octet) :=
  inferInstanceAs (Decidable (_ ∧ _))

theorem value_le (octet : UInt8) : value octet ≤ 165 := by
  have bound := octet.toNat_lt
  simp only [value]
  omega

theorem value_encode {number : Nat} (small : number < 100) : value (encode number) = number := by
  simp only [value, encode, UInt8.toNat_ofNat']
  omega

theorem proper_encode {number : Nat} (small : number < 100) : Proper (encode number) := by
  have bound : number / 10 * 16 + number % 10 < 2 ^ 8 := by omega
  simp only [Proper, encode, UInt8.toNat_ofNat', Nat.mod_eq_of_lt bound]
  omega

theorem value_lt {octet : UInt8} (proper : Proper octet) : value octet < 100 := by
  simp only [Proper] at proper
  simp only [value]
  omega

theorem encode_value {octet : UInt8} (proper : Proper octet) : encode (value octet) = octet := by
  simp only [Proper] at proper
  rw [← UInt8.toNat_inj]
  simp only [encode, value, UInt8.toNat_ofNat']
  omega

theorem value_lt_value_iff {first second : UInt8} (firstProper : Proper first)
    (secondProper : Proper second) : value first < value second ↔ first < second := by
  simp only [Proper] at firstProper secondProper
  rw [UInt8.lt_iff_toNat_lt]
  simp only [value]
  omega

theorem value_inj {first second : UInt8} (firstProper : Proper first)
    (secondProper : Proper second) : value first = value second ↔ first = second := by
  constructor
  · intro same
    rw [← encode_value firstProper, same, encode_value secondProper]
  · exact congrArg value

theorem compare_value {first second : UInt8} (firstProper : Proper first)
    (secondProper : Proper second) :
    compare (value first) (value second) = compare first second := by
  change compareOfLessAndEq _ _ = compareOfLessAndEq _ _
  simp only [compareOfLessAndEq, value_lt_value_iff firstProper secondProper,
    value_inj firstProper secondProper]

end ProgrammeGuide.BinaryDecimal
