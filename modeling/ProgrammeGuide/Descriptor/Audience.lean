import ProgrammeGuide.Descriptor.Block

/-!
Descriptors that say whom an event is for. Content descriptors classify it by genres, parental
rating descriptors recommend a least age, country by country, and conditional access descriptors
list the access systems that may unlock it. Each is a list that must fill the body exactly.
-/

namespace ProgrammeGuide

structure Genre where
  main : UInt8
  sub : UInt8
  /-- For the broadcaster's own use. -/
  user : UInt8
  deriving DecidableEq, Repr

structure Content where
  genres : List Genre
  deriving DecidableEq, Repr

namespace Content

def genresOf : Octets → List Genre
  | nibbles :: user :: rest => ⟨bits 4 4 nibbles, bits 0 4 nibbles, user⟩ :: genresOf rest
  | _ => []

def read (body : Octets) : Except ReadError Content :=
  if body.length % 2 = 0 then .ok ⟨genresOf body⟩ else .error .malformedLength

end Content

instance : DescriptorBody Content where
  tag := 0x54
  read := Content.read

/-- Ratings 1 to 15 are ages less three; the others are undefined or the broadcaster's own. -/
def minimumAge? (rating : UInt8) : Option UInt8 :=
  if 1 ≤ rating ∧ rating ≤ 15 then some (rating + 3) else none

structure Rating where
  country : LetterCode
  rating : UInt8
  deriving DecidableEq, Repr

def Rating.minimumAge? (rating : Rating) : Option UInt8 :=
  ProgrammeGuide.minimumAge? rating.rating

structure ParentalRating where
  ratings : List Rating
  deriving DecidableEq, Repr

namespace ParentalRating

def ratingsOf : Octets → List Rating
  | first :: second :: third :: rating :: rest => ⟨⟨first, second, third⟩, rating⟩ :: ratingsOf rest
  | _ => []

def read (body : Octets) : Except ReadError ParentalRating :=
  if body.length % 4 = 0 then .ok ⟨ratingsOf body⟩ else .error .malformedLength

end ParentalRating

instance : DescriptorBody ParentalRating where
  tag := 0x55
  read := ParentalRating.read

structure ConditionalAccess where
  systemIds : List UInt16
  deriving DecidableEq, Repr

namespace ConditionalAccess

def systems : Octets → List UInt16
  | high :: low :: rest => word16 high low :: systems rest
  | _ => []

def read (body : Octets) : Except ReadError ConditionalAccess :=
  if body.length % 2 = 0 then .ok ⟨systems body⟩ else .error .malformedLength

end ConditionalAccess

instance : DescriptorBody ConditionalAccess where
  tag := 0x53
  read := ConditionalAccess.read

end ProgrammeGuide
