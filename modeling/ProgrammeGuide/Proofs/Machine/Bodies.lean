import ProgrammeGuide.Proofs.Grammar
import ProgrammeGuide.Proofs.Machine.Following

/-!
The bodies of descriptors, read by position. Each kind is attempted as the receiver goes about it:
fixed fields as arrays, texts behind their lengths, areas as slices of their own, tables in chunks.
For a body of fewer octets than the bound of sizes there is always an outcome, the reader's.
-/

namespace ProgrammeGuide.Machine

section Tables

variable {α : Type} {size : Nat}

/-- The whole chunks of a body; what is left over at its end is in none of them. -/
def chunks (size : Nat) (body : Octets) : List Octets :=
  (List.range (body.length / size)).map fun index => (body.drop (index * size)).take size

/-- The entries of a table, which its body must hold without a rest. -/
def table? (size : Nat) (entryOf? : Octets → Option α) (body : Octets) :
    Option (Except ReadError (List α)) :=
  if body.length % size = 0 then ((chunks size body).mapM entryOf?).map Except.ok
  else some (.error .malformedLength)

theorem chunks_of_short {body : Octets} (short : body.length < size) : chunks size body = [] := by
  rw [chunks, Nat.div_eq_of_lt short]
  rfl

theorem chunks_append {taken rest : Octets} (positive : 0 < size) (whole : taken.length = size) :
    chunks size (taken ++ rest) = taken :: chunks size rest := by
  have count : (taken ++ rest).length / size = rest.length / size + 1 := by
    rw [List.length_append, whole, Nat.add_comm, Nat.add_div_right _ positive]
  rw [chunks, count, List.range_succ_eq_map, List.map_cons, List.map_map, chunks]
  congr 1
  · rw [Nat.zero_mul, List.drop_zero, ← whole, List.take_left]
  · refine List.map_congr_left fun index _ => ?_
    simp only [Function.comp_apply, Nat.succ_mul]
    rw [Nat.add_comm, ← List.drop_drop, ← whole, List.drop_left]

/-- A table of chunks has the entries that are found by going through its body. -/
theorem mapM_chunks {entryOf? : Octets → Option α} {entries : Octets → List α}
    (positive : 0 < size) (short : ∀ body, body.length < size → entries body = [])
    (next : ∀ taken rest, taken.length = size →
      ∃ value, entryOf? taken = some value ∧ entries (taken ++ rest) = value :: entries rest)
    (body : Octets) : (chunks size body).mapM entryOf? = some (entries body) := by
  -- One chunk comes off the front; the chunks of the rest are counted anew.
  induction length : body.length using Nat.strongRecOn generalizing body with
  | ind total ih =>
      rcases Nat.lt_or_ge body.length size with tooShort | enough
      · rw [chunks_of_short tooShort, short body tooShort]
        rfl
      · have whole : (body.take size).length = size := List.length_take_of_le enough
        obtain ⟨value, opened, found⟩ := next _ (body.drop size) whole
        have others := ih (body.drop size).length
          (by rw [List.length_drop]; omega) (body.drop size) rfl
        rw [← List.take_append_drop size body, chunks_append positive whole, found,
          List.mapM_cons, opened, others]
        rfl

end Tables

namespace Attempt

section Bodies

def letterCode : Attempt LetterCode := array 3 LetterCode.reader

def service : Attempt Service := do
  let serviceType ← octet
  let provider ← counted
  let name ← counted
  pure { serviceType, provider := ⟨provider⟩, name := ⟨name⟩ }

def shortEvent : Attempt ShortEvent := do
  let language ← letterCode
  let name ← counted
  let text ← counted
  pure { language, name := ⟨name⟩, text := ⟨text⟩ }

def eventItem : Attempt EventItem := do
  let description ← counted
  let content ← counted
  pure { description := ⟨description⟩, content := ⟨content⟩ }

def fragmentHead : Reader (UInt8 × LetterCode × UInt8) := do
  let numbers ← Reader.octet
  let language ← LetterCode.reader
  let areaLength ← Reader.octet
  pure (numbers, language, areaLength)

def extendedEvent : Attempt ExtendedEvent := do
  let (numbers, language, areaLength) ← array 5 fragmentHead
  let area ← takeMost areaLength.toNat
  let items ← listed area eventItem
  let text ← counted
  pure {
    language, items
    number := bits 4 4 numbers
    lastNumber := bits 0 4 numbers
    text := ⟨text⟩ }

def timeShiftedEvent : Attempt TimeShiftedEvent := do
  let (serviceId, eventId) ← together word16 word16
  pure { serviceId, eventId }

def componentHead : Reader (UInt8 × UInt8 × UInt8 × LetterCode) := do
  let contents ← Reader.octet
  let kind ← Reader.octet
  let tag ← Reader.octet
  let language ← LetterCode.reader
  pure (contents, kind, tag, language)

def component : Attempt Component := do
  let (contents, kind, tag, language) ← array 6 componentHead
  let text ← takeRest
  pure {
    kind, tag, language
    contentExtension := bits 4 4 contents
    content := bits 0 4 contents
    text := ⟨text⟩ }

def accessSystem? (chunk : Octets) : Option UInt16 := do
  let high ← chunk[0]?
  let low ← chunk[1]?
  some (ProgrammeGuide.word16 high low)

def genre? (chunk : Octets) : Option Genre := do
  let nibbles ← chunk[0]?
  let user ← chunk[1]?
  some { main := bits 4 4 nibbles, sub := bits 0 4 nibbles, user }

def rating? (chunk : Octets) : Option Rating := do
  let first ← chunk[0]?
  let second ← chunk[1]?
  let third ← chunk[2]?
  let rating ← chunk[3]?
  some { country := ⟨first, second, third⟩, rating }

/-- A part of a telephone number, in an array of a fixed capacity. -/
def stored (capacity count : Nat) : Attempt Octets := do
  let octets ← take count
  if octets.length ≤ capacity then pure octets else throw .malformedLength

def telephoneHead : Reader (UInt8 × UInt8 × UInt8) := do
  let connection ← Reader.octet
  let outerLengths ← Reader.octet
  let innerLengths ← Reader.octet
  pure (connection, outerLengths, innerLengths)

def telephone : Attempt Telephone := do
  let (connection, outerLengths, innerLengths) ← array 3 telephoneHead
  let countryPrefix ← stored 3 (bits 5 2 outerLengths).toNat
  let internationalAreaCode ← stored 7 (bits 2 3 outerLengths).toNat
  let operatorCode ← stored 3 (bits 0 2 outerLengths).toNat
  let nationalAreaCode ← stored 7 (bits 4 3 innerLengths).toNat
  let coreNumber ← stored 15 (bits 0 4 innerLengths).toNat
  pure {
    foreignAvailability := flag 5 connection
    connectionType := bits 0 5 connection
    countryPrefix := ⟨countryPrefix⟩
    internationalAreaCode := ⟨internationalAreaCode⟩
    operatorCode := ⟨operatorCode⟩
    nationalAreaCode := ⟨nationalAreaCode⟩
    coreNumber := ⟨coreNumber⟩ }

def componentText : Attempt ComponentText := do
  let (language, text) ← together letterCode counted
  pure { language, text := ⟨text⟩ }

def multilingualComponent : Attempt MultilingualComponent := do
  let componentTag ← octet
  let texts ← untilEnd componentText
  pure { componentTag, texts }

def privateDataSpecifier : Attempt PrivateDataSpecifier := do
  let specifier ← word32
  pure { specifier }

def dataBroadcast : Attempt DataBroadcast := do
  let (broadcastId, componentTag) ← together word16 octet
  let selector ← counted
  let language ← letterCode
  let text ← counted
  pure { broadcastId, componentTag, selector, language, text := ⟨text⟩ }

def onlyIf {α : Type} (present : Bool) (attempt : Attempt α) : Attempt (Option α) :=
  if present then do
    let value ← attempt
    pure (some value)
  else pure none

def handOver (code : UInt8) : Attempt HandOver :=
  if code = 1 then do
    let networkId ← word16
    pure (.identical networkId)
  else if code = 2 then do
    let networkId ← word16
    pure (.localVariation networkId)
  else if code = 3 then do
    let networkId ← word16
    pure (.associated networkId)
  else pure (.reserved code)

def mobileHandOver : Attempt MobileHandOver := do
  let codes ← octet
  let handOver ← handOver (bits 4 4 codes)
  let initialServiceId ← onlyIf (!flag 0 codes) word16
  pure { handOver, initialServiceId }

def eventLink : Attempt EventLink := do
  let eventId ← word16
  let flags ← octet
  pure { eventId, listed := flag 7 flags, simulcast := flag 6 flags }

def linkTarget (flags : UInt8) : Attempt LinkTarget := do
  let id ← word16
  if bits 2 2 flags = 3 then pure (.userDefined id) else do
    let networkId ← onlyIf (flag 1 flags) word16
    let serviceId ← onlyIf (flag 0 flags) word16
    pure (.service (bits 2 2 flags) id networkId serviceId)

def extendedEventLink : Attempt ExtendedEventLink := do
  let eventId ← word16
  let flags ← octet
  let target ← linkTarget flags
  pure {
    target
    event := { eventId, listed := flag 7 flags, simulcast := flag 6 flags }
    linkType := bits 4 2 flags }

def linkDetail (linkageType : UInt8) : Attempt LinkDetail :=
  if linkageType = 0x08 then do
    let detail ← mobileHandOver
    pure (.mobileHandOver detail)
  else if linkageType = 0x0D then do
    let link ← eventLink
    pure (.event link)
  else if Linkage.isExtendedEvent linkageType then do
    let areaLength ← octet
    let area ← takeMost areaLength.toNat
    let links ← listed area extendedEventLink
    pure (.extendedEvents links)
  else pure .other

def linkage : Attempt Linkage := do
  let (transportStreamId, networkId, serviceId, linkageType) ←
    together word16 (together word16 (together word16 octet))
  let detail ← linkDetail linkageType
  let privateData ← takeRest
  pure { transportStreamId, networkId, serviceId, linkageType, detail, privateData }

end Bodies

section Following

variable {sizes : Nat}

theorem follows_letterCode : Follows sizes letterCode LetterCode.reader :=
  follows_array LetterCode.hasWidth_reader

theorem follows_service : Follows sizes service Service.reader :=
  follows_octet.bind fun _ => follows_counted.bind fun _ => follows_counted.bind fun _ =>
    follows_pure _

theorem follows_shortEvent : Follows sizes shortEvent ShortEvent.reader :=
  follows_letterCode.bind fun _ => follows_counted.bind fun _ => follows_counted.bind fun _ =>
    follows_pure _

theorem follows_eventItem : Follows sizes eventItem EventItem.reader :=
  follows_counted.bind fun _ => follows_counted.bind fun _ => follows_pure _

theorem hasWidth_fragmentHead : fragmentHead.HasWidth 5 :=
  Reader.hasWidth_octet.bind fun _ => LetterCode.hasWidth_reader.bind fun _ =>
    Reader.hasWidth_octet.bind fun _ => Reader.hasWidth_pure _

theorem follows_extendedEvent : Follows sizes extendedEvent ExtendedEvent.reader := by
  have split : ExtendedEvent.reader = fragmentHead >>= fun (numbers, language, areaLength) =>
      Reader.takeUpTo areaLength.toNat >>= fun area => Reader.counted >>= fun text => pure {
        language
        number := bits 4 4 numbers
        lastNumber := bits 0 4 numbers
        items := EventItem.ofArea area
        text := ⟨text⟩ } := by
    simp only [ExtendedEvent.reader, fragmentHead, bind_assoc, pure_bind]
  rw [split]
  exact (follows_array hasWidth_fragmentHead).bind fun _ =>
    follows_eventItem.area EventItem.reader_progresses _ fun _ =>
      follows_counted.bind fun _ => follows_pure _

theorem follows_timeShiftedEvent : Follows sizes timeShiftedEvent TimeShiftedEvent.reader := by
  have truncates := Reader.hasWidth_word16.recognises.truncates
  have split : TimeShiftedEvent.reader =
      Reader.word16.both Reader.word16 >>= fun (serviceId, eventId) =>
        pure { serviceId, eventId } := by
    simp only [TimeShiftedEvent.reader, Reader.both, bind_assoc, pure_bind]
  rw [split]
  exact (follows_word16.together follows_word16 truncates truncates).bind fun _ => follows_pure _

theorem hasWidth_componentHead : componentHead.HasWidth 6 :=
  Reader.hasWidth_octet.bind fun _ => Reader.hasWidth_octet.bind fun _ =>
    Reader.hasWidth_octet.bind fun _ => LetterCode.hasWidth_reader.bind fun _ =>
    Reader.hasWidth_pure _

theorem follows_component : Follows sizes component Component.reader := by
  have split : Component.reader = componentHead >>= fun (contents, kind, tag, language) =>
      Reader.takeRest >>= fun text => pure {
        kind, tag, language
        contentExtension := bits 4 4 contents
        content := bits 0 4 contents
        text := ⟨text⟩ } := by
    simp only [Component.reader, componentHead, bind_assoc, pure_bind]
  rw [split]
  exact (follows_array hasWidth_componentHead).bind fun _ =>
    follows_takeRest.bind fun _ => follows_pure _

theorem follows_stored {capacity count : Nat} (fits : count ≤ capacity) :
    Follows sizes (stored capacity count) (Reader.take count) := by
  rw [← bind_pure (Reader.take count)]
  refine (follows_take count).bind_of fun input octets rest _ ran => ?_
  obtain ⟨size, _⟩ := Reader.run_take_eq_ok.mp ran
  rw [if_pos (Nat.le_trans (Nat.le_of_eq size) fits)]
  exact follows_pure octets

theorem hasWidth_telephoneHead : telephoneHead.HasWidth 3 :=
  Reader.hasWidth_octet.bind fun _ => Reader.hasWidth_octet.bind fun _ =>
    Reader.hasWidth_octet.bind fun _ => Reader.hasWidth_pure _

/-- The bits of each length hold no more than its array. -/
theorem follows_telephone : Follows sizes telephone Telephone.reader := by
  have split : Telephone.reader =
      telephoneHead >>= fun (connection, outerLengths, innerLengths) => (do
        let countryPrefix ← Reader.take (bits 5 2 outerLengths).toNat
        let internationalAreaCode ← Reader.take (bits 2 3 outerLengths).toNat
        let operatorCode ← Reader.take (bits 0 2 outerLengths).toNat
        let nationalAreaCode ← Reader.take (bits 4 3 innerLengths).toNat
        let coreNumber ← Reader.take (bits 0 4 innerLengths).toNat
        pure {
          foreignAvailability := flag 5 connection
          connectionType := bits 0 5 connection
          countryPrefix := ⟨countryPrefix⟩
          internationalAreaCode := ⟨internationalAreaCode⟩
          operatorCode := ⟨operatorCode⟩
          nationalAreaCode := ⟨nationalAreaCode⟩
          coreNumber := ⟨coreNumber⟩ }) := by
    simp only [Telephone.reader, telephoneHead, bind_assoc, pure_bind]
  rw [split]
  exact (follows_array hasWidth_telephoneHead).bind fun (_, outerLengths, innerLengths) =>
    (follows_stored (Nat.le_of_lt_succ (bits_lt 5 2 outerLengths))).bind fun _ =>
    (follows_stored (Nat.le_of_lt_succ (bits_lt 2 3 outerLengths))).bind fun _ =>
    (follows_stored (Nat.le_of_lt_succ (bits_lt 0 2 outerLengths))).bind fun _ =>
    (follows_stored (Nat.le_of_lt_succ (bits_lt 4 3 innerLengths))).bind fun _ =>
    (follows_stored (Nat.le_of_lt_succ (bits_lt 0 4 innerLengths))).bind fun _ =>
    follows_pure _

theorem follows_componentText : Follows sizes componentText ComponentText.reader := by
  have split : ComponentText.reader =
      LetterCode.reader.both Reader.counted >>= fun (language, text) =>
        pure { language, text := ⟨text⟩ } := by
    simp only [ComponentText.reader, Reader.both, bind_assoc, pure_bind]
  rw [split]
  exact (follows_letterCode.together follows_counted
    LetterCode.hasWidth_reader.recognises.truncates
    Reader.recognises_counted.truncates).bind fun _ => follows_pure _

theorem follows_multilingualComponent :
    Follows sizes multilingualComponent MultilingualComponent.reader :=
  follows_octet.bind fun _ =>
    (follows_componentText.untilEnd ComponentText.reader_progresses).bind fun _ => follows_pure _

theorem follows_privateDataSpecifier :
    Follows sizes privateDataSpecifier PrivateDataSpecifier.reader :=
  follows_word32.bind fun _ => follows_pure _

theorem follows_dataBroadcast : Follows sizes dataBroadcast DataBroadcast.reader := by
  have split : DataBroadcast.reader =
      Reader.word16.both Reader.octet >>= fun (broadcastId, componentTag) => (do
        let selector ← Reader.counted
        let language ← LetterCode.reader
        let text ← Reader.counted
        pure { broadcastId, componentTag, selector, language, text := ⟨text⟩ }) := by
    simp only [DataBroadcast.reader, Reader.both, bind_assoc, pure_bind]
  rw [split]
  exact (follows_word16.together follows_octet Reader.hasWidth_word16.recognises.truncates
    Reader.hasWidth_octet.recognises.truncates).bind fun _ =>
    follows_counted.bind fun _ => follows_letterCode.bind fun _ => follows_counted.bind fun _ =>
    follows_pure _

theorem Follows.onlyIf {α : Type} {attempt : Attempt α} {reader : Reader α}
    (follows : Follows sizes attempt reader) (present : Bool) :
    Follows sizes (onlyIf present attempt) (Reader.onlyIf present reader) := by
  cases present with
  | false => exact follows_pure none
  | true => exact follows.map some

theorem follows_handOver (code : UInt8) : Follows sizes (handOver code) (HandOver.reader code) := by
  unfold handOver HandOver.reader
  split_ifs
  · exact follows_word16.map HandOver.identical
  · exact follows_word16.map HandOver.localVariation
  · exact follows_word16.map HandOver.associated
  · exact follows_pure _

theorem follows_mobileHandOver : Follows sizes mobileHandOver MobileHandOver.reader :=
  follows_octet.bind fun _ => (follows_handOver _).bind fun _ =>
    (follows_word16.onlyIf _).bind fun _ => follows_pure _

theorem follows_eventLink : Follows sizes eventLink EventLink.reader :=
  follows_word16.bind fun _ => follows_octet.bind fun _ => follows_pure _

theorem follows_linkTarget (flags : UInt8) :
    Follows sizes (linkTarget flags) (LinkTarget.reader flags) := by
  refine follows_word16.bind fun id => ?_
  split_ifs
  · exact follows_pure _
  · exact (follows_word16.onlyIf _).bind fun _ => (follows_word16.onlyIf _).bind fun _ =>
      follows_pure _

theorem follows_extendedEventLink : Follows sizes extendedEventLink ExtendedEventLink.reader :=
  follows_word16.bind fun _ => follows_octet.bind fun _ => (follows_linkTarget _).bind fun _ =>
    follows_pure _

theorem follows_linkDetail (linkageType : UInt8) :
    Follows sizes (linkDetail linkageType) (Linkage.detailReader linkageType) := by
  unfold linkDetail Linkage.detailReader
  split_ifs
  · exact follows_mobileHandOver.map LinkDetail.mobileHandOver
  · exact follows_eventLink.map LinkDetail.event
  · exact follows_octet.bind fun _ =>
      follows_extendedEventLink.area ExtendedEventLink.reader_progresses _ fun _ => follows_pure _
  · exact follows_pure _

theorem follows_linkage : Follows sizes linkage Linkage.reader := by
  have word := Reader.hasWidth_word16.recognises.truncates
  have twoWide := Reader.hasWidth_word16.both Reader.hasWidth_octet
  have threeWide := Reader.hasWidth_word16.both twoWide
  have two : Follows sizes (together word16 octet) _ :=
    follows_word16.together follows_octet word Reader.hasWidth_octet.recognises.truncates
  have three : Follows sizes (together word16 (together word16 octet)) _ :=
    follows_word16.together two word twoWide.recognises.truncates
  have four : Follows sizes (together word16 (together word16 (together word16 octet))) _ :=
    follows_word16.together three word threeWide.recognises.truncates
  have split : Linkage.reader =
      Reader.word16.both (Reader.word16.both (Reader.word16.both Reader.octet)) >>=
      fun (transportStreamId, networkId, serviceId, linkageType) => (do
        let detail ← Linkage.detailReader linkageType
        let privateData ← Reader.takeRest
        pure { transportStreamId, networkId, serviceId, linkageType, detail, privateData }) := by
    simp only [Linkage.reader, Reader.both, bind_assoc, pure_bind]
  rw [split]
  exact four.bind fun _ => (follows_linkDetail _).bind fun _ => follows_takeRest.bind fun _ =>
    follows_pure _

end Following

end Attempt

end ProgrammeGuide.Machine
