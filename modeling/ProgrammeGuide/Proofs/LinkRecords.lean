import ProgrammeGuide.Proofs.Grammar
import ProgrammeGuide.Proofs.LinkLayouts

/-!
Where the parts of a linkage descriptor end. The type of the link decides how long its detail is,
and a loop of links is as long as it says, or as the body is: the records inside it have no say in
where the private data begins.
-/

open scoped Computability

namespace ProgrammeGuide

open Form

namespace Reader

theorem run_onlyIf_eq_ok {present : Bool} {input rest : Octets} {word : Option UInt16} :
    (onlyIf present word16).run input = .ok (word, rest) ↔
      word.isSome = present ∧ input = optional16 word ++ rest := by
  constructor
  · intro ran
    cases present with
    | false =>
        cases ran
        exact ⟨rfl, rfl⟩
    | true =>
        rw [onlyIf, if_pos rfl, map_eq_pure_bind] at ran
        obtain ⟨found, left, first, ended⟩ := run_bind_eq_ok.mp ran
        cases ended
        exact ⟨rfl, run_word16_eq_ok.mp first⟩
  · rintro ⟨rfl, rfl⟩
    exact reads_onlyIf word rest

end Reader

theorem LinkTarget.run_reader_eq_ok {flags : UInt8} {input rest : Octets} {target : LinkTarget} :
    (LinkTarget.reader flags).run input = .ok (target, rest) ↔
      target.Fits ∧ (∃ spare, flags.toNat % 16 = target.code spare) ∧
        input = target.layout ++ rest := by
  constructor
  · intro ran
    obtain ⟨id, behind, first, ran⟩ := Reader.run_bind_eq_ok.mp ran
    rw [Reader.run_word16_eq_ok.mp first]
    have kind := bits_toNat_pow 2 2 flags
    by_cases own : bits 2 2 flags = 3
    · rw [if_pos own] at ran
      cases ran
      rw [own] at kind
      change 3 = _ at kind
      refine ⟨trivial, ⟨flags.toNat, ?_⟩, rfl⟩
      simp only [code]
      omega
    · rw [if_neg own] at ran
      obtain ⟨networkId, left, second, ran⟩ := Reader.run_bind_eq_ok.mp ran
      obtain ⟨serviceId, last, third, ended⟩ := Reader.run_bind_eq_ok.mp ran
      cases ended
      obtain ⟨networkFlag, rfl⟩ := Reader.run_onlyIf_eq_ok.mp second
      obtain ⟨serviceFlag, rfl⟩ := Reader.run_onlyIf_eq_ok.mp third
      have network := flag_toNat 1 flags
      have service := flag_toNat 0 flags
      have notOwn : (bits 2 2 flags).toNat ≠ 3 := fun same => own (UInt8.toNat_inj.mp same)
      refine ⟨?_, ⟨0, ?_⟩, ?_⟩
      · change (bits 2 2 flags).toNat < 3
        omega
      · simp only [code, networkFlag, serviceFlag]
        omega
      · simp only [layout, List.append_assoc]
  · rintro ⟨fits, ⟨spare, packed⟩, rfl⟩
    exact reads_layout fits packed rest

namespace ExtendedEventLink

/-- How many octets a link takes, by the flags behind the id of its event. -/
def size (flags : UInt8) : Nat :=
  if bits 2 2 flags = 3 then 5 else 5 + 2 * (flag 1 flags).toNat + 2 * (flag 0 flags).toNat

/-- The octets stand for the link, whatever the bits are that mean nothing. -/
def Spelt (link : ExtendedEventLink) (taken : Octets) : Prop :=
  link.Fits ∧ ∃ spare, taken = link.layout spare

def Incomplete (rest : Octets) : Prop := ∀ flags, rest[2]? = some flags → rest.length < size flags

theorem spells_reader : reader.Spells Spelt := by
  intro input link rest
  constructor
  · intro ran
    obtain ⟨eventId, behind, first, ran⟩ := Reader.run_bind_eq_ok.mp ran
    obtain ⟨flags, left, second, ran⟩ := Reader.run_bind_eq_ok.mp ran
    obtain ⟨target, last, third, ended⟩ := Reader.run_bind_eq_ok.mp ran
    cases ended
    obtain ⟨fits, ⟨spare, packed⟩, rfl⟩ := LinkTarget.run_reader_eq_ok.mp third
    rw [Reader.run_word16_eq_ok.mp first, Reader.run_octet_eq_ok.mp second]
    have linkType := bits_toNat_pow 4 2 flags
    have listed := flag_toNat 7 flags
    have simulcast := flag_toNat 6 flags
    refine ⟨_, ⟨⟨?_, fits⟩, spare, rfl⟩, ?_⟩
    · change (bits 4 2 flags).toNat < 4
      omega
    · simp only [layout, List.append_assoc, List.cons_append]
      congr 2
      have bound := flags.toNat_lt
      rw [← UInt8.toNat_inj, ExtendedEventLink.flags, EventLink.flags_toNat]
      simp only
      omega
  · rintro ⟨taken, ⟨fits, spare, rfl⟩, rfl⟩
    exact reads_layout spare fits rest

theorem five_le_size (flags : UInt8) : 5 ≤ size flags := by
  unfold size
  split <;> omega

def form : Form := exactly 2 * led fun flags => exactly (size flags - 3)

theorem mem_form {taken : Octets} :
    taken ∈ form ↔ ∃ flags, taken[2]? = some flags ∧ taken.length = size flags := by
  rw [form, Language.mem_mul]
  constructor
  · rintro ⟨eventId, two, _, ⟨flags, rest, rfl, more⟩, rfl⟩
    rw [mem_exactly] at two more
    have enough := five_le_size flags
    refine ⟨flags, ?_, ?_⟩
    · rw [List.getElem?_append_right (Nat.le_of_eq two), two]
      rfl
    · rw [List.length_append, List.length_cons, two, more]
      omega
  · rintro ⟨flags, third, whole⟩
    match taken, third with
    | high :: low :: first :: rest, third =>
        obtain rfl : first = flags := Option.some.inj third
        exact ⟨[high, low], rfl, first :: rest, ⟨first, rest, rfl, Nat.eq_sub_of_add_eq whole⟩, rfl⟩

theorem hasWidth_target (flags : UInt8) : (LinkTarget.reader flags).HasWidth (size flags - 3) := by
  by_cases own : bits 2 2 flags = 3
  · have fixed := Reader.hasWidth_word16.bind fun id =>
      Reader.hasWidth_pure (LinkTarget.userDefined id)
    unfold LinkTarget.reader
    simp only [size, if_pos own]
    exact fixed
  · have fixed := Reader.hasWidth_word16.bind fun id =>
      (Reader.hasWidth_onlyIf (flag 1 flags) Reader.hasWidth_word16).bind fun networkId =>
        (Reader.hasWidth_onlyIf (flag 0 flags) Reader.hasWidth_word16).bind fun serviceId =>
          Reader.hasWidth_pure (LinkTarget.service (bits 2 2 flags) id networkId serviceId)
    have width : 2 + ((if flag 1 flags then 2 else 0) + ((if flag 0 flags then 2 else 0) + 0)) =
        5 + 2 * (flag 1 flags).toNat + 2 * (flag 0 flags).toNat - 3 := by
      cases flag 1 flags <;> cases flag 0 flags <;> rfl
    unfold LinkTarget.reader
    simp only [size, if_neg own]
    rw [← width]
    exact fixed

theorem recognises_reader : reader.Recognises form :=
  Reader.hasWidth_word16.recognises.bind fun _ => Reader.recognises_led fun flags =>
    (hasWidth_target flags).recognises.bind_pure _

theorem exists_spelt_iff {taken : Octets} :
    (∃ link, Spelt link taken) ↔ ∃ flags, taken[2]? = some flags ∧ taken.length = size flags := by
  rw [← mem_form]
  constructor
  · rintro ⟨link, spelt⟩
    have ran := (spells_reader (taken ++ []) link []).mpr ⟨taken, spelt, rfl⟩
    obtain ⟨same, member, split⟩ := recognises_reader.sound _ _ _ ran
    rw [← List.append_cancel_right split]
    exact member
  · intro member
    obtain ⟨link, ran⟩ := recognises_reader.accepts taken member []
    obtain ⟨same, spelt, split⟩ := (spells_reader _ link []).mp ran
    rw [List.append_cancel_right split]
    exact ⟨link, spelt⟩

theorem run_of_incomplete {rest : Octets} (incomplete : Incomplete rest) :
    ∃ cause, reader.run rest = .error cause := by
  cases ran : reader.run rest with
  | error cause => exact ⟨cause, rfl⟩
  | ok result =>
      obtain ⟨taken, member, rfl⟩ := recognises_reader.sound _ result.1 result.2 ran
      obtain ⟨flags, third, whole⟩ := mem_form.mp member
      have enough := five_le_size flags
      have short := incomplete flags
        ((List.getElem?_append_left (by omega : 2 < taken.length)).trans third)
      rw [List.length_append] at short
      omega

end ExtendedEventLink

namespace Linkage

/-- How much of a loop of links is there. Its length is in front of it. -/
def loopLength (body : Octets) : Nat := min (body.getD 7 0).toNat (body.length - 8)

def privateStart (linkageType : UInt8) (body : Octets) : Nat :=
  if linkageType = 0x08 then 8 + MobileHandOver.announcedLength (body.getD 7 0)
  else if linkageType = 0x0D then 10
  else if 0x0E ≤ linkageType ∧ linkageType ≤ 0x1F then 8 + loopLength body
  else 7

variable {linkageType : UInt8} {behind left : Octets} {detail : LinkDetail}

theorem run_handOver (ran : (detailReader 0x08).run behind = .ok (detail, left)) :
    ∃ codes more, behind = codes :: (more ++ left) ∧
      more.length = MobileHandOver.announcedLength codes := by
  obtain ⟨_, ⟨codes, more, rfl, size⟩, split⟩ :=
    (MobileHandOver.recognises_reader.map LinkDetail.mobileHandOver).sound _ _ _ ran
  exact ⟨codes, more, split.symm, size⟩

theorem run_event (ran : (detailReader 0x0D).run behind = .ok (detail, left)) :
    ∃ link, behind = link ++ left ∧ link.length = 3 := by
  have fixed : EventLink.reader.HasWidth 3 :=
    Reader.hasWidth_word16.bind fun _ => Reader.hasWidth_octet.bind fun _ => Reader.hasWidth_pure _
  obtain ⟨link, size, split⟩ := (fixed.map LinkDetail.event).recognises.sound _ _ _ ran
  exact ⟨link, split.symm, size⟩

theorem run_extendedEvents (extended : 0x0E ≤ linkageType ∧ linkageType ≤ 0x1F)
    (ran : (detailReader linkageType).run behind = .ok (detail, left)) :
    ∃ announced rest, behind = announced :: rest ∧ left = rest.drop announced.toNat ∧
      detail = .extendedEvents (ExtendedEventLink.ofArea (rest.take announced.toNat)) := by
  rw [detailReader_of_extended extended] at ran
  obtain ⟨announced, rest, first, ran⟩ := Reader.run_bind_eq_ok.mp ran
  cases ran
  exact ⟨announced, rest, Reader.run_octet_eq_ok.mp first, rfl, rfl⟩

variable {body : Octets} {linkage : Linkage}

theorem read_eq_ok (ran : DescriptorBody.read body = .ok linkage) :
    ∃ front behind, body = front ++ linkage.linkageType :: behind ∧ front.length = 6 ∧
      (detailReader linkage.linkageType).run behind =
        .ok (linkage.detail, linkage.privateData) := by
  obtain ⟨⟨_, _⟩, parsed, rfl⟩ := map_eq_ok_iff.mp ran
  obtain ⟨transportStreamId, _, first, parsed⟩ := Reader.run_bind_eq_ok.mp parsed
  obtain ⟨networkId, _, second, parsed⟩ := Reader.run_bind_eq_ok.mp parsed
  obtain ⟨serviceId, _, third, parsed⟩ := Reader.run_bind_eq_ok.mp parsed
  obtain ⟨linkageType, behind, fourth, parsed⟩ := Reader.run_bind_eq_ok.mp parsed
  obtain ⟨detail, left, detailed, ended⟩ := Reader.run_bind_eq_ok.mp parsed
  cases ended
  refine ⟨octets16 transportStreamId ++ (octets16 networkId ++ octets16 serviceId), behind, ?_,
    rfl, detailed⟩
  rw [Reader.run_word16_eq_ok.mp first, Reader.run_word16_eq_ok.mp second,
    Reader.run_word16_eq_ok.mp third, Reader.run_octet_eq_ok.mp fourth, List.append_assoc,
    List.append_assoc]

theorem getD_next {front : Octets} (six : front.length = 6) (linkageType next : UInt8)
    (rest : Octets) : (front ++ linkageType :: next :: rest).getD 7 0 = next := by
  match front, six with
  | [_, _, _, _, _, _], _ => rfl

theorem exists_taken (ran : DescriptorBody.read body = .ok linkage) :
    ∃ taken, body = taken ++ linkage.privateData ∧
      taken.length = privateStart linkage.linkageType body := by
  obtain ⟨front, behind, rfl, six, ran⟩ := read_eq_ok ran
  generalize linkage.linkageType = linkageType at ran
  by_cases handOver : linkageType = 0x08
  · subst handOver
    obtain ⟨codes, more, rfl, size⟩ := run_handOver ran
    refine ⟨front ++ 0x08 :: codes :: more, ?_, ?_⟩
    · simp only [List.append_assoc, List.cons_append]
    · rw [privateStart, if_pos rfl, getD_next six, List.length_append, List.length_cons,
        List.length_cons, six, size]
      omega
  · by_cases event : linkageType = 0x0D
    · subst event
      obtain ⟨link, rfl, size⟩ := run_event ran
      refine ⟨front ++ 0x0D :: link, ?_, ?_⟩
      · simp only [List.append_assoc, List.cons_append]
      · rw [privateStart, if_neg handOver, if_pos rfl, List.length_append, List.length_cons, six,
          size]
    · by_cases extended : 0x0E ≤ linkageType ∧ linkageType ≤ 0x1F
      · obtain ⟨announced, rest, rfl, left, _⟩ := run_extendedEvents extended ran
        refine ⟨front ++ linkageType :: announced :: rest.take announced.toNat, ?_, ?_⟩
        · rw [left]
          simp only [List.append_assoc, List.cons_append, List.take_append_drop]
        · simp only [privateStart, if_neg handOver, if_neg event, if_pos extended, loopLength,
            getD_next six, List.length_append, List.length_cons, six, List.length_take]
          omega
      · refine ⟨front ++ [linkageType], ?_, ?_⟩
        · rw [detailReader_of_other handOver event extended, Reader.run_pure] at ran
          rw [← (Prod.mk.inj (Except.ok.inj ran)).2, List.append_assoc]
          rfl
        · rw [privateStart, if_neg handOver, if_neg event, if_neg extended, List.length_append, six]
          rfl

theorem links_of_read (extended : 0x0E ≤ linkage.linkageType ∧ linkage.linkageType ≤ 0x1F)
    (ran : DescriptorBody.read body = .ok linkage) :
    linkage.detail = .extendedEvents
      (ExtendedEventLink.ofArea ((body.drop 8).take (loopLength body))) := by
  obtain ⟨front, behind, rfl, six, ran⟩ := read_eq_ok ran
  obtain ⟨announced, rest, rfl, _, found⟩ := run_extendedEvents extended ran
  have behindNext : (front ++ linkage.linkageType :: announced :: rest).drop 8 = rest := by
    match front, six with
    | [_, _, _, _, _, _], _ => rfl
  have length : loopLength (front ++ linkage.linkageType :: announced :: rest) =
      min announced.toNat rest.length := by
    rw [loopLength, getD_next six, List.length_append, List.length_cons, List.length_cons, six]
    omega
  rw [found, behindNext, length, ← List.take_eq_take_min]

/-- A body that is read has its private data directly behind the detail that the type of the link
asks for. A loop of links counts as what it announces, or as all there is, and its links are the
longest that tile it from its start: a record that is cut ends them and changes nothing else. -/
theorem read_delimited (ran : DescriptorBody.read body = .ok linkage) :
    body[6]? = some linkage.linkageType ∧
    privateStart linkage.linkageType body ≤ body.length ∧
    linkage.privateData = body.drop (privateStart linkage.linkageType body) ∧
    (0x0E ≤ linkage.linkageType ∧ linkage.linkageType ≤ 0x1F →
      let area := (body.drop 8).take (loopLength body)
      ∃ links, linkage.detail = .extendedEvents links ∧
        Reader.Tiles ExtendedEventLink.Spelt links area ∧
        (∀ others, Reader.Tiles ExtendedEventLink.Spelt others area → others <+: links) ∧
        ∀ spare sent cut, (∀ link ∈ sent, ExtendedEventLink.Fits link) →
          ExtendedEventLink.Incomplete cut →
          area = ExtendedEventLink.area spare sent ++ cut → links = sent) ∧
    ∀ taken, (∃ link, ExtendedEventLink.Spelt link taken) ↔
      ∃ flags, taken[2]? = some flags ∧ taken.length = ExtendedEventLink.size flags := by
  obtain ⟨taken, split, start⟩ := exists_taken ran
  refine ⟨?_, ?_, ?_, ?_, fun _ => ExtendedEventLink.exists_spelt_iff⟩
  · obtain ⟨front, behind, rfl, six, _⟩ := read_eq_ok ran
    rw [List.getElem?_append_right (Nat.le_of_eq six), six]
    rfl
  · have total := congrArg List.length split
    rw [List.length_append, start] at total
    omega
  · rw [← start]
    have behind := congrArg (List.drop taken.length) split
    rw [List.drop_left] at behind
    exact behind.symm
  · intro extended area
    refine ⟨_, links_of_read extended ran, ?_, ?_, ?_⟩
    · exact Reader.tiles_repeated ExtendedEventLink.spells_reader
        ExtendedEventLink.reader_progresses area
    · intro others tiles
      exact tiles.prefix_repeated ExtendedEventLink.spells_reader
        ExtendedEventLink.reader_progresses
    · intro spare sent cut fits incomplete whole
      obtain ⟨cause, stuck⟩ := ExtendedEventLink.run_of_incomplete incomplete
      change ExtendedEventLink.ofArea area = sent
      rw [whole]
      exact ExtendedEventLink.ofArea_area_append spare fits stuck

/-- A loop of ten octets, in which the second record is cut, and private data behind it. The first
record has an id of the user's own, for which its two lowest flags mean nothing. -/
def cutRecord : Octets :=
  [0x00, 0x01, 0x00, 0x02, 0x00, 0x03, 0x0E, 0x0A, 0x12, 0x34, 0x0F, 0x56, 0x78, 0x9A, 0xBC, 0x02,
    0xDE, 0xF0, 0xAA, 0xBB]

theorem read_delimited_cutRecord :
    ∃ linkage : Linkage, DescriptorBody.read cutRecord = .ok linkage ∧
      linkage.privateData = [0xAA, 0xBB] ∧
      linkage.detail = .extendedEvents [⟨⟨0x1234, false, false⟩, 0, .userDefined 0x5678⟩] := by
  obtain ⟨linkage, ran, sameType⟩ : ∃ linkage : Linkage,
      DescriptorBody.read cutRecord = .ok linkage ∧ linkage.linkageType = 0x0E := ⟨_, rfl, rfl⟩
  obtain ⟨_, _, behind, looped, _⟩ := read_delimited ran
  rw [sameType] at behind looped
  obtain ⟨links, detail, _, _, cut⟩ := looped (by decide)
  have incomplete : ExtendedEventLink.Incomplete [0x9A, 0xBC, 0x02, 0xDE, 0xF0] := by
    intro flags third
    cases third
    decide
  have found := cut (fun _ => 3) [⟨⟨0x1234, false, false⟩, 0, .userDefined 0x5678⟩]
    [0x9A, 0xBC, 0x02, 0xDE, 0xF0] (List.forall_mem_singleton.mpr ⟨by decide, trivial⟩) incomplete
    rfl
  exact ⟨linkage, ran, behind, found ▸ detail⟩

end Linkage

end ProgrammeGuide
