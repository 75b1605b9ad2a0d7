import ProgrammeGuide.Proofs.FixedWidth
import ProgrammeGuide.Proofs.History

/-!
The verdict on a buffer, and what is left of a guide that has rejected one. The table id is
looked at first, then the length, then the order of the sections and last the version. Only a
duplicate leaves a trace: the last table id of its class of schedule tables.
-/

namespace ProgrammeGuide

namespace TableClass

/-- The class of the table that the first octet of a buffer names. -/
def ofBuffer? (buffer : Octets) : Option TableClass := buffer.head?.bind ofTableId?

theorem ofTableId?_eq_none_iff (tableId : UInt8) :
    ofTableId? tableId = none ↔ tableId < 0x4E ∨ 0x6F < tableId := by
  unfold ofTableId?
  grind

theorem ofBuffer?_cons (tableId : UInt8) (others : Octets) :
    ofBuffer? (tableId :: others) = ofTableId? tableId := rfl

end TableClass

theorem PerClass.set_get {α : Type} (values : PerClass α) (cls : TableClass) :
    values.set cls (values.get cls) = values := by
  cases cls <;> rfl

namespace ClassState

variable {cls : TableClass} {state : ClassState} {header : SectionHeader} {table : EventTableHeader}

@[simp] theorem advance_lastVersion (cls : TableClass) (state : ClassState)
    (table : EventTableHeader) : (state.advance cls table).lastVersion = state.lastVersion := by
  unfold advance
  split <;> rfl

theorem advance_lastTableId_of_schedule (schedule : cls.isSchedule) :
    (state.advance cls table).lastTableId = table.lastTableId := by
  rw [advance, if_pos schedule]

theorem advance_of_presentFollowing (other : ¬cls.isSchedule) :
    state.advance cls table = state := by
  rw [advance, if_neg other]

theorem isDuplicate_advance (version : UInt8) :
    (state.advance cls table).isDuplicate version = state.isDuplicate version := by
  simp only [isDuplicate, advance_lastVersion]

theorem keepsOrder_iff_of_schedule (schedule : cls.isSchedule) :
    state.keepsOrder cls header table ↔
      table.segmentLastNumber = header.number ∧ state.lastTableId ≤ table.lastTableId := by
  rw [keepsOrder, if_pos schedule]
  simp only [Bool.and_eq_true, decide_eq_true_eq]

theorem keepsOrder_iff_of_presentFollowing (other : ¬cls.isSchedule) :
    state.keepsOrder cls header table ↔
      table.lastTableId = cls.firstTableId ∧ header.lastNumber = table.segmentLastNumber := by
  rw [keepsOrder, if_neg other]
  simp only [Bool.and_eq_true, decide_eq_true_eq]

theorem review_cases (cls : TableClass) (state : ClassState) (header : SectionHeader)
    (table : EventTableHeader) :
    (¬state.keepsOrder cls header table ∧
      state.review cls header table = (state, .error .discontinuous)) ∨
    (state.keepsOrder cls header table ∧ state.isDuplicate header.version ∧
      state.review cls header table = (state.advance cls table, .error .duplicateVersion)) ∨
    (state.keepsOrder cls header table ∧ ¬state.isDuplicate header.version ∧
      state.review cls header table =
        ({ state.advance cls table with lastVersion := some header.version }, .ok ())) := by
  by_cases ordered : state.keepsOrder cls header table
  · -- The version is looked at once the last table has moved on, but does not depend on it.
    have reviewed : state.review cls header table =
        if state.isDuplicate header.version then
          (state.advance cls table, .error .duplicateVersion)
        else ({ state.advance cls table with lastVersion := some header.version }, .ok ()) := by
      rw [review, if_pos ordered, ← isDuplicate_advance]
    by_cases duplicate : state.isDuplicate header.version
    · rw [if_pos duplicate] at reviewed
      exact Or.inr (Or.inl ⟨ordered, duplicate, reviewed⟩)
    · rw [if_neg duplicate] at reviewed
      exact Or.inr (Or.inr ⟨ordered, duplicate, reviewed⟩)
  · exact Or.inl ⟨ordered, if_neg ordered⟩

end ClassState

namespace Guide

variable {buffer : Octets} {tableId : UInt8} {cls : TableClass} {received : EventSection}

theorem identify_of_unknown {others : Octets} (unknown : TableClass.ofTableId? tableId = none) :
    identify (tableId :: others) = .error (.unknownTable tableId) := by
  simp only [identify, unknown]

theorem identify_of_unreadable {cause : ReadError} (known : TableClass.ofBuffer? buffer = some cls)
    (unreadable : EventSection.read buffer = .error cause) :
    identify buffer = .error .truncated := by
  cases buffer with
  | nil => rfl
  | cons tableId others =>
      rw [TableClass.ofBuffer?_cons] at known
      simp only [identify, known, unreadable]

theorem identify_of_read (known : TableClass.ofBuffer? buffer = some cls)
    (ran : EventSection.read buffer = .ok received) : identify buffer = .ok (cls, received) := by
  cases buffer with
  | nil => cases known
  | cons tableId others =>
      rw [TableClass.ofBuffer?_cons] at known
      simp only [identify, known, ran]

theorem identify_eq_ok_iff : identify buffer = .ok (cls, received) ↔
    TableClass.ofBuffer? buffer = some cls ∧ EventSection.read buffer = .ok received := by
  constructor
  · intro identified
    cases buffer with
    | nil => cases identified
    | cons tableId others =>
        cases known : TableClass.ofBuffer? (tableId :: others) with
        | none =>
            rw [TableClass.ofBuffer?_cons] at known
            cases (identify_of_unknown known).symm.trans identified
        | some owner =>
            cases ran : EventSection.read (tableId :: others) with
            | error cause => cases (identify_of_unreadable known ran).symm.trans identified
            | ok found =>
                cases (identify_of_read known ran).symm.trans identified
                exact ⟨rfl, rfl⟩
  · rintro ⟨known, ran⟩
    exact identify_of_read known ran

theorem identify_cases (buffer : Octets) :
    (buffer = [] ∧ identify buffer = .error .truncated) ∨
    (∃ tableId, buffer.head? = some tableId ∧ (tableId < 0x4E ∨ 0x6F < tableId) ∧
      identify buffer = .error (.unknownTable tableId)) ∨
    (∃ tableId, buffer.head? = some tableId ∧ (0x4E ≤ tableId ∧ tableId ≤ 0x6F) ∧
      buffer.length < 18 ∧ identify buffer = .error .truncated) ∨
    (∃ tableId cls received, buffer.head? = some tableId ∧ (0x4E ≤ tableId ∧ tableId ≤ 0x6F) ∧
      18 ≤ buffer.length ∧ identify buffer = .ok (cls, received)) := by
  cases buffer with
  | nil => exact Or.inl ⟨rfl, rfl⟩
  | cons tableId others =>
      -- An unknown table is rejected before anything of its length is looked at.
      have unknown := TableClass.ofTableId?_eq_none_iff tableId
      cases known : TableClass.ofTableId? tableId with
      | none =>
          exact Or.inr (Or.inl ⟨tableId, rfl, unknown.mp known, identify_of_unknown known⟩)
      | some cls =>
          have within : 0x4E ≤ tableId ∧ tableId ≤ 0x6F := by
            simpa [known, not_or, UInt8.not_lt] using unknown
          by_cases short : (tableId :: others).length < 18
          · exact Or.inr (Or.inr (Or.inl ⟨tableId, rfl, within, short,
              identify_of_unreadable known (EventSection.read_of_short short)⟩))
          · have long := Nat.le_of_not_lt short
            obtain ⟨received, ran⟩ := EventSection.read_of_long long
            exact Or.inr (Or.inr (Or.inr ⟨tableId, cls, received, rfl, within, long,
              identify_of_read known ran⟩))

theorem identify_eq_unknownTable_iff (buffer : Octets) (tableId : UInt8) :
    identify buffer = .error (.unknownTable tableId) ↔
      buffer.head? = some tableId ∧ (tableId < 0x4E ∨ 0x6F < tableId) := by
  rcases identify_cases buffer with ⟨rfl, identified⟩ | ⟨first, found, outside, identified⟩ |
    ⟨first, found, within, _, identified⟩ | ⟨first, _, _, found, within, _, identified⟩
  · simp [identified]
  · simp only [identified, found, Except.error.injEq, Rejection.unknownTable.injEq,
      Option.some.injEq, iff_self_and]
    rintro rfl
    exact outside
  all_goals
    simp only [identified, found, Except.error.injEq, Option.some.injEq, reduceCtorEq, false_iff,
      not_and, not_or, UInt8.not_lt]
    rintro rfl
    exact within

theorem identify_eq_truncated_iff (buffer : Octets) :
    identify buffer = .error .truncated ↔ buffer = [] ∨
      (∃ tableId, buffer.head? = some tableId ∧ 0x4E ≤ tableId ∧ tableId ≤ 0x6F) ∧
        buffer.length < 18 := by
  rcases identify_cases buffer with ⟨rfl, identified⟩ | ⟨first, found, outside, identified⟩ |
    ⟨first, found, within, short, identified⟩ | ⟨first, _, _, found, within, long, identified⟩
  · exact iff_of_true identified (Or.inl rfl)
  · refine iff_of_false (by simp [identified]) ?_
    rintro (rfl | ⟨⟨tableId, same, lower, upper⟩, _⟩)
    · cases found
    · obtain rfl : first = tableId := Option.some.inj (found.symm.trans same)
      exact outside.elim (UInt8.not_lt.mpr lower) (UInt8.not_lt.mpr upper)
  · exact iff_of_true identified (Or.inr ⟨⟨first, found, within⟩, short⟩)
  · refine iff_of_false (by simp [identified]) ?_
    rintro (rfl | ⟨_, short⟩)
    · cases found
    · omega

theorem identify_error_cases {cause : Rejection} (unidentified : identify buffer = .error cause) :
    cause = .truncated ∨ ∃ tableId, cause = .unknownTable tableId := by
  rcases identify_cases buffer with ⟨_, identified⟩ | ⟨tableId, _, _, identified⟩ |
    ⟨_, _, _, _, identified⟩ | ⟨_, _, _, _, _, _, identified⟩
  · exact Or.inl (Except.error.inj (unidentified.symm.trans identified))
  · exact Or.inr ⟨tableId, Except.error.inj (unidentified.symm.trans identified)⟩
  · exact Or.inl (Except.error.inj (unidentified.symm.trans identified))
  · cases unidentified.symm.trans identified

/-- The guide after a section that was in order, as far as its version has no say. -/
def advance (guide : Guide) (cls : TableClass) (table : EventTableHeader) : Guide :=
  { guide with states := guide.states.set cls ((guide.states.get cls).advance cls table) }

section Advance

variable {known : TableClass} (guide : Guide) (table : EventTableHeader)

theorem advance_lastVersion :
    ((guide.advance cls table).states.get known).lastVersion =
      (guide.states.get known).lastVersion := by
  by_cases same : known = cls
  · subst same
    rw [advance, PerClass.get_set_self, ClassState.advance_lastVersion]
  · rw [advance, PerClass.get_set_of_ne _ _ same]

theorem advance_lastTableId_self (schedule : cls.isSchedule) :
    ((guide.advance cls table).states.get cls).lastTableId = table.lastTableId := by
  rw [advance, PerClass.get_set_self, ClassState.advance_lastTableId_of_schedule schedule]

theorem advance_lastTableId_of_exempt (exempt : known = cls → ¬cls.isSchedule) :
    ((guide.advance cls table).states.get known).lastTableId =
      (guide.states.get known).lastTableId := by
  by_cases same : known = cls
  · subst same
    rw [advance, PerClass.get_set_self, ClassState.advance_of_presentFollowing (exempt rfl)]
  · rw [advance, PerClass.get_set_of_ne _ _ same]

end Advance

theorem receive_cases (guide : Guide) (buffer : Octets) :
    (∃ cause, identify buffer = .error cause ∧ guide.receive buffer = (guide, .error cause)) ∨
    (∃ cls received, identify buffer = .ok (cls, received) ∧
      ¬(guide.states.get cls).keepsOrder cls received.header received.table ∧
      guide.receive buffer = (guide, .error .discontinuous)) ∨
    (∃ cls received, identify buffer = .ok (cls, received) ∧
      (guide.states.get cls).keepsOrder cls received.header received.table ∧
      (guide.states.get cls).isDuplicate received.header.version ∧
      guide.receive buffer = (guide.advance cls received.table, .error .duplicateVersion)) ∨
    (∃ cls received, identify buffer = .ok (cls, received) ∧
      (guide.states.get cls).keepsOrder cls received.header received.table ∧
      ¬(guide.states.get cls).isDuplicate received.header.version ∧
      guide.receive buffer =
        ({ guide with
            states := guide.states.set cls
              { (guide.states.get cls).advance cls received.table with
                lastVersion := some received.header.version }
            events := received.events.foldl (addRecord guide.limits cls received) guide.events },
          .ok ())) := by
  cases identified : identify buffer with
  | error cause => exact Or.inl ⟨cause, rfl, receive_of_error identified⟩
  | ok found =>
      obtain ⟨cls, received⟩ := found
      right
      rcases (guide.states.get cls).review_cases cls received.header received.table with
        ⟨unordered, reviewed⟩ | ⟨ordered, duplicate, reviewed⟩ | ⟨ordered, fresh, reviewed⟩
      · refine Or.inl ⟨cls, received, rfl, unordered, ?_⟩
        simp only [receive_of_ok identified, reviewed, PerClass.set_get]
      · refine Or.inr (Or.inl ⟨cls, received, rfl, ordered, duplicate, ?_⟩)
        simp only [receive_of_ok identified, reviewed, advance]
      · refine Or.inr (Or.inr ⟨cls, received, rfl, ordered, fresh, ?_⟩)
        rw [receive_of_ok identified, reviewed]

theorem receive_eq_error_iff_identify {cause : Rejection} (guide : Guide) (buffer : Octets)
    (early : cause ≠ .discontinuous ∧ cause ≠ .duplicateVersion) :
    (guide.receive buffer).2 = .error cause ↔ identify buffer = .error cause := by
  rcases guide.receive_cases buffer with ⟨found, identified, outcome⟩ |
    ⟨_, _, identified, _, outcome⟩ | ⟨_, _, identified, _, _, outcome⟩ |
    ⟨_, _, identified, _, _, outcome⟩
  · rw [outcome, identified]
    simp only [Except.error.injEq]
  · simp [outcome, identified, early.1.symm]
  · simp [outcome, identified, early.2.symm]
  · simp [outcome, identified]

theorem receive_eq_discontinuous_iff (guide : Guide) (buffer : Octets) :
    (guide.receive buffer).2 = .error .discontinuous ↔
      ∃ cls received, identify buffer = .ok (cls, received) ∧
        ¬(guide.states.get cls).keepsOrder cls received.header received.table := by
  rcases guide.receive_cases buffer with ⟨cause, identified, outcome⟩ |
    ⟨cls, received, identified, unordered, outcome⟩ | ⟨_, _, identified, ordered, _, outcome⟩ |
    ⟨_, _, identified, ordered, _, outcome⟩
  · have early := identify_error_cases identified
    rcases early with rfl | ⟨tableId, rfl⟩ <;> simp [outcome, identified]
  · rw [outcome]
    exact iff_of_true rfl ⟨cls, received, identified, unordered⟩
  · simp [outcome, identified, ordered]
  · simp [outcome, identified, ordered]

theorem receive_eq_duplicateVersion_iff (guide : Guide) (buffer : Octets) :
    (guide.receive buffer).2 = .error .duplicateVersion ↔
      ∃ cls received, identify buffer = .ok (cls, received) ∧
        (guide.states.get cls).keepsOrder cls received.header received.table ∧
        (guide.states.get cls).isDuplicate received.header.version := by
  rcases guide.receive_cases buffer with ⟨cause, identified, outcome⟩ |
    ⟨_, _, identified, unordered, outcome⟩ |
    ⟨cls, received, identified, ordered, duplicate, outcome⟩ | ⟨_, _, identified, _, fresh, outcome⟩
  · have early := identify_error_cases identified
    rcases early with rfl | ⟨tableId, rfl⟩ <;> simp [outcome, identified]
  · simp [outcome, identified, unordered]
  · rw [outcome]
    exact iff_of_true rfl ⟨cls, received, identified, ordered, duplicate⟩
  · simp [outcome, identified, fresh]

theorem receive_of_rejected {guide : Guide} {cause : Rejection}
    (rejected : (guide.receive buffer).2 = .error cause) :
    (cause ≠ .duplicateVersion ∧ (guide.receive buffer).1 = guide) ∨
    (cause = .duplicateVersion ∧ ∃ cls received, identify buffer = .ok (cls, received) ∧
      (guide.states.get cls).keepsOrder cls received.header received.table ∧
      (guide.receive buffer).1 = guide.advance cls received.table) := by
  rcases guide.receive_cases buffer with ⟨found, identified, outcome⟩ |
    ⟨cls, received, identified, _, outcome⟩ | ⟨cls, received, identified, ordered, _, outcome⟩ |
    ⟨cls, received, identified, _, _, outcome⟩
  · rw [outcome] at rejected ⊢
    cases rejected
    refine Or.inl ⟨?_, rfl⟩
    rcases identify_error_cases identified with rfl | ⟨tableId, rfl⟩ <;> simp
  · rw [outcome] at rejected ⊢
    cases rejected
    exact Or.inl ⟨by simp, rfl⟩
  · rw [outcome] at rejected ⊢
    cases rejected
    exact Or.inr ⟨rfl, cls, received, identified, ordered, rfl⟩
  · rw [outcome] at rejected
    cases rejected

/-- A section without events, the first and only one of its segment. -/
def bareSection (tableId version lastTableId : UInt8) : Octets :=
  [tableId, 0xF0, 0x0F, 0x00, 0x10, 0xC1 + version * 2, 0x00, 0x00, 0x00, 0x01, 0x00, 0x02, 0x00,
    lastTableId, 0xDE, 0xAD, 0xBE, 0xEF]

/-- A rejected buffer leaves the events and their order, the limits and all versions as they are.
The last table ids are left too, save one: a duplicate in a class of schedule tables moves that of
its class on to its own, which is never an earlier one. The second part says which buffer is
rejected for what; a section that is out of order is not taken for a duplicate, whatever its
version. -/
theorem receive_rejection (guide : Guide) (buffer : Octets) :
    let outcome := guide.receive buffer
    (∀ cause, outcome.2 = .error cause →
      outcome.1.events = guide.events ∧ outcome.1.limits = guide.limits ∧
      (∀ cls, (outcome.1.states.get cls).lastVersion = (guide.states.get cls).lastVersion) ∧
      (∀ cls received, identify buffer = .ok (cls, received) → cls.isSchedule →
        cause = .duplicateVersion →
          (outcome.1.states.get cls).lastTableId = received.table.lastTableId ∧
          (guide.states.get cls).lastTableId ≤ received.table.lastTableId) ∧
      (∀ cls, (∀ received, identify buffer = .ok (cls, received) → cls.isSchedule →
        cause ≠ .duplicateVersion) →
          (outcome.1.states.get cls).lastTableId = (guide.states.get cls).lastTableId)) ∧
    (∀ tableId, outcome.2 = .error (.unknownTable tableId) ↔
      buffer.head? = some tableId ∧ (tableId < 0x4E ∨ 0x6F < tableId)) ∧
    (outcome.2 = .error .truncated ↔ buffer = [] ∨
      (∃ tableId, buffer.head? = some tableId ∧ 0x4E ≤ tableId ∧ tableId ≤ 0x6F) ∧
        buffer.length < 18) ∧
    (outcome.2 = .error .discontinuous ↔ ∃ cls received, identify buffer = .ok (cls, received) ∧
      ¬(guide.states.get cls).keepsOrder cls received.header received.table) ∧
    (outcome.2 = .error .duplicateVersion ↔ ∃ cls received, identify buffer = .ok (cls, received) ∧
      (guide.states.get cls).keepsOrder cls received.header received.table ∧
      (guide.states.get cls).isDuplicate received.header.version) := by
  intro outcome
  refine ⟨?_, ?_, ?_, guide.receive_eq_discontinuous_iff buffer,
    guide.receive_eq_duplicateVersion_iff buffer⟩
  · intro cause rejected
    rcases receive_of_rejected rejected with ⟨other, unchanged⟩ |
      ⟨rfl, cls, received, identified, ordered, moved⟩
    · have same : outcome.1 = guide := unchanged
      rw [same]
      refine ⟨rfl, rfl, fun _ => rfl, ?_, fun _ _ => rfl⟩
      intro cls received _ _ duplicate
      exact absurd duplicate other
    · have left : outcome.1 = guide.advance cls received.table := moved
      rw [left]
      refine ⟨rfl, rfl, fun known => guide.advance_lastVersion received.table, ?_, ?_⟩
      · intro known found again schedule _
        obtain ⟨rfl, rfl⟩ : cls = known ∧ received = found := by
          simpa [identified] using again
        -- That it does not go back is what the order check has just asked.
        have rises := ((ClassState.keepsOrder_iff_of_schedule schedule).mp ordered).2
        exact ⟨guide.advance_lastTableId_self received.table schedule, rises⟩
      · intro known exempt
        apply guide.advance_lastTableId_of_exempt received.table
        rintro rfl schedule
        exact exempt received identified schedule rfl
  · intro tableId
    rw [guide.receive_eq_error_iff_identify buffer (by simp), identify_eq_unknownTable_iff]
  · rw [guide.receive_eq_error_iff_identify buffer (by simp), identify_eq_truncated_iff]

/-- The next version counts as a duplicate, and its last table is remembered all the same. -/
theorem receive_rejection_moved :
    let guide := ((empty .unlimited).receive (bareSection 0x50 0 0x50)).1
    let outcome := guide.receive (bareSection 0x50 1 0x52)
    outcome.2 = .error .duplicateVersion ∧
      guide.states.get .actualSchedule = ⟨some 0, 0x50⟩ ∧
      (outcome.1.states.get .actualSchedule).lastVersion = some 0 ∧
      (outcome.1.states.get .actualSchedule).lastTableId = 0x52 := by
  intro guide outcome
  have before : guide.states.get .actualSchedule = ⟨some 0, 0x50⟩ := rfl
  have rejected : outcome.2 = .error .duplicateVersion := rfl
  obtain ⟨received, identified, last⟩ : ∃ received,
      identify (bareSection 0x50 1 0x52) = .ok (.actualSchedule, received) ∧
        received.table.lastTableId = 0x52 := ⟨_, rfl, rfl⟩
  obtain ⟨_, _, versions, moved, _⟩ := (guide.receive_rejection _).1 _ rejected
  refine ⟨rejected, before, ?_, ?_⟩
  · rw [versions, before]
  · rw [(moved .actualSchedule received identified rfl rfl).1, last]

end Guide

end ProgrammeGuide
