import ProgrammeGuide.Proofs.ClassRuns

/-!
Sections that come again. At once, a section is rejected the second time and changes nothing.
Later on it is still rejected and still changes no event, until its class accepts another section.
-/

namespace ProgrammeGuide

/-- The verdict on the same section again: what has just been accepted is a duplicate now. -/
def Verdict.again : Verdict → Verdict
  | .ok _ => .error .duplicateVersion
  | .error cause => .error cause

theorem PerClass.set_set {α : Type} (values : PerClass α) (cls : TableClass) (first second : α) :
    (values.set cls first).set cls second = values.set cls second := by
  cases cls <;> rfl

namespace ClassState

variable {cls : TableClass} {state : ClassState} {header : SectionHeader} {table : EventTableHeader}

theorem advance_of_settled (settled : cls.isSchedule → state.lastTableId = table.lastTableId) :
    state.advance cls table = state := by
  by_cases schedule : cls.isSchedule
  · rw [advance, if_pos schedule, ← settled schedule]
  · exact advance_of_presentFollowing schedule

theorem keepsOrder_of_settled {other : ClassState}
    (settled : cls.isSchedule → other.lastTableId = table.lastTableId)
    (ordered : state.keepsOrder cls header table) : other.keepsOrder cls header table := by
  by_cases schedule : cls.isSchedule
  · have ends := ((keepsOrder_iff_of_schedule schedule).mp ordered).1
    rw [keepsOrder_iff_of_schedule schedule, settled schedule]
    exact ⟨ends, UInt8.le_refl _⟩
  · rw [keepsOrder_iff_of_presentFollowing schedule] at ordered ⊢
    exact ordered

theorem isDuplicate_of_lastVersion {version : UInt8} (last : state.lastVersion = some version) :
    state.isDuplicate version := by
  simp [isDuplicate, last]

theorem review_of_duplicate (ordered : state.keepsOrder cls header table)
    (duplicate : state.isDuplicate header.version) :
    state.review cls header table = (state.advance cls table, .error .duplicateVersion) := by
  rcases state.review_cases cls header table with ⟨unordered, _⟩ | ⟨_, _, reviewed⟩ | ⟨_, fresh, _⟩
  · exact absurd ordered unordered
  · exact reviewed
  · exact absurd duplicate fresh

/-- A second review of the same headers finds the last table where the first one has left it. -/
theorem review_review (cls : TableClass) (state : ClassState) (header : SectionHeader)
    (table : EventTableHeader) :
    (state.review cls header table).1.review cls header table =
      ((state.review cls header table).1, (state.review cls header table).2.again) := by
  rcases state.review_cases cls header table with ⟨_, reviewed⟩ | ⟨ordered, duplicate, reviewed⟩ |
    ⟨ordered, _, reviewed⟩
  · simp only [reviewed, Verdict.again]
  · have settled (schedule : cls.isSchedule) :
        (state.advance cls table).lastTableId = table.lastTableId :=
      advance_lastTableId_of_schedule schedule
    have still : (state.advance cls table).isDuplicate header.version := by
      rw [isDuplicate_advance]
      exact duplicate
    simp only [reviewed, Verdict.again]
    rw [review_of_duplicate (keepsOrder_of_settled settled ordered) still,
      advance_of_settled settled]
  · have settled (schedule : cls.isSchedule) :
        ({ state.advance cls table with lastVersion := some header.version } :
          ClassState).lastTableId = table.lastTableId :=
      advance_lastTableId_of_schedule schedule
    simp only [reviewed, Verdict.again]
    rw [review_of_duplicate (keepsOrder_of_settled settled ordered)
      (isDuplicate_of_lastVersion rfl), advance_of_settled settled]

theorem receive_lastVersion {buffer : Octets} (rejected : (state.receive cls buffer).2 ≠ .ok ()) :
    (state.receive cls buffer).1.lastVersion = state.lastVersion := by
  unfold receive at rejected ⊢
  split
  · rfl
  · rename_i received ran
    simp only [ran] at rejected
    rcases state.review_cases cls received.header received.table with ⟨_, reviewed⟩ |
      ⟨_, _, reviewed⟩ | ⟨_, _, reviewed⟩
    · rw [reviewed]
    · rw [reviewed, advance_lastVersion]
    · rw [reviewed] at rejected
      exact absurd rfl rejected

theorem receiveAll_lastVersion (buffers : List Octets)
    (rejected : ∀ ruling ∈ (state.receiveAll cls buffers).2, ruling.verdict ≠ .ok ()) :
    (state.receiveAll cls buffers).1.lastVersion = state.lastVersion := by
  induction buffers generalizing state with
  | nil => rfl
  | cons buffer others ih =>
      simp only [receiveAll, List.forall_mem_cons] at rejected ⊢
      rw [ih rejected.2, receive_lastVersion rejected.1]

end ClassState

namespace Guide

variable {buffer : Octets} {cls : TableClass} {received : EventSection}

theorem receive_receive (guide : Guide) (buffer : Octets) :
    (guide.receive buffer).1.receive buffer =
      ((guide.receive buffer).1, (guide.receive buffer).2.again) := by
  cases identified : identify buffer with
  | error cause => simp only [receive_of_error identified, Verdict.again]
  | ok found =>
      obtain ⟨cls, received⟩ := found
      have again := (guide.states.get cls).review_review cls received.header received.table
      rw [receive_of_ok identified, receive_of_ok identified]
      simp only [PerClass.get_set_self, PerClass.set_set, again]
      -- Nothing is added the second time, for no verdict is repeated as an acceptance.
      cases ((guide.states.get cls).review cls received.header received.table).2 <;> rfl

theorem receive_lastVersion (identified : identify buffer = .ok (cls, received)) {guide : Guide}
    (accepted : (guide.receive buffer).2 = .ok ()) :
    ((guide.receive buffer).1.states.get cls).lastVersion = some received.header.version := by
  rw [receive_of_ok identified] at accepted ⊢
  simp only [PerClass.get_set_self]
  rcases (guide.states.get cls).review_cases cls received.header received.table with
    ⟨_, reviewed⟩ | ⟨_, _, reviewed⟩ | ⟨_, _, reviewed⟩
  · simp [reviewed] at accepted
  · simp [reviewed] at accepted
  · rw [reviewed]

theorem receive_of_lastVersion (identified : identify buffer = .ok (cls, received)) {guide : Guide}
    (last : (guide.states.get cls).lastVersion = some received.header.version) :
    ((guide.receive buffer).2 = .error .discontinuous ∨
        (guide.receive buffer).2 = .error .duplicateVersion) ∧
      (guide.receive buffer).1.events = guide.events := by
  rw [receive_of_ok identified]
  rcases (guide.states.get cls).review_cases cls received.header received.table with
    ⟨_, reviewed⟩ | ⟨_, _, reviewed⟩ | ⟨_, fresh, _⟩
  · simp only [reviewed, true_or, and_self]
  · simp only [reviewed, or_true, and_self]
  · exact absurd (ClassState.isDuplicate_of_lastVersion last) fresh

theorem receiveAll_lastVersion (guide : Guide) (cls : TableClass) (buffers : List Octets)
    (rejected : ∀ ruling ∈ guide.rulings cls buffers, ruling.verdict ≠ .ok ()) :
    ((guide.receiveAll buffers).1.states.get cls).lastVersion =
      (guide.states.get cls).lastVersion := by
  obtain ⟨state, rulings⟩ := receiveAll_of_class cls guide buffers
  rw [rulings] at rejected
  rw [state]
  exact ClassState.receiveAll_lastVersion _ rejected

/-- A buffer that is received twice leaves the guide as the first time has left it, with the same
verdict except that an accepted section has become a duplicate. And whatever is received after an
accepted section, as long as nothing of its class is accepted, the section is rejected for its
version or its order when it comes again, and no event changes. -/
theorem receive_replay (guide : Guide) (buffer : Octets) :
    let once := guide.receive buffer
    once.1.receive buffer = (once.1, once.2.again) ∧
    ∀ cls, TableClass.ofBuffer? buffer = some cls → once.2 = .ok () →
      ∀ between, (∀ ruling ∈ once.1.rulings cls between, ruling.verdict ≠ .ok ()) →
        let later := (once.1.receiveAll between).1
        ((later.receive buffer).2 = .error .discontinuous ∨
            (later.receive buffer).2 = .error .duplicateVersion) ∧
          (later.receive buffer).1.events = later.events := by
  intro once
  refine ⟨guide.receive_receive buffer, ?_⟩
  intro cls own accepted between rejected later
  cases identified : identify buffer with
  | error cause =>
      have unidentified : once = (guide, .error cause) := receive_of_error identified
      rw [unidentified] at accepted
      cases accepted
  | ok found =>
      obtain ⟨owner, received⟩ := found
      obtain rfl : owner = cls :=
        Option.some.inj ((identify_eq_ok_iff.mp identified).1.symm.trans own)
      apply receive_of_lastVersion identified
      rw [receiveAll_lastVersion once.1 owner between rejected]
      exact receive_lastVersion identified accepted

/-- Between the two times a section of another class is accepted, and a duplicate of the own class
moves its last table on; so the section comes too late with an earlier one. -/
theorem receive_replay_overtaken :
    let guide := ((empty .unlimited).receive (bareSection 0x60 3 0x60)).1
    let buffer := bareSection 0x50 31 0x51
    let once := guide.receive buffer
    let between := [bareSection 0x4E 9 0x4E, bareSection 0x50 0 0x53, []]
    let later := (once.1.receiveAll between).1
    once.2 = .ok () ∧
      (once.1.receive buffer).2 = .error .duplicateVersion ∧
      (∀ ruling ∈ once.1.rulings .actualSchedule between, ruling.verdict ≠ .ok ()) ∧
      (once.1.receiveAll between).2 =
        [.ok (), .error .duplicateVersion, .error .truncated] ∧
      (later.receive buffer).2 = .error .discontinuous ∧
      (later.receive buffer).1.events = later.events := by
  intro guide buffer once between later
  obtain ⟨twice, afterwards⟩ := guide.receive_replay buffer
  have accepted : once.2 = .ok () := rfl
  have ruled : (once.1.rulings .actualSchedule between).map Ruling.verdict =
      [.error .duplicateVersion] := rfl
  have rejected : ∀ ruling ∈ once.1.rulings .actualSchedule between, ruling.verdict ≠ .ok () := by
    intro ruling member
    have verdict : ruling.verdict ∈ (once.1.rulings .actualSchedule between).map Ruling.verdict :=
      List.mem_map_of_mem member
    rw [ruled, List.mem_singleton] at verdict
    simp [verdict]
  obtain ⟨_, kept⟩ := afterwards .actualSchedule rfl accepted between rejected
  refine ⟨accepted, ?_, rejected, rfl, rfl, kept⟩
  rw [twice]
  exact congrArg Verdict.again accepted

end Guide

end ProgrammeGuide
