import ProgrammeGuide.Proofs.Faults
import ProgrammeGuide.Proofs.Succession

/-!
Whether the last table of a class belongs to the class. Present/following tables keep to their own.
A schedule class takes any last table that does not go back, and the greatest that a section in
order has named since the last reset may lie beyond the class. As long as it does not, the class is
open to a section with a last table of its own; as soon as it does, to none until the next reset.
-/

namespace ProgrammeGuide

namespace TableClass

def Owns (cls : TableClass) (tableId : UInt8) : Prop := ofTableId? tableId = some cls

/-- The greatest table id of the class. -/
def lastOwnId : TableClass → UInt8
  | actualPresentFollowing => 0x4E
  | otherPresentFollowing => 0x4F
  | actualSchedule => 0x5F
  | otherSchedule => 0x6F

theorem owns_iff {cls : TableClass} {tableId : UInt8} :
    cls.Owns tableId ↔ cls.firstTableId ≤ tableId ∧ tableId ≤ cls.lastOwnId := by
  unfold Owns ofTableId?
  cases cls <;> simp only [firstTableId, lastOwnId] <;> grind

theorem owns_firstTableId (cls : TableClass) : cls.Owns cls.firstTableId :=
  ofTableId?_firstTableId cls

end TableClass

namespace ClassState

variable {cls : TableClass} {state : ClassState} {header : SectionHeader} {table : EventTableHeader}

/-- The last table of a class together with all tables that sections in order have named. -/
structure KeepsNamed (cls : TableClass) (state : ClassState) (past : List Ruling) : Prop where
  greatest : IsGreatest {tableId | tableId ∈ Ruling.tables cls past} state.lastTableId
  least : ∀ tableId ∈ Ruling.tables cls past, cls.firstTableId ≤ tableId
  own : ¬cls.isSchedule → state.lastTableId = cls.firstTableId

theorem keepsNamed_initial (cls : TableClass) : KeepsNamed cls (.initial cls) [] := by
  constructor
  · exact (keepsLatestTable_initial cls).greatest
  · intro tableId member
    rw [List.mem_singleton.mp member]
    exact UInt8.le_refl _
  · intro other
    rfl

theorem advance_lastTableId (inOrder : state.keepsOrder cls header table)
    (own : ¬cls.isSchedule → state.lastTableId = cls.firstTableId) :
    (state.advance cls table).lastTableId = table.lastTableId := by
  by_cases schedule : cls.isSchedule
  · exact advance_lastTableId_of_schedule schedule
  · rw [advance_of_presentFollowing schedule, own schedule,
      ((keepsOrder_iff_of_presentFollowing schedule).mp inOrder).1]

theorem KeepsNamed.ordered {past : List Ruling} {ruling : Ruling} {received : EventSection}
    {later : ClassState} (kept : KeepsNamed cls state past)
    (found : ruling.ordered? = some received)
    (inOrder : state.keepsOrder cls received.header received.table)
    (moved : later.lastTableId = (state.advance cls received.table).lastTableId) :
    KeepsNamed cls later (past ++ [ruling]) := by
  have named := advance_lastTableId inOrder kept.own
  have rises := advance_le inOrder
  rw [named] at moved rises
  have first := kept.least _ kept.greatest.1
  constructor
  · rw [Ruling.tables_concat_of_some found, moved]
    exact isGreatest_concat kept.greatest rises
  · rw [Ruling.tables_concat_of_some found]
    intro tableId member
    rcases List.mem_append.mp member with before | last
    · exact kept.least tableId before
    · rw [List.mem_singleton.mp last]
      exact UInt8.le_trans first rises
  · intro other
    rw [moved, ← named, advance_of_presentFollowing other, kept.own other]

theorem KeepsNamed.receive {past : List Ruling} (kept : KeepsNamed cls state past)
    (buffer : Octets) :
    KeepsNamed cls (state.receive cls buffer).1
      (past ++ [⟨buffer, (state.receive cls buffer).2⟩]) := by
  rcases state.receive_cases cls buffer with ⟨_, unordered, same⟩ |
    ⟨received, _, ordered, inOrder, moved⟩ | ⟨received, _, ordered, inOrder, _, moved⟩
  · have tables : Ruling.tables cls (past ++ [_]) = Ruling.tables cls past :=
      Ruling.tables_concat_of_none unordered
    rw [same]
    exact ⟨tables ▸ kept.greatest, tables ▸ kept.least, kept.own⟩
  · exact kept.ordered ordered inOrder (by rw [moved])
  · exact kept.ordered ordered inOrder (by rw [moved])

theorem KeepsNamed.owns_of_le {past : List Ruling} (kept : KeepsNamed cls state past)
    {tableId : UInt8} (below : state.lastTableId ≤ tableId) (owns : cls.Owns tableId) :
    cls.Owns state.lastTableId := by
  have upper := (TableClass.owns_iff.mp owns).2
  exact TableClass.owns_iff.mpr ⟨kept.least _ kept.greatest.1, UInt8.le_trans below upper⟩

theorem KeepsNamed.owns_iff {past : List Ruling} (kept : KeepsNamed cls state past) :
    cls.Owns state.lastTableId ↔ ∀ tableId ∈ Ruling.tables cls past, cls.Owns tableId := by
  constructor
  · intro owns tableId member
    have upper := (TableClass.owns_iff.mp owns).2
    exact TableClass.owns_iff.mpr
      ⟨kept.least tableId member, UInt8.le_trans (kept.greatest.2 member) upper⟩
  · intro all
    exact all _ kept.greatest.1

theorem exists_fresh_version (state : ClassState) :
    ∃ version : UInt8, version.toNat < 32 ∧ ¬state.isDuplicate version := by
  cases last : state.lastVersion with
  | none =>
      refine ⟨0, by decide, ?_⟩
      simp [isDuplicate_iff, last]
  | some version =>
      -- Two versions on is neither the same one nor the next.
      have size : (UInt8.ofNat ((version.toNat + 2) % 32)).toNat = (version.toNat + 2) % 32 := by
        rw [UInt8.toNat_ofNat']
        omega
      refine ⟨UInt8.ofNat ((version.toNat + 2) % 32), by omega, ?_⟩
      rw [isDuplicate_iff, last]
      rintro ⟨known, ⟨⟩, same | next⟩
      · rw [← UInt8.toNat_inj, size] at same
        omega
      · rw [size] at next
        omega

theorem review_of_fresh (inOrder : state.keepsOrder cls header table)
    (fresh : ¬state.isDuplicate header.version) : (state.review cls header table).2 = .ok () := by
  rcases state.review_cases cls header table with ⟨unordered, _⟩ | ⟨_, duplicate, _⟩ |
    ⟨_, _, outcome⟩
  · exact absurd inOrder unordered
  · exact absurd duplicate fresh
  · rw [outcome]

end ClassState

namespace Call

def follow (buffers : List Octets) : Call → List Octets
  | .receive buffer => buffers ++ [buffer]
  | .reset => []

def sinceReset (calls : List Call) : List Octets := calls.foldl follow []

end Call

/-- A section of the class without events, with the given version and last table. -/
def emptySection (cls : TableClass) (version lastTableId : UInt8)
    (fits : version.toNat < 32) : SentSection where
  header := ⟨cls.firstTableId, true, 15, 0, version, true, 0, 0⟩
  spare := fun _ => 0
  table := ⟨0, 0, 0, lastTableId⟩
  events := []
  checksum := 0
  fits := ⟨(by decide : (15 : UInt16).toNat < 4096), fits⟩

namespace Guide

variable {cls : TableClass}

theorem receiveAll_limits (guide : Guide) (buffers : List Octets) :
    (guide.receiveAll buffers).1.limits = guide.limits := by
  induction buffers generalizing guide with
  | nil => rfl
  | cons buffer others ih => exact (ih (guide.receive buffer).1).trans (guide.receive_limits buffer)

theorem run_eq_receiveAll (limits : Limits) (calls : List Call) :
    (empty limits).run calls = ((empty limits).receiveAll (Call.sinceReset calls)).1 := by
  have along : ∀ buffers, ((empty limits).receiveAll buffers).1.run calls =
      ((empty limits).receiveAll (calls.foldl Call.follow buffers)).1 := by
    induction calls with
    | nil => exact fun buffers => rfl
    | cons call later ih =>
        intro buffers
        cases call with
        | receive buffer =>
            have step := receiveAll_append (empty limits) buffers [buffer]
            rw [List.foldl_cons, Call.follow, ← ih, step]
            rfl
        | reset =>
            have fresh : ((empty limits).receiveAll buffers).1.reset = empty limits := by
              rw [reset, receiveAll_limits]
              rfl
            rw [List.foldl_cons, Call.follow, ← ih, run, List.foldl_cons, apply, fresh]
            rfl
  exact along []

theorem run_keepsNamed (limits : Limits) (calls : List Call) (cls : TableClass) :
    ClassState.KeepsNamed cls (((empty limits).run calls).states.get cls)
      ((empty limits).rulings cls (Call.sinceReset calls)) := by
  rw [run_eq_receiveAll]
  exact rulings_induction (fun _ _ buffer kept => kept.receive buffer)
    (ClassState.keepsNamed_initial cls) limits (Call.sinceReset calls)

theorem exists_accepted {guide : Guide} {past : List Ruling}
    (kept : ClassState.KeepsNamed cls (guide.states.get cls) past)
    (owns : cls.Owns (guide.states.get cls).lastTableId) :
    ∃ sent : SentSection, cls.Owns sent.header.tableId ∧ cls.Owns sent.table.lastTableId ∧
      sent.octets.length = 3 + sent.header.length.toNat ∧
      (guide.receive sent.octets).2 = .ok () := by
  obtain ⟨version, narrow, fresh⟩ := (guide.states.get cls).exists_fresh_version
  let sent := emptySection cls version (guide.states.get cls).lastTableId narrow
  refine ⟨sent, cls.owns_firstTableId, owns, rfl, ?_⟩
  have identified : identify sent.octets = .ok (cls, sent.received) := by
    have known : TableClass.ofTableId? sent.header.tableId = some cls := cls.owns_firstTableId
    rw [identify_sent, known]
  have inOrder : (guide.states.get cls).keepsOrder cls sent.header sent.table := by
    by_cases schedule : cls.isSchedule
    · exact (ClassState.keepsOrder_iff_of_schedule schedule).mpr ⟨rfl, UInt8.le_refl _⟩
    · exact (ClassState.keepsOrder_iff_of_presentFollowing schedule).mpr
        ⟨kept.own schedule, rfl⟩
  rw [receive_of_ok identified]
  exact ClassState.review_of_fresh inOrder fresh

theorem receive_of_disowned {guide : Guide} {past : List Ruling} {buffer : Octets}
    {received : EventSection} (kept : ClassState.KeepsNamed cls (guide.states.get cls) past)
    (disowned : ¬cls.Owns (guide.states.get cls).lastTableId)
    (identified : identify buffer = .ok (cls, received))
    (owns : cls.Owns received.table.lastTableId) :
    (guide.receive buffer).2 = .error .discontinuous := by
  rw [receive_eq_discontinuous_iff]
  refine ⟨cls, received, identified, ?_⟩
  intro inOrder
  -- A section in order does not go back, and so its own last table would have to be beyond too.
  have rises := ClassState.advance_le inOrder
  rw [ClassState.advance_lastTableId inOrder kept.own] at rises
  exact disowned (kept.owns_of_le rises owns)

/-- The last table never goes back, and so a class that is closed stays closed. -/
theorem disowned_receiveAll {guide : Guide} {past : List Ruling}
    (kept : ClassState.KeepsNamed cls (guide.states.get cls) past)
    (disowned : ¬cls.Owns (guide.states.get cls).lastTableId) (later : List Octets) :
    ¬cls.Owns ((guide.receiveAll later).1.states.get cls).lastTableId :=
  fun owns => disowned (kept.owns_of_le (lastTableId_le_receiveAll cls guide later) owns)

/-- The last table of a class is the greatest that a section in order has named since the last
reset, and it belongs to the class exactly if all of these do, as they always do for a
present/following class. While it belongs to the class, some section of the class with a last table
of the class would be accepted. When it does not, every such section is out of order, and so it
stays whatever is received next. -/
theorem run_lastTableId (limits : Limits) (calls : List Call) (cls : TableClass) :
    let guide := (empty limits).run calls
    let reached := (guide.states.get cls).lastTableId
    let named := Ruling.tables cls ((empty limits).rulings cls (Call.sinceReset calls))
    IsGreatest {tableId | tableId ∈ named} reached ∧
    (cls.isSchedule ∨ cls.Owns reached) ∧
    (cls.Owns reached ↔ ∀ tableId ∈ named, cls.Owns tableId) ∧
    (cls.Owns reached → ∃ sent : SentSection, cls.Owns sent.header.tableId ∧
      cls.Owns sent.table.lastTableId ∧ sent.octets.length = 3 + sent.header.length.toNat ∧
      (guide.receive sent.octets).2 = .ok ()) ∧
    (¬cls.Owns reached → ∀ buffer received, identify buffer = .ok (cls, received) →
      cls.Owns received.table.lastTableId →
      (guide.receive buffer).2 = .error .discontinuous) ∧
    (¬cls.Owns reached → ∀ later,
      ¬cls.Owns ((guide.receiveAll later).1.states.get cls).lastTableId) := by
  intro guide reached named
  have kept := run_keepsNamed limits calls cls
  refine ⟨kept.greatest, ?_, kept.owns_iff, exists_accepted kept, ?_, ?_⟩
  · by_cases schedule : cls.isSchedule
    · exact Or.inl schedule
    · right
      rw [show reached = cls.firstTableId from kept.own schedule]
      exact cls.owns_firstTableId
  · intro disowned buffer received identified owns
    exact receive_of_disowned kept disowned identified owns
  · intro disowned later
    exact disowned_receiveAll kept disowned later

/-- One section with a last table beyond its class is enough: the class is closed to all sections
that end within it. -/
theorem lastTableId_not_always_own :
    ¬(∀ (limits : Limits) (calls : List Call) (cls : TableClass),
      cls.Owns (((empty limits).run calls).states.get cls).lastTableId) ∧
    ¬∀ (limits : Limits) (calls : List Call) (cls : TableClass), ∃ sent : SentSection,
      cls.Owns sent.header.tableId ∧ cls.Owns sent.table.lastTableId ∧
      (((empty limits).run calls).receive sent.octets).2 = .ok () := by
  let calls := [Call.receive (bareSection 0x50 0 0xFF)]
  have kept := run_keepsNamed .unlimited calls .actualSchedule
  have disowned : ¬TableClass.actualSchedule.Owns
      (((empty .unlimited).run calls).states.get .actualSchedule).lastTableId := by
    unfold TableClass.Owns
    decide +kernel
  constructor
  · intro always
    exact disowned (always .unlimited calls .actualSchedule)
  · intro always
    obtain ⟨sent, known, owns, accepted⟩ := always .unlimited calls .actualSchedule
    have identified : identify sent.octets = .ok (.actualSchedule, sent.received) := by
      rw [identify_sent, show TableClass.ofTableId? sent.header.tableId = _ from known]
    have refused := receive_of_disowned kept disowned identified owns
    cases refused.symm.trans accepted

end Guide

end ProgrammeGuide
