import Mathlib.Data.List.Chain
import Mathlib.Order.Bounds.Defs
import ProgrammeGuide.Proofs.ClassRuns

/-!
How the versions and the last tables of a class follow one another. What a class remembers is
the version that it accepted last and, for schedule tables, the latest table that any section in
order has named; present/following tables name no table but their own.
-/

namespace ProgrammeGuide

theorem isGreatest_concat {values : List UInt8} {greatest value : UInt8}
    (known : IsGreatest {other | other ∈ values} greatest) (rises : greatest ≤ value) :
    IsGreatest {other | other ∈ values ++ [value]} value := by
  constructor
  · exact List.mem_append_right values (List.mem_singleton_self value)
  · intro other member
    rcases List.mem_append.mp member with before | last
    · exact UInt8.le_trans (known.2 before) rises
    · rw [List.mem_singleton.mp last]
      exact UInt8.le_refl value

namespace EventSection

/-- The version is not the earlier one again and not the next after it modulo 32. -/
def Supersedes (later earlier : EventSection) : Prop :=
  later.header.version ≠ earlier.header.version ∧
    later.header.version.toNat ≠ (earlier.header.version.toNat + 1) % 32

end EventSection

namespace Ruling

def accepted? (ruling : Ruling) : Option EventSection :=
  match ruling.verdict with
  | .ok _ => (EventSection.read ruling.buffer).toOption
  | .error _ => none

/-- A duplicate is in order too, although it is not accepted. -/
def ordered? (ruling : Ruling) : Option EventSection :=
  match ruling.verdict with
  | .ok _ | .error .duplicateVersion => (EventSection.read ruling.buffer).toOption
  | .error _ => none

def accepted (rulings : List Ruling) : List EventSection := rulings.filterMap accepted?

def ordered (rulings : List Ruling) : List EventSection := rulings.filterMap ordered?

/-- The first table of the class, then every last table that a section in order has named. -/
def tables (cls : TableClass) (rulings : List Ruling) : List UInt8 :=
  cls.firstTableId :: (ordered rulings).map fun received => received.table.lastTableId

section Concat

variable {cls : TableClass} {past : List Ruling} {ruling : Ruling} {received : EventSection}

theorem accepted_concat_of_none (rejected : ruling.accepted? = none) :
    accepted (past ++ [ruling]) = accepted past := by
  rw [accepted, List.filterMap_append, List.filterMap_cons_none rejected, List.filterMap_nil,
    List.append_nil, accepted]

theorem accepted_concat_of_some (found : ruling.accepted? = some received) :
    accepted (past ++ [ruling]) = accepted past ++ [received] := by
  rw [accepted, List.filterMap_append, List.filterMap_cons_some found, List.filterMap_nil, accepted]

theorem tables_concat_of_none (unordered : ruling.ordered? = none) :
    tables cls (past ++ [ruling]) = tables cls past := by
  rw [tables, ordered, List.filterMap_append, List.filterMap_cons_none unordered,
    List.filterMap_nil, List.append_nil, tables, ordered]

theorem tables_concat_of_some (found : ruling.ordered? = some received) :
    tables cls (past ++ [ruling]) = tables cls past ++ [received.table.lastTableId] := by
  rw [tables, ordered, List.filterMap_append, List.filterMap_cons_some found, List.filterMap_nil,
    List.map_append, tables, ordered]
  rfl

end Concat

theorem accepted_subset_ordered (rulings : List Ruling) : accepted rulings ⊆ ordered rulings := by
  intro received member
  obtain ⟨ruling, belongs, found⟩ := List.mem_filterMap.mp member
  refine List.mem_filterMap.mpr ⟨ruling, belongs, ?_⟩
  unfold accepted? at found
  split at found
  · rename_i verdict
    rw [← found, ordered?, verdict]
  · cases found

end Ruling

namespace ClassState

variable {cls : TableClass} {state : ClassState} {header : SectionHeader} {table : EventTableHeader}

theorem isDuplicate_iff (version : UInt8) :
    state.isDuplicate version ↔ ∃ last, state.lastVersion = some last ∧
      (version = last ∨ version.toNat = (last.toNat + 1) % 32) := by
  unfold isDuplicate
  cases state.lastVersion with
  | none => simp
  | some last =>
      have next : version = (last + 1) % 32 ↔ version.toNat = (last.toNat + 1) % 32 := by
        rw [← UInt8.toNat_inj, UInt8.toNat_mod, UInt8.toNat_add]
        have bound := last.toNat_lt
        simp only [UInt8.reduceToNat]
        omega
      simp [next]

theorem advance_le (inOrder : state.keepsOrder cls header table) :
    state.lastTableId ≤ (state.advance cls table).lastTableId := by
  by_cases schedule : cls.isSchedule
  · rw [advance_lastTableId_of_schedule schedule]
    exact ((keepsOrder_iff_of_schedule schedule).mp inOrder).2
  · rw [advance_of_presentFollowing schedule]
    exact UInt8.le_refl _

theorem receive_cases (cls : TableClass) (state : ClassState) (buffer : Octets) :
    let ruling : Ruling := ⟨buffer, (state.receive cls buffer).2⟩
    (ruling.accepted? = none ∧ ruling.ordered? = none ∧ (state.receive cls buffer).1 = state) ∨
    (∃ received, ruling.accepted? = none ∧ ruling.ordered? = some received ∧
      state.keepsOrder cls received.header received.table ∧
      (state.receive cls buffer).1 = state.advance cls received.table) ∨
    (∃ received, ruling.accepted? = some received ∧ ruling.ordered? = some received ∧
      state.keepsOrder cls received.header received.table ∧
      ¬state.isDuplicate received.header.version ∧
      (state.receive cls buffer).1 =
        { state.advance cls received.table with lastVersion := some received.header.version }) := by
  cases ran : EventSection.read buffer with
  | error cause =>
      left
      simp only [receive, ran, Ruling.accepted?, Ruling.ordered?, and_self]
  | ok received =>
      have reviewed : state.receive cls buffer =
          state.review cls received.header received.table := by
        simp only [receive, ran]
      rw [reviewed]
      rcases state.review_cases cls received.header received.table with
        ⟨_, outcome⟩ | ⟨inOrder, _, outcome⟩ | ⟨inOrder, fresh, outcome⟩
      · rw [outcome]
        exact Or.inl ⟨rfl, rfl, rfl⟩
      · rw [outcome]
        refine Or.inr (Or.inl ⟨received, rfl, ?_, inOrder, rfl⟩)
        simp only [Ruling.ordered?, ran, Except.toOption]
      · rw [outcome]
        refine Or.inr (Or.inr ⟨received, ?_, ?_, inOrder, fresh, rfl⟩)
        · simp only [Ruling.accepted?, ran, Except.toOption]
        · simp only [Ruling.ordered?, ran, Except.toOption]

theorem lastTableId_le_receive (cls : TableClass) (state : ClassState) (buffer : Octets) :
    state.lastTableId ≤ (state.receive cls buffer).1.lastTableId := by
  rcases state.receive_cases cls buffer with ⟨_, _, same⟩ | ⟨received, _, _, inOrder, moved⟩ |
    ⟨received, _, _, inOrder, _, moved⟩
  · rw [same]
    exact UInt8.le_refl _
  · rw [moved]
    exact advance_le inOrder
  · rw [moved]
    exact advance_le inOrder

theorem lastTableId_le_receiveAll (cls : TableClass) (state : ClassState) (buffers : List Octets) :
    state.lastTableId ≤ (state.receiveAll cls buffers).1.lastTableId := by
  induction buffers generalizing state with
  | nil => exact UInt8.le_refl _
  | cons buffer others ih =>
      exact UInt8.le_trans (lastTableId_le_receive cls state buffer) (ih _)

theorem receiveAll_induction {motive : ClassState → List Ruling → Prop}
    (step : ∀ state past buffer, motive state past →
      motive (state.receive cls buffer).1 (past ++ [⟨buffer, (state.receive cls buffer).2⟩]))
    {past : List Ruling} (start : motive state past) (buffers : List Octets) :
    motive (state.receiveAll cls buffers).1 (past ++ (state.receiveAll cls buffers).2) := by
  induction buffers generalizing state past with
  | nil => simpa only [receiveAll, List.append_nil] using start
  | cons buffer others ih =>
      have next := ih (step state past buffer start)
      rw [List.append_assoc, List.singleton_append] at next
      exact next

variable {later : ClassState} {past : List Ruling} {ruling : Ruling}

structure KeepsVersion (state : ClassState) (past : List Ruling) : Prop where
  last : state.lastVersion =
    (Ruling.accepted past).getLast?.map fun received => received.header.version
  succession : (Ruling.accepted past).IsChain fun earlier later => later.Supersedes earlier

theorem KeepsVersion.of_rejected (kept : KeepsVersion state past)
    (rejected : ruling.accepted? = none) (version : later.lastVersion = state.lastVersion) :
    KeepsVersion later (past ++ [ruling]) := by
  constructor
  · rw [version, Ruling.accepted_concat_of_none rejected, kept.last]
  · rw [Ruling.accepted_concat_of_none rejected]
    exact kept.succession

theorem KeepsVersion.receive (kept : KeepsVersion state past) (cls : TableClass)
    (buffer : Octets) :
    KeepsVersion (state.receive cls buffer).1
      (past ++ [⟨buffer, (state.receive cls buffer).2⟩]) := by
  rcases state.receive_cases cls buffer with ⟨rejected, _, same⟩ |
    ⟨received, rejected, _, _, moved⟩ | ⟨received, accepted, _, _, fresh, moved⟩
  · exact kept.of_rejected rejected (by rw [same])
  · exact kept.of_rejected rejected (by rw [moved, advance_lastVersion])
  · constructor
    · rw [Ruling.accepted_concat_of_some accepted, moved, List.getLast?_concat, Option.map_some]
    · rw [Ruling.accepted_concat_of_some accepted]
      refine kept.succession.append (List.isChain_singleton _) ?_
      intro earlier last later single
      obtain rfl : received = later := by simpa using single
      -- The section before it is the one whose version the class still had.
      have remembered : state.lastVersion = some earlier.header.version := by
        rw [kept.last, Option.mem_def.mp last, Option.map_some]
      rw [isDuplicate_iff, remembered] at fresh
      constructor
      · intro same
        exact fresh ⟨_, rfl, Or.inl same⟩
      · intro next
        exact fresh ⟨_, rfl, Or.inr next⟩

structure KeepsLatestTable (cls : TableClass) (state : ClassState) (past : List Ruling) : Prop where
  greatest : IsGreatest {tableId | tableId ∈ Ruling.tables cls past} state.lastTableId
  segments : ∀ received ∈ Ruling.accepted past,
    received.table.segmentLastNumber = received.header.number
  rising : (Ruling.accepted past).Pairwise fun earlier later =>
    earlier.table.lastTableId ≤ later.table.lastTableId

theorem keepsLatestTable_initial (cls : TableClass) : KeepsLatestTable cls (.initial cls) [] := by
  constructor
  · constructor
    · exact List.mem_singleton_self cls.firstTableId
    · intro tableId member
      rw [List.mem_singleton.mp member]
      exact UInt8.le_refl _
  · intro received member
    cases member
  · exact List.Pairwise.nil

theorem KeepsLatestTable.bounds (kept : KeepsLatestTable cls state past) {received : EventSection}
    (accepted : received ∈ Ruling.accepted past) :
    received.table.lastTableId ≤ state.lastTableId := by
  have inOrder := Ruling.accepted_subset_ordered past accepted
  exact kept.greatest.2 (List.mem_cons_of_mem _ (List.mem_map_of_mem inOrder))

theorem KeepsLatestTable.of_rejected (kept : KeepsLatestTable cls state past)
    (rejected : ruling.accepted? = none)
    (greatest : IsGreatest {tableId | tableId ∈ Ruling.tables cls (past ++ [ruling])}
      later.lastTableId) :
    KeepsLatestTable cls later (past ++ [ruling]) := by
  constructor
  · exact greatest
  · rw [Ruling.accepted_concat_of_none rejected]
    exact kept.segments
  · rw [Ruling.accepted_concat_of_none rejected]
    exact kept.rising

theorem KeepsLatestTable.receive (schedule : cls.isSchedule)
    (kept : KeepsLatestTable cls state past) (buffer : Octets) :
    KeepsLatestTable cls (state.receive cls buffer).1
      (past ++ [⟨buffer, (state.receive cls buffer).2⟩]) := by
  rcases state.receive_cases cls buffer with ⟨rejected, unordered, same⟩ |
    ⟨received, rejected, ordered, inOrder, moved⟩ |
    ⟨received, accepted, ordered, inOrder, _, moved⟩
  · apply kept.of_rejected rejected
    rw [same, Ruling.tables_concat_of_none unordered]
    exact kept.greatest
  · -- The last table is overwritten, but by no earlier one: the order check has seen to that.
    apply kept.of_rejected rejected
    have rises := ((keepsOrder_iff_of_schedule schedule).mp inOrder).2
    rw [moved, advance_lastTableId_of_schedule schedule, Ruling.tables_concat_of_some ordered]
    exact isGreatest_concat kept.greatest rises
  · obtain ⟨ends, rises⟩ := (keepsOrder_iff_of_schedule schedule).mp inOrder
    constructor
    · rw [moved, Ruling.tables_concat_of_some ordered]
      simp only [advance_lastTableId_of_schedule schedule]
      exact isGreatest_concat kept.greatest rises
    · rw [Ruling.accepted_concat_of_some accepted]
      intro other member
      rcases List.mem_append.mp member with before | last
      · exact kept.segments other before
      · rw [List.mem_singleton.mp last]
        exact ends
    · rw [Ruling.accepted_concat_of_some accepted]
      refine List.pairwise_append.mpr ⟨kept.rising, List.pairwise_singleton _ _, ?_⟩
      intro earlier before later last
      rw [List.mem_singleton.mp last]
      exact UInt8.le_trans (kept.bounds before) rises

structure KeepsOwnTable (cls : TableClass) (state : ClassState) (past : List Ruling) : Prop where
  own : state.lastTableId = cls.firstTableId
  headers : ∀ received ∈ Ruling.accepted past, received.table.lastTableId = cls.firstTableId ∧
    received.header.lastNumber = received.table.segmentLastNumber

theorem KeepsOwnTable.of_rejected (kept : KeepsOwnTable cls state past)
    (rejected : ruling.accepted? = none) (own : later.lastTableId = state.lastTableId) :
    KeepsOwnTable cls later (past ++ [ruling]) := by
  constructor
  · rw [own, kept.own]
  · rw [Ruling.accepted_concat_of_none rejected]
    exact kept.headers

theorem KeepsOwnTable.receive (other : ¬cls.isSchedule) (kept : KeepsOwnTable cls state past)
    (buffer : Octets) :
    KeepsOwnTable cls (state.receive cls buffer).1
      (past ++ [⟨buffer, (state.receive cls buffer).2⟩]) := by
  rcases state.receive_cases cls buffer with ⟨rejected, _, same⟩ |
    ⟨received, rejected, _, _, moved⟩ | ⟨received, accepted, _, inOrder, _, moved⟩
  · exact kept.of_rejected rejected (by rw [same])
  · exact kept.of_rejected rejected (by rw [moved, advance_of_presentFollowing other])
  · constructor
    · rw [moved, advance_of_presentFollowing other, kept.own]
    · rw [Ruling.accepted_concat_of_some accepted]
      intro known member
      rcases List.mem_append.mp member with before | last
      · exact kept.headers known before
      · rw [List.mem_singleton.mp last]
        exact (keepsOrder_iff_of_presentFollowing other).mp inOrder

end ClassState

namespace Guide

theorem receiveAll_append (guide : Guide) (buffers more : List Octets) :
    (guide.receiveAll (buffers ++ more)).1 = ((guide.receiveAll buffers).1.receiveAll more).1 := by
  induction buffers generalizing guide with
  | nil => rfl
  | cons buffer others ih => exact ih (guide.receive buffer).1

/-- What holds of a class at first and is kept up by every buffer of the class holds after every run
of a new guide. -/
theorem rulings_induction {cls : TableClass} {motive : ClassState → List Ruling → Prop}
    (step : ∀ state past buffer, motive state past →
      motive (state.receive cls buffer).1 (past ++ [⟨buffer, (state.receive cls buffer).2⟩]))
    (start : motive (.initial cls) []) (limits : Limits) (buffers : List Octets) :
    motive (((empty limits).receiveAll buffers).1.states.get cls)
      ((empty limits).rulings cls buffers) := by
  have initial : (empty limits).states.get cls = .initial cls := PerClass.get_ofFunction _ cls
  obtain ⟨state, rulings⟩ := receiveAll_of_class cls (empty limits) buffers
  rw [state, rulings, initial]
  exact ClassState.receiveAll_induction step start _

theorem lastTableId_le_receiveAll (cls : TableClass) (guide : Guide) (buffers : List Octets) :
    (guide.states.get cls).lastTableId ≤
      ((guide.receiveAll buffers).1.states.get cls).lastTableId := by
  rw [(receiveAll_of_class cls guide buffers).1]
  exact ClassState.lastTableId_le_receiveAll cls _ _

/-- Without a reset, each class follows its own law. It remembers the version that it accepted
last, and accepts neither that version next nor the one after it. A schedule class remembers the
latest last table of its sections that were in order, which never goes back; a present/following
class remembers its own table and accepts no section that names another. -/
theorem receiveAll_succession (limits : Limits) (buffers : List Octets) (cls : TableClass) :
    let state := ((empty limits).receiveAll buffers).1.states.get cls
    let rulings := (empty limits).rulings cls buffers
    state.lastVersion =
        (Ruling.accepted rulings).getLast?.map (fun received => received.header.version) ∧
    (Ruling.accepted rulings).IsChain (fun earlier later => later.Supersedes earlier) ∧
    (cls.isSchedule →
      IsGreatest {tableId | tableId ∈ Ruling.tables cls rulings} state.lastTableId ∧
      (∀ more, state.lastTableId ≤
        (((empty limits).receiveAll (buffers ++ more)).1.states.get cls).lastTableId) ∧
      (∀ received ∈ Ruling.accepted rulings,
        received.table.segmentLastNumber = received.header.number) ∧
      (Ruling.accepted rulings).Pairwise fun earlier later =>
        earlier.table.lastTableId ≤ later.table.lastTableId) ∧
    (¬cls.isSchedule →
      state.lastTableId = cls.firstTableId ∧
      ∀ received ∈ Ruling.accepted rulings, received.table.lastTableId = cls.firstTableId ∧
        received.header.lastNumber = received.table.segmentLastNumber) := by
  intro state rulings
  have versions : ClassState.KeepsVersion state rulings :=
    rulings_induction (fun _ _ buffer kept => kept.receive cls buffer)
      ⟨rfl, List.isChain_nil⟩ limits buffers
  refine ⟨versions.last, versions.succession, ?_, ?_⟩
  · intro schedule
    have tables : ClassState.KeepsLatestTable cls state rulings :=
      rulings_induction (fun _ _ buffer kept => kept.receive schedule buffer)
        (ClassState.keepsLatestTable_initial cls) limits buffers
    refine ⟨tables.greatest, ?_, tables.segments, tables.rising⟩
    intro more
    rw [receiveAll_append]
    exact lastTableId_le_receiveAll cls _ more
  · intro other
    have tables : ClassState.KeepsOwnTable cls state rulings :=
      rulings_induction (fun _ _ buffer kept => kept.receive other buffer)
        ⟨rfl, by simp [Ruling.accepted]⟩ limits buffers
    exact ⟨tables.own, tables.headers⟩

/-- Version 31 is followed by 0, which is refused but moves the last table on, and so 5 comes too
late with an earlier one. -/
theorem receiveAll_succession_wrapped :
    let buffers := [bareSection 0x50 31 0x51, bareSection 0x50 0 0x53, bareSection 0x50 5 0x52,
      bareSection 0x51 7 0x54]
    let state := ((empty .unlimited).receiveAll buffers).1.states.get .actualSchedule
    let rulings := (empty .unlimited).rulings .actualSchedule buffers
    (Ruling.accepted rulings).map (fun received => received.header.version) = [31, 7] ∧
      Ruling.tables .actualSchedule rulings = [0x50, 0x51, 0x53, 0x54] ∧
      state.lastVersion = some 7 ∧ state.lastTableId = 0x54 := by
  intro buffers state rulings
  have versions : (Ruling.accepted rulings).map (fun received => received.header.version) =
      [31, 7] := by decide +kernel
  have tables : Ruling.tables .actualSchedule rulings = [0x50, 0x51, 0x53, 0x54] := by
    decide +kernel
  obtain ⟨last, _, schedule, _⟩ := receiveAll_succession .unlimited buffers .actualSchedule
  refine ⟨versions, tables, ?_, ?_⟩
  · rw [last, ← List.getLast?_map]
    exact congrArg List.getLast? versions
  · have named : state.lastTableId ∈ Ruling.tables .actualSchedule rulings := (schedule rfl).1.1
    have latest : 0x54 ∈ Ruling.tables .actualSchedule rulings := by
      rw [tables]
      decide
    have least : 0x54 ≤ state.lastTableId := (schedule rfl).1.2 latest
    rw [tables] at named
    grind

end Guide

end ProgrammeGuide
