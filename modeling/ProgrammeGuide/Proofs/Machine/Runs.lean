import ProgrammeGuide.Proofs.Machine.Sections
import ProgrammeGuide.Proofs.SectionLayout
import ProgrammeGuide.Proofs.Verdicts

/-!
Runs of a guide with numbers of fixed widths and octets read by position. The versions that the
guide remembers are those of sections, which have five bits, so the next one still is an octet; all
else in a section was settled when it was read. Every call therefore has a result, after any calls
before it, and the guide is the one that unbounded numbers and readers of lists give.
-/

namespace ProgrammeGuide

def PerClass.entries {α : Type} (values : PerClass α) : List α := TableClass.all.map values.get

theorem PerClass.entries_index {α : Type} (values : PerClass α) (cls : TableClass) :
    values.entries[cls.index]? = some (values.get cls) := by
  rw [entries, List.getElem?_map, TableClass.all_index, Option.map_some]

def Guide.NarrowVersions (guide : Guide) : Prop :=
  ∀ cls last, (guide.states.get cls).lastVersion = some last → last.toNat < 32

namespace Machine

variable {sizes : Nat}

def isDuplicate? (state : ClassState) (version : UInt8) : Option Bool :=
  match state.lastVersion with
  | none => some false
  | some last =>
      if version = last then some true else do
        let next ← octet? (last.toNat + 1)
        some (version.toNat = next % 32)

def review? (cls : TableClass) (state : ClassState) (header : SectionHeader)
    (table : EventTableHeader) : Option (ClassState × Verdict) :=
  if state.keepsOrder cls header table then do
    let advanced := state.advance cls table
    let duplicate ← isDuplicate? advanced header.version
    if duplicate then some (advanced, .error .duplicateVersion)
    else some ({ advanced with lastVersion := some header.version }, .ok ())
  else some (state, .error .discontinuous)

def addRecord? (sizes : Nat) (limits : Limits) (cls : TableClass) (received : EventSection)
    (events : List GuideEvent) (record : EventRecord) : Option (List GuideEvent) := do
  let descriptors ← descriptors? sizes record.descriptors
  let key : EventKey :=
    ⟨received.table.transportStreamId, received.table.networkId, record.eventId⟩
  let update (event : GuideEvent) : GuideEvent :=
    (descriptors.filterMap Except.toOption).foldl (GuideEvent.merge limits)
      (event.announce ⟨cls, received.header.version⟩ record.airing)
  some (GuideEvent.upsert (.blank key received.header.subjectId) update events)

def receive? (sizes : Nat) (guide : Guide) (buffer : Octets) : Option (Guide × Verdict) :=
  match buffer with
  | [] => some (guide, .error .truncated)
  | tableId :: _ =>
      match TableClass.ofTableId? tableId with
      | none => some (guide, .error (.unknownTable tableId))
      | some cls => do
          match ← (eventSection? sizes buffer).run with
          | .error _ => some (guide, .error .truncated)
          | .ok received => do
              let state ← guide.states.entries[cls.index]?
              let (next, verdict) ← review? cls state received.header received.table
              let states := guide.states.set cls next
              match verdict with
              | .error cause => some ({ guide with states }, .error cause)
              | .ok _ => do
                  let events ←
                    received.events.foldlM (addRecord? sizes guide.limits cls received) guide.events
                  some ({ guide with states, events }, .ok ())

def call? (sizes : Nat) (guide : Guide) : Call → Option Guide
  | .receive buffer => (receive? sizes guide buffer).map Prod.fst
  | .reset => some guide.reset

def run? (sizes : Nat) (guide : Guide) (calls : List Call) : Option Guide :=
  calls.foldlM (call? sizes) guide

theorem isDuplicate?_eq {state : ClassState}
    (narrow : ∀ last, state.lastVersion = some last → last.toNat < 32) (version : UInt8) :
    isDuplicate? state version = some (state.isDuplicate version) := by
  rw [isDuplicate?, ClassState.isDuplicate]
  cases found : state.lastVersion with
  | none => rfl
  | some last =>
      have small := narrow last found
      have next : octet? (last.toNat + 1) = some (last.toNat + 1) := number?_of_lt (by omega)
      -- The sum is at most 32, where the remainder goes back to 0 with or without the width.
      have wrapped : version = (last + 1) % 32 ↔ version.toNat = (last.toNat + 1) % 32 := by
        rw [← UInt8.toNat_inj, UInt8.toNat_mod, UInt8.toNat_add]
        simp only [UInt8.reduceToNat]
        omega
      by_cases same : version = last
      · simp only [same, if_true, decide_true, Bool.true_or]
      · simp only [same, if_false, next, wrapped, decide_false, Bool.false_or]
        rfl

theorem review?_eq {state : ClassState}
    (narrow : ∀ last, state.lastVersion = some last → last.toNat < 32) (cls : TableClass)
    (header : SectionHeader) (table : EventTableHeader) :
    review? cls state header table = some (state.review cls header table) := by
  have kept : ∀ last, (state.advance cls table).lastVersion = some last → last.toNat < 32 := by
    rwa [ClassState.advance_lastVersion]
  have same := isDuplicate?_eq kept header.version
  rw [review?, ClassState.review]
  by_cases inOrder : state.keepsOrder cls header table
  · simp only [inOrder, if_true, same]
    cases (state.advance cls table).isDuplicate header.version <;> rfl
  · simp only [inOrder]
    rfl

theorem addRecord?_eq {record : EventRecord}
    (addressable : record.descriptors.octets.length < sizes) (limits : Limits) (cls : TableClass)
    (received : EventSection) (events : List GuideEvent) :
    addRecord? sizes limits cls received events record =
      some (Guide.addRecord limits cls received events record) := by
  rw [addRecord?, descriptors?_eq addressable]
  rfl

theorem foldlM_of_forall {α β : Type} {step? : β → α → Option β} {step : β → α → β}
    {entries : List α}
    (steps : ∀ entry ∈ entries, ∀ value, step? value entry = some (step value entry)) (start : β) :
    entries.foldlM step? start = some (entries.foldl step start) := by
  induction entries generalizing start with
  | nil => rfl
  | cons entry others ih =>
      obtain ⟨own, rest⟩ := List.forall_mem_cons.mp steps
      rw [List.foldlM_cons, own, List.foldl_cons]
      exact ih rest (step start entry)

theorem length_descriptors_lt {buffer : Octets} {received : EventSection}
    (found : EventSection.read buffer = .ok received) (addressable : buffer.length < sizes) :
    ∀ record ∈ received.events, record.descriptors.octets.length < sizes := by
  obtain ⟨_, loop, total, events⟩ := EventSection.read_eq_ok found
  rw [events]
  refine Reader.forall_repeated ?_ (show loop.length < sizes by omega)
  intro input record rest short ran
  rw [EventRecord.reader_eq] at ran
  obtain ⟨head, left, started, ran⟩ := Reader.run_bind_eq_ok.mp ran
  have shorter := (EventHead.reader.leaves_suffix started).length_le
  cases ran
  exact Nat.lt_of_le_of_lt (List.length_take_le' _ left) (Nat.lt_of_le_of_lt shorter short)

theorem receive?_eq {guide : Guide} {buffer : Octets} (narrow : guide.NarrowVersions)
    (addressable : buffer.length < sizes) :
    receive? sizes guide buffer = some (guide.receive buffer) := by
  unfold receive? Guide.receive Guide.identify
  cases buffer with
  | nil => rfl
  | cons tableId others =>
      cases known : TableClass.ofTableId? tableId with
      | none => simp only [known]
      | some cls =>
          have read : (eventSection? sizes (tableId :: others)).run =
              some (EventSection.read (tableId :: others)) := eventSection?_eq addressable
          simp only [known, read]
          cases found : EventSection.read (tableId :: others) with
          | error cause => rfl
          | ok received =>
              -- The blocks of descriptors are parts of the buffer and within the bound as well.
              have blocks := length_descriptors_lt found addressable
              have records := fun record member =>
                addRecord?_eq (blocks record member) guide.limits cls received
              have events := foldlM_of_forall records guide.events
              simp only [Option.bind_eq_bind, Option.bind_some, PerClass.entries_index,
                review?_eq (narrow cls)]
              cases (guide.states.get cls).review cls received.header received.table with
              | mk next verdict =>
                  cases verdict with
                  | error cause => rfl
                  | ok accepted =>
                      simp only [events, Option.bind_some]

end Machine

namespace Guide

theorem narrowVersions_empty (limits : Limits) : (empty limits).NarrowVersions := by
  intro cls last found
  rw [empty, PerClass.get_ofFunction] at found
  cases found

theorem NarrowVersions.receive {guide : Guide} (narrow : guide.NarrowVersions)
    (buffer : Octets) : (guide.receive buffer).1.NarrowVersions := by
  rcases guide.receive_cases buffer with ⟨_, _, outcome⟩ | ⟨_, _, _, _, outcome⟩ |
    ⟨cls, received, _, _, _, outcome⟩ | ⟨cls, received, identified, _, _, outcome⟩
  · rw [outcome]
    exact narrow
  · rw [outcome]
    exact narrow
  · rw [outcome]
    intro known last found
    rw [advance_lastVersion] at found
    exact narrow known last found
  · rw [outcome]
    -- Only here is a version remembered, and it is that of the section.
    have fits := (EventSection.read_eq_ok (identify_eq_ok_iff.mp identified).2).1
    intro known last found
    by_cases same : known = cls
    · subst same
      rw [PerClass.get_set_self] at found
      cases found
      exact fits.version
    · rw [PerClass.get_set_of_ne _ _ same] at found
      exact narrow known last found

theorem narrowVersions_run (limits : Limits) (calls : List Call) :
    ((empty limits).run calls).NarrowVersions := by
  refine @run_induction (fun guide _ => guide.NarrowVersions) ?_ ?_ (empty limits) []
    (narrowVersions_empty limits) calls
  · intro guide past buffer narrow
    exact narrow.receive buffer
  · intro guide past narrow
    exact narrowVersions_empty guide.limits

end Guide

namespace Machine

theorem run?_eq {guide : Guide} {calls : List Call} (narrow : guide.NarrowVersions)
    (addressable : ∀ buffer, .receive buffer ∈ calls → buffer.length < sizes) :
    run? sizes guide calls = some (guide.run calls) := by
  induction calls generalizing guide with
  | nil => rfl
  | cons call later ih =>
      have rest : ∀ buffer, .receive buffer ∈ later → buffer.length < sizes :=
        fun buffer member => addressable buffer (List.mem_cons_of_mem call member)
      cases call with
      | receive buffer =>
          have received := receive?_eq narrow (addressable buffer List.mem_cons_self)
          have step : call? sizes guide (.receive buffer) = some (guide.receive buffer).1 :=
            congrArg (Option.map Prod.fst) received
          rw [run?, List.foldlM_cons, step]
          exact ih (narrow.receive buffer) rest
      | reset => exact ih (Guide.narrowVersions_empty guide.limits) rest

/-- No run ever meets an operation without a result, whatever is received. Sizes may have any bound
that all buffers are below. After any calls every further section has a result, and it is that of
the guide; the remembered versions are below 32; two digits are worth at most 165; and for every
event, whatever the octets of its times, all that can be asked of it has an answer. -/
theorem run_faultless (sizes : Nat) (limits : Limits) (calls : List Call)
    (addressable : ∀ buffer, .receive buffer ∈ calls → buffer.length < sizes) :
    let guide := (Guide.empty limits).run calls
    run? sizes (.empty limits) calls = some guide ∧
    (∀ buffer, buffer.length < sizes → receive? sizes guide buffer = some (guide.receive buffer)) ∧
    (∀ cls last, (guide.states.get cls).lastVersion = some last → last.toNat < 32) ∧
    (∀ octet, decimal? octet = some (BinaryDecimal.value octet) ∧
      BinaryDecimal.value octet ≤ 165) ∧
    ∀ event : GuideEvent, readings? event = some event.readings := by
  intro guide
  have narrow := Guide.narrowVersions_run limits calls
  exact ⟨run?_eq (Guide.narrowVersions_empty limits) addressable,
    fun buffer short => receive?_eq narrow short, narrow,
    fun octet => ⟨decimal?_eq octet, BinaryDecimal.value_le octet⟩, readings?_eq⟩

/-- A buffer that breaks off, a reset, and a section of the last version there is. -/
def greatestVersion : List Call :=
  [.receive [0x4E, 0xF0], .reset, .receive (Guide.bareSection 0x4E 31 0x4E)]

/-- Version 0 comes next after 31, by way of 32. -/
theorem run_faultless_greatestVersion :
    (∀ buffer, .receive buffer ∈ greatestVersion → buffer.length < 65536) ∧
    ∃ guide, run? 65536 (.empty .unlimited) greatestVersion = some guide ∧
      receive? 65536 guide (Guide.bareSection 0x4E 0 0x4E) =
        some (guide, .error .duplicateVersion) := by
  have addressable : ∀ buffer, .receive buffer ∈ greatestVersion → buffer.length < 65536 := by
    intro buffer member
    simp only [greatestVersion, List.mem_cons, Call.receive.injEq, reduceCtorEq, List.not_mem_nil,
      or_false, false_or] at member
    rcases member with rfl | rfl <;> decide
  obtain ⟨ran, received, _⟩ := run_faultless 65536 .unlimited greatestVersion addressable
  exact ⟨addressable, _, ran, received (Guide.bareSection 0x4E 0 0x4E) (by decide)⟩

end Machine

end ProgrammeGuide
