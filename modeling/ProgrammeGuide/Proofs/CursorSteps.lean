import ProgrammeGuide.Cursor.Stack
import ProgrammeGuide.Proofs.Machine.Following

/-!
One step with a stack of cursors. Every step has a width, which depends on the unread octets where a
length is in front of them. With fewer octets left than that the stack stays as it is; otherwise
the cursor on top passes over exactly so many octets, and what they tell is the value of the step.
-/

namespace ProgrammeGuide

/-- Octets as one number, the first of them highest. -/
def bigEndian (octets : Octets) : Nat :=
  octets.foldl (fun number octet => number * 256 + octet.toNat) 0

/-- The number in the `width` bits that come after the first `skipped` ones. -/
def fieldAt (skipped width : Nat) (octets : Octets) : Nat :=
  bigEndian octets / 2 ^ (8 * octets.length - (skipped + width)) % 2 ^ width

theorem toNat_lt_of_mem (octets : Octets) : ∀ octet ∈ octets, octet.toNat < 256 :=
  fun octet _ => octet.toNat_lt

structure DescriptorHeader.IsIn (octets : Octets) (header : DescriptorHeader) : Prop where
  tag : header.tag.toNat = fieldAt 0 8 octets
  length : header.length.toNat = fieldAt 8 8 octets

structure SectionHeader.IsIn (octets : Octets) (header : SectionHeader) : Prop where
  tableId : header.tableId.toNat = fieldAt 0 8 octets
  syntaxIndicator : header.syntaxIndicator.toNat = fieldAt 8 1 octets
  length : header.length.toNat = fieldAt 12 12 octets
  subjectId : header.subjectId.toNat = fieldAt 24 16 octets
  version : header.version.toNat = fieldAt 42 5 octets
  current : header.current.toNat = fieldAt 47 1 octets
  number : header.number.toNat = fieldAt 48 8 octets
  lastNumber : header.lastNumber.toNat = fieldAt 56 8 octets

structure EventTableHeader.IsIn (octets : Octets) (table : EventTableHeader) : Prop where
  transportStreamId : table.transportStreamId.toNat = fieldAt 0 16 octets
  networkId : table.networkId.toNat = fieldAt 16 16 octets
  segmentLastNumber : table.segmentLastNumber.toNat = fieldAt 32 8 octets
  lastTableId : table.lastTableId.toNat = fieldAt 40 8 octets

namespace CursorStep

/-- How many octets the step passes over. -/
def width (unread : Octets) : CursorStep → Nat
  | .octet => 1
  | .word16 => 2
  | .word32 => 4
  | .take count | .declared count | .array count | .skip count | .enter count => count
  | .counted => (unread.headD 0).toNat + 1
  | .takeRest => unread.length
  | .descriptorHeader => 2
  | .sectionHeader => 8
  | .eventTableHeader => 6
  | .unread | .leave => 0

/-- What the step blames when fewer octets are left. -/
def cause : CursorStep → ReadError
  | .declared _ => .malformedLength
  | _ => .truncated

/-- The value is what the octets that have been passed over tell, or those that are left. -/
def Tells (passed left : Octets) (value : CursorValue) : CursorStep → Prop
  | .octet | .word16 | .word32 => value = .number (bigEndian passed)
  | .take _ | .declared _ | .array _ | .takeRest => value = .octets passed
  | .skip _ => value = .nothing
  | .counted =>
      ∃ count body, passed = count :: body ∧ body.length = count.toNat ∧ value = .octets body
  | .unread => value = .octets left
  | .descriptorHeader => ∃ header, value = .descriptorHeader header ∧ header.IsIn passed
  | .sectionHeader => ∃ header, value = .sectionHeader header ∧ header.IsIn passed
  | .eventTableHeader => ∃ table, value = .eventTableHeader table ∧ table.IsIn passed
  | .enter _ | .leave => False

/-- The reader takes the width of the step, or fails where there are fewer octets. -/
structure DoneBy (step : CursorStep) (reader : Reader CursorValue) : Prop where
  accepts : ∀ passed left, passed.length = step.width (passed ++ left) →
    ∃ value, reader.run (passed ++ left) = .ok (value, left) ∧ step.Tells passed left value
  rejects : ∀ unread, unread.length < step.width unread → reader.run unread = .error step.cause

section Readers

variable {α : Type} {step : CursorStep} {reader : Reader α} {change : α → CursorValue} {count : Nat}

theorem doneBy_of_width (fixed : reader.HasWidth count)
    (sized : ∀ unread, step.width unread = count) (blamed : step.cause = .truncated)
    (tells : ∀ passed left value, passed.length = count → reader.run passed = .ok (value, []) →
      step.Tells passed left (change value)) : step.DoneBy (change <$> reader) := by
  rw [map_eq_pure_bind]
  constructor
  · intro passed left size
    rw [sized] at size
    obtain ⟨value, ran⟩ := fixed.reads passed size
    have alone := ran []
    rw [List.append_nil] at alone
    refine ⟨change value, ?_, tells passed left value size alone⟩
    exact Reader.run_bind_eq_ok.mpr ⟨value, left, ran left, rfl⟩
  · intro unread short
    rw [sized] at short
    rw [Reader.run_bind, fixed.truncates unread short, blamed]

theorem doneBy_octet :
    CursorStep.octet.DoneBy ((fun octet => .number octet.toNat) <$> Reader.octet) := by
  refine doneBy_of_width Reader.hasWidth_octet (fun _ => rfl) rfl
    fun passed left value size ran => ?_
  obtain ⟨first, rfl⟩ := List.length_eq_one_iff.mp size
  cases ran
  simp [Tells, bigEndian]

theorem doneBy_word16 :
    CursorStep.word16.DoneBy ((fun word => .number word.toNat) <$> Reader.word16) := by
  refine doneBy_of_width Reader.hasWidth_word16 (fun _ => rfl) rfl
    fun passed left value size ran => ?_
  obtain ⟨high, low, rfl⟩ := List.length_eq_two.mp size
  cases ran
  simp [Tells, bigEndian, word16_toNat]

theorem doneBy_word32 :
    CursorStep.word32.DoneBy ((fun word => .number word.toNat) <$> Reader.word32) := by
  refine doneBy_of_width Reader.hasWidth_word32 (fun _ => rfl) rfl
    fun passed left value size ran => ?_
  obtain ⟨first, second, third, fourth, rfl⟩ := List.length_eq_four.mp size
  cases ran
  simp [Tells, bigEndian, word32_toNat]

theorem doneBy_descriptorHeader :
    CursorStep.descriptorHeader.DoneBy (.descriptorHeader <$> DescriptorHeader.reader) := by
  refine doneBy_of_width DescriptorHeader.hasWidth_reader (fun _ => rfl) rfl
    fun passed left value size ran => ?_
  have below := toNat_lt_of_mem passed
  obtain ⟨tag, length, rfl⟩ := List.length_eq_two.mp size
  cases ran
  simp only [List.forall_mem_cons] at below
  refine ⟨_, rfl, ?_, ?_⟩ <;> simp only [fieldAt, bigEndian, List.foldl_cons, List.foldl_nil,
    List.length_cons, List.length_nil] <;> omega

theorem doneBy_sectionHeader :
    CursorStep.sectionHeader.DoneBy (.sectionHeader <$> SectionHeader.reader) := by
  refine doneBy_of_width SectionHeader.hasWidth_reader (fun _ => rfl) rfl
    fun passed left value size ran => ?_
  have below := toNat_lt_of_mem passed
  match passed, size with
  | [tableId, high, low, subjectHigh, subjectLow, version, number, lastNumber], _ =>
    cases ran
    simp only [List.forall_mem_cons] at below
    refine ⟨_, rfl, ?_, ?_, ?_, ?_, ?_, ?_, ?_, ?_⟩ <;>
      simp only [fieldAt, bigEndian, List.foldl_cons, List.foldl_nil, List.length_cons,
        List.length_nil, flag_toNat, length12_toNat, word16_toNat, bits_toNat_pow] <;>
      omega

theorem doneBy_eventTableHeader :
    CursorStep.eventTableHeader.DoneBy (.eventTableHeader <$> EventTableHeader.reader) := by
  refine doneBy_of_width EventTableHeader.hasWidth_reader (fun _ => rfl) rfl
    fun passed left value size ran => ?_
  have below := toNat_lt_of_mem passed
  match passed, size with
  | [streamHigh, streamLow, networkHigh, networkLow, segmentLast, lastTable], _ =>
    cases ran
    simp only [List.forall_mem_cons] at below
    refine ⟨_, rfl, ?_, ?_, ?_, ?_⟩ <;>
      simp only [fieldAt, bigEndian, List.foldl_cons, List.foldl_nil, List.length_cons,
        List.length_nil, word16_toNat] <;>
      omega

theorem doneBy_take (count : Nat) :
    (CursorStep.take count).DoneBy (.octets <$> Reader.take count) := by
  refine doneBy_of_width (Reader.hasWidth_take count) (fun _ => rfl) rfl
    fun passed left value size ran => ?_
  obtain ⟨_, whole⟩ := Reader.run_take_eq_ok.mp ran
  rw [Tells, whole, List.append_nil]

theorem doneBy_array (count : Nat) :
    (CursorStep.array count).DoneBy (.octets <$> Reader.take count) :=
  ⟨(doneBy_take count).accepts, (doneBy_take count).rejects⟩

theorem doneBy_skip (count : Nat) :
    (CursorStep.skip count).DoneBy ((fun _ => .nothing) <$> Reader.skip count) := by
  have fixed : (Reader.skip count).HasWidth count :=
    (Reader.hasWidth_take count).bind fun _ => Reader.hasWidth_pure ()
  exact doneBy_of_width fixed (fun _ => rfl) rfl fun _ _ _ _ _ => rfl

theorem doneBy_declared (count : Nat) :
    (CursorStep.declared count).DoneBy (.octets <$> (Reader.take count).declared) := by
  rw [map_eq_pure_bind]
  constructor
  · intro passed left size
    have ran : (Reader.take count).declared.run (passed ++ left) = .ok (passed, left) :=
      Reader.run_declared_eq_ok.mpr (Reader.run_take_eq_ok.mpr ⟨size, rfl⟩)
    exact ⟨_, Reader.run_bind_eq_ok.mpr ⟨passed, left, ran, rfl⟩, rfl⟩
  · intro unread short
    have failed : (Reader.take count).declared.run unread = .error .malformedLength :=
      Reader.run_declared_eq_error.mpr ⟨rfl, _, Reader.run_take_eq_error short⟩
    rw [Reader.run_bind, failed]
    rfl

theorem doneBy_counted : CursorStep.counted.DoneBy (.octets <$> Reader.counted) := by
  rw [map_eq_pure_bind]
  constructor
  · intro passed left size
    cases passed with
    | nil => simp [width] at size
    | cons count body =>
        have whole : body.length = count.toNat := by simpa [width] using size
        have ran : Reader.counted.run (count :: body ++ left) = .ok (body, left) :=
          Reader.run_take_eq_ok.mpr ⟨whole, rfl⟩
        exact ⟨_, Reader.run_bind_eq_ok.mpr ⟨body, left, ran, rfl⟩, count, body, rfl, whole, rfl⟩
  · intro unread short
    cases unread with
    | nil => rfl
    | cons count rest =>
        have tooShort : rest.length < count.toNat := by
          simpa [width] using short
        have failed : Reader.counted.run (count :: rest) = .error .truncated :=
          Reader.run_take_eq_error tooShort
        rw [Reader.run_bind, failed]
        rfl

theorem doneBy_takeRest : CursorStep.takeRest.DoneBy (.octets <$> Reader.takeRest) := by
  constructor
  · intro passed left size
    obtain rfl : left = [] := by simpa [width] using size
    rw [List.append_nil]
    exact ⟨_, rfl, rfl⟩
  · intro unread short
    exact absurd short (Nat.lt_irrefl _)

end Readers

end CursorStep

namespace Cursor

/-- The cursor has moved over the stretch and no further. -/
structure Passes (stretch : Octets) (before after : Cursor) : Prop where
  data : after.data = before.data
  unread : before.unread = stretch ++ after.unread
  position : after.position = before.position + stretch.length

variable {before after other : Cursor} {stretch more : Octets}

theorem passes_of_unread (data : after.data = before.data)
    (unread : before.unread = stretch ++ after.unread) : before.Passes stretch after := by
  refine ⟨data, unread, ?_⟩
  have total := before.position_add_remaining
  have later := after.position_add_remaining
  simp only [remaining, unread, List.length_append, data] at total later
  omega

theorem exists_passed {unread : Octets} {count : Nat} (enough : count ≤ unread.length) :
    ∃ passed left, passed.length = count ∧ unread = passed ++ left :=
  ⟨unread.take count, unread.drop count, List.length_take_of_le enough,
    (List.take_append_drop count unread).symm⟩

theorem passes_nil (cursor : Cursor) : cursor.Passes [] cursor := ⟨rfl, rfl, rfl⟩

theorem Passes.unique (passes : before.Passes stretch after) (also : before.Passes more other)
    (size : stretch.length = more.length) : stretch = more ∧ after = other := by
  obtain ⟨data, unread, _⟩ := after
  obtain ⟨otherData, otherUnread, _⟩ := other
  obtain rfl : data = otherData := passes.data.trans also.data.symm
  obtain ⟨rfl, same⟩ := List.append_inj (passes.unread.symm.trans also.unread) size
  obtain rfl : unread = otherUnread := same
  exact ⟨rfl, rfl⟩

end Cursor

namespace CursorStack

def cursors (stack : CursorStack) : List Cursor := stack.top :: stack.below

/-- Takes one step after the other and collects the results. -/
def run (stack : CursorStack) :
    List CursorStep → List (Except ReadError CursorValue) × CursorStack
  | [] => ([], stack)
  | step :: later =>
      let (result, next) := stack.step step
      let (results, last) := next.run later
      (result :: results, last)

/-- All that a step can do to a stack. -/
inductive Stepped (stack : CursorStack) :
    CursorStep → Except ReadError CursorValue → CursorStack → Prop
  /-- Fewer octets are left than the step takes, and nothing changes. -/
  | fails {step} (short : stack.top.remaining < step.width stack.top.unread) :
      Stepped stack step (.error step.cause) stack
  | reads {step stretch value top} (passes : stack.top.Passes stretch top)
      (size : stretch.length = step.width stack.top.unread)
      (tells : step.Tells stretch top.unread value) :
      Stepped stack step (.ok value) { stack with top }
  /-- The new cursor ranges over the stretch that the one below it has passed over. -/
  | enters {count stretch top} (passes : stack.top.Passes stretch top)
      (size : stretch.length = count) :
      Stepped stack (.enter count) (.ok .nothing) ⟨.start stretch, top :: stack.below⟩
  | leaves {top below} (under : stack.below = top :: below) :
      Stepped stack .leave (.ok (.left true)) ⟨top, below⟩
  | remains (alone : stack.below = []) : Stepped stack .leave (.ok (.left false)) stack

variable {stack next : CursorStack}

theorem stepped_read {step : CursorStep} {reader : Reader CursorValue} (done : step.DoneBy reader)
    (stack : CursorStack) : stack.Stepped step (stack.read reader).1 (stack.read reader).2 := by
  rcases Nat.lt_or_ge stack.top.remaining (step.width stack.top.unread) with short | long
  · rw [CursorStack.read, Cursor.read_of_error (done.rejects _ short)]
    exact .fails short
  · obtain ⟨stretch, left, size, split⟩ := Cursor.exists_passed long
    obtain ⟨value, ran, tells⟩ := done.accepts stretch left (split ▸ size)
    rw [← split] at ran
    rw [CursorStack.read, Cursor.read_of_ok ran]
    exact .reads (Cursor.passes_of_unread rfl split) size tells

theorem stepped_enter (stack : CursorStack) (count : Nat) :
    stack.Stepped (.enter count) (stack.enter count).1 (stack.enter count).2 := by
  rcases Nat.lt_or_ge stack.top.remaining count with short | long
  · rw [enter, Cursor.read_of_error (Reader.run_take_eq_error short)]
    exact .fails short
  · obtain ⟨stretch, left, size, split⟩ := Cursor.exists_passed long
    rw [enter, Cursor.read_of_ok (Reader.run_take_eq_ok.mpr ⟨size, split⟩)]
    exact .enters (Cursor.passes_of_unread rfl split) size

theorem stepped_leave (stack : CursorStack) :
    stack.Stepped .leave stack.leave.1 stack.leave.2 := by
  rw [leave]
  split
  · rename_i alone
    exact .remains alone
  · rename_i top below under
    exact .leaves under

theorem stepped_step (stack : CursorStack) (step : CursorStep) :
    stack.Stepped step (stack.step step).1 (stack.step step).2 := by
  cases step with
  | octet => exact stepped_read CursorStep.doneBy_octet stack
  | word16 => exact stepped_read CursorStep.doneBy_word16 stack
  | word32 => exact stepped_read CursorStep.doneBy_word32 stack
  | take count => exact stepped_read (CursorStep.doneBy_take count) stack
  | declared count => exact stepped_read (CursorStep.doneBy_declared count) stack
  | array count => exact stepped_read (CursorStep.doneBy_array count) stack
  | skip count => exact stepped_read (CursorStep.doneBy_skip count) stack
  | counted => exact stepped_read CursorStep.doneBy_counted stack
  | unread => exact .reads stack.top.passes_nil rfl rfl
  | takeRest => exact stepped_read CursorStep.doneBy_takeRest stack
  | descriptorHeader => exact stepped_read CursorStep.doneBy_descriptorHeader stack
  | sectionHeader => exact stepped_read CursorStep.doneBy_sectionHeader stack
  | eventTableHeader => exact stepped_read CursorStep.doneBy_eventTableHeader stack
  | enter count => exact stack.stepped_enter count
  | leave => exact stack.stepped_leave

end CursorStack

end ProgrammeGuide
