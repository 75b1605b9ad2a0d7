import ProgrammeGuide.Proofs.Verdicts

/-!
A class of tables by itself. Its state and the verdicts on its sections come out as if nothing
else had been received, whatever stands between the sections and whatever the guide holds.
-/

namespace ProgrammeGuide

structure Ruling where
  buffer : Octets
  verdict : Verdict

def Ruling.concerns (cls : TableClass) (ruling : Ruling) : Bool :=
  TableClass.ofBuffer? ruling.buffer = some cls

namespace ClassState

variable {cls : TableClass}

def receive (cls : TableClass) (state : ClassState) (buffer : Octets) : ClassState × Verdict :=
  match EventSection.read buffer with
  | .error _ => (state, .error .truncated)
  | .ok received => state.review cls received.header received.table

def receiveAll (cls : TableClass) (state : ClassState) : List Octets → ClassState × List Ruling
  | [] => (state, [])
  | buffer :: others =>
      let (next, verdict) := state.receive cls buffer
      let (last, rulings) := next.receiveAll cls others
      (last, ⟨buffer, verdict⟩ :: rulings)

theorem receiveAll_buffers (state : ClassState) (buffers : List Octets) :
    (state.receiveAll cls buffers).2.map Ruling.buffer = buffers := by
  induction buffers generalizing state with
  | nil => rfl
  | cons buffer others ih => simp only [receiveAll, List.map_cons, ih]

end ClassState

namespace Guide

variable {cls : TableClass} {buffer : Octets}

theorem receive_of_class (guide : Guide) (own : TableClass.ofBuffer? buffer = some cls) :
    (guide.receive buffer).1.states.get cls = ((guide.states.get cls).receive cls buffer).1 ∧
      (guide.receive buffer).2 = ((guide.states.get cls).receive cls buffer).2 := by
  cases ran : EventSection.read buffer with
  | error cause =>
      rw [receive_of_error (identify_of_unreadable own ran)]
      simp only [ClassState.receive, ran, and_self]
  | ok received =>
      rw [receive_of_ok (identify_of_read own ran)]
      simp only [ClassState.receive, ran, PerClass.get_set_self, and_self]

theorem receive_of_other (guide : Guide) (other : TableClass.ofBuffer? buffer ≠ some cls) :
    (guide.receive buffer).1.states.get cls = guide.states.get cls := by
  cases identified : identify buffer with
  | error cause => rw [receive_of_error identified]
  | ok found =>
      obtain ⟨owner, received⟩ := found
      have different : cls ≠ owner := by
        rintro rfl
        exact other (identify_eq_ok_iff.mp identified).1
      rw [receive_of_ok identified]
      exact PerClass.get_set_of_ne _ _ different

/-- What became of the buffers of a class, in the order in which they came. -/
def rulings (cls : TableClass) (guide : Guide) (buffers : List Octets) : List Ruling :=
  (List.zipWith Ruling.mk buffers (guide.receiveAll buffers).2).filter (Ruling.concerns cls)

theorem rulings_cons (cls : TableClass) (guide : Guide) (buffer : Octets) (others : List Octets) :
    guide.rulings cls (buffer :: others) =
      if TableClass.ofBuffer? buffer = some cls then
        ⟨buffer, (guide.receive buffer).2⟩ :: (guide.receive buffer).1.rulings cls others
      else (guide.receive buffer).1.rulings cls others := by
  simp only [rulings, receiveAll, List.zipWith_cons_cons, List.filter_cons, Ruling.concerns,
    decide_eq_true_eq]

/-- The run of a guide, looked at from one of its classes, is the run of that class. -/
theorem receiveAll_of_class (cls : TableClass) (guide : Guide) (buffers : List Octets) :
    let own := buffers.filter fun buffer => TableClass.ofBuffer? buffer = some cls
    (guide.receiveAll buffers).1.states.get cls = ((guide.states.get cls).receiveAll cls own).1 ∧
      guide.rulings cls buffers = ((guide.states.get cls).receiveAll cls own).2 := by
  induction buffers generalizing guide with
  | nil => exact ⟨rfl, rfl⟩
  | cons buffer others ih =>
      obtain ⟨state, later⟩ := ih (guide.receive buffer).1
      rw [rulings_cons]
      by_cases own : TableClass.ofBuffer? buffer = some cls
      · obtain ⟨next, verdict⟩ := guide.receive_of_class own
        simp only [own, List.filter_cons, decide_true, if_true, receiveAll, ClassState.receiveAll,
          state, later, next, verdict, and_self]
      · -- The buffer is of no account to the class, and is left out of its run as well.
        have kept := guide.receive_of_other own
        simp only [own, List.filter_cons, decide_false, if_false, receiveAll, state, later, kept,
          Bool.false_eq_true, and_self]

/-- What one class of tables makes of its sections does not depend on the buffers of other classes,
on buffers of no class, or on anything else that a guide holds. -/
theorem rulings_congr (cls : TableClass) (first second : Guide)
    (firstBuffers secondBuffers : List Octets)
    (sameState : first.states.get cls = second.states.get cls)
    (sameBuffers : (firstBuffers.filter fun buffer => TableClass.ofBuffer? buffer = some cls) =
      secondBuffers.filter fun buffer => TableClass.ofBuffer? buffer = some cls) :
    first.rulings cls firstBuffers = second.rulings cls secondBuffers ∧
      (first.rulings cls firstBuffers).map Ruling.buffer =
        (firstBuffers.filter fun buffer => TableClass.ofBuffer? buffer = some cls) ∧
      (first.receiveAll firstBuffers).1.states.get cls =
        (second.receiveAll secondBuffers).1.states.get cls := by
  obtain ⟨firstState, firstRulings⟩ := receiveAll_of_class cls first firstBuffers
  obtain ⟨secondState, secondRulings⟩ := receiveAll_of_class cls second secondBuffers
  rw [firstState, secondState, firstRulings, secondRulings, sameState, sameBuffers]
  exact ⟨rfl, ClassState.receiveAll_buffers _ _, rfl⟩

/-- The second guide has a past, limits, a section of another class, one of no class and an empty
buffer before the same two sections. -/
theorem rulings_congr_interleaved :
    let sections := [bareSection 0x50 3 0x51, bareSection 0x51 4 0x52]
    let busy := ((empty ⟨some 7, none⟩).receive (bareSection 0x4E 9 0x4E)).1
    let mixed := [[], bareSection 0x60 3 0x63, bareSection 0x50 3 0x51, bareSection 0x42 1 0x42,
      bareSection 0x4E 3 0x4E, bareSection 0x51 4 0x52]
    (empty .unlimited).rulings .actualSchedule sections = busy.rulings .actualSchedule mixed ∧
      ((empty .unlimited).rulings .actualSchedule sections).length = 2 ∧
      ((busy.receiveAll mixed).1.states.get .actualSchedule).lastTableId = 0x52 := by
  intro sections busy mixed
  obtain ⟨same, buffers, state⟩ := rulings_congr .actualSchedule (empty .unlimited) busy sections
    mixed rfl (by decide)
  refine ⟨same, ?_, ?_⟩
  · rw [← List.length_map Ruling.buffer, buffers]
    decide
  · rw [← state]
    decide +kernel

end Guide

end ProgrammeGuide
