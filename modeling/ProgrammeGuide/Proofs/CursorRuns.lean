import ProgrammeGuide.Proofs.Machine.Places

/-!
Runs with a stack of cursors. What a cursor has passed over, stretch by stretch, is the front of its
octets up to its position; a cursor that has been entered ranges over the last stretch of the one
below; and as long as it is not left, nothing that is done reaches those below.
-/

namespace ProgrammeGuide

namespace Cursor

/-- The octets from where the cursor was to where it is now. -/
def upTo (before after : Cursor) : Octets :=
  (before.data.drop before.position).take (after.position - before.position)

variable {before after : Cursor} {stretch : Octets}

theorem Passes.upTo_eq (passes : before.Passes stretch after) : before.upTo after = stretch := by
  rw [upTo, before.drop_position, passes.unread, passes.position, Nat.add_sub_cancel_left,
    List.take_left]

theorem Passes.take_position (passes : before.Passes stretch after) :
    after.data.take after.position = before.data.take before.position ++ stretch := by
  rw [passes.data, passes.position, List.take_add, before.drop_position, passes.unread,
    List.take_left]

end Cursor

/-- Cursors from the inside out, each with the stretches that it has passed over. -/
inductive Nested (octets : Octets) : List Cursor → List (List Octets) → Prop
  | outermost {cursor trail} (whole : cursor.data = octets)
      (covered : trail.flatten = cursor.data.take cursor.position) :
      Nested octets [cursor] [trail]
  | within {cursor trail parent track cursors trails}
      (covered : trail.flatten = cursor.data.take cursor.position)
      (stretch : track.getLast? = some cursor.data)
      (outside : Nested octets (parent :: cursors) (track :: trails)) :
      Nested octets (cursor :: parent :: cursors) (trail :: track :: trails)

namespace Nested

variable {octets stretch : Octets} {before after : Cursor} {below : List Cursor}
  {trail : List Octets} {trails : List (List Octets)}

theorem start (octets : Octets) : Nested octets [.start octets] [[]] :=
  .outermost rfl (by simp [Cursor.position, Cursor.start])

theorem passes (nested : Nested octets (before :: below) (trail :: trails))
    (passes : before.Passes stretch after) :
    Nested octets (after :: below) ((trail ++ [stretch]) :: trails) := by
  cases nested with
  | outermost whole covered =>
      refine .outermost (passes.data.trans whole) ?_
      rw [List.flatten_concat, covered, passes.take_position]
  | within covered last outside =>
      refine .within ?_ (passes.data ▸ last) outside
      rw [List.flatten_concat, covered, passes.take_position]

end Nested

namespace CursorStack

/-- The trails after one more step. A cursor that is entered has passed over nothing yet, and the
one below it has passed over a stretch; a cursor that is left takes its trail with it. -/
def extend (before after : CursorStack) : List (List Octets) → List (List Octets)
  | [] => []
  | trail :: trails =>
      match compare before.depth after.depth with
      | .lt => [] :: (trail ++ [before.top.upTo (after.below.headD before.top)]) :: trails
      | .eq => (trail ++ [before.top.upTo after.top]) :: trails
      | .gt => trails

def trailsFrom (stack : CursorStack) (trails : List (List Octets)) :
    List CursorStep → List (List Octets)
  | [] => trails
  | step :: later =>
      (stack.step step).2.trailsFrom (extend stack (stack.step step).2 trails) later

/-- What each cursor has passed over, from the inside out, one stretch for each step with it. -/
def trails (octets : Octets) (steps : List CursorStep) : List (List Octets) :=
  (start octets).trailsFrom [[]] steps

variable {stack next : CursorStack} {octets : Octets} {trail : List Octets}
  {trails : List (List Octets)}

theorem extend_moved (top : Cursor) :
    extend stack { stack with top } (trail :: trails) =
      (trail ++ [stack.top.upTo top]) :: trails := by
  simp [extend, depth]

theorem extend_entered (child parent : Cursor) :
    extend stack ⟨child, parent :: stack.below⟩ (trail :: trails) =
      [] :: (trail ++ [stack.top.upTo parent]) :: trails := by
  have deeper : compare stack.depth (stack.depth + 1) = .lt :=
    Nat.compare_eq_lt.mpr (Nat.lt_succ_self _)
  simp only [extend]
  rw [show depth ⟨child, parent :: stack.below⟩ = stack.depth + 1 from rfl, deeper]
  rfl

theorem extend_left {parent : Cursor} {below : List Cursor}
    (under : stack.below = parent :: below) :
    extend stack ⟨parent, below⟩ (trail :: trails) = trails := by
  have shallower : compare (below.length + 2) (below.length + 1) = .gt :=
    Nat.compare_eq_gt.mpr (Nat.lt_succ_self _)
  simp only [extend, depth, under, List.length_cons, shallower]

theorem exists_trail (nested : Nested octets stack.cursors trails) :
    ∃ trail others, trails = trail :: others := by
  cases trails with
  | nil => cases stack; cases nested
  | cons trail others => exact ⟨trail, others, rfl⟩

theorem nested_moved {stretch : Octets} {top : Cursor}
    (nested : Nested octets stack.cursors trails) (passes : stack.top.Passes stretch top) :
    Nested octets (top :: stack.below) (extend stack { stack with top } trails) := by
  obtain ⟨trail, others, rfl⟩ := exists_trail nested
  rw [extend_moved, passes.upTo_eq]
  exact nested.passes passes

theorem nested_step {step : CursorStep} {result : Except ReadError CursorValue}
    (nested : Nested octets stack.cursors trails) (stepped : stack.Stepped step result next) :
    Nested octets next.cursors (extend stack next trails) := by
  cases stepped with
  | fails short => exact nested_moved nested stack.top.passes_nil
  | reads passes size tells => exact nested_moved nested passes
  | remains alone => exact nested_moved nested stack.top.passes_nil
  | @enters count stretch top passes size =>
      obtain ⟨trail, others, rfl⟩ := exists_trail nested
      rw [extend_entered, passes.upTo_eq]
      refine .within ?_ List.getLast?_concat (nested.passes passes)
      simp [Cursor.position, Cursor.start]
  | leaves under =>
      obtain ⟨top, below⟩ := stack
      obtain rfl := under
      cases nested with
      | within covered stretch outside =>
          rw [extend_left rfl]
          exact outside

theorem nested_run (nested : Nested octets stack.cursors trails) (steps : List CursorStep) :
    Nested octets (stack.run steps).2.cursors (stack.trailsFrom trails steps) := by
  induction steps generalizing stack trails with
  | nil => exact nested
  | cons step later ih => exact ih (nested_step nested (stack.stepped_step step))

/-- The cursor on top is not left: with the steps, the stack never gets lower than it is now. -/
def Keeps (stack : CursorStack) (steps : List CursorStep) : Prop :=
  ∀ earlier, earlier <+: steps → stack.depth ≤ (stack.run earlier).2.depth

theorem run_append (stack : CursorStack) (earlier later : List CursorStep) :
    (stack.run (earlier ++ later)).2 = ((stack.run earlier).2.run later).2 := by
  induction earlier generalizing stack with
  | nil => rfl
  | cons step others ih => exact ih (stack.step step).2

theorem suffix_step {floor : List Cursor} {step : CursorStep}
    {result : Except ReadError CursorValue} (held : floor <:+ stack.below)
    (stepped : stack.Stepped step result next) (deep : floor.length ≤ next.below.length) :
    floor <:+ next.below := by
  cases stepped with
  | fails short => exact held
  | reads passes size tells => exact held
  | enters passes size => exact held.trans (List.suffix_cons _ _)
  | leaves under =>
      rw [under, List.suffix_cons_iff] at held
      rcases held with rfl | held
      · exact absurd deep (Nat.not_le.mpr (Nat.lt_succ_self _))
      · exact held
  | remains alone => exact held

theorem suffix_run {floor : List Cursor} {steps : List CursorStep} (held : floor <:+ stack.below)
    (deep : ∀ earlier, earlier <+: steps → floor.length ≤ (stack.run earlier).2.below.length) :
    floor <:+ (stack.run steps).2.below := by
  induction steps generalizing stack with
  | nil => exact held
  | cons step later ih =>
      have first := deep [step] (List.prefix_append [step] later)
      refine ih (suffix_step held (stack.stepped_step step) first) fun earlier sooner => ?_
      exact deep (step :: earlier) (List.cons_prefix_cons.mpr ⟨rfl, sooner⟩)

theorem Keeps.suffix {steps : List CursorStep} (keeps : stack.Keeps steps) :
    stack.below <:+ (stack.run steps).2.below :=
  suffix_run List.suffix_rfl fun earlier sooner => Nat.le_of_succ_le_succ (keeps earlier sooner)

theorem step_enter_cases {count : Nat} (entered : (stack.step (.enter count)).1 = .ok .nothing) :
    ∃ stretch top, stack.top.Passes stretch top ∧ stretch.length = count ∧
      (stack.step (.enter count)).2 = ⟨.start stretch, top :: stack.below⟩ := by
  have stepped := stack.stepped_step (.enter count)
  generalize stack.step (.enter count) = outcome at entered stepped ⊢
  obtain ⟨result, next⟩ := outcome
  cases stepped with
  | fails short => cases entered
  | reads passes size tells => cases tells
  | @enters _ stretch top passes size => exact ⟨stretch, top, passes, size, rfl⟩

theorem step_skip {count : Nat} {stretch : Octets} {top : Cursor}
    (passes : stack.top.Passes stretch top) (size : stretch.length = count) :
    (stack.step (.skip count)).2 = { stack with top } := by
  have stepped := stack.stepped_step (.skip count)
  generalize stack.step (.skip count) = outcome at stepped
  obtain ⟨result, next⟩ := outcome
  change stack.Stepped (.skip count) result next at stepped
  cases stepped with
  | fails short =>
      have whole := congrArg List.length passes.unread
      simp only [Cursor.remaining, CursorStep.width] at short
      rw [List.length_append] at whole
      omega
  | reads also alike tells => rw [(passes.unique also (size.trans alike.symm)).2]

/-- What is done with a cursor between entering and leaving it comes to skipping its octets. -/
theorem run_detour {count : Nat} {inside : List CursorStep}
    (entered : (stack.step (.enter count)).1 = .ok .nothing)
    (keeps : (stack.step (.enter count)).2.Keeps inside)
    (level : ((stack.step (.enter count)).2.run inside).2.depth =
      (stack.step (.enter count)).2.depth) :
    (stack.run (.enter count :: (inside ++ [.leave]))).2 = (stack.step (.skip count)).2 := by
  obtain ⟨stretch, top, passes, size, found⟩ := step_enter_cases entered
  have outside := keeps.suffix
  have whole : (stack.run (.enter count :: (inside ++ [.leave]))).2 =
      (((stack.step (.enter count)).2.run inside).2.step .leave).2 :=
    run_append (stack.step (.enter count)).2 inside [.leave]
  rw [whole, step_skip passes size]
  rw [found] at level outside ⊢
  have under := outside.eq_of_length (Nat.succ_injective level).symm
  rw [step, leave, ← under]

/-- Whatever is done with a stack of cursors over some octets. Every cursor has its octets in front
of its position and behind it, and no more. What it has passed over, stretch by stretch, are those
in front; they end with the octets of the cursor that has been entered, if one has been. A further
step fails and changes nothing, or it moves the cursor on top by its width, and its value is told by
the octets in between. Those below stay as they are until the one on top is left, and then all is as
if its octets had been skipped. By position, with sizes of any bound above the number of octets, the
steps have the same results and places. -/
theorem run_lawful (octets : Octets) (steps : List CursorStep) :
    let stack := ((start octets).run steps).2
    (∀ cursor ∈ stack.cursors, cursor.position ≤ cursor.data.length ∧
      cursor.remaining + cursor.position = cursor.data.length ∧
      cursor.data.drop cursor.position = cursor.unread) ∧
    Nested octets stack.cursors (CursorStack.trails octets steps) ∧
    (∀ step, stack.Stepped step (stack.step step).1 (stack.step step).2) ∧
    (∀ inside, stack.Keeps inside → stack.below <:+ (stack.run inside).2.below) ∧
    (∀ count inside, (stack.step (.enter count)).1 = .ok .nothing →
      let entered := (stack.step (.enter count)).2
      entered.Keeps inside → (entered.run inside).2.depth = entered.depth →
      (stack.run (.enter count :: (inside ++ [.leave]))).2 = (stack.step (.skip count)).2) ∧
    ∀ sizes, octets.length < sizes → ∃ places,
      (Machine.PlaceStack.start octets).run sizes steps =
        some (((start octets).run steps).1, places) ∧
      List.Forall₂ (fun place cursor => place.octets = cursor.data ∧
        place.position = cursor.position ∧ place.position ≤ place.octets.length ∧
        Machine.difference? place.octets.length place.position = some cursor.remaining)
        places.places stack.cursors := by
  intro stack
  refine ⟨?_, nested_run (.start octets) steps, stack.stepped_step, fun _ keeps => keeps.suffix,
    fun _ _ entered keeps level => run_detour entered keeps level, ?_⟩
  · intro cursor _
    have total := cursor.position_add_remaining
    exact ⟨by omega, by omega, cursor.drop_position⟩
  · intro sizes addressable
    obtain ⟨places, ran, marks⟩ := (Machine.PlaceStack.marks_start addressable).run steps
    have each := List.Forall₂.cons marks.top marks.below
    exact ⟨places, ran, each.imp fun place cursor marked =>
      ⟨marked.octets, marked.position, marked.sound.within, marked.difference_eq⟩⟩

/-- A text behind its length, a part of two octets, and in there a length without a text. -/
def brokenPart : List CursorStep := [.counted, .enter 2, .octet, .counted, .word16]

theorem run_lawful_brokenPart :
    let octets : Octets := [0x02, 0x61, 0x62, 0x05, 0x63, 0x64]
    let outcome := (start octets).run brokenPart
    outcome.1 = [.ok (.octets [0x61, 0x62]), .ok .nothing, .ok (.number 5), .error .truncated,
      .error .truncated] ∧
    outcome.2.cursors.map Cursor.position = [1, 5] ∧
    Nested octets outcome.2.cursors
      [[[0x05], [], []], [[0x02, 0x61, 0x62], [0x05, 0x63]]] ∧
    (∀ inside, outcome.2.Keeps inside →
      outcome.2.below <:+ (outcome.2.run inside).2.below) ∧
    ∃ places, (Machine.PlaceStack.start octets).run 65536 brokenPart =
      some (outcome.1, places) := by
  intro octets outcome
  obtain ⟨_, nested, _, kept, _, byPosition⟩ := run_lawful octets brokenPart
  obtain ⟨places, ran, _⟩ := byPosition 65536 (by decide)
  exact ⟨rfl, rfl, nested, kept, places, ran⟩

end CursorStack

end ProgrammeGuide
