import ProgrammeGuide.Proofs.Machine.Attempts
import ProgrammeGuide.Proofs.Recognition

/-!
Attempts that follow a reader, part by part: what follows the parts of a sequence follows the
sequence, and a repetition of attempts comes to an end with the values that the repeated reader
gives.
-/

namespace ProgrammeGuide

namespace Reader

variable {α : Type} {reader other : Reader α} {progresses : reader.Progresses}

/-- What a repetition reads depends on the successes of its reader alone. -/
theorem repeated_congr {otherProgresses : other.Progresses}
    (same : ∀ input value rest,
      other.run input = .ok (value, rest) ↔ reader.run input = .ok (value, rest))
    (input : Octets) : repeated other otherProgresses input = repeated reader progresses input := by
  induction input using progresses.induction with
  | stuck input cause ran =>
      cases otherRan : other.run input with
      | error otherCause => rw [repeated_of_error ran, repeated_of_error otherRan]
      | ok result =>
          rw [(same input result.1 result.2).mp otherRan] at ran
          cases ran
  | step input value rest ran ih =>
      rw [repeated_of_ok ran, repeated_of_ok ((same input value rest).mpr ran), ih]

theorem run_declared_eq_ok {input rest : Octets} {value : α} :
    reader.declared.run input = .ok (value, rest) ↔ reader.run input = .ok (value, rest) := by
  simp only [declared]
  cases reader.run input <;> simp [Except.mapError]

theorem run_declared_eq_error {input : Octets} {cause : ReadError} :
    reader.declared.run input = .error cause ↔
      cause = .malformedLength ∧ ∃ failure, reader.run input = .error failure := by
  simp only [declared]
  cases reader.run input <;> simp [Except.mapError, eq_comm]

def both {β : Type} (first : Reader α) (second : Reader β) : Reader (α × β) := do
  let value ← first
  let another ← second
  pure (value, another)

theorem HasWidth.both {β : Type} {second : Reader β} {width more : Nat}
    (fixed : reader.HasWidth width) (also : second.HasWidth more) :
    (reader.both second).HasWidth (width + more) :=
  fixed.bind fun _ => also.bind fun _ => hasWidth_pure _

/-- What holds of every value that is read from fewer than `bound` octets. -/
theorem forall_repeated {property : α → Prop} {bound : Nat}
    (holds : ∀ input value rest, input.length < bound → reader.run input = .ok (value, rest) →
      property value)
    {input : Octets} (short : input.length < bound) :
    ∀ value ∈ (repeated reader progresses input).1, property value := by
  induction input using progresses.induction with
  | stuck input cause ran =>
      rw [repeated_of_error ran]
      exact List.forall_mem_nil _
  | step input value rest ran ih =>
      rw [repeated_of_ok ran]
      have shorter := (reader.leaves_suffix ran).length_le
      exact List.forall_mem_cons.mpr
        ⟨holds input value rest short ran, ih (Nat.lt_of_le_of_lt shorter short)⟩

end Reader

namespace Machine.Attempt

variable {α β : Type} {sizes : Nat}

/-- From every sound place the attempt has the outcome of the reader, and goes to a sound place. -/
structure Follows (sizes : Nat) (attempt : Attempt α) (reader : Reader α) : Prop where
  accepts : ∀ {place value rest}, place.Sound sizes → reader.run place.unread = .ok (value, rest) →
    ∃ left, left.Sound sizes ∧ left.unread = rest ∧
      attempt.run sizes place = some (.ok value, left)
  rejects : ∀ {place cause}, place.Sound sizes → reader.run place.unread = .error cause →
    ∃ left, left.Sound sizes ∧ attempt.run sizes place = some (.error cause, left)

/-- The attempt has the outcome of the reader and goes on by the octets that it takes; where the
reader fails, it stays. -/
structure Copies (sizes : Nat) (attempt : Attempt α) (reader : Reader α) : Prop where
  accepts : ∀ {place value rest}, place.Sound sizes → reader.run place.unread = .ok (value, rest) →
    attempt.run sizes place =
      some (.ok value, place.advance (place.unread.length - rest.length))
  rejects : ∀ {place cause}, place.Sound sizes → reader.run place.unread = .error cause →
    attempt.run sizes place = some (.error cause, place)

theorem Copies.follows {attempt : Attempt α} {reader : Reader α}
    (copies : Copies sizes attempt reader) : Follows sizes attempt reader := by
  constructor
  · intro place value rest sound ran
    exact ⟨_, Place.sound_advance sound (Nat.sub_le _ _),
      place.unread_behind (reader.leaves_suffix ran), copies.accepts sound ran⟩
  · intro place cause sound ran
    exact ⟨place, sound, copies.rejects sound ran⟩

section Sequence

variable {attempt : Attempt α} {next : α → Attempt β} {reader : Reader α} {more : α → Reader β}

theorem follows_of_run {value : α}
    (ran : ∀ place, attempt.run sizes place = some (.ok value, place)) :
    Follows sizes attempt (pure value) := by
  constructor
  · intro place found rest sound found
    cases found
    exact ⟨place, sound, rfl, ran place⟩
  · intro place cause sound failed
    cases failed

theorem follows_pure (value : α) : Follows sizes (pure value) (pure value) :=
  follows_of_run fun _ => run_pure

theorem Follows.outcome (follows : Follows sizes attempt reader) {place : Place}
    (sound : place.Sound sizes) :
    ∃ outcome left, left.Sound sizes ∧ attempt.run sizes place = some (outcome, left) := by
  cases ran : reader.run place.unread with
  | error cause =>
      obtain ⟨left, leftSound, found⟩ := follows.rejects sound ran
      exact ⟨.error cause, left, leftSound, found⟩
  | ok result =>
      obtain ⟨left, leftSound, _, found⟩ := follows.accepts sound ran
      exact ⟨.ok result.1, left, leftSound, found⟩

/-- What comes next may rely on its value being one that is read from fewer than `sizes` octets. -/
theorem Follows.bind_of (follows : Follows sizes attempt reader)
    (continues : ∀ input value rest, input.length < sizes →
      reader.run input = .ok (value, rest) → Follows sizes (next value) (more value)) :
    Follows sizes (attempt >>= next) (reader >>= more) := by
  constructor
  · intro place value rest sound ran
    obtain ⟨middle, behind, started, ended⟩ := Reader.run_bind_eq_ok.mp ran
    obtain ⟨left, leftSound, rfl, ranFirst⟩ := follows.accepts sound started
    rw [run_bind_of_ok ranFirst]
    exact (continues _ middle _ sound.unread_lt started).accepts leftSound ended
  · intro place cause sound ran
    rw [Reader.run_bind] at ran
    cases started : reader.run place.unread with
    | error failure =>
        rw [started] at ran
        cases ran
        obtain ⟨left, leftSound, ranFirst⟩ := follows.rejects sound started
        exact ⟨left, leftSound, run_bind_of_error ranFirst⟩
    | ok result =>
        rw [started] at ran
        obtain ⟨middle, behind⟩ := result
        obtain ⟨left, leftSound, rfl, ranFirst⟩ := follows.accepts sound started
        rw [run_bind_of_ok ranFirst]
        exact (continues _ middle _ sound.unread_lt started).rejects leftSound ran

theorem Follows.bind (follows : Follows sizes attempt reader)
    (continues : ∀ value, Follows sizes (next value) (more value)) :
    Follows sizes (attempt >>= next) (reader >>= more) :=
  follows.bind_of fun _ value _ _ _ => continues value

theorem Follows.map (follows : Follows sizes attempt reader) (change : α → β) :
    Follows sizes (attempt >>= fun value => pure (change value)) (change <$> reader) := by
  rw [map_eq_pure_bind]
  exact follows.bind fun value => follows_pure (change value)

theorem Follows.atomically (follows : Follows sizes attempt reader) :
    Follows sizes attempt.atomically reader := by
  constructor
  · intro place value rest sound ran
    obtain ⟨left, leftSound, behind, ranAttempt⟩ := follows.accepts sound ran
    refine ⟨left, leftSound, behind, ?_⟩
    rw [Attempt.atomically, run_bind_of_ok run_get, run_tryCatch_of_ok ranAttempt]
  · intro place cause sound ran
    obtain ⟨left, _, ranAttempt⟩ := follows.rejects sound ran
    exact ⟨place, sound, run_atomically_of_error ranAttempt⟩

theorem Follows.declared (follows : Follows sizes attempt reader) :
    Follows sizes (tryCatch attempt fun _ => throw .malformedLength) reader.declared := by
  constructor
  · intro place value rest sound ran
    obtain ⟨left, leftSound, behind, ranAttempt⟩ :=
      follows.accepts sound (Reader.run_declared_eq_ok.mp ran)
    exact ⟨left, leftSound, behind, run_tryCatch_of_ok ranAttempt⟩
  · intro place cause sound ran
    obtain ⟨rfl, failure, failed⟩ := Reader.run_declared_eq_error.mp ran
    obtain ⟨left, leftSound, ranAttempt⟩ := follows.rejects sound failed
    refine ⟨left, leftSound, ?_⟩
    rw [run_tryCatch_of_error ranAttempt, run_throw]

theorem Copies.map (copies : Copies sizes attempt reader) (change : α → β) :
    Copies sizes (attempt >>= fun value => pure (change value)) (change <$> reader) := by
  rw [map_eq_pure_bind]
  constructor
  · intro place value rest sound ran
    obtain ⟨found, left, taken, ended⟩ := Reader.run_bind_eq_ok.mp ran
    cases ended
    rw [run_bind_of_ok (copies.accepts sound taken), run_pure]
  · intro place cause sound ran
    rw [Reader.run_bind] at ran
    cases taken : reader.run place.unread with
    | error failure =>
        rw [taken] at ran
        cases ran
        exact run_bind_of_error (copies.rejects sound taken)
    | ok result =>
        rw [taken] at ran
        cases ran

theorem Copies.declared (copies : Copies sizes attempt reader) :
    Copies sizes (tryCatch attempt fun _ => throw .malformedLength) reader.declared := by
  constructor
  · intro place value rest sound ran
    exact run_tryCatch_of_ok (copies.accepts sound (Reader.run_declared_eq_ok.mp ran))
  · intro place cause sound ran
    obtain ⟨rfl, failure, failed⟩ := Reader.run_declared_eq_error.mp ran
    rw [run_tryCatch_of_error (copies.rejects sound failed), run_throw]

/-- Both or nothing. -/
theorem Copies.atomically (copies : Copies sizes attempt reader)
    (continues : ∀ value, Copies sizes (next value) (more value)) :
    Copies sizes (attempt >>= next).atomically (reader >>= more) := by
  constructor
  · intro place value rest sound ran
    obtain ⟨middle, left, started, ended⟩ := Reader.run_bind_eq_ok.mp ran
    have first := reader.leaves_suffix started
    have second := (more middle).leaves_suffix ended
    have behind := place.unread_behind first
    rw [← behind] at ended
    have ranBoth := (continues middle).accepts (Place.sound_advance sound (Nat.sub_le _ _)) ended
    rw [← run_bind_of_ok (copies.accepts sound started), behind, Place.advance_advance] at ranBoth
    have total : place.unread.length - left.length + (left.length - rest.length) =
        place.unread.length - rest.length := by
      have shorter := first.length_le
      have last := second.length_le
      omega
    rw [Attempt.atomically, run_bind_of_ok run_get, run_tryCatch_of_ok ranBoth, total]
  · intro place cause sound ran
    obtain ⟨left, _, failed⟩ :=
      (copies.follows.bind fun value => (continues value).follows).rejects sound ran
    exact run_atomically_of_error failed

/-- The outcome of an attempt and of more behind it that does not fail. -/
theorem Follows.parse_bind (follows : Follows sizes attempt reader) (result : α × Octets → β)
    (succeeds : ∀ value {left}, left.Sound sizes →
      ∃ last, (next value).run sizes left = some (.ok (result (value, left.unread)), last))
    {octets : Octets} (addressable : octets.length < sizes) :
    (attempt >>= next).parse sizes octets = some ((reader.run octets).map result) := by
  have sound := Place.sound_start addressable
  cases ran : reader.run octets with
  | error cause =>
      obtain ⟨left, _, failed⟩ := follows.rejects sound ran
      rw [Attempt.parse, run_bind_of_error failed]
      rfl
  | ok found =>
      obtain ⟨value, behind⟩ := found
      obtain ⟨left, leftSound, rfl, succeeded⟩ := follows.accepts sound ran
      obtain ⟨last, ended⟩ := succeeds value leftSound
      rw [Attempt.parse, run_bind_of_ok succeeded, ended]
      rfl

theorem Follows.parse (follows : Follows sizes attempt reader) {octets : Octets}
    (addressable : octets.length < sizes) :
    attempt.parse sizes octets = some (reader.parse octets) := by
  rw [← bind_pure attempt]
  exact follows.parse_bind Prod.fst (fun value left _ => ⟨left, run_pure⟩) addressable

theorem Follows.parse_rest (follows : Follows sizes attempt reader) {octets : Octets}
    (addressable : octets.length < sizes) :
    (do
      let value ← attempt
      let left ← rest
      pure (value, left) : Attempt (α × Octets)).parse sizes octets = some (reader.run octets) := by
  refine (follows.parse_bind id ?_ addressable).trans ?_
  · intro value left sound
    exact ⟨left, run_bind_of_ok (run_rest sound)⟩
  · cases reader.run octets <;> rfl

end Sequence

section Taking

variable {attempt : Attempt α} {reader : Reader α} {count : Nat}

/-- Both go behind so many octets, or stay where they are because there are fewer. -/
theorem copies_of_width (fixed : reader.HasWidth count)
    (enough : ∀ {place value rest}, place.Sound sizes → count ≤ place.unread.length →
      reader.run place.unread = .ok (value, rest) →
      attempt.run sizes place = some (.ok value, place.advance count))
    (short : ∀ {place}, place.Sound sizes → place.unread.length < count →
      attempt.run sizes place = some (.error .truncated, place)) :
    Copies sizes attempt reader := by
  constructor
  · intro place value rest sound ran
    rcases Nat.lt_or_ge place.unread.length count with tooShort | long
    · rw [fixed.truncates _ tooShort] at ran
      cases ran
    · obtain ⟨_, found⟩ := fixed.run_eq long
      have taken := enough sound long ran
      rw [found] at ran
      cases ran
      rw [taken, List.length_drop, Nat.sub_sub_self long]
  · intro place cause sound ran
    rcases Nat.lt_or_ge place.unread.length count with tooShort | long
    · rw [fixed.truncates _ tooShort] at ran
      cases ran
      exact short sound tooShort
    · obtain ⟨_, found⟩ := fixed.run_eq long
      rw [ran] at found
      cases found

theorem copies_take (count : Nat) : Copies sizes (take count) (Reader.take count) := by
  refine copies_of_width (Reader.hasWidth_take count) ?_ run_take_of_short
  intro place taken rest sound enough ran
  obtain ⟨size, split⟩ := Reader.run_take_eq_ok.mp ran
  rw [run_take_of_enough sound enough, split, ← size, List.take_left]

theorem follows_take (count : Nat) : Follows sizes (take count) (Reader.take count) :=
  (copies_take count).follows

theorem run_array_of_enough (fixed : reader.HasWidth count) {place : Place} {value : α}
    {rest : Octets} (sound : place.Sound sizes) (enough : count ≤ place.unread.length)
    (ran : reader.run place.unread = .ok (value, rest)) :
    (array count reader).run sizes place = some (.ok value, place.advance count) := by
  have size : (place.unread.take count).length = count := List.length_take_of_le enough
  -- The fields are read off the slice alone, with nothing behind them.
  obtain ⟨found, alike⟩ := fixed.reads _ size
  obtain rfl : found = value := by
    have whole := alike (place.unread.drop count)
    rw [List.take_append_drop, ran] at whole
    cases whole
    rfl
  have alone := alike []
  rw [List.append_nil] at alone
  have opened : opened? count reader (place.unread.take count) = some found := by
    simp only [opened?, if_pos size, alone]
  rw [array, run_bind_of_ok (run_take_of_enough sound enough), run_given opened]

theorem run_array_of_short {place : Place} (sound : place.Sound sizes)
    (short : place.unread.length < count) :
    (array count reader).run sizes place = some (.error .truncated, place) :=
  run_bind_of_error (run_take_of_short sound short)

theorem copies_array (fixed : reader.HasWidth count) :
    Copies sizes (array count reader) reader :=
  copies_of_width fixed (run_array_of_enough fixed) run_array_of_short

theorem follows_array (fixed : reader.HasWidth count) :
    Follows sizes (array count reader) reader := (copies_array fixed).follows

theorem copies_octet : Copies sizes octet Reader.octet := copies_array Reader.hasWidth_octet

theorem follows_octet : Follows sizes octet Reader.octet := copies_octet.follows

theorem copies_word16 : Copies sizes word16 Reader.word16 := copies_array Reader.hasWidth_word16

theorem follows_word16 : Follows sizes word16 Reader.word16 := copies_word16.follows

theorem copies_word32 : Copies sizes word32 Reader.word32 := copies_array Reader.hasWidth_word32

theorem follows_word32 : Follows sizes word32 Reader.word32 := copies_word32.follows

theorem copies_counted : Copies sizes counted Reader.counted :=
  copies_octet.atomically fun count => copies_take count.toNat

theorem follows_counted : Follows sizes counted Reader.counted := copies_counted.follows

theorem copies_takeRest : Copies sizes takeRest Reader.takeRest := by
  constructor
  · intro place taken rest sound ran
    cases ran
    rw [run_takeRest sound, List.length_nil, Nat.sub_zero, Place.advance, sound.length_unread,
      Place.finish]
  · intro place cause sound ran
    cases ran

theorem follows_takeRest : Follows sizes takeRest Reader.takeRest := copies_takeRest.follows

theorem run_declared_of_enough {place : Place} (sound : place.Sound sizes)
    (enough : count ≤ place.unread.length) :
    (declared count).run sizes place =
      some (.ok (place.unread.take count), place.advance count) :=
  run_tryCatch_of_ok (run_take_of_enough sound enough)

theorem run_declared_of_short {place : Place} (sound : place.Sound sizes)
    (short : place.unread.length < count) :
    (declared count).run sizes place = some (.error .malformedLength, place) :=
  run_tryCatch_of_error (run_take_of_short sound short)

/-- So many octets, or all that are left when there are fewer: the smaller count is taken. -/
def takeMost (count : Nat) : Attempt Octets := do
  let left ← remaining
  take (min count left)

/-- The same, but the shortage is found out by failing. -/
def declaredOrRest (count : Nat) : Attempt Octets :=
  tryCatch (declared count) fun _ => takeRest

theorem follows_takeUpTo {attempt : Attempt Octets}
    (enough : ∀ {place}, place.Sound sizes → count ≤ place.unread.length →
      attempt.run sizes place = some (.ok (place.unread.take count), place.advance count))
    (short : ∀ {place}, place.Sound sizes → place.unread.length < count →
      attempt.run sizes place = some (.ok place.unread, place.finish)) :
    Follows sizes attempt (Reader.takeUpTo count) := by
  constructor
  · intro place taken rest sound ran
    cases ran
    rcases Nat.lt_or_ge place.unread.length count with tooShort | long
    · refine ⟨place.finish, Place.sound_finish sound, ?_, ?_⟩
      · rw [place.unread_finish, List.drop_of_length_le (Nat.le_of_lt tooShort)]
      · rw [short sound tooShort, List.take_of_length_le (Nat.le_of_lt tooShort)]
    · exact ⟨_, Place.sound_advance sound long, place.unread_advance count, enough sound long⟩
  · intro place cause sound ran
    cases ran

theorem follows_takeMost (count : Nat) :
    Follows sizes (takeMost count) (Reader.takeUpTo count) := by
  refine follows_takeUpTo ?_ ?_
  · intro place sound enough
    rw [takeMost, run_bind_of_ok (run_remaining sound), Nat.min_eq_left enough,
      run_take_of_enough sound enough]
  · intro place sound short
    rw [takeMost, run_bind_of_ok (run_remaining sound), Nat.min_eq_right (Nat.le_of_lt short),
      run_take_of_enough sound (Nat.le_refl _), List.take_length, Place.advance,
      sound.length_unread, Place.finish]

theorem follows_declaredOrRest (count : Nat) :
    Follows sizes (declaredOrRest count) (Reader.takeUpTo count) := by
  refine follows_takeUpTo ?_ ?_
  · intro place sound enough
    exact run_tryCatch_of_ok (run_declared_of_enough sound enough)
  · intro place sound short
    rw [declaredOrRest, run_tryCatch_of_error (run_declared_of_short sound short),
      run_takeRest sound]

end Taking

section Repetition

variable {attempt : Attempt α} {reader : Reader α}

/-- How a repetition over the rest of a place ends: at the end of it, or with a failure before. -/
def Ended (ending : Option ReadError) (left : Place) (unread : Octets) : Prop :=
  (ending = none ∧ left.unread = [] ∧ unread = []) ∨ ((∃ cause, ending = some cause) ∧ unread ≠ [])

theorem Follows.run_rounds (follows : Follows sizes attempt reader)
    (progresses : reader.Progresses) {input : Octets} :
    ∀ {place : Place} {count : Nat}, place.Sound sizes → place.unread = input →
      input.length < count →
      ∃ ending left, left.Sound sizes ∧
        (attempt.rounds count).run sizes place =
          some (.ok ((Reader.repeated reader progresses input).1, ending), left) ∧
        Ended ending left (Reader.repeated reader progresses input).2 := by
  -- A round that succeeds takes an octet at least, so there always are rounds for what is left.
  induction input using progresses.induction with
  | stuck input cause ran =>
      rintro place (_ | more) sound rfl enough
      · exact absurd enough (Nat.not_lt_zero _)
      rw [Reader.repeated_of_error ran, rounds, run_bind_of_ok (run_remaining sound)]
      by_cases done : place.unread.length = 0
      · rw [if_pos done, run_pure]
        have nothing : place.unread = [] := List.eq_nil_of_length_eq_zero done
        exact ⟨none, place, sound, rfl, .inl ⟨rfl, nothing, nothing⟩⟩
      · obtain ⟨left, leftSound, failed⟩ := follows.rejects sound ran
        rw [if_neg done, run_bind_of_ok (run_caught failed), run_pure]
        exact ⟨some cause, left, leftSound, rfl,
          .inr ⟨⟨cause, rfl⟩, fun nothing => done (congrArg List.length nothing)⟩⟩
  | step input value rest ran ih =>
      rintro place (_ | more) sound rfl enough
      · exact absurd enough (Nat.not_lt_zero _)
      have shorter := progresses _ value rest ran
      obtain ⟨left, leftSound, behind, succeeded⟩ := follows.accepts sound ran
      obtain ⟨ending, last, lastSound, others, ended⟩ :=
        ih leftSound behind (Nat.lt_of_lt_of_le shorter (Nat.le_of_lt_succ enough))
      rw [Reader.repeated_of_ok ran, rounds, run_bind_of_ok (run_remaining sound),
        if_neg (Nat.ne_of_gt (Nat.zero_lt_of_lt shorter)), run_bind_of_ok (run_caught succeeded)]
      simp only
      rw [run_bind_of_ok others, run_pure]
      exact ⟨ending, last, lastSound, rfl, ended⟩

theorem Follows.run_repeated (follows : Follows sizes attempt reader)
    (progresses : reader.Progresses) {place : Place} (sound : place.Sound sizes) :
    ∃ ending left, left.Sound sizes ∧
      attempt.repeated.run sizes place =
        some (.ok ((Reader.repeated reader progresses place.unread).1, ending), left) ∧
      Ended ending left (Reader.repeated reader progresses place.unread).2 := by
  rw [Attempt.repeated, run_bind_of_ok (run_remaining sound)]
  exact follows.run_rounds progresses sound rfl (Nat.lt_succ_self _)

theorem Follows.valuesIn (follows : Follows sizes attempt reader) (progresses : reader.Progresses)
    {octets : Octets} (addressable : octets.length < sizes) :
    attempt.valuesIn sizes octets = some (Reader.repeated reader progresses octets).1 := by
  obtain ⟨ending, left, _, ran, _⟩ :=
    follows.run_repeated progresses (Place.sound_start addressable)
  rw [Attempt.valuesIn, Attempt.parse, ran]
  rfl

theorem Follows.parse_repeated {first : Attempt β} {one : Reader β}
    (head : Follows sizes first one) (follows : Follows sizes attempt reader)
    (progresses : reader.Progresses) {octets : Octets} (addressable : octets.length < sizes) :
    (do
      let value ← first
      let (values, _) ← attempt.repeated
      pure (value, values) : Attempt (β × List α)).parse sizes octets =
      some ((one.run octets).map fun (value, rest) =>
        (value, (Reader.repeated reader progresses rest).1)) := by
  refine head.parse_bind _ ?_ addressable
  intro value left sound
  obtain ⟨ending, last, _, ran, _⟩ := follows.run_repeated progresses sound
  exact ⟨last, run_bind_of_ok ran⟩

theorem Follows.listed (follows : Follows sizes attempt reader) (progresses : reader.Progresses)
    {octets : Octets} (addressable : octets.length < sizes) :
    Follows sizes (listed octets attempt) (pure (Reader.repeated reader progresses octets).1) := by
  refine follows_of_run fun place => ?_
  rw [Attempt.listed, run_bind_of_ok run_read, run_given (follows.valuesIn progresses addressable)]

theorem Follows.area (follows : Follows sizes attempt reader) (progresses : reader.Progresses)
    (count : Nat) {next : List α → Attempt β} {more : List α → Reader β}
    (continues : ∀ values, Follows sizes (next values) (more values)) :
    Follows sizes (takeMost count >>= fun area => Attempt.listed area attempt >>= next)
      (Reader.takeUpTo count >>= fun area => more (Reader.repeated reader progresses area).1) := by
  refine (follows_takeMost count).bind_of fun input area rest addressable ran => ?_
  cases ran
  have short : (input.take count).length < sizes :=
    Nat.lt_of_le_of_lt (List.length_take_le' count input) addressable
  exact (follows.listed progresses short).bind continues

theorem Follows.untilEnd (follows : Follows sizes attempt reader)
    (progresses : reader.Progresses) :
    Follows sizes (untilEnd attempt) (Reader.untilEnd reader progresses) := by
  constructor
  · intro place values rest sound ran
    obtain ⟨ending, left, leftSound, found, ended⟩ := follows.run_repeated progresses sound
    have started : (Attempt.untilEnd attempt).run sizes place = _ := run_bind_of_ok found
    simp only [Reader.untilEnd] at ran
    split at ran
    · -- Nothing is left over, so the rounds have ended there as well and not in a failure.
      rename_i found whole
      cases ran
      rw [whole] at started ended
      obtain ⟨rfl, nothing, _⟩ | ⟨_, something⟩ := ended
      · exact ⟨left, leftSound, nothing, started⟩
      · exact absurd rfl something
    · cases ran
  · intro place cause sound ran
    obtain ⟨ending, left, leftSound, found, ended⟩ := follows.run_repeated progresses sound
    have started : (Attempt.untilEnd attempt).run sizes place = _ := run_bind_of_ok found
    simp only [Reader.untilEnd] at ran
    split at ran
    · cases ran
    · rename_i found first others partly
      cases ran
      rw [partly] at started ended
      obtain ⟨_, _, nothing⟩ | ⟨⟨failure, rfl⟩, _⟩ := ended
      · cases nothing
      · exact ⟨left, leftSound, started⟩

end Repetition

theorem Follows.together {first : Attempt α} {second : Attempt β} {one : Reader α}
    {other : Reader β} (follows : Follows sizes first one) (also : Follows sizes second other)
    (truncates : ∀ input cause, one.run input = .error cause → cause = .truncated)
    (alsoTruncates : ∀ input cause, other.run input = .error cause → cause = .truncated) :
    Follows sizes (together first second) (Reader.both one other) := by
  constructor
  · intro place found rest sound ran
    obtain ⟨value, behind, started, ran⟩ := Reader.run_bind_eq_ok.mp ran
    obtain ⟨another, last, ended, ran⟩ := Reader.run_bind_eq_ok.mp ran
    cases ran
    obtain ⟨left, leftSound, rfl, ranFirst⟩ := follows.accepts sound started
    obtain ⟨stop, stopSound, rfl, ranSecond⟩ := also.accepts leftSound ended
    refine ⟨stop, stopSound, rfl, ?_⟩
    rw [Attempt.together, run_bind_of_ok (run_caught ranFirst),
      run_bind_of_ok (run_caught ranSecond), run_pure]
  · intro place cause sound ran
    rw [Reader.both, Reader.run_bind] at ran
    cases started : one.run place.unread with
    | error failure =>
        obtain rfl : failure = .truncated := truncates _ _ started
        rw [started] at ran
        cases ran
        obtain ⟨left, leftSound, ranFirst⟩ := follows.rejects sound started
        -- The second one is attempted all the same, and it does not matter how it ends.
        obtain ⟨outcome, last, lastSound, ranSecond⟩ := also.outcome leftSound
        refine ⟨last, lastSound, ?_⟩
        rw [Attempt.together, run_bind_of_ok (run_caught ranFirst),
          run_bind_of_ok (run_caught ranSecond), run_throw]
    | ok result =>
        obtain ⟨value, behind⟩ := result
        obtain ⟨left, leftSound, rfl, ranFirst⟩ := follows.accepts sound started
        rw [started] at ran
        cases ended : other.run left.unread with
        | error failure =>
            obtain rfl : failure = .truncated := alsoTruncates _ _ ended
            simp only [Reader.run_bind, ended] at ran
            cases ran
            obtain ⟨last, lastSound, ranSecond⟩ := also.rejects leftSound ended
            refine ⟨last, lastSound, ?_⟩
            rw [Attempt.together, run_bind_of_ok (run_caught ranFirst),
              run_bind_of_ok (run_caught ranSecond), run_throw]
        | ok result =>
            simp only [Reader.run_bind, ended] at ran
            cases ran

end Machine.Attempt

end ProgrammeGuide
