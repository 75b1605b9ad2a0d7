import ProgrammeGuide.Time.Duration

/-!
Durations written and read back. A number of seconds below one hundred hours has one written form,
and the durations that come back as they were sent are just those forms. All others are put right
when they are written again, or cannot be written at all.
-/

namespace ProgrammeGuide.Duration

/-- Proper decimals, with less than sixty minutes and less than sixty seconds. -/
structure Canonical (duration : Duration) : Prop where
  hours : BinaryDecimal.Proper duration.hours
  minutes : BinaryDecimal.Proper duration.minutes
  seconds : BinaryDecimal.Proper duration.seconds
  minutes_lt : BinaryDecimal.value duration.minutes < 60
  seconds_lt : BinaryDecimal.value duration.seconds < 60

variable {total : Nat} {duration : Duration}

theorem ofSeconds?_of_lt (short : total < 360000) :
    ofSeconds? total = some ⟨BinaryDecimal.encode (total / 3600),
      BinaryDecimal.encode (total / 60 % 60), BinaryDecimal.encode (total % 60)⟩ :=
  if_pos (by omega)

theorem ofSeconds?_of_le (long : 360000 ≤ total) : ofSeconds? total = none :=
  if_neg (by omega)

theorem lt_of_ofSeconds? (written : ofSeconds? total = some duration) : total < 360000 := by
  rcases Nat.lt_or_ge total 360000 with short | long
  · exact short
  · rw [ofSeconds?_of_le long] at written
    cases written

theorem canonical_of_ofSeconds? (written : ofSeconds? total = some duration) :
    duration.Canonical ∧ duration.totalSeconds = total := by
  have short := lt_of_ofSeconds? written
  rw [ofSeconds?_of_lt short] at written
  cases written
  have hours : total / 3600 < 100 := by omega
  have minutes : total / 60 % 60 < 60 := by omega
  have seconds : total % 60 < 60 := by omega
  have minutesSmall := Nat.lt_trans minutes (by decide : 60 < 100)
  have secondsSmall := Nat.lt_trans seconds (by decide : 60 < 100)
  refine ⟨⟨?_, ?_, ?_, ?_, ?_⟩, ?_⟩
  · exact BinaryDecimal.proper_encode hours
  · exact BinaryDecimal.proper_encode minutesSmall
  · exact BinaryDecimal.proper_encode secondsSmall
  · rwa [BinaryDecimal.value_encode minutesSmall]
  · rwa [BinaryDecimal.value_encode secondsSmall]
  · simp only [totalSeconds, BinaryDecimal.value_encode hours,
      BinaryDecimal.value_encode minutesSmall, BinaryDecimal.value_encode secondsSmall]
    omega

theorem ofSeconds?_totalSeconds (canonical : duration.Canonical) :
    ofSeconds? duration.totalSeconds = some duration := by
  have hours := BinaryDecimal.value_lt canonical.hours
  have minutes := canonical.minutes_lt
  have seconds := canonical.seconds_lt
  -- No field carries over into the next one, so the quotients are the fields again.
  have hoursBack : duration.totalSeconds / 3600 = BinaryDecimal.value duration.hours := by
    simp only [totalSeconds]
    omega
  have minutesBack : duration.totalSeconds / 60 % 60 = BinaryDecimal.value duration.minutes := by
    simp only [totalSeconds]
    omega
  have secondsBack : duration.totalSeconds % 60 = BinaryDecimal.value duration.seconds := by
    simp only [totalSeconds]
    omega
  rw [ofSeconds?, hoursBack, if_pos hours, minutesBack, secondsBack,
    BinaryDecimal.encode_value canonical.hours, BinaryDecimal.encode_value canonical.minutes,
    BinaryDecimal.encode_value canonical.seconds]

theorem ofSeconds?_eq_some_iff :
    ofSeconds? total = some duration ↔ duration.Canonical ∧ duration.totalSeconds = total := by
  constructor
  · exact canonical_of_ofSeconds?
  · rintro ⟨canonical, rfl⟩
    exact ofSeconds?_totalSeconds canonical

/-- Below one hundred hours every number of seconds is written in its one canonical form, and from
there on in none. A duration comes back as it was sent exactly if it is canonical. Whatever is sent
comes back as the canonical form of the same number of seconds, unless that is too long. -/
theorem ofSeconds?_canonical (total : Nat) (sent : Duration) :
    (360000 ≤ total ∧ ofSeconds? total = none ∨ total < 360000 ∧
      ∃ written, ofSeconds? total = some written ∧ written.totalSeconds = total ∧
        written.Canonical) ∧
    (∀ written, ofSeconds? total = some written ↔
      written.Canonical ∧ written.totalSeconds = total) ∧
    (ofSeconds? sent.totalSeconds = some sent ↔ sent.Canonical) ∧
    (ofSeconds? sent.totalSeconds = none ∨ ∃ written, ofSeconds? sent.totalSeconds = some written ∧
      written.Canonical ∧ written.totalSeconds = sent.totalSeconds) := by
  refine ⟨?_, fun written => ofSeconds?_eq_some_iff, ?_, ?_⟩
  · rcases Nat.lt_or_ge total 360000 with short | long
    · have written := ofSeconds?_of_lt short
      obtain ⟨canonical, same⟩ := canonical_of_ofSeconds? written
      exact Or.inr ⟨short, _, written, same, canonical⟩
    · exact Or.inl ⟨long, ofSeconds?_of_le long⟩
  · rw [ofSeconds?_eq_some_iff]
    exact and_iff_left rfl
  · cases found : ofSeconds? sent.totalSeconds with
    | none => exact Or.inl rfl
    | some written => exact Or.inr ⟨written, rfl, canonical_of_ofSeconds? found⟩

-- Sixty-four minutes, by a digit that is none, and ninety-nine seconds.
example : ofSeconds? (⟨0x01, 0x5E, 0x99⟩ : Duration).totalSeconds = some ⟨0x02, 0x05, 0x39⟩ := by
  decide

end ProgrammeGuide.Duration
