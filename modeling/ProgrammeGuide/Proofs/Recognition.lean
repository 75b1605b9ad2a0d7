import Mathlib.Computability.Language
import ProgrammeGuide.Proofs.FixedWidth
import ProgrammeGuide.Proofs.ReadBack

/-!
Readers as recognisers. The forms are languages of octets. What a recogniser takes off the front of
its input is always a word of its form, and what decides a form succeeds on the words of the form
and calls everything else truncated. Both are composed as the readers are.
-/

open scoped Computability

namespace ProgrammeGuide

abbrev Form := Language UInt8

namespace Form

def anything : Form := {_octets | True}

def exactly (count : Nat) : Form := {octets | octets.length = count}

def atLeast (count : Nat) : Form := {octets | count ≤ octets.length}

def multipleOf (width : Nat) : Form := {octets | octets.length % width = 0}

/-- An octet, and behind it what this octet asks for. -/
def led (next : UInt8 → Form) : Form :=
  {octets | ∃ first rest, octets = first :: rest ∧ rest ∈ next first}

/-- An octet with a length, then that many octets. -/
def measured : Form := led fun count => exactly count.toNat

theorem mem_exactly {count : Nat} {octets : Octets} :
    octets ∈ exactly count ↔ octets.length = count := Iff.rfl

theorem mem_atLeast {count : Nat} {octets : Octets} :
    octets ∈ atLeast count ↔ count ≤ octets.length := Iff.rfl

theorem exactly_zero : exactly 0 = 1 := Set.ext fun _ => List.length_eq_zero_iff

theorem exactly_mul (count more : Nat) : exactly count * exactly more = exactly (count + more) := by
  ext octets
  rw [Language.mem_mul, mem_exactly]
  constructor
  · rintro ⟨taken, size, rest, behind, rfl⟩
    rw [List.length_append, mem_exactly.mp size, mem_exactly.mp behind]
  · intro both
    refine ⟨octets.take count, ?_, octets.drop count, ?_, List.take_append_drop count octets⟩
    · rw [mem_exactly, List.length_take]
      omega
    · rw [mem_exactly, List.length_drop]
      omega

theorem exactly_mul_anything (count : Nat) : exactly count * anything = atLeast count := by
  ext octets
  rw [Language.mem_mul, mem_atLeast]
  constructor
  · rintro ⟨taken, size, rest, _, rfl⟩
    rw [List.length_append, mem_exactly.mp size]
    omega
  · intro enough
    exact ⟨octets.take count, List.length_take_of_le enough, octets.drop count, trivial,
      List.take_append_drop count octets⟩

end Form

/-- The check succeeds on the octets if they have the form, and else blames them on the cause. -/
structure Judges {α : Type} (check : Octets → Except ReadError α) (form : Form)
    (blame : ReadError) (octets : Octets) : Prop where
  accepts : octets ∈ form → ∃ value, check octets = .ok value
  rejects : octets ∉ form → check octets = .error blame

theorem Judges.map {α β : Type} {check : Octets → Except ReadError α} {form : Form}
    {blame : ReadError} {octets : Octets} (judges : Judges check form blame octets)
    (change : α → β) : Judges (fun body => (check body).map change) form blame octets := by
  constructor
  · intro member
    obtain ⟨value, ran⟩ := judges.accepts member
    exact ⟨change value, by rw [ran]; rfl⟩
  · intro outside
    rw [judges.rejects outside]
    rfl

namespace Reader

variable {α β : Type}

structure Recognises (reader : Reader α) (form : Form) : Prop where
  accepts : ∀ taken ∈ form, ∀ rest, ∃ value, reader.run (taken ++ rest) = .ok (value, rest)
  sound : ∀ input value rest, reader.run input = .ok (value, rest) →
    ∃ taken ∈ form, taken ++ rest = input
  truncates : ∀ input cause, reader.run input = .error cause → cause = .truncated

def Decides (reader : Reader α) (form : Form) : Prop :=
  ∀ input, Judges reader.run form .truncated input

variable {first : Reader α} {next : α → Reader β} {before behind : Form}

theorem HasWidth.map {width : Nat} (fixed : first.HasWidth width) (change : α → β) :
    (change <$> first).HasWidth width := by
  rw [map_eq_pure_bind]
  exact fixed.bind fun value => hasWidth_pure (change value)

theorem HasWidth.recognises {width : Nat} (fixed : first.HasWidth width) :
    first.Recognises (.exactly width) := by
  refine ⟨?_, ?_, ?_⟩
  · intro taken size rest
    obtain ⟨value, ran⟩ := fixed.reads taken size
    exact ⟨value, ran rest⟩
  · intro input value rest ran
    by_cases enough : width ≤ input.length
    · obtain ⟨_, found⟩ := fixed.run_eq enough
      rw [ran] at found
      cases found
      exact ⟨input.take width, List.length_take_of_le enough, List.take_append_drop width input⟩
    · rw [fixed.truncates input (Nat.lt_of_not_le enough)] at ran
      cases ran
  · intro input cause ran
    by_cases enough : width ≤ input.length
    · obtain ⟨_, found⟩ := fixed.run_eq enough
      rw [ran] at found
      cases found
    · rw [fixed.truncates input (Nat.lt_of_not_le enough)] at ran
      cases ran
      rfl

theorem Recognises.bind (starts : first.Recognises before)
    (continues : ∀ value, (next value).Recognises behind) :
    (first >>= next).Recognises (before * behind) := by
  refine ⟨?_, ?_, ?_⟩
  · intro taken member rest
    obtain ⟨front, frontMember, back, backMember, rfl⟩ := Language.mem_mul.mp member
    obtain ⟨middle, ran⟩ := starts.accepts front frontMember (back ++ rest)
    obtain ⟨value, ended⟩ := (continues middle).accepts back backMember rest
    rw [List.append_assoc]
    exact ⟨value, run_bind_eq_ok.mpr ⟨middle, back ++ rest, ran, ended⟩⟩
  · intro input value rest ran
    obtain ⟨middle, left, started, ended⟩ := run_bind_eq_ok.mp ran
    obtain ⟨front, frontMember, rfl⟩ := starts.sound input middle left started
    obtain ⟨back, backMember, rfl⟩ := (continues middle).sound left value rest ended
    exact ⟨front ++ back, Language.append_mem_mul frontMember backMember,
      List.append_assoc front back rest⟩
  · intro input cause ran
    rw [run_bind] at ran
    cases started : first.run input with
    | error =>
        rw [started] at ran
        cases ran
        exact starts.truncates input cause started
    | ok result =>
        rw [started] at ran
        exact (continues result.1).truncates result.2 cause ran

theorem recognises_led {next : UInt8 → Reader β} {form : UInt8 → Form}
    (continues : ∀ first, (next first).Recognises (form first)) :
    (octet >>= next).Recognises (.led form) := by
  refine ⟨?_, ?_, ?_⟩
  · rintro _ ⟨first, taken, rfl, member⟩ rest
    exact (continues first).accepts taken member rest
  · intro input value rest ran
    obtain ⟨first, left, started, ended⟩ := run_bind_eq_ok.mp ran
    obtain rfl := run_octet_eq_ok.mp started
    obtain ⟨taken, member, rfl⟩ := (continues first).sound left value rest ended
    exact ⟨first :: taken, ⟨first, taken, rfl, member⟩, rfl⟩
  · intro input cause ran
    cases input with
    | nil =>
        cases ran
        rfl
    | cons first rest => exact (continues first).truncates rest cause ran

theorem hasWidth_take (count : Nat) : (take count).HasWidth count := by
  constructor
  · intro taken size
    exact ⟨taken, reads_take size⟩
  · intro input short
    exact run_take_eq_error short

theorem recognises_counted : Reader.counted.Recognises .measured :=
  recognises_led fun count => (hasWidth_take count.toNat).recognises

/-- What the next reader makes of the rest has to be known only for the rests that are left. -/
theorem Recognises.judges {input : Octets} (starts : first.Recognises before)
    (continues : ∀ value taken rest, taken ∈ before → taken ++ rest = input →
      Judges (next value).run behind .truncated rest) :
    Judges (first >>= next).run (before * behind) .truncated input := by
  constructor
  · intro member
    obtain ⟨front, frontMember, back, backMember, rfl⟩ := Language.mem_mul.mp member
    obtain ⟨middle, ran⟩ := starts.accepts front frontMember back
    obtain ⟨⟨value, rest⟩, ended⟩ :=
      (continues middle front back frontMember rfl).accepts backMember
    exact ⟨(value, rest), run_bind_eq_ok.mpr ⟨middle, back, ran, ended⟩⟩
  · intro outside
    rw [run_bind]
    cases started : first.run input with
    | error cause => rw [starts.truncates input cause started]
    | ok result =>
        obtain ⟨middle, left⟩ := result
        obtain ⟨front, frontMember, rfl⟩ := starts.sound input middle left started
        exact (continues middle front left frontMember rfl).rejects fun backMember =>
          outside (Language.append_mem_mul frontMember backMember)

theorem Recognises.decides (starts : first.Recognises before)
    (continues : ∀ value, (next value).Decides behind) :
    (first >>= next).Decides (before * behind) :=
  fun _ => starts.judges fun value _ rest _ _ => continues value rest

theorem judges_led {next : UInt8 → Reader β} {form : UInt8 → Form} {input : Octets}
    (continues : ∀ first rest, first :: rest = input →
      Judges (next first).run (form first) .truncated rest) :
    Judges (octet >>= next).run (.led form) .truncated input := by
  constructor
  · rintro ⟨first, rest, rfl, member⟩
    exact (continues first rest rfl).accepts member
  · intro outside
    cases input with
    | nil => rfl
    | cons first rest =>
        exact (continues first rest rfl).rejects fun member => outside ⟨first, rest, rfl, member⟩

theorem decides_led {next : UInt8 → Reader β} {form : UInt8 → Form}
    (continues : ∀ first, (next first).Decides (form first)) :
    (octet >>= next).Decides (.led form) :=
  fun _ => judges_led fun first rest _ => continues first rest

theorem decides_pure (value : α) : (pure value : Reader α).Decides .anything := by
  intro input
  exact ⟨fun _ => ⟨(value, input), rfl⟩, fun outside => absurd trivial outside⟩

theorem decides_takeRest : takeRest.Decides .anything := by
  intro input
  exact ⟨fun _ => ⟨(input, []), rfl⟩, fun outside => absurd trivial outside⟩

theorem decides_takeUpTo (count : Nat) {next : Octets → Reader β}
    (continues : ∀ taken, (next taken).Decides .anything) :
    (takeUpTo count >>= next).Decides .anything := by
  intro input
  exact ⟨fun _ => (continues _ _).accepts trivial, fun outside => absurd trivial outside⟩

theorem judges_takeUpTo {count : Nat} {input : Octets} (enough : count ≤ input.length)
    {next : Octets → Reader β} (continues : ∀ taken, (next taken).Decides behind) :
    Judges (takeUpTo count >>= next).run (.exactly count * behind) .truncated input := by
  have exact : (take count).run input = (takeUpTo count).run input := by
    simp only [take, List.length_take_of_le enough, if_true, takeUpTo]
  have same : (take count >>= next).run input = (takeUpTo count >>= next).run input := by
    rw [run_bind, run_bind, exact]
  have judges := (hasWidth_take count).recognises.decides continues input
  exact ⟨fun member => same ▸ judges.accepts member, fun outside => same ▸ judges.rejects outside⟩

theorem Decides.bind_pure (decides : first.Decides before) (change : α → β) :
    (first >>= fun value => pure (change value)).Decides before := by
  intro input
  constructor
  · intro member
    obtain ⟨⟨value, rest⟩, ran⟩ := (decides input).accepts member
    exact ⟨(change value, rest), run_bind_eq_ok.mpr ⟨value, rest, ran, rfl⟩⟩
  · intro outside
    rw [run_bind, (decides input).rejects outside]

theorem Decides.parse (decides : first.Decides before) (body : Octets) :
    Judges first.parse before .truncated body := (decides body).map Prod.fst

theorem Recognises.parse (recognises : first.Recognises before) (body : Octets) :
    Judges first.parse (before * .anything) .truncated body := by
  have decides := recognises.decides fun value => decides_pure value
  rw [bind_pure] at decides
  exact decides.parse body

theorem HasWidth.parse {width : Nat} (fixed : first.HasWidth width) (body : Octets) :
    Judges first.parse (.atLeast width) .truncated body := by
  rw [← Form.exactly_mul_anything]
  exact fixed.recognises.parse body

theorem Recognises.bind_pure (recognises : first.Recognises before) (change : α → β) :
    (first >>= fun value => pure (change value)).Recognises before := by
  have bound := recognises.bind fun value => (hasWidth_pure (change value)).recognises
  rw [Form.exactly_zero, mul_one] at bound
  exact bound

theorem Recognises.map (recognises : first.Recognises before) (change : α → β) :
    (change <$> first).Recognises before := by
  rw [map_eq_pure_bind]
  exact recognises.bind_pure change

/-- Repeated to the end, a recogniser decides whether its input falls into words of its form. -/
theorem Recognises.untilEnd (recognises : first.Recognises before) (progresses : first.Progresses) :
    (untilEnd first progresses).Decides before∗ := by
  intro input
  constructor
  · intro member
    obtain ⟨words, rfl, legal⟩ := Language.mem_kstar.mp member
    -- No word is empty, as the reader takes something for each: they are read one after the other.
    have whole : (repeated first progresses words.flatten).2 = [] := by
      induction words with
      | nil =>
          cases ran : first.run [] with
          | error cause => exact congrArg Prod.snd (repeated_of_error ran)
          | ok result => exact absurd (progresses [] result.1 result.2 ran) (Nat.not_lt_zero _)
      | cons word others ih =>
          obtain ⟨own, rest⟩ := List.forall_mem_cons.mp legal
          obtain ⟨value, ran⟩ := recognises.accepts word own others.flatten
          rw [List.flatten_cons, repeated_of_ok ran]
          exact ih rest (Language.join_mem_kstar rest)
    refine ⟨((repeated first progresses words.flatten).1, []), ?_⟩
    simp only [Reader.untilEnd]
    split
    · rename_i values found
      rw [found]
    · rename_i found
      rw [found] at whole
      cases whole
  · intro outside
    have stuck : (repeated first progresses input).2 ≠ [] := by
      intro whole
      apply outside
      clear outside
      induction input using progresses.induction with
      | stuck input cause ran =>
          rw [repeated_of_error ran] at whole
          obtain rfl : input = [] := whole
          exact Language.nil_mem_kstar before
      | step input value rest ran ih =>
          rw [repeated_of_ok ran] at whole
          obtain ⟨taken, member, rfl⟩ := recognises.sound input value rest ran
          obtain ⟨words, rfl, legal⟩ := Language.mem_kstar.mp (ih whole)
          exact Language.mem_kstar.mpr
            ⟨taken :: words, rfl, List.forall_mem_cons.mpr ⟨member, legal⟩⟩
    simp only [Reader.untilEnd]
    split
    · rename_i values found
      exact absurd (congrArg Prod.snd found) stuck
    · rfl

end Reader

end ProgrammeGuide
