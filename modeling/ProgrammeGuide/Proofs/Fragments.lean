import Mathlib.Data.List.Basic
import Mathlib.Data.List.Induction
import Mathlib.Data.List.Perm.Subperm
import ProgrammeGuide.Guide.LongDescription

/-!
What a long description is made of: the fragments that were appended to its text since it was
last emptied, here called its parts. They are followed beside the description, which keeps none
of them, and the description is shown to be put together from them.
-/

namespace ProgrammeGuide

theorem take_append_take {α : Type} (limit : Nat) (first second : List α) :
    (first.take limit ++ second).take limit = (first ++ second).take limit := by
  rcases Nat.le_total first.length limit with fits | exceeds
  · rw [List.take_of_length_le fits]
  · have full : (first.take limit).length = limit := List.length_take_of_le exceeds
    rw [List.take_append_of_le_length (Nat.le_of_eq full.symm), List.take_take, Nat.min_self,
      List.take_append_of_le_length exceeds]

theorem concat_eq_split_iff {α : Type} {values earlier later : List α} {value middle : α} :
    values ++ [value] = earlier ++ middle :: later ↔
      (values = earlier ∧ value = middle ∧ later = []) ∨
        ∃ between, values = earlier ++ middle :: between ∧ later = between ++ [value] := by
  constructor
  · intro split
    rcases List.eq_nil_or_concat later with rfl | ⟨between, final, rfl⟩
    · obtain ⟨same, last⟩ := List.append_inj' split rfl
      exact Or.inl ⟨same, by simpa using last, rfl⟩
    · rw [List.concat_eq_append, ← List.cons_append, ← List.append_assoc] at split
      obtain ⟨same, last⟩ := List.append_inj' split rfl
      obtain rfl : value = final := by simpa using last
      exact Or.inr ⟨between, same, List.concat_eq_append⟩
  · rintro (⟨rfl, rfl, rfl⟩ | ⟨between, rfl, rfl⟩)
    · rfl
    · simp

namespace Limits

theorem cutText_append (limits : Limits) (first second : Text) :
    limits.cutText ((limits.cutText first).append second) =
      limits.cutText (first.append second) := by
  unfold cutText
  cases limits.text with
  | none => rfl
  | some limit => simp only [Text.truncate, Text.append, take_append_take]

theorem cutItems_append (limits : Limits) (first second : List EventItem) :
    limits.cutItems (limits.cutItems first ++ second) = limits.cutItems (first ++ second) := by
  unfold cutItems
  cases limits.items with
  | none => rfl
  | some limit => exact take_append_take limit first second

theorem cutText_empty (limits : Limits) : limits.cutText .empty = .empty := by
  unfold cutText
  cases limits.text with
  | none => rfl
  | some limit => simp only [Text.truncate, Text.empty, List.take_nil]

theorem cutItems_nil (limits : Limits) : limits.cutItems [] = [] := by
  unfold cutItems
  cases limits.items with
  | none => rfl
  | some limit => exact List.take_nil

end Limits

namespace LongDescription

/-- The description that is made of these fragments: their texts and their items are put together
and cut once. -/
def joined (limits : Limits) (source : Option TableVersion) (bodies : List ExtendedEvent) :
    Option LongDescription :=
  bodies.getLast?.map fun last =>
    { text := limits.cutText ⟨bodies.flatMap fun body => body.text.octets⟩
      items := limits.cutItems (bodies.flatMap ExtendedEvent.items)
      lastFragment := last.number
      source := source }

variable (limits : Limits) (source : Option TableVersion)

theorem joined_nil : joined limits source [] = none := rfl

theorem joined_singleton (body : ExtendedEvent) :
    joined limits source [body] = some (start limits source body) := by
  simp [joined, start]

/-- Where the texts were cut in between does not show. -/
theorem extend_joined_concat (former : Option TableVersion) (earlier : List ExtendedEvent)
    (last body : ExtendedEvent) :
    extend limits source body (joined limits former (earlier ++ [last])) =
      if body.number = 0 ∧ former ≠ source then joined limits source [body]
      else if last.number < body.number then joined limits source (earlier ++ [last] ++ [body])
      else joined limits former (earlier ++ [last]) := by
  have known : joined limits former (earlier ++ [last]) = some {
      text := limits.cutText ⟨(earlier ++ [last]).flatMap fun body => body.text.octets⟩
      items := limits.cutItems ((earlier ++ [last]).flatMap ExtendedEvent.items)
      lastFragment := last.number
      source := former } := by
    rw [joined, List.getLast?_concat, Option.map_some]
  rw [known, joined_singleton, extend, ← known]
  split
  · rfl
  · split
    · simp only [joined, List.getLast?_concat, Option.map_some, append, limits.cutText_append,
        limits.cutItems_append]
      simp [Text.append]
    · rfl

end LongDescription

/-- A fragment of a long description with the version of the table in which it arrived. -/
structure Fragment where
  source : TableVersion
  body : ExtendedEvent
  deriving DecidableEq, Repr

namespace Fragment

def number (fragment : Fragment) : UInt8 := fragment.body.number

def join (limits : Limits) (description : Option LongDescription) (fragment : Fragment) :
    Option LongDescription :=
  LongDescription.extend limits (some fragment.source) fragment.body description

/-- The fragment begins anew a description whose last part came from elsewhere. -/
def Restarts (parts : List Fragment) (fragment : Fragment) : Prop :=
  fragment.number = 0 ∧ ∃ last, parts.getLast? = some last ∧ last.source ≠ fragment.source

/-- The fragment is appended to a description whose last part came from elsewhere. -/
def Intrudes (parts : List Fragment) (fragment : Fragment) : Prop :=
  ∃ last, parts.getLast? = some last ∧ last.source ≠ fragment.source ∧
    last.number < fragment.number

def gather (parts : List Fragment) (fragment : Fragment) : List Fragment :=
  match parts.getLast? with
  | none => if fragment.number = 0 then [fragment] else []
  | some last =>
      if fragment.number = 0 ∧ last.source ≠ fragment.source then [fragment]
      else if last.number < fragment.number then parts ++ [fragment]
      else parts

/-- The parts of the description that is left after all these fragments have arrived. -/
def parts (fragments : List Fragment) : List Fragment := fragments.foldl gather []

/-- The description with the given parts: their texts and items put together and cut once. -/
def assemble (limits : Limits) (parts : List Fragment) : Option LongDescription :=
  parts.getLast?.map fun last =>
    { text := limits.cutText ⟨parts.flatMap fun part => part.body.text.octets⟩
      items := limits.cutItems (parts.flatMap fun part => part.body.items)
      lastFragment := last.number
      source := some last.source }

theorem parts_concat (fragments : List Fragment) (fragment : Fragment) :
    parts (fragments ++ [fragment]) = gather (parts fragments) fragment :=
  List.foldl_concat ..

theorem gather_nil (fragment : Fragment) :
    gather [] fragment = if fragment.number = 0 then [fragment] else [] := rfl

theorem gather_concat (earlier : List Fragment) (last fragment : Fragment) :
    gather (earlier ++ [last]) fragment =
      if fragment.number = 0 ∧ last.source ≠ fragment.source then [fragment]
      else if last.number < fragment.number then earlier ++ [last] ++ [fragment]
      else earlier ++ [last] := by
  simp only [gather, List.getLast?_concat]

theorem gather_of_restarts {parts : List Fragment} {fragment : Fragment}
    (restarts : Restarts parts fragment) : gather parts fragment = [fragment] := by
  obtain ⟨zero, last, ended, differs⟩ := restarts
  simp only [gather, ended]
  exact if_pos ⟨zero, differs⟩

theorem gather_of_repeated {parts : List Fragment} {last fragment : Fragment}
    (ended : parts.getLast? = some last) (zero : fragment.number = 0)
    (same : last.source = fragment.source) : gather parts fragment = parts := by
  have low : ¬last.number < fragment.number := by simp [zero]
  simp only [gather, ended]
  rw [if_neg fun restarts => restarts.2 same, if_neg low]

theorem not_intrudes_of_zero {fragment : Fragment} (zero : fragment.number = 0)
    (parts : List Fragment) : ¬Intrudes parts fragment := by
  rintro ⟨last, _, _, higher⟩
  rw [zero] at higher
  exact UInt8.not_lt_zero higher

theorem gather_cases (parts : List Fragment) (fragment : Fragment) :
    (fragment.number = 0 ∧ (parts = [] ∨ Restarts parts fragment) ∧
      gather parts fragment = [fragment]) ∨
    (∃ earlier last, parts = earlier ++ [last] ∧ last.number < fragment.number ∧
      ¬Restarts parts fragment ∧ gather parts fragment = earlier ++ [last] ++ [fragment]) ∨
    (¬Restarts parts fragment ∧ ¬Intrudes parts fragment ∧ gather parts fragment = parts) := by
  by_cases restarts : Restarts parts fragment
  · exact Or.inl ⟨restarts.1, Or.inr restarts, gather_of_restarts restarts⟩
  · rcases List.eq_nil_or_concat parts with rfl | ⟨earlier, last, rfl⟩
    · rw [gather_nil]
      by_cases begins : fragment.number = 0
      · exact Or.inl ⟨begins, Or.inl rfl, if_pos begins⟩
      · refine Or.inr (Or.inr ⟨restarts, ?_, if_neg begins⟩)
        simp [Intrudes]
    · rw [List.concat_eq_append] at restarts ⊢
      have continues : ¬(fragment.number = 0 ∧ last.source ≠ fragment.source) := by
        simpa [Restarts] using restarts
      rw [gather_concat, if_neg continues]
      by_cases higher : last.number < fragment.number
      · exact Or.inr (Or.inl ⟨earlier, last, rfl, higher, restarts, if_pos higher⟩)
      · refine Or.inr (Or.inr ⟨restarts, ?_, if_neg higher⟩)
        simp [Intrudes, higher]

theorem assemble_eq_joined (limits : Limits) (parts : List Fragment) :
    assemble limits parts = LongDescription.joined limits
      (parts.getLast?.map Fragment.source) (parts.map Fragment.body) := by
  rw [assemble, LongDescription.joined, List.getLast?_map]
  cases ended : parts.getLast? with
  | none => rfl
  | some last => simp [List.flatMap_map, number]

theorem assemble_nil (limits : Limits) : assemble limits [] = none := rfl

/-- Extending an assembled description is assembling the gathered parts. -/
theorem join_assemble (limits : Limits) (parts : List Fragment) (fragment : Fragment) :
    join limits (assemble limits parts) fragment = assemble limits (gather parts fragment) := by
  rcases List.eq_nil_or_concat parts with rfl | ⟨earlier, last, rfl⟩
  · rw [gather_nil, apply_ite (assemble limits), assemble_eq_joined limits [fragment],
      List.map_singleton, LongDescription.joined_singleton]
    rfl
  · have differs : some last.source ≠ some fragment.source ↔ last.source ≠ fragment.source :=
      not_congr Option.some_inj
    rw [List.concat_eq_append, gather_concat, apply_ite (assemble limits),
      apply_ite (assemble limits), assemble_eq_joined limits (earlier ++ [last]), join,
      List.map_append, List.map_singleton, LongDescription.extend_joined_concat,
      List.getLast?_concat]
    simp only [assemble_eq_joined, List.map_append, List.map_singleton, List.getLast?_concat,
      List.getLast?_singleton, Option.map_some, differs]
    rfl

theorem foldl_join_assemble (limits : Limits) (earlier fragments : List Fragment) :
    fragments.foldl (join limits) (assemble limits (parts earlier)) =
      assemble limits (parts (earlier ++ fragments)) := by
  induction fragments using List.reverseRecOn with
  | nil => rw [List.append_nil, List.foldl_nil]
  | append_singleton others fragment ih =>
      rw [List.foldl_concat, ih, join_assemble, ← List.append_assoc, parts_concat]

theorem foldl_join (limits : Limits) (fragments : List Fragment) :
    fragments.foldl (join limits) none = assemble limits (parts fragments) :=
  foldl_join_assemble limits [] fragments

/-- The parts of a description begin with number 0 and go upwards from there. -/
structure Ascending (parts : List Fragment) : Prop where
  starts : ∀ first, parts.head? = some first → first.number = 0
  increasing : parts.Pairwise fun first second => first.number < second.number

theorem ascending_nil : Ascending [] := ⟨by simp, List.Pairwise.nil⟩

theorem ascending_singleton {fragment : Fragment} (begins : fragment.number = 0) :
    Ascending [fragment] :=
  ⟨by simpa using begins, List.pairwise_singleton _ _⟩

theorem Ascending.concat {earlier : List Fragment} {last fragment : Fragment}
    (ascending : Ascending (earlier ++ [last])) (higher : last.number < fragment.number) :
    Ascending (earlier ++ [last] ++ [fragment]) := by
  constructor
  · intro first found
    apply ascending.starts first
    cases earlier with
    | nil => simpa using found
    | cons head others => simpa using found
  · refine List.pairwise_append.mpr ⟨ascending.increasing, List.pairwise_singleton _ _, ?_⟩
    intro part member other same
    rw [List.mem_singleton.mp same]
    rcases List.mem_append.mp member with before | final
    · have below := (List.pairwise_append.mp ascending.increasing).2.2 part before last (by simp)
      exact UInt8.lt_trans below higher
    · rw [List.mem_singleton.mp final]
      exact higher

theorem Ascending.gather {parts : List Fragment} (ascending : Ascending parts)
    (fragment : Fragment) : Ascending (gather parts fragment) := by
  rcases gather_cases parts fragment with ⟨begins, _, anew⟩ |
    ⟨earlier, last, rfl, higher, _, continued⟩ | ⟨_, _, unchanged⟩
  · rw [anew]
    exact ascending_singleton begins
  · rw [continued]
    exact ascending.concat higher
  · rw [unchanged]
    exact ascending

theorem ascending_parts (fragments : List Fragment) : Ascending (parts fragments) := by
  induction fragments using List.reverseRecOn with
  | nil => exact ascending_nil
  | append_singleton earlier fragment ih =>
      rw [parts_concat]
      exact ih.gather fragment

theorem Ascending.parts_eq {fragments : List Fragment} (ascending : Ascending fragments) :
    parts fragments = fragments := by
  induction fragments using List.reverseRecOn with
  | nil => rfl
  | append_singleton earlier fragment ih =>
      rcases List.eq_nil_or_concat earlier with rfl | ⟨before, last, rfl⟩
      · have zero := ascending.starts fragment rfl
        exact if_pos zero
      · rw [List.concat_eq_append] at ascending ih ⊢
        obtain ⟨increasing, _, rises⟩ := List.pairwise_append.mp ascending.increasing
        have below : last.number < fragment.number := rises last (by simp) fragment (by simp)
        have begun : Ascending (before ++ [last]) := by
          refine ⟨fun first found => ascending.starts first ?_, increasing⟩
          cases before with
          | nil => simpa using found
          | cons head others => simpa using found
        have continues : ¬(fragment.number = 0 ∧ last.source ≠ fragment.source) := by
          rintro ⟨zero, _⟩
          rw [zero] at below
          exact UInt8.not_lt_zero below
        rw [parts_concat, ih begun, gather_concat, if_neg continues, if_pos below]

theorem Ascending.last_ne_zero {parts : List Fragment} {first last : Fragment}
    (ascending : Ascending parts) (begun : parts.head? = some first)
    (ended : parts.getLast? = some last) (several : first ≠ last) : last.number ≠ 0 := by
  cases parts with
  | nil => cases begun
  | cons head others =>
      obtain rfl : head = first := by simpa using begun
      have later : last ∈ others := by
        have member := List.mem_of_getLast? ended
        exact (List.mem_cons.mp member).resolve_left (Ne.symm several)
      have below := (List.pairwise_cons.mp ascending.increasing).1 last later
      intro zero
      rw [zero] at below
      exact UInt8.not_lt_zero below

theorem Ascending.length_le {parts : List Fragment} (ascending : Ascending parts) {bound : Nat}
    (bounded : ∀ part ∈ parts, part.number.toNat ≤ bound) : parts.length ≤ bound + 1 := by
  have unique : (parts.map fun part => part.number.toNat).Nodup := by
    rw [List.nodup_iff_pairwise_ne, List.pairwise_map]
    refine ascending.increasing.imp ?_
    intro first second below
    exact Nat.ne_of_lt (UInt8.lt_iff_toNat_lt.mp below)
  have within : (parts.map fun part => part.number.toNat) ⊆ List.range (bound + 1) := by
    intro number member
    obtain ⟨part, belongs, rfl⟩ := List.mem_map.mp member
    exact List.mem_range.mpr (Nat.lt_succ_of_le (bounded part belongs))
  have shorter := (unique.subperm within).length_le
  simpa using shorter

theorem parts_sublist (fragments : List Fragment) : (parts fragments).Sublist fragments := by
  induction fragments using List.reverseRecOn with
  | nil => exact List.Sublist.slnil
  | append_singleton earlier fragment ih =>
      rw [parts_concat]
      rcases gather_cases (parts earlier) fragment with ⟨_, _, anew⟩ |
        ⟨before, last, split, _, _, continued⟩ | ⟨_, _, unchanged⟩
      · rw [anew]
        exact List.sublist_append_right _ _
      · rw [continued, ← split]
        exact ih.append (List.Sublist.refl _)
      · rw [unchanged]
        exact ih.trans (List.sublist_append_left _ _)

def OneSource (parts : List Fragment) : Prop :=
  ∀ first ∈ parts, ∀ second ∈ parts, first.source = second.source

instance (parts : List Fragment) : Decidable (OneSource parts) :=
  inferInstanceAs (Decidable (∀ first ∈ parts, ∀ second ∈ parts, first.source = second.source))

/-- A fragment has intruded, and none that came after it has begun the description anew. -/
def Mixed (fragments : List Fragment) : Prop :=
  ∃ earlier intruder later, fragments = earlier ++ intruder :: later ∧
    Intrudes (parts earlier) intruder ∧
    ∀ between fragment rest, later = between ++ fragment :: rest →
      ¬Restarts (parts (earlier ++ intruder :: between)) fragment

theorem not_mixed_nil : ¬Mixed [] := by
  rintro ⟨earlier, intruder, later, split, _⟩
  simp at split

theorem mixed_concat_iff (fragments : List Fragment) (fragment : Fragment) :
    Mixed (fragments ++ [fragment]) ↔
      Intrudes (parts fragments) fragment ∨
        Mixed fragments ∧ ¬Restarts (parts fragments) fragment := by
  constructor
  · rintro ⟨earlier, intruder, later, split, intrudes, kept⟩
    -- The intruder is the new fragment itself, or was among those before it.
    rcases concat_eq_split_iff.mp split with ⟨rfl, rfl, rfl⟩ | ⟨between, rfl, rfl⟩
    · exact Or.inl intrudes
    · refine Or.inr ⟨⟨earlier, intruder, between, rfl, intrudes, ?_⟩, kept between fragment [] rfl⟩
      intro front other rest continues
      exact kept front other (rest ++ [fragment]) (by simp [continues])
  · rintro (intrudes | ⟨⟨earlier, intruder, later, rfl, intrudes, kept⟩, continues⟩)
    · refine ⟨fragments, fragment, [], rfl, intrudes, ?_⟩
      intro between other rest split
      simp at split
    · refine ⟨earlier, intruder, later ++ [fragment], by simp, intrudes, ?_⟩
      intro between other rest split
      rcases concat_eq_split_iff.mp split with ⟨rfl, rfl, rfl⟩ | ⟨front, same, rfl⟩
      · exact continues
      · exact kept between other front same

theorem oneSource_concat_iff (earlier : List Fragment) (last fragment : Fragment) :
    OneSource (earlier ++ [last] ++ [fragment]) ↔
      OneSource (earlier ++ [last]) ∧ last.source = fragment.source := by
  constructor
  · intro one
    refine ⟨fun first firstMember second secondMember =>
      one first (List.mem_append_left _ firstMember) second (List.mem_append_left _ secondMember),
      one last (by simp) fragment (by simp)⟩
  · rintro ⟨one, same⟩
    have agrees : ∀ part ∈ earlier ++ [last] ++ [fragment], part.source = last.source := by
      intro part member
      rcases List.mem_append.mp member with before | final
      · exact one part before last (by simp)
      · rw [List.mem_singleton.mp final, same]
    intro first firstMember second secondMember
    rw [agrees first firstMember, agrees second secondMember]

theorem oneSource_singleton (fragment : Fragment) : OneSource [fragment] := by
  intro first firstMember second secondMember
  rw [List.mem_singleton.mp firstMember, List.mem_singleton.mp secondMember]

/-- The text of a description is from one version of one table exactly as long as no fragment has
intruded since the text was begun. -/
theorem oneSource_parts_iff (fragments : List Fragment) :
    OneSource (parts fragments) ↔ ¬Mixed fragments := by
  induction fragments using List.reverseRecOn with
  | nil => exact iff_of_true (by simp [parts, OneSource]) not_mixed_nil
  | append_singleton earlier fragment ih =>
      rw [parts_concat, mixed_concat_iff]
      rcases gather_cases (parts earlier) fragment with ⟨zero, begun, anew⟩ |
        ⟨before, last, split, higher, continues, continued⟩ | ⟨continues, alike, unchanged⟩
      · rw [anew]
        refine iff_of_true (oneSource_singleton fragment) ?_
        rintro (intrudes | ⟨mixed, continues⟩)
        · exact not_intrudes_of_zero zero _ intrudes
        · -- Without parts there is nothing that could have been mixed.
          rcases begun with none | restarts
          · exact ih.mp (by simp [none, OneSource]) mixed
          · exact continues restarts
      · have intrudes : Intrudes (parts earlier) fragment ↔ last.source ≠ fragment.source := by
          simp [Intrudes, split, higher]
        rw [continued, oneSource_concat_iff, ← split, ih, intrudes]
        simp only [continues, not_false_eq_true, and_true, not_or, not_not]
        exact and_comm
      · rw [unchanged, ih]
        simp only [continues, alike, not_false_eq_true, and_true, false_or]

end Fragment

end ProgrammeGuide
