import Mathlib.Order.Bounds.Basic
import Mathlib.Tactic.Common
import SignedResponse.Time.Instant

/-!
Instants in their order, the midnights among them, and those that a number of milliseconds tells.
-/

namespace SignedResponse.Instant

theorem of_epoch_of_lt {nanoseconds : Nat} (ordinary : nanoseconds < 1000000000) (seconds : Int) :
    ofEpoch? seconds nanoseconds =
      if representable : Representable seconds nanoseconds then
        some ⟨seconds, nanoseconds, representable⟩
      else none :=
  if_pos (.inl ordinary)

section Order

theorem lt_iff {left right : Instant} :
    left < right ↔ left.seconds < right.seconds ∨
      left.seconds = right.seconds ∧ left.nanoseconds < right.nanoseconds :=
  Iff.rfl

theorem le_iff {left right : Instant} :
    left ≤ right ↔ left.seconds < right.seconds ∨
      left.seconds = right.seconds ∧ left.nanoseconds ≤ right.nanoseconds := by
  change ¬ right < left ↔ _
  rw [lt_iff]
  omega

instance : LinearOrder Instant where
  le_refl _ := le_iff.mpr (.inr ⟨rfl, Nat.le_refl _⟩)
  le_trans first second third earlier later := by
    rw [le_iff] at earlier later ⊢
    omega
  le_antisymm left right earlier later := by
    obtain ⟨_, _, _⟩ := left
    obtain ⟨_, _, _⟩ := right
    rw [le_iff] at earlier later
    dsimp only at earlier later
    rw [mk.injEq]
    omega
  le_total left right := by
    rw [le_iff, le_iff]
    omega
  lt_iff_le_not_ge left right := by
    rw [lt_iff, le_iff, le_iff]
    omega
  toDecidableLE := inferInstance
  toDecidableLT := inferInstance

/-- A fraction, be it that of a leap second, never carries an instant into another second. -/
theorem seconds_le_of_le {earlier later : Instant} (order : earlier ≤ later) :
    earlier.seconds ≤ later.seconds := by
  rw [le_iff] at order
  omega

theorem lt_iff_of_whole {now whole : Instant} (exact : whole.nanoseconds = 0) :
    now < whole ↔ now.seconds < whole.seconds := by
  rw [lt_iff]
  omega

theorem le_iff_of_whole {now whole : Instant} (exact : whole.nanoseconds = 0) :
    whole ≤ now ↔ whole.seconds ≤ now.seconds := by
  rw [← not_lt, lt_iff_of_whole exact, Int.not_lt]

end Order

section Midnight

def IsMidnight (instant : Instant) : Prop :=
  instant.seconds % secondsPerDay = 0 ∧ instant.nanoseconds = 0

theorem day_eq_ediv (instant : Instant) : instant.day = instant.seconds / 86400 :=
  Int.fdiv_eq_ediv_of_nonneg _ (by decide)

theorem representable_day_start (instant : Instant) :
    Representable (instant.seconds / 86400 * 86400) 0 := by
  have bounds := instant.representable
  unfold Representable minSeconds maxSeconds at *
  omega

def dayStart (instant : Instant) : Instant :=
  ⟨instant.seconds / 86400 * 86400, 0, instant.representable_day_start⟩

@[simp]
theorem seconds_day_start (instant : Instant) :
    instant.dayStart.seconds = instant.seconds / 86400 * 86400 :=
  rfl

theorem is_midnight_day_start (instant : Instant) : instant.dayStart.IsMidnight :=
  ⟨Int.mul_emod_left _ _, rfl⟩

theorem is_greatest_day_start (instant : Instant) :
    IsGreatest {start : Instant | start.IsMidnight ∧ start ≤ instant} instant.dayStart := by
  constructor
  · refine ⟨instant.is_midnight_day_start, ?_⟩
    rw [le_iff_of_whole rfl, seconds_day_start]
    omega
  · rintro start ⟨⟨midnight, whole⟩, before⟩
    rw [le_iff_of_whole whole] at before ⊢
    unfold secondsPerDay at midnight
    rw [seconds_day_start]
    omega

/-- The start of 1970-01-02, the first day that an expiration can stand for. -/
def secondDay : Instant := ⟨86400, 0, by decide⟩

theorem second_day_le_iff (instant : Instant) :
    secondDay ≤ instant ↔ 1 ≤ instant.seconds / 86400 := by
  have whole : secondDay ≤ instant ↔ 86400 ≤ instant.seconds := le_iff_of_whole rfl
  rw [whole]
  omega

end Midnight

section Milliseconds

def lastMillisecond : Nat := 8210266876799999

theorem representable_millis_iff (millis : Nat) :
    Representable (millis / 1000 : Nat) (millis % 1000 * 1000000) ↔ millis ≤ lastMillisecond := by
  unfold Representable minSeconds maxSeconds lastMillisecond
  omega

theorem nanoseconds_of_millis_lt (millis : Nat) : millis % 1000 * 1000000 < 1000000000 := by
  omega

theorem is_some_of_millis_iff (millis : Nat) :
    (ofMillis? millis).isSome = true ↔ millis ≤ lastMillisecond := by
  rw [← representable_millis_iff, ofMillis?, of_epoch_of_lt (nanoseconds_of_millis_lt millis)]
  split_ifs with representable
  · exact iff_of_true rfl representable
  · exact iff_of_false nofun representable

theorem seconds_of_of_millis {millis : Nat} {instant : Instant}
    (found : ofMillis? millis = some instant) : instant.seconds = (millis / 1000 : Nat) := by
  rw [ofMillis?, of_epoch_of_lt (nanoseconds_of_millis_lt millis)] at found
  split_ifs at found
  cases found
  rfl

end Milliseconds

end SignedResponse.Instant
