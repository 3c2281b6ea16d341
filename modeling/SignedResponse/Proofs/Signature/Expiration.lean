import Mathlib.Tactic.Common
import SignedResponse.Proofs.LittleEndian
import SignedResponse.Proofs.Signature.Validity
import SignedResponse.Proofs.Time.Instant

/-!
Expirations as bytes, as day counts and as dates, and the ways between them.

Bytes and day counts tell the same. A date becomes the count of its day, and that count becomes the
midnight before the date, so only the time of day is lost on the way. No limit of the numbers is
met: the days of the calendar fit into four bytes, and the seconds of any four bytes of days into a
signed word.
-/

namespace SignedResponse.Expiration

section Days

theorem days_of_days (days : Nat) : (ofDays days).days = min days maxDays := by
  have fits : min days maxDays < 256 ^ 4 := Nat.lt_of_le_of_lt (Nat.min_le_right ..) (by decide)
  rw [Expiration.days, ofDays, LittleEndian.block, LittleEndian.value_bytes, Nat.mod_eq_of_lt fits]

theorem days_le_max_days (expiration : Expiration) : expiration.days ≤ maxDays := by
  have bound := LittleEndian.value_lt expiration.block.bytes
  rw [expiration.block.length_eq] at bound
  exact Nat.le_of_lt_succ bound

theorem days_injective : Function.Injective days := by
  rintro ⟨left⟩ ⟨right⟩ same
  have sizes : left.bytes.length = right.bytes.length := left.length_eq.trans right.length_eq.symm
  rw [Block.eq_of_bytes_eq (LittleEndian.eq_of_value_eq sizes same)]

theorem of_days_days (expiration : Expiration) : ofDays expiration.days = expiration := by
  apply days_injective
  rw [days_of_days, Nat.min_eq_left expiration.days_le_max_days]

theorem days_of_days_to_nat (count : UInt32) : (ofDays count.toNat).days = count.toNat := by
  rw [days_of_days]
  exact Nat.min_eq_left (Nat.le_of_lt_succ count.toNat_lt)

/-- The seconds from 1970-01-01 to the day, in signed words of 64 bits that wrap around. -/
def wordSeconds (expiration : Expiration) : Int64 :=
  Int64.ofNat expiration.days * Int64.ofInt Instant.secondsPerDay

theorem to_int_word_seconds (expiration : Expiration) :
    expiration.wordSeconds.toInt = expiration.days * Instant.secondsPerDay := by
  have last := expiration.days_le_max_days
  unfold maxDays at last
  have perDay : (Int64.ofInt Instant.secondsPerDay).toInt = 86400 := by decide
  rw [wordSeconds, Int64.toInt_mul, Int64.toInt_ofNat_of_lt (by omega), perDay,
    Instant.secondsPerDay]
  exact Int.bmod_eq_of_le (by omega) (by omega)

end Days

section Dates

theorem day_le_last_day (instant : Instant) : instant.day ≤ lastDay := by
  have last : instant.seconds ≤ Instant.maxSeconds := instant.representable.2.1
  rw [instant.day_eq_ediv]
  unfold Instant.maxSeconds at last
  unfold lastDay
  omega

theorem day_to_nat_lt_max_days (instant : Instant) : instant.day.toNat < maxDays := by
  have last := day_le_last_day instant
  unfold lastDay at last
  unfold maxDays
  omega

theorem days_of_instant (instant : Instant) :
    (ofInstant instant).days = (instant.seconds / 86400).toNat := by
  rw [ofInstant, days_of_days, Nat.min_eq_left (day_to_nat_lt_max_days instant).le,
    instant.day_eq_ediv]

theorem is_dated_of_instant_iff (instant : Instant) :
    (ofInstant instant).IsDated ↔ 1 ≤ instant.seconds / 86400 := by
  have last := day_le_last_day instant
  rw [instant.day_eq_ediv] at last
  rw [IsDated, days_of_instant]
  omega

theorem monotone_days_of_instant : Monotone fun instant => (ofInstant instant).days := by
  intro earlier later order
  have seconds := Instant.seconds_le_of_le order
  simp only [days_of_instant]
  omega

theorem of_instant_date {expiration : Expiration} {midnight : Instant}
    (found : expiration.date? = some midnight) : ofInstant midnight = expiration := by
  obtain ⟨-, seconds, -⟩ := date_eq_some_iff.mp found
  apply days_injective
  rw [days_of_instant, seconds, Instant.secondsPerDay, Int.mul_ediv_cancel _ (by decide),
    Int.toNat_natCast]

theorem map_of_instant_date (expiration : Expiration) :
    expiration.date?.map ofInstant = if expiration.IsDated then some expiration else none := by
  cases found : expiration.date? with
  | none => exact (if_neg (date_eq_none_iff.mp found)).symm
  | some midnight =>
      rw [Option.map_some, of_instant_date found, if_pos (date_eq_some_iff.mp found).1]

theorem date_of_instant (instant : Instant) :
    (ofInstant instant).date? =
      if Instant.secondDay ≤ instant then some instant.dayStart else none := by
  split_ifs with late <;> rw [Instant.second_day_le_iff] at late
  · refine date_eq_some_iff.mpr ⟨(is_dated_of_instant_iff instant).mpr late, ?_, rfl⟩
    rw [days_of_instant, Int.toNat_of_nonneg (by omega)]
    rfl
  · exact date_eq_none_iff.mpr (mt (is_dated_of_instant_iff instant).mp late)

end Dates

/-- Each count of 32 bits comes back from the bytes that it is written in, and each four bytes from
their count. The seconds of a count do not overflow a signed word. A count has a date if it is not
zero and the calendar reaches it, and that date leads back to the count. An instant counts by its
day, from zero on and without a cut at the top, and a later instant does not count less. Its count
has as date the last midnight up to the instant, from 1970-01-02 on, and no date before. -/
theorem day_arithmetic_is_exact :
    (∀ count : UInt32,
      (ofDays count.toNat).days = count.toNat ∧
      (ofDays count.toNat).wordSeconds.toInt = count.toNat * Instant.secondsPerDay ∧
      (ofDays count.toNat).date?.map ofInstant =
        if 1 ≤ count.toNat ∧ count.toNat ≤ 95026236 then some (ofDays count.toNat) else none) ∧
    (∀ block : Block 4, (ofDays (Expiration.mk block).days).block = block) ∧
    (∀ instant : Instant,
      ((ofInstant instant).days : Int) = max 0 (instant.seconds / 86400) ∧
        instant.day.toNat < maxDays) ∧
    (Monotone fun instant => (ofInstant instant).days) ∧
    ∀ instant : Instant,
      ((ofInstant instant).date? =
        if Instant.secondDay ≤ instant then some instant.dayStart else none) ∧
      IsGreatest {start : Instant | start.IsMidnight ∧ start ≤ instant} instant.dayStart := by
  refine ⟨?_, ?_, ?_, monotone_days_of_instant, ?_⟩
  · intro count
    have days := days_of_days_to_nat count
    refine ⟨days, ?_, ?_⟩
    · rw [to_int_word_seconds, days]
    · rw [map_of_instant_date]
      exact if_congr (by rw [IsDated, days, lastDay]) rfl rfl
  · intro block
    rw [of_days_days]
  · intro instant
    refine ⟨?_, day_to_nat_lt_max_days instant⟩
    rw [days_of_instant, Int.toNat_eq_max, Int.max_comm]
  · exact fun instant => ⟨date_of_instant instant, instant.is_greatest_day_start⟩

/-- The leap second at the end of 1970-01-01 still has no date. -/
example : (ofInstant ⟨86399, 1500000000, by decide⟩).date? = none := by decide

end SignedResponse.Expiration
