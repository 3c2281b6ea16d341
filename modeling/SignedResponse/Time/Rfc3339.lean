import SignedResponse.Time.Calendar

/-!
Dates with time and offset as RFC 3339 writes them, read from text.

The separator of date and time may be `T`, `t` or a space. A second 60 is a leap second wherever
it stands. Of a fraction the first nine digits count. Nothing may stand before or after.
-/

namespace SignedResponse.Rfc3339

def number? (count : Nat) (chars : List Char) : Option (Nat × List Char) :=
  let taken := chars.take count
  if taken.length = count ∧ taken.all Char.isDigit = true then
    some (Decimal.value taken, chars.drop count)
  else none

def after? (allowed : List Char) : List Char → Option (List Char)
  | char :: rest => if char ∈ allowed then some rest else none
  | [] => none

def fraction? : List Char → Option (Nat × List Char)
  | '.' :: rest =>
      let digits := rest.takeWhile Char.isDigit
      let counted := digits.take 9
      if digits = [] then none
      else some (Decimal.value counted * Nat.pow 10 (9 - counted.length), rest.drop digits.length)
  | chars => some (0, chars)

/-- The minutes by which local time is ahead of UTC; less than a day either way. -/
def offset? : List Char → Option (Int × List Char)
  | [] => none
  | sign :: rest =>
      if sign = 'Z' ∨ sign = 'z' then some (0, rest)
      else if sign = '+' ∨ sign = '-' ∨ sign = '\u2212' then do
        let (hours, rest) ← number? 2 rest
        let rest ← after? [':'] rest
        let (minutes, rest) ← number? 2 rest
        let total := hours * 60 + minutes
        if minutes ≤ 59 ∧ total < 24 * 60 then
          some (if sign = '+' then (total : Int) else -(total : Int), rest)
        else none
      else none

def read? (chars : List Char) : Option Instant := do
  let (year, rest) ← number? 4 chars
  let rest ← after? ['-'] rest
  let (month, rest) ← number? 2 rest
  let rest ← after? ['-'] rest
  let (day, rest) ← number? 2 rest
  let rest ← after? ['T', 't', ' '] rest
  let (hour, rest) ← number? 2 rest
  let rest ← after? [':'] rest
  let (minute, rest) ← number? 2 rest
  let rest ← after? [':'] rest
  let (second, rest) ← number? 2 rest
  let (fraction, rest) ← fraction? rest
  let (offset, rest) ← offset? rest
  let date ← CivilDate.ofNumbers? year month day
  if rest = [] ∧ hour ≤ 23 ∧ minute ≤ 59 ∧ second ≤ 60 then
    let leap := second / 60
    let time : Int := hour * 3600 + minute * 60 + (second - leap : Nat) - offset * 60
    Instant.ofEpoch? (date.toDay * Instant.secondsPerDay + time) (fraction + leap * 1000000000)
  else none

def text (instant : Instant) : String :=
  let secondOfDay := (instant.seconds - instant.day * Instant.secondsPerDay).toNat
  (CivilDate.ofDay instant.day).text ++ "T" ++ Decimal.padded 2 (secondOfDay / 3600) ++ ":" ++
    Decimal.padded 2 (secondOfDay / 60 % 60) ++ ":" ++ Decimal.padded 2 (secondOfDay % 60) ++ "." ++
    Decimal.padded 6 (instant.nanoseconds / 1000) ++ "Z"

end SignedResponse.Rfc3339
