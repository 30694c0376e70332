/-!
The UTC timestamps of `recent_errors` and `state.json`.
-/

namespace Afanctl

/-- The civil date of a day number counted from 1970-01-01, with the source's
truncating divisions. -/
def civilFromDays (days : Int) : Int × Int × Int :=
  let z := days + 719468
  let era := (if 0 ≤ z then z else z - 146096).tdiv 146097
  let doe := z - era * 146097
  let yoe := (doe - doe.tdiv 1460 + doe.tdiv 36524 - doe.tdiv 146096).tdiv 365
  let year := yoe + era * 400
  let doy := doe - (365 * yoe + yoe.tdiv 4 - yoe.tdiv 100)
  let mp := (5 * doy + 2).tdiv 153
  let day := doy - (153 * mp + 2).tdiv 5 + 1
  let month := if mp < 10 then mp + 3 else mp - 9
  (if month ≤ 2 then year + 1 else year, month, day)

/-- A number padded with zeros to at least `width` characters. -/
def zeroPad (width : Nat) (n : Int) : String :=
  let digits := toString n
  "".pushn '0' (width - digits.length) ++ digits

/-- `YYYY-MM-DDTHH:MM:SSZ` for `secs` seconds since the epoch. -/
def isoNow (secs : Nat) : String :=
  let rem := secs % 86400
  let (year, month, day) := civilFromDays (secs / 86400 : Nat)
  s!"{zeroPad 4 year}-{zeroPad 2 month}-{zeroPad 2 day}T" ++
    s!"{zeroPad 2 (rem / 3600 : Nat)}:{zeroPad 2 (rem % 3600 / 60 : Nat)}:{zeroPad 2 (rem % 60 : Nat)}Z"

end Afanctl
