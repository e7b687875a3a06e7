import CloudCollector.Number.Binary64
import CloudCollector.Time.Basic

/-!
# Instants as fractional seconds

Events carry their time as a double, the seconds since the Unix epoch.
-/

namespace CloudCollector.Instant

/-- The seconds since the epoch as a double; an instant before the epoch counts as the epoch. The
whole seconds and the nanoseconds are rounded each by itself before they are added. -/
def unixSeconds (t : Instant) : Binary64 :=
  let d := t.since epoch
  (Binary64.ofNat d.seconds).addMagnitudes (.ofRatio false d.subsecNanos nanosPerSecond)

/-- The instant that many seconds after the epoch, to the nearest nanosecond, a tie to the even
one. Negative, infinite and unrepresentable numbers have none. -/
def ofUnixSeconds? (seconds : Binary64) : Option Instant :=
  if seconds.isNegative then none
  else
    match seconds.fraction? with
    | some (num, den) => ofNanos? (Binary64.roundDiv (num * nanosPerSecond) den)
    | none => none

end CloudCollector.Instant
