/-!
# Instants and spans

Time is counted in whole nanoseconds. A span is a length of time of less than 2⁶⁴ seconds, an
instant lies less than 2⁶³ seconds from the Unix epoch. Adding a span to an instant may leave
that range; subtracting instants never does, and a clock that stepped back counts as standing
still.
-/

namespace CloudCollector

/-- Nanoseconds in a second. -/
abbrev nanosPerSecond : Nat := 1000000000

/-- A length of time. -/
structure Span where
  /-- The length in nanoseconds. -/
  nanos : Nat
  /-- The whole seconds fit into 64 bits. -/
  bounded : nanos < 18446744073709551616 * 1000000000
  deriving DecidableEq

namespace Span

/-- No time at all. -/
def zero : Span := ⟨0, by decide⟩

instance : Inhabited Span := ⟨zero⟩

/-- A span of that many nanoseconds, if it is short enough. -/
def ofNanos? (nanos : Nat) : Option Span :=
  if h : nanos < 18446744073709551616 * 1000000000 then some ⟨nanos, h⟩ else none

/-- A span of `seconds` whole seconds and `nanos` nanoseconds, if it is short enough. -/
def ofParts? (seconds nanos : Nat) : Option Span :=
  ofNanos? (seconds * nanosPerSecond + nanos)

/-- A span of whole seconds. -/
def ofSeconds (seconds : Nat) (h : seconds < 18446744073709551616 := by decide) : Span :=
  ⟨seconds * 1000000000, by omega⟩

/-- The whole seconds of a span. -/
def seconds (d : Span) : Nat :=
  d.nanos / nanosPerSecond

/-- What is left of a span beside its whole seconds, in nanoseconds. -/
def subsecNanos (d : Span) : Nat :=
  d.nanos % nanosPerSecond

/-- Whether a span has no length. -/
def isZero (d : Span) : Bool :=
  d.nanos == 0

/-- The length of a span in milliseconds, rounded up. -/
def ceilMillis (d : Span) : Nat :=
  (d.nanos + 999999) / 1000000

instance : LE Span := ⟨fun a b => a.nanos ≤ b.nanos⟩
instance : LT Span := ⟨fun a b => a.nanos < b.nanos⟩
instance (a b : Span) : Decidable (a ≤ b) := Nat.decLe a.nanos b.nanos
instance (a b : Span) : Decidable (a < b) := Nat.decLt a.nanos b.nanos

/-- Spans of as many nanoseconds are equal. -/
theorem ext {a b : Span} (h : a.nanos = b.nanos) : a = b := by
  cases a
  cases b
  simpa using h

end Span

/-- A point in time. -/
structure Instant where
  /-- Nanoseconds since the Unix epoch, negative before it. -/
  nanos : Int
  /-- The seconds fit into 64 signed bits from below. -/
  lower : -(9223372036854775808 * 1000000000) ≤ nanos
  /-- The seconds fit into 64 signed bits from above. -/
  upper : nanos < 9223372036854775808 * 1000000000
  deriving DecidableEq

namespace Instant

/-- The Unix epoch. -/
def epoch : Instant := ⟨0, by decide, by decide⟩

instance : Inhabited Instant := ⟨epoch⟩

/-- The instant that many nanoseconds after the epoch, if it is representable. -/
def ofNanos? (nanos : Int) : Option Instant :=
  if h : -(9223372036854775808 * 1000000000) ≤ nanos ∧ nanos < 9223372036854775808 * 1000000000
  then some ⟨nanos, h.1, h.2⟩
  else none

/-- The instant `seconds` and `nanos` nanoseconds after the epoch, if it is representable. -/
def ofParts? (seconds : Int) (nanos : Nat) : Option Instant :=
  ofNanos? (seconds * nanosPerSecond + nanos)

/-- The instant of whole seconds after the epoch. -/
def ofSeconds (seconds : Nat) (h : seconds < 9223372036854775808 := by decide) : Instant :=
  ⟨seconds * 1000000000, by omega, by omega⟩

/-- The whole seconds since the epoch, rounded down. -/
def seconds (t : Instant) : Int :=
  t.nanos / (nanosPerSecond : Int)

/-- The nanoseconds since the last whole second. -/
def subsecNanos (t : Instant) : Nat :=
  (t.nanos % (nanosPerSecond : Int)).toNat

instance : LE Instant := ⟨fun a b => a.nanos ≤ b.nanos⟩
instance : LT Instant := ⟨fun a b => a.nanos < b.nanos⟩
instance (a b : Instant) : Decidable (a ≤ b) := Int.decLe a.nanos b.nanos
instance (a b : Instant) : Decidable (a < b) := Int.decLt a.nanos b.nanos

/-- The instant `d` after `t`, if it is representable. -/
def add? (t : Instant) (d : Span) : Option Instant :=
  ofNanos? (t.nanos + d.nanos)

/-- The time from `earlier` to `now`, or no time when the clock stepped back. -/
def since (now earlier : Instant) : Span :=
  ⟨(now.nanos - earlier.nanos).toNat, by
    have := now.upper
    have := earlier.lower
    omega⟩

/-- The earlier of two instants. -/
def earliest (a b : Instant) : Instant :=
  if b < a then b else a

/-- Instants with as many nanoseconds since the epoch are equal. -/
theorem ext {a b : Instant} (h : a.nanos = b.nanos) : a = b := by
  cases a
  cases b
  simpa using h

/-- No time passes between an instant and an earlier reading of the clock. -/
theorem since_eq_zero {now earlier : Instant} (h : now ≤ earlier) : now.since earlier = .zero := by
  apply Span.ext
  have : now.nanos ≤ earlier.nanos := h
  show (now.nanos - earlier.nanos).toNat = 0
  omega

/-- More time passes until a later instant. -/
theorem since_le_since {earlier now later : Instant} (h : now ≤ later) :
    now.since earlier ≤ later.since earlier := by
  have hnanos : now.nanos ≤ later.nanos := h
  show (now.nanos - earlier.nanos).toNat ≤ (later.nanos - earlier.nanos).toNat
  omega

/-- The sum with a span is later by exactly that span. -/
theorem add?_eq_some_iff {t u : Instant} {d : Span} :
    t.add? d = some u ↔ u.nanos = t.nanos + d.nanos := by
  unfold add? ofNanos?
  constructor
  · intro h
    split at h
    · exact congrArg Instant.nanos (Option.some.inj h).symm
    · exact absurd h (by simp)
  · intro h
    have hrange : -(9223372036854775808 * 1000000000) ≤ t.nanos + d.nanos ∧
        t.nanos + d.nanos < 9223372036854775808 * 1000000000 :=
      ⟨h ▸ u.lower, h ▸ u.upper⟩
    rw [dif_pos hrange]
    exact congrArg some (Instant.ext h.symm)

end Instant

end CloudCollector
