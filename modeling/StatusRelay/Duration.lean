/-
# Durations

A length of time in whole nanoseconds. Its seconds are a number of 64 bits, which bounds it:

| unit | of a duration | largest |
| --- | --- | ---: |
| nanoseconds | `nanos` | `2 ^ 64 * 10 ^ 9 - 1` |
| whole milliseconds | `millis` | `2 ^ 64 * 10 ^ 3 - 1` |
-/

namespace StatusRelay

/-- A length of time. -/
structure Duration where
  nanos : Nat
  /-- The seconds fit into 64 bits. -/
  secs_lt : nanos / 1000000000 < Nat.pow 2 64
  deriving DecidableEq, Repr

namespace Duration

/-- So many seconds and so many nanoseconds together. There is no such duration when its seconds do
not fit into 64 bits. -/
def ofParts? (secs nanos : Nat) : Option Duration :=
  if h : (secs * 1000000000 + nanos) / 1000000000 < Nat.pow 2 64 then some ⟨_, h⟩ else none

/-- The whole milliseconds of a duration. They need not fit into 64 bits. -/
def millis (d : Duration) : Nat := d.nanos / 1000000

end Duration
end StatusRelay
