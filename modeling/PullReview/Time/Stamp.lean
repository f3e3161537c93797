import PullReview.Time.Instant

/-!
# Reading time stamps

Time stamps follow the standard for dates and times in its basic and extended
forms: calendar dates or week dates, one character between date and time, times
down to fractions of a second, and an offset from universal time. Without an
offset the clocks of the place are meant (`Zone`). Reading is lenient in places: a time may have
one more character at its end in front of an offset, and digits of a fraction
beyond the sixth do not count.
-/

namespace PullReview

namespace Stamp

/-- Stamps are read by bytes; a missing byte counts as zero. -/
abbrev Bytes := List Nat

def head (bs : Bytes) : Nat := bs.headD 0

def isDigit (b : Nat) : Bool := 0x30 ≤ b && b ≤ 0x39

/-- The number in the first `count` bytes, all of them digits, and the rest. -/
def number? : Nat → Nat → Bytes → Option (Nat × Bytes)
  | 0, n, bs => some (n, bs)
  | count + 1, n, b :: bs => if isDigit b then number? count (10 * n + (b - 0x30)) bs else none
  | _ + 1, _, [] => none

def dash : Nat := 0x2d
def colon : Nat := 0x3a
def week : Nat := 0x57

/-- The number of bytes of the date in front. -/
def dateLength (bs : Bytes) : Nat :=
  let byte (i : Nat) : Nat := head (bs.drop i)
  if bs.length = 7 then 7
  else if byte 4 = dash then
    if byte 5 = week then
      if 8 < bs.length && byte 8 = dash then
        if 10 < bs.length && isDigit (byte 10) then 8 else 10
      else 8
    else 10
  else if byte 4 = week then
    let last := 7 + ((bs.drop 7).takeWhile isDigit).length
    if last < 9 then last else if last % 2 = 0 then 7 else 8
  else 8

/-- The Monday of the first week of a year: that with the first Thursday. -/
def firstMonday (year : Int) : Int :=
  let start := (Date.mk year 1 1).toDays
  -- the first day of 1970 was a Thursday
  let weekday := (start + 3) % 7
  let monday := start - weekday
  if 3 < weekday then monday + 7 else monday

/-- The date of a day of a week of a year. -/
def ofWeek (year : Int) (weekNumber day : Nat) : Option Date :=
  let start := ((Date.mk year 1 1).toDays + 3) % 7
  let isLong := start = 3 || (start = 2 && Date.isLeap year)
  if year < 1 || weekNumber = 0 || 53 < weekNumber || (weekNumber = 53 && !isLong) then none
  else if day = 0 || 7 < day then none
  else
    let days : Int := (weekNumber - 1 : Nat) * 7 + (day - 1 : Nat)
    some (Date.ofDays (firstMonday year + days))

/-- Reads a date of `size` bytes. -/
def date? (size : Nat) (bs : Bytes) : Option Date := do
  let (year, rest) ← number? 4 0 bs
  let separated := head rest = dash
  let rest := if separated then rest.drop 1 else rest
  if head rest = week then
    let (weekNumber, rest) ← number? 2 0 (rest.drop 1)
    if bs.length - rest.length < size then
      if separated && head rest ≠ dash then none
      let (day, _) ← number? 1 0 (if separated then rest.drop 1 else rest)
      ofWeek year weekNumber day
    else ofWeek year weekNumber 1
  else
    let (month, rest) ← number? 2 0 rest
    if separated && head rest ≠ dash then none
    let (day, _) ← number? 2 0 (if separated then rest.drop 1 else rest)
    some ⟨year, month, day⟩

/-- A time of day as read: its parts, and whether something followed them. -/
structure Clock where
  parts : List Nat
  micros : Nat
  extra : Bool

def isPoint (b : Nat) : Bool := b = 0x2e || b = 0x2c

/-- The fraction of a second: up to six digits, as microseconds. `left` is the
number of bytes up to the end of the time. -/
def fraction? (parts : List Nat) (left : Nat) (bs : Bytes) : Option Clock := do
  let count := min left 6
  let (n, rest) ← number? count 0 bs
  let rest := rest.dropWhile isDigit
  some ⟨parts, n * Nat.pow 10 (6 - count), head rest ≠ 0⟩

/-- Reads up to three two-digit parts and a fraction. `left` counts the bytes up
to the end of the time; `separated` says whether colons are used, once known. -/
def clock? : Nat → Option Bool → List Nat → Nat → Bytes → Option Clock
  | 0, _, parts, left, bs => fraction? parts left bs
  | more + 1, separated, parts, left, bs => do
    let (n, rest) ← number? 2 0 bs
    let parts := parts ++ [n]
    let next := head rest
    let separated := separated.getD (next = colon)
    if left ≤ 3 then some ⟨parts, 0, next ≠ 0⟩
    else if separated && next = colon then
      clock? more (some separated) parts (left - 3) (rest.drop 1)
    else if isPoint next then fraction? parts (left - 3) (rest.drop 1)
    else if !separated then clock? more (some separated) parts (left - 2) rest
    else none

def Clock.part (c : Clock) (i : Nat) : Int := ((c.parts.drop i).headD 0 : Nat)

/-- The seconds of a clock, its parts not checked for their ranges. -/
def Clock.seconds (c : Clock) : Int := c.part 0 * 3600 + c.part 1 * 60 + c.part 2

def Clock.isTime (c : Clock) : Bool := c.part 0 ≤ 23 && c.part 1 ≤ 59 && c.part 2 ≤ 59

/-- Whether an offset starts here. -/
def startsOffset (b : Nat) : Bool := b = 0x2b || b = dash || b = 0x5a

/-- Microseconds since the start of the day, and the offset in microseconds. -/
def time? (bs : Bytes) : Option (Int × Option Int) := do
  let size := 1 + ((bs.drop 1).takeWhile fun b => !startsOffset b).length
  let size := if startsOffset (head bs) then 0 else size
  let clock ← clock? 3 none [] size bs
  if !clock.isTime then none
  let time := clock.seconds * Instant.microsPerSecond + clock.micros
  match bs.drop size with
  | [] => if clock.extra then none else some (time, none)
  | sign :: rest =>
    if sign = 0x5a then (if head rest = 0 then some (time, some 0) else none)
    else
      let offset ← clock? 3 none [] rest.length rest
      if offset.extra then none
      let seconds := offset.seconds
      if seconds = 0 then some (time, some 0)
      else
        let micros := seconds * Instant.microsPerSecond + offset.micros
        if Instant.microsPerDay ≤ micros then none
        some (time, some (if sign = dash then -micros else micros))

/-- Drops one character, of however many bytes. -/
def dropCharacter (bs : Bytes) : Bytes :=
  let b := head bs
  bs.drop (if b < 0x80 then 1 else if b / 16 = 0xe then 3 else if b / 16 = 0xf then 4 else 2)

/-- Date and time as read: the instant if universal time was meant, and the
offset if there was one. -/
def parts? (bs : Bytes) : Option (Instant × Option Int) := do
  if bs.length < 7 then none
  let size := dateLength bs
  let date ← date? size bs
  if !date.isValid then none
  let start := date.toDays * Instant.microsPerDay
  if bs.length ≤ size then some (⟨start⟩, none)
  else
    let (time, offset) ← time? (dropCharacter (bs.drop size))
    some (⟨start + time⟩, offset)

/-- Why a stamp has no instant. -/
inductive StampFault where
  | malformed
  | outOfRange
  deriving DecidableEq, Repr

end Stamp

/-- The clocks of a place: how many microseconds they are ahead of universal time when
they show a date and time, which is written as the instant at which clocks of universal
time show it. Some dates and times they may never show. -/
structure Zone where
  offset : Instant → Except Stamp.StampFault Int

/-- Clocks that show universal time. They are not told on the very first day. -/
def Zone.universal : Zone where
  offset shown :=
    if shown.micros < Instant.first.micros + Instant.microsPerDay then .error .malformed else .ok 0

namespace Stamp

/-- The instant at which clocks show a date and time: clocks that are so far ahead of
universal time, or else those of the place. -/
def instantShown (zone : Zone) (shown : Instant) (ahead : Option Int) :
    Except StampFault Instant := do
  let offset ← ahead.elim (zone.offset shown) .ok
  let t : Instant := ⟨shown.micros - offset⟩
  if t.hasDate then return t else throw .outOfRange

/-- The instant of a stamp, in the zone where it is read. A `Z` at the end stands for
universal time. -/
def read (zone : Zone) (raw : String) : Except StampFault Instant :=
  let cs := raw.toList
  let cs := if cs.getLast? = some 'Z' then cs.dropLast ++ "+00:00".toList else cs
  match parts? ((String.ofList cs).toUTF8.toList.map (·.toNat)) with
  | none => .error .malformed
  | some (shown, ahead) => instantShown zone shown ahead

/-- Every instant that is read has a date. -/
theorem hasDate_of_read {zone : Zone} {raw : String} {t : Instant} (h : read zone raw = .ok t) :
    t.hasDate = true := by
  unfold read at h
  dsimp only at h
  split at h
  · exact absurd h (by simp)
  · next shown ahead _ =>
    unfold instantShown at h
    cases hoffset : ahead.elim (zone.offset shown) .ok with
    | error _ => exact absurd h (by simp [hoffset, bind, Except.bind])
    | ok offset =>
      rw [hoffset] at h
      change (if (Instant.mk (shown.micros - offset)).hasDate then Except.ok _ else .error _)
        = Except.ok t at h
      split at h
      · next hdate =>
        obtain rfl := Except.ok.inj h
        exact hdate
      · exact absurd h (by simp)

end Stamp

end PullReview
