/-!
# Timestamps

Which texts are points in time of the ISO calendar: a date with or without dashes, or a week date,
then any one character, then a time of day with or without colons, then possibly an offset. The
grammar works on the bytes of the text. Reading past the end gives a zero byte, and a zero byte
ends a text wherever the grammar asks whether something is left.
-/

namespace CanaryGate

namespace Timestamp

abbrev Bytes := Array UInt8

def at' (b : Bytes) (i : Nat) : Nat := (b.getD i 0).toNat

/-- An ASCII digit stands at a place. -/
def digitAt (b : Bytes) (i : Nat) : Bool := 48 ≤ at' b i && at' b i ≤ 57

/-- The number written by exactly `count` digits from a place on. -/
def digits (b : Bytes) (i : Nat) : Nat → Option Nat
  | 0 => some 0
  | count + 1 => do
    let high ← digits b i count
    if digitAt b (i + count) then some (10 * high + (at' b (i + count) - 48)) else none

/-- The first place from `i` on that holds no digit; `fuel` bounds the walk. -/
def skipDigits (b : Bytes) : Nat → Nat → Nat
  | 0, i => i
  | fuel + 1, i => if digitAt b i then skipDigits b fuel (i + 1) else i

/-- Years divisible by four, but of the centuries only every fourth. -/
def isLeap (year : Nat) : Bool := year % 4 == 0 && (year % 100 != 0 || year % 400 == 0)

def daysInMonth (year month : Nat) : Nat :=
  match month with
  | 2 => if isLeap year then 29 else 28
  | 4 | 6 | 9 | 11 => 30
  | _ => 31

def daysBeforeYear (year : Nat) : Nat :=
  let y := year - 1
  365 * y + y / 4 - y / 100 + y / 400

def isDate (year month day : Nat) : Bool :=
  1 ≤ year && year ≤ 9999 && 1 ≤ month && month ≤ 12 && 1 ≤ day && day ≤ daysInMonth year month

/-- Weekday of the first of January, Monday being zero. -/
def firstWeekday (year : Nat) : Nat := daysBeforeYear year % 7

/-- The years with a week 53 start on a Thursday, or on a Wednesday if they are leap years. -/
def weeksIn (year : Nat) : Nat :=
  if firstWeekday year == 3 || (firstWeekday year == 2 && isLeap year) then 53 else 52

/-- The day number of the Monday of week one, the first of January of year 1 being day zero. -/
def firstMonday (year : Nat) : Int :=
  let start : Int := daysBeforeYear year
  let weekday : Int := firstWeekday year
  if weekday ≤ 3 then start - weekday else start - weekday + 7

/-- A week date whose day falls into the years 1 to 9999. -/
def isWeekDate (year week day : Nat) : Bool :=
  let ordinal := firstMonday year + 7 * ((week : Int) - 1) + ((day : Int) - 1)
  1 ≤ year && year ≤ 9999 && 1 ≤ week && week ≤ weeksIn year && 1 ≤ day && day ≤ 7
    && decide (0 ≤ ordinal) && decide (ordinal < daysBeforeYear 10000)

/-- Where the date ends, decided by the dashes and the week letter alone. -/
def dateEnd (b : Bytes) : Option Nat :=
  let n := b.size
  if n < 7 then none
  else if n = 7 then some 7
  else if at' b 4 = 45 then
    if at' b 5 = 87 then
      if 8 < n ∧ at' b 8 = 45 then
        if n = 9 then none
        else if 10 < n ∧ digitAt b 10 then some 8
        else some 10
      else some 8
    else some 10
  else if at' b 4 = 87 then
    let stop := skipDigits b (n + 1) 7
    if stop < 9 then some stop
    else if stop % 2 = 0 then some 7 else some 8
  else some 8

def checkDate (b : Bytes) (stop : Nat) : Bool :=
  match digits b 0 4 with
  | none => false
  | some year =>
    let dashed := at' b 4 = 45
    let i := if dashed then 5 else 4
    if at' b i = 87 then
      match digits b (i + 1) 2 with
      | none => false
      | some week =>
        let i := i + 3
        if i < stop then
          if dashed && at' b i != 45 then false
          else
            let i := if dashed then i + 1 else i
            match digits b i 1 with
            | none => false
            | some day => isWeekDate year week day
        else isWeekDate year week 1
    else
      match digits b i 2 with
      | none => false
      | some month =>
        let i := i + 2
        if dashed && at' b i != 45 then false
        else
          let i := if dashed then i + 1 else i
          match digits b i 2 with
          | none => false
          | some day => isDate year month day

/-- A time of day as read, and whether something is left after it. -/
structure Reading where
  hour : Nat
  minute : Nat
  second : Nat
  micro : Nat
  left : Bool

/-- The fraction of a second between `i` and `stop`: six digits count and more are skipped. -/
def fraction (b : Bytes) (i stop hour minute second : Nat) : Option Reading :=
  let width := min 6 (stop - i)
  match digits b i width with
  | none => none
  | some micro =>
    let after := skipDigits b (b.size + 1) (i + width)
    some ⟨hour, minute, second, micro * Nat.pow 10 (6 - width), at' b after != 0⟩

/-- A time of day between `i` and `stop`. Whether colons divide it is settled after the hour. -/
def timeOfDay (b : Bytes) (i stop : Nat) : Option Reading := do
  let hour ← digits b i 2
  let c := at' b (i + 2)
  let colons := c = 58
  let i := i + 3
  if stop ≤ i then return ⟨hour, 0, 0, 0, c != 0⟩
  if !colons && (c = 46 || c = 44) then fraction b i stop hour 0 0
  else
    let i := if colons then i else i - 1
    let minute ← digits b i 2
    let c := at' b (i + 2)
    let i := i + 3
    if stop ≤ i then return ⟨hour, minute, 0, 0, c != 0⟩
    if c = 46 || c = 44 then fraction b i stop hour minute 0
    else if colons && c != 58 then none
    else
      let i := if colons then i else i - 1
      let second ← digits b i 2
      let c := at' b (i + 2)
      let i := i + 3
      if stop ≤ i then return ⟨hour, minute, second, 0, c != 0⟩
      if c = 46 || c = 44 || (colons && c = 58) then fraction b i stop hour minute second
      else if colons then none
      else fraction b (i - 1) stop hour minute second

/-- The first place from `i` on with a sign or the letter for zero offset; `fuel` bounds the walk. -/
def offsetStart (b : Bytes) (stop : Nat) : Nat → Nat → Nat
  | 0, _ => stop
  | fuel + 1, i =>
    if at' b i = 43 || at' b i = 45 || at' b i = 90 then i
    else if i + 1 < stop then offsetStart b stop fuel (i + 1) else stop

/-- An offset below a day, with nothing after it. -/
def checkOffset (b : Bytes) (i : Nat) : Bool :=
  match timeOfDay b i b.size with
  | none => false
  | some r =>
    let seconds := r.hour * 3600 + r.minute * 60 + r.second
    !r.left && (seconds = 0 || seconds * 1000000 + r.micro < 86400 * 1000000)

def checkTime (b : Bytes) (i : Nat) : Bool :=
  let z := offsetStart b b.size (b.size + 1) i
  match timeOfDay b i z with
  | none => false
  | some r =>
    r.hour ≤ 23 && r.minute ≤ 59 && r.second ≤ 59
      && (if b.size ≤ z then !r.left
        else if at' b z = 90 then at' b (z + 1) = 0
        else checkOffset b (z + 1))

/-- The number of bytes of the character that starts with a byte. -/
def characterWidth (lead : Nat) : Nat :=
  if lead < 0x80 then 1 else if 0xF0 ≤ lead then 4 else if 0xE0 ≤ lead then 3 else 2

def isTimestamp (text : String) : Bool :=
  let b := text.toUTF8.data
  match dateEnd b with
  | none => false
  | some stop =>
    checkDate b stop
      && (b.size ≤ stop || checkTime b (stop + characterWidth (at' b stop)))

end Timestamp

end CanaryGate
