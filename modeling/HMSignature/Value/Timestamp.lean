import HMSignature.Value.Calendar
/-!
# Days and moments in writing

A day is written as year, month and day of the month between hyphens, a moment as its day, the letter T, its time and
its offset. Microseconds are written when there are any, and so are the seconds of an offset.

More is read than is written. A day may do without the hyphens, or be given by the year, the week after a W, and the day
of the week, which is a Monday if it is left out. Between day and time any one character can stand. A time may end
after the hours or the minutes, do without its colons, and have a fraction of the last seconds after a point or a comma,
of which six digits count. A Z says that the clock is the universal one.
-/

namespace HMSignature

namespace Timestamp

/-! ## Parts -/

/-- Reads so many digits. -/
def digits? : (count : Nat) → (value : Nat) → List Char → Option (Nat × List Char)
  | 0, value, rest => some (value, rest)
  | count + 1, value, c :: rest =>
      if c.isDigit then digits? count (10 * value + (c.toNat - 48)) rest else none
  | _ + 1, _, [] => none

/-- Reads a hyphen. -/
def hyphen? : List Char → Option (List Char)
  | '-' :: rest => some rest
  | _ => none

/-- A text is over at its end or at a null character. -/
def isOver : List Char → Bool
  | [] => true
  | c :: _ => c = '\x00'

/-! ## Reading days -/

/-- The day at the front of a text; whatever comes after the month does not belong to it. -/
def frontDay? (text : List Char) : Option Day := do
  let (year, rest) ← digits? 4 0 text
  let separated := rest.head? = some '-'
  match if separated then rest.drop 1 else rest with
  | 'W' :: rest =>
      let (week, rest) ← digits? 2 0 rest
      if rest.isEmpty then Day.ofWeek? year week 1
      else
        let (day, _) ← digits? 1 0 (← if separated then hyphen? rest else some rest)
        Day.ofWeek? year week day
  | rest =>
      let (month, rest) ← digits? 2 0 rest
      let (day, _) ← digits? 2 0 (← if separated then hyphen? rest else some rest)
      Day.ofDate? year month day

/-- The sizes of the texts of days. -/
def daySizes : List Nat := [7, 8, 10]

/-- Reads a day. -/
def day? (text : String) : Option Day :=
  if daySizes.contains text.utf8ByteSize then frontDay? text.toList else none

/-- The number of characters of the day in front of a time. After a week a hyphen and a digit are read as the day of
the week only if no second digit follows; without hyphens the digits of a time come in pairs. -/
def daySize? (text : List Char) : Option Nat :=
  if text.length = 7 then some 7
  else
    match text.drop 4 with
    | '-' :: 'W' :: _ =>
        match text.drop 8 with
        | ['-'] => none
        | '-' :: _ :: c :: _ => if c.isDigit then some 8 else some 10
        | '-' :: _ => some 10
        | _ => some 8
    | '-' :: _ => some 10
    | 'W' :: _ =>
        let size := 7 + ((text.drop 7).takeWhile Char.isDigit).length
        if size < 9 then some size else if size % 2 = 0 then some 7 else some 8
    | _ => some 8

/-! ## Reading times -/

/-- A clock from its fields; those that are left out are zero. -/
def clockOf (fields : List Nat) (microsecond : Nat) : Clock :=
  ⟨fields[0]?.getD 0, fields[1]?.getD 0, fields[2]?.getD 0, microsecond⟩

/-- Reads a fraction of a second after the fields in front of it, and says whether the text is over. -/
def fraction? (fields : List Nat) (text : List Char) : Option (Clock × Bool) := do
  let count := min 6 text.length
  let (value, rest) ← digits? count 0 text
  return (clockOf fields (value * Nat.pow 10 (6 - count)), isOver (rest.dropWhile Char.isDigit))

/-- Reads so many more fields of a clock after the ones in front of them, and says whether the text is over. Either
there are colons between all fields or between none; after the third field follows a fraction, with or without a mark
in front of it. Only a character of a single byte can be left unread after a field. -/
def fields? : (missing : Nat) → (separated : Bool) → (fields : List Nat) → List Char → Option (Clock × Bool)
  | 0, _, fields, text => fraction? fields text
  | missing + 1, separated, fields, text => do
      let (value, rest) ← digits? 2 0 text
      let fields' := fields ++ [value]
      match rest with
      | [] => return (clockOf fields' 0, true)
      | [c] => if c.utf8Size = 1 then some (clockOf fields' 0, isOver [c]) else none
      | c :: more =>
          let separated' := if fields.isEmpty then c = ':' else separated
          if separated' && c = ':' then fields? missing separated' fields' more
          else if c = '.' ∨ c = ',' then fraction? fields' more
          else if separated' then none
          else fields? missing separated' fields' (c :: more)

/-- Reads a clock and says whether the text is over. -/
def clock? (text : List Char) : Option (Clock × Bool) :=
  fields? 3 false [] text

/-- The offset of a clock, which is less than a day. An offset without whole seconds is none at all. -/
def offset? (negative : Bool) (span : Clock) : Option Int :=
  if span.seconds = 0 then some 0
  else if span.microseconds < dayLength then
    some (if negative then -span.microseconds else span.microseconds)
  else none

/-- Reads the end of a time: an offset, a Z, or nothing. -/
def zone? : (complete : Bool) → List Char → Option (Option Int)
  | complete, [] => if complete then some none else none
  | _, 'Z' :: rest => if isOver rest then some (some 0) else none
  | _, mark :: rest => do
      let (span, complete) ← clock? rest
      if complete then (offset? (mark = '-') span).map some else none

/-- A character with which an offset begins. -/
def opensZone (c : Char) : Bool :=
  c = '+' ∨ c = '-' ∨ c = 'Z'

/-- Reads a time with or without an offset. -/
def time? (text : List Char) : Option (Clock × Option Int) := do
  let (clock, complete) ← clock? (text.takeWhile fun c => !opensZone c)
  let offset ← zone? complete (text.dropWhile fun c => !opensZone c)
  if clock.IsTimeOfDay then return (clock, offset) else none

/-- Reads a moment; without a time it is the beginning of the day. -/
def moment? (text : String) : Option Moment := do
  let size ← daySize? text.toList
  let day ← frontDay? (text.toList.take size)
  match text.toList.drop size with
  | [] => return ⟨day, .midnight, none⟩
  | _ :: rest =>
      let (clock, offset) ← time? rest
      return ⟨day, clock, offset⟩

/-! ## Writing -/

/-- A number with zeros in front of it. -/
def padded (width n : Nat) : String :=
  let digits := toString n
  String.ofList (List.replicate (width - digits.length) '0') ++ digits

/-- The hours and minutes of a clock. -/
def minutesText (c : Clock) : String :=
  padded 2 c.hour ++ ":" ++ padded 2 c.minute

/-- The seconds of a clock, with their fraction if there is one. -/
def secondsText (c : Clock) : String :=
  ":" ++ padded 2 c.second ++ if c.microsecond = 0 then "" else "." ++ padded 6 c.microsecond

/-- An offset in writing. -/
def offsetText (offset : Int) : String :=
  let span := Clock.ofMicroseconds offset.natAbs
  (if offset < 0 then "-" else "+") ++ minutesText span ++
    if span.second = 0 ∧ span.microsecond = 0 then "" else secondsText span

end Timestamp

/-- A day in writing. -/
def Day.text (d : Day) : String :=
  Timestamp.padded 4 d.year ++ "-" ++ Timestamp.padded 2 d.month ++ "-" ++ Timestamp.padded 2 d.day

/-- A moment in writing. -/
def Moment.text (m : Moment) : String :=
  m.day.text ++ "T" ++ Timestamp.minutesText m.clock ++ Timestamp.secondsText m.clock ++
    m.offset.elim "" Timestamp.offsetText

end HMSignature
