import HMSignature.Text.Printable
/-!
# Quoted text

A text as it is shown inside a structured message: in single quotes, or in double quotes when it holds a single quote
and no double one. The backslash and the quote in use are escaped, line feed, carriage return and tab have short
escapes, and every other character that is not printable is written by its code point in two, four or eight
hexadecimal digits.
-/

namespace HMSignature.Text

/-- The lowercase hexadecimal digit of a number below sixteen. -/
def hexDigit (n : Nat) : Char :=
  if n < 10 then Char.ofNat (48 + n) else Char.ofNat (87 + n)

/-- The last `width` hexadecimal digits of a number. -/
def hexDigits : (width : Nat) → Nat → List Char
  | 0, _ => []
  | width + 1, n => hexDigits width (n / 16) ++ [hexDigit (n % 16)]

/-- The escape of a code point, as short as its size allows. -/
def escapedPoint (point : Nat) : List Char :=
  if point < 0x100 then '\\' :: 'x' :: hexDigits 2 point
  else if point < 0x10000 then '\\' :: 'u' :: hexDigits 4 point
  else '\\' :: 'U' :: hexDigits 8 point

/-- One character between the given quotes. -/
def escaped (mark c : Char) : List Char :=
  if c = mark ∨ c = '\\' then ['\\', c]
  else if c = '\n' then ['\\', 'n']
  else if c = '\r' then ['\\', 'r']
  else if c = '\t' then ['\\', 't']
  else if isPrintable c then [c]
  else escapedPoint c.toNat

/-- The quotes that a text is shown in. -/
def quoteMark (text : String) : Char :=
  if text.toList.contains '\x27' && !text.toList.contains '\x22' then '\x22' else '\x27'

/-- A text in quotes. -/
def quoted (text : String) : String :=
  let mark := quoteMark text
  String.ofList (mark :: text.toList.flatMap (escaped mark) ++ [mark])

end HMSignature.Text
