import HMSignature.Text.Blank
import HMSignature.Text.Digits
import HMSignature.Value.Floating
/-!
# Floating-point numbers in decimal

A number is written with the fewest digits that no other number is nearer to; of several such decimals the nearest one
is taken, and the even one from the middle. Numbers of a medium size are written with a point and at least one digit on
each side of it, the others with one digit in front of the point and an exponent.

More is read than is written: digits of any script, underscores between digits, blanks around the number, and the words
for infinity and for what is not a number, in any case.
-/

namespace HMSignature

/-! ## Reading -/

/-- What a text says about a number. -/
inductive Numeral where
  | number (x : Floating)
  | notANumber
deriving DecidableEq, Repr

namespace Numeral

/-- A blank that may stand around a number. Of the characters of ASCII, those that separate records may not. -/
def isPadding (c : Char) : Bool :=
  if c.toNat < 128 then c = ' ' ∨ ('\t' ≤ c ∧ c ≤ '\r') else Text.isBlank c

/-- A text without the blanks around it. -/
def trimmed (text : List Char) : List Char :=
  ((text.dropWhile isPadding).reverse.dropWhile isPadding).reverse

/-- A digit of any script as one of ASCII; other characters stay. -/
def plainDigit (c : Char) : Char :=
  (Text.digitValue? c).elim c Nat.digitChar

/-- A text without the underscores in it; each has to stand between two digits. -/
def unseparated? : (afterDigit : Bool) → List Char → Option (List Char)
  | _, [] => some []
  | afterDigit, '_' :: c :: rest =>
      if afterDigit && c.isDigit then (unseparated? true rest).map (c :: ·) else none
  | _, c :: rest => if c = '_' then none else (unseparated? c.isDigit rest).map (c :: ·)

/-- The number that a run of digits writes. -/
def digitsValue (digits : List Char) : Nat :=
  digits.foldl (fun value c => 10 * value + (c.toNat - 48)) 0

/-- A sign, if there is one, and what follows it. -/
def signed : List Char → Bool × List Char
  | '-' :: rest => (true, rest)
  | '+' :: rest => (false, rest)
  | rest => (false, rest)

/-- The exponent after the digits of a number. -/
def exponent? : List Char → Option Int
  | [] => some 0
  | mark :: rest =>
      let (negative, digits) := signed rest
      if (mark = 'e' ∨ mark = 'E') ∧ digits ≠ [] ∧ digits.all Char.isDigit then
        some (if negative then -digitsValue digits else digitsValue digits)
      else none

/-- The digits after a point, and what follows them. -/
def fraction : List Char → List Char × List Char
  | '.' :: rest => (rest.takeWhile Char.isDigit, rest.dropWhile Char.isDigit)
  | rest => ([], rest)

/-- A number without a sign, with a point, an exponent, or both. -/
def unsigned? (negative : Bool) (text : List Char) : Option Floating := do
  let whole := text.takeWhile Char.isDigit
  let (part, rest) := fraction (text.dropWhile Char.isDigit)
  if (whole ++ part).isEmpty then none
  else
    let exponent ← exponent? rest
    return .ofDecimal negative (digitsValue (whole ++ part)) (exponent - part.length)

/-- Reads a number. -/
def ofText? (text : String) : Option Numeral := do
  let plain ← unseparated? false ((trimmed text.toList).map plainDigit)
  let (negative, rest) := signed plain
  let word := String.ofList (rest.map Char.toLower)
  if word = "inf" ∨ word = "infinity" then return .number (.infinite negative)
  else if word = "nan" then return .notANumber
  else return .number (← unsigned? negative rest)

end Numeral

/-! ## Writing -/

/-- The number `digits * 10 ^ exponent`. -/
structure Decimal where
  digits : Nat
  exponent : Int
deriving DecidableEq, Repr

namespace Floating

/-- What is nearer to a magnitude than to any other, in quarters of a unit: the two ends, and whether they belong to
it. -/
structure Neighbourhood where
  low : Nat
  high : Nat
  closed : Bool

/-- Half of the way to the next magnitudes on both sides; below a power of two they can be closer. -/
def neighbourhood (units : Nat) : Neighbourhood :=
  let step := spacing units
  let below := if units = Nat.pow 2 units.log2 ∧ 1 < step then step / 2 else step
  ⟨4 * units - 2 * below, 4 * units + 2 * step, units / step % 2 = 0⟩

/-- The multiple of a power of ten nearest to a magnitude, if it is nearer to it than to any other. -/
def onGrid? (units : Nat) (power : Int) : Option Decimal :=
  let near := neighbourhood units
  let grid := 4 * one * Nat.pow 10 power.toNat
  let scale := Nat.pow 10 (-power).toNat
  let inside (digits : Nat) : Bool :=
    if near.closed then near.low * scale ≤ digits * grid && digits * grid ≤ near.high * scale
    else near.low * scale < digits * grid && digits * grid < near.high * scale
  let nearest := roundedQuotient (4 * units * scale) grid
  let lower := 4 * units * scale / grid
  ([nearest, lower, lower + 1].find? inside).map (⟨·, power⟩)

/-- A power of ten above a magnitude. -/
def topPower (units : Nat) : Int :=
  ((units.log2 : Int) + 1 - 1074) * 30103 / 100000 + 2

/-- The decimal with the fewest digits that is nearer to a magnitude than to any other. Seventeen digits always
suffice; the exact decimal is there because every power of two divides one of ten. -/
def shortest (units : Nat) : Decimal :=
  ((List.range 24).findSome? fun (i : Nat) => onGrid? units (topPower units - i)).getD
    ⟨units * Nat.pow 5 1074, -1074⟩

end Floating

namespace Decimal

/-- The place of the point behind the first digit for which no exponent is written, from and to. -/
def positionalPlaces : Int × Int := (-3, 16)

/-- An exponent in writing: its sign and at least two digits. -/
def exponentText (exponent : Int) : String :=
  let digits := toString exponent.natAbs
  (if exponent < 0 then "e-" else "e+") ++ (if digits.length < 2 then "0" ++ digits else digits)

/-- A positive decimal in writing. -/
def text (d : Decimal) : String :=
  let digits := toString d.digits
  let place : Int := digits.length + d.exponent
  let zeros (count : Int) : String := String.ofList (List.replicate count.toNat '0')
  if positionalPlaces.1 ≤ place ∧ place ≤ positionalPlaces.2 then
    if place ≤ 0 then "0." ++ zeros (-place) ++ digits
    else if digits.length ≤ place then digits ++ zeros d.exponent ++ ".0"
    else
      String.ofList (digits.toList.take place.toNat) ++ "." ++
        String.ofList (digits.toList.drop place.toNat)
  else
    let first := String.ofList (digits.toList.take 1)
    let others := digits.toList.drop 1
    first ++ (if others.isEmpty then "" else "." ++ String.ofList others) ++ exponentText (place - 1)

end Decimal

/-- A number in writing. -/
def Floating.text : Floating → String
  | infinite negative => if negative then "-inf" else "inf"
  | finite negative units =>
      (if negative then "-" else "") ++ if units = 0 then "0.0" else (shortest units).text

end HMSignature
