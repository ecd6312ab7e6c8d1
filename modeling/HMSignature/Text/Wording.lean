/-!
# Numbers and plurals in messages

Messages spell the numbers from zero to nine as words and write every other number in digits; a counted noun takes an
`s` unless the count is one.
-/

namespace HMSignature.Text

/-- A number as messages write it. -/
def spelled : Int → String
  | 0 => "zero"
  | 1 => "one"
  | 2 => "two"
  | 3 => "three"
  | 4 => "four"
  | 5 => "five"
  | 6 => "six"
  | 7 => "seven"
  | 8 => "eight"
  | 9 => "nine"
  | n => toString n

/-- A noun after a count. -/
def counted (noun : String) (count : Nat) : String :=
  if count = 1 then noun else noun ++ "s"

end HMSignature.Text
