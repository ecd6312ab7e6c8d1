import HMSignature.Text.Ranges
/-!
# Blank characters

Characters that separate tokens and belong to none: the control characters that break lines, pages or records,
and the separators of Unicode. Zero-width characters are not blank.
-/

namespace HMSignature.Text

/-- The intervals of blank code points. -/
def blankRanges : Ranges :=
  [
    (0x0009, 0x000D), (0x001C, 0x0020), (0x0085, 0x0085), (0x00A0, 0x00A0), (0x1680, 0x1680), (0x2000, 0x200A),
    (0x2028, 0x2029), (0x202F, 0x202F), (0x205F, 0x205F), (0x3000, 0x3000)]

/-- A character that only separates. -/
def isBlank (c : Char) : Bool :=
  blankRanges.contains c.toNat

/-- A text without the blanks at its end. -/
def trimEnd (text : String) : String :=
  String.ofList (text.toList.reverse.dropWhile isBlank).reverse

end HMSignature.Text
