-- SUMMARY: Blank characters, trimming, and the lower case of ASCII letters.

/-!
# Blank text

A character is blank when Unicode gives it the property `White_Space`: the
ASCII controls from tab to carriage return, the space, and the separators and
spaces of other scripts.
-/
namespace Bindings.Text

/-- Whether `c` has the property `White_Space`. -/
def isBlank (c : Char) : Bool :=
  let n := c.toNat
  (9 ≤ n && n ≤ 13) || n == 0x20 || n == 0x85 || n == 0xa0 || n == 0x1680
    || (0x2000 ≤ n && n ≤ 0x200a) || n == 0x2028 || n == 0x2029
    || n == 0x202f || n == 0x205f || n == 0x3000

/-- Whether `s` has no character that is not blank. -/
def isBlankText (s : String) : Bool := s.toList.all isBlank

/-- `s` without blank characters at its ends. -/
def trim (s : String) : String :=
  let front := s.toList.dropWhile isBlank
  String.ofList (front.reverse.dropWhile isBlank).reverse

/-- A word of a fixed vocabulary, read without regard to blanks around it and
to the case of ASCII letters. -/
def word (s : String) : String := (trim s).map Char.toLower

end Bindings.Text
