/-!
# Blanks

White space in the sense of Unicode's `White_Space` property, and the trimming of texts.
-/

namespace ContractCalls.Text

/-- The characters of the property `White_Space`. -/
def isBlank (c : Char) : Bool :=
  let n := c.toNat
  (9 ≤ n && n ≤ 13) || n == 0x20 || n == 0x85 || n == 0xA0 || n == 0x1680 ||
    (0x2000 ≤ n && n ≤ 0x200A) || n == 0x2028 || n == 0x2029 || n == 0x202F || n == 0x205F ||
    n == 0x3000

/-- The text without the blanks at its front. -/
def trimFront (text : List Char) : List Char :=
  text.dropWhile isBlank

/-- The text without the blanks at its ends. -/
def trim (text : List Char) : List Char :=
  (trimFront (trimFront text).reverse).reverse

example : trim " \t(bool) \u3000".toList = "(bool)".toList := by decide +kernel

end ContractCalls.Text
