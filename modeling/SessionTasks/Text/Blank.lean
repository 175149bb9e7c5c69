/-
# Blanks around a text

A blank is a character with the Unicode property `White_Space`.
-/
namespace SessionTasks.Text

/-- The blanks. -/
def isBlank (c : Char) : Bool :=
  let n := c.toNat
  (9 ≤ n && n ≤ 13) || n = 0x20 || n = 0x85 || n = 0xA0 || n = 0x1680
    || (0x2000 ≤ n && n ≤ 0x200A) || n = 0x2028 || n = 0x2029 || n = 0x202F || n = 0x205F
    || n = 0x3000

/-- A text without the blanks at its two ends. -/
def trim (text : String) : String :=
  String.ofList ((text.toList.dropWhile isBlank).reverse.dropWhile isBlank).reverse

/-- Only blanks, or nothing. -/
def isBlankText (text : String) : Bool := text.toList.all isBlank

/-- The text, unless it is blank. -/
def nonBlank? (text : String) : Option String :=
  if isBlankText text then none else some text

end SessionTasks.Text
