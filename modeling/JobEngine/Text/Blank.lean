/-!
# White space

The characters with the Unicode `White_Space` property: the ASCII tab, line feed, vertical
tab, form feed, carriage return and space, the next-line control U+0085, and the space
separators and line and paragraph separators of the Unicode tables.

## Main Definitions

* `isBlank` — membership in that set.
* `trimBlank` — a string without leading and trailing blanks.
-/

namespace JobEngine.Text

/-- Whether a character has the Unicode `White_Space` property. -/
def isBlank (c : Char) : Bool :=
  let n := c.toNat
  (0x09 ≤ n && n ≤ 0x0D) || n == 0x20 || n == 0x85 || n == 0xA0 || n == 0x1680 ||
    (0x2000 ≤ n && n ≤ 0x200A) || n == 0x2028 || n == 0x2029 || n == 0x202F ||
    n == 0x205F || n == 0x3000

/-- A string without its leading and trailing blanks. -/
def trimBlank (s : String) : String :=
  String.ofList ((s.toList.dropWhile isBlank).reverse.dropWhile isBlank).reverse

/-- A string without its leading and trailing ASCII spaces and tabs. -/
def trimSpaceTab (s : String) : String :=
  let sp (c : Char) : Bool := c == ' ' || c == '\t'
  String.ofList ((s.toList.dropWhile sp).reverse.dropWhile sp).reverse

end JobEngine.Text
