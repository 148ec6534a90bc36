/-
# White space

A character is blank when Unicode gives it the property `White_Space`. Twenty-five characters
have it:

| characters | what they are |
| --- | --- |
| U+0009 … U+000D | tab, line feed, vertical tab, form feed, carriage return |
| U+0020, U+00A0 | space, no-break space |
| U+0085, U+2028, U+2029 | next line, line and paragraph separators |
| U+1680, U+2000 … U+200A, U+202F, U+205F, U+3000 | the other spaces |

The Mongolian vowel separator, the zero-width spaces and the information separators of ASCII
are not blank.
-/

namespace StatusRelay
namespace Text

/-- Whether a character has the Unicode property `White_Space`. -/
def isBlank (c : Char) : Bool :=
  let n := c.toNat
  (9 ≤ n && n ≤ 13) || n == 32 || n == 0x85 || n == 0xA0 || n == 0x1680 ||
    (0x2000 ≤ n && n ≤ 0x200A) || n == 0x2028 || n == 0x2029 || n == 0x202F ||
    n == 0x205F || n == 0x3000

/-- A text without its leading blanks. -/
def trimLeft (cs : List Char) : List Char := cs.dropWhile isBlank

/-- A text without its trailing blanks. -/
def trimRight (cs : List Char) : List Char := (cs.reverse.dropWhile isBlank).reverse

/-- A text without its leading and trailing blanks. -/
def trim (cs : List Char) : List Char := trimRight (trimLeft cs)

/-- **The space is blank.** -/
theorem isBlank_space : isBlank ' ' = true := by decide

end Text
end StatusRelay
