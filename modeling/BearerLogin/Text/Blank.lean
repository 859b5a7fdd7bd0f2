/-! White space as Unicode defines it, and the two operations on text that depend on it: removing it
at both ends and splitting at it.  `words` cuts a text into its maximal runs of characters that are
not blank. -/

namespace BearerLogin.Text

/-- The characters with the Unicode property `White_Space`. -/
def isBlank (c : Char) : Bool :=
  let n := c.toNat
  (9 ≤ n && n ≤ 13) || n == 0x20 || n == 0x85 || n == 0xA0 || n == 0x1680 ||
    (0x2000 ≤ n && n ≤ 0x200A) || n == 0x2028 || n == 0x2029 || n == 0x202F || n == 0x205F ||
    n == 0x3000

/-- The characters left when blanks are removed at both ends. -/
def trimChars (chars : List Char) : List Char :=
  ((chars.dropWhile isBlank).reverse.dropWhile isBlank).reverse

/-- The text without the blanks at its two ends. -/
def trim (text : String) : String :=
  String.ofList (trimChars text.toList)

/-- Puts a character in front of the first word. -/
def extendWord (c : Char) : List (List Char) → List (List Char)
  | [] => [[c]]
  | word :: rest => (c :: word) :: rest

/-- The maximal runs of characters that are not blank, in order.  A character starts a run of its
own exactly when the next one is blank or missing. -/
def wordChars : List Char → List (List Char)
  | [] => []
  | c :: rest =>
    if isBlank c then wordChars rest
    else if (rest.head?.map isBlank).getD true then [c] :: wordChars rest
    else extendWord c (wordChars rest)

/-- The words of a text. -/
def words (text : String) : List String :=
  (wordChars text.toList).map String.ofList

end BearerLogin.Text
