/-!
# Blank characters

A character is blank when it has the Unicode property `White_Space`.  There
are twenty-five of them, in ten runs of code points.  Text is trimmed of the
blanks at both of its ends and of no others.
-/

namespace CallFrame

/-- The runs of blank code points, each with its first and its last one. -/
def blankRuns : List (Nat × Nat) :=
  [(0x9, 0xd), (0x20, 0x20), (0x85, 0x85), (0xa0, 0xa0), (0x1680, 0x1680),
    (0x2000, 0x200a), (0x2028, 0x2029), (0x202f, 0x202f), (0x205f, 0x205f),
    (0x3000, 0x3000)]

/-- Whether a character is blank. -/
def isBlank (character : Char) : Bool :=
  blankRuns.any fun run =>
    run.1 ≤ character.toNat && character.toNat ≤ run.2

/-- Drop the blanks at both ends of a list of characters. -/
def trimBlanks (text : List Char) : List Char :=
  ((text.dropWhile isBlank).reverse.dropWhile isBlank).reverse

/-- Drop the blanks at both ends of a text. -/
def trimText (text : String) : String :=
  String.ofList (trimBlanks text.toList)

end CallFrame
