/-! Blank characters and the ends of texts.

The blank characters are the 25 characters with the white-space property.  A key made of blanks
only is no key, a mode token holds no blank, and messages of external programs lose the blanks at
both ends.  The value of an attribute is cut more narrowly: only line endings go.
-/

namespace ModeSwitch.Text

/-- The code points of the blank characters, as closed ranges, ascending and apart. -/
def blankRanges : List (Nat × Nat) :=
  [(0x09, 0x0D), (0x20, 0x20), (0x85, 0x85), (0xA0, 0xA0), (0x1680, 0x1680), (0x2000, 0x200A),
   (0x2028, 0x2029), (0x202F, 0x202F), (0x205F, 0x205F), (0x3000, 0x3000)]

def isBlank (c : Char) : Bool :=
  blankRanges.any fun range => range.1 ≤ c.toNat && c.toNat ≤ range.2

/-- Is the character one of the two that end a line of an attribute? -/
def isLineEnd (c : Char) : Bool :=
  c == '\n' || c == '\r'

/-- The characters without the longest run at the end that satisfies `drop`. -/
def dropTrailing (drop : Char → Bool) (cs : List Char) : List Char :=
  (cs.reverse.dropWhile drop).reverse

/-- The text without the line endings at its end.  Blanks before them stay. -/
def trimLineEnds (text : String) : String :=
  String.ofList (dropTrailing isLineEnd text.toList)

def trimEnd (text : String) : String :=
  String.ofList (dropTrailing isBlank text.toList)

def trim (text : String) : String :=
  String.ofList (dropTrailing isBlank (text.toList.dropWhile isBlank))

/-- Does the text hold nothing but blanks?  The empty text does. -/
def isBlankText (text : String) : Bool :=
  text.toList.all isBlank

def padRight (width : Nat) (text : String) : String :=
  text ++ String.ofList (List.replicate (width - text.toList.length) ' ')

def padLeft (width : Nat) (text : String) : String :=
  String.ofList (List.replicate (width - text.toList.length) ' ') ++ text

end ModeSwitch.Text
