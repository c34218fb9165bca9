/-! Blank characters, and texts without the blanks at their ends. -/

namespace GraphConsole.Text

/-- White space: the ASCII blanks, the four information separators, and the blanks of Unicode.
The zero-width space and the byte order mark are not among them. -/
def isBlank (c : Char) : Bool :=
  let n := c.toNat
  (9 ≤ n && n ≤ 13) || (28 ≤ n && n ≤ 32) || n == 0x85 || n == 0xA0 || n == 0x1680
    || (0x2000 ≤ n && n ≤ 0x200A) || n == 0x2028 || n == 0x2029 || n == 0x202F
    || n == 0x205F || n == 0x3000

/-- A blank that is no information separator. -/
def isSpace (c : Char) : Bool :=
  isBlank c && !(28 ≤ c.toNat && c.toNat ≤ 31)

def dropBlanks (s : List Char) : List Char :=
  s.dropWhile isBlank

def dropTrailing (p : Char → Bool) (s : List Char) : List Char :=
  (s.reverse.dropWhile p).reverse

def dropTrailingBlanks (s : List Char) : List Char :=
  dropTrailing isBlank s

def trim (s : List Char) : List Char :=
  dropTrailingBlanks (dropBlanks s)

def trimSpaces (s : List Char) : List Char :=
  dropTrailing isSpace (s.dropWhile isSpace)

def trimmed (s : String) : String :=
  String.ofList (trim s.toList)

def allBlank (s : List Char) : Bool :=
  s.all isBlank

@[simp] theorem dropBlanks_nil : dropBlanks [] = [] := rfl

@[simp] theorem trim_nil : trim [] = [] := rfl

end GraphConsole.Text
