/-!
# Lines

A text cut at its line ends. A carriage return and the line feed behind it are one line end, and the
controls and separators that other scripts and devices end lines with count as well. A line end that
closes the text opens no further line.
-/
namespace AccessControl.Text

/-- The characters that end a line: line feed to carriage return, the three upper information
separators, next line, and the separators of lines and paragraphs. -/
def isLineEnd (c : Char) : Bool :=
  let n := c.toNat
  (0x0A ≤ n && n ≤ 0x0D) || (0x1C ≤ n && n ≤ 0x1E) || n = 0x85 || n = 0x2028 || n = 0x2029

/-- The lines of a text whose current line has begun with some characters, the last of them
first. -/
def linesFrom (begun : List Char) : List Char → List (List Char)
  | [] => if begun.isEmpty then [] else [begun.reverse]
  | '\r' :: '\n' :: rest => begun.reverse :: linesFrom [] rest
  | c :: rest =>
    if isLineEnd c then begun.reverse :: linesFrom [] rest else linesFrom (c :: begun) rest

def lines (cs : List Char) : List (List Char) :=
  linesFrom [] cs

end AccessControl.Text
