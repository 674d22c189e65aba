import Rendezvous.Text.Lines

/-!
# Text with positions

In YAML the meaning of a character depends on where it stands, so a text is read as a list of cells:
every character with its index, its line and its column.  A last cell marks the end; it is never read
past.  `Cells.ofText?` refuses characters that have no place in such a file.
-/

namespace Rendezvous.Yaml

/-- A character and where it stands. -/
structure Cell where
  char : Char
  index : Nat
  line : Nat
  column : Nat
  deriving Repr, DecidableEq, Inhabited

/-- The cells that are left to read; the last of them is the end mark. -/
abbrev Cells := List Cell

/-- The character of the end mark. -/
def endMark : Char := '\x00'

/-- Whether a character ends a line. -/
def isBreak (c : Char) : Bool := c == '\n' || c == '\u0085' || c == '\u2028' || c == '\u2029'

/-- Whether a character ends a line, or is the end mark. -/
def isBreakOrEnd (c : Char) : Bool := isBreak c || c == endMark

/-- Whether a character ends a word: a blank, a tab, the end of a line or of the text. -/
def isGap (c : Char) : Bool := c == ' ' || c == '\t' || isBreakOrEnd c

/-- Whether a character may stand in a file. -/
def isAllowed (c : Char) : Bool :=
  let n := c.toNat
  n == 0x9 || n == 0xa || n == 0xd || (0x20 ≤ n && n ≤ 0x7e) || n == 0x85 || (0xa0 ≤ n && n ≤ 0xd7ff)
    || (0xe000 ≤ n && n ≤ 0xfffd) || 0x10000 ≤ n

/-- The cells of characters from a position on.  A byte order mark takes no column. -/
def Cells.layOut (index line column : Nat) : List Char → Cells
  | [] => [{ char := endMark, index, line, column }]
  | c :: rest =>
    let cell : Cell := { char := c, index, line, column }
    if isBreak c then cell :: layOut (index + 1) (line + 1) 0 rest
    else if c == '\ufeff' then cell :: layOut (index + 1) line column rest
    else cell :: layOut (index + 1) line (column + 1) rest

/-- The cells of a text, if all of its characters may stand in a file. -/
def Cells.ofText? (text : String) : Option Cells :=
  let cs := Text.lineFeeds text.toList
  if cs.all isAllowed then some (Cells.layOut 0 0 0 cs) else none

namespace Cells

/-- The cell to read next. -/
def here (cs : Cells) : Cell := cs.headD { char := endMark, index := 0, line := 0, column := 0 }

/-- The character `n` places ahead. -/
def peek (n : Nat) (cs : Cells) : Char := (cs[n]?.map Cell.char).getD endMark

/-- The characters at the front for which a test holds. -/
def chars (test : Char → Bool) (cs : Cells) : List Char :=
  (cs.takeWhile fun c => test c.char).map Cell.char

/-- The cells after the characters for which a test holds. -/
def skip (test : Char → Bool) (cs : Cells) : Cells := cs.dropWhile fun c => test c.char

/-- Whether three characters that separate documents stand at the front, as a word. -/
def startsSeparator (mark : Char) (cs : Cells) : Bool :=
  cs.peek 0 == mark && cs.peek 1 == mark && cs.peek 2 == mark && isGap (cs.peek 3)

/-- Whether documents are separated here. -/
def atSeparator (cs : Cells) : Bool := cs.startsSeparator '-' || cs.startsSeparator '.'

/-- The rest of a comment, if one stands at the front, is passed over. -/
def skipComment (cs : Cells) : Cells := if cs.peek 0 == '#' then cs.skip (!isBreakOrEnd ·) else cs

end Cells

/-- A line break as it counts in text: a next line counts as a line feed. -/
def breakText (c : Char) : Char := if c == '\u0085' then '\n' else c

end Rendezvous.Yaml
