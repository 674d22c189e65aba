import Rendezvous.Text.Word

/-!
# Lines of a description

A description written inside a program is indented like the text around it.  `cleaned` takes the common
indentation of its later lines away, turns tabs into blanks and drops empty lines at both ends;
`firstLine` is what comes before the first line break of any kind.
-/

namespace Rendezvous.Text

/-- Whether a character ends a line: the line feeds and returns, and the separators of files, groups,
records, lines and paragraphs. -/
def isLineBreak (c : Char) : Bool :=
  (0xa ≤ c.toNat && c.toNat ≤ 0xd) || (0x1c ≤ c.toNat && c.toNat ≤ 0x1e) || c.toNat == 0x85
    || c.toNat == 0x2028 || c.toNat == 0x2029

/-- The characters of a file, with a line feed for carriage returns and for their pairs with line feeds. -/
def lineFeeds : List Char → List Char
  | [] => []
  | '\r' :: '\n' :: rest => '\n' :: lineFeeds rest
  | '\r' :: rest => '\n' :: lineFeeds rest
  | c :: rest => c :: lineFeeds rest

/-- What comes before the first line break. -/
def firstLine (cs : List Char) : List Char := cs.takeWhile (!isLineBreak ·)

/-- Blanks in place of tabs, up to the next multiple of eight columns; `column` characters of the line
have been written. -/
def expandTabsFrom (column : Nat) : List Char → List Char
  | [] => []
  | c :: rest =>
    if c = '\t' then
      let n := 8 - column % 8
      List.replicate n ' ' ++ expandTabsFrom (column + n) rest
    else if c = '\n' ∨ c = '\r' then c :: expandTabsFrom 0 rest
    else c :: expandTabsFrom (column + 1) rest

/-- Split at a character; there is one part more than occurrences. -/
def splitAt (separator : Char) : List Char → List (List Char)
  | [] => [[]]
  | c :: rest =>
    let parts := splitAt separator rest
    if c = separator then [] :: parts
    else
      match parts with
      | [] => [[c]]
      | part :: more => (c :: part) :: more

/-- How far a line is indented; an empty line has no indentation. -/
def indentation? (line : List Char) : Option Nat :=
  let content := line.dropWhile isBlank
  if content.isEmpty then none else some (line.length - content.length)

/-- The least of some numbers. -/
def least? : List Nat → Option Nat
  | [] => none
  | n :: rest => some ((least? rest).elim n (Nat.min n))

/-- Lines without the indentation that the later ones share. -/
def dedented : List (List Char) → List (List Char)
  | [] => []
  | first :: later =>
    let margin := (least? (later.filterMap indentation?)).getD 0
    first.dropWhile isBlank :: later.map (·.drop margin)

/-- Lines without empty ones at both ends. -/
def trimmedLines (lines : List (List Char)) : List (List Char) :=
  ((lines.reverse.dropWhile List.isEmpty).reverse).dropWhile List.isEmpty

/-- A description without its indentation and without empty lines at both ends. -/
def cleaned (s : String) : List Char :=
  List.intercalate ['\n'] (trimmedLines (dedented (splitAt '\n' (expandTabsFrom 0 s.toList))))

end Rendezvous.Text
