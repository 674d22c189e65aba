import Rendezvous.Yaml.Cell
import Rendezvous.Json.Reader

/-!
# Scalars in their written forms

A scalar is written between quotes, as a plain run of words, or as an indented block.  In all of them a
single line break between two lines counts as a blank, and of several breaks all but the first are
kept.  Each reader takes the cells behind the place where the scalar begins and returns its characters
and the cells after it.
-/

namespace Rendezvous.Yaml

/-- Line breaks at the front, with characters among them for which a test holds: the breaks, and the
cells after all of them. -/
def readBreaks (test : Char → Bool) : Cells → List Char × Cells
  | [] => ([], [])
  | c :: rest =>
    if isBreak c.char then
      let (more, after) := readBreaks test rest
      (breakText c.char :: more, after)
    else if test c.char then
      let (more, after) := readBreaks test rest
      (more, after)
    else ([], c :: rest)

/-- What line breaks between two lines amount to: a single line feed is a blank, of several the first
is dropped; another kind of break is kept. -/
def foldBreaks : List Char → List Char
  | [] => []
  | first :: more =>
    if first != '\n' then first :: more else if more.isEmpty then [' '] else more

/-- Whether documents are separated right after one of the line breaks at the front. -/
def separatorAfterBreak (test : Char → Bool) : Cells → Bool
  | [] => false
  | c :: rest =>
    if isBreak c.char then Cells.atSeparator rest || separatorAfterBreak test rest
    else if test c.char then separatorAfterBreak test rest
    else false

/-- Blanks and tabs. -/
def isBlankOrTab (c : Char) : Bool := c == ' ' || c == '\t'

/-! ## Between quotes -/

/-- The escapes that stand for one character. -/
def escape? : Char → Option Char
  | '0' => some '\x00'
  | 'a' => some '\x07'
  | 'b' => some '\x08'
  | 't' => some '\t'
  | '\t' => some '\t'
  | 'n' => some '\n'
  | 'v' => some '\x0b'
  | 'f' => some '\x0c'
  | 'r' => some '\r'
  | 'e' => some '\x1b'
  | ' ' => some ' '
  | '"' => some '"'
  | '\\' => some '\\'
  | '/' => some '/'
  | 'N' => some '\u0085'
  | '_' => some '\u00a0'
  | 'L' => some '\u2028'
  | 'P' => some '\u2029'
  | _ => none

/-- How many hexadecimal digits an escape takes. -/
def escapeWidth? : Char → Option Nat
  | 'x' => some 2
  | 'u' => some 4
  | 'U' => some 8
  | _ => none

/-- The number that hexadecimal digits name. -/
def hexValue? (cs : List Char) : Option Nat :=
  cs.foldlM (fun n c => (Json.hexValue? c).map (16 * n + ·)) 0

/-- An escape whose backslash has been read: its characters, and the cells after it. An escaped line
break stands for nothing but the breaks after it. -/
def readEscape? (cs : Cells) : Option (List Char × Cells) :=
  let c := cs.peek 0
  match escape? c, escapeWidth? c with
  | some d, _ => some ([d], cs.drop 1)
  | none, some width =>
    let digits := ((cs.drop 1).take width).map Cell.char
    if digits.length == width then
      (hexValue? digits).map fun n => ([Char.ofNat n], cs.drop (1 + width))
    else none
  | none, none =>
    if isBreak c then
      if separatorAfterBreak isBlankOrTab cs then none
      else
        let (breaks, rest) := readBreaks isBlankOrTab cs
        some (breaks.drop 1, rest)
    else none

/-- A scalar up to its closing quote; `fuel` bounds its length. -/
def readQuoted? (double : Bool) : (fuel : Nat) → Cells → Option (List Char × Cells)
  | 0, _ => none
  | fuel + 1, cs =>
    let c := cs.peek 0
    let go (front : List Char) (rest : Cells) : Option (List Char × Cells) :=
      (readQuoted? double fuel rest).map fun (text, after) => (front ++ text, after)
    if c == (if double then '"' else '\'') then
      if !double && cs.peek 1 == '\'' then go ['\''] (cs.drop 2) else some ([], cs.drop 1)
    else if double && c == '\\' then
      match readEscape? (cs.drop 1) with
      | some (front, rest) => go front rest
      | none => none
    else if isBlankOrTab c then
      let blanks := cs.chars isBlankOrTab
      let rest := cs.skip isBlankOrTab
      if isBreak (rest.peek 0) then go [] rest else go blanks rest
    else if isBreak c then
      if separatorAfterBreak isBlankOrTab cs then none
      else
        let (breaks, rest) := readBreaks isBlankOrTab cs
        go (foldBreaks breaks) rest
    else if c == endMark then none
    else go [c] (cs.drop 1)

/-! ## Plain -/

/-- Whether a plain scalar ends at the front. -/
def endsPlain (flow : Bool) (cs : Cells) : Bool :=
  let c := cs.peek 0
  let next := cs.peek 1
  isGap c || (c == ':' && (isGap next || (flow && (",[]\x7b\x7d".toList.contains next))))
    || (flow && (",?[]\x7b\x7d".toList.contains c))

/-- The characters of one word of a plain scalar. -/
def readWord (flow : Bool) : Cells → List Char × Cells
  | [] => ([], [])
  | c :: rest =>
    if endsPlain flow (c :: rest) then ([], c :: rest)
    else
      let (word, after) := readWord flow rest
      (c.char :: word, after)

/-- What lies between two words of a plain scalar: the characters it amounts to, whether a line ended,
and the cells after it. -/
def readPlainGap (cs : Cells) : List Char × Bool × Cells :=
  let blanks := cs.chars (· == ' ')
  let rest := cs.skip (· == ' ')
  if isBreak (rest.peek 0) then
    if separatorAfterBreak (· == ' ') rest then ([], true, stopAtSeparator rest)
    else
      let (breaks, after) := readBreaks (· == ' ') rest
      (foldBreaks breaks, true, after)
  else (blanks, false, rest)
where
  /-- The words stop before a separator: the cells from there on. -/
  stopAtSeparator : Cells → Cells
    | [] => []
    | c :: rest => if isBreak c.char && Cells.atSeparator rest then rest else stopAtSeparator rest

/-- A plain scalar: its characters, whether a line ended after it, and the cells after it.  `least` is
the column that its later lines have to reach; `fuel` bounds the number of its words. -/
def readPlain (flow : Bool) (least : Int) : (fuel : Nat) → Cells → List Char × Bool × Cells
  | 0, cs => ([], false, cs)
  | fuel + 1, cs =>
    let (word, rest) := readWord flow cs
    let (gap, ended, after) := readPlainGap rest
    let next := after.peek 0
    if gap.isEmpty || next == '#' || (!flow && (after.here.column : Int) < least)
        || endsPlain flow after then (word, ended, after)
    else
      let (text, ended, last) := readPlain flow least fuel after
      (word ++ gap ++ text, ended, last)

/-! ## Blocks -/

/-- What happens to the line breaks at the end of a block. -/
inductive Chomping where
  /-- One is kept. -/
  | clip
  /-- None is kept. -/
  | strip
  /-- All are kept. -/
  | keep
  deriving Repr, DecidableEq

/-- The chomping that a sign stands for. -/
def chomping? : Char → Option Chomping
  | '+' => some .keep
  | '-' => some .strip
  | _ => none

/-- The indentation that a digit stands for; zero is none. -/
def increment? (c : Char) : Option Nat :=
  if '1' ≤ c ∧ c ≤ '9' then some (c.toNat - '0'.toNat) else none

/-- The signs at the head of a block: chomping and indentation, in either order. -/
def readHead (cs : Cells) : Chomping × Option Nat × Cells :=
  match chomping? (cs.peek 0) with
  | some chomping =>
    match increment? (cs.peek 1) with
    | some n => (chomping, some n, cs.drop 2)
    | none => (chomping, none, cs.drop 1)
  | none =>
    match increment? (cs.peek 0) with
    | some n =>
      match chomping? (cs.peek 1) with
      | some chomping => (chomping, some n, cs.drop 2)
      | none => (.clip, some n, cs.drop 1)
    | none => (.clip, none, cs)

/-- The rest of the line at the head of a block: blanks and a comment, and nothing else. -/
def endOfHead? (cs : Cells) : Option Cells :=
  let c := cs.peek 0
  if c == ' ' || isBreakOrEnd c then
    let rest := (cs.skip (· == ' ')).skipComment
    if rest.peek 0 == endMark then some rest
    else if isBreak (rest.peek 0) then some (rest.drop 1)
    else none
  else none

/-- The empty lines before the first line of a block: their breaks, the largest column that blanks
reach, and the cells after them. -/
def readLeading : Cells → List Char × Nat × Cells
  | [] => ([], 0, [])
  | c :: rest =>
    if isBreak c.char then
      let (breaks, most, after) := readLeading rest
      (breakText c.char :: breaks, most, after)
    else if c.char == ' ' then
      let (breaks, most, after) := readLeading rest
      (breaks, max (c.column + 1) most, after)
    else ([], 0, c :: rest)

/-- Empty lines inside a block of the given indentation: their breaks, and the cells after them and
after the indentation of the next line. -/
def readEmptyLines (indent : Nat) : Cells → List Char × Cells
  | [] => ([], [])
  | c :: rest =>
    if c.char == ' ' && c.column < indent then readEmptyLines indent rest
    else if isBreak c.char then
      let (breaks, after) := readEmptyLines indent rest
      (breakText c.char :: breaks, after)
    else ([], c :: rest)

/-- The lines of a block: what has to be put before the next line is `pending`.  The result holds the
text, the break of the last line, the breaks after it and the cells after those. -/
def readLines (folded : Bool) (indent : Nat) :
    (fuel : Nat) → List Char → Cells → List Char × List Char × List Char × Cells
  | 0, pending, cs => ([], [], pending, cs)
  | fuel + 1, pending, cs =>
    let line := cs.chars (!isBreakOrEnd ·)
    let rest := cs.skip (!isBreakOrEnd ·)
    let lineBreak := if isBreak (rest.peek 0) then [breakText (rest.peek 0)] else []
    let (breaks, after) := readEmptyLines indent (rest.drop lineBreak.length)
    if after.here.column == indent && after.peek 0 != endMark then
      let folds := folded && lineBreak == ['\n'] && !isBlankOrTab (cs.peek 0)
        && !isBlankOrTab (after.peek 0)
      let between := if folds then (if breaks.isEmpty then [' '] else []) else lineBreak
      let (text, last, trailing, final) := readLines folded indent fuel (between ++ breaks) after
      (pending ++ line ++ text, last, trailing, final)
    else (pending ++ line, lineBreak, breaks, after)

/-- A block scalar whose sign has been read, inside a collection of the given indentation. -/
def readBlock? (folded : Bool) (outer : Int) (cs : Cells) : Option (List Char × Cells) := do
  let (chomping, increment, rest) := readHead cs
  let rest ← endOfHead? rest
  let least := (max (outer + 1) 1).toNat
  let (breaks, indent, rest) :=
    match increment with
    | some n =>
      let indent := least + n - 1
      let (breaks, rest) := readEmptyLines indent rest
      (breaks, indent, rest)
    | none =>
      let (breaks, most, rest) := readLeading rest
      (breaks, max least most, rest)
  let (text, last, trailing, rest) :=
    if rest.here.column == indent && rest.peek 0 != endMark
    then readLines folded indent rest.length breaks rest
    else ([], [], breaks, rest)
  let ending :=
    match chomping with
    | .clip => last
    | .strip => []
    | .keep => last ++ trailing
  return (text ++ ending, rest)

end Rendezvous.Yaml
