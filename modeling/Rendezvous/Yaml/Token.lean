import Rendezvous.Yaml.Scalar

/-!
# YAML as tokens

`Token.ofText?` turns a text into tokens.  Where a block collection begins and ends is not written but
follows from columns: a `Reading` keeps the indentation of the open collections and opens or closes
them when a token stands further right or left.  That a token was the key of an entry shows only at the
colon behind it, so a reading also keeps the place of the last token that could be one
(`Reading.candidates`), to put the marks of the key in front of it afterwards.  A key without a sign of
its own has to be on one line and at most 1024 characters before its colon.
-/

namespace Rendezvous.Yaml

/-- The smallest meaningful parts of a text. -/
inductive Token where
  | version (major minor : Nat)
  | handle (name stands : String)
  | otherDirective
  | documentStart
  | documentEnd
  | listStart
  | listEnd
  | mapStart
  | mapEnd
  | comma
  | entry
  | key
  | value
  | blockListStart
  | blockMapStart
  | blockEnd
  | alias (name : String)
  | anchor (name : String)
  | tag (handle : Option String) (suffix : String)
  | scalar (text : String) (plain : Bool)
  deriving Repr, DecidableEq

/-- A token that may turn out to be a key: the place of its marks among the tokens, where it stands, and
whether a key has to stand there. -/
structure Candidate where
  place : Nat
  index : Nat
  line : Nat
  column : Nat
  required : Bool
  deriving Repr

/-- A text that has been read in part. -/
structure Reading where
  cells : Cells
  tokens : Array Token := #[]
  /-- How many collections between brackets are open. -/
  flow : Nat := 0
  /-- The column of the innermost block collection, and of those around it. -/
  indent : Int := -1
  outer : List Int := []
  /-- Whether a key may stand here. -/
  keyAllowed : Bool := true
  /-- Candidates for keys by the number of brackets around them. -/
  candidates : List (Nat × Candidate) := []

namespace Reading

/-- Go on behind some cells. -/
def moved (cells : Cells) (r : Reading) : Reading := { r with cells }

/-- Add a token. -/
def push (t : Token) (r : Reading) : Reading := { r with tokens := r.tokens.push t }

/-- Whether a collection between brackets is open. -/
def inFlow (r : Reading) : Bool := 0 < r.flow

/-- The column of the next cell. -/
def column (r : Reading) : Int := r.cells.here.column

/-! ## Candidates for keys -/

/-- Whether a candidate is out of reach of the next cell. -/
def isStale (r : Reading) (c : Candidate) : Bool :=
  c.line != r.cells.here.line || 1024 < r.cells.here.index - c.index

/-- Drop the candidates that are out of reach; a required one must not be among them. -/
def dropStale? (r : Reading) : Option Reading :=
  if r.candidates.any fun (_, c) => r.isStale c && c.required then none
  else some { r with candidates := r.candidates.filter fun (_, c) => !r.isStale c }

/-- Drop the candidate between the innermost brackets; it must not be a required one. -/
def dropCandidate? (r : Reading) : Option Reading :=
  match r.candidates.lookup r.flow with
  | some c =>
    if c.required then none
    else some { r with candidates := r.candidates.filter (·.1 != r.flow) }
  | none => some r

/-- Make the next token a candidate, if a key may stand here. -/
def addCandidate? (r : Reading) : Option Reading :=
  if r.keyAllowed then do
    let r' ← r.dropCandidate?
    let here := r.cells.here
    let c : Candidate := {
      place := r.tokens.size, index := here.index, line := here.line, column := here.column
      required := !r.inFlow && r.indent == r.column }
    some { r' with candidates := (r.flow, c) :: r'.candidates }
  else some r

/-! ## Block collections -/

/-- Close the block collections that begin to the right of a column, the innermost first. -/
def closeFrom (column : Int) (tokens : Array Token) (indent : Int) : List Int →
    Array Token × Int × List Int
  | [] => (tokens, indent, [])
  | outer :: more =>
    if column < indent then closeFrom column (tokens.push .blockEnd) outer more
    else (tokens, indent, outer :: more)

/-- Close the block collections that begin to the right of a column; brackets keep them open. -/
def close (column : Int) (r : Reading) : Reading :=
  if r.inFlow then r
  else
    let (tokens, indent, outer) := closeFrom column r.tokens r.indent r.outer
    { r with tokens, indent, outer }

/-- Open a block collection at a column, if it stands further right than the innermost one; its mark
goes to a place among the tokens. -/
def openAt (column : Int) (place : Nat) (t : Token) (r : Reading) : Reading :=
  if r.indent < column then
    { r with tokens := r.tokens.insertIdxIfInBounds place t, indent := column
             outer := r.indent :: r.outer }
  else r

/-! ## Single tokens -/

/-- A sign of one character. -/
def sign (t : Token) (r : Reading) : Reading := (r.push t).moved (r.cells.drop 1)

/-- A mark between documents. -/
def separator? (t : Token) (r : Reading) : Option Reading := do
  let r ← (r.close (-1)).dropCandidate?
  some (({ r with keyAllowed := false }.push t).moved (r.cells.drop 3))

/-- An opening bracket. -/
def opening? (t : Token) (r : Reading) : Option Reading := do
  let r ← r.addCandidate?
  some ({ r with flow := r.flow + 1, keyAllowed := true }.sign t)

/-- A closing bracket; there has to be an open one. -/
def closing? (t : Token) (r : Reading) : Option Reading := do
  if r.flow == 0 then none
  let r ← r.dropCandidate?
  some ({ r with flow := r.flow - 1, keyAllowed := false }.sign t)

/-- A comma between brackets. -/
def comma? (r : Reading) : Option Reading := do
  let r ← { r with keyAllowed := true }.dropCandidate?
  some (r.sign .comma)

/-- The sign of a list entry. -/
def entry? (r : Reading) : Option Reading := do
  if !r.inFlow && !r.keyAllowed then none
  let r := if r.inFlow then r else r.openAt r.column r.tokens.size .blockListStart
  let r ← { r with keyAllowed := true }.dropCandidate?
  some (r.sign .entry)

/-- The sign of a key. -/
def key? (r : Reading) : Option Reading := do
  if !r.inFlow && !r.keyAllowed then none
  let r := if r.inFlow then r else r.openAt r.column r.tokens.size .blockMapStart
  let r ← { r with keyAllowed := !r.inFlow }.dropCandidate?
  some (r.sign .key)

/-- The sign of a value: it makes a key of the candidate, if there is one. -/
def value? (r : Reading) : Option Reading := do
  match r.candidates.lookup r.flow with
  | some c =>
    let r := { r with
      candidates := r.candidates.filter (·.1 != r.flow)
      tokens := r.tokens.insertIdxIfInBounds c.place .key, keyAllowed := false }
    let r := if r.inFlow then r else r.openAt c.column c.place .blockMapStart
    some (r.sign .value)
  | none =>
    if !r.inFlow && !r.keyAllowed then none
    let r := if r.inFlow then r else r.openAt r.column r.tokens.size .blockMapStart
    let r ← { r with keyAllowed := !r.inFlow }.dropCandidate?
    some (r.sign .value)

/-! ## Names and tags -/

/-- Whether a character may stand in the name of an anchor. -/
def isNameCharacter (c : Char) : Bool := c.isAlphanum || c == '-' || c == '_'

/-- A reference or an anchor. -/
def named? (make : String → Token) (r : Reading) : Option Reading := do
  let r ← r.addCandidate?
  let cells : Cells := r.cells.drop 1
  let name := cells.chars isNameCharacter
  let rest := cells.skip isNameCharacter
  if name.isEmpty then none
  let next := rest.peek 0
  if !(isGap next || "?:,]\x7d%@`".toList.contains next) then none
  some (({ r with keyAllowed := false }.push (make (String.ofList name))).moved rest)

/-- Whether a character may stand in a tag. -/
def isTagCharacter (c : Char) : Bool :=
  c.isAlphanum || "-;/?:@&=+$,_.!~*'()[]".toList.contains c

/-- The bytes of numeric escapes at the front, and the cells after them. -/
def readBytes? : (fuel : Nat) → Cells → Option (List UInt8 × Cells)
  | 0, _ => none
  | fuel + 1, cs =>
    if cs.peek 0 == '%' then do
      let n ← hexValue? [cs.peek 1, cs.peek 2]
      let (more, rest) ← readBytes? fuel (cs.drop 3)
      some (n.toUInt8 :: more, rest)
    else some ([], cs)

/-- The characters of a tag, numeric escapes decoded. -/
def readTagCharacters? : (fuel : Nat) → Cells → Option (List Char × Cells)
  | 0, _ => none
  | fuel + 1, cs =>
    if isTagCharacter (cs.peek 0) then do
      let (more, rest) ← readTagCharacters? fuel (cs.drop 1)
      some (cs.peek 0 :: more, rest)
    else if cs.peek 0 == '%' then do
      let (bytes, rest) ← readBytes? (cs.length + 1) cs
      let text ← String.fromUTF8? (ByteArray.mk bytes.toArray)
      let (more, rest) ← readTagCharacters? fuel rest
      some (text.toList ++ more, rest)
    else some ([], cs)

/-- The characters of a tag, at least one. -/
def tagText? (cs : Cells) : Option (String × Cells) := do
  let (text, rest) ← readTagCharacters? (cs.length + 1) cs
  if text.isEmpty then none
  some (String.ofList text, rest)

/-- A handle in front of a tag: a name between exclamation marks. -/
def tagHandle? (cs : Cells) : Option (String × Cells) := do
  if cs.peek 0 != '!' then none
  let behind : Cells := cs.drop 1
  let name := behind.chars isNameCharacter
  let rest := behind.skip isNameCharacter
  if rest.peek 0 == '!' then some (String.ofList ('!' :: (name ++ ['!'])), rest.drop 1)
  else if name.isEmpty && rest.peek 0 == ' ' then some ("!", rest)
  else none

/-- Whether another exclamation mark stands in the word behind the one at the front. -/
def hasHandle (cs : Cells) : Bool :=
  (Cells.chars (fun c => !(c == ' ' || isBreakOrEnd c)) (cs.drop 1)).contains '!'

/-- A tag behind its exclamation mark. -/
def tag? (r : Reading) : Option Reading := do
  let r ← r.addCandidate?
  let cs := r.cells
  let (t, rest) : Token × Cells ←
    if cs.peek 1 == '<' then do
      let (suffix, rest) ← tagText? (cs.drop 2)
      if rest.peek 0 != '>' then none
      some (Token.tag none suffix, rest.drop 1)
    else if isGap (cs.peek 1) then some (Token.tag none "!", cs.drop 1)
    else if hasHandle cs then do
      let (handle, rest) ← tagHandle? cs
      let (suffix, rest) ← tagText? rest
      some (Token.tag (some handle) suffix, rest)
    else do
      let (suffix, rest) ← tagText? (cs.drop 1)
      some (Token.tag (some "!") suffix, rest)
  let next := rest.peek 0
  if !(next == ' ' || isBreakOrEnd next) then none
  some (({ r with keyAllowed := false }.push t).moved rest)

/-! ## Directives -/

/-- A run of digits. -/
def number? (cs : Cells) : Option (Nat × Cells) :=
  let digits := cs.chars Decimal.isDigit
  if digits.isEmpty then none
  else some (Decimal.digitsValue digits, cs.skip Decimal.isDigit)

/-- The rest of a directive's line: blanks and a comment. -/
def endOfDirective? (cs : Cells) : Option Cells :=
  let rest := (cs.skip (· == ' ')).skipComment
  if rest.peek 0 == endMark then some rest
  else if isBreak (rest.peek 0) then some (rest.drop 1)
  else none

/-- Whether a blank or the end of a line is at the front. -/
def atGap (cs : Cells) : Bool := cs.peek 0 == ' ' || isBreakOrEnd (cs.peek 0)

/-- The version behind its directive. -/
def version? (cs : Cells) : Option (Token × Cells) := do
  let (major, rest) ← number? (cs.skip (· == ' '))
  if rest.peek 0 != '.' then none
  let (minor, rest) ← number? (rest.drop 1)
  if !atGap rest then none
  some (.version major minor, rest)

/-- A handle and what it stands for, behind their directive. -/
def handle? (cs : Cells) : Option (Token × Cells) := do
  let (handle, rest) ← tagHandle? (cs.skip (· == ' '))
  if rest.peek 0 != ' ' then none
  let (stands, rest) ← tagText? (rest.skip (· == ' '))
  if !atGap rest then none
  some (.handle handle stands, rest)

/-- A directive. -/
def directive? (r : Reading) : Option Reading := do
  let r ← (r.close (-1)).dropCandidate?
  let cs : Cells := r.cells.drop 1
  let name := String.ofList (cs.chars isNameCharacter)
  let rest := cs.skip isNameCharacter
  if name.isEmpty || !atGap rest then none
  let (t, rest) : Token × Cells ←
    if name == "YAML" then version? rest
    else if name == "TAG" then handle? rest
    else some (.otherDirective, rest.skip (!isBreakOrEnd ·))
  let rest ← endOfDirective? rest
  some (({ r with keyAllowed := false }.push t).moved rest)

/-! ## Scalars -/

/-- A scalar in an indented block. -/
def block? (folded : Bool) (r : Reading) : Option Reading := do
  let r ← { r with keyAllowed := true }.dropCandidate?
  let (text, rest) ← readBlock? folded r.indent (r.cells.drop 1)
  some ((r.push (.scalar (String.ofList text) false)).moved rest)

/-- A scalar between quotes. -/
def quoted? (double : Bool) (r : Reading) : Option Reading := do
  let r ← r.addCandidate?
  let (text, rest) ← readQuoted? double (r.cells.length + 1) (r.cells.drop 1)
  some (({ r with keyAllowed := false }.push (.scalar (String.ofList text) false)).moved rest)

/-- A plain scalar. -/
def plain? (r : Reading) : Option Reading := do
  let r ← r.addCandidate?
  let (text, ended, rest) := readPlain r.inFlow (r.indent + 1) r.cells.length r.cells
  some (({ r with keyAllowed := ended }.push (.scalar (String.ofList text) true)).moved rest)

/-- Whether a plain scalar may begin here. -/
def startsPlain (r : Reading) : Bool :=
  let c := r.cells.peek 0
  !(isGap c || "-?:,[]\x7b\x7d#&*!|>'\"%@`".toList.contains c)
    || (!isGap (r.cells.peek 1) && (c == '-' || (!r.inFlow && (c == '?' || c == ':'))))

/-! ## All of them -/

/-- Blanks, comments and line breaks before a token; `fuel` bounds the number of lines. -/
def skipToToken : (fuel : Nat) → Reading → Reading
  | 0, r => r
  | fuel + 1, r =>
    let rest := (r.cells.skip (· == ' ')).skipComment
    if isBreak (rest.peek 0) then
      skipToToken fuel { r with cells := rest.drop 1, keyAllowed := r.keyAllowed || !r.inFlow }
    else r.moved rest

/-- A byte order mark at the very beginning is passed over. -/
def skipMark (r : Reading) : Reading :=
  if r.cells.here.index == 0 && r.cells.peek 0 == '\ufeff' then r.moved (r.cells.drop 1) else r

/-- The next token, if any is left; the other case is the end of the text. -/
def next? (r : Reading) : Option (Reading × Bool) := do
  let r := (r.skipMark.skipToToken (r.cells.length + 1))
  let r ← r.dropStale?
  let r := r.close r.column
  let c := r.cells.peek 0
  let gapNext := isGap (r.cells.peek 1)
  let atMargin := r.column == 0
  let more (next : Option Reading) : Option (Reading × Bool) := next.map fun r => (r, true)
  if c == endMark then do
    let r ← (r.close (-1)).dropCandidate?
    if r.inFlow then none else some (r, false)
  else if c == '%' && atMargin then more r.directive?
  else if atMargin && r.cells.startsSeparator '-' then more (r.separator? .documentStart)
  else if atMargin && r.cells.startsSeparator '.' then more (r.separator? .documentEnd)
  else if c == '[' then more (r.opening? .listStart)
  else if c == '\x7b' then more (r.opening? .mapStart)
  else if c == ']' then more (r.closing? .listEnd)
  else if c == '\x7d' then more (r.closing? .mapEnd)
  else if c == ',' then more r.comma?
  else if c == '-' && gapNext then more r.entry?
  else if c == '?' && (r.inFlow || gapNext) then more r.key?
  else if c == ':' && (r.inFlow || gapNext) then more r.value?
  else if c == '*' then more (r.named? .alias)
  else if c == '&' then more (r.named? .anchor)
  else if c == '!' then more r.tag?
  else if c == '|' && !r.inFlow then more (r.block? false)
  else if c == '>' && !r.inFlow then more (r.block? true)
  else if c == '\'' then more (r.quoted? false)
  else if c == '"' then more (r.quoted? true)
  else if r.startsPlain then more r.plain?
  else none

/-- All tokens; `fuel` bounds their number. -/
def all? : (fuel : Nat) → Reading → Option (List Token)
  | 0, _ => none
  | fuel + 1, r =>
    match r.next? with
    | none => none
    | some (r, true) => all? fuel r
    | some (r, false) => some r.tokens.toList

end Reading

/-- The tokens of a text. -/
def Token.ofText? (text : String) : Option (List Token) := do
  let cells ← Cells.ofText? text
  Reading.all? (cells.length + 1) { cells }

end Rendezvous.Yaml
