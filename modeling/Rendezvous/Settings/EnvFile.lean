import Rendezvous.Entries
import Rendezvous.Text.Word
import Rendezvous.Text.Lines

/-!
# Environment files

An environment file binds names to texts, a binding on each line: an optional `export`, a name that may
stand between single quotes, an equals sign and a value.  A value between quotes may span lines and hold
escapes; any other value ends where a comment begins.  A line that does not read as a binding is passed
over.  Values may refer to names of the environment and to names bound before them.

Each reader takes the characters that are left and returns those after what it has read.
-/

namespace Rendezvous.EnvFile

/-- A binding of a name; a name on its own has no value. -/
structure Binding where
  name : String
  value : Option String
  deriving Repr, DecidableEq

/-! ## Characters -/

/-- A blank that does not end a line. -/
def isInnerBlank (c : Char) : Bool := Text.isBlank c && c != '\n' && c != '\r'

/-- The rest of the line, without its end. -/
def restOfLine (cs : List Char) : List Char := cs.takeWhile (· != '\n')

/-- What follows the line. -/
def afterLine (cs : List Char) : List Char := (cs.dropWhile (· != '\n')).drop 1

/-! ## Values -/

/-- What stands before the closing quote, and what follows it.  A backslash takes a quote behind it
along, unless no other quote is left to close the value. -/
def quotedBody? (quote : Char) : List Char → Option (List Char × List Char)
  | [] => none
  | '\\' :: c :: rest =>
    if c = quote then
      match quotedBody? quote rest with
      | some (body, after) => some ('\\' :: c :: body, after)
      | none => some (['\\'], rest)
    else (quotedBody? quote (c :: rest)).map fun (body, after) => ('\\' :: body, after)
  | c :: rest =>
    if c = quote then some ([], rest)
    else (quotedBody? quote rest).map fun (body, after) => (c :: body, after)

/-- The escapes of a value between single quotes. -/
def singleEscape? : Char → Option Char
  | '\\' => some '\\'
  | '\'' => some '\''
  | _ => none

/-- The escapes of a value between double quotes. -/
def doubleEscape? : Char → Option Char
  | '\\' => some '\\'
  | '\'' => some '\''
  | '"' => some '"'
  | 'a' => some '\x07'
  | 'b' => some '\x08'
  | 'f' => some '\x0c'
  | 'n' => some '\n'
  | 'r' => some '\r'
  | 't' => some '\t'
  | 'v' => some '\x0b'
  | _ => none

/-- The characters with their escapes decoded. -/
def decodeEscapes (escape? : Char → Option Char) : List Char → List Char
  | [] => []
  | '\\' :: c :: rest =>
    match escape? c with
    | some d => d :: decodeEscapes escape? rest
    | none => '\\' :: decodeEscapes escape? (c :: rest)
  | c :: rest => c :: decodeEscapes escape? rest

/-- What stands before a comment: blanks followed by a number sign. -/
def beforeComment (cs : List Char) : List Char :=
  match cs with
  | [] => []
  | c :: rest =>
    if Text.isBlank c && (cs.dropWhile Text.isBlank).head? == some '#' then []
    else c :: beforeComment rest

/-- The characters without blanks at the end. -/
def trimEnd (cs : List Char) : List Char := (cs.reverse.dropWhile Text.isBlank).reverse

/-- A value, and what follows it; nothing if a quote is not closed. -/
def value? (cs : List Char) : Option (List Char × List Char) :=
  match cs with
  | [] => some ([], [])
  | c :: rest =>
    if c = '\'' then
      (quotedBody? '\'' rest).map fun (body, after) => (decodeEscapes singleEscape? body, after)
    else if c = '"' then
      (quotedBody? '"' rest).map fun (body, after) => (decodeEscapes doubleEscape? body, after)
    else some (trimEnd (beforeComment (restOfLine cs)), cs.dropWhile (· != '\n'))

/-! ## Bindings -/

/-- Whether a character may stand in a name without quotes. -/
def isNameCharacter (c : Char) : Bool := !(c == '=' || c == '#' || Text.isBlank c)

/-- What follows an `export` with a blank behind it, if the characters begin with one. -/
def skipExport (cs : List Char) : List Char :=
  let word := "export".toList
  let rest := cs.drop word.length
  if cs.take word.length == word && (rest.head?.map isInnerBlank).getD false
  then rest.dropWhile isInnerBlank else cs

/-- A name and what follows it.  A comment stands where a name would, and is none; so the outer option
says whether there is something to go on with. -/
def name? (cs : List Char) : Option (Option (List Char)) × List Char :=
  match cs with
  | '#' :: _ => (some none, cs)
  | '\'' :: rest =>
    let name := rest.takeWhile (· != '\'')
    match rest.dropWhile (· != '\'') with
    | _ :: after => if name.isEmpty then (none, cs) else (some (some name), after)
    | [] => (none, cs)
  | _ =>
    let name := cs.takeWhile isNameCharacter
    if name.isEmpty then (none, cs) else (some (some name), cs.dropWhile isNameCharacter)

/-- What follows an optional comment and the end of the line, if nothing else stands there. -/
def endOfLine? (cs : List Char) : Option (List Char) :=
  let inner := cs.dropWhile isInnerBlank
  let rest := if inner.head? == some '#' then inner.dropWhile (· != '\n') else inner
  match rest with
  | [] => some []
  | '\n' :: after => some after
  | _ => none

/-- The binding at the front, if the line reads as one, and what follows the line. -/
def binding (cs : List Char) : Option Binding × List Char :=
  let cs := skipExport cs
  match name? cs with
  | (none, rest) => (none, afterLine rest)
  | (some name, rest) =>
    let rest := rest.dropWhile isInnerBlank
    let read? :=
      match rest with
      | '=' :: after =>
        (value? (after.dropWhile isInnerBlank)).map fun (v, rest) => (some (String.ofList v), rest)
      | _ => some (none, rest)
    match read? with
    | none => (none, afterLine rest)
    | some (value, rest) =>
      match endOfLine? rest with
      | some after => (name.map fun n => { name := String.ofList n, value }, after)
      | none => (none, afterLine rest)

/-- The bindings of a file, in order; `fuel` bounds their number. -/
def bindingsFrom : (fuel : Nat) → List Char → List Binding
  | 0, _ => []
  | fuel + 1, cs =>
    match cs.dropWhile Text.isBlank with
    | [] => []
    | cs =>
      let (found, rest) := binding cs
      found.toList ++ bindingsFrom fuel rest

/-- The bindings of a file, in order. -/
def bindings (text : String) : List Binding :=
  let cs := Text.lineFeeds text.toList
  bindingsFrom (cs.length + 1) cs

/-! ## References -/

/-- A reference at the front, between a dollar sign with an opening brace and a closing brace: the
name, the default behind `:-`, and what follows. -/
def reference? (cs : List Char) : Option (String × Option String × List Char) :=
  match cs with
  | '$' :: '\x7b' :: inner =>
    let name := inner.takeWhile fun c => c != '\x7d' && c != ':'
    match inner.dropWhile fun c => c != '\x7d' && c != ':' with
    | '\x7d' :: after => some (String.ofList name, none, after)
    | ':' :: '-' :: more =>
      let default := more.takeWhile (· != '\x7d')
      match more.dropWhile (· != '\x7d') with
      | _ :: after => some (String.ofList name, some (String.ofList default), after)
      | [] => none
    | _ => none
  | _ => none

/-- A value with its references replaced; `fuel` bounds its length. -/
def replaceReferences (known : Entries (Option String)) : (fuel : Nat) → List Char → List Char
  | 0, cs => cs
  | _ + 1, [] => []
  | fuel + 1, c :: rest =>
    match reference? (c :: rest) with
    | some (name, default, after) =>
      let found := match Entries.get? name known with
        | some value => value.getD ""
        | none => default.getD ""
      found.toList ++ replaceReferences known fuel after
    | none => c :: replaceReferences known fuel rest

/-- The bindings as entries, references replaced by what is bound before them or in the environment. -/
def resolve (environment : Entries String) (bs : List Binding) : Entries (Option String) :=
  bs.foldl (fun found b =>
    let known := Entries.update (environment.map fun (k, v) => (k, some v)) found
    let value := b.value.map fun v =>
      let cs := v.toList
      String.ofList (replaceReferences known (cs.length + 1) cs)
    Entries.put b.name value found) []

end Rendezvous.EnvFile
