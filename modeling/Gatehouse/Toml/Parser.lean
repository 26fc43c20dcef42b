import Gatehouse.Toml.Document
import Gatehouse.Toml.Scalar

namespace Gatehouse.Toml

/-- How deep values may be nested, and how many parts a key may have. -/
def maxDepth : Nat := 79

def isBareKeyChar (c : Char) : Bool := c.isAlphanum || c == '-' || c == '_'

/-- One part of a key, bare or in quotes. -/
def keyPart : Reader String := fun cs =>
  match cs with
  | '"' :: rest => (basic [] (rest.length + 1) rest).map fun (cs, rest) => (String.ofList cs, rest)
  | '\'' :: rest => (literal rest).map fun (cs, rest) => (String.ofList cs, rest)
  | _ =>
    let run := cs.takeWhile isBareKeyChar
    if run.isEmpty then none else some (String.ofList run, cs.drop run.length)

/-- The parts of a key with dots between them; blanks may stand around each part. -/
def keyParts : Nat → Reader (List String)
  | 0, _ => none
  | fuel + 1, cs => do
    let (part, cs) ← keyPart (skipSpace cs)
    match skipSpace cs with
    | '.' :: rest =>
      let (more, rest) ← keyParts fuel rest
      return (part :: more, rest)
    | rest => return ([part], rest)

def key : Reader (List String × String) := fun cs => do
  let (parts, rest) ← keyParts maxDepth cs
  let last ← parts.getLast?
  return ((parts.dropLast, last), rest)

/-- Everything up to the next character that is neither blank, line end nor comment. -/
def skipTrivia (inComment : Bool) : List Char → List Char
  | '\r' :: '\n' :: rest => skipTrivia false rest
  | c :: rest =>
    if c == '\n' then skipTrivia false rest
    else if inComment then if isPlain c then skipTrivia true rest else c :: rest
    else if isSpace c then skipTrivia false rest
    else if c == '#' then skipTrivia true rest
    else c :: rest
  | [] => []

/-- The items of an array behind its opening bracket; a comma may stand behind the last. -/
def items (value : Reader Datum) (before : List Datum) : Nat → Reader (List Datum)
  | 0, _ => none
  | fuel + 1, cs =>
    match skipTrivia false cs with
    | ']' :: rest => some (before.reverse, rest)
    | cs => do
      let (item, cs) ← value cs
      match skipTrivia false cs with
      | ',' :: rest => items value (item :: before) fuel rest
      | ']' :: rest => some ((item :: before).reverse, rest)
      | _ => none

/-- A key, an equals sign and a value. -/
def keyValue (value : Reader Datum) : Reader ((List String × String) × Datum) := fun cs => do
  let (k, cs) ← key cs
  let ((), cs) ← mark '=' cs
  let (datum, cs) ← value (skipSpace cs)
  return ((k, datum), cs)

/-- The entries of a table in braces, at least one, all on one line and with no comma behind. -/
def entries (value : Reader Datum) (before : Entries) : Nat → Reader Entries
  | 0, _ => none
  | fuel + 1, cs => do
    let (((path, last), datum), cs) ← keyValue value cs
    let all ← before.add path last datum .headed
    match skipSpace cs with
    | ',' :: rest => entries value all fuel rest
    | '}' :: rest => some (all, rest)
    | _ => none

def value : Nat → Reader Datum
  | depth, cs =>
    match cs with
    | '[' :: rest =>
      match depth with
      | 0 => none
      | d + 1 => (items (value d) [] (rest.length + 1) rest).map fun (xs, rest) => (.list xs, rest)
    | '{' :: rest =>
      match depth with
      | 0 => none
      | d + 1 =>
        match skipSpace rest with
        | '}' :: rest => some (.table [], rest)
        | rest => (entries (value d) [] (rest.length + 1) rest).map fun (es, rest) =>
            (.table (entriesData es), rest)
    | _ => scalar cs

/-- What follows a line that has nothing more than blanks and a comment. -/
def lineEnd? (cs : List Char) : Option (List Char) :=
  let cs := match skipSpace cs with
    | '#' :: rest => rest.dropWhile isPlain
    | cs => cs
  if cs.isEmpty then some [] else newline? cs

/-- The document so far, and the path of the table that is being filled. -/
structure State where
  root : Entries
  here : List String

def header (s : State) (cs : List Char) : Option (State × List Char) :=
  match cs with
  | '[' :: rest => do
    let ((path, last), rest) ← key rest
    match rest with
    | ']' :: ']' :: rest =>
      let root ← s.root.atPath false (Entries.openTables last) path .headed
      return (⟨root, path ++ [last]⟩, rest)
    | _ => none
  | _ => do
    let ((path, last), rest) ← key cs
    match rest with
    | ']' :: rest =>
      let root ← s.root.atPath false (Entries.openTable last) path .headed
      return (⟨root, path ++ [last]⟩, rest)
    | _ => none

def binding (s : State) (cs : List Char) : Option (State × List Char) := do
  let (((path, last), datum), rest) ← keyValue (value maxDepth) cs
  let root ← s.root.atPath false (Entries.add path last datum) s.here .headed
  return (⟨root, s.here⟩, rest)

def run : Nat → State → List Char → Option Entries
  | 0, _, _ => none
  | fuel + 1, s, cs =>
    match skipSpace cs with
    | [] => some s.root
    | '#' :: rest => (lineEnd? ('#' :: rest)).bind fun rest => run fuel s rest
    | '[' :: rest =>
      (header s rest).bind fun (s, rest) => (lineEnd? rest).bind fun rest => run fuel s rest
    | c :: rest =>
      match newline? (c :: rest) with
      | some rest => run fuel s rest
      | none =>
        (binding s (c :: rest)).bind fun (s, rest) =>
          (lineEnd? rest).bind fun rest => run fuel s rest

/-- Reads a whole document; a mark of the byte order may stand before it. -/
def ofText? (text : String) : Option Datum :=
  let cs := match text.toList with
    | '\ufeff' :: rest => rest
    | cs => cs
  (run (cs.length + 1) ⟨[], []⟩ cs).map fun es => .table (entriesData es)

end Gatehouse.Toml
