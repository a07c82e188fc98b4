import QueryDesk.Text.Blank
import QueryDesk.Text.Search

/-!
# Environment files

Variables given in a file, a line each: `NAME=value`, with an optional `export` in front.  Values
may be quoted, span lines inside quotes, and refer to variables set before.  The environment
proper wins over the file, and the first malformed line ends the reading.
-/

namespace QueryDesk.CommandLine.Environment

abbrev Variables := List (String × String)

/-- Where a reader of logical lines stands. -/
inductive LineState where
  | plain | blank | escape
  | double | doubleEscape
  | single | singleEscape
deriving DecidableEq

/-- The state after a character, or nothing where a comment starts. -/
def LineState.next : LineState → Char → Option LineState
  | blank, '#' => none
  | blank, '\\' | plain, '\\' => some escape
  | blank, '"' | plain, '"' => some double
  | blank, '\'' | plain, '\'' => some single
  | blank, _ => some plain
  | escape, _ => some plain
  | plain, c => some (if Text.isBlank c && c != '\n' && c != '\r' then blank else plain)
  | double, '\\' => some doubleEscape
  | double, '"' => some plain
  | double, _ => some double
  | doubleEscape, _ => some double
  | single, '\\' => some singleEscape
  | single, '\'' => some plain
  | single, _ => some single
  | singleEscape, _ => some single

/-- The state at the end of a piece of text, and the text before a comment in it. -/
def scan (s : LineState) : List Char → Option LineState × List Char
  | [] => (some s, [])
  | c :: rest =>
    match s.next c with
    | none => (none, [])
    | some s =>
      let (final, kept) := scan s rest
      (final, c :: kept)

/-- The physical lines of a text, each with the newline that ends it. -/
def physicalLines (s : List Char) : List (List Char) :=
  let parts := Text.fields '\n' s
  parts.dropLast.map (· ++ ['\n']) ++ (parts.getLast?.toList.filter fun p => !p.isEmpty)

/-- A line without the newline, and the carriage return before it. -/
def chomp (line : List Char) : List Char :=
  match line.reverse with
  | '\n' :: '\r' :: rest => rest.reverse
  | '\n' :: rest => rest.reverse
  | _ => line

/-- The logical lines of a text; the last is nothing when quotes stay open. -/
def logicalLines (s : LineState) (before : List Char) : List (List Char) → List (Option (List Char))
  | [] => if s = .plain then [] else [none]
  | line :: rest =>
    if (Text.stripStart (before ++ line)).head? = some '#' then
      some [] :: logicalLines .plain [] rest
    else
      match scan s line with
      | (none, kept) => some (before ++ kept) :: logicalLines .plain [] rest
      | (some .plain, _) => some (chomp (before ++ line)) :: logicalLines .plain [] rest
      | (some s, _) => logicalLines s (before ++ line) rest

/-- Where a reader of a value stands. -/
inductive ValueState where
  | plain | escape | doubleEscape | double | single | ended
  /-- In the name of a variable, inside double quotes or not. -/
  | name (quoted : Bool) (sofar : List Char)
  | braced (quoted : Bool) (sofar : List Char)

/-- The character that stands after a backslash. -/
def escaped? : Char → Option Char
  | 'n' => some '\n'
  | c => if c ∈ ['\\', '\'', '"', '$', ' '] then some c else none

/-- One more character in front of the rest of a value. -/
def put (c : Char) (r : Option (List Char)) : Option (List Char) := r.map (c :: ·)

/-- The state inside double quotes or outside of quotes. -/
def ValueState.inQuotes (quoted : Bool) : ValueState := if quoted then double else plain

/-- Whether a character may be part of the name of a variable referred to. -/
def isNameChar (c : Char) : Bool :=
  Text.isAsciiDigit c || ('a' ≤ c && c ≤ 'z') || ('A' ≤ c && c ≤ 'Z')

/-- A value, with references to variables replaced. -/
def value (lookup : String → String) : ValueState → List Char → Option (List Char)
  | .plain, [] | .ended, [] | .escape, [] => some []
  | .name false sofar, [] => some (lookup (String.ofList sofar)).toList
  | _, [] => none
  | .ended, c :: rest =>
    if c = ' ' ∨ c = '\t' then value lookup .ended rest
    else if c = '#' then some [] else none
  | .escape, c :: rest =>
    match escaped? c with
    | some c => put c (value lookup .plain rest)
    | none => none
  | .doubleEscape, c :: rest =>
    match escaped? c with
    | some c => put c (value lookup .double rest)
    | none => none
  | .single, c :: rest =>
    if c = '\'' then value lookup .plain rest else put c (value lookup .single rest)
  | .name quoted sofar, c :: rest =>
    if isNameChar c then value lookup (.name quoted (sofar ++ [c])) rest
    else if c = '{' ∧ sofar.isEmpty then value lookup (.braced quoted []) rest
    else
      let more := if c = '$' then value lookup (.name quoted []) rest
        else put c (value lookup (.inQuotes quoted) rest)
      more.map ((lookup (String.ofList sofar)).toList ++ ·)
  | .braced quoted sofar, c :: rest =>
    if c = '}' then
      (value lookup (.inQuotes quoted) rest).map ((lookup (String.ofList sofar)).toList ++ ·)
    else value lookup (.braced quoted (sofar ++ [c])) rest
  | .double, c :: rest =>
    if c = '$' then value lookup (.name true []) rest
    else if c = '"' then value lookup .plain rest
    else if c = '\\' then value lookup .doubleEscape rest
    else put c (value lookup .double rest)
  | .plain, c :: rest =>
    if c = '$' then value lookup (.name false []) rest
    else if c = '\'' then value lookup .single rest
    else if c = '"' then value lookup .double rest
    else if c = '\\' then value lookup .escape rest
    else if c = ' ' ∨ c = '\t' then value lookup .ended rest
    else put c (value lookup .plain rest)

/-- Whether a character may start the name of a variable. -/
def isNameStart (c : Char) : Bool :=
  ('a' ≤ c && c ≤ 'z') || ('A' ≤ c && c ≤ 'Z') || c == '_'

/-- The name of a variable and the rest of the line after blanks. -/
def name? (line : List Char) : Option (List Char × List Char) :=
  match line with
  | c :: _ =>
    if isNameStart c then
      let isPart (c : Char) : Bool := isNameStart c || Text.isAsciiDigit c || c == '.'
      some (line.takeWhile isPart, Text.stripStart (line.dropWhile isPart))
    else none
  | [] => none

/-- The name of a variable and the text of its value; `export` may be a name of its own. -/
def assignment? (line : List Char) : Option (List Char × List Char) := do
  match ← name? line with
  | (key, '=' :: rest) => return (key, Text.stripStart rest)
  | (key, rest) =>
    if key = "export".toList then
      match ← name? rest with
      | (key, '=' :: rest) => return (key, Text.stripStart rest)
      | _ => none
    else none

/-- The value that a reference stands for. -/
def resolve (outside : String → Option String) (known : Variables) (name : String) : String :=
  match outside name with
  | some v => v
  | none => (known.lookup name).getD ""

/-- The variables of logical lines, up to the first malformed one. -/
def assigned (outside : String → Option String) (known : Variables) :
    List (Option (List Char)) → Variables
  | [] => known
  | none :: _ => known
  | some line :: rest =>
    let line := Text.stripStart line
    if line.isEmpty || line.head? == some '#' then assigned outside known rest
    else match assignment? line with
      | none => known
      | some (key, text) =>
        let found :=
          if text.isEmpty || text.head? == some '#' then some []
          else value (resolve outside known) .plain text
        match found with
        | none => known
        | some v =>
          assigned (fun name => (outside name).orElse fun _ => known.lookup name)
            (known ++ [(String.ofList key, String.ofList v)]) rest

def ofText (outside : String → Option String) (text : String) : Variables :=
  let s := match text.toList with
    | '\ufeff' :: rest => rest
    | s => s
  assigned outside [] (logicalLines .plain [] (physicalLines s))

/-- The variables in a block of assignments, each ended by a null character. -/
def ofBlock (block : String) : Variables :=
  (Text.fields '\x00' block.toList).filterMap fun entry =>
    (Text.splitAtFirst ['='] entry).map fun (name, value) =>
      (String.ofList name, String.ofList value)

/-- The environment with the variables of a file below it. -/
def withFile (outside : String → Option String) (file : Variables) (name : String) :
    Option String :=
  (outside name).orElse fun _ => file.lookup name

end QueryDesk.CommandLine.Environment
