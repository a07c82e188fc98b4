import QueryDesk.Json.Text
import QueryDesk.Decimal.Layout

/-!
# Writing JSON

The compact text of a value, and the indented text with one member or item a line.
-/

namespace QueryDesk.Json

/-- Doubles in JSON always show a fraction or an exponent, and are positional while the leading
digit's power of ten lies between -5 and 15. -/
def floatLayout : Decimal.Layout := ⟨some (-5, 15), true⟩

/-- The text of a double; null when it is not finite. -/
def floatText (x : Float) : List Char :=
  if x.isFinite then floatLayout.float x else ['n', 'u', 'l', 'l']

mutual

def render : Json → List Char
  | .null => ['n', 'u', 'l', 'l']
  | .bool true => ['t', 'r', 'u', 'e']
  | .bool false => ['f', 'a', 'l', 's', 'e']
  | .int n => Decimal.intText n
  | .float x => floatText x
  | .str s => quoted s
  | .arr items => '[' :: [','].intercalate (renderItems items) ++ [']']
  | .obj ms => '{' :: [','].intercalate (renderMembers ms) ++ ['}']

def renderItems : List Json → List (List Char)
  | [] => []
  | v :: rest => render v :: renderItems rest

def renderMembers : List (String × Json) → List (List Char)
  | [] => []
  | (k, v) :: rest => (quoted k ++ ':' :: render v) :: renderMembers rest

end

/-- A new line indented by two blanks a level. -/
def newline (level : Nat) : List Char :=
  '\n' :: List.replicate (2 * level) ' '

mutual

/-- The indented text of a value whose first line starts at a level. -/
def renderIndented (level : Nat) : Json → List Char
  | .arr [] => ['[', ']']
  | .arr items =>
    '[' :: newline (level + 1) ++
      (',' :: newline (level + 1)).intercalate (indentedItems (level + 1) items) ++
      newline level ++ [']']
  | .obj [] => ['{', '}']
  | .obj ms =>
    '{' :: newline (level + 1) ++
      (',' :: newline (level + 1)).intercalate (indentedMembers (level + 1) ms) ++
      newline level ++ ['}']
  | .null => ['n', 'u', 'l', 'l']
  | .bool true => ['t', 'r', 'u', 'e']
  | .bool false => ['f', 'a', 'l', 's', 'e']
  | .int n => Decimal.intText n
  | .float x => floatText x
  | .str s => quoted s

def indentedItems (level : Nat) : List Json → List (List Char)
  | [] => []
  | v :: rest => renderIndented level v :: indentedItems level rest

def indentedMembers (level : Nat) : List (String × Json) → List (List Char)
  | [] => []
  | (k, v) :: rest =>
    (quoted k ++ ':' :: ' ' :: renderIndented level v) :: indentedMembers level rest

end

/-- The compact text of a value as a string. -/
def compact (j : Json) : String :=
  String.ofList j.render

/-- The indented text of a value as a string. -/
def pretty (j : Json) : String :=
  String.ofList (j.renderIndented 0)

end QueryDesk.Json
