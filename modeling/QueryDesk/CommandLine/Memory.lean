import QueryDesk.Agent.Rehearsal
import QueryDesk.CommandLine.Run

/-!
# Commands in memory

Surroundings without a disk, a terminal or a network: files and printed text are values, and no
request gets through.
-/

namespace QueryDesk.CommandLine

/-- Files by path, and what has been printed. -/
structure Memory where
  files : List (String × String)
  printed : String
deriving Repr, Inhabited

namespace Memory

/-- The path of the directory that a file is in. -/
def parent (path : String) : List (List Char) := (Text.fields '/' path.toList).dropLast

/-- Whether a file can be made: its directory holds other files. -/
def canHold (d : Memory) (path : String) : Bool :=
  d.files.any fun (other, _) => parent other == parent path

/-- A path that starts at the root, as others do from the working directory. -/
def absolute (directory path : String) : String :=
  if path.toList.head? = some '/' then path else directory ++ "/" ++ path

/-- Surroundings in memory; every request is lost for the reason given. -/
def surroundings (directory reason : String) (lookup : String → Option String) (stamp : Stamp)
    (today : Date) : Surroundings (StateM Memory) where
  read path := do
    match (← get).files.lookup (absolute directory path) with
    | some text => return .ok text
    | none => return .error "no such file"
  write path text := do
    let d ← get
    let path := absolute directory path
    if d.canHold path then
      set { d with files := (path, text) :: d.files }
      return none
    else return some "no such directory"
  print text := modify fun d => { d with printed := d.printed ++ text }
  lookup := lookup
  carrier _ := .patient (fun _ => pure (.lost reason)) 8 (pure stamp.id) (pure 0.0)
  clock := .still stamp
  today := pure today

end Memory

end QueryDesk.CommandLine
