import QueryDesk.Engine.Kind
import QueryDesk.Fault
import QueryDesk.Text.Blank

/-!
# Registry

Which engines can be made, and the engine that a name stands for.  Names are read between blanks
and in any ASCII case.
-/

namespace QueryDesk

/-- The engines that can be made. -/
structure Registry where
  registered : List EngineKind
deriving Repr, Inhabited

namespace Registry

def standard : Registry := ⟨EngineKind.all⟩

/-- The engines that can be made, in the order they are listed to users. -/
def supported (r : Registry) : List EngineKind :=
  EngineKind.all.filter (r.registered.contains ·)

/-- The names of the engines that can be made. -/
def supportedNames (r : Registry) : String :=
  ", ".intercalate (r.supported.map EngineKind.name)

/-- The engine itself, if it can be made. -/
def ofKind (r : Registry) (kind : EngineKind) : Except Fault EngineKind :=
  if kind ∈ r.registered then .ok kind
  else .error (.config ("Backend '" ++ kind.name ++
    "' is not registered; expected one of: " ++ r.supportedNames))

/-- The engine of a name, if it can be made. -/
def ofName (r : Registry) (name : String) : Except Fault EngineKind :=
  match EngineKind.ofAnyCase? (Text.trimmed name) with
  | some kind => r.ofKind kind
  | none =>
    .error (.config ("Unsupported backend '" ++ name ++ "'; expected one of: " ++
      r.supportedNames))

end Registry

end QueryDesk
