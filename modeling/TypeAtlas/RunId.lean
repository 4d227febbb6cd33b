import TypeAtlas.Fault

/-!
Run ids: the name under which the events of a run are logged, with the names that were in force
around it.
-/

namespace TypeAtlas

/-- The id in force, and those to go back to, the last first. -/
structure RunIds where
  current : Option String := none
  outer : List (Option String) := []
deriving DecidableEq, Repr, Inhabited

namespace RunIds

def chosen (fresh : String) (given : Option String) : String :=
  match given with
  | some id => if id.isEmpty then fresh else id
  | none => fresh

def set (ids : RunIds) (fresh : String) (given : Option String) : RunIds :=
  { ids with current := some (chosen fresh given) }

def clear (ids : RunIds) : RunIds := { ids with current := none }

def bind (ids : RunIds) (fresh : String) (given : Option String) : RunIds :=
  { current := some (chosen fresh given), outer := ids.current :: ids.outer }

def reset (ids : RunIds) : Except Fault RunIds :=
  match ids.outer with
  | [] => .error .emptyList
  | before :: outer => .ok { current := before, outer }

def ofRun (ids : RunIds) (fresh : String) : String := ids.current.getD fresh

theorem reset_bind (ids : RunIds) (fresh : String) (given : Option String) :
    (ids.bind fresh given).reset = .ok ids := rfl

end RunIds

end TypeAtlas
