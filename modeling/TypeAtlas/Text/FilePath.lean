import TypeAtlas.Table

/-!
File names in normal form: no empty segments, none that stand for the same place, and home
directories written out.
-/

namespace TypeAtlas

/-- The home directories of a system: that of the user, and those of others by name. -/
structure Homes where
  own : String
  others : Table String String := []

namespace Text

/-- A path as its leading slashes (none, one or two) and its segments. -/
structure FilePath where
  root : String
  segments : List String
deriving DecidableEq, Repr, Inhabited

namespace FilePath

def rootOf (s : String) : String :=
  match (s.toList.takeWhile (· == '/')).length with
  | 0 => ""
  | 2 => "//"
  | _ => "/"

def parse (s : String) : FilePath :=
  { root := rootOf s
    segments := (s.splitOn "/").filter fun segment => !segment.isEmpty && segment != "." }

def isAbsolute (path : FilePath) : Bool := !path.root.isEmpty

/-- A relative path may start with a home mark, alone or with the name of a user behind it, and then
starts in that home directory. Nothing when there is no such user. -/
def expandHome? (homes : Homes) (path : FilePath) : Option FilePath :=
  match path.root.isEmpty, path.segments with
  | true, first :: rest =>
    if first.startsWith "~" then
      let user := String.ofList (first.toList.drop 1)
      let home? := if user.isEmpty then some homes.own else Table.get? homes.others user
      home?.map fun home =>
        let base := parse home
        { base with segments := base.segments ++ rest }
    else some path
  | _, _ => some path

def text (path : FilePath) : String :=
  let joined := path.root ++ "/".intercalate path.segments
  if joined.isEmpty then "." else joined

def parent (path : FilePath) : FilePath := { path with segments := path.segments.dropLast }

/-- One segment further on. Two dots lead back, which is no step at the root. -/
def step (path : FilePath) (segment : String) : FilePath :=
  if segment == ".." && path.segments.getLast?.all (· == "..") then
    if path.isAbsolute then path else { path with segments := path.segments ++ [segment] }
  else if segment == ".." then path.parent
  else { path with segments := path.segments ++ [segment] }

def place (path : FilePath) : FilePath :=
  path.segments.foldl step { root := if path.isAbsolute then "/" else "", segments := [] }

end FilePath

end Text

end TypeAtlas
