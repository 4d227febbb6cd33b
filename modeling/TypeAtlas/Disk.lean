import TypeAtlas.Fault
import TypeAtlas.Text.FilePath

/-!
Disks: which files and folders there are, and what can be written where. A path may lead through
folders and back; everything it passes has to be a folder.
-/

namespace TypeAtlas

open Text (FilePath)

/-- The files with their texts, and the folders, by their places. -/
structure Disk where
  files : Table String String := []
  folders : List String := []
deriving Repr, Inhabited

namespace Disk

def placeOf (path : String) : String := (FilePath.parse path).place.text

def below (folder : String) (segments : List String) : String :=
  let path := FilePath.parse folder
  FilePath.text { path with segments := path.segments ++ segments }

def hasFolder (disk : Disk) (place : FilePath) : Bool := disk.folders.contains place.text

def hasFile (disk : Disk) (place : FilePath) : Bool := Table.has disk.files place.text

def reached? (disk : Disk) (path : FilePath) : Option FilePath :=
  let start : FilePath := { path.place with segments := [] }
  path.segments.foldlM
    (fun place segment => if disk.hasFolder place then some (place.step segment) else none) start

def isFolder (disk : Disk) (path : String) : Bool :=
  !path.isEmpty && (disk.reached? (FilePath.parse path)).any disk.hasFolder

def isFile (disk : Disk) (path : String) : Bool :=
  !path.isEmpty && (disk.reached? (FilePath.parse path)).any disk.hasFile

def text? (disk : Disk) (path : String) : Option String := Table.get? disk.files (placeOf path)

def makeFolders (disk : Disk) (place : FilePath) : List String → Except Fault Disk
  | [] => if disk.hasFile place then .error .fileInPlace else .ok disk
  | segment :: rest =>
    if disk.hasFile place then .error .belowFile
    else
      let next := place.step segment
      let known := disk.hasFolder next || disk.hasFile next
      let grown := if known then disk else { disk with folders := next.text :: disk.folders }
      grown.makeFolders next rest

def readied (disk : Disk) (path : String) : Except Fault Disk := do
  let path := FilePath.parse path
  let grown ← disk.makeFolders { path.place with segments := [] } path.parent.segments
  if path.segments.isEmpty || grown.hasFolder path.place then throw .folderInPlace
  return { grown with files := Table.put grown.files path.place.text "" }

end Disk

end TypeAtlas
