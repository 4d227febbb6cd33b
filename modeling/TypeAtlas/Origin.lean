import TypeAtlas.Glob
import TypeAtlas.Node.Basic
import TypeAtlas.Settings.Basic

/-!
Where a declaration comes from, and under which name an importable type is referred to.
-/

namespace TypeAtlas

/-- The origin of a file: the program itself, or outside of it. -/
inductive Origin where
  | lib
  | global
  | module_ (name : String)
  | own
deriving DecidableEq, Repr, Inhabited

namespace Origin

def scope? : Origin → Option ImportScope
  | lib => some .lib
  | global => some .global
  | module_ _ => some .module_
  | own => none

def isExternal (origin : Origin) : Bool := origin.scope?.isSome

def module? : Origin → Option String
  | module_ name => some name
  | _ => none

def text : Origin → String
  | lib => "lib"
  | global => "global"
  | module_ _ => "module"
  | own => "local"

end Origin

def matchesAny (file : String) (patterns : List String) : Bool :=
  patterns.any fun pattern => Glob.fits pattern file

def LibrarySettings.originOf (libraries : LibrarySettings) (file : Option String) : Origin :=
  match file with
  | none => .own
  | some file =>
    if file.isEmpty then .own
    else if matchesAny file libraries.basePatterns then .lib
    else if matchesAny file libraries.globalPatterns then .global
    else
      match libraries.modules.find? fun entry => matchesAny file entry.2 with
      | some (name, _) => .module_ name
      | none => .own

abbrev Bindings := Table (String × String) String

namespace Bindings

def candidate (name : String) : Nat → String
  | 0 => name
  | n + 1 => name ++ "_" ++ toString (n + 1)

def freeFrom (used : List String) (name : String) : Nat → Nat → String
  | 0, n => candidate name n
  | fuel + 1, n =>
    if candidate name n ∈ used then freeFrom used name fuel (n + 1) else candidate name n

/-- The first candidate that is not in use. Among one more candidates than names in use there is
one. -/
def firstFree (used : List String) (name : String) : String := freeFrom used name used.length 0

def owned (bindings : Bindings) : List String := bindings.map Prod.snd

/-- The binding of a module's type: the one given before, or a new one that neither another binding
nor `taken` has. -/
def bind (bindings : Bindings) (home name : String) (taken : List String) : String × Bindings :=
  match Table.get? bindings (home, name) with
  | some binding => (binding, bindings)
  | none =>
    let binding := firstFree (bindings.owned ++ taken) name
    (binding, Table.put bindings (home, name) binding)

end Bindings

def bindingRenamed (home name binding : String) : Event :=
  { level := .debug, name := "binding_renamed"
    details := [("module", .text home), ("name", .text name), ("binding", .text binding)] }

end TypeAtlas
