import TypeAtlas.Command.Target
import TypeAtlas.Command.Usage

/-!
Requests: what a command line asks for. Options that only inform come before all others, then the
values of options are checked in the order given, then the arguments.
-/

namespace TypeAtlas.Command

inductive Action where
  | extract (output : Option String) (strict isolate : Bool)
  | overview
deriving DecidableEq, Repr, Inhabited

structure Job where
  action : Action
  target : String
  project : Option String
  verbose : Bool
deriving DecidableEq, Repr, Inhabited

inductive Request where
  | version
  | help (page : Page)
  /-- No arguments at all. -/
  | bare
  | mistake (page : Page) (error : UsageError)
  | job (job : Job)
deriving DecidableEq, Repr, Inhabited

def informing? (given : List Given) : Option Request :=
  (given.find? fun g => g.option == "--version" || g.option == "--help").map fun first =>
    if first.option = "--version" then .version else .help .group

def checkProject (host : Host) (path : String) : Except UsageError Unit :=
  let refuse (reason : String) : Except UsageError Unit :=
    .error (.badValue ["--project"] ("Directory " ++ Text.quoted path ++ reason))
  if host.disk.isFolder path then .ok ()
  else if host.disk.isFile path then refuse " is a file."
  else refuse " does not exist."

def checkOutput (host : Host) (path : String) : Except UsageError Unit :=
  if host.disk.isFolder path then
    .error (.badValue ["-o", "--output"] ("File " ++ Text.quoted path ++ " is a directory."))
  else .ok ()

def checkGiven (host : Host) (given : List Given) (key : String) : Except UsageError Unit :=
  match key, valueOf? given key with
  | "--project", some path => checkProject host path
  | "--output", some path => checkOutput host path
  | _, _ => .ok ()

def checkAll (host : Host) (given : List Given) : Except UsageError Unit :=
  given.forM fun g => checkGiven host given g.option

def jobOf (host : Host) (page : Page) (verbose : Bool) (given : List Given)
    (arguments : List String) : Except UsageError Job := do
  checkAll host given
  let action :=
    match page with
    | .extract =>
      .extract (valueOf? given "--output") (isGiven given "--strict") (isGiven given "--isolate")
    | _ => .overview
  match arguments with
  | [] => throw (.argumentMissing "TARGET")
  | [target] => return { action, target, project := valueOf? given "--project", verbose }
  | _ :: extra => throw (.argumentsExtra extra)

def commandRequest (host : Host) (page : Page) (verbose : Bool) (arguments : List String) :
    Request :=
  match split page.options true arguments with
  | .error error => .mistake page error
  | .ok (given, others) =>
    if isGiven given "--help" then .help page
    else
      match jobOf host page verbose given others with
      | .ok job => .job job
      | .error error => .mistake page error

def commandNames : List String := ["extract", "show"]

/-- What a name that is no command asks for. One that looks like an option, which it can behind a
bare `--` only, is read as an option once more. -/
def unknownCommand (name : String) (rest : List String) : Request :=
  let unknown := Request.mistake .group
    (.commandUnknown name (Text.Likeness.closest name commandNames))
  match split Page.group.options false (if name = "--" then [] else name :: rest) with
  | .error error => .mistake .group error
  | .ok (given, _) => (informing? given).getD unknown

def Request.ofArguments (host : Host) (arguments : List String) : Request :=
  if arguments.isEmpty then .bare
  else
    match split Page.group.options false arguments with
    | .error error => .mistake .group error
    | .ok (given, others) =>
      match informing? given with
      | some request => request
      | none =>
        let verbose := isGiven given "--verbose"
        match others with
        | [] => .mistake .group .commandMissing
        | "extract" :: rest => commandRequest host .extract verbose rest
        | "show" :: rest => commandRequest host .overview verbose rest
        | name :: rest => unknownCommand name rest

end TypeAtlas.Command
