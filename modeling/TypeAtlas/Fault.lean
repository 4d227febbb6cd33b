import TypeAtlas.Diagnostic
import TypeAtlas.Text.Markup
import TypeAtlas.Violation

/-!
Faults: every way in which an operation of the library can fail.
-/

namespace TypeAtlas

inductive Fault where
  | diagnostic (d : Diagnostic)
  /-- A node would not be well formed. -/
  | malformed (violations : List Violation)
  /-- A value does not suit the operation. -/
  | unsuitable (message : String)
  /-- A record that the operation needs is absent. -/
  | absent
  /-- A value is of a kind that the operation cannot use. -/
  | wrongKind
  /-- A list that has to have an element is empty. -/
  | emptyList
  /-- A table has no entry of the wanted name. -/
  | noEntry
  /-- Types are nested deeper than the walk goes. -/
  | tooDeep
  /-- An environment variable holds a section of the settings, or one of its lists, and is not
  JSON. -/
  | unreadable (sectionName : String)
  /-- A text for the user has markup that cannot be shown. -/
  | markup
  /-- A path starts with the home of a user that there is not. -/
  | homeless
  /-- A folder stands where a file should be written. -/
  | folderInPlace
  /-- A file stands where a folder should be made. -/
  | fileInPlace
  /-- A path goes on below a file. -/
  | belowFile
deriving Inhabited

namespace Fault

def ofMarkup : Text.Markup.Problem → Fault
  | .notOpen => markup
  | .notConstant => markup
  | .numberLeftOut => unsuitable "invalid literal for int() with base 10: ''"

end Fault

def Checked.toExcept {α : Type} : Checked α → Except Fault α
  | .ok value => .ok value
  | .bad violations =>
    if violations.any (·.rule == .homeless) then .error .homeless
    else .error (.malformed violations)

end TypeAtlas
