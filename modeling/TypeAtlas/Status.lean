import TypeAtlas.Fault
import TypeAtlas.Text.Cells

/-!
Status lines for the user of a command: an indentation, a mark and a message.
-/

namespace TypeAtlas.Status

inductive Mark where
  | success
  | error
  | warning
  | info
  | bare
deriving DecidableEq, Repr, Inhabited

namespace Mark

def text : Mark → String
  | success => "✓ "
  | error => "✗ "
  | warning => "! "
  | info => "  "
  | bare => ""

def ofStyle : String → Mark
  | "success" => success
  | "error" => error
  | "warning" => warning
  | "info" => info
  | _ => bare

end Mark

def line (message : String) (mark : Mark := .info) (indent : Int := 0) : Except Fault String :=
  match Text.Markup.plain message with
  | .error problem => .error (.ofMarkup problem)
  | .ok shown =>
    let start := String.ofList (Text.Cells.spaces indent.toNat) ++ mark.text
    .ok ("\n".intercalate (Text.Cells.lines (start ++ shown)) ++ "\n")

end TypeAtlas.Status
