import TypeAtlas.Data.Basic
import TypeAtlas.Text.Printable

/-!
Plain data as text: as it is shown in messages, with texts in quotes, lists in brackets and maps in
braces, and as JSON, in ASCII only.
-/

namespace TypeAtlas.Data

def shownFloat : Binary64.Layout := {}

mutual

def shown : Data → String
  | null => "None"
  | bool true => "True"
  | bool false => "False"
  | int value => toString value
  | float value => shownFloat.render value
  | text value => Text.quoted value
  | list items => "[" ++ ", ".intercalate (shownItems items) ++ "]"
  | map fields => "\x7b" ++ ", ".intercalate (shownFields fields) ++ "\x7d"
  | keyed entries => "\x7b" ++ ", ".intercalate (shownEntries entries) ++ "\x7d"
  | moment _ shown => shown

def shownItems : List Data → List String
  | [] => []
  | item :: rest => shown item :: shownItems rest

def shownFields : List (String × Data) → List String
  | [] => []
  | (name, value) :: rest => (Text.quoted name ++ ": " ++ shown value) :: shownFields rest

def shownEntries : List (Data × Data) → List String
  | [] => []
  | (key, value) :: rest => (shown key ++ ": " ++ shown value) :: shownEntries rest

end

def plain : Data → String
  | text value => value
  | moment written _ => written
  | value => shown value

def keyText : Data → String
  | text value => value
  | bool value => if value then "1" else "0"
  | value => shown value

def jsonFloat : Binary64.Layout := { notANumber := "NaN", infinite := "Infinity" }

def jsonUnit (n : Nat) : List Char := '\\' :: 'u' :: Text.hex 4 n

def jsonChar (c : Char) : List Char :=
  if c = Text.double ∨ c = '\\' then ['\\', c]
  else if c = '\n' then ['\\', 'n']
  else if c = '\r' then ['\\', 'r']
  else if c = '\t' then ['\\', 't']
  else if c.toNat = 8 then ['\\', 'b']
  else if c.toNat = 12 then ['\\', 'f']
  else if c.toNat < 32 then jsonUnit c.toNat
  else if c.toNat < 127 then [c]
  else if c.toNat < 0x10000 then jsonUnit c.toNat
  else
    let rest := c.toNat - 0x10000
    jsonUnit (0xd800 + rest / 0x400) ++ jsonUnit (0xdc00 + rest % 0x400)

def jsonText (s : String) : String :=
  String.ofList (Text.double :: s.toList.flatMap jsonChar ++ [Text.double])

/-- How nested values are set out: on one line, or one item a line with an indentation per level. -/
structure JsonStyle where
  indent : Option Nat := none

def JsonStyle.lineBreak (style : JsonStyle) (level : Nat) : String :=
  match style.indent with
  | none => ""
  | some width => "\n" ++ String.ofList (List.replicate (width * level) ' ')

def JsonStyle.separator (style : JsonStyle) (level : Nat) : String :=
  match style.indent with
  | none => ", "
  | some _ => "," ++ style.lineBreak level

/-- Puts items between brackets; an empty pair of brackets is never broken up. -/
def JsonStyle.enclose (style : JsonStyle) (level : Nat) (opening closing : String)
    (items : List String) : String :=
  match items with
  | [] => opening ++ closing
  | items =>
    opening ++ style.lineBreak (level + 1) ++ (style.separator (level + 1)).intercalate items ++
      style.lineBreak level ++ closing

mutual

def jsonFrom (style : JsonStyle) (level : Nat) : Data → String
  | null => "null"
  | bool true => "true"
  | bool false => "false"
  | int value => toString value
  | float value => jsonFloat.render value
  | text value => jsonText value
  | list items => style.enclose level "[" "]" (jsonItems style (level + 1) items)
  | map fields => style.enclose level "\x7b" "\x7d" (jsonFields style (level + 1) fields)
  | keyed entries => style.enclose level "\x7b" "\x7d" (jsonEntries style (level + 1) entries)
  | moment written _ => jsonText written

def jsonItems (style : JsonStyle) (level : Nat) : List Data → List String
  | [] => []
  | item :: rest => jsonFrom style level item :: jsonItems style level rest

def jsonFields (style : JsonStyle) (level : Nat) : List (String × Data) → List String
  | [] => []
  | (name, value) :: rest =>
    (jsonText name ++ ": " ++ jsonFrom style level value) :: jsonFields style level rest

def jsonEntries (style : JsonStyle) (level : Nat) : List (Data × Data) → List String
  | [] => []
  | (key, value) :: rest =>
    (jsonText key.plain ++ ": " ++ jsonFrom style level value) :: jsonEntries style level rest

end

def json (style : JsonStyle) (value : Data) : String := jsonFrom style 0 value

end TypeAtlas.Data
