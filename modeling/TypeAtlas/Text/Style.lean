import TypeAtlas.Text.Blank
import TypeAtlas.Text.Colour
import TypeAtlas.Text.Letter

/-!
Styles in words: attributes, a colour, a colour behind the text and a link. Two texts for the same
style have one normal form.
-/

namespace TypeAtlas.Text

namespace Style

def attributeNames : List (List String) :=
  [["bold", "b"], ["dim", "d"], ["italic", "i"], ["underline", "u"], ["blink"], ["blink2"],
   ["reverse", "r"], ["conceal", "c"], ["strike", "s"], ["underline2", "uu"], ["frame"],
   ["encircle"], ["overline", "o"]]

def attribute? (word : String) : Option String :=
  (attributeNames.find? (·.contains word)).bind List.head?

end Style

/-- What the words of a style ask for. An attribute may be turned on or off. -/
structure Style where
  attributes : List (String × Bool) := []
  colour : Option String := none
  behind : Option String := none
  link : Option String := none
deriving Repr, Inhabited

namespace Style

def withAttribute (style : Style) (name : String) (isOn : Bool) : Style :=
  { style with attributes := (name, isOn) :: style.attributes }

def withWord (style : Style) (cs : List Char) : Except Colour.Failure Style :=
  let word := String.ofList (cs.map smallForm)
  match attribute? word with
  | some name => .ok (style.withAttribute name true)
  | none => do
    Colour.check word
    return { style with colour := some word }

/-- Two words that belong together; nothing when the first one stands on its own. -/
def withPair? (style : Style) (first second : List Char) : Option (Except Colour.Failure Style) :=
  match String.ofList (first.map smallForm) with
  | "on" => some do
    let name := String.ofList (second.map smallForm)
    Colour.check name
    return { style with behind := some name }
  | "not" =>
    match attribute? (String.ofList second) with
    | some name => some (.ok (style.withAttribute name false))
    | none => some (.error .unknown)
  | "link" => some (.ok { style with link := some (String.ofList second) })
  | _ => none

def ofWords (style : Style) : List (List Char) → Except Colour.Failure Style
  | [] => .ok style
  | [word] => style.withWord word
  | first :: second :: rest =>
    match style.withPair? first second with
    | some (.ok next) => ofWords next rest
    | some (.error failure) => .error failure
    | none =>
      match style.withWord first with
      | .ok next => ofWords next (second :: rest)
      | .error failure => .error failure

def text (style : Style) : String :=
  let named := attributeNames.filterMap fun names => do
    let name ← names.head?
    let (_, isOn) ← style.attributes.find? fun set => set.1 == name
    some (if isOn then name else "not " ++ name)
  let behind := style.behind.toList.flatMap fun name => ["on", name]
  let link := style.link.toList.flatMap fun address => ["link", address]
  let words := named ++ style.colour.toList ++ behind ++ link
  if words.isEmpty then "none" else " ".intercalate words

def wordsOf (cs : List Char) : List (List Char) :=
  (cs.splitBy fun a b => isSpace a == isSpace b).filter fun part => !part.all isSpace

def normal (cs : List Char) : Except Colour.Failure String :=
  let trimmed := trimList isSpace cs
  if trimmed = "none".toList then .ok "none"
  else
    match ofWords {} (wordsOf cs) with
    | .ok style => .ok style.text
    | .error .unknown => .ok (String.ofList (trimmed.map smallForm))
    | .error .numberLeftOut => .error .numberLeftOut

end Style

end TypeAtlas.Text
