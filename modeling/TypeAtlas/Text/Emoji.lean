import TypeAtlas.Text.Blank
import TypeAtlas.Text.Emoji.Names
import TypeAtlas.Text.Letter

/-!
Emoji written by their names: a name between colons stands for the emoji. Capital letters are as good
as small ones, and a text with a name that no emoji has stays as it is.
-/

namespace TypeAtlas.Text.Emoji

/-- A name for an emoji, and whether the emoji also comes in skin tones. -/
structure Entry where
  name : List Char
  emoji : List Char
  toned : Bool
deriving Inhabited

def entryOf (emoji name : String) : Entry :=
  match name.toList.reverse with
  | '~' :: rest => { name := rest.reverse, emoji := emoji.toList, toned := true }
  | cs => { name := cs.reverse, emoji := emoji.toList, toned := false }

def entries : List Entry :=
  (nameTable.splitOn "\n").flatMap fun line =>
    (line.splitOn " ").flatMap fun word =>
      match word.splitOn "=" with
      | [emoji, names] => (names.splitOn ",").map (entryOf emoji)
      | _ => []

def tones : List (String × Char) :=
  [("dark", Char.ofNat 0x1f3ff), ("light", Char.ofNat 0x1f3fb),
   ("medium-dark", Char.ofNat 0x1f3fe), ("medium-light", Char.ofNat 0x1f3fc),
   ("medium", Char.ofNat 0x1f3fd)]

def beforeEnding? (ending : String) (cs : List Char) : Option (List Char) :=
  if ending.toList.isSuffixOf cs then some (cs.take (cs.length - ending.length)) else none

def withTone (tone : Char) : List Char → List Char
  | first :: second :: rest =>
    if second = Char.ofNat 0xfe0f then first :: tone :: rest else first :: tone :: second :: rest
  | cs => cs ++ [tone]

def toned? (name : List Char) : Option (List Char) :=
  tones.findSome? fun (label, tone) => do
    let base ← beforeEnding? ("_" ++ label ++ "_skin_tone") name
    let entry ← entries.find? fun entry => entry.toned && entry.name == base
    some (withTone tone entry.emoji)

def find? (name : List Char) : Option (List Char) :=
  match entries.find? (·.name == name) with
  | some entry => some entry.emoji
  | none => toned? name

/-- The name in front of the ending that asks for an emoji as text or as picture, and the character
that says so. -/
def splitVariant (body : List Char) : List Char × List Char :=
  match beforeEnding? "-emoji" body, beforeEnding? "-text" body with
  | some name, _ => (name, [Char.ofNat 0xfe0f])
  | none, some name => (name, [Char.ofNat 0xfe0e])
  | none, none => (body, [])

def named (body : List Char) : List Char :=
  let (name, variant) := splitVariant body
  match find? (name.map smallForm) with
  | some emoji => emoji ++ variant
  | none => ':' :: body ++ [':']

def expand : List Char → List Char
  | [] => []
  | c :: rest =>
    if c = ':' then
      let body := rest.takeWhile fun d => d ≠ ':' && !isSpace d
      match _found : rest.drop body.length with
      | ':' :: after => named body ++ expand after
      | _ => c :: expand rest
    else c :: expand rest
termination_by cs => cs.length
decreasing_by
  · have size := congrArg List.length _found
    simp only [List.length_drop, List.length_cons] at size ⊢
    omega
  all_goals simp

end TypeAtlas.Text.Emoji
