import TypeAtlas.Text.Constant
import TypeAtlas.Text.Emoji
import TypeAtlas.Text.Style

/-!
Texts with markup: a tag in brackets sets a style, which is not shown, and a closing tag ends it. A
backslash before a tag makes it text. Emoji may be written by their names.
-/

namespace TypeAtlas.Text.Markup

inductive Problem where
  /-- A tag closes what is not open. -/
  | notOpen
  /-- What a tag asks to be called is not called with constants. -/
  | notConstant
  /-- A colour lacks one of its numbers. -/
  | numberLeftOut
deriving DecidableEq, Repr, Inhabited

/-- A part of a text: what is to be shown, or the inside of a tag. -/
inductive Part where
  | shown (cs : List Char)
  | tag (inside : List Char)
deriving Repr

def startsTag (c : Char) : Bool := ('a' ≤ c && c ≤ 'z') || c == '#' || c == '/' || c == '@'

def tag? : List Char → Option (List Char × List Char)
  | '[' :: c :: rest =>
    let inside := rest.takeWhile fun d => d != '[' && d != ']'
    match rest.drop inside.length with
    | ']' :: after => if startsTag c then some (c :: inside, after) else none
    | _ => none
  | _ => none

def shownPart (reversed : List Char) : List Part :=
  if reversed.isEmpty then [] else [.shown reversed.reverse]

/-- Splits a text at its tags. Of the backslashes before a tag every two are one, and an odd one makes
the tag text. `before` holds the characters since the last tag, last first. -/
def partsFrom : Nat → List Char → List Char → List Part
  | 0, before, _ => shownPart before
  | _ + 1, before, [] => shownPart before
  | fuel + 1, before, c :: rest =>
    let slashes := (c :: rest).takeWhile (· == '\\')
    let after := (c :: rest).drop slashes.length
    match tag? after with
    | some (inside, following) =>
      let tag := if slashes.length % 2 = 1 then .shown ('[' :: inside ++ [']']) else .tag inside
      shownPart before ++ shownPart (List.replicate (slashes.length / 2) '\\') ++
        tag :: partsFrom fuel [] following
    | none =>
      if slashes.isEmpty then partsFrom fuel (c :: before) rest
      else partsFrom fuel (slashes ++ before) after

def parts (cs : List Char) : List Part := partsFrom (cs.length + 1) [] cs

/-- A tag by the normal form of its name, with what stands behind an equals sign. -/
structure Tag where
  name : String
  argument : Option (List Char) := none
deriving Repr, Inhabited

def normalName (cs : List Char) : Except Problem String :=
  match Style.normal cs with
  | .ok name => .ok name
  | .error _ => .error .numberLeftOut

/-- Whether a call, by its name and its arguments in parentheses, has only constant arguments. -/
def isConstantCall (cs : List Char) : Bool :=
  let call := trimList isSpace cs
  let arguments := call.dropWhile fun c => Constant.isNameChar c || c == '.'
  if arguments.isEmpty then true
  else if arguments.head? == some '(' && arguments.getLast? == some ')' &&
      !arguments.contains '\n' then Constant.isConstant arguments
  else Constant.isConstant call

/-- A tag whose name starts with an at sign names a call, which is looked at when the tag is
closed. -/
def Tag.closed (tag : Tag) : Except Problem Unit :=
  match tag.argument with
  | some (c :: cs) =>
    if tag.name.startsWith "@" && !isConstantCall (c :: cs) then .error .notConstant else .ok ()
  | _ => .ok ()

def close? (name : String) : List Tag → Option (Tag × List Tag)
  | [] => none
  | tag :: rest =>
    if tag.name = name then some (tag, rest)
    else (close? name rest).map fun (closed, others) => (closed, tag :: others)

/-- The tags still open after one more tag, the last opened first. A closing tag has to name an open
one, or none at all for the last. -/
def openAfter (tags : List Tag) (inside : List Char) : Except Problem (List Tag) := do
  let name := inside.takeWhile (· ≠ '=')
  let argument := if name.length < inside.length then some (inside.drop (name.length + 1)) else none
  match name with
  | '/' :: rest =>
    let found ←
      match trimList isSpace rest, tags with
      | [], tag :: others => pure (some (tag, others))
      | [], [] => pure none
      | wanted, tags => pure (close? (← normalName wanted) tags)
    match found with
    | some (tag, others) =>
      tag.closed
      return others
    | none => throw .notOpen
  | _ => return { name := ← normalName name, argument } :: tags

def unescaped : List Char → List Char
  | '\\' :: '[' :: rest => '[' :: unescaped rest
  | c :: rest => c :: unescaped rest
  | [] => []

def shownFrom (tags : List Tag) : List Part → Except Problem (List Char)
  | [] => .ok []
  | .shown cs :: rest => do return Emoji.expand (unescaped cs) ++ (← shownFrom tags rest)
  | .tag inside :: rest => do shownFrom (← openAfter tags inside) rest

def plain (s : String) : Except Problem String := do
  return String.ofList (← shownFrom [] (parts s.toList))

end TypeAtlas.Text.Markup
