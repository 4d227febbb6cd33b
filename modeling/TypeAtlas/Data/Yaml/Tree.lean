import TypeAtlas.Data.Yaml.Token
import TypeAtlas.Table

/-!
Trees of YAML: a document as nested lists and maps of scalars. What an alias names stands in its
place.
-/

namespace TypeAtlas.Yaml

inductive Tree where
  | scalar (tag : Option String) (text : String) (isPlain : Bool)
  | items (tag : Option String) (items : List Tree)
  | fields (tag : Option String) (fields : List (Tree × Tree))
deriving Inhabited

def Tree.empty : Tree := .scalar none "" true

abbrev Anchors := Table String Tree

abbrev Parse := StateT (Anchors × List Token) Option

namespace Parse

def peek? : Parse (Option Token) := do return (← get).2.head?

def skip : Parse Unit := modify fun (anchors, tokens) => (anchors, tokens.drop 1)

def took (token : Token) : Parse Bool := do
  if (← peek?) == some token then
    skip
    return true
  else return false

def expect (token : Token) : Parse Unit := do
  if !(← took token) then failure

def atAny (tokens : List Token) : Parse Bool := do
  return (← peek?).all tokens.contains

def properties : Nat → Option String → Option String → Parse (Option String × Option String)
  | 0, anchor, tag => return (anchor, tag)
  | fuel + 1, anchor, tag => do
    match ← peek?, anchor, tag with
    | some (.anchor name), none, tag =>
      skip
      properties fuel (some name) tag
    | some (.tag name), anchor, none =>
      skip
      properties fuel anchor (some name)
    | _, _, _ => return (anchor, tag)

def bind (anchor : Option String) (tree : Tree) : Parse Tree := do
  match anchor with
  | none => return tree
  | some name =>
    let (anchors, tokens) ← get
    if Table.has anchors name then failure
    set ((Table.put anchors name tree, tokens) : Anchors × List Token)
    return tree

end Parse

open Parse

mutual

/-- A tree. Within brackets nothing goes by indentation; the items of a list that is the value of a
field may stand in the column of the field. -/
def tree (block indentless : Bool) : Nat → Parse Tree
  | 0 => failure
  | fuel + 1 => do
    if let some (.alias name) := ← peek? then
      skip
      match Table.get? (← get).1 name with
      | some known => return known
      | none => failure
    let (anchor, tag) ← properties 2 none none
    match ← peek? with
    | some (.scalar text isPlain) =>
      skip
      bind anchor (.scalar tag text isPlain)
    | some .openItems =>
      skip
      bind anchor (.items tag (← flowItems fuel true []))
    | some .openFields =>
      skip
      bind anchor (.fields tag (← flowFields fuel true []))
    | some .item =>
      if indentless then bind anchor (.items tag (← indentlessItems fuel []))
      else if anchor.isSome || tag.isSome then bind anchor (.scalar tag "" true)
      else failure
    | some .itemsStart =>
      if block then
        skip
        bind anchor (.items tag (← blockItems fuel []))
      else failure
    | some .fieldsStart =>
      if block then
        skip
        bind anchor (.fields tag (← blockFields fuel []))
      else failure
    | _ => if anchor.isSome || tag.isSome then bind anchor (.scalar tag "" true) else failure

def blockItems : Nat → List Tree → Parse (List Tree)
  | 0, _ => failure
  | fuel + 1, done => do
    if ← took .item then
      let next ← if ← atAny [.item, .blockEnd] then pure .empty else tree true false fuel
      blockItems fuel (done ++ [next])
    else
      expect .blockEnd
      return done

def indentlessItems : Nat → List Tree → Parse (List Tree)
  | 0, _ => failure
  | fuel + 1, done => do
    if ← took .item then
      let next ←
        if ← atAny [.item, .key, .value, .blockEnd] then pure .empty else tree true false fuel
      indentlessItems fuel (done ++ [next])
    else return done

def blockPart : Nat → Parse Tree
  | 0 => failure
  | fuel + 1 => do
    if ← atAny [.key, .value, .blockEnd] then return .empty else tree true true fuel

def blockFields : Nat → List (Tree × Tree) → Parse (List (Tree × Tree))
  | 0, _ => failure
  | fuel + 1, done => do
    if ← took .key then
      let name ← blockPart fuel
      let held ← if ← took .value then blockPart fuel else pure .empty
      blockFields fuel (done ++ [(name, held)])
    else
      expect .blockEnd
      return done

def flowPart (ends : List Token) : Nat → Parse Tree
  | 0 => failure
  | fuel + 1 => do
    if ← atAny ends then return .empty else tree false false fuel

def flowItems : Nat → Bool → List Tree → Parse (List Tree)
  | 0, _, _ => failure
  | fuel + 1, isFirst, done => do
    if ← took .closeItems then return done
    if !isFirst then
      expect .comma
      if ← took .closeItems then return done
    if ← took .key then
      let name ← flowPart [.value, .comma, .closeItems] fuel
      let held ← if ← took .value then flowPart [.comma, .closeItems] fuel else pure .empty
      flowItems fuel false (done ++ [.fields none [(name, held)]])
    else
      let next ← tree false false fuel
      flowItems fuel false (done ++ [next])

def flowFields : Nat → Bool → List (Tree × Tree) → Parse (List (Tree × Tree))
  | 0, _, _ => failure
  | fuel + 1, isFirst, done => do
    if ← took .closeFields then return done
    if !isFirst then
      expect .comma
      if ← took .closeFields then return done
    if ← took .key then
      let name ← flowPart [.value, .comma, .closeFields] fuel
      let held ← if ← took .value then flowPart [.comma, .closeFields] fuel else pure .empty
      flowFields fuel false (done ++ [(name, held)])
    else
      let name ← tree false false fuel
      flowFields fuel false (done ++ [(name, .empty)])

end

def digitsOnly (cs : List Char) : Bool := !cs.isEmpty && cs.all Char.isDigit

def isKnownVersion (rest : List Char) : Bool :=
  let version := (rest.dropWhile (· == ' ')).takeWhile (!isGap ·)
  let minor := (version.dropWhile (· != '.')).drop 1
  version.takeWhile (· != '.') == ['1'] && digitsOnly minor

/-- Directives up to the mark that starts a document. The version is given once at most. -/
def directives : Nat → Bool → Parse Unit
  | 0, _ => failure
  | fuel + 1, hasVersion => do
    match ← peek? with
    | some (.directive name rest) =>
      if name == "YAML" && (hasVersion || !isKnownVersion rest) then failure
      skip
      directives fuel (hasVersion || name == "YAML")
    | _ => expect .documentStart

def skipEnds : Nat → Parse Unit
  | 0 => return
  | fuel + 1 => do if ← took .documentEnd then skipEnds fuel

def document (fuel : Nat) : Parse (Option Tree) := do
  match ← peek? with
  | none => return none
  | some (.directive _ _) | some .documentStart =>
    directives fuel false
    let isEmpty ← (do
      match ← peek? with
      | none | some (.directive _ _) => return true
      | some token => return token == .documentStart || token == .documentEnd)
    let found ← if isEmpty then pure .empty else tree true false fuel
    skipEnds fuel
    return some found
  | some _ =>
    let found ← tree true false fuel
    skipEnds fuel
    return some found

/-- The tree of a text; nothing when the text is not well formed or holds more than one document. -/
def tree? (s : String) : Option (Option Tree) := do
  let tokens ← tokens? s
  let (found, _, rest) ← (document (2 * tokens.length + 4)).run (([], tokens) : Anchors × List Token)
  if rest.isEmpty then some found else none

end TypeAtlas.Yaml
