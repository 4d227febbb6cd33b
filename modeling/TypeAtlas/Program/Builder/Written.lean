import TypeAtlas.Program.Builder.Basic
import TypeAtlas.Program.Predicate

/-!
How a type is written at a declaration: by its name where it has one, else by its parts.
-/

namespace TypeAtlas.Build

open Program

def isSynthesized (name : String) : Bool := name.startsWith "__"

/-- The name by which a type is written: that of its alias, or of a symbol that the compiler did
not make up. -/
def writtenName? (p : Program) (type : TypeInfo) : Option String :=
  match type.alias? with
  | some named => some (p.symbol named).name
  | none =>
    match type.symbol with
    | none => none
    | some id =>
      let name := (p.symbol id).name
      if isSynthesized name then none
      else if type.hasFlag .object || type.hasFlag .typeParameter || type.hasFlag .union then
        some name
      else none

mutual

def writtenFrom : Nat → Option TypeId → Option SiteId → Build SiteId
  | 0, _, _ => throw .tooDeep
  | fuel + 1, type, parent => do
    let p ← get
    let id ← present type
    let info := p.type id
    let site ←
      if id ∈ p.inferred then
        let site ← newSite { kind := .inferType, parent }
        let variableSite ← declarationOf id
        setSite site ({ · with typeParameter := variableSite })
        pure site
      else
        match writtenName? p info with
        | some name => newSite { kind := .typeReference, name := some name, parent }
        | none =>
          match info.hasFlag .index, info.operand with
          | true, some operand =>
            let site ← newSite { kind := .keyofOperator, parent }
            let child ← writtenFrom fuel operand site
            setSite site ({ · with type := some child })
            pure site
          | _, _ =>
            if info.hasFlag .union && !info.hasFlag .boolean then
              let site ← newSite { kind := .unionType, parent }
              let children ← writtenEach fuel (← info.types.each) site
              setSite site ({ · with types := Slots.of children })
              pure site
            else newSite { kind := .typeNode, parent }
    bindSite site id
    pure site

def writtenEach : Nat → List (Option TypeId) → Option SiteId → Build (List SiteId)
  | 0, _, _ => throw .tooDeep
  | _ + 1, [], _ => pure []
  | fuel + 1, type :: rest, parent => do
    let first ← writtenFrom fuel type parent
    let others ← writtenEach fuel rest parent
    pure (first :: others)

end

/-- Enough for any types that do not contain themselves: each is at most once on the way down, and
lists of members are gone through one by one. -/
def writtenFuel (p : Program) : Nat :=
  p.types.size + p.types.foldl (fun total type => total + type.types.slots.length) 0 + 2

def writtenType (type : Option TypeId) (parent : Option SiteId) : Build SiteId := do
  writtenFrom (writtenFuel (← get)) type parent

end TypeAtlas.Build
