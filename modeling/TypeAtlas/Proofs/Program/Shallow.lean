import TypeAtlas.Extract.Shape

/-!
Questions to a program and to an engine end at once: whatever is wrong with the answer, it is not that
the walk has gone too deep.
-/

namespace TypeAtlas

variable {α β : Type}

def Shallow (result : Except Fault α) : Prop := result ≠ .error .tooDeep

theorem shallow_ok (value : α) : Shallow (.ok value) := nofun

theorem shallow_diagnostic (d : Diagnostic) : Shallow (.error (.diagnostic d) : Except Fault α) := nofun

theorem shallow_bind {asked : Except Fault α} {next : α → Except Fault β} (first : Shallow asked)
    (rest : ∀ value, Shallow (next value)) : Shallow (asked >>= next) := by
  cases asked with
  | ok value => exact rest value
  | error fault =>
      intro deep
      apply first
      cases deep
      rfl

theorem shallow_map (f : α → β) {asked : Except Fault α} (shallow : Shallow asked) :
    Shallow (f <$> asked) := by
  rw [map_eq_pure_bind]
  exact shallow_bind shallow fun value => shallow_ok (f value)

theorem shallow_mapM {f : α → Except Fault β} {items : List α} (each : ∀ item, Shallow (f item)) :
    Shallow (items.mapM f) := by
  induction items with
  | nil => exact shallow_ok []
  | cons item rest ih =>
      rw [List.mapM_cons]
      exact shallow_bind (each item) fun first => shallow_bind ih fun others => shallow_ok _

theorem shallow_present (held : Option α) : Shallow (present held) := by
  cases held <;> nofun

theorem shallow_each (slots : Slots α) : Shallow slots.each := by
  cases slots <;> nofun

theorem shallow_joined (separator : String) (slots : Slots String) :
    Shallow (slots.joined separator) := by
  refine shallow_bind (shallow_each slots) fun parts => ?_
  refine shallow_bind (shallow_mapM fun part => ?_) fun texts => shallow_ok _
  cases part <;> nofun

theorem shallow_checked (reading : Checked α) : Shallow reading.toExcept := by
  unfold Checked.toExcept
  split
  · nofun
  · split <;> nofun

namespace Program

variable (p : Program)

theorem shallow_recordedType (query : String) (site : Option SiteId) :
    Shallow (p.recordedType query site) := by
  unfold recordedType
  split <;> nofun

theorem shallow_typeAt (site : Option SiteId) : Shallow (p.typeAt site) := p.shallow_recordedType _ site

theorem shallow_typeWritten (site : Option SiteId) : Shallow (p.typeWritten site) :=
  p.shallow_recordedType _ site

theorem shallow_signatureOf (site : Option SiteId) : Shallow (p.signatureOf site) := by
  unfold signatureOf
  split <;> nofun

theorem shallow_declaredType (symbol : Option SymbolId) : Shallow (p.declaredType symbol) := by
  unfold declaredType
  split <;> nofun

theorem shallow_valueTypeAt (symbol : Option SymbolId) (place : Option SiteId) :
    Shallow (p.valueTypeAt symbol place) := by
  unfold valueTypeAt
  split
  · exact shallow_ok _
  · refine shallow_bind (shallow_present place) fun place => ?_
    dsimp only
    split
    · exact shallow_ok _
    · exact shallow_diagnostic _

theorem shallow_comment (symbol : Option SymbolId) : Shallow (p.comment symbol) := by
  cases symbol with
  | none => exact shallow_ok none
  | some id =>
      refine shallow_bind (shallow_each _) fun lines => ?_
      split
      · exact shallow_ok none
      · exact shallow_map some (shallow_joined _ _)

theorem shallow_modifiersOf (symbol : Option SymbolId) : Shallow (p.modifiersOf symbol) := by
  unfold modifiersOf
  split
  · exact shallow_joined _ _
  · exact shallow_ok _

theorem shallow_keyName (index : Option IndexId) : Shallow (p.keyName index) := by
  unfold keyName
  dsimp only
  split
  · exact shallow_ok _
  · split
    · exact shallow_ok _
    · exact shallow_bind (shallow_present _) fun first => shallow_ok _

theorem shallow_constructorsOf (t : TypeInfo) : Shallow (p.constructorsOf t) := by
  unfold constructorsOf
  split
  · exact shallow_bind (shallow_present _) fun held => shallow_each _
  · exact shallow_ok _

end Program

namespace Engine

variable (e : Engine)

theorem shallow_defaultTypeId (param : Option SiteId) : Shallow (e.defaultTypeId param) := by
  refine shallow_bind (shallow_present param) fun param => ?_
  dsimp only
  split
  · exact shallow_ok none
  · refine shallow_bind (e.program.shallow_typeAt _) fun type => ?_
    exact shallow_bind (shallow_present type) fun type => shallow_ok _

theorem shallow_trimDefaults (argumentIds : List Int) (params : List (Option SiteId))
    (types : List Node) : Shallow (e.trimDefaults argumentIds params types) := by
  induction params generalizing types with
  | nil => exact shallow_ok types
  | cons param earlier ih =>
      refine shallow_bind (e.shallow_defaultTypeId param) fun default => ?_
      split
      · split
        · exact ih types.dropLast
        · exact shallow_ok types
      · exact shallow_ok types

theorem shallow_argumentIds (type : TypeInfo) : Shallow (e.argumentIds type) :=
  shallow_mapM fun argument => shallow_bind (shallow_present argument) fun _ => shallow_ok _

theorem shallow_livePropIds (live : Option TypeId) : Shallow (e.livePropIds live) := by
  cases live with
  | none => exact shallow_ok []
  | some type =>
      refine shallow_bind (shallow_each _) fun properties => shallow_mapM fun prop => ?_
      exact shallow_bind (shallow_present prop) fun prop => shallow_ok _

theorem shallow_inheritedIdsFrom (registry : Registry) (fuel : Nat) (edges : List Node)
    (seen : List String) : Shallow (e.inheritedIdsFrom registry fuel edges seen) := by
  induction fuel generalizing edges seen with
  | zero => exact shallow_ok []
  | succ fuel ih =>
      have rest (name : String) (rest next : List Node) (ids : List Int) : Shallow (do
          let others ← e.inheritedIdsFrom registry fuel (next ++ rest) (name :: seen)
          pure (ids ++ others)) :=
        shallow_bind (ih (next ++ rest) (name :: seen)) fun others => shallow_ok _
      cases edges with
      | nil => exact shallow_ok []
      | cons edge later =>
          cases edge with
          | ref edge =>
              rw [inheritedIdsFrom]
              split
              · exact ih later seen
              · split
                · exact rest edge.name later _ _
                · exact rest edge.name later _ _
                · refine shallow_bind (e.shallow_livePropIds edge.live) fun ids => ?_
                  exact rest edge.name later [] ids
          | _ => exact ih later seen

theorem shallow_inheritedIds (registry : Registry) (edges : List Node) :
    Shallow (e.inheritedIds registry edges) := e.shallow_inheritedIdsFrom registry _ edges []

end Engine

end TypeAtlas
