import PfsenseBackups.AnchorScopes
import PfsenseBackups.AnchorValues

/-! Which fields of a singleton section the projector reports, and as what. -/

namespace PfsenseBackups.FieldEvents
open Value Config Diff DiffConfigs AnchorEvents AnchorScopes AnchorValues

/-! ### Facts about the table -/

theorem singletonSpec_shown : ∀ spec ∈ singletonSpec, spec.section_ ≠ .ipsecMobileClients := by
  decide

/-- The resolver's aliases undo the projector's rescoping. -/
theorem aliases_rescope : ∀ spec ∈ singletonSpec, ∀ name ∈ spec.section_.model.names,
    (fieldAliases.lookup (fieldTarget spec name)).getD (fieldTarget spec name).2 = name := by
  decide

/-- The id of a declared field. -/
def targetId (spec : FieldSpec) (name : String) : String :=
  anchorId "field" (fieldTarget spec name).1 (fieldTarget spec name).2

theorem fieldAnchorId_declared {spec : FieldSpec} {name : String}
    (declared : name ∈ spec.section_.model.names) :
    fieldAnchorId spec name = some (targetId spec name) :=
  fieldAnchorId_eq_some.mpr ⟨(modelSection_wellNamed spec.section_).dotless declared, rfl⟩

section Ids

variable {spec : FieldSpec} (listed : spec ∈ singletonSpec)

include listed

theorem targetId_inj {name other : String} (declared : name ∈ spec.section_.model.names)
    (declared' : other ∈ spec.section_.model.names) (same : targetId spec name = targetId spec other) :
    name = other := by
  have scopes := fieldScopes_dashless spec listed
  obtain ⟨-, first, second⟩ := anchorId_inj (by decide) (by decide)
    (scopes _ (fieldTarget_scope spec name)) (scopes _ (fieldTarget_scope spec other)) same
  have targets : fieldTarget spec name = fieldTarget spec other := Prod.ext first second
  rw [← aliases_rescope spec listed name declared, targets,
    aliases_rescope spec listed other declared']

theorem targetId_ofScope (name : String) :
    ofScope "field" (fieldTarget spec name).1 (targetId spec name) = true := by
  have plain := fieldScopes_dashless spec listed _ (fieldTarget_scope spec name)
  exact (ofScope_anchorId _ (by decide) (by decide) plain plain).mpr ⟨rfl, rfl⟩

/-- The diff of a section that `ConfigDiff` has. -/
theorem model_diff (a b : ParsedConfig) : (diffConfigs a b).model spec.section_ =
    some (diffOptionalModel (a.model spec.section_) (b.model spec.section_) spec.section_.name) := by
  have shown : (diffConfigs a b).model spec.section_ ≠ none := by
    have left_out := singletonSpec_shown spec listed
    cases found : spec.section_ <;>
      first | exact (left_out found).elim | simp [ConfigDiff.model]
  obtain ⟨inner, held⟩ := Option.ne_none_iff_exists'.mp shown
  rw [held, diffConfigs_model a b spec.section_ inner held]

end Ids

/-! ### The changes of one field -/

section Changes

variable {spec : FieldSpec} {x y : Dict}

/-- The dotless changes of two dumps are those of its fields. -/
theorem field_of_change (fitsX : spec.section_.model.Conforms x)
    (fitsY : spec.section_.model.Conforms y) {change : FieldChange}
    (member : change ∈ fieldChanges x y "") :
    ∃ name ∈ spec.section_.model.names, Dict.get x name ≠ Dict.get y name ∧
      change ∈ changesBetween name (Dict.get x name) (Dict.get y name) := by
  obtain ⟨name, known, inside⟩ := mem_fieldChanges.mp member
  rw [String.empty_append] at inside
  refine ⟨name, ?_, ?_, inside⟩
  · rcases known with known | known
    · exact fitsX.keys ▸ known
    · exact fitsY.keys ▸ known
  · intro same
    simp [same] at inside

theorem change_of_field (fitsX : spec.section_.model.Conforms x) {name : String}
    (declared : name ∈ spec.section_.model.names) {change : FieldChange}
    (inside : change ∈ changesBetween name (Dict.get x name) (Dict.get y name)) :
    change ∈ fieldChanges x y "" := by
  refine mem_fieldChanges.mpr ⟨name, .inl (fitsX.keys ▸ declared), ?_⟩
  rw [String.empty_append]
  exact inside

/-- Both values are nested models, between which a differ descends. -/
def nested : Val → Val → Bool
  | .dict _, .dict _ => true
  | _, _ => false

theorem nested_iff {before after : Val} :
    nested before after = true ↔ ∃ u v, before = .dict u ∧ after = .dict v := by
  cases before <;> cases after <;> simp [nested]

theorem changesBetween_nested {path : String} {before after : Val} (differ : before ≠ after)
    (whole : nested before after = false) :
    changesBetween path before after = [⟨path, before, after⟩] := by
  apply changesBetween_leaf _ differ
  rintro u v rfl rfl
  cases whole

/-- An anchored change is the whole change of a declared field. -/
theorem anchored_change (fitsX : spec.section_.model.Conforms x)
    (fitsY : spec.section_.model.Conforms y) {change : FieldChange} {aid : String}
    (member : change ∈ fieldChanges x y "") (named : fieldAnchorId spec change.field = some aid) :
    ∃ name ∈ spec.section_.model.names, aid = targetId spec name ∧
      Dict.get x name ≠ Dict.get y name ∧ nested (Dict.get x name) (Dict.get y name) = false ∧
      change = ⟨name, Dict.get x name, Dict.get y name⟩ := by
  obtain ⟨name, declared, differ, inside⟩ := field_of_change fitsX fitsY member
  obtain ⟨plain, rfl⟩ := fieldAnchorId_eq_some.mp named
  cases descends : nested (Dict.get x name) (Dict.get y name) with
  | true =>
    obtain ⟨u, v, left, right⟩ := nested_iff.mp descends
    rw [left, right, changesBetween_dict] at inside
    obtain ⟨rest, path⟩ := field_of_mem_fieldChanges inside
    rw [path] at plain
    simp [dotless] at plain
  | false =>
    rw [changesBetween_nested differ descends] at inside
    obtain rfl := List.mem_singleton.mp inside
    exact ⟨name, declared, rfl, differ, descends, rfl⟩

end Changes

/-! ### The events of one field -/

/-- The value of a field, where the section is there. -/
def fieldState (spec : FieldSpec) (name : String) (config : ParsedConfig) : Option Val :=
  (config.model spec.section_).map fun dump => Dict.get dump name

/-- The event that a field's anchor gets for one step. A field of a section that comes or goes
is reported whatever its value; a change inside a nested model is not. -/
def fieldReport (aid : String) : Option Val → Option Val → Option Event
  | none, none => none
  | none, some after => some ⟨aid, .added, after⟩
  | some before, none => some ⟨aid, .removed, before⟩
  | some before, some after =>
    if before = after ∨ nested before after = true then none
    else some ⟨aid, changeKind before after, changeValue before after⟩

section Events

variable {spec : FieldSpec} (listed : spec ∈ singletonSpec) {name : String}
  (declared : name ∈ spec.section_.model.names)

include listed declared

theorem mem_wholeEvents (kind : Kind) {whole : Dict} (fits : spec.section_.model.Conforms whole)
    (event : Event) : (event ∈ wholeEvents spec kind whole ∧ event.anchorId = targetId spec name) ↔
      event = ⟨targetId spec name, kind, Dict.get whole name⟩ := by
  have unique : (Dict.keys whole).Nodup := fits.keys ▸ (modelSection_wellNamed spec.section_).nodup
  rw [wholeEvents, List.mem_filterMap]
  constructor
  · rintro ⟨⟨⟨field, value⟩, member, built⟩, same⟩
    have declared' : field ∈ spec.section_.model.names :=
      fits.keys ▸ List.mem_map_of_mem (f := Prod.fst) member
    rw [fieldAnchorId_declared declared', Option.map_some, Option.some.injEq] at built
    subst built
    obtain rfl := targetId_inj listed declared' declared same
    rw [Dict.get_of_mem unique member]
  · rintro rfl
    refine ⟨⟨(name, Dict.get whole name), Dict.mem_of_mem_keys (fits.keys ▸ declared), ?_⟩, rfl⟩
    rw [fieldAnchorId_declared declared, Option.map_some]

theorem mem_changeEvents {x y : Dict} (fitsX : spec.section_.model.Conforms x)
    (fitsY : spec.section_.model.Conforms y) (event : Event) :
    ((∃ change ∈ fieldChanges x y "", fieldEvent spec change = some event) ∧
        event.anchorId = targetId spec name) ↔
      fieldReport (targetId spec name) (some (Dict.get x name)) (some (Dict.get y name)) =
        some event := by
  rw [fieldReport]
  constructor
  · rintro ⟨⟨change, member, built⟩, same⟩
    obtain ⟨aid, named, rfl⟩ := Option.map_eq_some_iff.mp built
    obtain ⟨other, declared', spelled, differ, whole, rfl⟩ :=
      anchored_change fitsX fitsY member named
    obtain rfl := targetId_inj listed declared' declared (spelled.symm.trans same)
    rw [if_neg (by simp [differ, whole]), spelled]
  · intro reported
    split at reported
    next => cases reported
    next loud =>
      rw [not_or, Bool.not_eq_true] at loud
      cases reported
      refine ⟨⟨⟨name, Dict.get x name, Dict.get y name⟩, ?_, ?_⟩, rfl⟩
      · apply change_of_field fitsX declared
        rw [changesBetween_nested loud.1 loud.2]
        exact List.mem_singleton_self _
      · rw [fieldEvent, fieldAnchorId_declared declared, Option.map_some]

/-- One step gives the field's anchor at most one event. -/
theorem mem_field_events (a b : ParsedConfig) (event : Event) :
    (event ∈ diffToAnchorEvents (diffConfigs a b) b ∧ event.anchorId = targetId spec name) ↔
      fieldReport (targetId spec name) (fieldState spec name a) (fieldState spec name b) =
        some event := by
  have fitsA := a.model_conforms spec.section_
  have fitsB := b.model_conforms spec.section_
  have reduced : (event ∈ diffToAnchorEvents (diffConfigs a b) b ∧
      event.anchorId = targetId spec name) ↔
      event ∈ singletonEvents spec (diffOptionalModel (a.model spec.section_)
        (b.model spec.section_) spec.section_.name) ∧ event.anchorId = targetId spec name := by
    apply and_congr_left
    intro same
    have inScope := targetId_ofScope listed name
    rw [← same] at inScope
    simp [mem_diffToAnchorEvents_field _ _ listed (fieldTarget_scope spec name) inScope,
      model_diff listed]
  rw [reduced, fieldState, fieldState]
  cases left : a.model spec.section_ with
  | none =>
    cases right : b.model spec.section_ with
    | none => simp [diffOptionalModel, singletonEvents, fieldReport]
    | some y =>
      have whole := mem_wholeEvents listed declared .added (fitsB y right) event
      simp [diffOptionalModel, singletonEvents, fieldReport, whole, eq_comm]
  | some x =>
    cases right : b.model spec.section_ with
    | none =>
      have whole := mem_wholeEvents listed declared .removed (fitsA x left) event
      simp [diffOptionalModel, singletonEvents, fieldReport, whole, eq_comm]
    | some y =>
      obtain ⟨added, removed, changes⟩ := diffOptionalModel_some x y spec.section_.name
      have inside : event ∈ singletonEvents spec (diffOptionalModel (some x) (some y)
          spec.section_.name) ↔ ∃ change ∈ fieldChanges x y "", fieldEvent spec change = some event := by
        rw [← changes, singletonEvents, added, removed, ← List.filterMap_flatMap]
        simp only [List.flatMap_nil, List.nil_append, List.mem_filterMap]
      rw [inside]
      exact mem_changeEvents listed declared (fitsA x left) (fitsB y right) event

/-- The seed of a field's anchor is its value in the first config. -/
theorem mem_field_seeds (config : ParsedConfig) (event : Event) :
    (event ∈ seeds config ∧ event.anchorId = targetId spec name) ↔
      fieldReport (targetId spec name) none (fieldState spec name config) = some event := by
  have fits := config.model_conforms spec.section_
  have reduced : (event ∈ seeds config ∧ event.anchorId = targetId spec name) ↔
      event ∈ seedFields config spec ∧ event.anchorId = targetId spec name := by
    apply and_congr_left
    intro same
    have inScope := targetId_ofScope listed name
    rw [← same] at inScope
    rw [seeds_eq, (seeds_assembled config).mem_field listed (fieldTarget_scope spec name) inScope]
  rw [reduced, seedFields, fieldState]
  cases held : config.model spec.section_ with
  | none => simp [wholeEvents, fieldReport]
  | some dump =>
    have whole := mem_wholeEvents listed declared .added (fits dump held) event
    simp [fieldReport, whole, eq_comm]

end Events

end PfsenseBackups.FieldEvents
