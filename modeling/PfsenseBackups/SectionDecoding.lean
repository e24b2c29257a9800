import PfsenseBackups.CumulativeChanges
import PfsenseBackups.EnumeratedAnchors

/-! `section_for_anchor` on the events of a diff: a row's section is read back from its kind, a
field's from the scope that the projector gave it. -/

namespace PfsenseBackups.SectionDecoding
open Value Config Diff DiffConfigs AnchorEvents AnchorScopes AnchorValues FieldEvents AnchorHistory
  EnumeratedAnchors CumulativeChanges

/-! ### What each section yields -/

/-- The part of the events that comes from one entry of `SECTION_SPEC`. -/
def rowsYield (a b : ParsedConfig) (spec : RowSpec) : List Event :=
  rowEvents spec ((diffConfigs a b).list spec.section_) (b.rows spec.section_)

/-- The part of the events that comes from one entry of `SINGLETON_SPEC`. -/
def fieldsYield (a b : ParsedConfig) (spec : FieldSpec) : List Event :=
  (((diffConfigs a b).model spec.section_).map (singletonEvents spec)).getD []

theorem diffToAnchorEvents_yield (a b : ParsedConfig) : diffToAnchorEvents (diffConfigs a b) b =
    sectionSpec.flatMap (rowsYield a b) ++ singletonSpec.flatMap (fieldsYield a b) ++
      packageEvents (diffConfigs a b).installedpackages (b.model .installedpackages) :=
  rfl

/-- Every event of a section is decoded to that section. -/
structure AllDecode (a b : ParsedConfig) : Prop where
  rows : ∀ spec ∈ sectionSpec, ∀ event ∈ rowsYield a b spec,
    event.anchorId ≠ anchorId "xref" spec.anchorKind "" →
      sectionForAnchor event.anchorId = some spec.section_.name
  fields : ∀ spec ∈ singletonSpec, ∀ event ∈ fieldsYield a b spec,
    sectionForAnchor event.anchorId = some spec.section_.name

/-- The fields of the DNS record that come from `<unbound>`. -/
def unboundFields : List String :=
  ["unbound_enabled", "unbound_port"]

/-- The DNS records are both missing or agree on the fields of `<unbound>`. -/
def UnboundKept (a b : ParsedConfig) : Prop :=
  ∀ name ∈ unboundFields,
    (a.model .dns).map (Dict.get · name) = (b.model .dns).map (Dict.get · name)

/-! ### The decoder's tables -/

theorem anchorKind_decodes : ∀ spec ∈ sectionSpec,
    anchorKindToSection spec.anchorKind = some spec.section_.name := by
  decide

/-- Only the scope of `<unbound>` is not in the reverse table. -/
theorem fieldTarget_decodes : ∀ spec ∈ singletonSpec, ∀ name ∈ spec.section_.model.names,
    singletonScopeToSection (fieldTarget spec name).1 =
      if spec.section_ = .dns ∧ name ∈ unboundFields then none else some spec.section_.name := by
  decide

theorem unboundFields_leaf : ∀ name ∈ unboundFields,
    ∃ type ∈ ModelSection.dns.model.fieldType name, type.isLeaf = true := by
  decide

theorem dns_listed : (⟨.dns, "dns"⟩ : FieldSpec) ∈ singletonSpec := by
  decide

theorem unboundFields_declared : ∀ name ∈ unboundFields, name ∈ ModelSection.dns.model.names := by
  decide

/-! ### Rows -/

/-- The kind of a row with a key is read back, whatever the key. -/
theorem sectionForAnchor_row {spec : RowSpec} (listed : spec ∈ sectionSpec) {tail : String}
    (sanitised : safe tail = tail) (filled : tail ≠ "") :
    sectionForAnchor (anchorId "xref" spec.anchorKind tail) = some spec.section_.name := by
  obtain ⟨-, word, named, -⟩ := rowScopes_listed spec listed
  have oneLine := safe_oneLine sanitised
  rw [sectionForAnchor, matchAnchor_anchorId (by simp) word named filled oneLine]
  exact anchorKind_decodes spec listed

theorem rowEvents_shape {spec : RowSpec} {diff : SectionDiff} {after : List Dict} {event : Event}
    (member : event ∈ rowEvents spec diff after) :
    ∃ tail, safe tail = tail ∧ event.anchorId = anchorId "xref" spec.anchorKind tail := by
  obtain ⟨kind, row, built⟩ := rowEvent_of_mem member
  obtain ⟨aid, named, rfl⟩ := Option.map_eq_some_iff.mp built
  obtain ⟨tail, sanitised, spelled, -⟩ := rowAnchorId_shape named
  exact ⟨tail, sanitised, spelled⟩

theorem rows_decode (a b : ParsedConfig) {spec : RowSpec} (listed : spec ∈ sectionSpec)
    {event : Event} (member : event ∈ rowsYield a b spec)
    (keyed : event.anchorId ≠ anchorId "xref" spec.anchorKind "") :
    sectionForAnchor event.anchorId = some spec.section_.name := by
  obtain ⟨tail, sanitised, spelled⟩ := rowEvents_shape member
  rw [spelled] at keyed ⊢
  exact sectionForAnchor_row listed sanitised fun empty => keyed (by rw [empty])

/-! ### Fields -/

theorem field_of_whole {spec : FieldSpec} {kind : Kind} {whole : Dict} {event : Event}
    (fits : spec.section_.model.Conforms whole) (member : event ∈ wholeEvents spec kind whole) :
    ∃ name ∈ spec.section_.model.names, event.anchorId = targetId spec name := by
  obtain ⟨⟨name, value⟩, held, built⟩ := List.mem_filterMap.mp member
  have declared : name ∈ spec.section_.model.names :=
    fits.keys ▸ List.mem_map_of_mem (f := Prod.fst) held
  rw [fieldAnchorId_declared declared] at built
  obtain rfl := Option.some.inj built
  exact ⟨name, declared, rfl⟩

section Fields

variable {spec : FieldSpec} (listed : spec ∈ singletonSpec)

include listed

theorem sectionForAnchor_field {name : String} (declared : name ∈ spec.section_.model.names) :
    sectionForAnchor (targetId spec name) =
      if spec.section_ = .dns ∧ name ∈ unboundFields then none else some spec.section_.name := by
  obtain ⟨-, -, word, named⟩ := singletonPath_listed spec listed _ (fieldTarget_scope spec name)
  obtain ⟨nonempty, oneLine⟩ := tag_plain spec listed name declared
  rw [sectionForAnchor, targetId, matchAnchor_anchorId (by simp) word named nonempty oneLine]
  exact fieldTarget_decodes spec listed name declared

/-- Every event of a section is at one of its declared fields. -/
theorem field_of_yield {a b : ParsedConfig} {event : Event}
    (member : event ∈ fieldsYield a b spec) :
    ∃ name ∈ spec.section_.model.names, event.anchorId = targetId spec name := by
  rw [fieldsYield, model_diff listed, Option.map_some, Option.getD_some] at member
  cases left : a.model spec.section_ with
  | none =>
    cases right : b.model spec.section_ with
    | none => simp [left, right, diffOptionalModel, singletonEvents] at member
    | some y =>
      rw [left, right] at member
      simp only [diffOptionalModel, singletonEvents, List.flatMap_cons, List.flatMap_nil,
        List.append_nil] at member
      exact field_of_whole (b.model_conforms _ y right) member
  | some x =>
    cases right : b.model spec.section_ with
    | none =>
      rw [left, right] at member
      simp only [diffOptionalModel, singletonEvents, List.flatMap_cons, List.flatMap_nil,
        List.append_nil, List.nil_append] at member
      exact field_of_whole (a.model_conforms _ x left) member
    | some y =>
      obtain ⟨added, removed, changes⟩ := diffOptionalModel_some x y spec.section_.name
      rw [left, right, singletonEvents, added, removed, List.flatMap_nil, List.flatMap_nil,
        List.append_nil, List.nil_append, ← List.filterMap_flatMap, changes] at member
      obtain ⟨change, inside, built⟩ := List.mem_filterMap.mp member
      obtain ⟨aid, named, rfl⟩ := Option.map_eq_some_iff.mp built
      obtain ⟨name, declared, spelled, -⟩ := anchored_change (a.model_conforms _ x left)
        (b.model_conforms _ y right) inside named
      exact ⟨name, declared, spelled⟩

/-- The events at one field are those that the field's two values give. -/
theorem mem_fieldsYield (a b : ParsedConfig) {name : String}
    (declared : name ∈ spec.section_.model.names) (event : Event) :
    (event ∈ fieldsYield a b spec ∧ event.anchorId = targetId spec name) ↔
      fieldReport (targetId spec name) (fieldState spec name a) (fieldState spec name b) =
        some event := by
  rw [← mem_field_events listed declared a b event]
  apply and_congr_left
  intro same
  have inScope := targetId_ofScope listed name
  rw [← same] at inScope
  rw [mem_diffToAnchorEvents_field _ _ listed (fieldTarget_scope spec name) inScope, fieldsYield]
  cases (diffConfigs a b).model spec.section_ <;> simp

end Fields

/-! ### The whole projection -/

theorem fieldReport_self (aid : String) (state : Option Val) :
    fieldReport aid state state = none := by
  cases state <;> simp [fieldReport]

/-- No field of `<unbound>` is a nested model, so a difference in it is always reported. -/
theorem unbound_reported {name : String} (inside : name ∈ unboundFields) {a b : ParsedConfig}
    (differ : (a.model .dns).map (Dict.get · name) ≠ (b.model .dns).map (Dict.get · name))
    (aid : String) :
    ∃ event, fieldReport aid ((a.model .dns).map (Dict.get · name))
      ((b.model .dns).map (Dict.get · name)) = some event := by
  obtain ⟨type, typed, leaf⟩ := unboundFields_leaf name inside
  cases left : a.model .dns with
  | none =>
    cases right : b.model .dns with
    | none => exact absurd (by rw [left, right]) differ
    | some y => exact ⟨_, rfl⟩
  | some x =>
    cases right : b.model .dns with
    | none => exact ⟨_, rfl⟩
    | some y =>
      rw [left, right] at differ
      have notDict := FieldType.not_dict leaf ((a.model_conforms .dns x left).get typed)
      have whole : nested (Dict.get x name) (Dict.get y name) = false := by
        rw [← Bool.not_eq_true, nested_iff]
        rintro ⟨u, v, held, -⟩
        exact notDict u held
      refine ⟨_, if_neg ?_⟩
      rintro (same | descends)
      · exact differ (congrArg some same)
      · rw [whole] at descends
        cases descends

/-- All events of all sections are decoded exactly when no event is about `<unbound>`. -/
theorem allDecode_iff (a b : ParsedConfig) : AllDecode a b ↔ UnboundKept a b := by
  constructor
  · intro decode name inside
    by_contra differ
    have declared := unboundFields_declared name inside
    obtain ⟨event, report⟩ := unbound_reported inside differ (targetId ⟨.dns, "dns"⟩ name)
    obtain ⟨member, spelled⟩ := (mem_fieldsYield dns_listed a b declared event).mpr report
    have decoded := decode.fields _ dns_listed event member
    rw [spelled, sectionForAnchor_field dns_listed declared, if_pos ⟨rfl, inside⟩] at decoded
    cases decoded
  · intro kept
    refine ⟨fun spec listed event member keyed => rows_decode a b listed member keyed, ?_⟩
    intro spec listed event member
    obtain ⟨name, declared, spelled⟩ := field_of_yield listed member
    rw [spelled, sectionForAnchor_field listed declared, if_neg]
    rintro ⟨isDns, inside⟩
    have report := (mem_fieldsYield listed a b declared event).mp ⟨member, spelled⟩
    rw [fieldState, fieldState, isDns, kept name inside, fieldReport_self] at report
    cases report

/-- A config with a DNS record that says whether unbound is on, and nothing else. -/
def ofUnbound (enabled : Bool) : ParsedConfig where
  dns := some {
    dump := Models.DnsConfig.dumpWith [("unbound_enabled", .bool enabled)]
    conforms := by simp [Model.Conforms, Models.DnsConfig, Model.dumpWith, Model.blank, Dict.keys,
      Dict.get_cons, FieldType.fieldsConform, FieldType.conforms] }

/-- Unbound is switched on. -/
theorem unbound_undecoded :
    ⟨"field-unbound-enable", .modified, .bool true⟩ ∈
      diffToAnchorEvents (diffConfigs (ofUnbound false) (ofUnbound true)) (ofUnbound true) ∧
    sectionForAnchor "field-unbound-enable" = none ∧
    ¬ AllDecode (ofUnbound false) (ofUnbound true) := by
  have undecoded : sectionForAnchor "field-unbound-enable" = none := by decide
  have report : fieldReport (targetId ⟨.dns, "dns"⟩ "unbound_enabled")
      (fieldState ⟨.dns, "dns"⟩ "unbound_enabled" (ofUnbound false))
      (fieldState ⟨.dns, "dns"⟩ "unbound_enabled" (ofUnbound true)) =
      some ⟨"field-unbound-enable", .modified, .bool true⟩ := by decide
  have member := ((mem_fieldsYield dns_listed _ _ (by decide) _).mpr report).1
  refine ⟨?_, undecoded, fun decode => ?_⟩
  · rw [diffToAnchorEvents_yield]
    exact List.mem_append_left _ (List.mem_append_right _ (List.mem_flatMap.mpr
      ⟨_, dns_listed, member⟩))
  · have decoded := decode.fields _ dns_listed _ member
    rw [undecoded] at decoded
    cases decoded

end PfsenseBackups.SectionDecoding
