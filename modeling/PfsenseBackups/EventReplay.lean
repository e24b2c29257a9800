import PfsenseBackups.AnchorScopes
import PfsenseBackups.Journal
import PfsenseBackups.RowEvents
import PfsenseBackups.Xml

/-! The event log of a section, replayed over a history of configs. -/

namespace PfsenseBackups.EventReplay
open Value Keyed Config Diff DiffConfigs AnchorEvents AnchorScopes RowEvents Journal Xml

/-- Diff keys and anchors are there, and unique, in the rows of a section. -/
structure WellKeyed (spec : RowSpec) (rows : List Dict) : Prop where
  uniqueKeys : Unique (diffKey spec.diffKeyField) rows
  keyPresent : ∀ row ∈ rows, Dict.get row spec.diffKeyField ≠ .none
  uniqueAnchors : Unique (fun row => rowAnchorId spec.anchorKind row spec.anchorKeyField) rows
  anchorPresent : ∀ row ∈ rows, Dict.get row spec.anchorKeyField ≠ .none

/-- The anchor of a row that has one. -/
def anchorOf (spec : RowSpec) (row : Dict) : String :=
  (rowAnchorId spec.anchorKind row spec.anchorKeyField).getD ""

/-- The row an event carries. -/
def rowOf : Val → Dict
  | .dict row => row
  | _ => []

/-- `removed` deletes the anchor's row, every other kind sets it. -/
def entry (event : Event) : Entry String Dict :=
  if event.kind = .removed then .erase event.anchorId
  else .put event.anchorId (rowOf event.value)

/-- The events of the step between two configs that are anchored in a section. -/
def stepEvents (spec : RowSpec) (before after : ParsedConfig) : List Event :=
  (diffToAnchorEvents (diffConfigs before after) after).filter fun event =>
    ofScope "xref" spec.anchorKind event.anchorId

/-- One step of the replay, its removals first. -/
def replayStep (spec : RowSpec) (before after : ParsedConfig) (log : Store String Dict) :
    Store String Dict :=
  let events := stepEvents spec before after
  replay (((events.filter fun event => event.kind = .removed).map entry) ++
    ((events.filter fun event => event.kind ≠ .removed).map entry)) log

/-- The rows of a section as `enumerate_anchors` yields them. -/
def enumerated (spec : RowSpec) (config : ParsedConfig) : Store String Dict :=
  replay ((enumerateRows spec (config.rows spec.section_)).map fun found =>
    .put found.1 found.2) fun _ => none

/-- The replay of a whole history, from the rows of its first config. -/
def replayHistory (spec : RowSpec) (first : ParsedConfig) (rest : List ParsedConfig) :
    Store String Dict :=
  (rest.foldl (fun (state : ParsedConfig × Store String Dict) next =>
    (next, replayStep spec state.1 next state.2)) (first, enumerated spec first)).2

section Step

variable {spec : RowSpec} {rows : List Dict}

theorem rowAnchorId_eq (keyed : WellKeyed spec rows) {row : Dict} (member : row ∈ rows) :
    rowAnchorId spec.anchorKind row spec.anchorKeyField = some (anchorOf spec row) := by
  rw [anchorOf, rowAnchorId_of_present _ (keyed.anchorPresent row member), Option.getD_some]

theorem anchorOf_eq (keyed : WellKeyed spec rows) {row : Dict} (member : row ∈ rows) :
    anchorOf spec row =
      anchorId "xref" spec.anchorKind (safe (Dict.get row spec.anchorKeyField).text) := by
  rw [anchorOf, rowAnchorId_of_present _ (keyed.anchorPresent row member), Option.getD_some]

theorem WellKeyed.unique (keyed : WellKeyed spec rows) : Unique (anchorOf spec) rows := by
  have mapped : (rows.map fun row => rowAnchorId spec.anchorKind row spec.anchorKeyField) =
      (rows.map (anchorOf spec)).map some := by
    rw [List.map_map]
    exact List.map_congr_left fun row member => rowAnchorId_eq keyed member
  have nodup := keyed.uniqueAnchors
  rw [Keyed.Unique, mapped] at nodup
  exact List.Nodup.of_map some nodup

theorem rowEvent_eq (keyed : WellKeyed spec rows) {row : Dict} (member : row ∈ rows)
    (kind : Kind) : rowEvent spec kind row = some ⟨anchorOf spec row, kind, .dict row⟩ := by
  rw [rowEvent, rowAnchorId_eq keyed member, Option.map_some]

theorem enumerateRows_eq (keyed : WellKeyed spec rows) :
    enumerateRows spec rows = rows.map fun row => (anchorOf spec row, row) := by
  unfold enumerateRows
  rw [← List.filterMap_eq_map]
  apply List.filterMap_congr
  intro row member
  simp [rowAnchorId_eq keyed member]

theorem enumerated_eq {config : ParsedConfig}
    (keyed : WellKeyed spec (config.rows spec.section_)) :
    enumerated spec config = snapshot (anchorOf spec) (config.rows spec.section_) := by
  rw [enumerated, enumerateRows_eq keyed, List.map_map]
  rfl

end Step

/-- A row that keeps its diff key was anchored where the later config still has an anchor. -/
def SurvivorsAnchored (spec : RowSpec) (before after : ParsedConfig) : Prop :=
  SurvivorsFiled (diffKey spec.diffKeyField) (anchorOf spec) (before.rows spec.section_)
    (after.rows spec.section_)

theorem survivorsAnchored_of_ne {spec : RowSpec} (listed : spec ∈ sectionSpec)
    (others : spec.section_ ≠ .vlans) {before after : ParsedConfig}
    (keyedB : WellKeyed spec (before.rows spec.section_))
    (keyedA : WellKeyed spec (after.rows spec.section_)) : SurvivorsAnchored spec before after := by
  rintro row member ⟨other, inside, same⟩
  refine ⟨other, inside, ?_⟩
  rw [anchorOf_eq keyedA inside, anchorOf_eq keyedB member, anchorKeyField_eq listed others]
  exact congrArg (fun text => anchorId "xref" spec.anchorKind (safe text)) same

section Records

variable {spec : RowSpec} {before after : ParsedConfig}

private theorem mem_stepEvents (listed : spec ∈ sectionSpec)
    (keyedB : WellKeyed spec (before.rows spec.section_))
    (keyedA : WellKeyed spec (after.rows spec.section_)) (event : Event) :
    event ∈ stepEvents spec before after ↔ ∃ kind row,
      Reports spec.diffKeyField (orderSensitive spec.section_) (before.rows spec.section_)
        (after.rows spec.section_) kind row ∧ rowEvent spec kind row = some event := by
  rw [stepEvents, List.mem_filter]
  exact mem_diffToAnchorEvents_row listed keyedB.uniqueKeys keyedA.uniqueKeys event

/-- The events of a step are a journal of it. -/
theorem stepEvents_records (listed : spec ∈ sectionSpec)
    (keyedB : WellKeyed spec (before.rows spec.section_))
    (keyedA : WellKeyed spec (after.rows spec.section_)) :
    Records (diffKey spec.diffKeyField) (anchorOf spec) (before.rows spec.section_)
      (after.rows spec.section_)
      (((stepEvents spec before after).filter fun event => event.kind = .removed).map entry)
      (((stepEvents spec before after).filter fun event => event.kind ≠ .removed).map entry) where
  erased := by
    intro found
    simp only [List.mem_map, List.mem_filter, decide_eq_true_eq,
      mem_stepEvents listed keyedB keyedA]
    constructor
    · rintro ⟨event, ⟨⟨kind, row, reported, built⟩, removed⟩, rfl⟩
      have kinds : kind = .removed := by
        obtain ⟨aid, -, rfl⟩ := Option.map_eq_some_iff.mp built
        exact removed
      subst kinds
      obtain ⟨member, gone⟩ := reported
      rw [rowEvent_eq keyedB member, Option.some.injEq] at built
      subst built
      refine ⟨row, member, ?_, rfl⟩
      exact fun other inside same => gone (mem_keys.mpr ⟨other, inside, same⟩)
    · rintro ⟨row, member, gone, rfl⟩
      refine ⟨_, ⟨⟨.removed, row, ⟨member, ?_⟩, rowEvent_eq keyedB member .removed⟩, rfl⟩, rfl⟩
      intro kept
      obtain ⟨other, inside, same⟩ := mem_keys.mp kept
      exact gone other inside same
  putsNew := by
    intro row member new
    simp only [List.mem_map, List.mem_filter, decide_eq_true_eq,
      mem_stepEvents listed keyedB keyedA]
    have put : ∀ kind : Kind, kind ≠ .removed →
        entry ⟨anchorOf spec row, kind, .dict row⟩ = .put (anchorOf spec row) row := by
      intro kind kept
      rw [entry, if_neg kept]
      rfl
    by_cases known : diffKey spec.diffKeyField row ∈
        keys (diffKey spec.diffKeyField) (before.rows spec.section_)
    · obtain ⟨old, inside, same⟩ := mem_keys.mp known
      have loud : fieldChanges old row "" ≠ [] := by
        intro silent
        have equal := eq_of_fieldChanges_nil spec.section_.model old row ""
          (listSection_wellNamed _) (before.rows_conform _ old inside)
          (after.rows_conform _ row member) silent
        exact new (equal ▸ inside)
      exact ⟨_, ⟨⟨.modified, row, ⟨member, old, inside, same, loud⟩,
        rowEvent_eq keyedA member .modified⟩, by simp⟩, put .modified (by decide)⟩
    · exact ⟨_, ⟨⟨.added, row, ⟨member, known⟩, rowEvent_eq keyedA member .added⟩, by simp⟩,
        put .added (by decide)⟩
  putsOnly := by
    intro found
    simp only [List.mem_map, List.mem_filter, decide_eq_true_eq,
      mem_stepEvents listed keyedB keyedA]
    rintro ⟨event, ⟨⟨kind, row, reported, built⟩, kept⟩, rfl⟩
    have member : kind ≠ .removed → row ∈ after.rows spec.section_ := by
      intro apart
      cases kind with
      | removed => exact (apart rfl).elim
      | _ => exact reported.1
    have kinds : kind ≠ .removed := by
      obtain ⟨aid, -, rfl⟩ := Option.map_eq_some_iff.mp built
      exact kept
    rw [rowEvent_eq keyedA (member kinds), Option.some.injEq] at built
    subst built
    refine ⟨row, member kinds, ?_⟩
    rw [entry, if_neg kept]
    rfl

theorem replayStep_enumerated_iff (listed : spec ∈ sectionSpec)
    (keyedB : WellKeyed spec (before.rows spec.section_))
    (keyedA : WellKeyed spec (after.rows spec.section_)) :
    replayStep spec before after (enumerated spec before) = enumerated spec after ↔
      SurvivorsAnchored spec before after := by
  rw [enumerated_eq keyedB, enumerated_eq keyedA]
  exact replay_step_iff (stepEvents_records listed keyedB keyedA) keyedB.unique keyedA.unique

end Records

/-! ### Histories -/

@[simp] theorem replayHistory_nil (spec : RowSpec) (first : ParsedConfig) :
    replayHistory spec first [] = enumerated spec first := by
  rw [replayHistory, List.foldl_nil]

theorem replayHistory_singleton (spec : RowSpec) (first next : ParsedConfig) :
    replayHistory spec first [next] = replayStep spec first next (enumerated spec first) := by
  rw [replayHistory, List.foldl_cons, List.foldl_nil]

/-- A step that replays to the next config leaves a history that starts there. -/
theorem replayHistory_cons {spec : RowSpec} {first next : ParsedConfig}
    (agrees : replayStep spec first next (enumerated spec first) = enumerated spec next)
    (rest : List ParsedConfig) :
    replayHistory spec first (next :: rest) = replayHistory spec next rest := by
  rw [replayHistory, List.foldl_cons, agrees]
  rfl

/-- The log of a section replays to every config of a history exactly when at every step the
rows that keep their diff key were anchored where the next config still has an anchor. -/
theorem replayHistory_iff (spec : RowSpec) (listed : spec ∈ sectionSpec) (first : ParsedConfig)
    (rest : List ParsedConfig)
    (keyed : ∀ config ∈ first :: rest, WellKeyed spec (config.rows spec.section_)) :
    (∀ past, past <+: rest →
        replayHistory spec first past = enumerated spec (past.getLastD first)) ↔
      List.IsChain (SurvivorsAnchored spec) (first :: rest) := by
  induction rest generalizing first with
  | nil =>
    simp only [List.prefix_nil, forall_eq, replayHistory_nil, List.getLastD_nil,
      List.IsChain.singleton]
  | cons next rest ih =>
    have keyedFirst := keyed first List.mem_cons_self
    have keyedNext := keyed next (List.mem_cons_of_mem _ List.mem_cons_self)
    have later : ∀ config ∈ next :: rest, WellKeyed spec (config.rows spec.section_) :=
      fun config member => keyed config (List.mem_cons_of_mem _ member)
    have step := replayStep_enumerated_iff listed keyedFirst keyedNext
    rw [List.isChain_cons_cons, ← ih next later]
    constructor
    · intro agrees
      have one := agrees [next] ⟨rest, rfl⟩
      rw [replayHistory_singleton, List.getLastD_cons, List.getLastD_nil] at one
      refine ⟨step.mp one, ?_⟩
      intro past inside
      have whole := agrees (next :: past) (List.cons_prefix_cons.mpr ⟨rfl, inside⟩)
      rwa [replayHistory_cons one, List.getLastD_cons] at whole
    · rintro ⟨anchored, agrees⟩ past inside
      cases past with
      | nil => rfl
      | cons other past =>
        obtain ⟨rfl, shorter⟩ := List.cons_prefix_cons.mp inside
        rw [replayHistory_cons (step.mpr anchored), List.getLastD_cons]
        exact agrees past shorter

/-- Every section but `vlans` replays. -/
theorem replayHistory_of_ne (spec : RowSpec) (listed : spec ∈ sectionSpec)
    (others : spec.section_ ≠ .vlans) (first : ParsedConfig) (rest : List ParsedConfig)
    (keyed : ∀ config ∈ first :: rest, WellKeyed spec (config.rows spec.section_)) :
    replayHistory spec first rest = enumerated spec (rest.getLastD first) := by
  apply (replayHistory_iff spec listed first rest keyed).mpr _ rest (List.prefix_refl _)
  induction rest generalizing first with
  | nil => exact .singleton _
  | cons next rest ih =>
    rw [List.isChain_cons_cons]
    refine ⟨?_, ih next fun config member => keyed config (List.mem_cons_of_mem _ member)⟩
    exact survivorsAnchored_of_ne listed others (keyed first List.mem_cons_self)
      (keyed next (List.mem_cons_of_mem _ List.mem_cons_self))

/-- A config with one VLAN on em0 with tag 100, under the given device name. -/
def vlanConfig (vlanif : String) : ParsedConfig where
  vlans := parseVlans (.mk "pfsense" none [.mk "vlans" none [.mk "vlan" none
    [.mk "if" (some "em0") [], .mk "tag" (some "100") [], .mk "vlanif" (some vlanif) []]]])

def vlanSpec : RowSpec := ⟨.vlans, "vlan", "vlanif", "key"⟩

theorem vlanConfig_wellKeyed (vlanif : String) :
    WellKeyed vlanSpec ((vlanConfig vlanif).rows vlanSpec.section_) where
  uniqueKeys := List.nodup_singleton _
  keyPresent := by simp [vlanSpec, vlanConfig, ParsedConfig.rows, parseVlans, Element.find,
    Element.nodes, Element.tag, children, vlan, Dict.get_cons]
  uniqueAnchors := List.nodup_singleton _
  anchorPresent := by simp [vlanSpec, vlanConfig, ParsedConfig.rows, parseVlans, Element.find,
    Element.nodes, Element.tag, Element.content, children, vlan, text, Dict.get_cons,
    Val.optional]

theorem vlanConfig_replays :
    (∀ past, past <+: [vlanConfig "em0.100"] → replayHistory vlanSpec (vlanConfig "em0.100") past =
        enumerated vlanSpec (past.getLastD (vlanConfig "em0.100"))) ↔
      List.IsChain (SurvivorsAnchored vlanSpec) [vlanConfig "em0.100", vlanConfig "em0.100"] :=
  replayHistory_iff vlanSpec (by decide) _ _ fun _ member => by
    simp only [List.mem_cons, List.not_mem_nil, or_false, or_self] at member
    rw [member]
    exact vlanConfig_wellKeyed _

/-- The device of a VLAN was renamed: the row under the old anchor is never removed. -/
theorem vlan_rename_left_behind :
    (∀ config ∈ [vlanConfig "em0_vlan100", vlanConfig "em0.100"],
        WellKeyed vlanSpec (config.rows vlanSpec.section_)) ∧
      replayHistory vlanSpec (vlanConfig "em0_vlan100") [vlanConfig "em0.100"] ≠
        enumerated vlanSpec (vlanConfig "em0.100") := by
  constructor
  · intro config member
    rcases List.mem_cons.mp member with rfl | member
    · exact vlanConfig_wellKeyed _
    · rw [List.mem_singleton.mp member]
      exact vlanConfig_wellKeyed _
  · intro same
    have left := congrFun same "xref-vlan-em0_vlan100"
    revert left
    decide

end PfsenseBackups.EventReplay
