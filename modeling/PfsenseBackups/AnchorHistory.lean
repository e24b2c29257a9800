import PfsenseBackups.AnchorTimeline
import PfsenseBackups.FieldEvents
import PfsenseBackups.PackageEvents
import PfsenseBackups.RowEvents
import Mathlib.Data.List.Chain

/-! The indexed anchor history beside the walk that it replaced. -/

namespace PfsenseBackups.AnchorHistory
open Value Keyed Config Diff DiffConfigs AnchorEvents AnchorScopes AnchorValues EventLog
  AnchorTimeline FieldEvents PackageEvents RowEvents

/-! ### An ingested log, step by step -/

/-- The events of one anchor. -/
def anchored (anchor : String) (events : List Event) : List Event :=
  events.filter fun event => event.anchorId = anchor

theorem mem_anchored {anchor : String} {events : List Event} {event : Event} :
    event ∈ anchored anchor events ↔ event ∈ events ∧ event.anchorId = anchor := by
  simp [anchored]

/-- The state of an anchor accounts for the events that a step between two configs yields. -/
def StepAccounted (anchor : String) (state : ParsedConfig → Option Val)
    (step : Option Val → Option Val → Option Val) (before after : ParsedConfig) : Prop :=
  Outcome (anchored anchor (diffToAnchorEvents (diffConfigs before after) after))
    (step (state before) (state after))

section Ingested

variable {Bytes : Type*} {read : Backup → Option Bytes} {parse : Bytes → Option ParsedConfig}
  {configs : Backup → ParsedConfig}

private theorem filter_map_stored (anchor : String) (stored : Event → AnchorEvent)
    (named : ∀ event, (stored event).anchorId = event.anchorId) (events : List Event) :
    ((events.map stored).filter fun event => event.anchorId = anchor) =
      (anchored anchor events).map stored := by
  rw [List.filter_map, anchored]
  congr 1
  apply List.filter_congr
  intro event _
  simp [named]

/-- The events that ingestion finds for a backup, after the previous one if there is one. -/
def eventsAfter (configs : Backup → ParsedConfig) (previous : Option Backup) (bkp : Backup) :
    List Event :=
  match previous with
  | none => seeds (configs bkp)
  | some base => diffToAnchorEvents (diffConfigs (configs base) (configs bkp)) (configs bkp)

/-- An event as the log stores it for a backup. -/
def storedFor (bkp : Backup) (previous : Option Backup) (event : Event) : AnchorEvent :=
  ⟨bkp.id, previous.map Backup.id, event.anchorId, bkp.startedAt, event.kind, valueJson event.value⟩

theorem partition_ingested {past rest : List Backup} {bkp : Backup}
    (readable : ∀ other ∈ past ++ bkp :: rest, load read parse other = some (configs other))
    (anchor : String) :
    ((ingestedPart read parse past bkp).filter fun event => event.anchorId = anchor) =
      (anchored anchor (eventsAfter configs past.getLast? bkp)).map
        (storedFor bkp past.getLast?) := by
  have loaded := readable bkp (by simp)
  unfold ingestedPart
  rw [loaded]
  rcases List.eq_nil_or_concat past with rfl | ⟨front, base, rfl⟩
  · have stored : seedAnchorEvents bkp (configs bkp) = (seeds (configs bkp)).map
        (storedFor bkp none) := by
      simp [seedAnchorEvents, seeds, storedFor]
    simp only [List.getLast?_nil]
    rw [stored, filter_map_stored anchor _ fun _ => rfl]
    rfl
  · have baseLoaded := readable base (by simp)
    simp only [List.concat_eq_append, List.getLast?_concat, baseLoaded]
    rw [emitAnchorEvents]
    exact filter_map_stored anchor (storedFor bkp (some base)) (fun _ => rfl) _

/-- What the index reports of an anchor follows from its states alone. -/
theorem reported_ingested {history : List Backup} (order : InOrder history)
    (readable : ∀ bkp ∈ history, load read parse bkp = some (configs bkp)) {anchor : String}
    {state : ParsedConfig → Option Val} {step : Option Val → Option Val → Option Val}
    (seeded : ∀ bkp ∈ history, Outcome (anchored anchor (seeds (configs bkp)))
      (step none (state (configs bkp))))
    (steps : List.IsChain (StepAccounted anchor state step) (history.map configs)) :
    reported (ingested read parse history) anchor =
      transitions step none (history.map fun bkp => (bkp.id, state (configs bkp))) := by
  apply reported_eq (ingested_growsBy read parse)
    (fun past bkp event member => (ingestedPart_stamp read parse member).2) order anchor
    (fun bkp => state (configs bkp))
  rintro past bkp rest rfl
  rw [partition_ingested readable]
  refine Outcome.report_eq ?_ (fun _ => rfl) fun _ => rfl
  rcases List.eq_nil_or_concat past with rfl | ⟨front, base, rfl⟩
  · exact seeded bkp (by simp)
  · rw [List.concat_eq_append, List.append_assoc, List.map_append] at steps
    simp only [List.singleton_append, List.map_cons] at steps
    rw [List.concat_eq_append, List.getLast?_concat]
    exact (List.isChain_append_cons_cons.mp steps).2.1

end Ingested

/-! ### Rows -/

/-- No two rows share a diff key, and no two share an anchor. -/
structure KeyedRows (spec : RowSpec) (rows : List Dict) : Prop where
  uniqueKeys : Unique (diffKey spec.diffKeyField) rows
  uniqueAnchors : ∀ row ∈ rows, ∀ other ∈ rows, ∀ aid,
    rowAnchorId spec.anchorKind row spec.anchorKeyField = some aid →
    rowAnchorId spec.anchorKind other spec.anchorKeyField = some aid → row = other

/-- The anchor of a row that keeps its diff key is still there in the later config. -/
def AnchorsKept (spec : RowSpec) (before after : ParsedConfig) : Prop :=
  ∀ row ∈ before.rows spec.section_, ∀ aid,
    rowAnchorId spec.anchorKind row spec.anchorKeyField = some aid →
    diffKey spec.diffKeyField row ∈ keys (diffKey spec.diffKeyField) (after.rows spec.section_) →
    ∃ heir ∈ after.rows spec.section_,
      rowAnchorId spec.anchorKind heir spec.anchorKeyField = some aid

/-- The row under an anchor. -/
def rowState (spec : RowSpec) (aid : String) (config : ParsedConfig) : Option Val :=
  ((config.rows spec.section_).find? fun row =>
    rowAnchorId spec.anchorKind row spec.anchorKeyField = some aid).map .dict

/-- A row is reported when it differs from what its anchor held before. -/
def rowStep (before after : Option Val) : Option Val :=
  if before = after then none else some (shown before after)

section Rows

variable {spec : RowSpec} {aid : String}

theorem rowState_eq_some {config : ParsedConfig}
    (keyed : KeyedRows spec (config.rows spec.section_)) {value : Val} :
    rowState spec aid config = some value ↔ ∃ row ∈ config.rows spec.section_,
      rowAnchorId spec.anchorKind row spec.anchorKeyField = some aid ∧ value = .dict row := by
  rw [rowState, Option.map_eq_some_iff]
  constructor
  · rintro ⟨row, found, rfl⟩
    have named := List.find?_some found
    exact ⟨row, List.mem_of_find?_eq_some found, by simpa using named, rfl⟩
  · rintro ⟨row, member, named, rfl⟩
    refine ⟨row, ?_, rfl⟩
    cases found : (config.rows spec.section_).find? fun row =>
        rowAnchorId spec.anchorKind row spec.anchorKeyField = some aid with
    | none =>
      have absent := List.find?_eq_none.mp found row member
      simp [named] at absent
    | some first =>
      have namedFirst := List.find?_some found
      rw [keyed.uniqueAnchors first (List.mem_of_find?_eq_some found) row member aid
        (by simpa using namedFirst) named]

theorem rowState_eq_none {config : ParsedConfig} :
    rowState spec aid config = none ↔ ∀ row ∈ config.rows spec.section_,
      rowAnchorId spec.anchorKind row spec.anchorKeyField ≠ some aid := by
  simp [rowState]

theorem rowEvent_anchored {kind : Kind} {row : Dict} {event : Event} :
    rowEvent spec kind row = some event ∧ event.anchorId = aid ↔
      rowAnchorId spec.anchorKind row spec.anchorKeyField = some aid ∧
        event = ⟨aid, kind, .dict row⟩ := by
  rw [rowEvent, Option.map_eq_some_iff]
  constructor
  · rintro ⟨⟨found, named, rfl⟩, rfl⟩
    exact ⟨named, rfl⟩
  · rintro ⟨named, rfl⟩
    exact ⟨⟨aid, named, rfl⟩, rfl⟩

variable (listed : spec ∈ sectionSpec) (inScope : ofScope "xref" spec.anchorKind aid = true)

include listed inScope

theorem mem_row_seeds (config : ParsedConfig) (event : Event) :
    event ∈ anchored aid (seeds config) ↔ ∃ row ∈ config.rows spec.section_,
      rowAnchorId spec.anchorKind row spec.anchorKeyField = some aid ∧
        event = ⟨aid, .added, .dict row⟩ := by
  have section_ := mem_seeds_row listed config event
  rw [mem_anchored]
  constructor
  · rintro ⟨member, rfl⟩
    obtain ⟨row, inside, built⟩ := section_.mp ⟨member, inScope⟩
    exact ⟨row, inside, rowEvent_anchored.mp ⟨built, rfl⟩⟩
  · rintro ⟨row, inside, named⟩
    obtain ⟨built, same⟩ := rowEvent_anchored.mpr named
    exact ⟨(section_.mpr ⟨row, inside, built⟩).1, same⟩

theorem mem_row_events {before after : ParsedConfig}
    (keyedB : KeyedRows spec (before.rows spec.section_))
    (keyedA : KeyedRows spec (after.rows spec.section_)) (event : Event) :
    event ∈ anchored aid (diffToAnchorEvents (diffConfigs before after) after) ↔
      ∃ kind row, Reports spec.diffKeyField (orderSensitive spec.section_)
          (before.rows spec.section_) (after.rows spec.section_) kind row ∧
        rowAnchorId spec.anchorKind row spec.anchorKeyField = some aid ∧
        event = ⟨aid, kind, .dict row⟩ := by
  have section_ := mem_diffToAnchorEvents_row listed keyedB.uniqueKeys keyedA.uniqueKeys event
  rw [mem_anchored]
  constructor
  · rintro ⟨member, rfl⟩
    obtain ⟨kind, row, reports, built⟩ := section_.mp ⟨member, inScope⟩
    exact ⟨kind, row, reports, rowEvent_anchored.mp ⟨built, rfl⟩⟩
  · rintro ⟨kind, row, reports, named⟩
    obtain ⟨built, same⟩ := rowEvent_anchored.mpr named
    exact ⟨(section_.mpr ⟨kind, row, reports, built⟩).1, same⟩

/-- The seed of a row's anchor is the row. -/
theorem row_seeded {config : ParsedConfig} (keyed : KeyedRows spec (config.rows spec.section_)) :
    Outcome (anchored aid (seeds config)) (rowStep none (rowState spec aid config)) := by
  have events := mem_row_seeds listed inScope config
  cases held : rowState spec aid config with
  | none =>
    intro event member
    obtain ⟨row, inside, named, -⟩ := (events event).mp member
    exact (rowState_eq_none.mp held row inside named).elim
  | some value =>
    obtain ⟨row, inside, named, rfl⟩ := (rowState_eq_some keyed).mp held
    refine ⟨⟨_, (events _).mpr ⟨row, inside, named, rfl⟩, by simp⟩, ?_⟩
    intro event member _
    obtain ⟨other, inside', named', rfl⟩ := (events event).mp member
    rw [keyed.uniqueAnchors other inside' row inside aid named' named]
    rfl

/-- A row that stays under its anchor is at most moved. -/
theorem row_kept {before after : ParsedConfig}
    (keyedB : KeyedRows spec (before.rows spec.section_))
    (keyedA : KeyedRows spec (after.rows spec.section_)) {row : Dict}
    (memberB : row ∈ before.rows spec.section_) (memberA : row ∈ after.rows spec.section_)
    (named : rowAnchorId spec.anchorKind row spec.anchorKeyField = some aid) :
    Outcome (anchored aid (diffToAnchorEvents (diffConfigs before after) after)) none := by
  intro event member
  obtain ⟨kind, other, reports, named', rfl⟩ :=
    (mem_row_events listed inScope keyedB keyedA event).mp member
  cases kind with
  | added =>
    obtain rfl := keyedA.uniqueAnchors other reports.1 row memberA aid named' named
    exact (reports.2 (mem_keys.mpr ⟨other, memberB, rfl⟩)).elim
  | removed =>
    obtain rfl := keyedB.uniqueAnchors other reports.1 row memberB aid named' named
    exact (reports.2 (mem_keys.mpr ⟨other, memberA, rfl⟩)).elim
  | modified =>
    obtain ⟨inside, old, oldInside, same, loud⟩ := reports
    obtain rfl := keyedA.uniqueAnchors other inside row memberA aid named' named
    obtain rfl := keyedB.uniqueKeys.injOn oldInside memberB same
    exact (loud (fieldChanges_self _ _)).elim
  | reordered => rfl

/-- A row that is new under its anchor is added or modified, whatever left the anchor. -/
theorem row_arrived {before after : ParsedConfig}
    (keyedB : KeyedRows spec (before.rows spec.section_))
    (keyedA : KeyedRows spec (after.rows spec.section_)) {row : Dict}
    (memberA : row ∈ after.rows spec.section_) (new : row ∉ before.rows spec.section_)
    (named : rowAnchorId spec.anchorKind row spec.anchorKeyField = some aid) :
    Outcome (anchored aid (diffToAnchorEvents (diffConfigs before after) after))
      (some (.dict row)) := by
  have events := mem_row_events listed inScope keyedB keyedA
  have loud : ∃ kind, kindPriority kind ≤ 2 ∧
      (⟨aid, kind, .dict row⟩ : Event) ∈
        anchored aid (diffToAnchorEvents (diffConfigs before after) after) := by
    by_cases known : diffKey spec.diffKeyField row ∈
        keys (diffKey spec.diffKeyField) (before.rows spec.section_)
    · obtain ⟨old, inside, same⟩ := mem_keys.mp known
      refine ⟨.modified, by decide, (events _).mpr ⟨.modified, row, ?_, named, rfl⟩⟩
      refine ⟨memberA, old, inside, same, fun silent => new ?_⟩
      rw [← eq_of_fieldChanges_nil spec.section_.model old row "" (listSection_wellNamed _)
        (before.rows_conform _ old inside) (after.rows_conform _ row memberA) silent]
      exact inside
    · exact ⟨.added, by decide, (events _).mpr ⟨.added, row, ⟨memberA, known⟩, named, rfl⟩⟩
  obtain ⟨kind, low, inside⟩ := loud
  refine ⟨⟨_, inside, ?_⟩, ?_⟩
  · rintro rfl
    exact absurd low (by decide)
  · intro event member best
    obtain ⟨kind', other, reports, named', rfl⟩ := (events event).mp member
    have bound : kindPriority kind' ≤ 2 := (best _ inside).trans low
    have later : other ∈ after.rows spec.section_ := by
      cases kind' with
      | removed => exact absurd bound (by decide)
      | _ => exact reports.1
    rw [keyedA.uniqueAnchors other later row memberA aid named' named]

/-- A row that leaves its anchor to no other row is removed. -/
theorem row_left {before after : ParsedConfig}
    (keyedB : KeyedRows spec (before.rows spec.section_))
    (keyedA : KeyedRows spec (after.rows spec.section_)) (kept : AnchorsKept spec before after)
    {row : Dict} (memberB : row ∈ before.rows spec.section_)
    (named : rowAnchorId spec.anchorKind row spec.anchorKeyField = some aid)
    (left : rowState spec aid after = none) :
    Outcome (anchored aid (diffToAnchorEvents (diffConfigs before after) after))
      (some (.dict row)) := by
  have events := mem_row_events listed inScope keyedB keyedA
  have vacant := rowState_eq_none.mp left
  have gone : diffKey spec.diffKeyField row ∉
      keys (diffKey spec.diffKeyField) (after.rows spec.section_) := by
    intro survives
    obtain ⟨heir, inside, heirNamed⟩ := kept row memberB aid named survives
    exact vacant heir inside heirNamed
  refine ⟨⟨_, (events _).mpr ⟨.removed, row, ⟨memberB, gone⟩, named, rfl⟩, by simp⟩, ?_⟩
  intro event member _
  obtain ⟨kind, other, reports, named', rfl⟩ := (events event).mp member
  cases kind with
  | removed => rw [keyedB.uniqueAnchors other reports.1 row memberB aid named' named]
  | _ => exact (vacant other reports.1 named').elim

theorem row_accounted {before after : ParsedConfig}
    (keyedB : KeyedRows spec (before.rows spec.section_))
    (keyedA : KeyedRows spec (after.rows spec.section_)) (kept : AnchorsKept spec before after) :
    StepAccounted aid (rowState spec aid) rowStep before after := by
  unfold StepAccounted
  cases now : rowState spec aid after with
  | some value =>
    obtain ⟨row, memberA, named, rfl⟩ := (rowState_eq_some keyedA).mp now
    by_cases memberB : row ∈ before.rows spec.section_
    · have same : rowState spec aid before = some (.dict row) :=
        (rowState_eq_some keyedB).mpr ⟨row, memberB, named, rfl⟩
      rw [same, rowStep, if_pos rfl]
      exact row_kept listed inScope keyedB keyedA memberB memberA named
    · have differ : rowState spec aid before ≠ some (.dict row) := by
        intro same
        obtain ⟨other, inside, -, equal⟩ := (rowState_eq_some keyedB).mp same
        cases equal
        exact memberB inside
      rw [rowStep, if_neg differ]
      exact row_arrived listed inScope keyedB keyedA memberA memberB named
  | none =>
    cases was : rowState spec aid before with
    | none =>
      intro event member
      obtain ⟨kind, row, reports, named, -⟩ :=
        (mem_row_events listed inScope keyedB keyedA event).mp member
      cases kind with
      | removed => exact (rowState_eq_none.mp was row reports.1 named).elim
      | _ => exact (rowState_eq_none.mp now row reports.1 named).elim
    | some value =>
      obtain ⟨row, memberB, named, rfl⟩ := (rowState_eq_some keyedB).mp was
      exact row_left listed inScope keyedB keyedA kept memberB named now

end Rows

/-! ### Fields -/

/-- Both states are nested models. -/
def nestedStates : Option Val → Option Val → Bool
  | some before, some after => nested before after
  | _, _ => false

/-- A field is reported when its value, or the presence of its section, differs from before; a
change inside a nested model is not. -/
def fieldStep (before after : Option Val) : Option Val :=
  if before = after ∨ nestedStates before after = true then none else some (shown before after)

theorem fieldReport_value (aid : String) (before after : Option Val) :
    (fieldReport aid before after).map Event.value = fieldStep before after := by
  unfold fieldStep
  cases before with
  | none =>
    cases after with
    | none => rfl
    | some y => by_cases absent : y = .none <;> simp [fieldReport, nestedStates, shown, absent]
  | some x =>
    cases after with
    | none => simp [fieldReport, nestedStates, shown]
    | some y =>
      simp only [fieldReport, nestedStates, Option.some.injEq]
      split
      next => rfl
      next loud =>
        simp only [Option.map_some, shown, Option.getD_some, changeValue]
        by_cases absent : y = .none
        · have present : x ≠ .none := fun gone => loud (.inl (gone.trans absent.symm))
          simp [absent, present]
        · simp [absent]

theorem fieldReport_kind {aid : String} {before after : Option Val} {event : Event}
    (found : fieldReport aid before after = some event) : event.kind ≠ .reordered := by
  unfold fieldReport at found
  split at found
  next => cases found
  next => cases found; simp
  next => cases found; simp
  next =>
    split at found
    next => cases found
    next =>
      cases found
      unfold changeKind
      split
      next => simp
      next => split <;> simp

/-- A field's anchor has the one event that its states account for. -/
theorem outcome_of_report {events : List Event} {aid : String} {before after : Option Val}
    (spec : ∀ event, event ∈ events ↔ fieldReport aid before after = some event) :
    Outcome events (fieldStep before after) := by
  rw [← fieldReport_value aid]
  cases found : fieldReport aid before after with
  | none =>
    intro event member
    rw [spec event, found] at member
    cases member
  | some event =>
    refine ⟨⟨event, (spec event).mpr found, fieldReport_kind found⟩, ?_⟩
    intro other member _
    rw [spec other, found] at member
    cases member
    rfl

/-! ### What the walk finds -/

theorem safe_fixed {tail : String} (sanitised : safe tail = tail) :
    ∀ char ∈ tail.toList, isSafe char = true := by
  intro char member
  rw [← sanitised, safe, String.toList_ofList] at member
  obtain ⟨source, -, rfl⟩ := List.mem_map.mp member
  split
  next plain => exact plain
  next => rfl

theorem safe_oneLine {tail : String} (sanitised : safe tail = tail) : '\n' ∉ tail.toList :=
  fun newline => absurd (safe_fixed sanitised _ newline) (by decide)

theorem rowScopes_listed : ∀ spec ∈ sectionSpec,
    rowScopes.lookup spec.anchorKind = some (spec.section_.name, spec.anchorKeyField) ∧
      spec.anchorKind.toList.all isWord = true ∧ spec.anchorKind ≠ "" ∧
      '.' ∉ spec.section_.name.toList := by
  decide +kernel

theorem find_listSection (section_ : ListSection) :
    (ListSection.all.find? fun other => other.name = section_.name) = some section_ := by
  cases section_ <;> decide

theorem find_modelSection (section_ : ModelSection) :
    (ModelSection.all.find? fun other => other.name = section_.name) = some section_ := by
  cases section_ <;> decide

theorem singletonPath_listed : ∀ spec ∈ singletonSpec, ∀ scope ∈ fieldScopes spec,
    singletonPath.lookup scope = some spec.section_.name ∧ dotless spec.section_.name = true ∧
      scope.toList.all isWord = true ∧ scope ≠ "" := by
  decide

theorem tag_plain : ∀ spec ∈ singletonSpec, ∀ name ∈ spec.section_.model.names,
    (fieldTarget spec name).2 ≠ "" ∧ '\n' ∉ (fieldTarget spec name).2.toList := by
  decide +kernel

section Resolver

variable (modelText : Dict → String) (config : ParsedConfig)

theorem resolve_row {spec : RowSpec} (listed : spec ∈ sectionSpec) {tail : String}
    (sanitised : safe tail = tail) (nonempty : tail ≠ "") :
    resolveAnchorValue modelText config (anchorId "xref" spec.anchorKind tail) =
      (rowState spec (anchorId "xref" spec.anchorKind tail) config).getD .none := by
  obtain ⟨scope, word, named, dotfree⟩ := rowScopes_listed spec listed
  have oneLine := safe_oneLine sanitised
  have plain := anchorKind_dashless spec listed
  have sameRow : ∀ row : Dict, anchorKeyFromRow row spec.anchorKeyField = some tail ↔
      rowAnchorId spec.anchorKind row spec.anchorKeyField =
        some (anchorId "xref" spec.anchorKind tail) := by
    intro row
    rw [rowAnchorId, Option.map_eq_some_iff]
    constructor
    · exact fun key => ⟨tail, key, rfl⟩
    · rintro ⟨key, found, same⟩
      rw [found, (anchorId_inj (by decide) (by decide) plain plain same).2.2]
  rw [resolveAnchorValue, matchAnchor_anchorId (by simp) word named nonempty oneLine]
  simp only [String.reduceEq, if_false, resolveRow, scope, sanitised, listAttr, dotfree,
    find_listSection, Option.map_some, Option.getD_some, sameRow, rowState]
  cases (config.rows spec.section_).find? fun row => decide (rowAnchorId spec.anchorKind row
    spec.anchorKeyField = some (anchorId "xref" spec.anchorKind tail)) <;> rfl

/-- The text that the walk shows for a field. -/
def fieldText (state : Option Val) : Val :=
  .optional (state.bind (stringify modelText))

theorem resolve_field {spec : FieldSpec} (listed : spec ∈ singletonSpec) {name : String}
    (declared : name ∈ spec.section_.model.names) :
    resolveAnchorValue modelText config (targetId spec name) =
      fieldText modelText (fieldState spec name config) := by
  obtain ⟨path, dotfree, word, named⟩ := singletonPath_listed spec listed _
    (fieldTarget_scope spec name)
  obtain ⟨nonempty, oneLine⟩ := tag_plain spec listed name declared
  rw [resolveAnchorValue, targetId, matchAnchor_anchorId (by simp) word named nonempty oneLine]
  simp only [String.reduceEq, if_false, if_true, resolveField, path, descendConfig,
    splitPath_of_dotless dotfree, List.foldl_nil, sectionAttr, find_modelSection, Prod.mk.eta,
    aliases_rescope spec listed name declared, fieldText, fieldState]
  cases config.model spec.section_ <;> rfl

theorem package_paths : ∀ pkg ∈ packageSingletonSpec.map Prod.snd,
    singletonPath.lookup pkg = some ("installedpackages" ++ "." ++ pkg) ∧
      pkg.toList.all isWord = true ∧ pkg ≠ "" ∧
      ∀ leaf ∈ (packageModel pkg).names, leaf ≠ "" ∧ '\n' ∉ leaf.toList ∧
        fieldAliases.lookup (pkg, leaf) = none := by
  decide +kernel

theorem resolve_package {pkg : String} (listed : pkg ∈ packageSingletonSpec.map Prod.snd)
    {leaf : String} (member : leaf ∈ (packageModel pkg).names) :
    resolveAnchorValue modelText config (anchorId "field" pkg leaf) =
      fieldText modelText (packageState pkg leaf config) := by
  obtain ⟨path, word, named, leaves⟩ := package_paths pkg listed
  obtain ⟨nonempty, oneLine, plain⟩ := leaves leaf member
  obtain ⟨-, dotfree, -, -, -⟩ := package_facts pkg listed
  have block : ModelSection.all.find? (fun other => other.name = "installedpackages") =
      some .installedpackages := by decide
  rw [resolveAnchorValue, matchAnchor_anchorId (by simp) word named nonempty oneLine]
  simp only [String.reduceEq, if_false, if_true, resolveField, path, descendConfig,
    splitPath_dot (show dotless "installedpackages" = true by decide),
    splitPath_of_dotless dotfree, List.foldl_cons, List.foldl_nil, sectionAttr, block, plain,
    Option.getD_none, fieldText, packageState, packages]
  cases config.model .installedpackages with
  | none => rfl
  | some dump => cases found : Dict.get dump pkg <;> simp [found, Val.optional]

end Resolver

/-! ### The two paths compared -/

/-- What the index makes of a walk over the anchor of a row: an anchor that the first backup
lacks is no change, and a removal shows the row that was there. -/
def indexedView (previous : Val) : List AnchorHistoryChange → List (Nat × Val)
  | [] => []
  | entry :: rest =>
    (if entry.isChange = true ∧ (previous ≠ .none ∨ entry.value ≠ .none) then
      [(entry.backupId, json (if entry.value = .none then previous else entry.value))]
    else []) ++ indexedView entry.value rest

/-- The changes that a walk marks, with the values it shows. -/
def marked (walk : List AnchorHistoryChange) : List (Nat × Val) :=
  (walk.filter fun entry => entry.isChange).map fun entry => (entry.backupId, json entry.value)

/-- The walk marks an entry, and it is not an absent anchor at the start, exactly when the state
differs from the one before. -/
theorem marks_iff {before after : Option Val} (filledBefore : before ≠ some .none)
    (filled : after ≠ some .none) {previous : Option Val}
    (joined : previous = some (before.getD .none) ∨ previous = none ∧ before = none) :
    (previous ≠ some (after.getD .none) ∧ (before.getD .none ≠ .none ∨ after.getD .none ≠ .none)) ↔
      before ≠ after := by
  cases before <;> cases after <;> grind

theorem transitions_rowStep {α : Type*} {items : List α} (backup : α → Backup)
    {state : α → Option Val} (filled : ∀ item ∈ items, state item ≠ some .none)
    {before : Option Val} (filledBefore : before ≠ some .none) {previous : Option Val}
    (joined : previous = some (before.getD .none) ∨ previous = none ∧ before = none) :
    transitions rowStep before (items.map fun item => ((backup item).id, state item)) =
      indexedView (before.getD .none)
        (walkEntries previous (items.map fun item => (backup item, (state item).getD .none))) := by
  induction items generalizing before previous with
  | nil => rfl
  | cons item rest ih =>
    have here := filled item List.mem_cons_self
    have later := ih (fun other member => filled other (List.mem_cons_of_mem _ member)) here
      (.inl rfl)
    have loud := marks_iff filledBefore here joined
    simp only [List.map_cons, transitions, walkEntries, indexedView, decide_eq_true_eq, loud, later]
    congr 1
    rw [rowStep]
    by_cases same : before = state item
    · simp [same]
    · simp [same, shown]

section Compared

variable (modelText : Dict → String) {Bytes : Type*} (read : Backup → Option Bytes)
  (parse : Bytes → Option ParsedConfig) (configs : Backup → ParsedConfig) (history : List Backup)

/-- The answers of the two paths for the anchor of a field: the index goes by its values, the
walk by their texts. -/
structure FieldTimelines (anchor : String) (state : ParsedConfig → Option Val) : Prop where
  walk : gather modelText read parse history anchor = some (walkEntries none
    (history.map fun bkp => (bkp, fieldText modelText (state (configs bkp)))))
  index : reported (ingested read parse history) anchor = transitions fieldStep none
    (history.map fun bkp => (bkp.id, state (configs bkp)))

/-- How the index relates to the walk, for each kind of anchor. -/
structure Accounted : Prop where
  rows : ∀ spec ∈ sectionSpec,
    (∀ bkp ∈ history, KeyedRows spec ((configs bkp).rows spec.section_)) →
    List.IsChain (AnchorsKept spec) (history.map configs) →
    ∀ tail, safe tail = tail → tail ≠ "" →
      ∃ walk, gather modelText read parse history (anchorId "xref" spec.anchorKind tail) = some walk ∧
        reported (ingested read parse history) (anchorId "xref" spec.anchorKind tail) =
          indexedView .none walk
  fields : ∀ spec ∈ singletonSpec, ∀ name ∈ spec.section_.model.names,
    FieldTimelines modelText read parse configs history (targetId spec name) (fieldState spec name)
  packages : ∀ pkg ∈ packageSingletonSpec.map Prod.snd,
    List.IsChain (PackageSteady pkg) (history.map configs) → ∀ leaf ∈ (packageModel pkg).names,
      FieldTimelines modelText read parse configs history (anchorId "field" pkg leaf)
        (packageState pkg leaf)
  sections : ∀ scope, reported (ingested read parse history) ("section-" ++ scope) = []

variable {modelText read parse configs history} (order : InOrder history)
  (readable : ∀ bkp ∈ history, load read parse bkp = some (configs bkp))

include order readable

theorem rows_accounted {spec : RowSpec} (listed : spec ∈ sectionSpec)
    (keyed : ∀ bkp ∈ history, KeyedRows spec ((configs bkp).rows spec.section_))
    (kept : List.IsChain (AnchorsKept spec) (history.map configs)) {tail : String}
    (sanitised : safe tail = tail) (nonempty : tail ≠ "") :
    ∃ walk, gather modelText read parse history (anchorId "xref" spec.anchorKind tail) = some walk ∧
      reported (ingested read parse history) (anchorId "xref" spec.anchorKind tail) =
        indexedView .none walk := by
  have plain := anchorKind_dashless spec listed
  have inScope : ofScope "xref" spec.anchorKind (anchorId "xref" spec.anchorKind tail) = true :=
    (ofScope_anchorId tail (by decide) (by decide) plain plain).mpr ⟨rfl, rfl⟩
  have allKeyed : ∀ config ∈ history.map configs, KeyedRows spec (config.rows spec.section_) := by
    intro config member
    obtain ⟨bkp, inside, rfl⟩ := List.mem_map.mp member
    exact keyed bkp inside
  refine ⟨_, gather_eq order readable _, ?_⟩
  rw [reported_ingested order readable
    (fun bkp member => row_seeded listed inScope (keyed bkp member))
    (kept.imp_of_mem_imp fun a b memberA memberB step =>
      row_accounted listed inScope (allKeyed a memberA) (allKeyed b memberB) step)]
  simp only [resolve_row modelText _ listed sanitised nonempty]
  exact transitions_rowStep id (fun bkp _ => by
    intro absent
    obtain ⟨row, -, same⟩ := Option.map_eq_some_iff.mp absent
    cases same) (by simp) (.inr ⟨rfl, rfl⟩)

theorem fields_accounted {anchor : String} {state : ParsedConfig → Option Val}
    (found : ∀ config, resolveAnchorValue modelText config anchor =
      fieldText modelText (state config))
    (seeded : ∀ config, Outcome (anchored anchor (seeds config)) (fieldStep none (state config)))
    (steps : List.IsChain (StepAccounted anchor state fieldStep) (history.map configs)) :
    FieldTimelines modelText read parse configs history anchor state where
  walk := by
    rw [gather_eq order readable]
    simp only [found]
  index := reported_ingested order readable (fun bkp _ => seeded (configs bkp)) steps

theorem section_unlogged (scope : String) :
    reported (ingested read parse history) ("section-" ++ scope) = [] := by
  have elsewhere : ∀ {rows fields packageFields packageRows},
      Assembled rows fields packageFields packageRows →
      anchored ("section-" ++ scope) (assemble rows fields packageFields packageRows) = [] := by
    intro rows fields packageFields packageRows parts
    apply List.filter_eq_nil_iff.mpr
    intro event member
    obtain ⟨space, known, other, -, tail, spelled⟩ := parts.space_of_mem member
    rw [decide_eq_true_eq, spelled]
    intro same
    have split : space ++ "-" ++ (other ++ "-" ++ tail) = "section" ++ "-" ++ scope := by
      rw [← show "section-" ++ scope = "section" ++ "-" ++ scope from rfl, ← same, anchorId]
      simp only [String.append_assoc]
    simp only [List.mem_cons, List.not_mem_nil, or_false] at known
    rcases known with rfl | rfl
    · exact absurd (dash_split (by decide) (by decide) split).1 (by decide)
    · exact absurd (dash_split (by decide) (by decide) split).1 (by decide)
  have silent : ∀ items before, transitions (fun _ _ => none) before items = [] := by
    intro items
    induction items with
    | nil => exact fun _ => rfl
    | cons item rest ih => exact fun _ => ih _
  have empty : Outcome [] none := fun _ member => absurd member List.not_mem_nil
  have logged := @reported_ingested _ read parse configs history order readable
    ("section-" ++ scope) (fun _ => none) (fun _ _ => none)
  rw [logged, silent]
  · intro bkp _
    rw [seeds_eq, elsewhere (seeds_assembled _)]
    exact empty
  · apply List.isChain_iff_forall_rel_of_append_cons_cons.mpr
    intro a b _ _ _
    rw [StepAccounted, diffToAnchorEvents_eq, elsewhere (diffToAnchorEvents_assembled _ _)]
    exact empty

/-- The index follows the walk for the anchors of rows, and the values behind the walk's texts
for the anchors of fields. -/
theorem anchorHistory_accounted : Accounted modelText read parse configs history where
  rows _ listed keyed kept _ sanitised nonempty :=
    rows_accounted order readable listed keyed kept sanitised nonempty
  fields spec listed name declared := by
    apply fields_accounted order readable fun config => resolve_field modelText config listed declared
    · intro config
      exact outcome_of_report fun event => mem_anchored.trans
        (mem_field_seeds listed declared config event)
    · apply List.isChain_iff_forall_rel_of_append_cons_cons.mpr
      intro a b _ _ _
      exact outcome_of_report fun event => mem_anchored.trans
        (mem_field_events listed declared a b event)
  packages pkg listed steady leaf member := by
    apply fields_accounted order readable fun config => resolve_package modelText config listed member
    · intro config
      exact outcome_of_report fun event => mem_anchored.trans
        (mem_package_seeds listed member config event)
    · exact steady.imp fun a b step => outcome_of_report fun event => mem_anchored.trans
        (mem_package_events listed member a b step event)
  sections := section_unlogged order readable

end Compared

/-- Two backups: a config with one alias, and an empty one. -/
def aliasDropped : List Backup := [⟨1, 10⟩, ⟨2, 20⟩]

def aliasConfigs (bkp : Backup) : ParsedConfig :=
  if bkp.id = 1 then .ofAlias "lan_hosts" "" else {}

/-- Every backup is readable. -/
def readAlias (bkp : Backup) : Option ParsedConfig :=
  some (aliasConfigs bkp)

theorem aliasDropped_inOrder : InOrder aliasDropped where
  increasing := by decide
  ids := by decide

theorem aliasDropped_accounted :
    Accounted (fun _ => "") readAlias some aliasConfigs aliasDropped :=
  anchorHistory_accounted aliasDropped_inOrder fun _ _ => rfl

/-- The index shows the dropped alias where the walk shows nothing, and does not report the
anchor of an alias that never was, where the walk marks the first backup. -/
theorem aliasDropped_differs :
    InOrder aliasDropped ∧ (∀ bkp ∈ aliasDropped, load readAlias some bkp = some (aliasConfigs bkp)) ∧
      (∃ walk, gather (fun _ => "") readAlias some aliasDropped "xref-alias-lan_hosts" = some walk ∧
        reported (ingested readAlias some aliasDropped) "xref-alias-lan_hosts" ≠ marked walk) ∧
      ∃ walk, gather (fun _ => "") readAlias some aliasDropped "xref-alias-dmz_hosts" = some walk ∧
        (reported (ingested readAlias some aliasDropped) "xref-alias-dmz_hosts").map Prod.fst ≠
          (marked walk).map Prod.fst :=
  ⟨aliasDropped_inOrder, fun _ _ => rfl, ⟨_, rfl, by decide⟩, ⟨_, rfl, by decide⟩⟩

end PfsenseBackups.AnchorHistory
