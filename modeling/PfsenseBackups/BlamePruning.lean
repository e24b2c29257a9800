import PfsenseBackups.AnchorHistory
import PfsenseBackups.Runs

/-! The event log while backups are taken in, pruned and deleted. The events of a backup go with its
row. -/

namespace PfsenseBackups.BlamePruning
open Value Keyed Config Diff DiffConfigs AnchorEvents AnchorScopes EventLog AnchorTimeline
  FieldEvents PackageEvents RowEvents AnchorHistory Runs

/-! ### What the log has to say -/

/-- An anchor that `enumerate_anchors` yields once, with its value. -/
def Once (config : ParsedConfig) (entry : String × Val) : Prop :=
  entry ∈ enumerateAnchors config ∧ ((enumerateAnchors config).map Prod.fst).count entry.1 = 1

/-- The latest entry of an anchor's history that is not a move. -/
def latestChange (log : List AnchorEvent) (anchor : String) : Option AnchorEvent :=
  ((eventRows log anchor).filter fun event => event.kind ≠ .reordered).getLast?

/-- The latest change of the anchor is no removal and carries the value. -/
def Blamed (log : List AnchorEvent) (entry : String × Val) : Prop :=
  ∃ event ∈ latestChange log entry.1, event.kind ≠ .removed ∧ event.value = valueJson entry.2

/-! ### The system -/

/-- The successful backups of an instance by time, and its rows of `anchor_event`. -/
structure State where
  history : List Backup
  log : List AnchorEvent

/-- `ON DELETE SET NULL` of `prev_backup_id`. -/
def unlinked (doomed : List Nat) (event : AnchorEvent) : AnchorEvent :=
  { event with prevBackupId := event.prevBackupId.filter (· ∉ doomed) }

/-- Rows of backups are deleted, and their events with them. -/
def State.delete (state : State) (doomed : List Nat) : State where
  history := state.history.filter fun bkp => bkp.id ∉ doomed
  log := (state.log.filter fun event => event.backupId ∉ doomed).map (unlinked doomed)

inductive Op where
  | ingest (new : Backup)
  | prune (doomed : List Nat)
  | delete (id : Nat)

section System

variable {Bytes : Type} (read : Backup → Option Bytes) (parse : Bytes → Option ParsedConfig)
  (configs : Backup → ParsedConfig)

inductive Step : State → Op → State → Prop
  | ingest {state new} (order : InOrder (state.history ++ [new]))
      (readable : load read parse new = some (configs new)) :
    Step state (.ingest new)
      ⟨state.history ++ [new],
        state.log ++ computeAndPersistDiffs read parse (state.history ++ [new]) new⟩
  | prune {state doomed} (kept : ∀ newest ∈ state.history.getLast?, newest.id ∉ doomed) :
    Step state (.prune doomed) (state.delete doomed)
  | delete {state id} (kept : ∀ newest ∈ state.history.getLast?, newest.id ≠ id) :
    Step state (.delete id) (state.delete [id])

/-- The log describes the newest backup. -/
def Complete (state : State) : Prop :=
  ∀ newest ∈ state.history.getLast?, ∀ entry, Once (configs newest) entry →
    Blamed state.log entry

/-- What the projector reports of a step: the last row with its diff key, unless it was that before;
a field of a section or a package that sprouts, or whose value is replaced by another as a whole. -/
inductive Reported (before after : ParsedConfig) : String × Val → Prop
  | row {spec row aid} (listed : spec ∈ sectionSpec)
      (named : rowAnchorId spec.anchorKind row spec.anchorKeyField = some aid)
      (last : lastBy (diffKey spec.diffKeyField) (after.rows spec.section_)
        (diffKey spec.diffKeyField row) = some row)
      (new : lastBy (diffKey spec.diffKeyField) (before.rows spec.section_)
        (diffKey spec.diffKeyField row) ≠ some row) :
    Reported before after (aid, .dict row)
  | field {spec name value} (listed : spec ∈ singletonSpec)
      (declared : name ∈ spec.section_.model.names)
      (held : fieldState spec name after = some value)
      (replaced : ∀ old ∈ fieldState spec name before,
        old ≠ value ∧ value ≠ .none ∧ nested old value = false) :
    Reported before after (targetId spec name, value)
  | package {pkg leaf value} (listed : pkg ∈ packageSingletonSpec.map Prod.snd)
      (declared : leaf ∈ (packageModel pkg).names)
      (steady : PackageSteady pkg before after)
      (held : packageState pkg leaf after = some value)
      (replaced : ∀ old ∈ packageState pkg leaf before,
        old ≠ value ∧ value ≠ .none ∧ nested old value = false) :
    Reported before after (anchorId "field" pkg leaf, value)

/-- The backups whose events are the latest changes of the newest backup's anchors stay. -/
def Spared (state : State) (doomed : List Nat) : Prop :=
  ∀ newest ∈ state.history.getLast?, ∀ entry, Once (configs newest) entry →
    ∀ event ∈ latestChange state.log entry.1, event.backupId ∉ doomed

/-- Each anchor of a new backup was there with its value before, or is reported; and no backup goes
that has the latest change of an anchor. -/
def Allowed (state : State) : Op → Prop
  | .ingest new => ∀ base ∈ state.history.getLast?, ∀ entry, Once (configs new) entry →
    Once (configs base) entry ∨ Reported (configs base) (configs new) entry
  | .prune doomed => Spared configs state doomed
  | .delete id => Spared configs state [id]

end System

/-! ### The events of a step -/

section Anchor

variable {config before after : ParsedConfig} {entry : String × Val}

theorem Once.eq (once : Once config entry) {other : String × Val}
    (member : other ∈ enumerateAnchors config) (same : other.1 = entry.1) : other = entry := by
  obtain ⟨inside, single⟩ := once
  by_contra differ
  obtain ⟨front, back, split⟩ := List.append_of_mem inside
  rw [split, List.map_append, List.map_cons, List.count_append, List.count_cons_self] at single
  have elsewhere : other ∈ front ∨ other ∈ back := by
    rw [split] at member
    exact (List.mem_append.mp member).imp_right fun later =>
      (List.mem_cons.mp later).resolve_left differ
  have counted : ∀ part : List (String × Val), other ∈ part →
      0 < (part.map Prod.fst).count entry.1 := fun part held =>
    List.count_pos_iff.mpr (same ▸ List.mem_map_of_mem held)
  rcases elsewhere with held | held
  · have := counted front held
    omega
  · have := counted back held
    omega

theorem mem_seeds {event : Event} :
    event ∈ seeds config ↔ (event.anchorId, event.value) ∈ enumerateAnchors config ∧
      event.kind = .added := by
  rw [seeds, List.mem_map]
  constructor
  · rintro ⟨entry, member, rfl⟩
    exact ⟨member, rfl⟩
  · rintro ⟨member, kind⟩
    refine ⟨_, member, ?_⟩
    rw [← kind]

/-- The events bring the anchor to a value. -/
def Arrived (events : List Event) (value : Val) : Prop :=
  (∃ event ∈ events, kindPriority event.kind ≤ 2) ∧
    ∀ event ∈ events, kindPriority event.kind ≤ 2 → event.value = value

/-- The events only move the anchor. -/
def Quiet (events : List Event) : Prop :=
  ∀ event ∈ events, event.kind = .reordered

theorem Quiet.of_empty {events : List Event} (empty : ∀ event, event ∉ events) : Quiet events :=
  fun event member => absurd member (empty event)

theorem seeds_arrived (once : Once config entry) :
    Arrived (anchored entry.1 (seeds config)) entry.2 := by
  constructor
  · refine ⟨⟨entry.1, .added, entry.2⟩, mem_anchored.mpr ⟨mem_seeds.mpr ⟨once.1, rfl⟩, rfl⟩, ?_⟩
    exact (by decide : kindPriority .added ≤ 2)
  · intro event member _
    obtain ⟨seed, same⟩ := mem_anchored.mp member
    exact congrArg Prod.snd (once.eq (mem_seeds.mp seed).1 same)

/-- The rows that a differ reports, by the last row of each diff key. -/
def LastReports (key : String) (a b : List Dict) : Kind → Dict → Prop
  | .added, row => lastBy (diffKey key) b (diffKey key row) = some row ∧
    diffKey key row ∉ keys (diffKey key) a
  | .removed, row => lastBy (diffKey key) a (diffKey key row) = some row ∧
    diffKey key row ∉ keys (diffKey key) b
  | .modified, row => lastBy (diffKey key) b (diffKey key row) = some row ∧
    ∃ old, lastBy (diffKey key) a (diffKey key row) = some old ∧ fieldChanges old row "" ≠ []
  | .reordered, row => lastBy (diffKey key) b (diffKey key row) = some row

section Rows

variable {key : String} {a b : List Dict}

theorem rowAt_of_last {row : Dict} {k : String} (last : lastBy (diffKey key) b k = some row) :
    rowAt key b k = row := by
  rw [rowAt, last, Option.getD_some]

theorem lastBy_rowAt {k : String} (member : k ∈ keys (diffKey key) b) :
    lastBy (diffKey key) b (diffKey key (rowAt key b k)) = some (rowAt key b k) := by
  obtain ⟨row, found⟩ := lastBy_isSome member
  rw [rowAt_of_last found, (lastBy_spec found).2]
  exact found

theorem keys_of_last {row : Dict} {k : String} (last : lastBy (diffKey key) b k = some row) :
    k ∈ keys (diffKey key) b := by
  obtain ⟨member, same⟩ := lastBy_spec last
  exact mem_keys.mpr ⟨row, member, same⟩

variable {spec : RowSpec} {labelFn : Dict → String} {orderSensitive : Bool} {event : Event}

theorem of_mem_rowEvents (present : ∀ row ∈ b, Dict.get row spec.diffKeyField ≠ .none)
    (member : event ∈ rowEvents spec (diffList spec.diffKeyField a b labelFn orderSensitive) b) :
    ∃ row, rowEvent spec event.kind row = some event ∧
      LastReports spec.diffKeyField a b event.kind row := by
  have kinds : ∀ kind row, rowEvent spec kind row = some event → event.kind = kind := by
    intro kind row built
    obtain ⟨aid, -, rfl⟩ := Option.map_eq_some_iff.mp built
    rfl
  simp only [rowEvents, List.mem_append, List.mem_filterMap, byDiffKey_eq spec present,
    Option.bind_eq_some_iff] at member
  rcases member with ((⟨row, listed, built⟩ | ⟨row, listed, built⟩) |
    ⟨item, listed, row, found, built⟩) | ⟨item, listed, row, found, built⟩
  · obtain ⟨k, inB, notA, rfl⟩ := mem_added.mp listed
    refine ⟨_, kinds _ _ built ▸ built, ?_⟩
    rw [kinds _ _ built]
    exact ⟨lastBy_rowAt inB, by rwa [(rowAt_spec inB).2]⟩
  · obtain ⟨k, inA, notB, rfl⟩ := mem_removed.mp listed
    refine ⟨_, kinds _ _ built ▸ built, ?_⟩
    rw [kinds _ _ built]
    exact ⟨lastBy_rowAt inA, by rwa [(rowAt_spec inA).2]⟩
  · obtain ⟨k, ⟨inB, inA⟩, loud, rfl⟩ := mem_modified.mp listed
    obtain ⟨-, rfl⟩ := lastBy_spec found
    obtain ⟨old, was⟩ := lastBy_isSome inA
    refine ⟨row, kinds _ _ built ▸ built, ?_⟩
    rw [kinds _ _ built]
    rw [changesAt, rowAt_of_last found, rowAt_of_last was] at loud
    exact ⟨found, old, was, loud⟩
  · refine ⟨row, kinds _ _ built ▸ built, ?_⟩
    rw [kinds _ _ built]
    show lastBy _ _ (diffKey spec.diffKeyField row) = some row
    rw [(lastBy_spec found).2]
    exact found

/-- A last row that is new under its diff key is added or modified. -/
theorem mem_rowEvents_of_new (present : ∀ row ∈ b, Dict.get row spec.diffKeyField ≠ .none)
    {model : Model} (wellNamed : WellNamed model) (fitsA : ∀ row ∈ a, model.Conforms row)
    (fitsB : ∀ row ∈ b, model.Conforms row) {row : Dict} {aid : String}
    (named : rowAnchorId spec.anchorKind row spec.anchorKeyField = some aid)
    (last : lastBy (diffKey spec.diffKeyField) b (diffKey spec.diffKeyField row) = some row)
    (new : lastBy (diffKey spec.diffKeyField) a (diffKey spec.diffKeyField row) ≠ some row) :
    ∃ kind, kindPriority kind ≤ 2 ∧
      (⟨aid, kind, .dict row⟩ : Event) ∈
        rowEvents spec (diffList spec.diffKeyField a b labelFn orderSensitive) b := by
  have built : ∀ kind, rowEvent spec kind row = some ⟨aid, kind, .dict row⟩ := by
    intro kind
    rw [rowEvent, named]
    rfl
  have inB := keys_of_last last
  simp only [rowEvents, List.mem_append, List.mem_filterMap, byDiffKey_eq spec present,
    Option.bind_eq_some_iff]
  by_cases inA : diffKey spec.diffKeyField row ∈ keys (diffKey spec.diffKeyField) a
  · obtain ⟨old, was⟩ := lastBy_isSome inA
    have loud : changesAt spec.diffKeyField a b (diffKey spec.diffKeyField row) ≠ [] := by
      rw [changesAt, rowAt_of_last last, rowAt_of_last was]
      intro silent
      have same := eq_of_fieldChanges_nil model old row "" wellNamed
        (fitsA old (lastBy_spec was).1) (fitsB row (lastBy_spec last).1) silent
      exact new (same ▸ was)
    refine ⟨.modified, by decide, .inl (.inr ⟨_, mem_modified.mpr ⟨_, ⟨inB, inA⟩, loud, rfl⟩, row,
      last, built .modified⟩)⟩
  · exact ⟨.added, by decide, .inl (.inl (.inl ⟨row, mem_added.mpr ⟨_, inB, inA,
      rowAt_of_last last⟩, built .added⟩))⟩

end Rows

/-! ### Where an anchor comes from -/

inductive Source (config : ParsedConfig) : String × Val → Prop
  | row {spec row aid} (listed : spec ∈ sectionSpec) (member : row ∈ config.rows spec.section_)
      (named : rowAnchorId spec.anchorKind row spec.anchorKeyField = some aid) :
    Source config (aid, .dict row)
  | field {spec name value} (listed : spec ∈ singletonSpec)
      (declared : name ∈ spec.section_.model.names)
      (held : fieldState spec name config = some value) : Source config (targetId spec name, value)
  | package {pkg leaf value} (listed : pkg ∈ packageSingletonSpec.map Prod.snd)
      (declared : leaf ∈ (packageModel pkg).names) (held : packageState pkg leaf config = some value) :
    Source config (anchorId "field" pkg leaf, value)
  | backend {row tail} : Source config (anchorId "xref" "haproxy_backend" tail, .dict row)

private theorem source_of_fields {spec : FieldSpec} (listed : spec ∈ singletonSpec)
    (member : entry ∈ ((config.model spec.section_).getD []).filterMap fun field =>
      (fieldAnchorId spec field.1).map fun aid => (aid, field.2)) : Source config entry := by
  obtain ⟨⟨name, value⟩, inDump, built⟩ := List.mem_filterMap.mp member
  cases held : config.model spec.section_ with
  | none =>
    rw [held] at inDump
    exact absurd inDump List.not_mem_nil
  | some dump =>
    rw [held] at inDump
    have fits := config.model_conforms spec.section_ dump held
    have unique : (Dict.keys dump).Nodup :=
      fits.keys ▸ (modelSection_wellNamed spec.section_).nodup
    have declared : name ∈ spec.section_.model.names :=
      fits.keys ▸ List.mem_map_of_mem (f := Prod.fst) inDump
    rw [fieldAnchorId_declared declared, Option.map_some, Option.some.injEq] at built
    rw [← built]
    refine .field listed declared ?_
    rw [fieldState, held, Option.map_some, Dict.get_of_mem unique inDump]

private theorem source_of_packages {pkg scope : String} (inSpec : (pkg, scope) ∈ packageSingletonSpec)
    {fields : Dict}
    (holds : Dict.get ((config.model .installedpackages).getD []) pkg = .dict fields)
    {leaf : String} {value : Val} (inDump : (leaf, value) ∈ fields) :
    Source config (anchorId "field" scope leaf, value) := by
  have same : ∀ entry ∈ packageSingletonSpec, entry.1 = entry.2 := by decide
  obtain rfl : pkg = scope := same _ inSpec
  have listed : pkg ∈ packageSingletonSpec.map Prod.snd :=
    List.mem_map_of_mem (f := Prod.snd) inSpec
  obtain ⟨-, -, -, declared, -⟩ := package_facts pkg listed
  have nodup := packageModel_nodup listed
  cases held : config.model .installedpackages with
  | none =>
    rw [held] at holds
    cases holds
  | some dump =>
    rw [held, Option.getD_some] at holds
    have fits : (packageModel pkg).Conforms fields := by
      rcases package_dump config held declared with absent | ⟨inner, found, fits⟩
      · rw [absent] at holds
        cases holds
      · rw [found] at holds
        cases holds
        exact fits
    refine .package listed (fits.keys ▸ List.mem_map_of_mem (f := Prod.fst) inDump) ?_
    simp only [packageState, packages, held, Option.getD_some, holds]
    rw [Dict.get_of_mem (fits.keys ▸ nodup) inDump]

theorem source_of_mem (member : entry ∈ enumerateAnchors config) : Source config entry := by
  simp only [enumerateAnchors, List.mem_append, List.mem_flatMap] at member
  rcases member with ((⟨spec, listed, inside⟩ | ⟨spec, listed, inside⟩) |
    ⟨⟨pkg, scope⟩, inSpec, inside⟩) | ⟨spec, listed, inside⟩
  · obtain ⟨found, inRows, rfl⟩ := List.mem_map.mp inside
    obtain ⟨row, inSection, built⟩ := List.mem_filterMap.mp inRows
    obtain ⟨aid, named, rfl⟩ := Option.map_eq_some_iff.mp built
    exact .row listed inSection named
  · exact source_of_fields listed inside
  · dsimp only at inside
    split at inside
    next fields holds =>
      obtain ⟨⟨leaf, value⟩, inDump, built⟩ := List.mem_filterMap.mp inside
      simp only [Option.ite_none_right_eq_some, Option.some.injEq] at built
      obtain ⟨-, rfl⟩ := built
      exact source_of_packages inSpec holds inDump
    next => exact absurd inside List.not_mem_nil
  · obtain rfl := List.mem_singleton.mp listed
    obtain ⟨row, inRows, built⟩ := List.mem_filterMap.mp inside
    obtain ⟨aid, named, rfl⟩ := Option.map_eq_some_iff.mp built
    obtain ⟨tail, -, rfl⟩ := Option.map_eq_some_iff.mp named
    exact .backend

/-! ### A step that brings an anchor to its value, or leaves it -/

theorem mem_section {spec : RowSpec} (listed : spec ∈ sectionSpec) {event : Event} :
    event ∈ diffToAnchorEvents (diffConfigs before after) after ∧
        ofScope "xref" spec.anchorKind event.anchorId = true ↔
      event ∈ rowEvents spec (diffList spec.diffKeyField (before.rows spec.section_)
        (after.rows spec.section_) (rowLabel spec.section_) (orderSensitive spec.section_))
          (after.rows spec.section_) := by
  have own := diffToAnchorEvents_rows (diffConfigs before after) after listed
  rw [diffConfigs_list, ← diffKeyField_eq listed] at own
  rw [← own, List.mem_filter]

theorem row_ofScope {spec : RowSpec} (listed : spec ∈ sectionSpec) {row : Dict} {aid : String}
    (named : rowAnchorId spec.anchorKind row spec.anchorKeyField = some aid) :
    ofScope "xref" spec.anchorKind aid = true := by
  have built : rowEvent spec .added row = some ⟨aid, .added, .dict row⟩ := by
    rw [rowEvent, named]
    rfl
  exact rowEvent_ofScope listed built

/-- A row is under an anchor exactly when it is enumerated there. -/
theorem mem_rows_iff {spec : RowSpec} (listed : spec ∈ sectionSpec) {row : Dict} {aid : String}
    (inScope : ofScope "xref" spec.anchorKind aid = true) :
    (aid, .dict row) ∈ enumerateAnchors config ↔ row ∈ config.rows spec.section_ ∧
      rowAnchorId spec.anchorKind row spec.anchorKeyField = some aid := by
  have seeded := mem_seeds_row listed config ⟨aid, .added, .dict row⟩
  rw [mem_seeds] at seeded
  constructor
  · intro member
    obtain ⟨other, inside, built⟩ := seeded.mp ⟨⟨member, rfl⟩, inScope⟩
    obtain ⟨found, named, same⟩ := Option.map_eq_some_iff.mp built
    cases same
    exact ⟨inside, named⟩
  · rintro ⟨inside, named⟩
    refine (seeded.mpr ⟨row, inside, ?_⟩).1.1
    rw [rowEvent, named]
    rfl

section Row

variable {spec : RowSpec} (listed : spec ∈ sectionSpec) {row : Dict} {aid : String}
  (named : rowAnchorId spec.anchorKind row spec.anchorKeyField = some aid)

include listed named

theorem row_of_anchored (event : Event)
    (member : event ∈ anchored aid (diffToAnchorEvents (diffConfigs before after) after)) :
    ∃ other, rowAnchorId spec.anchorKind other spec.anchorKeyField = some aid ∧
      event.value = .dict other ∧ LastReports spec.diffKeyField (before.rows spec.section_)
        (after.rows spec.section_) event.kind other := by
  obtain ⟨found, rfl⟩ := mem_anchored.mp member
  have inside := (mem_section listed).mp ⟨found, row_ofScope listed named⟩
  obtain ⟨other, built, reports⟩ := of_mem_rowEvents (diffKey_present listed after) inside
  obtain ⟨aid, named', same⟩ := Option.map_eq_some_iff.mp built
  rw [← same]
  exact ⟨other, named', rfl, by rw [← same] at reports; exact reports⟩

/-- What is added or modified under the anchor is the row that is there. -/
theorem loud_value (now : Once after (aid, .dict row)) (event : Event)
    (member : event ∈ anchored aid (diffToAnchorEvents (diffConfigs before after) after))
    (loud : kindPriority event.kind ≤ 2) : event.value = .dict row := by
  obtain ⟨other, named', value, reports⟩ := row_of_anchored listed named event member
  have inside : other ∈ after.rows spec.section_ := by
    cases kind : event.kind with
    | removed =>
      rw [kind] at loud
      exact absurd loud (by decide)
    | added =>
      rw [kind] at reports
      exact (lastBy_spec reports.1).1
    | modified =>
      rw [kind] at reports
      exact (lastBy_spec reports.1).1
    | reordered =>
      rw [kind] at loud
      exact absurd loud (by decide)
  have listedThere := (mem_rows_iff listed (row_ofScope listed named)).mpr ⟨inside, named'⟩
  rw [value]
  exact congrArg Prod.snd (now.eq listedThere rfl)

theorem row_carried (then_ : Once before (aid, .dict row)) (now : Once after (aid, .dict row)) :
    Arrived (anchored aid (diffToAnchorEvents (diffConfigs before after) after)) (.dict row) ∨
      Quiet (anchored aid (diffToAnchorEvents (diffConfigs before after) after)) := by
  have values := @loud_value before _ _ listed _ _ named now
  by_cases loud : ∃ event ∈ anchored aid (diffToAnchorEvents (diffConfigs before after) after),
      kindPriority event.kind ≤ 2
  · exact .inl ⟨loud, values⟩
  · refine .inr fun event member => ?_
    obtain ⟨other, named', -, reports⟩ := row_of_anchored listed named event member
    have low : ¬ kindPriority event.kind ≤ 2 := fun bound => loud ⟨event, member, bound⟩
    cases kind : event.kind with
    | reordered => rfl
    | removed =>
      rw [kind] at reports
      -- The row itself would be the removed one, but its diff key is still there.
      have inScope := row_ofScope listed named
      have inside := (lastBy_spec reports.1).1
      have same := then_.eq ((mem_rows_iff listed inScope).mpr ⟨inside, named'⟩) rfl
      obtain rfl : other = row := Val.dict.inj (congrArg Prod.snd same)
      have still := ((mem_rows_iff listed inScope).mp now.1).1
      exact absurd (mem_keys.mpr ⟨other, still, rfl⟩) reports.2
    | added | modified =>
      rw [kind] at low
      exact absurd (by decide) low

theorem row_reported (now : Once after (aid, .dict row))
    (last : lastBy (diffKey spec.diffKeyField) (after.rows spec.section_)
      (diffKey spec.diffKeyField row) = some row)
    (new : lastBy (diffKey spec.diffKeyField) (before.rows spec.section_)
      (diffKey spec.diffKeyField row) ≠ some row) :
    Arrived (anchored aid (diffToAnchorEvents (diffConfigs before after) after)) (.dict row) := by
  refine ⟨?_, loud_value listed named now⟩
  obtain ⟨kind, low, member⟩ := mem_rowEvents_of_new (diffKey_present listed after)
    (listSection_wellNamed spec.section_) (before.rows_conform spec.section_)
    (after.rows_conform spec.section_) named last new
  exact ⟨_, mem_anchored.mpr ⟨((mem_section listed).mpr member).1, rfl⟩, low⟩

end Row

/-- A field that is replaced as a whole is added or modified. -/
theorem arrived_of_report {events : List Event} {aid : String} {old : Option Val} {value : Val}
    (spec : ∀ event, event ∈ events ↔ fieldReport aid old (some value) = some event)
    (replaced : ∀ before ∈ old, before ≠ value ∧ value ≠ .none ∧ nested before value = false) :
    Arrived events value := by
  cases old with
  | none =>
    refine ⟨⟨_, (spec _).mpr rfl, (by decide : kindPriority .added ≤ 2)⟩, fun event member _ => ?_⟩
    obtain rfl := Option.some.inj ((spec event).mp member)
    rfl
  | some before =>
    obtain ⟨differ, filled, whole⟩ := replaced before rfl
    have report : fieldReport aid (some before) (some value) =
        some ⟨aid, changeKind before value, changeValue before value⟩ := by
      rw [fieldReport, if_neg (by simp [differ, whole])]
    have low : kindPriority (changeKind before value) ≤ 2 := by
      rw [changeKind, if_neg fun gone => filled gone.1]
      split_ifs <;> decide
    refine ⟨⟨_, (spec _).mpr report, low⟩, fun event member _ => ?_⟩
    obtain rfl := Option.some.inj (report.symm.trans ((spec event).mp member))
    rw [changeValue, if_neg fun gone => filled gone.1]

theorem quiet_of_report {events : List Event} {aid : String} {value : Val}
    (spec : ∀ event, event ∈ events ↔ fieldReport aid (some value) (some value) = some event) :
    Quiet events := by
  refine .of_empty fun event member => ?_
  have report := (spec event).mp member
  rw [fieldReport, if_pos (.inl rfl)] at report
  cases report

theorem present_of_state {pkg leaf : String} {value : Val}
    (held : packageState pkg leaf config = some value) : Dict.get (packages config) pkg ≠ .none := by
  intro absent
  rw [packageState, absent] at held
  cases held

theorem backend_ofScope (tail : String) :
    ofScope "xref" "haproxy_backend" (anchorId "xref" "haproxy_backend" tail) = true :=
  (ofScope_anchorId tail (by decide) (by decide) (by decide) (by decide)).mpr ⟨rfl, rfl⟩

theorem backend_present {tail : String} {value : Val}
    (member : (anchorId "xref" "haproxy_backend" tail, value) ∈ enumerateAnchors config) :
    ∃ dump, config.model .installedpackages = some dump := by
  by_contra absent
  have none : config.model .installedpackages = none := by
    simpa only [not_exists, ← Option.eq_none_iff_forall_ne_some] using absent
  have backends : "haproxy_backend" ∈ packageRowSpec.map PackageRowSpec.anchorKind := by decide
  have own := (seeds_assembled config).filter_hits backends
  rw [← seeds_eq] at own
  have seed : (⟨anchorId "xref" "haproxy_backend" tail, .added, value⟩ : Event) ∈ seeds config :=
    mem_seeds.mpr ⟨member, rfl⟩
  have inside : _ ∈ (seeds config).filter fun event =>
      ofScope "xref" "haproxy_backend" event.anchorId :=
    List.mem_filter.mpr ⟨seed, backend_ofScope tail⟩
  rw [own] at inside
  obtain ⟨spec, listed, rows⟩ := List.mem_flatMap.mp (List.mem_of_mem_filter inside)
  rw [none] at rows
  obtain rfl := List.mem_singleton.mp listed
  exact absurd rows List.not_mem_nil

theorem backend_quiet {tail : String} (presentB : ∃ dump, before.model .installedpackages = some dump)
    (presentA : ∃ dump, after.model .installedpackages = some dump) :
    Quiet (anchored (anchorId "xref" "haproxy_backend" tail)
      (diffToAnchorEvents (diffConfigs before after) after)) := by
  obtain ⟨pb, holdsB⟩ := presentB
  obtain ⟨pa, holdsA⟩ := presentA
  refine .of_empty fun event member => ?_
  obtain ⟨found, same⟩ := mem_anchored.mp member
  have backends : "haproxy_backend" ∈ packageRowSpec.map PackageRowSpec.anchorKind := by decide
  have own := diffToAnchorEvents_hits (diffConfigs before after) after backends
  rw [packageRowEvents_eq_nil holdsB holdsA] at own
  have inside : event ∈ (diffToAnchorEvents (diffConfigs before after) after).filter fun event =>
      ofScope "xref" "haproxy_backend" event.anchorId :=
    List.mem_filter.mpr ⟨found, by rw [same]; exact backend_ofScope tail⟩
  rw [own] at inside
  exact absurd inside List.not_mem_nil

theorem carried_told (then_ : Once before entry) (now : Once after entry) :
    Arrived (anchored entry.1 (diffToAnchorEvents (diffConfigs before after) after)) entry.2 ∨
      Quiet (anchored entry.1 (diffToAnchorEvents (diffConfigs before after) after)) := by
  have seed : (⟨entry.1, .added, entry.2⟩ : Event) ∈ seeds before := mem_seeds.mpr ⟨then_.1, rfl⟩
  cases source_of_mem now.1 with
  | row listed member named => exact row_carried listed named then_ now
  | @field spec name value listed declared held =>
    have was := (mem_field_seeds listed declared before _).mp ⟨seed, rfl⟩
    have report := mem_field_events listed declared before after
    cases old : fieldState spec name before with
    | none =>
      rw [old] at was
      cases was
    | some value =>
      rw [old] at was
      cases was
      rw [old, held] at report
      exact .inr (quiet_of_report fun event => mem_anchored.trans (report event))
  | @package pkg leaf value listed declared held =>
    have was := (mem_package_seeds listed declared before _).mp ⟨seed, rfl⟩
    cases old : packageState pkg leaf before with
    | none =>
      rw [old] at was
      cases was
    | some value =>
      rw [old] at was
      cases was
      have steady : PackageSteady pkg before after := fun _ _ =>
        iff_of_false (present_of_state old) (present_of_state held)
      have report := mem_package_events listed declared before after steady
      rw [old, held] at report
      exact .inr (quiet_of_report fun event => mem_anchored.trans (report event))
  | backend => exact .inr (backend_quiet (backend_present then_.1) (backend_present now.1))

/-- Where the condition holds, a step brings the anchor to its value, or leaves it. -/
theorem step_told (now : Once after entry)
    (told : Once before entry ∨ Reported before after entry) :
    Arrived (anchored entry.1 (diffToAnchorEvents (diffConfigs before after) after)) entry.2 ∨
      Once before entry ∧
        Quiet (anchored entry.1 (diffToAnchorEvents (diffConfigs before after) after)) := by
  rcases told with then_ | reported
  · exact (carried_told then_ now).imp_right fun quiet => ⟨then_, quiet⟩
  · refine .inl ?_
    cases reported with
    | row listed named last new => exact row_reported listed named now last new
    | field listed declared held replaced =>
      have report := mem_field_events listed declared before after
      rw [held] at report
      exact arrived_of_report (fun event => mem_anchored.trans (report event)) replaced
    | package listed declared steady held replaced =>
      have report := mem_package_events listed declared before after steady
      rw [held] at report
      exact arrived_of_report (fun event => mem_anchored.trans (report event)) replaced

end Anchor

/-! ### The rows of a history after a step -/

theorem kind_of_low {kind : Kind} (low : kindPriority kind ≤ 2) :
    kind ≠ .reordered ∧ kind ≠ .removed := by
  cases kind with
  | added | modified => exact ⟨by decide, by decide⟩
  | removed | reordered => exact absurd low (by decide)

section Stored

variable {events : List Event} (stored : Event → AnchorEvent)
  (kinds : ∀ event, (stored event).kind = event.kind)
  (values : ∀ event, (stored event).value = valueJson event.value)

include kinds

theorem Quiet.numbered (quiet : Quiet events) :
    ∀ event ∈ numberedFirst (events.map stored), event.kind = .reordered := by
  intro event found
  obtain ⟨source, inside, rfl⟩ := List.mem_map.mp (numberedFirst_spec found).1
  rw [kinds]
  exact quiet source inside

include values

theorem Arrived.numbered {value : Val} (arrived : Arrived events value) :
    ∃ event, numberedFirst (events.map stored) = some event ∧ kindPriority event.kind ≤ 2 ∧
      event.value = valueJson value := by
  obtain ⟨⟨loud, member, low⟩, same⟩ := arrived
  cases found : numberedFirst (events.map stored) with
  | none =>
    have empty := List.map_eq_nil_iff.mp (numberedFirst_eq_none.mp found)
    rw [empty] at member
    exact absurd member List.not_mem_nil
  | some event =>
    obtain ⟨inside, best⟩ := numberedFirst_spec found
    obtain ⟨source, listed, rfl⟩ := List.mem_map.mp inside
    have bound := best (stored loud) (List.mem_map_of_mem member)
    rw [kinds, kinds] at bound
    refine ⟨_, rfl, ?_, ?_⟩
    · rw [kinds]
      exact bound.trans low
    · rw [values, same source listed (bound.trans low)]

end Stored

/-- Events carry the id and the time of a backup that is there. -/
structure Dated (state : State) : Prop where
  order : InOrder state.history
  dated : ∀ event ∈ state.log, ∃ bkp ∈ state.history, event.backupId = bkp.id ∧
    event.occurredAt = bkp.startedAt

section Rows

variable {state : State} (dated : Dated state)

include dated

/-- A new backup adds one row at most to an anchor's history. -/
theorem eventRows_ingest {new : Backup} (order : InOrder (state.history ++ [new]))
    (part : List AnchorEvent)
    (own : ∀ event ∈ part, event.backupId = new.id ∧ event.occurredAt = new.startedAt)
    (anchor : String) :
    Dated ⟨state.history ++ [new], state.log ++ part⟩ ∧
      eventRows (state.log ++ part) anchor = eventRows state.log anchor ++
        (numberedFirst (part.filter fun event => event.anchorId = anchor)).toList := by
  have whole : Dated ⟨state.history ++ [new], state.log ++ part⟩ := by
    refine ⟨order, fun event member => ?_⟩
    rcases List.mem_append.mp member with old | fresh
    · obtain ⟨bkp, listed, same⟩ := dated.dated event old
      exact ⟨bkp, List.mem_append_left _ listed, same⟩
    · exact ⟨new, List.mem_append_right _ (List.mem_singleton_self new), own event fresh⟩
  have apart : ∀ bkp ∈ state.history, bkp.id ≠ new.id := by
    have ids := order.ids
    rw [List.map_append] at ids
    intro bkp member
    exact (List.nodup_append.mp ids).2.2 _ (List.mem_map_of_mem member) _
      (List.mem_singleton_self _)
  refine ⟨whole, ?_⟩
  rw [eventRows_of_dated whole.order whole.dated, eventRows_of_dated dated.order dated.dated,
    List.filterMap_append]
  congr 1
  · apply List.filterMap_congr
    intro bkp member
    have none : ((part.filter fun event => event.anchorId = anchor).filter
        fun event => event.backupId = bkp.id) = [] := by
      apply List.filter_eq_nil_iff.mpr
      intro event inside
      rw [(own event (List.mem_of_mem_filter inside)).1, decide_eq_true_eq]
      exact Ne.symm (apart bkp member)
    rw [List.filter_append, List.filter_append, none, List.append_nil]
  · have none : ((state.log.filter fun event => event.anchorId = anchor).filter
        fun event => event.backupId = new.id) = [] := by
      apply List.filter_eq_nil_iff.mpr
      intro event inside
      obtain ⟨bkp, listed, same, -⟩ := dated.dated event (List.mem_of_mem_filter inside)
      rw [same, decide_eq_true_eq]
      exact apart bkp listed
    have all : ((part.filter fun event => event.anchorId = anchor).filter
        fun event => event.backupId = new.id) =
          part.filter fun event => event.anchorId = anchor := by
      apply List.filter_eq_self.mpr
      intro event inside
      exact decide_eq_true (own event (List.mem_of_mem_filter inside)).1
    rw [List.filterMap_cons, List.filter_append, List.filter_append, none, all, List.nil_append]
    cases numberedFirst (part.filter fun event => event.anchorId = anchor) <;> rfl

end Rows

theorem numberedFirst_map {partition : List AnchorEvent} {change : AnchorEvent → AnchorEvent}
    (kinds : ∀ event, (change event).kind = event.kind) :
    numberedFirst (partition.map change) = (numberedFirst partition).map change := by
  have sorted := List.map_insertionSort (fun x y : AnchorEvent => kindPriority x.kind ≤ kindPriority y.kind)
    (fun x y : AnchorEvent => kindPriority x.kind ≤ kindPriority y.kind) change partition.reverse
    fun x _ y _ => by rw [kinds, kinds]
  rw [numberedFirst, numberedFirst, ← List.map_reverse, ← sorted, List.head?_map]

section Rows

variable {state : State} (dated : Dated state) (doomed : List Nat)

include dated

theorem Dated.delete : Dated (state.delete doomed) where
  order :=
    ⟨dated.order.increasing.filter _, dated.order.ids.sublist (List.filter_sublist.map Backup.id)⟩
  dated := by
    intro event member
    obtain ⟨source, inside, rfl⟩ := List.mem_map.mp member
    obtain ⟨listed, kept⟩ := List.mem_filter.mp inside
    obtain ⟨bkp, there, same, time⟩ := dated.dated source listed
    refine ⟨bkp, List.mem_filter.mpr ⟨there, ?_⟩, same, time⟩
    rw [← same]
    exact kept

omit dated in
theorem partition_delete {bkp : Backup} (kept : bkp.id ∉ doomed) (anchor : String) :
    (((state.delete doomed).log.filter fun event => event.anchorId = anchor).filter
        fun event => event.backupId = bkp.id) =
      ((state.log.filter fun event => event.anchorId = anchor).filter
        fun event => event.backupId = bkp.id).map (unlinked doomed) := by
  rw [State.delete, List.filter_map, List.filter_map, List.filter_filter, List.filter_filter,
    List.filter_filter]
  congr 1
  apply List.filter_congr
  intro event _
  by_cases same : event.backupId = bkp.id <;> simp [same, kept, unlinked]

/-- The rows of deleted backups go from an anchor's history. -/
theorem eventRows_delete (anchor : String) : eventRows (state.delete doomed).log anchor =
    ((eventRows state.log anchor).filter fun event => event.backupId ∉ doomed).map
      (unlinked doomed) := by
  rw [eventRows_of_dated (dated.delete doomed).order (dated.delete doomed).dated,
    eventRows_of_dated dated.order dated.dated, List.filter_filterMap, List.map_filterMap]
  rw [State.delete, List.filterMap_filter, ← State.delete]
  apply List.filterMap_congr
  intro bkp _
  by_cases gone : bkp.id ∈ doomed
  · cases found : numberedFirst ((state.log.filter fun event => event.anchorId = anchor).filter
        fun event => event.backupId = bkp.id) with
    | none => simp [gone]
    | some event =>
      have own : event.backupId = bkp.id :=
        of_decide_eq_true (List.mem_filter.mp (numberedFirst_spec found).1).2
      simp [gone, own]
  · rw [partition_delete doomed gone, @numberedFirst_map _ (unlinked doomed) fun _ => rfl]
    cases found : numberedFirst ((state.log.filter fun event => event.anchorId = anchor).filter
        fun event => event.backupId = bkp.id) with
    | none => simp
    | some event =>
      have own : event.backupId = bkp.id :=
        of_decide_eq_true (List.mem_filter.mp (numberedFirst_spec found).1).2
      simp [gone, own]

end Rows

/-! ### The invariant -/

theorem getLast?_filter {α : Type*} {items : List α} {last : α} (keep : α → Bool)
    (found : items.getLast? = some last) (kept : keep last = true) :
    (items.filter keep).getLast? = some last := by
  obtain ⟨front, rfl⟩ := List.getLast?_eq_some_iff.mp found
  rw [List.filter_append, List.filter_singleton, kept, Bool.cond_true, List.getLast?_concat]

section Invariant

variable {Bytes : Type} {read : Backup → Option Bytes} {parse : Bytes → Option ParsedConfig}
  {configs : Backup → ParsedConfig} {state next : State}

structure Inv (read : Backup → Option Bytes) (parse : Bytes → Option ParsedConfig)
    (configs : Backup → ParsedConfig) (state : State) : Prop where
  dated : Dated state
  readable : ∀ bkp ∈ state.history, load read parse bkp = some (configs bkp)
  complete : Complete configs state

theorem Inv.ingest (inv : Inv read parse configs state) {new : Backup}
    (order : InOrder (state.history ++ [new])) (readable : load read parse new = some (configs new))
    (allowed : Allowed configs state (.ingest new)) : Inv read parse configs
      ⟨state.history ++ [new],
        state.log ++ computeAndPersistDiffs read parse (state.history ++ [new]) new⟩ := by
  rw [computeAndPersistDiffs_eq order]
  have loaded : ∀ bkp ∈ state.history ++ [new], load read parse bkp = some (configs bkp) := by
    intro bkp member
    rcases List.mem_append.mp member with old | fresh
    · exact inv.readable bkp old
    · rw [List.mem_singleton.mp fresh]
      exact readable
  have rows := eventRows_ingest inv.dated order (ingestedPart read parse state.history new)
    fun event member => ingestedPart_stamp read parse member
  refine ⟨(rows "").1, loaded, fun newest last entry once => ?_⟩
  rw [List.getLast?_concat] at last
  obtain rfl := Option.some.inj last
  have told : Arrived (anchored entry.1 (eventsAfter configs state.history.getLast? new)) entry.2 ∨
      Blamed state.log entry ∧
        Quiet (anchored entry.1 (eventsAfter configs state.history.getLast? new)) := by
    cases past : state.history.getLast? with
    | none => exact .inl (seeds_arrived once)
    | some base =>
      refine (step_told once (allowed base past entry once)).imp_right fun quiet => ?_
      exact ⟨inv.complete base past entry quiet.1, quiet.2⟩
  unfold Blamed latestChange
  rw [(rows entry.1).2, partition_ingested loaded, List.filter_append]
  rcases told with arrived | ⟨blamed, quiet⟩
  · obtain ⟨event, found, low, value⟩ := arrived.numbered
      (storedFor new state.history.getLast?) (fun _ => rfl) fun _ => rfl
    have loud := kind_of_low low
    refine ⟨event, ?_, loud.2, value⟩
    rw [found, Option.toList_some, List.filter_singleton, decide_eq_true loud.1, Bool.cond_true,
      List.getLast?_concat]
    rfl
  · have silent := quiet.numbered (storedFor new state.history.getLast?) fun _ => rfl
    have none : (numberedFirst ((anchored entry.1 (eventsAfter configs state.history.getLast?
        new)).map (storedFor new state.history.getLast?))).toList.filter
          (fun event => event.kind ≠ .reordered) = [] := by
      cases found : numberedFirst ((anchored entry.1 (eventsAfter configs state.history.getLast?
          new)).map (storedFor new state.history.getLast?)) with
      | none => rfl
      | some event => simp [silent event found]
    rw [none, List.append_nil]
    exact blamed

theorem Inv.delete (inv : Inv read parse configs state) {doomed : List Nat}
    (kept : ∀ newest ∈ state.history.getLast?, newest.id ∉ doomed)
    (spared : Spared configs state doomed) : Inv read parse configs (state.delete doomed) := by
  refine ⟨inv.dated.delete doomed, fun bkp member => ?_, fun newest last entry once => ?_⟩
  · exact inv.readable bkp (List.mem_of_mem_filter member)
  · have found : state.history.getLast? = some newest := by
      cases present : state.history.getLast? with
      | none =>
        rw [State.delete, List.getLast?_eq_none_iff.mp present] at last
        cases last
      | some old =>
        have same := getLast?_filter (fun bkp => bkp.id ∉ doomed) present
          (decide_eq_true (kept old present))
        rw [← Option.mem_def.mp last]
        exact same.symm
    obtain ⟨event, latest, alive, value⟩ := inv.complete newest found entry once
    refine ⟨unlinked doomed event, ?_, alive, value⟩
    have stays := spared newest found entry once event latest
    rw [latestChange, eventRows_delete inv.dated, List.filter_map, List.getLast?_map]
    refine Option.mem_map_of_mem (unlinked doomed) ?_
    have swapped : ((eventRows state.log entry.1).filter fun event => event.backupId ∉ doomed).filter
        ((fun event => decide (event.kind ≠ .reordered)) ∘ unlinked doomed) =
          ((eventRows state.log entry.1).filter fun event => event.kind ≠ .reordered).filter
            fun event => event.backupId ∉ doomed := List.filter_comm _ _ _
    rw [swapped]
    exact getLast?_filter _ latest (decide_eq_true stays)

theorem Inv.step (inv : Inv read parse configs state) {op : Op} (allowed : Allowed configs state op)
    (taken : Step read parse configs state op next) : Inv read parse configs next := by
  cases taken with
  | ingest order readable => exact inv.ingest order readable allowed
  | prune kept => exact inv.delete kept allowed
  | delete kept =>
    refine inv.delete (fun newest found member => ?_) allowed
    exact kept newest found (List.mem_singleton.mp member)

/-- In every run of such steps the log describes the newest backup. -/
theorem blame_complete (read : Backup → Option Bytes) (parse : Bytes → Option ParsedConfig)
    (configs : Backup → ParsedConfig) {state : State}
    (reached : Reach (Step read parse configs) (Allowed configs) ⟨[], []⟩ state) :
    Complete configs state := by
  have empty : Inv read parse configs ⟨[], []⟩ :=
    { dated := ⟨⟨.nil, List.nodup_nil⟩, fun event member => absurd member List.not_mem_nil⟩
      readable := fun bkp member => absurd member List.not_mem_nil
      complete := fun newest found => nomatch found }
  have inv := reached.invariant empty fun before op after held allowed taken =>
    held.step allowed taken
  exact inv.complete

end Invariant

/-! ### Two backups, the first of which is pruned -/

def lanHosts (descr : String) : String × Val :=
  ("xref-alias-lan_hosts",
    .dict (Models.Alias.dumpWith [("name", .str "lan_hosts"), ("descr", .str descr)]))

/-- The alias is edited in the second backup. -/
def edited (bkp : Backup) : ParsedConfig :=
  .ofAlias "lan_hosts" (if bkp.id = 1 then "" else "printers")

/-- The alias stays as it is. -/
def untouched (_ : Backup) : ParsedConfig :=
  .ofAlias "lan_hosts" ""

theorem enumerate_untouched (bkp : Backup) : enumerateAnchors (untouched bkp) = [lanHosts ""] := by
  show enumerateAnchors (.ofAlias "lan_hosts" "") = _
  decide

theorem enumerate_edited : enumerateAnchors (edited ⟨2, 20⟩) = [lanHosts "printers"] := by
  decide

theorem edited_reported :
    Reported (edited ⟨1, 10⟩) (edited ⟨2, 20⟩) (lanHosts "printers") := by
  have listed : (⟨.aliases, "alias", "name", "name"⟩ : RowSpec) ∈ sectionSpec := by decide
  exact @Reported.row (edited ⟨1, 10⟩) (edited ⟨2, 20⟩) _
    (Models.Alias.dumpWith [("name", .str "lan_hosts"), ("descr", .str "printers")]) _ listed
    (by decide) (by decide) (by decide)

theorem one_two : InOrder ([⟨1, 10⟩] ++ [⟨2, 20⟩]) where
  increasing := by decide
  ids := by decide

/-- The log of two backups. -/
def twice (configs : Backup → ParsedConfig) : State :=
  ⟨[⟨1, 10⟩, ⟨2, 20⟩], ingested (fun bkp => some (configs bkp)) some [⟨1, 10⟩, ⟨2, 20⟩]⟩

theorem twice_newest {configs : Backup → ParsedConfig} {newest : Backup}
    (found : newest ∈ (twice configs).history.getLast?) : newest = ⟨2, 20⟩ :=
  (Option.some.inj found).symm

theorem twice_reached {configs : Backup → ParsedConfig}
    (told : ∀ entry, Once (configs ⟨2, 20⟩) entry →
      Once (configs ⟨1, 10⟩) entry ∨ Reported (configs ⟨1, 10⟩) (configs ⟨2, 20⟩) entry) :
    Reach (Step (fun bkp => some (configs bkp)) some configs) (Allowed configs) ⟨[], []⟩
      (twice configs) := by
  have first : Reach (Step (fun bkp => some (configs bkp)) some configs) (Allowed configs) ⟨[], []⟩
    ⟨[], []⟩ := .refl
  have seeded := first.snoc (by exact fun base found => nomatch found)
    (@Step.ingest _ _ _ configs ⟨[], []⟩ ⟨1, 10⟩ one_two.left rfl)
  have logged := seeded.snoc (by exact fun base found => Option.some.inj found ▸ told)
    (@Step.ingest _ _ _ configs _ ⟨2, 20⟩ one_two rfl)
  exact logged

/-- The first backup goes, and the edit is still in the log. -/
theorem edited_complete : ∃ state, Reach (Step (fun bkp => some (edited bkp)) some edited)
      (Allowed edited) ⟨[], []⟩ state ∧ state.history = [⟨2, 20⟩] ∧ state.log.length = 1 ∧
    Complete edited state := by
  have reached : Reach (Step (fun bkp => some (edited bkp)) some edited) (Allowed edited) ⟨[], []⟩
      (twice edited) := by
    refine twice_reached fun entry once => .inr ?_
    have member := once.1
    rw [enumerate_edited] at member
    rw [List.mem_singleton.mp member]
    exact edited_reported
  have spared : Allowed edited (twice edited) (.prune [1]) := by
    intro newest found entry once event latest
    obtain rfl := twice_newest found
    have member := once.1
    rw [enumerate_edited] at member
    rw [List.mem_singleton.mp member] at latest
    have second : (latestChange (twice edited).log (lanHosts "printers").1).all
        (fun event => event.backupId = 2) = true := by decide
    rw [Option.mem_def.mp latest] at second
    rw [of_decide_eq_true second]
    decide
  have kept : ∀ newest ∈ (twice edited).history.getLast?, newest.id ∉ [1] := by
    intro newest found
    rw [twice_newest found]
    decide
  have pruned := reached.snoc spared (Step.prune kept)
  exact ⟨_, pruned, rfl, by decide, blame_complete _ _ _ pruned⟩

/-- The seeds go with the first backup, and nothing is left in the log for the alias that the second
one holds. -/
theorem untouched_forgotten : ∃ state,
    Reach (Step (fun bkp => some (untouched bkp)) some untouched) unguarded ⟨[], []⟩ state ∧
      state.history = [⟨2, 20⟩] ∧ ¬ Complete untouched state := by
  have once : ∀ bkp, Once (untouched bkp) (lanHosts "") := by
    intro bkp
    rw [Once, enumerate_untouched]
    exact ⟨List.mem_singleton_self _, by decide⟩
  have reached : Reach (Step (fun bkp => some (untouched bkp)) some untouched) (Allowed untouched)
      ⟨[], []⟩ (twice untouched) :=
    twice_reached fun entry stays => .inl stays
  have kept : ∀ newest ∈ (twice untouched).history.getLast?, newest.id ∉ [1] := by
    intro newest found
    rw [twice_newest found]
    decide
  refine ⟨_, reached.unguard.snoc trivial (Step.prune kept), rfl, fun complete => ?_⟩
  obtain ⟨event, latest, -⟩ := complete ⟨2, 20⟩ rfl _ (once _)
  have none : latestChange ((twice untouched).delete [1]).log (lanHosts "").1 = none := by decide
  rw [none] at latest
  cases latest

end PfsenseBackups.BlamePruning
