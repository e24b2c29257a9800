import PfsenseBackups.Notifications

/-! The scope of a notification row, as its four readers see it: the terminal notices, the notices
of a change, the staleness alerts and the `/start` pings of Healthchecks. -/

namespace PfsenseBackups.NotificationScopes
open Tables Notifications

/-! ### `ping_starts` -/

/-- A `/start` ping. -/
structure StartPing where
  hook : Notification
  message : String

/-- The message of all pings of a run. -/
def startMessage (hostname now : String) : String :=
  "🚀 Backup run started" ++ (if hostname = "" then "" else "\nHost: " ++ hostname) ++
    "\nTimestamp: " ++ now

/-- The scope test of the loop: of a sweep one enabled instance in scope is enough. -/
def starts (enabledIds : List Int) (instanceId : Option Int) (hook : Notification) : Bool :=
  match hook.instanceIds with
  | .unset => true
  | .broken => false
  | .ids ids =>
    match instanceId with
    | none => ids.any enabledIds.contains
    | some id => ids.contains id

def startRows (notifications : Table Notification Notification.id) : List Notification :=
  notifications.rows.filter fun hook => hook.enabled && hook.kind = .healthchecks

/-- `ping_starts`. -/
def pingStarts (sendHealthchecks : StartPing → Except String Unit)
    (notifications : Table Notification Notification.id) (enabledIds : List Int)
    (instanceId : Option Int) (message : String) : GuardedLoops.Outcome StartPing Empty String :=
  GuardedLoops.loop
    (fun hook => .ok (if starts enabledIds instanceId hook then some ⟨hook, message⟩ else none))
    sendHealthchecks (startRows notifications)

/-- Every row that passes the test is pinged, whatever comes of the pings before. -/
theorem pingStarts_attempts (sendHealthchecks : StartPing → Except String Unit)
    (notifications : Table Notification Notification.id) (enabledIds : List Int)
    (instanceId : Option Int) (message : String) :
    (pingStarts sendHealthchecks notifications enabledIds instanceId message).attempts =
      ((startRows notifications).filter (starts enabledIds instanceId)).map
        fun hook => ⟨hook, message⟩ := by
  rw [pingStarts, GuardedLoops.attempts_of_raised
    (GuardedLoops.raised_eq_none.mpr fun _ _ => ⟨_, rfl⟩)]
  induction startRows notifications with
  | nil => rfl
  | cons hook rows ih =>
    rw [List.filterMap_cons, List.filter_cons]
    by_cases started : starts enabledIds instanceId hook = true
    · simp [GuardedLoops.jobOf, started, ih]
    · simp [GuardedLoops.jobOf, started, ih]

/-! ### One scope -/

/-- What the column is for: all instances where there is no list or an empty one, and otherwise the
listed ones; a text that is no list has none. -/
def Intended (column : ScopeColumn) (instanceId : Int) : Prop :=
  match column with
  | .unset => True
  | .broken => False
  | .ids ids => ids = [] ∨ instanceId ∈ ids

/-- `send` counts an instance of a run in the scope of a row. -/
def InSend (hook : Notification) (instances : List (Int × String)) (run : RunOutcome)
    (name : String) : Prop :=
  ∃ scope, resolveScope hook run.failedInstances run.succeededInstances instances run.isSuccess
    run.details = some scope ∧ name ∈ scope.failed ++ scope.ok

/-- The four readers of the column agree on every instance, and on what it is for. -/
structure ScopesAgree (hook : Notification) : Prop where
  sent : ∀ instances : List (Int × String), (instances.map Prod.snd).Nodup →
    ∀ id name, (id, name) ∈ instances → ∀ run : RunOutcome,
      name ∈ run.failedInstances ++ run.succeededInstances →
        (InSend hook instances run name ↔ Intended hook.instanceIds id)
  changed : ∀ instances : List (Int × String), (instances.map Prod.snd).Nodup →
    ∀ id name, (id, name) ∈ instances → ∀ summary,
      ((changeNotice instances name summary hook).isSome ↔ Intended hook.instanceIds id)
  stale : ∀ id name detail isRecovery,
    ((staleNotice id name detail isRecovery hook).isSome ↔ Intended hook.instanceIds id)
  pinged : ∀ id enabledIds, (starts enabledIds (some id) hook ↔ Intended hook.instanceIds id)
  swept : ∀ enabledIds, enabledIds ≠ [] →
    (starts enabledIds none hook ↔ ∃ id ∈ enabledIds, Intended hook.instanceIds id)

theorem nameToId_of_mem {instances : List (Int × String)} (unique : (instances.map Prod.snd).Nodup)
    {id : Int} {name : String} (member : (id, name) ∈ instances) :
    nameToId instances name = some id := by
  rw [nameToId]
  obtain ⟨found, spec⟩ : ∃ found, instances.reverse.find? (fun inst => inst.2 = name) =
      some found := by
    rw [← Option.isSome_iff_exists, List.find?_isSome]
    exact ⟨(id, name), by simpa using member, by simp⟩
  have named : found.2 = name := by simpa using List.find?_some spec
  have inside : found ∈ instances := by simpa using List.mem_of_find?_eq_some spec
  have same : found = (id, name) := List.inj_on_of_nodup_map unique inside member named
  rw [spec, same, Option.map_some]

/-- The terminal notices resolve the column as it is meant. -/
theorem inSend_iff {hook : Notification} {instances : List (Int × String)}
    (unique : (instances.map Prod.snd).Nodup) {id : Int} {name : String}
    (member : (id, name) ∈ instances) {run : RunOutcome}
    (ran : name ∈ run.failedInstances ++ run.succeededInstances) :
    InSend hook instances run name ↔ Intended hook.instanceIds id := by
  have known := nameToId_of_mem unique member
  have within (allowed : List Int) (names : List String) :
      name ∈ inScope instances allowed names ↔ name ∈ names ∧ id ∈ allowed := by
    simp [inScope, known]
  unfold InSend resolveScope Intended
  cases hook.instanceIds with
  | unset => simpa using ran
  | broken => simp
  | ids allowed =>
    by_cases empty : allowed = []
    · simpa [empty] using ran
    · simp only [empty, ↓reduceIte, false_or]
      constructor
      · rintro ⟨scope, found, counted⟩
        by_cases none : inScope instances allowed run.failedInstances = [] ∧
            inScope instances allowed run.succeededInstances = []
        · rw [if_pos none] at found
          cases found
        · rw [if_neg none, Option.some.injEq] at found
          subst found
          rw [List.mem_append, within, within] at counted
          exact counted.elim And.right And.right
      · intro listed
        have counted : name ∈ inScope instances allowed run.failedInstances ++
            inScope instances allowed run.succeededInstances := by
          rw [List.mem_append, within, within]
          exact (List.mem_append.mp ran).imp (⟨·, listed⟩) (⟨·, listed⟩)
        have some : ¬(inScope instances allowed run.failedInstances = [] ∧
            inScope instances allowed run.succeededInstances = []) := by
          rintro ⟨first, second⟩
          rw [first, second] at counted
          cases counted
        rw [if_neg some]
        exact ⟨_, rfl, counted⟩

/-- The other readers agree with each other, and take an empty list as it stands. -/
theorem covers_iff (hook : Notification) (id : Int) :
    covers hook (some id) = true ↔ Intended hook.instanceIds id ∧ hook.instanceIds ≠ .ids [] := by
  unfold covers Intended
  cases hook.instanceIds with
  | unset => simp
  | broken => simp
  | ids ids =>
    by_cases empty : ids = []
    · simp [empty]
    · simp [empty]

theorem starts_some (enabledIds : List Int) (id : Int) (hook : Notification) :
    starts enabledIds (some id) hook = covers hook (some id) := by
  unfold starts covers
  cases hook.instanceIds with
  | unset => rfl
  | broken => rfl
  | ids ids => rfl

theorem starts_none_iff {enabledIds : List Int} (filled : enabledIds ≠ []) (hook : Notification) :
    starts enabledIds none hook = true ↔ ∃ id ∈ enabledIds, covers hook (some id) = true := by
  unfold starts covers
  cases hook.instanceIds with
  | unset => simpa using List.exists_mem_of_ne_nil enabledIds filled
  | broken => simp
  | ids ids =>
    simp only [List.any_eq_true, List.contains_iff_mem, Option.any_some]
    exact exists_congr fun id => and_comm

theorem changeNotice_isSome (instances : List (Int × String)) (name : String)
    (summary : ChangeSummary) (hook : Notification) :
    (changeNotice instances name summary hook).isSome = covers hook (nameToId instances name) := by
  unfold changeNotice
  split
  next told => simp [told]
  next untold => simpa using untold

theorem staleNotice_isSome (id : Int) (name detail : String) (isRecovery : Bool)
    (hook : Notification) :
    (staleNotice id name detail isRecovery hook).isSome = covers hook (some id) := by
  unfold staleNotice
  split
  next told => simp [told]
  next untold => simpa using untold

/-- The readers of a column agree exactly if it does not hold an empty list, which the terminal
notices take for all instances and the others for none. -/
theorem scopesAgree_iff (hook : Notification) :
    ScopesAgree hook ↔ hook.instanceIds ≠ .ids [] := by
  constructor
  · intro agree empty
    have intended : Intended hook.instanceIds 1 := by
      rw [empty]
      exact .inl rfl
    have told := (agree.stale 1 "fw" "" false).mpr intended
    rw [staleNotice_isSome, covers_iff] at told
    exact told.2 empty
  · intro filled
    have same (id : Int) : covers hook (some id) = true ↔ Intended hook.instanceIds id := by
      rw [covers_iff]
      exact and_iff_left filled
    refine ⟨fun instances unique id name member run ran => inSend_iff unique member ran, ?_, ?_,
      ?_, ?_⟩
    · intro instances unique id name member summary
      rw [changeNotice_isSome, nameToId_of_mem unique member]
      exact same id
    · intro id name detail isRecovery
      rw [staleNotice_isSome]
      exact same id
    · intro id enabledIds
      rw [starts_some]
      exact same id
    · intro enabledIds some
      rw [starts_none_iff some]
      exact exists_congr fun id => and_congr_right fun _ => same id

/-- A row with an empty list hears that its instance has failed, but not that it has gone stale. -/
def emptyScope : Notification :=
  { hookOf 1 "pager" defaultFormat with instanceIds := .ids [] }

theorem emptyScope_disagrees : ¬ ScopesAgree emptyScope ∧
    InSend emptyScope [(1, "fw")] ⟨false, "1 of 1 failed", ["fw"], [], none⟩ "fw" ∧
    staleNotice 1 "fw" "no backup for 3 days" false emptyScope = none ∧
    changeNotice [(1, "fw")] "fw" ⟨1, 0, 0, []⟩ emptyScope = none ∧
    starts [1] (some 1) emptyScope = false ∧ starts [1] none emptyScope = false := by
  refine ⟨fun agree => ?_, ⟨_, rfl, by decide⟩, rfl, rfl, rfl, rfl⟩
  have told := (agree.pinged 1 [1]).mpr (.inl rfl)
  cases told

end PfsenseBackups.NotificationScopes
