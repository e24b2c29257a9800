import PfsenseBackups.GuardedLoops
import PfsenseBackups.StrFormat
import PfsenseBackups.Tables

/-! The notifier's three loops over the enabled rows: the terminal notices of a run, the notices of
a changed configuration and the staleness alerts. -/

namespace PfsenseBackups.Notifications
open StrFormat Tables

inductive NotificationKind where
  | discord
  | homeAssistant
  | ntfy
  | healthchecks
  | webhook
  deriving DecidableEq

inductive NotificationTrigger where
  | success
  | failure
  | always
  | change
  | stale
  deriving DecidableEq

/-- The column `instance_ids_json`, as `set(json.loads(…))` reads it. -/
inductive ScopeColumn where
  /-- No text, or an empty one. -/
  | unset
  /-- The text raises a `TypeError` or a `ValueError`. -/
  | broken
  | ids (ids : List Int)

structure Notification where
  id : Nat
  name : String
  kind : NotificationKind
  trigger : NotificationTrigger
  enabled : Bool
  messageFormat : String
  includeInstanceDetails : Bool
  instanceIds : ScopeColumn
  -- Only the delivery reads the others.
  url : String
  timeoutSeconds : Int
  headersJson : Option String
  payloadTemplateJson : Option String
  configJson : Option String

/-- The default of `message_format`. -/
def defaultFormat : String :=
  "{status}: pfSense backup completed. {details}"

structure ChangeSummary where
  added : Nat
  removed : Nat
  modified : Nat
  labels : List String

def ChangeSummary.isEmpty (summary : ChangeSummary) : Bool :=
  summary.added = 0 && summary.removed = 0 && summary.modified = 0

def ChangeSummary.asLine (summary : ChangeSummary) : String :=
  "Changes: +" ++ toString summary.added ++ " / -" ++ toString summary.removed ++ " / ~" ++
    toString summary.modified ++
    if summary.labels = [] then "" else " — " ++ "; ".intercalate summary.labels

/-- A call of `_dispatch`. -/
structure Attempt where
  hook : Notification
  message : String
  isSuccess : Bool
  failedInstances : List String
  succeededInstances : List String
  changes : Option ChangeSummary

structure Notifier (Value : Type) where
  objects : Objects Value
  hostname : String
  /-- The time at which the message of a row is built. -/
  now : Notification → String
  /-- What comes of a delivery: headers, templates and targets may each make it raise. -/
  dispatch : Attempt → Except String Unit

/-- What a row in scope is to be told. -/
structure Notice where
  status : String
  details : String
  isSuccess : Bool
  failedInstances : List String
  succeededInstances : List String
  changes : Option ChangeSummary

/-! ### Messages -/

/-- The arguments of a message format. -/
def Notice.texts (notice : Notice) : List (String × String) :=
  [("status", notice.status), ("details", notice.details)]

section Notifier

variable {Value : Type} (self : Notifier Value)

/-- `_format_message` -/
def Notifier.formatMessage (hook : Notification) (notice : Notice) :
    Except FormatError String :=
  let succeeded :=
    if hook.includeInstanceDetails && !notice.succeededInstances.isEmpty then
      "\nSucceeded: " ++ ", ".intercalate notice.succeededInstances
    else ""
  let failed :=
    if hook.includeInstanceDetails && !notice.failedInstances.isEmpty then
      "\nFailed: " ++ ", ".intercalate notice.failedInstances
    else ""
  let host := if self.hostname = "" then "" else "\nHost: " ++ self.hostname
  (format self.objects (textArguments self.objects notice.texts) hook.messageFormat).map
    fun filled => filled ++ succeeded ++ failed ++ "\nTimestamp: " ++ self.now hook ++ host

/-- The line about the changes, with its line break. -/
def changesLine : Option ChangeSummary → String
  | none => ""
  | some summary => "\n" ++ summary.asLine

/-- The body of the three loops, up to the guarded call: `notices` says what a row is to be told. -/
def Notifier.prepare (notices : Notification → Option Notice) (hook : Notification) :
    Except FormatError (Option Attempt) :=
  match notices hook with
  | none => .ok none
  | some notice =>
    (self.formatMessage hook notice).map fun message =>
      some
        { hook
          message := message ++ changesLine notice.changes
          isSuccess := notice.isSuccess
          failedInstances := notice.failedInstances
          succeededInstances := notice.succeededInstances
          changes := notice.changes }

abbrev Outcome :=
  GuardedLoops.Outcome Attempt FormatError String

def Notifier.notify (notices : Notification → Option Notice) (rows : List Notification) : Outcome :=
  GuardedLoops.loop (self.prepare notices) self.dispatch rows

/-! ### `send` -/

structure Scope where
  effectiveSuccess : Bool
  failed : List String
  ok : List String
  details : String

/-- `_name_to_id_map`; of two rows with one name, the later one counts. -/
def nameToId (instances : List (Int × String)) (name : String) : Option Int :=
  (instances.reverse.find? fun inst => inst.2 = name).map Prod.fst

/-- The names in scope. -/
def inScope (instances : List (Int × String)) (allowed : List Int) (names : List String) :
    List String :=
  names.filter fun name => (nameToId instances name).any allowed.contains

/-- `_resolve_scope` -/
def resolveScope (hook : Notification) (failed succeeded : List String)
    (instances : List (Int × String)) (aggregateIsSuccess : Bool) (aggregateDetails : String) :
    Option Scope :=
  match hook.instanceIds with
  | .unset => some ⟨aggregateIsSuccess, failed, succeeded, aggregateDetails⟩
  | .broken => none
  | .ids allowed =>
    if allowed = [] then some ⟨aggregateIsSuccess, failed, succeeded, aggregateDetails⟩
    else
      let failedInScope := inScope instances allowed failed
      let okInScope := inScope instances allowed succeeded
      if failedInScope = [] ∧ okInScope = [] then none
      else
        let total := failedInScope.length + okInScope.length
        let details :=
          if failedInScope = [] then
            "All " ++ toString total ++ " scoped instance(s) backed up successfully"
          else
            "Scoped backup failures (" ++ toString failedInScope.length ++ "/" ++
              toString total ++ " failed)"
        some ⟨failedInScope.isEmpty, failedInScope, okInScope, details⟩

/-- `_should_send` -/
def shouldSend (trigger : NotificationTrigger) (isSuccess hasChanges : Bool) : Bool :=
  match trigger with
  | .always => true
  | .change => isSuccess && hasChanges
  | .stale => false
  | .success => isSuccess
  | .failure => !isSuccess

/-- How a backup run ended. -/
structure RunOutcome where
  isSuccess : Bool
  details : String
  failedInstances : List String
  succeededInstances : List String
  changeSummary : Option ChangeSummary

/-- The summary, if there is one that says something. -/
def RunOutcome.changes (run : RunOutcome) : Option ChangeSummary :=
  run.changeSummary.filter (!·.isEmpty)

/-- What `send` tells a row. -/
def sendNotice (instances : List (Int × String)) (run : RunOutcome) (hook : Notification) :
    Option Notice :=
  match resolveScope hook run.failedInstances run.succeededInstances instances run.isSuccess
    run.details with
  | none => none
  | some scope =>
    if shouldSend hook.trigger scope.effectiveSuccess run.changes.isSome then
      some
        { status :=
            if hook.trigger = .change then "CHANGED"
            else if scope.effectiveSuccess then "SUCCESS"
            else "FAILURE"
          details := scope.details
          isSuccess := scope.effectiveSuccess
          failedInstances := scope.failed
          succeededInstances := scope.ok
          changes := run.changes }
    else none

def sendRows (notifications : Table Notification Notification.id) : List Notification :=
  notifications.rows.filter Notification.enabled

def Notifier.send (notifications : Table Notification Notification.id)
    (instances : List (Int × String)) (run : RunOutcome) : Outcome :=
  self.notify (sendNotice instances run) (sendRows notifications)

/-! ### `send_change_only` and `send_stale` -/

/-- The test of the two loops, which takes an empty list of ids as it stands. -/
def covers (hook : Notification) (instanceId : Option Int) : Bool :=
  match hook.instanceIds with
  | .unset => true
  | .broken => false
  | .ids ids => instanceId.any ids.contains

/-- What `send_change_only` tells a row. -/
def changeNotice (instances : List (Int × String)) (instanceName : String)
    (summary : ChangeSummary) (hook : Notification) : Option Notice :=
  if covers hook (nameToId instances instanceName) then
    some
      { status := "CHANGED"
        details := "Config changed for " ++ instanceName
        isSuccess := true
        failedInstances := []
        succeededInstances := [instanceName]
        changes := some summary }
  else none

def changeRows (notifications : Table Notification Notification.id) (summary : ChangeSummary) :
    List Notification :=
  if summary.isEmpty then []
  else notifications.rows.filter fun hook => hook.enabled && hook.trigger = .change

def Notifier.sendChangeOnly (notifications : Table Notification Notification.id)
    (instances : List (Int × String)) (instanceName : String) (summary : ChangeSummary) : Outcome :=
  self.notify (changeNotice instances instanceName summary) (changeRows notifications summary)

/-- What `send_stale` tells a row. -/
def staleNotice (instanceId : Int) (instanceName detail : String) (isRecovery : Bool)
    (hook : Notification) : Option Notice :=
  if covers hook (some instanceId) then
    some
      { status := if isRecovery then "RECOVERED" else "STALE"
        details := detail
        isSuccess := isRecovery
        failedInstances := if isRecovery then [] else [instanceName]
        succeededInstances := if isRecovery then [instanceName] else []
        changes := none }
  else none

def staleRows (notifications : Table Notification Notification.id) : List Notification :=
  notifications.rows.filter fun hook => hook.enabled &&
    (hook.trigger = .stale || hook.trigger = .always) && hook.kind ≠ .healthchecks

def Notifier.sendStale (notifications : Table Notification Notification.id) (instanceId : Int)
    (instanceName detail : String) (isRecovery : Bool) : Outcome :=
  self.notify (staleNotice instanceId instanceName detail isRecovery) (staleRows notifications)

/-- The two ways of reading an empty list of ids: all instances for one loop, none for the others. -/
theorem empty_scope {hook : Notification} (empty : hook.instanceIds = .ids [])
    (instances : List (Int × String)) (run : RunOutcome) (instanceId : Option Int) :
    resolveScope hook run.failedInstances run.succeededInstances instances run.isSuccess
      run.details =
        some ⟨run.isSuccess, run.failedInstances, run.succeededInstances, run.details⟩ ∧
      covers hook instanceId = false := by
  constructor
  · rw [resolveScope, empty]
    exact if_pos rfl
  · rw [covers, empty]
    cases instanceId <;> rfl

/-! ### What one row does to the others -/

/-- The row's own message can be built. -/
def Notifier.Builds (hook : Notification) (notice : Notice) : Prop :=
  ∃ filled, format self.objects (textArguments self.objects notice.texts) hook.messageFormat =
    .ok filled

/-- The loop returns, and it has begun one delivery to every row that is to be told something and
whose own message can be built. -/
def Notifier.Isolated (notices : Notification → Option Notice) (rows : List Notification)
    (outcome : Outcome) : Prop :=
  outcome.raised = none ∧ ∀ hook ∈ rows, ∀ notice, notices hook = some notice →
    self.Builds hook notice → (outcome.attempts.map fun attempt => attempt.hook.id).count hook.id = 1

variable {self} {notices : Notification → Option Notice} {rows : List Notification}

theorem formatMessage_ok {hook : Notification} {notice : Notice} :
    (∃ message, self.formatMessage hook notice = .ok message) ↔ self.Builds hook notice := by
  unfold Notifier.formatMessage Notifier.Builds
  cases format self.objects (textArguments self.objects notice.texts) hook.messageFormat with
  | error fault => simp [Except.map]
  | ok filled => simp [Except.map]

theorem prepare_some {hook : Notification} {notice : Notice} (told : notices hook = some notice)
    (builds : self.Builds hook notice) :
    ∃ attempt, self.prepare notices hook = .ok (some attempt) := by
  have ⟨message, built⟩ := formatMessage_ok.mpr builds
  rw [Notifier.prepare, told]
  simp only [built]
  exact ⟨_, rfl⟩

theorem prepare_ok {hook : Notification} :
    (∃ job, self.prepare notices hook = .ok job) ↔
      ∀ notice, notices hook = some notice → self.Builds hook notice := by
  constructor
  · intro ⟨job, prepared⟩ notice told
    rw [Notifier.prepare, told] at prepared
    cases built : self.formatMessage hook notice with
    | error fault =>
      simp only [built] at prepared
      cases prepared
    | ok message => exact formatMessage_ok.mp ⟨message, built⟩
  · intro builds
    cases told : notices hook with
    | none => exact ⟨none, by rw [Notifier.prepare, told]⟩
    | some notice =>
      have ⟨attempt, prepared⟩ := prepare_some told (builds notice told)
      exact ⟨_, prepared⟩

theorem hook_of_prepare (hook : Notification) (attempt : Attempt)
    (prepared : self.prepare notices hook = .ok (some attempt)) : attempt.hook.id = hook.id := by
  cases told : notices hook with
  | none =>
    rw [Notifier.prepare, told] at prepared
    cases prepared
  | some notice =>
    rw [Notifier.prepare, told] at prepared
    cases built : self.formatMessage hook notice with
    | error fault =>
      simp only [built] at prepared
      cases prepared
    | ok message =>
      simp only [built] at prepared
      cases prepared
      rfl

/-- The rows before the first one whose message cannot be built are delivered to, whatever comes of
the deliveries, and the rows behind it are not. -/
theorem notify_attempts : (self.notify notices rows).attempts =
    (rows.takeWhile fun hook => (GuardedLoops.faultOf (self.prepare notices) hook).isNone).filterMap
      (GuardedLoops.jobOf (self.prepare notices)) :=
  GuardedLoops.loop_attempts rows

theorem notify_isolated (distinct : (rows.map Notification.id).Nodup) :
    self.Isolated notices rows (self.notify notices rows) ↔
      ∀ hook ∈ rows, ∀ notice, notices hook = some notice → self.Builds hook notice := by
  have quiet : (self.notify notices rows).raised = none ↔
      ∀ hook ∈ rows, ∀ notice, notices hook = some notice → self.Builds hook notice :=
    GuardedLoops.raised_eq_none.trans (forall₂_congr fun _ _ => prepare_ok)
  constructor
  · intro isolated
    exact quiet.mp isolated.1
  · intro builds
    apply And.intro (quiet.mpr builds)
    intro hook mem notice told own
    have ⟨attempt, prepared⟩ := prepare_some told own
    exact GuardedLoops.attempted_once hook_of_prepare distinct (quiet.mpr builds) mem prepared

theorem prepare_ok_some {hook : Notification} :
    (∃ attempt, self.prepare notices hook = .ok (some attempt)) ↔
      ∃ notice, notices hook = some notice ∧ self.Builds hook notice := by
  constructor
  · intro ⟨attempt, prepared⟩
    cases told : notices hook with
    | none =>
      rw [Notifier.prepare, told] at prepared
      cases prepared
    | some notice => exact ⟨notice, rfl, prepare_ok.mp ⟨_, prepared⟩ notice told⟩
  · intro ⟨notice, told, builds⟩
    exact prepare_some told builds

/-- A delivery to a row is begun exactly if the row is to be told something and the messages of the
rows up to it can be built. -/
theorem notify_begun (distinct : (rows.map Notification.id).Nodup) {hook : Notification}
    (mem : hook ∈ rows) :
    (∃ attempt ∈ (self.notify notices rows).attempts, attempt.hook.id = hook.id) ↔
      (∃ notice, notices hook = some notice) ∧
        ∀ other ∈ (rows.takeWhile fun other => other.id ≠ hook.id) ++ [hook],
          ∀ notice, notices other = some notice → self.Builds other notice := by
  have begun : (∃ attempt ∈ (self.notify notices rows).attempts, attempt.hook.id = hook.id) ↔
      (∃ attempt, self.prepare notices hook = .ok (some attempt)) ∧
        ∀ other ∈ rows.takeWhile fun other => other.id ≠ hook.id,
          ∃ job, self.prepare notices other = .ok job :=
    GuardedLoops.attempted_iff hook_of_prepare distinct mem
  rw [begun, prepare_ok_some, List.forall_mem_append, List.forall_mem_singleton]
  constructor
  · intro ⟨⟨notice, told, builds⟩, before⟩
    refine ⟨⟨notice, told⟩, fun other inside => prepare_ok.mp (before other inside), ?_⟩
    intro same also
    rw [told] at also
    cases also
    exact builds
  · intro ⟨⟨notice, told⟩, before, own⟩
    exact ⟨⟨notice, told, own notice told⟩,
      fun other inside => prepare_ok.mpr (before other inside)⟩

theorem distinct_filter (notifications : Table Notification Notification.id)
    (test : Notification → Bool) : ((notifications.rows.filter test).map Notification.id).Nodup :=
  notifications.distinct.sublist (List.filter_sublist.map _)

theorem distinct_changeRows (notifications : Table Notification Notification.id)
    (summary : ChangeSummary) : ((changeRows notifications summary).map Notification.id).Nodup := by
  unfold changeRows
  split
  · exact List.nodup_nil
  · exact distinct_filter notifications _

/-- The rows are kept apart in each of the three loops if and only if the message of every row that
is to be told something can be built: one that cannot ends the loop. -/
theorem isolated_iff (self : Notifier Value) (notifications : Table Notification Notification.id)
    (instances : List (Int × String)) :
    (∀ run : RunOutcome, self.Isolated (sendNotice instances run) (sendRows notifications)
        (self.send notifications instances run) ↔
      ∀ hook ∈ sendRows notifications, ∀ notice, sendNotice instances run hook = some notice →
        self.Builds hook notice) ∧
    (∀ instanceName summary,
      self.Isolated (changeNotice instances instanceName summary) (changeRows notifications summary)
        (self.sendChangeOnly notifications instances instanceName summary) ↔
      ∀ hook ∈ changeRows notifications summary, ∀ notice,
        changeNotice instances instanceName summary hook = some notice →
          self.Builds hook notice) ∧
    ∀ instanceId instanceName detail isRecovery,
      self.Isolated (staleNotice instanceId instanceName detail isRecovery)
        (staleRows notifications)
        (self.sendStale notifications instanceId instanceName detail isRecovery) ↔
      ∀ hook ∈ staleRows notifications, ∀ notice,
        staleNotice instanceId instanceName detail isRecovery hook = some notice →
          self.Builds hook notice :=
  ⟨fun _ => notify_isolated (distinct_filter notifications _),
    fun _ summary => notify_isolated (distinct_changeRows notifications summary),
    fun _ _ _ _ => notify_isolated (distinct_filter notifications _)⟩

/-! ### The default format, and a broken one -/

/-- The default format in parts. -/
def defaultParts : List Part :=
  [.named "status".toList, .literal ": pfSense backup completed. ".toList, .named "details".toList]

theorem named_plain {name : List Char} (filled : name ≠ []) (letters : name.all isLetter = true) :
    (Part.named name).Plain :=
  ⟨filled, List.all_eq_true.mp letters⟩

theorem defaultParts_plain : ∀ part ∈ defaultParts, part.Plain := by
  have status : (Part.named "status".toList).Plain := named_plain (by decide) (by decide)
  have text : (Part.literal ": pfSense backup completed. ".toList).Plain := by
    have braceless : ": pfSense backup completed. ".toList.all
        (fun char => char ≠ '{' && char ≠ '}') = true := by decide
    intro char mem
    simpa using List.all_eq_true.mp braceless char mem
  have details : (Part.named "details".toList).Plain := named_plain (by decide) (by decide)
  simp only [defaultParts, List.forall_mem_cons]
  exact ⟨status, text, details, List.forall_mem_nil _⟩

/-- A row with the default format never ends a loop. -/
theorem default_builds (hook : Notification) (usual : hook.messageFormat = defaultFormat)
    (notice : Notice) : self.Builds hook notice := by
  have known : ∀ name, Part.named name ∈ defaultParts →
      (notice.texts.lookup (String.ofList name)).isSome := by
    intro name mem
    simp only [defaultParts, List.mem_cons, List.not_mem_nil, Part.named.injEq, reduceCtorEq,
      false_or, or_false] at mem
    cases mem with
    | inl status => rw [status]; rfl
    | inr details => rw [details]; rfl
  have source : defaultFormat = String.ofList (defaultParts.flatMap Part.source) := by decide
  unfold Notifier.Builds
  rw [usual, source]
  exact ⟨_, format_parts self.objects defaultParts_plain known⟩

end Notifier

def hookOf (id : Nat) (name messageFormat : String) : Notification :=
  { id, name, messageFormat
    kind := .webhook
    trigger := .always
    enabled := true
    includeInstanceDetails := true
    instanceIds := .unset
    url := "https://example.test/hook"
    timeoutSeconds := 10
    headersJson := none
    payloadTemplateJson := none
    configJson := none }

/-- A format with a name that no message has, in front of a row with the default format. -/
def brokenFirst : Table Notification Notification.id where
  rows := [hookOf 1 "broken" "{foo}", hookOf 2 "pager" defaultFormat]
  distinct := by decide

/-- Texts that are only written as they are. -/
def plainTexts : Objects String where
  decimal _ := none
  decimal_letter _ _ := rfl
  ofText := id
  follow _ _ := .error (.other "AttributeError")
  str text := .ok text
  repr text := .ok ("'" ++ text ++ "'")
  ascii text := .ok ("'" ++ text ++ "'")
  write text spec := if spec = "" then .ok text else .error (.valueError "Invalid format specifier")
  write_text _ := rfl

def plainNotifier : Notifier String :=
  ⟨plainTexts, "backups", fun _ => "2026-01-01 00:00:00 UTC", fun _ => .ok ()⟩

/-- A failed run that a broken row keeps from every row behind it. -/
theorem broken_silences :
    let run : RunOutcome := ⟨false, "1 of 1 failed", ["fw"], [], none⟩
    let outcome := plainNotifier.send brokenFirst [(1, "fw")] run
    outcome.attempts = [] ∧
      ¬ plainNotifier.Isolated (sendNotice [(1, "fw")] run) (sendRows brokenFirst) outcome := by
  intro run outcome
  apply And.intro rfl
  intro isolated
  have raised : outcome.raised = some (.keyError "foo") := rfl
  rw [isolated.1] at raised
  cases raised

end PfsenseBackups.Notifications
