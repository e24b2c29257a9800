import PfsenseBackups.DiffCache
import PfsenseBackups.Notifications
import PfsenseBackups.ReorderEvents

/-! `backup_diff_storage.build_change_summary`, and the notices of a changed configuration that
`backup_instance` sends with it. -/

namespace PfsenseBackups.ChangeAlerts
open Value Config Diff DiffConfigs DiffCache NetworkSections Notifications ReorderEvents Secrecy
open StrFormat Tables

/-! ### The summary -/

/-- The fields of a diff, in the order of `sections`. -/
def sectionNames : List String := [
  "system", "revision", "sysctl", "cron", "interfaces", "vlans", "bridges", "gifs", "gres",
  "ppps", "qinqs", "laggs", "wol", "gateways", "gateway_groups", "static_routes", "virtual_ips",
  "hasync", "firewall_rules", "nat_rules", "aliases", "dyndns_entries", "notifications",
  "dhcp_servers", "dhcp_relays", "dns", "ntpd", "snmpd", "syslog", "schedules", "shaper_queues",
  "dnshaper_pipes", "lb_pools", "lb_virtual_servers", "captive_portal_zones", "igmpproxy_entries",
  "radvd_interfaces", "ups", "voucher_rolls", "ftpproxy", "openvpn_servers", "openvpn_clients",
  "openvpn_cscs", "ipsec_phase1", "ipsec_phase2", "ipsec_psks", "certificate_authorities",
  "certificates", "crls", "installedpackages", "users", "groups", "authservers", "sshdata",
  "lastchange", "theme", "diag", "dhcp_backend", "legacy_bridge", "proxyarp", "interface_groups",
  "ezshaper", "ovpnserver_wizard", "apikeys", "l2tp", "pppoe_servers", "unrecognized_sections",
  "config_version"]

/-- `_row_label` -/
def rowLabel (row : Dict) : Option String :=
  ["name", "descr", "key"].findSome? fun k =>
    match Dict.get row k with
    | .str v => if v = "" then none else some v
    | _ => none

/-- `section_name.replace("_", " ")`. -/
def pretty (sectionName : String) : String :=
  String.ofList (sectionName.toList.map fun char => if char = '_' then ' ' else char)

def rowLabels (name kind : String) (rows : List Dict) : List String :=
  rows.map fun row =>
    match rowLabel row with
    | some label => name ++ " " ++ kind ++ ": " ++ label
    | none => name ++ ": row " ++ kind

/-- What one section has to say. Its reordered rows do not say anything. -/
def sectionLabels (sectionName : String) (section_ : SectionDiff) : List String :=
  if section_.isEmpty then []
  else
    (section_.modified.map fun item => pretty sectionName ++ ": " ++ item.label) ++
      rowLabels (pretty sectionName) "added" section_.added ++
      rowLabels (pretty sectionName) "removed" section_.removed

/-- The labels are appended one by one, up to the one that reaches the limit. -/
def collect (limit : Nat) : List String → List String → List String
  | labels, [] => labels
  | labels, label :: rest =>
    if limit ≤ labels.length + 1 then labels ++ [label] else collect limit (labels ++ [label]) rest

def changeLabels (diff : ConfigDiff) (limit : Nat) : List String :=
  collect limit []
    ((sectionNames.zip (sections diff)).flatMap fun field => sectionLabels field.1 field.2)

def summaryOf (counts : Counts) (labels : List String) : Option ChangeSummary :=
  if counts.added = counts.removed ∧ counts.removed = counts.modified ∧ counts.modified = 0 then
    none
  else some ⟨counts.added, counts.removed, counts.modified, labels⟩

/-- The summary of a diff against the previous backup, or none when nothing changed. -/
def buildChangeSummary (diff : ConfigDiff) : Option ChangeSummary :=
  summaryOf (summariseDiff diff) (changeLabels diff 5)

/-- Some section has an entry of any kind. -/
def Changed (diff : ConfigDiff) : Prop :=
  ∃ section_ ∈ sections diff, section_.isEmpty = false

/-- No row came, went or was modified, but some rows were reordered. -/
def ReorderOnly (diff : ConfigDiff) : Prop :=
  (∀ section_ ∈ sections diff,
    section_.added = [] ∧ section_.removed = [] ∧ section_.modified = []) ∧
  ∃ section_ ∈ sections diff, section_.reordered ≠ []

private theorem sum_length_eq_zero {Entry : Type} (sections : List SectionDiff)
    (kind : SectionDiff → List Entry) :
    (sections.map fun section_ => (kind section_).length).sum = 0 ↔
      ∀ section_ ∈ sections, kind section_ = [] := by
  rw [List.sum_eq_zero_iff_forall_eq_nat, List.forall_mem_map]
  exact forall₂_congr fun _ _ => List.length_eq_zero_iff

theorem summaryOf_eq_none (counts : Counts) (labels : List String) :
    summaryOf counts labels = none ↔
      counts.added = 0 ∧ counts.removed = 0 ∧ counts.modified = 0 := by
  rw [summaryOf, ite_eq_left_iff]
  simp only [reduceCtorEq, imp_false, not_not]
  omega

theorem buildChangeSummary_eq_none (diff : ConfigDiff) : buildChangeSummary diff = none ↔
    ∀ section_ ∈ sections diff,
      section_.added = [] ∧ section_.removed = [] ∧ section_.modified = [] := by
  rw [buildChangeSummary, summaryOf_eq_none, summariseDiff, sum_length_eq_zero,
    sum_length_eq_zero, sum_length_eq_zero]
  simp only [forall_and]

/-- A summary that is built says something. -/
theorem buildChangeSummary_isEmpty {diff : ConfigDiff} {summary : ChangeSummary}
    (built : buildChangeSummary diff = some summary) : summary.isEmpty = false := by
  rw [buildChangeSummary] at built
  generalize summariseDiff diff = counts at built
  rw [Bool.eq_false_iff]
  intro empty
  have loud : ¬summaryOf counts (changeLabels diff 5) = none := by simp [built]
  rw [summaryOf_eq_none] at loud
  rw [summaryOf] at built
  split at built
  · cases built
  · cases built
    simp only [ChangeSummary.isEmpty, Bool.and_eq_true, decide_eq_true_eq] at empty
    exact loud ⟨empty.1.1, empty.1.2, empty.2⟩

/-- The summary is missing exactly where every section is empty, unless rows were reordered and
nothing else happened. -/
theorem summary_none_iff (diff : ConfigDiff) :
    (buildChangeSummary diff = none ↔ ∀ section_ ∈ sections diff, section_.isEmpty = true) ↔
      ¬ReorderOnly diff := by
  rw [buildChangeSummary_eq_none]
  simp only [SectionDiff.isEmpty_iff, ReorderOnly]
  constructor
  · intro same only
    obtain ⟨quiet, section_, inside, moved⟩ := only
    exact moved (same.mp quiet section_ inside).2.2.2
  · intro notOnly
    constructor
    · intro quiet section_ inside
      have here := quiet section_ inside
      refine ⟨here.1, here.2.1, here.2.2, ?_⟩
      by_contra moved
      exact notOnly ⟨quiet, section_, inside, moved⟩
    · intro empty section_ inside
      have here := empty section_ inside
      exact ⟨here.1, here.2.1, here.2.2.1⟩

/-! ### The notices of a backup -/

inductive BackupResult where
  | failed
  /-- With the diff against the previous backup, if there is one and it was stored. -/
  | succeeded (diff : Option ConfigDiff)

structure FinishedBackup where
  instanceId : Int
  instanceName : String
  detail : String
  result : BackupResult
  /-- False within a sweep over all instances. -/
  notify : Bool

namespace FinishedBackup

variable (backup : FinishedBackup)

def diff : Option ConfigDiff :=
  match backup.result with
  | .failed => none
  | .succeeded diff => diff

/-- `change_summary`, which a failed backup does not pass on. -/
def summary : Option ChangeSummary :=
  backup.diff.bind buildChangeSummary

def ok : Bool :=
  match backup.result with
  | .failed => false
  | .succeeded _ => true

/-- The arguments of `send`. -/
def run : RunOutcome where
  isSuccess := backup.ok
  details := backup.detail
  failedInstances := if backup.ok then [] else [backup.instanceName]
  succeededInstances := if backup.ok then [backup.instanceName] else []
  changeSummary := backup.summary

/-- The rows that a notice of the backup is meant for. -/
def audience (notifications : Table Notification Notification.id) : List Notification :=
  if backup.notify then sendRows notifications
  else match backup.summary with
    | none => []
    | some summary => changeRows notifications summary

/-- What a row is to be told of the backup. -/
def notices (instances : List (Int × String)) (hook : Notification) : Option Notice :=
  if backup.notify then sendNotice instances backup.run hook
  else backup.summary.bind fun summary =>
    changeNotice instances backup.instanceName summary hook

/-- The test whether a row is scoped to the backup, by the name of the instance. -/
def scopeFound (instances : List (Int × String)) (hook : Notification) : Bool :=
  if backup.notify then
    (resolveScope hook backup.run.failedInstances backup.run.succeededInstances instances
      backup.run.isSuccess backup.run.details).isSome
  else covers hook (nameToId instances backup.instanceName)

theorem changes_eq : backup.run.changes = backup.summary := by
  show backup.summary.filter (!·.isEmpty) = backup.summary
  cases built : backup.summary with
  | none => rfl
  | some summary =>
    obtain ⟨diff, -, source⟩ := Option.bind_eq_some_iff.mp built
    rw [Option.filter_some, buildChangeSummary_isEmpty source]
    rfl

/-- A summary is the summary of a successful backup. -/
theorem ok_of_summary (present : backup.summary.isSome = true) : backup.ok = true := by
  unfold summary diff at present
  unfold ok
  cases result : backup.result with
  | failed => simp [result] at present
  | succeeded diff => rfl

end FinishedBackup

variable {Value : Type} (self : Notifier Value)
  (notifications : Table Notification Notification.id) (instances : List (Int × String))
  (backup : FinishedBackup)

/-- `_notify_result`; what the notifier raises is logged. -/
def notifyResult : Outcome :=
  if backup.notify then self.send notifications instances backup.run
  else match backup.summary with
    | none => ⟨[], [], none⟩
    | some summary => self.sendChangeOnly notifications instances backup.instanceName summary

/-- A delivery to the row was begun. -/
def Sent (hook : Notification) : Prop :=
  ∃ attempt ∈ (notifyResult self notifications instances backup).attempts,
    attempt.hook.id = hook.id

/-- The row covers the instance: it names no instances, or this one among others. -/
def InScope (hook : Notification) (instanceId : Int) : Prop :=
  match hook.instanceIds with
  | .unset => True
  | .broken => False
  | .ids ids => ids = [] ∨ instanceId ∈ ids

/-- The messages of the row and of those before it in the loop can be built. -/
def Reached (hook : Notification) : Prop :=
  ∀ other ∈ ((backup.audience notifications).takeWhile fun other => other.id ≠ hook.id) ++ [hook],
    ∀ notice, backup.notices instances other = some notice → self.Builds other notice

/-- The diff of the backup against the previous one has a section that is not empty. -/
def ConfigChanged : Prop :=
  ∃ diff, backup.diff = some diff ∧ Changed diff

theorem notifyResult_eq : notifyResult self notifications instances backup =
    self.notify (backup.notices instances) (backup.audience notifications) := by
  unfold notifyResult FinishedBackup.audience
  split
  next all =>
    have told : backup.notices instances = sendNotice instances backup.run := by
      funext hook
      rw [FinishedBackup.notices, if_pos all]
    rw [told]
    rfl
  next alone =>
    split
    next => rfl
    next summary built =>
      have told : backup.notices instances =
          changeNotice instances backup.instanceName summary := by
        funext hook
        rw [FinishedBackup.notices, if_neg alone, built]
        rfl
      rw [told]
      rfl

variable {self notifications instances backup}

theorem audience_sublist : (backup.audience notifications).Sublist notifications.rows := by
  unfold FinishedBackup.audience sendRows changeRows
  split
  · exact List.filter_sublist
  · split
    · exact List.nil_sublist _
    · split
      · exact List.nil_sublist _
      · exact List.filter_sublist

theorem audience_distinct : ((backup.audience notifications).map Notification.id).Nodup :=
  notifications.distinct.sublist (audience_sublist.map _)

/-- Every change row is in the audience of a backup that has a summary. -/
theorem mem_audience {hook : Notification} (mem : hook ∈ notifications.rows)
    (enabled : hook.enabled = true) (change : hook.trigger = .change)
    (present : backup.summary.isSome = true) : hook ∈ backup.audience notifications := by
  obtain ⟨summary, built⟩ := Option.isSome_iff_exists.mp present
  obtain ⟨diff, -, source⟩ := Option.bind_eq_some_iff.mp built
  unfold FinishedBackup.audience
  split
  · exact List.mem_filter.mpr ⟨mem, enabled⟩
  · simp only [built, changeRows, buildChangeSummary_isEmpty source]
    simp [mem, enabled, change]

/-- A run without failures succeeds in the scope of every row. -/
theorem resolveScope_success {hook : Notification} {succeeded : List String} {details : String}
    {scope : Scope}
    (found : resolveScope hook [] succeeded instances true details = some scope) :
    scope.effectiveSuccess = true := by
  unfold resolveScope at found
  split at found
  · cases found
    rfl
  · cases found
  · split at found
    · cases found
      rfl
    · simp only [inScope, List.filter_nil] at found
      split at found
      · cases found
      · cases found
        rfl

/-- A change row is told something exactly of a backup with a summary that it is scoped to. -/
theorem notices_isSome {hook : Notification} (change : hook.trigger = .change) :
    (∃ notice, backup.notices instances hook = some notice) ↔
      backup.summary.isSome = true ∧ backup.scopeFound instances hook = true := by
  rw [← Option.isSome_iff_exists]
  unfold FinishedBackup.notices FinishedBackup.scopeFound
  split
  next =>
    rw [sendNotice, backup.changes_eq, change]
    constructor
    · intro told
      split at told
      next => simp at told
      next scope found =>
        rw [found]
        split at told
        next wanted =>
          simp only [shouldSend, Bool.and_eq_true] at wanted
          exact ⟨wanted.2, rfl⟩
        next => simp at told
    · intro wanted
      obtain ⟨scope, found⟩ := Option.isSome_iff_exists.mp wanted.2
      have fine := backup.ok_of_summary wanted.1
      have success : scope.effectiveSuccess = true := by
        simp only [FinishedBackup.run, fine, if_true] at found
        exact resolveScope_success found
      simp [found, shouldSend, success, wanted.1]
  next =>
    cases backup.summary with
    | none => simp
    | some summary =>
      simp only [Option.bind_some, Option.isSome_some, true_and, changeNotice]
      split <;> simp_all

/-- A delivery to a change row is begun exactly if the backup has a summary, the row is scoped to
it and no message in the way fails to build. -/
theorem sent_iff {hook : Notification} (mem : hook ∈ notifications.rows)
    (enabled : hook.enabled = true) (change : hook.trigger = .change) :
    Sent self notifications instances backup hook ↔
      backup.summary.isSome = true ∧ backup.scopeFound instances hook = true ∧
        Reached self notifications instances backup hook := by
  unfold Sent
  rw [notifyResult_eq, ← and_assoc, ← notices_isSome change]
  by_cases inside : hook ∈ backup.audience notifications
  · exact notify_begun audience_distinct inside
  · constructor
    · intro ⟨attempt, begun, same⟩
      have listed := GuardedLoops.origin_mem hook_of_prepare begun
      rw [same] at listed
      obtain ⟨other, member, own⟩ := List.mem_map.mp listed
      have equal : other = hook :=
        List.inj_on_of_nodup_map notifications.distinct (audience_sublist.mem member) mem own
      exact (inside (equal ▸ member)).elim
    · intro told
      exact (inside (mem_audience mem enabled change ((notices_isSome change).mp told.1).1)).elim

/-! ### Every change raises the alert -/

/-- The summary is missing exactly when every section of the diff is empty, and a change row is
notified of the backup exactly when some section is not and the row is in scope. -/
structure AlertsOnChange (notifier : Notifier Value)
    (notifications : Table Notification Notification.id) (instances : List (Int × String))
    (backup : FinishedBackup) : Prop where
  summary_none : ∀ diff, backup.diff = some diff →
    (buildChangeSummary diff = none ↔ ∀ section_ ∈ sections diff, section_.isEmpty = true)
  sent : ∀ hook ∈ notifications.rows, hook.enabled = true → hook.trigger = .change →
    (Sent notifier notifications instances backup hook ↔
      ConfigChanged backup ∧ InScope hook backup.instanceId)

/-- Without a mere reordering, there is a summary exactly when the config changed. -/
theorem summary_isSome_iff (notOnly : ∀ diff, backup.diff = some diff → ¬ReorderOnly diff) :
    backup.summary.isSome = true ↔ ConfigChanged backup := by
  unfold FinishedBackup.summary ConfigChanged
  cases stored : backup.diff with
  | none => simp
  | some diff =>
    have silent := (summary_none_iff diff).mpr (notOnly diff stored)
    simp only [Option.bind_some, Option.some.injEq, exists_eq_left', Changed]
    rw [Option.isSome_iff_ne_none, ne_eq, silent]
    simp

/-- A backup raises the alert as it should exactly if more than the order of rows changed, if
anything did, and then the scope of each change row is found by the instance's name and no
message in the row's way fails to build. -/
theorem alertsOnChange_iff (self : Notifier Value)
    (notifications : Table Notification Notification.id) (instances : List (Int × String))
    (backup : FinishedBackup) :
    AlertsOnChange self notifications instances backup ↔
      (∀ diff, backup.diff = some diff → ¬ReorderOnly diff) ∧
        (ConfigChanged backup → ∀ hook ∈ notifications.rows, hook.enabled = true →
          hook.trigger = .change → (InScope hook backup.instanceId ↔
            backup.scopeFound instances hook = true ∧
              Reached self notifications instances backup hook)) := by
  constructor
  · intro alerts
    have notOnly : ∀ diff, backup.diff = some diff → ¬ReorderOnly diff :=
      fun diff stored => (summary_none_iff diff).mp (alerts.summary_none diff stored)
    refine ⟨notOnly, ?_⟩
    intro changed hook mem enabled change
    have sent := alerts.sent hook mem enabled change
    rw [sent_iff mem enabled change, summary_isSome_iff notOnly] at sent
    simp only [changed, true_and] at sent
    exact sent.symm
  · intro calm
    refine ⟨fun diff stored => (summary_none_iff diff).mpr (calm.1 diff stored), ?_⟩
    intro hook mem enabled change
    rw [sent_iff mem enabled change, summary_isSome_iff calm.1]
    apply and_congr_right
    intro changed
    exact (calm.2 changed hook mem enabled change).symm

/-! ### Rules that only swapped places -/

/-- Two firewall rules for the LAN. -/
def twoRules (first second : String) : ParsedConfig where
  firewallRules := parseFirewall asciiRuntime (ruleSet [first, second])

/-- A change row for all instances, with the default format. -/
def changeHook : Table Notification Notification.id where
  rows := [{ hookOf 1 "pager" defaultFormat with trigger := .change }]
  distinct := by decide

def swapBackup : FinishedBackup where
  instanceId := 1
  instanceName := "fw"
  detail := "Backup succeeded for fw"
  result := .succeeded (some (diffConfigs (twoRules "1" "2") (twoRules "2" "1")))
  notify := true

/-- The order of the rules changed, and nobody is told. -/
theorem swap_silent :
    (∃ section_ ∈ sections (diffConfigs (twoRules "1" "2") (twoRules "2" "1")),
      section_.isEmpty = false) ∧
    buildChangeSummary (diffConfigs (twoRules "1" "2") (twoRules "2" "1")) = none ∧
    (notifyResult plainNotifier changeHook [(1, "fw")] swapBackup).attempts = [] ∧
    ¬AlertsOnChange plainNotifier changeHook [(1, "fw")] swapBackup := by
  have silent : buildChangeSummary (diffConfigs (twoRules "1" "2") (twoRules "2" "1")) = none := by
    decide
  have changed : ∃ section_ ∈ sections (diffConfigs (twoRules "1" "2") (twoRules "2" "1")),
      section_.isEmpty = false := by decide
  refine ⟨changed, silent, by decide, ?_⟩
  intro alerts
  obtain ⟨section_, inside, loud⟩ := changed
  have empty := (alerts.summary_none _ rfl).mp silent section_ inside
  rw [loud] at empty
  cases empty

end PfsenseBackups.ChangeAlerts
