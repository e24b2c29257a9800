import PfsenseBackups.SchedulePaths
import PfsenseBackups.Shelf

/-! The handlers that write an instance: `create_instance` and `update_instance`. Values are those
that the request models have read; a request that they refuse is answered with 422. -/

namespace PfsenseBackups.InstanceForms
open CronDialects Labels PythonText SchedulePaths Tables Value

/-! ### The plain columns -/

/-- What a request model takes for a field, besides null. -/
inductive Shape where
  | text
  /-- `_no_fs_special` -/
  | fileName
  /-- `_subfolder_safe` -/
  | subfolder
  /-- `_area_whitelist` -/
  | area
  | flag
  | number (least greatest : Int)

def backupAreas : List String := [
  "", "aliases", "captiveportal", "certs", "cron", "dhcpd", "dhcpdv6", "dnsmasq", "filter",
  "firewallshaper", "ifgroups", "installedpackages", "interfaces", "ipsec", "load_balancer", "nat",
  "openvpn", "ppps", "rrddata", "schedules", "snmpd", "staticroutes", "syslog", "sysctl", "system",
  "system_advanced_admin", "system_advanced_firewall", "system_advanced_misc",
  "system_advanced_network", "system_advanced_notifications", "system_advanced_sysctl",
  "system_hasync", "unbound", "virtualip", "voucher", "vpn", "wol"]

def Shape.fits : Shape → Val → Bool
  | _, .none => true
  | .text, .str _ => true
  | .fileName, .str string => Shelf.noFsSpecial string
  | .subfolder, .str string => Shelf.subfolderSafe (some string)
  | .area, .str string => backupAreas.contains string
  | .flag, .bool _ => true
  | .number least greatest, .int value => least ≤ value && value ≤ greatest
  | _, _ => false

inductive Column where
  | name | url | subfolder | backupPrefix | verifySsl | timeoutSeconds | cronExpression
  | cronTimezone | enabled | retentionCount | compress | replicate | staleAfterHours
  | retentionKeepAllDays | retentionDailyDays | retentionWeeklyWeeks | retentionMonthlyMonths
  | backupArea | backupIncludeRrd | backupIncludePackages | backupIncludeSsh
  deriving DecidableEq

def columns : List Column := [
  .name, .url, .subfolder, .backupPrefix, .verifySsl, .timeoutSeconds, .cronExpression,
  .cronTimezone, .enabled, .retentionCount, .compress, .replicate, .staleAfterHours,
  .retentionKeepAllDays, .retentionDailyDays, .retentionWeeklyWeeks, .retentionMonthlyMonths,
  .backupArea, .backupIncludeRrd, .backupIncludePackages, .backupIncludeSsh]

theorem mem_columns (column : Column) : column ∈ columns := by
  cases column <;> decide

def Column.text : Column → String
  | .name => "name"
  | .url => "url"
  | .subfolder => "subfolder"
  | .backupPrefix => "backup_prefix"
  | .verifySsl => "verify_ssl"
  | .timeoutSeconds => "timeout_seconds"
  | .cronExpression => "cron_expression"
  | .cronTimezone => "cron_timezone"
  | .enabled => "enabled"
  | .retentionCount => "retention_count"
  | .compress => "compress"
  | .replicate => "replicate"
  | .staleAfterHours => "stale_after_hours"
  | .retentionKeepAllDays => "retention_keep_all_days"
  | .retentionDailyDays => "retention_daily_days"
  | .retentionWeeklyWeeks => "retention_weekly_weeks"
  | .retentionMonthlyMonths => "retention_monthly_months"
  | .backupArea => "backup_area"
  | .backupIncludeRrd => "backup_include_rrd"
  | .backupIncludePackages => "backup_include_packages"
  | .backupIncludeSsh => "backup_include_ssh"

def Column.shape : Column → Shape
  | .name | .backupPrefix => .fileName
  | .url | .cronExpression | .cronTimezone => .text
  | .subfolder => .subfolder
  | .backupArea => .area
  | .timeoutSeconds => .number 1 3600
  | .retentionCount => .number 0 10000
  | .staleAfterHours => .number 1 8760
  | .retentionKeepAllDays | .retentionDailyDays => .number 0 3650
  | .retentionWeeklyWeeks => .number 0 520
  | .retentionMonthlyMonths => .number 0 120
  | .verifySsl | .enabled | .compress | .replicate | .backupIncludeRrd | .backupIncludePackages
  | .backupIncludeSsh => .flag

def Column.nullable : Column → Bool
  | .subfolder | .cronExpression | .cronTimezone | .staleAfterHours | .retentionKeepAllDays
  | .retentionDailyDays | .retentionWeeklyWeeks | .retentionMonthlyMonths => true
  | _ => false

/-! ### Rows and requests -/

/-- Fernet under the current key. A salt stands for the time and the IV of a token. -/
structure Crypto (Salt Ct : Type) where
  encrypt : Salt → String → Ct
  decrypt : Ct → Option String
  decrypt_encrypt : ∀ salt text, decrypt (encrypt salt text) = some text

structure Instance (Ct : Type) where
  id : Nat
  plain : Column → Val
  usernameCt : Ct
  passwordCt : Ct
  backupEncrypt : Bool
  backupEncryptPasswordCt : Option Ct

abbrev Instances (Ct : Type) := Table (Instance Ct) Instance.id

/-- The table's constraints: no null where there must be none, and no name twice. -/
def storable {Ct : Type} (rows : List (Instance Ct)) (row : Instance Ct) : Bool :=
  columns.all (fun column => column.nullable || row.plain column ≠ .none) &&
    rows.all fun other => other.id = row.id || other.plain .name ≠ row.plain .name

structure InstanceCreate where
  plain : Column → Val
  username : String
  password : String
  backupEncrypt : Bool
  backupEncryptPassword : Option String

/-- A field of a request is absent, or sent with null or a value. -/
structure InstanceUpdate where
  plain : Column → Option Val
  username : Option (Option String)
  password : Option (Option String)
  backupEncrypt : Option (Option Bool)
  backupEncryptPassword : Option (Option String)
  reencryptExistingBackups : Bool

/-- What the surroundings contribute to a request. -/
structure Surroundings (Salt : Type) where
  draw : String → Salt
  /-- The database takes the commit. -/
  commits : Bool
  /-- The command socket takes what is sent after the commit. -/
  pushes : Bool

inductive Failure where
  | http (status : Nat) (detail : String)
  /-- The request model refuses the body. -/
  | unprocessable
  | schedule (failure : SchedulePaths.Failure)
  | database
  | socket

/-- The sentinel with which a stored secret is read and kept. -/
def sentinel : String :=
  "__set__"

/-- `not text.strip()`. -/
def isBlank (text : String) : Bool :=
  strip text = ""

/-- The text of a value, where it is one. -/
def asText : Val → Option String
  | .str text => some text
  | _ => none

section

variable {Zone Salt Ct : Type} (lib : Libraries Zone) (crypto : Crypto Salt Ct)

/-! ### `create_instance` -/

/-- The rules for the encryption password of a new instance. -/
def createPassword (env : Surroundings Salt) (payload : InstanceCreate) :
    Except Failure (Option Ct) :=
  match payload.backupEncrypt, truthy payload.backupEncryptPassword with
  | true, none => .error (.http 400 "backup_encrypt=true requires a backup_encrypt_password")
  | true, some password =>
    if isBlank password then
      .error (.http 400 "backup_encrypt=true requires a backup_encrypt_password")
    else .ok (some (crypto.encrypt (env.draw "backup_encrypt_password") password))
  | false, some _ =>
    .error (.http 400 "backup_encrypt_password was provided but backup_encrypt is false")
  | false, none => .ok none

def createRow (rows : Instances Ct) (env : Surroundings Salt) (payload : InstanceCreate) :
    Except Failure (Instance Ct) := do
  if columns.all fun column => column.shape.fits (payload.plain column) then
    (checkCron lib (asText (payload.plain .cronExpression))).mapError .schedule
    (orBadRequest (zoneCheck lib (asText (payload.plain .cronTimezone)))).mapError .schedule
    let passwordCt ← createPassword crypto env payload
    return {
      id := rows.nextId
      plain := payload.plain
      usernameCt := crypto.encrypt (env.draw "username") payload.username
      passwordCt := crypto.encrypt (env.draw "password") payload.password
      backupEncrypt := payload.backupEncrypt
      backupEncryptPasswordCt := passwordCt }
  else throw .unprocessable

/-- The rows that are committed, and the answer. -/
def createInstance (rows : Instances Ct) (env : Surroundings Salt) (payload : InstanceCreate) :
    Instances Ct × Except Failure (Instance Ct) :=
  match createRow lib crypto rows env payload with
  | .error failure => (rows, .error failure)
  | .ok row =>
    if !env.commits || !storable rows.rows row then (rows, .error .database)
    else
      let scheduled := (truthy (asText (row.plain .cronExpression))).isSome
      (rows.insert row, if scheduled && !env.pushes then .error .socket else .ok row)

/-! ### `update_instance` -/

/-- A row while its fields are set; a null for `backup_encrypt` is refused by the database. -/
structure Draft (Ct : Type) where
  plain : Column → Val
  usernameCt : Ct
  passwordCt : Ct
  backupEncrypt : Option Bool
  backupEncryptPasswordCt : Option Ct
  changed : List String
  passwordActuallyChanged : Bool

def Instance.draft (row : Instance Ct) : Draft Ct where
  plain := row.plain
  usernameCt := row.usernameCt
  passwordCt := row.passwordCt
  backupEncrypt := some row.backupEncrypt
  backupEncryptPasswordCt := row.backupEncryptPasswordCt
  changed := []
  passwordActuallyChanged := false

namespace Draft

variable (draft : Draft Ct) (payload : InstanceUpdate) (env : Surroundings Salt)

def setPlain : Draft Ct :=
  { draft with
    plain := fun column => (payload.plain column).getD (draft.plain column)
    changed := draft.changed ++ (columns.filter fun column =>
      (payload.plain column).any (· ≠ draft.plain column)).map Column.text }

def setUsername : Draft Ct :=
  match payload.username.join with
  | none => draft
  | some username =>
    { draft with
      usernameCt := crypto.encrypt (env.draw "username") username
      changed := draft.changed ++ ["username"] }

/-- A blank password means that it is not changed. -/
def setPassword : Draft Ct :=
  match truthy payload.password.join with
  | none => draft
  | some password =>
    if isBlank password then draft
    else
      { draft with
        passwordCt := crypto.encrypt (env.draw "password") password
        changed := draft.changed ++ ["password"] }

def clearEncryptPassword : Draft Ct :=
  if draft.backupEncryptPasswordCt.isSome then
    { draft with
      backupEncryptPasswordCt := none
      changed := draft.changed ++ ["backup_encrypt_password"]
      passwordActuallyChanged := true }
  else draft

/-- The sentinel keeps the stored password, null and the empty text clear it. -/
def setEncryptPassword : Draft Ct :=
  match payload.backupEncryptPassword with
  | none => draft
  | some sent =>
    if sent = some sentinel then draft
    else
      match truthy sent with
      | none => draft.clearEncryptPassword
      | some password =>
        { draft with
          backupEncryptPasswordCt :=
            some (crypto.encrypt (env.draw "backup_encrypt_password") password)
          changed := draft.changed ++ ["backup_encrypt_password"]
          passwordActuallyChanged := true }

/-- Turning encryption off clears the password. -/
def setEncrypt : Draft Ct :=
  match payload.backupEncrypt with
  | none => draft
  | some sent =>
    if draft.backupEncrypt = sent then draft
    else
      let turned := { draft with
        backupEncrypt := sent
        changed := draft.changed ++ ["backup_encrypt"] }
      if sent = some true then turned else turned.clearEncryptPassword

/-- All the fields of a request. -/
def setFields : Draft Ct :=
  ((((draft.setPlain payload).setUsername crypto payload env).setPassword crypto payload
    env).setEncryptPassword crypto payload env).setEncrypt payload

/-- The draft on its row. -/
def apply (encrypt : Bool) (row : Instance Ct) : Instance Ct :=
  { row with
    plain := draft.plain
    usernameCt := draft.usernameCt
    passwordCt := draft.passwordCt
    backupEncrypt := encrypt
    backupEncryptPasswordCt := draft.backupEncryptPasswordCt }

theorem id_apply (encrypt : Bool) (row : Instance Ct) : (draft.apply encrypt row).id = row.id :=
  rfl

/-- A command goes to the worker after the commit. -/
def notifies : Bool :=
  draft.changed.any (["cron_expression", "cron_timezone", "enabled", "name"].contains ·) ||
    (payload.reencryptExistingBackups && draft.passwordActuallyChanged)

end Draft

def updateDraft (row : Instance Ct) (env : Surroundings Salt) (payload : InstanceUpdate) :
    Except Failure (Draft Ct) := do
  (checkCron lib ((payload.plain .cronExpression).bind asText)).mapError .schedule
  (checkTz lib ((payload.plain .cronTimezone).bind asText)).mapError .schedule
  let draft := row.draft.setFields crypto payload env
  if draft.backupEncrypt = some true ∧ draft.backupEncryptPasswordCt.isNone then
    throw (.http 400 ("backup_encrypt=true requires a backup_encrypt_password " ++
      "(send the new plaintext or keep the existing one via '__set__')."))
  if draft.changed ≠ [] ∧ payload.reencryptExistingBackups ∧ draft.passwordActuallyChanged ∧
      (draft.backupEncrypt ≠ some true ∨ draft.backupEncryptPasswordCt.isNone) then
    throw (.http 400 "re-encrypt requested but encryption is not enabled on this instance")
  return draft

def updateInstance (rows : Instances Ct) (id : Nat) (env : Surroundings Salt)
    (payload : InstanceUpdate) : Instances Ct × Except Failure (Instance Ct) :=
  if !columns.all fun column => (payload.plain column).all column.shape.fits then
    (rows, .error .unprocessable)
  else
    match rows.get id with
    | none => (rows, .error (.http 404 "instance not found"))
    | some row =>
      match updateDraft lib crypto row env payload with
      | .error failure => (rows, .error failure)
      | .ok draft =>
        if draft.changed = [] then (rows, .ok row)
        else
          match draft.backupEncrypt with
          | none => (rows, .error .database)
          | some encrypt =>
            if !env.commits || !storable rows.rows (draft.apply encrypt row) then
              (rows, .error .database)
            else
              (rows.modify id (draft.apply encrypt) (draft.id_apply encrypt),
                if draft.notifies payload && !env.pushes then .error .socket
                else .ok (draft.apply encrypt row))

/-! ### What is read -/

/-- The read model, without the id and the times, which a request does not take. -/
structure InstanceRead where
  plain : Column → Val
  username : String
  backupEncrypt : Bool
  backupEncryptPassword : Option String

/-- `_to_read` -/
def toRead (row : Instance Ct) : InstanceRead where
  plain column :=
    if column = .backupArea ∧ Val.truthy (row.plain column) = false then .str ""
    else row.plain column
  username := (crypto.decrypt row.usernameCt).getD "<decryption failed>"
  backupEncrypt := row.backupEncrypt
  backupEncryptPassword := if row.backupEncryptPasswordCt.isSome then some sentinel else none

/-- What was read, sent back. -/
def InstanceRead.asUpdate (read : InstanceRead) : InstanceUpdate where
  plain column := some (read.plain column)
  username := some (some read.username)
  password := none
  backupEncrypt := some (some read.backupEncrypt)
  backupEncryptPassword := some read.backupEncryptPassword
  reencryptExistingBackups := false

variable {lib crypto}

theorem exists_of_bind {Error α β : Type} {first : Except Error α} {next : α → Except Error β}
    {result : β} (done : first >>= next = .ok result) :
    ∃ value, first = .ok value ∧ next value = .ok result := by
  cases first with
  | error failure => cases done
  | ok value => exact ⟨value, rfl, done⟩

/-- A new row takes the values and the toggle of its request and the password that the rules let
through. -/
theorem createRow_spec {rows : Instances Ct} {env : Surroundings Salt} {payload : InstanceCreate}
    {row : Instance Ct} (made : createRow lib crypto rows env payload = .ok row) :
    row.plain = payload.plain ∧ row.backupEncrypt = payload.backupEncrypt ∧
      createPassword crypto env payload = .ok row.backupEncryptPasswordCt := by
  unfold createRow at made
  split at made
  · obtain ⟨-, -, made⟩ := exists_of_bind made
    obtain ⟨-, -, made⟩ := exists_of_bind made
    obtain ⟨stored, taken, made⟩ := exists_of_bind made
    cases made
    exact ⟨rfl, rfl, taken⟩
  · cases made

theorem mapError_ok {Error Error' α : Type} {f : Error → Error'} {result : Except Error α}
    {value : α} : result.mapError f = .ok value ↔ result = .ok value := by
  cases result with
  | _ => simp [Except.mapError]

/-- When a draft is not refused, and what it then is. -/
theorem updateDraft_iff {row : Instance Ct} {env : Surroundings Salt} {payload : InstanceUpdate}
    {draft : Draft Ct} : updateDraft lib crypto row env payload = .ok draft ↔
      checkCron lib ((payload.plain .cronExpression).bind asText) = .ok () ∧
      checkTz lib ((payload.plain .cronTimezone).bind asText) = .ok () ∧
      draft = row.draft.setFields crypto payload env ∧
      ¬(draft.backupEncrypt = some true ∧ draft.backupEncryptPasswordCt.isNone = true) ∧
      ¬(draft.changed ≠ [] ∧ payload.reencryptExistingBackups = true ∧
        draft.passwordActuallyChanged = true ∧
        (draft.backupEncrypt ≠ some true ∨ draft.backupEncryptPasswordCt.isNone = true)) := by
  unfold updateDraft
  apply Iff.intro
  · intro made
    obtain ⟨⟨⟩, cron, made⟩ := exists_of_bind made
    obtain ⟨⟨⟩, tz, made⟩ := exists_of_bind made
    simp only at made
    split at made
    · cases made
    next keyed =>
      split at made
      · cases made
      next encrypting =>
        cases made
        exact ⟨mapError_ok.mp cron, mapError_ok.mp tz, rfl, keyed, encrypting⟩
  · intro ⟨cron, tz, same, keyed, encrypting⟩
    rw [mapError_ok.mpr cron, mapError_ok.mpr tz]
    subst same
    show (if _ then _ else if _ then _ else _) = _
    rw [if_neg keyed, if_neg encrypting]
    rfl

/-- A draft that is not refused has all the fields of its request, and a password if encryption is
on. -/
theorem updateDraft_spec {row : Instance Ct} {env : Surroundings Salt} {payload : InstanceUpdate}
    {draft : Draft Ct} (made : updateDraft lib crypto row env payload = .ok draft) :
    draft = row.draft.setFields crypto payload env ∧
      ¬(draft.backupEncrypt = some true ∧ draft.backupEncryptPasswordCt.isNone = true) := by
  obtain ⟨-, -, fields, keyed, -⟩ := updateDraft_iff.mp made
  exact ⟨fields, keyed⟩

variable (lib crypto)

/-- A creation leaves the rows as they were or commits the new one. -/
theorem createInstance_spec (rows : Instances Ct) (env : Surroundings Salt)
    (payload : InstanceCreate) :
    (createInstance lib crypto rows env payload).1 = rows ∨
      ∃ row, createRow lib crypto rows env payload = .ok row ∧
        createInstance lib crypto rows env payload = (rows.insert row,
          if (truthy (asText (row.plain .cronExpression))).isSome && !env.pushes then
            .error .socket
          else .ok row) := by
  unfold createInstance
  cases made : createRow lib crypto rows env payload with
  | error failure => exact .inl rfl
  | ok row =>
    simp only
    split
    · exact .inl rfl
    · exact .inr ⟨row, rfl, rfl⟩

/-- An update leaves the rows as they were or commits the draft of its row. -/
theorem updateInstance_spec (rows : Instances Ct) (id : Nat) (env : Surroundings Salt)
    (payload : InstanceUpdate) :
    (updateInstance lib crypto rows id env payload).1 = rows ∨
      ∃ row draft encrypt, rows.get id = some row ∧
        updateDraft lib crypto row env payload = .ok draft ∧ draft.backupEncrypt = some encrypt ∧
        updateInstance lib crypto rows id env payload =
          (rows.modify id (draft.apply encrypt) (draft.id_apply encrypt),
            if draft.notifies payload && !env.pushes then .error .socket
            else .ok (draft.apply encrypt row)) := by
  unfold updateInstance
  split
  · exact .inl rfl
  · cases found : rows.get id with
    | none => exact .inl rfl
    | some row =>
      cases made : updateDraft lib crypto row env payload with
      | error failure => exact .inl (by simp only [made])
      | ok draft =>
        simp only [made]
        split
        · exact .inl rfl
        · cases toggle : draft.backupEncrypt with
          | none => exact .inl rfl
          | some encrypt =>
            simp only
            split
            · exact .inl rfl
            · exact .inr ⟨row, draft, encrypt, rfl, made, toggle, rfl⟩

variable {lib crypto}

/-- What an update that is answered with its row has passed, and what it commits. -/
theorem updateInstance_ok {rows : Instances Ct} {id : Nat} {env : Surroundings Salt}
    {payload : InstanceUpdate} {answer : Instance Ct}
    (done : (updateInstance lib crypto rows id env payload).2 = .ok answer) :
    (columns.all fun column => (payload.plain column).all column.shape.fits) = true ∧
      ∃ row draft, rows.get id = some row ∧ updateDraft lib crypto row env payload = .ok draft ∧
        (draft.changed ≠ [] → env.commits = true ∧ ∃ encrypt, draft.backupEncrypt = some encrypt ∧
          (updateInstance lib crypto rows id env payload).1 =
            rows.modify id (draft.apply encrypt) (draft.id_apply encrypt)) := by
  unfold updateInstance at done ⊢
  split at done
  · cases done
  next fits =>
    apply And.intro (by simpa using fits)
    cases found : rows.get id with
    | none =>
      rw [found] at done
      cases done
    | some row =>
      rw [found] at done
      cases made : updateDraft lib crypto row env payload with
      | error failure =>
        simp only [made] at done
        cases done
      | ok draft =>
        refine ⟨row, draft, rfl, made, ?_⟩
        intro changed
        simp only [made, if_neg changed, if_neg fits] at done ⊢
        cases toggle : draft.backupEncrypt with
        | none =>
          rw [toggle] at done
          cases done
        | some encrypt =>
          rw [toggle] at done
          simp only at done ⊢
          split at done
          · cases done
          next taken =>
            rw [if_neg taken]
            simp only [Bool.or_eq_true, not_or] at taken
            exact ⟨by simpa using taken.1, encrypt, rfl, rfl⟩

/-- An update that passes all that is checked commits the draft. -/
theorem updateInstance_eq {rows : Instances Ct} {id : Nat} {env : Surroundings Salt}
    {payload : InstanceUpdate} {row : Instance Ct} {draft : Draft Ct} {encrypt : Bool}
    (fits : (columns.all fun column => (payload.plain column).all column.shape.fits) = true)
    (found : rows.get id = some row)
    (made : updateDraft lib crypto row env payload = .ok draft) (changed : draft.changed ≠ [])
    (toggle : draft.backupEncrypt = some encrypt) (commits : env.commits = true)
    (constraints : storable rows.rows (draft.apply encrypt row) = true) :
    updateInstance lib crypto rows id env payload =
      (rows.modify id (draft.apply encrypt) (draft.id_apply encrypt),
        if draft.notifies payload && !env.pushes then .error .socket
        else .ok (draft.apply encrypt row)) := by
  unfold updateInstance
  rw [fits, found]
  simp only [made, if_neg changed, toggle, commits, constraints]
  rfl

end

end PfsenseBackups.InstanceForms
