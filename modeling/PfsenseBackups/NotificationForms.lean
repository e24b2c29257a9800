import PfsenseBackups.PythonText
import PfsenseBackups.Tables

/-! `_to_read` and `update_notification`: what a notification is read as, and how it is written.
Values are those that the request models have read; a request that they refuse is answered with
422. -/

namespace PfsenseBackups.NotificationForms
open PythonText Tables

/-! ### JSON objects -/

/-- The JSON values, and what Python makes of them. -/
structure Json (Value : Type) where
  string : String → Value
  /-- The text of a value that is a string. -/
  asString : Value → Option String
  asString_string : ∀ text, asString (string text) = some text
  truthy : Value → Bool
  /-- `str(value)` -/
  str : Value → String
  /-- `int(value)`, unless it raises. -/
  int : Value → Option Int

/-- A JSON object: no key twice. -/
structure Fields (Value : Type) where
  entries : List (String × Value)
  distinct : (entries.map Prod.fst).Nodup

namespace Fields

variable {Value : Type} (fields : Fields Value)

def get (key : String) : Option Value :=
  (fields.entries.find? fun entry => entry.1 = key).map Prod.snd

def isEmpty : Bool :=
  fields.entries.isEmpty

theorem keys_map (change : String → Value → Value) :
    (fields.entries.map fun entry => (entry.1, change entry.1 entry.2)).map Prod.fst =
      fields.entries.map Prod.fst := by
  rw [List.map_map]
  rfl

/-- The values are changed under their keys. -/
def change (change : String → Value → Value) : Fields Value where
  entries := fields.entries.map fun entry => (entry.1, change entry.1 entry.2)
  distinct := fields.keys_map change ▸ fields.distinct

/-- `fields[key] = value`, where the key is there. -/
def set (key : String) (value : Value) : Fields Value :=
  fields.change fun name old => if name = key then value else old

/-- `fields.pop(key)` -/
def pop (key : String) : Fields Value where
  entries := fields.entries.filter fun entry => entry.1 ≠ key
  distinct := fields.distinct.sublist (List.filter_sublist.map Prod.fst)

variable {fields} {key : String} {value : Value}

theorem ext_entries {other : Fields Value} (same : fields.entries = other.entries) :
    fields = other := by
  cases fields
  cases other
  cases same
  rfl

theorem mem_of_get (found : fields.get key = some value) : (key, value) ∈ fields.entries := by
  obtain ⟨⟨name, value⟩, entry, rfl⟩ := Option.map_eq_some_iff.mp found
  have same : name = key := by simpa using List.find?_some entry
  exact same ▸ List.mem_of_find?_eq_some entry

theorem get_of_mem (mem : (key, value) ∈ fields.entries) : fields.get key = some value := by
  obtain ⟨entries, distinct⟩ := fields
  change (entries.find? fun entry => entry.1 = key).map Prod.snd = some value
  induction entries with
  | nil => cases mem
  | cons first rest ih =>
    obtain ⟨fresh, distinct⟩ := List.nodup_cons.mp distinct
    rcases List.mem_cons.mp mem with rfl | mem
    · rw [List.find?_cons_of_pos (by simp)]
      rfl
    · have other : first.1 ≠ key := fun same =>
        fresh (same ▸ List.mem_map_of_mem (f := Prod.fst) mem)
      rw [List.find?_cons_of_neg (by simpa using other)]
      exact ih distinct mem

theorem get_change {change : String → Value → Value} :
    (fields.change change).get key = (fields.get key).map (change key) := by
  have test : (fun entry : String × Value => decide (entry.1 = key)) ∘
      (fun entry : String × Value => (entry.1, change entry.1 entry.2)) =
        fun entry => decide (entry.1 = key) := rfl
  rw [get, Fields.change, List.find?_map, test, Option.map_map, get, Option.map_map]
  apply Option.map_congr
  intro entry found
  have same : entry.1 = key := by simpa using List.find?_some found
  rw [Function.comp_apply, Function.comp_apply, same]

theorem change_congr {first second : String → Value → Value}
    (same : ∀ key value, fields.get key = some value → first key value = second key value) :
    fields.change first = fields.change second := by
  apply ext_entries
  apply List.map_congr_left
  intro entry mem
  rw [same entry.1 entry.2 (get_of_mem mem)]

theorem change_change {first second : String → Value → Value} :
    (fields.change first).change second =
      fields.change fun key value => second key (first key value) := by
  apply ext_entries
  exact List.map_map

theorem change_id : fields.change (fun _ value => value) = fields := by
  apply ext_entries
  exact List.map_id' _

end Fields

/-- `json.dumps(value) if value else None`, for an object. -/
def stored {Value : Type} (fields : Option (Fields Value)) : Option (Fields Value) :=
  fields.filter fun fields => !fields.isEmpty

/-! ### Secrets -/

section

variable {Value : Type} (json : Json Value)

/-- `_SECRET_CONFIG_KEYS` -/
def secretConfigKeys : List String :=
  ["access_token", "auth_token", "api_key"]

def sentinel : String :=
  "__set__"

/-- `isinstance(value, str) and value` -/
def filled (value : Value) : Bool :=
  (json.asString value).any (· ≠ "")

/-- A secret is shown as the sentinel. -/
def redact (keys : List String) (key : String) (value : Value) : Value :=
  if key ∈ keys ∧ filled json value = true then json.string sentinel else value

/-- `_redact_config` -/
def redactConfig (config : Option (Fields Value)) : Option (Fields Value) :=
  (stored config).map fun fields => fields.change (redact json secretConfigKeys)

/-- One key of `_merge_secrets`: the sentinel stands for the stored value. -/
def mergeSecret (old merged : Fields Value) (key : String) : Fields Value :=
  if (merged.get key).bind json.asString = some sentinel then
    match old.get key with
    | some value => merged.set key value
    | none => merged.pop key
  else merged

/-- `_merge_secrets` -/
def mergeSecrets (old new : Option (Fields Value)) : Option (Fields Value) :=
  new.map fun new =>
    secretConfigKeys.foldl (mergeSecret json (old.getD ⟨[], List.nodup_nil⟩)) new

theorem mergeSecret_redact {old : Fields Value} {key : String} {keys : List String}
    (other : key ∉ keys) :
    mergeSecret json old (old.change (redact json (key :: keys))) key =
      old.change (redact json keys) := by
  have shown : (old.change (redact json (key :: keys))).get key =
      (old.get key).map (redact json (key :: keys) key) := Fields.get_change
  unfold mergeSecret
  rw [shown]
  cases found : old.get key with
  | none =>
    rw [if_neg (by simp)]
    apply Fields.change_congr
    intro name value there
    have different : name ≠ key := fun same => by
      rw [same, found] at there
      cases there
    simp [redact, different]
  | some value =>
    by_cases secret : filled json value = true
    · have hidden : redact json (key :: keys) key value = json.string sentinel :=
        if_pos ⟨List.mem_cons_self, secret⟩
      rw [Option.map_some, hidden, Option.bind_some, json.asString_string, if_pos rfl]
      simp only
      rw [Fields.set, Fields.change_change]
      apply Fields.change_congr
      intro name value' there
      by_cases same : name = key
      · subst same
        obtain rfl := Option.some.inj (found.symm.trans there)
        simp [redact, other]
      · simp [redact, same]
    · have kept : old.change (redact json (key :: keys)) = old.change (redact json keys) := by
        apply Fields.change_congr
        intro name value' there
        by_cases same : name = key
        · subst same
          obtain rfl := Option.some.inj (found.symm.trans there)
          simp [redact, secret]
        · simp [redact, same]
      have plain : redact json (key :: keys) key value = value := by simp [redact, secret]
      rw [Option.map_some, plain, Option.bind_some, kept, if_neg]
      intro text
      exact secret (by rw [filled, text]; rfl)

/-- What was hidden is filled in again. -/
theorem foldl_mergeSecret {old : Fields Value} {keys : List String} (distinct : keys.Nodup) :
    keys.foldl (mergeSecret json old) (old.change (redact json keys)) = old := by
  induction keys with
  | nil =>
    rw [List.foldl_nil]
    exact (Fields.change_congr fun key value _ => by simp [redact]).trans Fields.change_id
  | cons key keys ih =>
    obtain ⟨other, distinct⟩ := List.nodup_cons.mp distinct
    rw [List.foldl_cons, mergeSecret_redact json other]
    exact ih distinct

/-- A configuration that is sent back as it was read is stored as it was. -/
theorem mergeSecrets_redactConfig (config : Option (Fields Value)) :
    mergeSecrets json config (redactConfig json config) = stored config := by
  unfold redactConfig mergeSecrets
  cases kept : stored config with
  | none => rfl
  | some fields =>
    have whole : config = some fields := (Option.filter_eq_some_iff.mp kept).1
    rw [whole, Option.map_some, Option.map_some, Option.getD_some,
      foldl_mergeSecret json (by decide)]

/-! ### Values of a configuration -/

/-- `str(config.get(key) or "")` -/
def textOf (config : Fields Value) (key : String) : String :=
  match config.get key with
  | none => ""
  | some value => if json.truthy value then json.str value else ""

/-- `int(config.get(key) or default)` -/
def intOf (config : Fields Value) (key : String) (default : Int) : Option Int :=
  match config.get key with
  | none => some default
  | some value => if json.truthy value then json.int value else some default

/-- `(config.get("mode") or "notify") == mode` -/
def hasMode (config : Fields Value) (mode : String) : Bool :=
  match config.get "mode" with
  | none => mode = "notify"
  | some value => if json.truthy value then json.asString value = some mode else mode = "notify"

def lstripSlash (text : String) : String :=
  String.ofList (text.toList.dropWhile (· = '/'))

def rstripSlash (text : String) : String :=
  String.ofList (text.toList.reverse.dropWhile (· = '/')).reverse

/-- `_compose_url` -/
def composeUrl (kind : String) (config : Option (Fields Value)) (fallbackUrl : String) : String :=
  match stored config with
  | none => fallbackUrl
  | some config =>
    if kind = "home_assistant" then
      let base := rstripSlash (textOf json config "base_url")
      let service := textOf json config "service"
      let webhookId := textOf json config "webhook_id"
      if base = "" then fallbackUrl
      else if hasMode json config "notify" then
        if service = "" then fallbackUrl
        else base ++ "/api/services/notify/" ++ lstripSlash service
      else if hasMode json config "webhook" then
        if webhookId = "" then fallbackUrl
        else base ++ "/api/webhook/" ++ lstripSlash webhookId
      else fallbackUrl
    else if kind = "ntfy" then
      let server := rstripSlash (textOf json config "server_url")
      let topic := rstripSlash (lstripSlash (textOf json config "topic"))
      if server = "" || topic = "" then fallbackUrl else server ++ "/" ++ topic
    else fallbackUrl

/-! ### Rows and requests -/

/-- A row, its JSON columns as they are loaded; no value stands for no text. -/
structure Notification (Value : Type) where
  id : Nat
  name : String
  kind : String
  url : String
  trigger : String
  enabled : Bool
  messageFormat : String
  includeInstanceDetails : Bool
  timeoutSeconds : Int
  headers : Option (List (String × String))
  payloadTemplate : Option (Fields Value)
  config : Option (Fields Value)
  instanceIds : Option (List Int)

abbrev Notifications (Value : Type) := Table (Notification Value) Notification.id

/-- A name is not taken twice. -/
def storable (rows : List (Notification Value)) (row : Notification Value) : Bool :=
  rows.all fun other => other.id = row.id || other.name ≠ row.name

def kinds : List String :=
  ["discord", "home_assistant", "ntfy", "healthchecks", "webhook"]

def triggers : List String :=
  ["success", "failure", "always", "change", "stale"]

/-- `_to_read`: the read model has the fields of the row. -/
def toRead (row : Notification Value) : Notification Value :=
  { row with
    kind := if row.kind = "" then "webhook" else row.kind
    config := redactConfig json row.config }

/-- A field is absent, or sent with null or a value; of most it does not matter which of the first
two. -/
structure NotificationUpdate (Value : Type) where
  name : Option (Option String)
  kind : Option (Option String)
  url : Option String
  trigger : Option String
  enabled : Option Bool
  messageFormat : Option String
  includeInstanceDetails : Option Bool
  timeoutSeconds : Option Int
  headers : Option (Option (List (String × String)))
  payloadTemplate : Option (Option (Fields Value))
  config : Option (Option (Fields Value))
  instanceIds : Option (Option (List Int))

/-- What the request model takes. -/
def NotificationUpdate.valid (payload : NotificationUpdate Value) : Bool :=
  payload.kind.join.all kinds.contains && payload.trigger.all triggers.contains

/-- What was read, sent back. -/
def asUpdate (read : Notification Value) : NotificationUpdate Value where
  name := some (some read.name)
  kind := some (some read.kind)
  url := some read.url
  trigger := some read.trigger
  enabled := some read.enabled
  messageFormat := some read.messageFormat
  includeInstanceDetails := some read.includeInstanceDetails
  timeoutSeconds := some read.timeoutSeconds
  headers := some read.headers
  payloadTemplate := some read.payloadTemplate
  config := some read.config
  instanceIds := some read.instanceIds

/-- `_provision_body` -/
structure CheckBody where
  name : Option String
  tags : String
  timeout : Int
  grace : Int

structure Surroundings where
  /-- The Healthchecks API answers what is posted to a URL with a key, whatever it answers. -/
  post : String → String → CheckBody → Bool
  /-- The database takes the commit. -/
  commits : Bool

inductive Failure where
  | http (status : Nat) (detail : String)
  | unprocessable
  | unhandled
  | database

/-! ### `update_notification` -/

def provisionBody (config : Fields Value) (name : Option String) : Option CheckBody :=
  match intOf json config "expected_timeout" 86400, intOf json config "grace" 3600 with
  | some timeout, some grace => some ⟨name, "pfsense-backups", timeout, grace⟩
  | _, _ => none

/-- The check of a provisioned row is updated upstream. -/
def sync (env : Surroundings) (kind : String) (config : Option (Fields Value))
    (name : Option String) : Except Failure Unit :=
  match stored config with
  | none => .ok ()
  | some config =>
    let serverUrl := textOf json config "server_url"
    let apiKey := textOf json config "api_key"
    let uuid := textOf json config "uuid"
    if kind = "healthchecks" ∧ (config.get "provisioned").any json.truthy ∧ serverUrl ≠ "" ∧
        apiKey ≠ "" ∧ uuid ≠ "" then
      match provisionBody json config name with
      | none => .error .unhandled
      | some body =>
        if env.post (rstripSlash serverUrl ++ "/api/v3/checks/" ++ uuid) apiKey body then .ok ()
        else .error .unhandled
    else .ok ()

/-- The configuration after a request, its secrets filled in. -/
def newConfig (row : Notification Value) (payload : NotificationUpdate Value) :
    Option (Fields Value) :=
  match payload.config with
  | none => row.config
  | some sent => mergeSecrets json row.config sent

def setScalars (payload : NotificationUpdate Value) (row : Notification Value) :
    Notification Value :=
  { row with
    name := payload.name.join.getD row.name
    url := payload.url.getD row.url
    trigger := payload.trigger.getD row.trigger
    enabled := payload.enabled.getD row.enabled
    messageFormat := payload.messageFormat.getD row.messageFormat
    includeInstanceDetails := payload.includeInstanceDetails.getD row.includeInstanceDetails
    timeoutSeconds := payload.timeoutSeconds.getD row.timeoutSeconds }

/-- A row for Healthchecks is told of everything. -/
def forceTrigger (row : Notification Value) : Notification Value :=
  { row with trigger := if row.kind = "healthchecks" then "always" else row.trigger }

/-- `json.dumps(value) if value else None`, for a column that was sent. -/
def setColumn {Column : Type} (isEmpty : Column → Bool) (old : Option Column)
    (sent : Option (Option Column)) : Option Column :=
  match sent with
  | none => old
  | some value => value.filter fun value => !isEmpty value

def setColumns (payload : NotificationUpdate Value) (config : Option (Fields Value))
    (row : Notification Value) : Notification Value :=
  { row with
    headers := setColumn List.isEmpty row.headers payload.headers
    payloadTemplate := setColumn Fields.isEmpty row.payloadTemplate payload.payloadTemplate
    config := setColumn Fields.isEmpty row.config (payload.config.map fun _ => config)
    instanceIds := setColumn List.isEmpty row.instanceIds payload.instanceIds }

/-- The kinds whose URL is made of the configuration. -/
def composes (kind : String) : Bool :=
  kind = "home_assistant" || kind = "ntfy"

def setUrl (payload : NotificationUpdate Value) (config : Option (Fields Value))
    (row : Notification Value) : Notification Value :=
  { row with
    url :=
      if composes row.kind && (payload.config.isSome || payload.url.isSome) then
        composeUrl json row.kind config row.url
      else row.url }

/-- The row with everything that a request sets. -/
def write (payload : NotificationUpdate Value) (row : Notification Value) : Notification Value :=
  let config := newConfig json row payload
  setUrl json payload config (setColumns payload config (forceTrigger (setScalars payload row)))

theorem id_write (payload : NotificationUpdate Value) (row : Notification Value) :
    (write json payload row).id = row.id :=
  rfl

/-- `if changed` -/
def changes (payload : NotificationUpdate Value) (row : Notification Value) : Bool :=
  let scalars := setScalars payload row
  scalars.name ≠ row.name || scalars.url ≠ row.url || scalars.trigger ≠ row.trigger ||
    scalars.enabled != row.enabled || scalars.messageFormat ≠ row.messageFormat ||
    scalars.includeInstanceDetails != row.includeInstanceDetails ||
    scalars.timeoutSeconds ≠ row.timeoutSeconds ||
    (row.kind = "healthchecks" && scalars.trigger ≠ "always") || payload.headers.isSome ||
    payload.payloadTemplate.isSome || payload.config.isSome || payload.instanceIds.isSome ||
    (composes row.kind && payload.url.isSome)

def updateNotification (rows : Notifications Value) (id : Nat) (env : Surroundings)
    (payload : NotificationUpdate Value) :
    Notifications Value × Except Failure (Notification Value) :=
  if !payload.valid then (rows, .error .unprocessable)
  else
    match rows.get id with
    | none => (rows, .error (.http 404 "notification not found"))
    | some row =>
      if payload.kind.any (· ≠ some row.kind) then
        (rows, .error (.http 400
          "cannot change a notification's kind; delete and recreate instead"))
      else
        match sync json env row.kind (newConfig json row payload)
            (payload.name.getD (some row.name)) with
        | .error failure => (rows, .error failure)
        | .ok () =>
          if !changes payload row then (rows, .ok row)
          else if !env.commits || !storable rows.rows (write json payload row) then
            (rows, .error .database)
          else (rows.modify id (write json payload) (id_write json payload),
            .ok (write json payload row))

end

end PfsenseBackups.NotificationForms
