import PfsenseBackups.InstanceForms
import PfsenseBackups.NotificationForms
import PfsenseBackups.ReplicationForms

/-! Saving what was read: an instance, the replication settings and a notification, sent back as
the reading endpoints return them. -/

namespace PfsenseBackups.SavedForms
open CronDialects InstanceForms Labels NotificationForms ReplicationForms SchedulePaths Tables

/-! ### Forms -/

/-- What is stored, with the row that is read and sent back. -/
inductive Form (Salt Ct Value : Type) where
  | ofInstance (rows : Instances Ct) (row : Instance Ct) (found : rows.get row.id = some row)
      (constraints : InstanceForms.storable rows.rows row = true)
      (env : InstanceForms.Surroundings Salt)
  | ofReplication (row : Option (ReplicationSettings Ct))
      (constraints : ReplicationForms.storable (row.getD defaults) = true)
      (env : InstanceForms.Surroundings Salt)
  | ofNotification (rows : Notifications Value) (row : Notification Value)
      (found : rows.get row.id = some row)
      (constraints : NotificationForms.storable rows.rows row = true)
      (env : NotificationForms.Surroundings)

section

variable {Zone Salt Ct Value : Type} (lib : Libraries Zone) (crypto : Crypto Salt Ct)
  (json : Json Value)

/-- A secret keeps its text, or its ciphertext if that cannot be decrypted. -/
def SecretKept (before after : Ct) : Prop :=
  match crypto.decrypt before with
  | some text => crypto.decrypt after = some text
  | none => after = before

/-- An instance keeps its settings and its secrets. -/
structure InstanceKept (before after : Instance Ct) : Prop where
  id : after.id = before.id
  plain : after.plain = before.plain
  username : SecretKept crypto before.usernameCt after.usernameCt
  password : SecretKept crypto before.passwordCt after.passwordCt
  backupEncrypt : after.backupEncrypt = before.backupEncrypt
  backupEncryptPassword : Option.Rel (SecretKept crypto) before.backupEncryptPasswordCt
    after.backupEncryptPasswordCt

/-- The replication settings keep theirs. -/
structure ReplicationKept (before after : ReplicationSettings Ct) : Prop where
  plain : after.plain = before.plain
  secret : ∀ name, Option.Rel (SecretKept crypto) (before.secret name) (after.secret name)

/-- What was read is accepted, and leaves everything as it was. -/
def SavesUnchanged : Form Salt Ct Value → Prop
  | .ofInstance rows row _ _ env =>
    let saved := updateInstance lib crypto rows row.id env
      (InstanceForms.toRead crypto row).asUpdate
    (∃ answer, saved.2 = .ok answer) ∧
      ∀ id, Option.Rel (InstanceKept crypto) (rows.get id) (saved.1.get id)
  | .ofReplication row _ env =>
    let saved := putReplication crypto env row (ReplicationForms.toRead row).asUpdate
    (∃ answer, saved.2 = .ok answer) ∧
      ReplicationKept crypto (row.getD defaults) (saved.1.getD defaults)
  | .ofNotification rows row _ _ env =>
    let saved := updateNotification json rows row.id env
      (asUpdate (NotificationForms.toRead json row))
    (∃ answer, saved.2 = .ok answer) ∧ ∀ id, saved.1.get id = rows.get id

/-- The username can be decrypted, the values pass the checks of a request, and encryption has a
password. -/
structure InstanceFits (row : Instance Ct) (env : InstanceForms.Surroundings Salt) : Prop where
  decrypts : (crypto.decrypt row.usernameCt).isSome = true
  values : ∀ column : InstanceForms.Column, column.shape.fits (row.plain column) = true
  cron : checkCron lib (asText (row.plain .cronExpression)) = .ok ()
  timezone : checkTz lib (asText (row.plain .cronTimezone)) = .ok ()
  keyed : row.backupEncrypt = true → row.backupEncryptPasswordCt ≠ none
  commits : env.commits = true

/-- The values pass the checks of a request, and wrapping has a password. -/
structure ReplicationFits (row : ReplicationSettings Ct) (env : InstanceForms.Surroundings Salt) :
    Prop where
  values : ∀ column : ReplicationForms.Column, column.fits (row.plain column) = true
  keyed : wraps row = true → row.secret .replicationPassword ≠ none
  commits : env.commits = true

/-- The row is one that the handlers write: of a known kind and trigger, without an empty JSON
column, and with the URL that its configuration makes. The Healthchecks API takes the update of a
provisioned row. -/
structure NotificationFits (row : Notification Value) (env : NotificationForms.Surroundings) :
    Prop where
  kind : row.kind ∈ kinds
  trigger : row.trigger ∈ triggers
  always : row.kind = "healthchecks" → row.trigger = "always"
  headers : row.headers ≠ some []
  payloadTemplate : ∀ fields, row.payloadTemplate = some fields → fields.isEmpty = false
  config : ∀ fields, row.config = some fields → fields.isEmpty = false
  instanceIds : row.instanceIds ≠ some []
  url : composes row.kind = true → composeUrl json row.kind row.config row.url = row.url
  synced : sync json env row.kind row.config (some row.name) = .ok ()
  commits : env.commits = true

def Fits : Form Salt Ct Value → Prop
  | .ofInstance _ row _ _ env => InstanceFits lib crypto row env
  | .ofReplication row _ env => ReplicationFits (row.getD defaults) env
  | .ofNotification _ row _ _ env => NotificationFits json row env

variable {lib crypto json}

theorem SecretKept.refl (ct : Ct) : SecretKept crypto ct ct := by
  unfold SecretKept
  split
  · assumption
  · rfl

theorem SecretKept.rel_refl (ct : Option Ct) : Option.Rel (SecretKept crypto) ct ct := by
  cases ct with
  | none => exact .none
  | some ct => exact .some (SecretKept.refl ct)

/-- A new token holds the old text only where that could be read. -/
theorem SecretKept.encrypt_iff {ct : Ct} {salt : Salt} {text : String} :
    SecretKept crypto ct (crypto.encrypt salt ((crypto.decrypt ct).getD text)) ↔
      (crypto.decrypt ct).isSome = true := by
  unfold SecretKept
  cases read : crypto.decrypt ct with
  | some text => simp [crypto.decrypt_encrypt]
  | none =>
    simp only [Option.getD_none, Option.isSome_none, Bool.false_eq_true, iff_false]
    intro same
    have readable := crypto.decrypt_encrypt salt text
    rw [same, read] at readable
    cases readable

/-! ### Instances -/

theorem setEncryptPassword_kept {draft : Draft Ct} {payload : InstanceUpdate}
    {env : InstanceForms.Surroundings Salt}
    (sent : payload.backupEncryptPassword =
      some (if draft.backupEncryptPasswordCt.isSome then some InstanceForms.sentinel else none)) :
    draft.setEncryptPassword crypto payload env = draft := by
  unfold Draft.setEncryptPassword
  rw [sent]
  cases kept : draft.backupEncryptPasswordCt with
  | none =>
    show draft.clearEncryptPassword = draft
    rw [Draft.clearEncryptPassword, kept]
    rfl
  | some ct => rfl

theorem setEncrypt_kept {draft : Draft Ct} {payload : InstanceUpdate}
    (sent : payload.backupEncrypt = some draft.backupEncrypt) :
    draft.setEncrypt payload = draft := by
  unfold Draft.setEncrypt
  rw [sent]
  exact if_pos rfl

/-- The draft that an instance's own form makes of it. -/
theorem setFields_toRead (row : Instance Ct) (env : InstanceForms.Surroundings Salt) :
    row.draft.setFields crypto (InstanceForms.toRead crypto row).asUpdate env =
      { plain := (InstanceForms.toRead crypto row).plain
        usernameCt := crypto.encrypt (env.draw "username")
          (InstanceForms.toRead crypto row).username
        passwordCt := row.passwordCt
        backupEncrypt := some row.backupEncrypt
        backupEncryptPasswordCt := row.backupEncryptPasswordCt
        changed := (InstanceForms.columns.filter fun column =>
          decide ((InstanceForms.toRead crypto row).plain column ≠ row.plain column)).map
            InstanceForms.Column.text ++ ["username"]
        passwordActuallyChanged := false } := by
  rw [Draft.setFields, setEncryptPassword_kept rfl, setEncrypt_kept rfl]
  rfl

theorem plain_toRead {row : Instance Ct}
    (fits : InstanceForms.Column.backupArea.shape.fits (row.plain .backupArea) = true)
    (stored : row.plain .backupArea ≠ .none) :
    (InstanceForms.toRead crypto row).plain = row.plain := by
  funext column
  show (if _ then _ else _) = _
  split
  next blank =>
    obtain ⟨rfl, blank⟩ := blank
    cases area : row.plain .backupArea with
    | none => exact (stored area).elim
    | str text =>
      rw [area] at blank
      have empty : text = "" := by simpa [Val.truthy] using blank
      rw [empty]
    | _ =>
      rw [area] at fits
      cases fits
  · rfl

theorem area_of_storable {rows : List (Instance Ct)} {row : Instance Ct}
    (constraints : InstanceForms.storable rows row = true) : row.plain .backupArea ≠ .none := by
  have present := List.all_eq_true.mp (Bool.and_eq_true_iff.mp constraints).1 .backupArea
    (InstanceForms.mem_columns _)
  simpa [InstanceForms.Column.nullable] using present

theorem InstanceKept.refl (row : Instance Ct) : InstanceKept crypto row row where
  id := rfl
  plain := rfl
  username := SecretKept.refl _
  password := SecretKept.refl _
  backupEncrypt := rfl
  backupEncryptPassword := SecretKept.rel_refl _

/-- The draft of a form that leaves the values as they were. -/
def ownDraft (crypto : Crypto Salt Ct) (row : Instance Ct)
    (env : InstanceForms.Surroundings Salt) : Draft Ct :=
  { row.draft with
    usernameCt := crypto.encrypt (env.draw "username") (InstanceForms.toRead crypto row).username
    changed := ["username"] }

theorem updateDraft_toRead {row : Instance Ct} {env : InstanceForms.Surroundings Salt}
    (same : (InstanceForms.toRead crypto row).plain = row.plain)
    (fits : InstanceFits lib crypto row env) :
    updateDraft lib crypto row env (InstanceForms.toRead crypto row).asUpdate =
      .ok (ownDraft crypto row env) := by
  have draft := @setFields_toRead _ _ crypto row env
  rw [same] at draft
  simp only [ne_eq, not_true, decide_false, List.filter_false, List.map_nil,
    List.nil_append] at draft
  apply updateDraft_iff.mpr
  refine ⟨?_, ?_, draft.symm, ?_, ?_⟩
  · show checkCron lib (asText ((InstanceForms.toRead crypto row).plain _)) = _
    rw [same]
    exact fits.cron
  · show checkTz lib (asText ((InstanceForms.toRead crypto row).plain _)) = _
    rw [same]
    exact fits.timezone
  · intro given
    obtain ⟨on, absent⟩ := given
    exact fits.keyed (Option.some.inj on) (Option.isNone_iff_eq_none.mp absent)
  · intro reencrypts
    cases reencrypts.2.1

/-- An instance's own form leaves it as it was if its username can be decrypted and its values
still pass the checks. -/
theorem instance_iff (rows : Instances Ct) (row : Instance Ct)
    (found : rows.get row.id = some row)
    (constraints : InstanceForms.storable rows.rows row = true)
    (env : InstanceForms.Surroundings Salt) :
    SavesUnchanged lib crypto json (.ofInstance rows row found constraints env) ↔
      InstanceFits lib crypto row env := by
  apply Iff.intro
  · intro given
    obtain ⟨⟨answer, done⟩, kept⟩ := given
    obtain ⟨values, row', draft, found', made, committed⟩ := updateInstance_ok done
    obtain rfl := Option.some.inj (found.symm.trans found')
    obtain ⟨cron, timezone, rfl, keyed, -⟩ := updateDraft_iff.mp made
    rw [setFields_toRead] at committed keyed
    obtain ⟨commits, encrypt, toggle, saved⟩ := committed (by simp)
    have own := kept row.id
    rw [saved, Table.get_modify, if_pos rfl, found] at own
    cases own
    next own =>
      have same : (InstanceForms.toRead crypto row).plain = row.plain := own.plain
      exact {
        decrypts := SecretKept.encrypt_iff.mp own.username
        values := fun column => by
          have value := List.all_eq_true.mp values column (InstanceForms.mem_columns column)
          rw [← same]
          exact value
        cron := by
          rw [← same]
          exact cron
        timezone := by
          rw [← same]
          exact timezone
        keyed := fun on absent => keyed ⟨congrArg some on, by simp [absent]⟩
        commits }
  · intro fits
    have same : (InstanceForms.toRead crypto row).plain = row.plain :=
      plain_toRead (fits.values _) (area_of_storable constraints)
    have values : (InstanceForms.columns.all fun column =>
        ((InstanceForms.toRead crypto row).asUpdate.plain column).all column.shape.fits) =
          true := by
      apply List.all_eq_true.mpr
      intro column _
      show column.shape.fits ((InstanceForms.toRead crypto row).plain column) = true
      rw [same]
      exact fits.values column
    have saved := updateInstance_eq values found (updateDraft_toRead same fits)
      (List.cons_ne_nil _ _) rfl fits.commits constraints
    have quiet : (ownDraft crypto row env).notifies (InstanceForms.toRead crypto row).asUpdate =
        false := rfl
    rw [quiet] at saved
    unfold SavesUnchanged
    simp only [saved]
    apply And.intro ⟨_, rfl⟩
    intro id
    rw [Table.get_modify]
    split
    next own =>
      rw [own, found]
      exact .some { InstanceKept.refl row with
        username := SecretKept.encrypt_iff.mpr fits.decrypts }
    · cases rows.get id with
      | none => exact .none
      | some other => exact .some (InstanceKept.refl other)

/-! ### Replication settings -/

/-- The form of the replication settings leaves them as they were if their values pass the checks
and wrapping has a password. -/
theorem replication_iff (row : Option (ReplicationSettings Ct))
    (constraints : ReplicationForms.storable (row.getD defaults) = true)
    (env : InstanceForms.Surroundings Salt) :
    SavesUnchanged lib crypto json (.ofReplication row constraints env) ↔
      ReplicationFits (row.getD defaults) env := by
  have values : (ReplicationForms.columns.all fun column =>
      ((ReplicationForms.toRead row).asUpdate.plain column).all column.fits) = true ↔
      ∀ column : ReplicationForms.Column, column.fits ((row.getD defaults).plain column) = true :=
    List.all_eq_true.trans ⟨fun all column => all column (ReplicationForms.mem_columns column),
      fun all column _ => all column⟩
  simp only [SavesUnchanged, putReplication, ReplicationForms.setFields_toRead]
  apply Iff.intro
  · intro given
    obtain ⟨⟨answer, done⟩, _⟩ := given
    split at done
    · cases done
    next fits =>
      split at done
      · cases done
      next keyed =>
        split at done
        · cases done
        next taken =>
          simp only [Bool.or_eq_true, not_or] at taken
          exact {
            values := values.mp (by simpa using fits)
            keyed := fun wrapped absent => keyed (by rw [wrapped, absent]; rfl)
            commits := by simpa using taken.1 }
  · intro fits
    have keyed : ¬(wraps (row.getD defaults) &&
        ((row.getD defaults).secret .replicationPassword).isNone) = true := by
      intro unkeyed
      obtain ⟨wrapped, absent⟩ := Bool.and_eq_true_iff.mp unkeyed
      exact fits.keyed wrapped (Option.isNone_iff_eq_none.mp absent)
    rw [values.mpr fits.values]
    simp only [Bool.not_true, Bool.false_eq_true, if_false, if_neg keyed, fits.commits,
      constraints, Bool.or_self]
    exact ⟨⟨_, rfl⟩, rfl, fun _ => SecretKept.rel_refl _⟩

/-! ### Notifications -/

/-- The row that its own form makes of a notification. -/
def ownRow (json : Json Value) (row : Notification Value) : Notification Value :=
  { row with
    trigger := if row.kind = "healthchecks" then "always" else row.trigger
    headers := row.headers.filter fun headers => !headers.isEmpty
    payloadTemplate := NotificationForms.stored row.payloadTemplate
    config := NotificationForms.stored row.config
    instanceIds := row.instanceIds.filter fun ids => !ids.isEmpty
    url := if composes row.kind then composeUrl json row.kind row.config row.url else row.url }

theorem stored_stored (fields : Option (Fields Value)) :
    NotificationForms.stored (NotificationForms.stored fields) =
      NotificationForms.stored fields := by
  simp only [NotificationForms.stored, Option.filter_filter, Bool.and_self]

theorem newConfig_toRead (row : Notification Value) :
    newConfig json row (asUpdate (NotificationForms.toRead json row)) =
      NotificationForms.stored row.config :=
  mergeSecrets_redactConfig json row.config

theorem write_toRead (row : Notification Value) :
    write json (asUpdate (NotificationForms.toRead json row)) row = ownRow json row := by
  have url : composeUrl json row.kind (NotificationForms.stored row.config) row.url =
      composeUrl json row.kind row.config row.url := by
    unfold composeUrl
    rw [stored_stored]
  have config : setColumn Fields.isEmpty row.config
      (some (NotificationForms.stored row.config)) = NotificationForms.stored row.config :=
    stored_stored row.config
  unfold write
  rw [newConfig_toRead]
  simp only [setUrl, setColumns, asUpdate, NotificationForms.toRead, Option.map_some]
  simp only [forceTrigger, setScalars, Option.join_some, Option.getD_some, Option.isSome_some,
    Bool.true_or, Bool.and_true, url]
  rw [config]
  rfl

theorem sync_stored (env : NotificationForms.Surroundings) (kind : String)
    (config : Option (Fields Value)) (name : Option String) :
    sync json env kind (NotificationForms.stored config) name = sync json env kind config name := by
  unfold sync
  rw [stored_stored]

theorem updateNotification_toRead {rows : Notifications Value} {row : Notification Value}
    (found : rows.get row.id = some row) (env : NotificationForms.Surroundings) :
    let payload := asUpdate (NotificationForms.toRead json row)
    updateNotification json rows row.id env payload =
      if !payload.valid then (rows, .error .unprocessable)
      else if row.kind = "" then
        (rows, .error (.http 400
          "cannot change a notification's kind; delete and recreate instead"))
      else
        match sync json env row.kind row.config (some row.name) with
        | .error failure => (rows, .error failure)
        | .ok () =>
          if !env.commits || !NotificationForms.storable rows.rows (ownRow json row) then
            (rows, .error .database)
          else (rows.modify row.id (write json payload) (id_write json payload),
            .ok (ownRow json row)) := by
  have changed : changes (asUpdate (NotificationForms.toRead json row)) row = true := by
    simp [changes, asUpdate]
  intro payload
  unfold updateNotification
  rw [found]
  simp only [payload]
  rw [changed, newConfig_toRead, sync_stored, write_toRead]
  split
  · rfl
  · by_cases blank : row.kind = ""
    · have other : (asUpdate (NotificationForms.toRead json row)).kind.any
          (· ≠ some row.kind) = true := by
        simp [asUpdate, NotificationForms.toRead, blank]
      rw [if_pos other, if_pos blank]
    · have own : ¬(asUpdate (NotificationForms.toRead json row)).kind.any
          (· ≠ some row.kind) = true := by
        simp [asUpdate, NotificationForms.toRead, blank]
      rw [if_neg own, if_neg blank]
      rfl

theorem valid_toRead {row : Notification Value} (named : row.kind ≠ "") :
    (asUpdate (NotificationForms.toRead json row)).valid = true ↔
      row.kind ∈ kinds ∧ row.trigger ∈ triggers := by
  simp [NotificationUpdate.valid, asUpdate, NotificationForms.toRead, named]

theorem filter_eq_self {Column : Type} {test : Column → Bool} {column : Option Column} :
    (column.filter fun value => !test value) = column ↔
      ∀ value, column = some value → test value = false := by
  cases column with
  | none => simp
  | some value => simp

theorem ownRow_eq_self {row : Notification Value} : ownRow json row = row ↔
    (row.kind = "healthchecks" → row.trigger = "always") ∧ row.headers ≠ some [] ∧
    (∀ fields, row.payloadTemplate = some fields → fields.isEmpty = false) ∧
    (∀ fields, row.config = some fields → fields.isEmpty = false) ∧ row.instanceIds ≠ some [] ∧
    (composes row.kind = true → composeUrl json row.kind row.config row.url = row.url) := by
  apply Iff.intro
  · intro same
    have trigger := congrArg Notification.trigger same
    have headers := filter_eq_self.mp (congrArg Notification.headers same)
    have instanceIds := filter_eq_self.mp (congrArg Notification.instanceIds same)
    have url := congrArg Notification.url same
    refine ⟨?_, ?_, filter_eq_self.mp (congrArg Notification.payloadTemplate same),
      filter_eq_self.mp (congrArg Notification.config same), ?_, ?_⟩
    · intro healthchecks
      exact trigger.symm.trans (if_pos healthchecks)
    · intro empty
      cases headers [] empty
    · intro empty
      cases instanceIds [] empty
    · intro composed
      exact (if_pos composed).symm.trans url
  · intro given
    obtain ⟨always, headers, payloadTemplate, config, instanceIds, url⟩ := given
    have trigger : (if row.kind = "healthchecks" then "always" else row.trigger) =
        row.trigger := by
      split
      next healthchecks => exact (always healthchecks).symm
      · rfl
    have composed : (if composes row.kind then composeUrl json row.kind row.config row.url
        else row.url) = row.url := by
      split
      next composed => exact url composed
      · rfl
    have filled : (row.headers.filter fun headers => !headers.isEmpty) = row.headers :=
      filter_eq_self.mpr fun value sent => List.isEmpty_eq_false_iff.mpr fun empty =>
        headers (empty ▸ sent)
    have scope : (row.instanceIds.filter fun ids => !ids.isEmpty) = row.instanceIds :=
      filter_eq_self.mpr fun value sent => List.isEmpty_eq_false_iff.mpr fun empty =>
        instanceIds (empty ▸ sent)
    unfold ownRow NotificationForms.stored
    rw [trigger, composed, filled, scope, filter_eq_self.mpr payloadTemplate,
      filter_eq_self.mpr config]

/-- The form of a notification leaves it as it was if it is as the handlers write it and the update
of its check goes through. -/
theorem notification_iff (rows : Notifications Value) (row : Notification Value)
    (found : rows.get row.id = some row)
    (constraints : NotificationForms.storable rows.rows row = true)
    (env : NotificationForms.Surroundings) :
    SavesUnchanged lib crypto json (.ofNotification rows row found constraints env) ↔
      NotificationFits json row env := by
  simp only [SavesUnchanged, updateNotification_toRead found]
  apply Iff.intro
  · intro given
    obtain ⟨⟨answer, done⟩, kept⟩ := given
    split at done
    · cases done
    next valid =>
      split at done
      · cases done
      next named =>
        cases synced : sync json env row.kind row.config (some row.name) with
        | error failure =>
          rw [synced] at done
          cases done
        | ok done' =>
          rw [synced] at done
          simp only at done
          split at done
          · cases done
          next taken =>
            have own := kept row.id
            rw [if_neg valid, if_neg named, synced] at own
            simp only [if_neg taken] at own
            rw [Table.get_modify, if_pos rfl, found] at own
            have same : ownRow json row = row :=
              (write_toRead row).symm.trans (Option.some.inj own)
            obtain ⟨always, headers, payloadTemplate, config, instanceIds, url⟩ :=
              ownRow_eq_self.mp same
            obtain ⟨kind, trigger⟩ := (valid_toRead named).mp (by simpa using valid)
            simp only [Bool.or_eq_true, not_or] at taken
            exact ⟨kind, trigger, always, headers, payloadTemplate, config, instanceIds, url,
              synced, by simpa using taken.1⟩
  · intro fits
    have named : row.kind ≠ "" := by
      intro blank
      have known := fits.kind
      rw [blank] at known
      exact absurd known (by decide)
    have same : ownRow json row = row := ownRow_eq_self.mpr ⟨fits.always, fits.headers,
      fits.payloadTemplate, fits.config, fits.instanceIds, fits.url⟩
    have valid := (@valid_toRead _ json _ named).mpr ⟨fits.kind, fits.trigger⟩
    rw [valid, fits.synced, same]
    simp only [Bool.not_true, Bool.false_eq_true, if_false, if_neg named, fits.commits,
      constraints, Bool.or_self]
    apply And.intro ⟨_, rfl⟩
    intro id
    rw [Table.get_modify]
    split
    next own =>
      rw [own, found, Option.map_some, write_toRead, same]
    · rfl

/-- A form that is saved as it was read changes nothing exactly if what it was read from is as the
handlers write it, and can be decrypted. -/
theorem savesUnchanged_iff (form : Form Salt Ct Value) :
    SavesUnchanged lib crypto json form ↔ Fits lib crypto json form := by
  cases form with
  | ofInstance rows row found constraints env =>
    exact instance_iff rows row found constraints env
  | ofReplication row constraints env => exact replication_iff row constraints env
  | ofNotification rows row found constraints env =>
    exact notification_iff rows row found constraints env

end

/-! ### A lost key -/

/-- Texts that are sealed with their salt, and tokens of a key that is gone. -/
def sealing : Crypto String (String × Option String) where
  encrypt salt text := (salt, some text)
  decrypt ct := ct.2
  decrypt_encrypt _ _ := rfl

/-- JSON with no values but strings. -/
def texts : Json String where
  string text := text
  asString text := some text
  asString_string _ := rfl
  truthy text := text ≠ ""
  str text := text
  int text := text.toInt?

def quiet : InstanceForms.Surroundings String where
  draw field := field
  commits := true
  pushes := true

/-- An instance whose secrets were sealed with a key that is gone. -/
def rekeyed : Instance (String × Option String) where
  id := 1
  plain
    | .name => .str "office"
    | .url => .str "https://10.0.0.1"
    | .backupPrefix => .str "office-"
    | .cronTimezone => .str "UTC"
    | .timeoutSeconds => .int 60
    | .retentionCount => .int 30
    | .backupArea => .str ""
    | .verifySsl | .enabled | .replicate | .backupIncludePackages => .bool true
    | .compress | .backupIncludeRrd | .backupIncludeSsh => .bool false
    | _ => .none
  usernameCt := ("old key", none)
  passwordCt := ("old key", none)
  backupEncrypt := false
  backupEncryptPasswordCt := none

def office : Instances (String × Option String) where
  rows := [rekeyed]
  distinct := List.nodup_singleton _

/-- Its form replaces the username by the text that stands for it. -/
theorem rekeyed_overwritten :
    ¬∀ form : Form String (String × Option String) String,
      SavesUnchanged dialects sealing texts form := by
  intro always
  have saved := always (.ofInstance office rekeyed rfl rfl quiet)
  have fits := (instance_iff office rekeyed rfl rfl quiet).mp saved
  cases fits.decrypts

end PfsenseBackups.SavedForms
