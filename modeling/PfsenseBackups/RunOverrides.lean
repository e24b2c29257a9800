import PfsenseBackups.EncryptionSettings
import PfsenseBackups.IpcCommands

/-! A manual backup, from its request to the form that pfSense is sent: the one-shot overrides of
the web, their way over the wire, and what the worker makes of them with the instance. -/

namespace PfsenseBackups.RunOverrides
open CronDialects EncryptionSettings InstanceForms IpcCommands Labels PythonText Runs Tables Value

/-! ### The web -/

/-- `BackupNowRequest`, and `BackupAllRequest` with the same fields: a field is absent, or sent with
null or a value. -/
structure BackupNowRequest where
  backupArea : Option (Option String)
  backupIncludeRrd : Option (Option Bool)
  backupIncludePackages : Option (Option Bool)
  backupIncludeSsh : Option (Option Bool)
  backupEncrypt : Option (Option Bool)
  backupEncryptPassword : Option (Option String)

namespace BackupNowRequest

def empty : BackupNowRequest :=
  ⟨none, none, none, none, none, none⟩

/-- `not set_fields` -/
def isUnset (request : BackupNowRequest) : Bool :=
  request.backupArea.isNone && request.backupIncludeRrd.isNone &&
    request.backupIncludePackages.isNone && request.backupIncludeSsh.isNone &&
    request.backupEncrypt.isNone && request.backupEncryptPassword.isNone

def AreaKnown (request : BackupNowRequest) : Prop :=
  ∀ area ∈ request.backupArea.join, area ∈ backupAreas

instance (request : BackupNowRequest) : Decidable request.AreaKnown :=
  inferInstanceAs (Decidable (∀ area ∈ request.backupArea.join, area ∈ backupAreas))

end BackupNowRequest

section Web

variable {Salt : Type} (crypto : Crypto Salt String) (salt : Salt)

/-- `_build_overrides`, which raises where the overrides are not valid. -/
def buildOverrides (request : Option BackupNowRequest) : Option (Option BackupOverrides) :=
  match request with
  | none => some none
  | some request =>
    if request.isUnset then some none
    else if known : request.AreaKnown then
      some (some {
        backupArea := request.backupArea.join
        backupIncludeRrd := request.backupIncludeRrd.join
        backupIncludePackages := request.backupIncludePackages.join
        backupIncludeSsh := request.backupIncludeSsh.join
        backupEncrypt := request.backupEncrypt.join
        backupEncryptPasswordCt :=
          (truthy request.backupEncryptPassword.join).map (crypto.encrypt salt)
        known })
    else none

/-- What a request leaves: the status of its answer, whether its job is committed, and the command
that is sent. -/
structure Handled where
  status : Nat
  job : Bool
  sent : Option IpcCommand

/-- `backup_now` -/
def backupNow (rows : Instances String) (instanceId : Nat) (jobId : Int)
    (request : Option BackupNowRequest) : Handled :=
  match rows.get instanceId with
  | none => ⟨404, false, none⟩
  | some _ =>
    -- The job is committed before the overrides are built.
    match buildOverrides crypto salt request with
    | none => ⟨500, true, none⟩
    | some overrides => ⟨200, true, some (.runBackup instanceId jobId overrides)⟩

/-- `run_all_backups` -/
def runAllBackups (jobId : Int) (request : Option BackupNowRequest) : Handled :=
  match buildOverrides crypto salt request with
  | none => ⟨500, true, none⟩
  | some overrides => ⟨200, true, some (.runBackupAll jobId overrides)⟩

end Web

/-! ### The worker -/

structure BackupSettings where
  directory : String
  filenameFormat : String
  timestampFormat : String

structure InstanceSnapshot where
  id : Nat
  /-- The columns that are taken as they are. -/
  plain : Column → Val
  username : String
  password : String
  settings : BackupSettings
  backupArea : Val
  backupIncludeRrd : Val
  backupIncludePackages : Val
  backupIncludeSsh : Val
  backupEncrypt : Bool
  backupEncryptPassword : Option String

section Worker

variable {Salt : Type} (crypto : Crypto Salt String)

/-- The exception for a token that is not valid has no text. -/
def decrypted (ct : String) : Except String String :=
  (crypto.decrypt ct).elim (.error "") .ok

def decryptedIf : Option String → Except String (Option String)
  | none => return none
  | some ct => (decrypted crypto ct).map some

/-- `_snapshot`. A token is never empty. -/
def snapshot (settings : Option BackupSettings) (row : Option (Instance String))
    (overrides : Option BackupOverrides) : Except String (Option InstanceSnapshot) := do
  match row with
  | none => return none
  | some row =>
    match settings with
    | none => throw ("BackupSettings singleton missing — init_db did not " ++
        "seed correctly or the row was deleted manually")
    | some settings =>
      let stored ← decryptedIf crypto
        (row.backupEncryptPasswordCt.filter fun _ => row.backupEncrypt)
      let sent ← decryptedIf crypto (overrides.bind BackupOverrides.backupEncryptPasswordCt)
      let area := row.plain .backupArea
      return some {
        id := row.id
        plain := row.plain
        username := ← decrypted crypto row.usernameCt
        password := ← decrypted crypto row.passwordCt
        settings
        backupArea := (overrides.bind BackupOverrides.backupArea).elim
          (if Val.truthy area then area else .str "") .str
        backupIncludeRrd := (overrides.bind BackupOverrides.backupIncludeRrd).elim
          (row.plain .backupIncludeRrd) .bool
        backupIncludePackages := (overrides.bind BackupOverrides.backupIncludePackages).elim
          (row.plain .backupIncludePackages) .bool
        backupIncludeSsh := (overrides.bind BackupOverrides.backupIncludeSsh).elim
          (row.plain .backupIncludeSsh) .bool
        backupEncrypt := (overrides.bind BackupOverrides.backupEncrypt).getD row.backupEncrypt
        backupEncryptPassword := sent.or stored }

/-- `build_backup_form_data` -/
def buildBackupFormData (snap : InstanceSnapshot) : List (String × String) :=
  [("download", "download"),
    ("backuparea", if Val.truthy snap.backupArea then snap.backupArea.text else "")] ++
  (if Val.truthy snap.backupIncludeRrd then [] else [("donotbackuprrd", "yes")]) ++
  (if Val.truthy snap.backupIncludePackages then [] else [("nopackages", "yes")]) ++
  (if Val.truthy snap.backupIncludeSsh then [("backupssh", "yes")] else []) ++
  match snap.backupEncrypt, truthy snap.backupEncryptPassword with
  | true, some password => [("encrypt", "yes"), ("encrypt_password", password),
      ("encrypt_password_confirm", password)]
  | _, _ => []

inductive Outcome (Form : Type) where
  | raised (text : String)
  | missing
  | refused
  | posted (form : Form)
  deriving DecidableEq

def Outcome.map {Form Form' : Type} (f : Form → Form') : Outcome Form → Outcome Form'
  | .raised text => .raised text
  | .missing => .missing
  | .refused => .refused
  | .posted form => .posted (f form)

/-- `backup_instance`, up to the form that it posts. -/
def backupInstance (settings : Option BackupSettings) (row : Option (Instance String))
    (overrides : Option BackupOverrides) : Outcome (List (String × String)) :=
  match snapshot crypto settings row overrides with
  | .error text => .raised text
  | .ok none => .missing
  | .ok (some snap) =>
    if snap.backupEncrypt = true ∧ truthy snap.backupEncryptPassword = none then .refused
    else .posted (buildBackupFormData snap)

def enabled (rows : Instances String) : List (Instance String) :=
  rows.rows.filter (·.plain .enabled = .bool true)

/-- What the worker makes of a frame: the instances that it backs up, each up to the form. -/
def runFrame (lax : Lax) (settings : Option BackupSettings) (rows : Instances String)
    (frame : List Char) : List (Int × Outcome (List (String × String))) :=
  match receive lax frame with
  | .handled (.runBackup instanceId _ overrides) =>
    let row := if 0 ≤ instanceId then rows.get instanceId.toNat else none
    [(instanceId, backupInstance crypto settings row overrides)]
  | .handled (.runBackupAll _ overrides) =>
    (enabled rows).map fun row =>
      (row.id, backupInstance crypto settings (rows.get row.id) overrides)
  | _ => []

end Worker

/-! ### Readable settings -/

section Settings

variable {Zone Salt Ct : Type} {lib : Libraries Zone} {crypto : Crypto Salt Ct}

/-- The login of an instance can be read with the current key. -/
def Legible (crypto : Crypto Salt Ct) (username password : Ct) : Prop :=
  (crypto.decrypt username).isSome ∧ (crypto.decrypt password).isSome

/-- The settings are consistent, and every login can be read. -/
structure Sound (crypto : Crypto Salt Ct) (state : State Ct) : Prop where
  consistent : Consistent crypto state
  legible : ∀ row ∈ state.instances.rows, Legible crypto row.usernameCt row.passwordCt

theorem legible_encrypt (salt other : Salt) (username password : String) :
    Legible crypto (crypto.encrypt salt username) (crypto.encrypt other password) := by
  rw [Legible, crypto.decrypt_encrypt, crypto.decrypt_encrypt]
  exact ⟨rfl, rfl⟩

section Draft

variable (draft : Draft Ct) (payload : InstanceUpdate) (env : Surroundings Salt)

/-- The fields of the encryption leave the login as it was. -/
theorem clearEncryptPassword_login : draft.clearEncryptPassword.usernameCt = draft.usernameCt ∧
    draft.clearEncryptPassword.passwordCt = draft.passwordCt := by
  unfold Draft.clearEncryptPassword
  split <;> exact ⟨rfl, rfl⟩

theorem setEncryptPassword_login :
    (draft.setEncryptPassword crypto payload env).usernameCt = draft.usernameCt ∧
      (draft.setEncryptPassword crypto payload env).passwordCt = draft.passwordCt := by
  unfold Draft.setEncryptPassword
  repeat' split
  · exact ⟨rfl, rfl⟩
  · exact ⟨rfl, rfl⟩
  · exact clearEncryptPassword_login draft
  · exact ⟨rfl, rfl⟩

theorem setEncrypt_login : (draft.setEncrypt payload).usernameCt = draft.usernameCt ∧
    (draft.setEncrypt payload).passwordCt = draft.passwordCt := by
  unfold Draft.setEncrypt
  repeat' split
  · exact ⟨rfl, rfl⟩
  · exact ⟨rfl, rfl⟩
  · exact ⟨rfl, rfl⟩
  · exact clearEncryptPassword_login _

theorem setUsername_legible (legible : Legible crypto draft.usernameCt draft.passwordCt) :
    Legible crypto (draft.setUsername crypto payload env).usernameCt
      (draft.setUsername crypto payload env).passwordCt := by
  unfold Draft.setUsername
  split
  · exact legible
  · exact ⟨by rw [crypto.decrypt_encrypt]; rfl, legible.2⟩

theorem setPassword_legible (legible : Legible crypto draft.usernameCt draft.passwordCt) :
    Legible crypto (draft.setPassword crypto payload env).usernameCt
      (draft.setPassword crypto payload env).passwordCt := by
  unfold Draft.setPassword
  split
  · exact legible
  · split
    · exact legible
    · exact ⟨legible.1, by rw [crypto.decrypt_encrypt]; rfl⟩

theorem setFields_legible (legible : Legible crypto draft.usernameCt draft.passwordCt) :
    Legible crypto (draft.setFields crypto payload env).usernameCt
      (draft.setFields crypto payload env).passwordCt := by
  unfold Draft.setFields
  rw [(setEncrypt_login _ _).1, (setEncrypt_login _ _).2, (setEncryptPassword_login _ _ _).1,
    (setEncryptPassword_login _ _ _).2]
  exact setPassword_legible _ _ _ (setUsername_legible _ _ _ legible)

end Draft

theorem createRow_legible {rows : Instances Ct} {env : Surroundings Salt}
    {payload : InstanceCreate} {row : Instance Ct}
    (made : createRow lib crypto rows env payload = .ok row) :
    Legible crypto row.usernameCt row.passwordCt := by
  unfold createRow at made
  split at made
  · obtain ⟨-, -, made⟩ := exists_of_bind made
    obtain ⟨-, -, made⟩ := exists_of_bind made
    obtain ⟨stored, -, made⟩ := exists_of_bind made
    cases made
    exact legible_encrypt _ _ _ _
  · cases made

theorem handle_legible {state : State Ct}
    (legible : ∀ row ∈ state.instances.rows, Legible crypto row.usernameCt row.passwordCt)
    (request : Request Salt) : ∀ row ∈ (EncryptionSettings.handle lib crypto state
      request).1.instances.rows, Legible crypto row.usernameCt row.passwordCt := by
  cases request with
  | createInstance env payload =>
    rcases createInstance_spec lib crypto state.instances env payload with
      same | ⟨row, made, committed⟩
    · simpa only [EncryptionSettings.handle, same] using legible
    · intro other mem
      simp only [EncryptionSettings.handle, committed] at mem
      rcases Table.mem_insert mem with rfl | old
      · exact createRow_legible made
      · exact legible other old
  | updateInstance id env payload =>
    rcases updateInstance_spec lib crypto state.instances id env payload with
      same | ⟨row, draft, encrypt, found, made, -, committed⟩
    · simpa only [EncryptionSettings.handle, same] using legible
    · intro other mem
      simp only [EncryptionSettings.handle, committed] at mem
      obtain ⟨rfl, -⟩ := updateDraft_spec made
      rcases Table.mem_modify (Draft.id_apply _ encrypt) mem with old | ⟨row', found', rfl⟩
      · exact legible other old
      · exact setFields_legible _ _ _ (legible row (Table.mem_of_get found))
  | putReplication env payload => exact legible

/-- Every state of the settings that allowed requests lead to is sound. -/
theorem sound_of_reached {start state : State Ct} (sound : Sound crypto start)
    (reached : Reach (Step lib crypto) (@Allowed Salt Ct crypto) start state) :
    Sound crypto state := by
  refine reached.invariant sound ?_
  intro before request after sound allowed taken
  exact taken ▸ ⟨handle_consistent sound.consistent allowed, handle_legible sound.legible request⟩

end Settings

/-! ### What is asked for -/

/-- What is to be in a backup, and the password that seals it. -/
structure Content where
  area : String
  rrd : Bool
  packages : Bool
  ssh : Bool
  password : Option String
  deriving DecidableEq

/-- What a form says, as pfSense posts its own: an empty area is everything, and the first two
boxes are for what is left out. -/
def content (form : List (String × String)) : Content where
  area := (form.lookup "backuparea").getD ""
  rrd := (form.lookup "donotbackuprrd").isNone
  packages := (form.lookup "nopackages").isNone
  ssh := (form.lookup "backupssh").isSome
  password := (form.lookup "encrypt").bind fun _ => form.lookup "encrypt_password"

section Asked

variable {Salt : Type} (crypto : Crypto Salt String) (row : Instance String)
  (asked : BackupNowRequest)

/-- The password that is sent, or else the one that is stored. -/
def password : Option String :=
  (truthy asked.backupEncryptPassword.join).or (row.backupEncryptPasswordCt.bind crypto.decrypt)

/-- What a request asks for: its own settings where it has them, else the instance's. -/
def wanted : Content where
  area := asked.backupArea.join.getD
    (if Val.truthy (row.plain .backupArea) then (row.plain .backupArea).text else "")
  rrd := asked.backupIncludeRrd.join.getD (Val.truthy (row.plain .backupIncludeRrd))
  packages := asked.backupIncludePackages.join.getD (Val.truthy (row.plain .backupIncludePackages))
  ssh := asked.backupIncludeSsh.join.getD (Val.truthy (row.plain .backupIncludeSsh))
  password := if asked.backupEncrypt.join.getD row.backupEncrypt then password crypto row asked
    else none

/-- Encryption is asked for, and there is no password to encrypt with. -/
def Unkeyed : Prop :=
  asked.backupEncrypt.join.getD row.backupEncrypt = true ∧ password crypto row asked = none

instance : Decidable (Unkeyed crypto row asked) :=
  inferInstanceAs (Decidable (_ ∧ _))

def expected : Outcome Content :=
  if Unkeyed crypto row asked then .refused else .posted (wanted crypto row asked)

variable {crypto row asked}

/-- The overrides carry what a request has, and the password as a token. -/
structure Carries (crypto : Crypto Salt String) (salt : Salt) (overrides : Option BackupOverrides)
    (asked : BackupNowRequest) : Prop where
  area : overrides.bind BackupOverrides.backupArea = asked.backupArea.join
  rrd : overrides.bind BackupOverrides.backupIncludeRrd = asked.backupIncludeRrd.join
  packages : overrides.bind BackupOverrides.backupIncludePackages =
    asked.backupIncludePackages.join
  ssh : overrides.bind BackupOverrides.backupIncludeSsh = asked.backupIncludeSsh.join
  encrypt : overrides.bind BackupOverrides.backupEncrypt = asked.backupEncrypt.join
  password : overrides.bind BackupOverrides.backupEncryptPasswordCt =
    (truthy asked.backupEncryptPassword.join).map (crypto.encrypt salt)

theorem carries_unset {salt : Salt} (unset : asked.isUnset = true) :
    Carries crypto salt none asked := by
  simp only [BackupNowRequest.isUnset, Bool.and_eq_true, Option.isNone_iff_eq_none] at unset
  obtain ⟨⟨⟨⟨⟨area, rrd⟩, packages⟩, ssh⟩, encrypt⟩, password⟩ := unset
  constructor <;> simp [area, rrd, packages, ssh, encrypt, password]

theorem known_unset (unset : asked.isUnset = true) : asked.AreaKnown := by
  simp only [BackupNowRequest.isUnset, Bool.and_eq_true, Option.isNone_iff_eq_none] at unset
  obtain ⟨⟨⟨⟨⟨area, -⟩, -⟩, -⟩, -⟩, -⟩ := unset
  intro other mem
  rw [area] at mem
  cases mem

/-- The overrides are built exactly for a known area, and they carry the request. -/
theorem buildOverrides_spec (salt : Salt) (request : Option BackupNowRequest) :
    if (request.getD .empty).AreaKnown then
      ∃ overrides, buildOverrides crypto salt request = some overrides ∧
        Carries crypto salt overrides (request.getD .empty)
    else buildOverrides crypto salt request = none := by
  cases request with
  | none =>
    rw [Option.getD_none, if_pos (known_unset rfl)]
    exact ⟨none, rfl, carries_unset rfl⟩
  | some asked =>
    rw [Option.getD_some]
    unfold buildOverrides
    by_cases unset : asked.isUnset = true
    · rw [if_pos (known_unset unset)]
      exact ⟨none, if_pos unset, carries_unset unset⟩
    · simp only [if_neg unset]
      by_cases known : asked.AreaKnown
      · rw [if_pos known, dif_pos known]
        exact ⟨_, rfl, rfl, rfl, rfl, rfl, rfl, rfl⟩
      · rw [if_neg known, dif_neg known]

theorem content_buildBackupFormData (snap : InstanceSnapshot) :
    content (buildBackupFormData snap) = {
      area := if Val.truthy snap.backupArea then snap.backupArea.text else ""
      rrd := Val.truthy snap.backupIncludeRrd
      packages := Val.truthy snap.backupIncludePackages
      ssh := Val.truthy snap.backupIncludeSsh
      password := if snap.backupEncrypt then truthy snap.backupEncryptPassword else none } := by
  unfold content buildBackupFormData
  cases Val.truthy snap.backupIncludeRrd <;> cases Val.truthy snap.backupIncludePackages <;>
    cases Val.truthy snap.backupIncludeSsh <;> cases snap.backupEncrypt <;>
    cases truthy snap.backupEncryptPassword <;> simp [List.lookup_cons]

theorem decrypted_of_some {ct text : String} (readable : crypto.decrypt ct = some text) :
    decrypted crypto ct = .ok text := by
  rw [decrypted, readable]
  rfl

/-- A stored password can be read, and there is one exactly where encryption is on. -/
theorem stored_of_fits (fits : PasswordFits crypto row.backupEncrypt row.backupEncryptPasswordCt) :
    ∃ stored, decryptedIf crypto (row.backupEncryptPasswordCt.filter fun _ => row.backupEncrypt) =
        .ok stored ∧
      truthy stored = row.backupEncryptPasswordCt.bind crypto.decrypt := by
  cases on : row.backupEncrypt with
  | false =>
    rw [on] at fits
    rw [show row.backupEncryptPasswordCt = none from fits]
    exact ⟨none, rfl, rfl⟩
  | true =>
    rw [on] at fits
    obtain ⟨ct, stored, text, readable, filled, -⟩ := fits
    rw [stored, Option.bind_some, readable, Option.filter_some, if_pos rfl, decryptedIf,
      decrypted_of_some readable]
    refine ⟨some text, rfl, truthy_some ?_⟩
    rintro rfl
    cases filled

theorem sent_of_carries (salt : Salt) (password : Option String) :
    ∃ sent, decryptedIf crypto ((truthy password).map (crypto.encrypt salt)) = .ok sent ∧
      sent = truthy password := by
  cases sent : truthy password with
  | none => exact ⟨none, rfl, rfl⟩
  | some text =>
    rw [Option.map_some, decryptedIf, decrypted_of_some (crypto.decrypt_encrypt salt text)]
    exact ⟨some text, rfl, rfl⟩

theorem truthy_or (password stored : Option String) :
    truthy ((truthy password).or stored) = (truthy password).or (truthy stored) := by
  cases sent : truthy password with
  | none => rfl
  | some text =>
    rw [Option.some_or, Option.some_or]
    exact truthy_some (by simpa using (Option.filter_eq_some_iff.mp sent).2)

theorem truthy_flag (flag : Option Bool) (value : Val) :
    Val.truthy (flag.elim value .bool) = flag.getD (Val.truthy value) := by
  cases flag <;> rfl

/-- The text of a value, empty where Python takes it for false. -/
theorem area_text (area : Option String) (value : Val) :
    (let taken := area.elim (if Val.truthy value then value else .str "") .str
      if Val.truthy taken then taken.text else "") =
      area.getD (if Val.truthy value then value.text else "") := by
  cases area with
  | none =>
    cases filled : Val.truthy value with
    | false => rfl
    | true => simp [filled]
  | some area =>
    by_cases blank : area = ""
    · subst blank
      rfl
    · simp [Val.truthy, blank]

/-- The snapshot of a readable instance is what is asked for. -/
theorem snapshot_carries {salt : Salt} {overrides : Option BackupOverrides}
    (carries : Carries crypto salt overrides asked)
    (legible : Legible crypto row.usernameCt row.passwordCt)
    (fits : PasswordFits crypto row.backupEncrypt row.backupEncryptPasswordCt)
    (settings : BackupSettings) :
    ∃ snap, snapshot crypto (some settings) (some row) overrides = .ok (some snap) ∧
      snap.backupEncrypt = asked.backupEncrypt.join.getD row.backupEncrypt ∧
      truthy snap.backupEncryptPassword = password crypto row asked ∧
      content (buildBackupFormData snap) = wanted crypto row asked := by
  obtain ⟨stored, taken, same⟩ := stored_of_fits fits
  obtain ⟨sent, given, rfl⟩ := @sent_of_carries _ crypto salt asked.backupEncryptPassword.join
  obtain ⟨username, login⟩ := Option.isSome_iff_exists.mp legible.1
  obtain ⟨secret, login'⟩ := Option.isSome_iff_exists.mp legible.2
  have filled := truthy_or asked.backupEncryptPassword.join stored
  rw [same] at filled
  unfold snapshot
  simp only [taken, carries.area, carries.rrd, carries.packages, carries.ssh, carries.encrypt,
    carries.password, given, decrypted_of_some login, decrypted_of_some login']
  refine ⟨_, rfl, rfl, filled, ?_⟩
  rw [content_buildBackupFormData]
  simp only [truthy_flag, filled]
  rw [wanted, ← area_text]
  rfl

/-- The worker backs up what is asked for. -/
theorem backupInstance_carries {salt : Salt} {overrides : Option BackupOverrides}
    (carries : Carries crypto salt overrides asked)
    (legible : Legible crypto row.usernameCt row.passwordCt)
    (fits : PasswordFits crypto row.backupEncrypt row.backupEncryptPasswordCt)
    (settings : BackupSettings) :
    (backupInstance crypto (some settings) (some row) overrides).map content =
      expected crypto row asked := by
  obtain ⟨snap, taken, encrypt, password, same⟩ := snapshot_carries carries legible fits settings
  rw [backupInstance, taken, expected]
  simp only [encrypt, password]
  by_cases unkeyed : Unkeyed crypto row asked
  · rw [if_pos unkeyed, if_pos (show _ ∧ _ from unkeyed)]
    rfl
  · rw [if_neg unkeyed, if_neg (show ¬(_ ∧ _) from unkeyed), Outcome.map, same]

end Asked

section Runs

variable {Zone Salt : Type} {lib : Libraries Zone} {crypto : Crypto Salt String}

/-- What comes of an answered request: its command is sent, and the worker makes forms of it. -/
def Handled.contents (crypto : Crypto Salt String) (lax : Lax) (settings : BackupSettings)
    (rows : Instances String) (handled : Handled) : List (Int × Outcome Content) :=
  handled.sent.elim [] fun command =>
    (runFrame crypto lax (some settings) rows command.frame).map
      (Prod.map id (Outcome.map content))

theorem runFrame_runBackup (lax : Lax) (settings : BackupSettings) (rows : Instances String)
    (id : Nat) (jobId : Int) (overrides : Option BackupOverrides) :
    runFrame crypto lax (some settings) rows (IpcCommand.runBackup id jobId overrides).frame =
      [((id : Int), backupInstance crypto (some settings) (rows.get id) overrides)] := by
  rw [runFrame, receive, loadsValue_frame, Option.elim_some, dispatch_dump]
  simp

theorem runFrame_runBackupAll (lax : Lax) (settings : BackupSettings) (rows : Instances String)
    (jobId : Int) (overrides : Option BackupOverrides) :
    runFrame crypto lax (some settings) rows (IpcCommand.runBackupAll jobId overrides).frame =
      (enabled rows).map fun row =>
        ((row.id : Int), backupInstance crypto (some settings) (rows.get row.id) overrides) := by
  rw [runFrame, receive, loadsValue_frame, Option.elim_some, dispatch_dump]

/-- A manual backup asks pfSense for what its request has, and for what the instance has where the
request has nothing; it is refused exactly where it is to be encrypted and there is no password. -/
theorem manual_contents {start state : State String} (sound : Sound crypto start)
    (reached : Reach (Step lib crypto) (@Allowed Salt String crypto) start state) (salt : Salt)
    (lax : Lax) (settings : BackupSettings) (jobId : Int) (request : Option BackupNowRequest) :
    (∀ row ∈ state.instances.rows, ∀ earlier : Instances String, (earlier.get row.id).isSome →
      (backupNow crypto salt earlier row.id jobId request).contents crypto lax settings
          state.instances =
        if (request.getD .empty).AreaKnown then
          [((row.id : Int), expected crypto row (request.getD .empty))]
        else []) ∧
      (runAllBackups crypto salt jobId request).contents crypto lax settings state.instances =
        if (request.getD .empty).AreaKnown then
          (enabled state.instances).map fun row =>
            ((row.id : Int), expected crypto row (request.getD .empty))
        else [] := by
  have spec := @buildOverrides_spec _ crypto salt request
  have at_its_turn (row) (mem : row ∈ state.instances.rows) (overrides)
      (carries : Carries crypto salt overrides (request.getD .empty)) :=
    backupInstance_carries carries ((sound_of_reached sound reached).legible row mem)
      ((sound_of_reached sound reached).consistent.instances row mem) settings
  refine ⟨fun row mem earlier found => ?_, ?_⟩
  · obtain ⟨before, found⟩ := Option.isSome_iff_exists.mp found
    rw [backupNow, found]
    split at spec
    next known =>
      obtain ⟨overrides, built, carries⟩ := spec
      rw [built, Handled.contents, Option.elim_some, runFrame_runBackup, if_pos known,
        Table.get_of_mem mem, List.map_singleton, Prod.map_apply,
        at_its_turn row mem overrides carries]
      rfl
    next unknown =>
      rw [spec, if_neg unknown]
      rfl
  · rw [runAllBackups]
    split at spec
    next known =>
      obtain ⟨overrides, built, carries⟩ := spec
      rw [built, Handled.contents, Option.elim_some, runFrame_runBackupAll, if_pos known,
        List.map_map]
      refine List.map_congr_left fun row mem => ?_
      have stored := (List.mem_filter.mp mem).1
      rw [Function.comp_apply, Table.get_of_mem stored, Prod.map_apply,
        at_its_turn row stored overrides carries]
      rfl
    next unknown =>
      rw [spec, if_neg unknown]
      rfl

/-- Texts that are sealed as they are. -/
def clear : Crypto Unit String where
  encrypt _ text := text
  decrypt := some
  decrypt_encrypt _ _ := rfl

/-- An instance whose backups are encrypted. -/
def sealedRow : Instance String where
  id := 1
  plain := (office true none).plain
  usernameCt := "admin"
  passwordCt := "pfsense"
  backupEncrypt := true
  backupEncryptPasswordCt := some "s3cret"

def opened : State String where
  instances := Table.empty.insert sealedRow
  replication := none

theorem mem_opened : sealedRow ∈ opened.instances.rows :=
  .head _

theorem opened_sound : Sound clear opened where
  consistent := {
    instances row mem := by
      obtain rfl := List.mem_singleton.mp mem
      exact ⟨_, rfl, "s3cret", rfl, by decide, by decide⟩
    replication _ stored := by cases stored }
  legible row mem := by
    obtain rfl := List.mem_singleton.mp mem
    exact ⟨rfl, rfl⟩

def folder : BackupSettings :=
  ⟨"/backups", "backup.xml", "%Y%m%d-%H%M%S"⟩

theorem opened_contents :
    (backupNow clear () opened.instances 1 7 none).contents clear ⟨fun _ => none, fun _ => none⟩
        folder opened.instances =
      [(1, .posted ⟨"", false, true, false, some "s3cret"⟩)] := by
  have posted := (@manual_contents _ _ dialects clear _ _ opened_sound .refl () ⟨fun _ => none,
    fun _ => none⟩ folder 7 none).1 sealedRow mem_opened opened.instances rfl
  rw [if_pos (known_unset rfl)] at posted
  exact posted.trans (by decide)

end Runs

end PfsenseBackups.RunOverrides
