import PfsenseBackups.InstanceForms
import PfsenseBackups.ReplicationForms
import PfsenseBackups.Runs

/-! The encryption settings over sequences of requests: which instances store a password, and when
the replication row does. -/

namespace PfsenseBackups.EncryptionSettings
open CronDialects InstanceForms Labels PythonText ReplicationForms Runs Tables

structure State (Ct : Type) where
  instances : Instances Ct
  replication : Option (ReplicationSettings Ct)

inductive Request (Salt : Type) where
  | createInstance (env : Surroundings Salt) (payload : InstanceCreate)
  | updateInstance (id : Nat) (env : Surroundings Salt) (payload : InstanceUpdate)
  | putReplication (env : Surroundings Salt) (payload : ReplicationSettingsUpdate)

/-- What a request was answered with in place of a result. -/
def failureOf {Result : Type} : Except Failure Result → Option Failure
  | .error failure => some failure
  | .ok _ => none

section

variable {Zone Salt Ct : Type} (lib : Libraries Zone) (crypto : Crypto Salt Ct)

/-- The state that a request commits, and what it is answered with if it fails. -/
def handle (state : State Ct) : Request Salt → State Ct × Option Failure
  | .createInstance env payload =>
    let made := InstanceForms.createInstance lib crypto state.instances env payload
    ({ state with instances := made.1 }, failureOf made.2)
  | .updateInstance id env payload =>
    let made := InstanceForms.updateInstance lib crypto state.instances id env payload
    ({ state with instances := made.1 }, failureOf made.2)
  | .putReplication env payload =>
    let made := ReplicationForms.putReplication crypto env state.replication payload
    ({ state with replication := made.1 }, failureOf made.2)

def Step (state : State Ct) (request : Request Salt) (after : State Ct) : Prop :=
  (handle lib crypto state request).1 = after

/-! ### Consistent settings -/

/-- A stored password is a real one: neither blank nor the sentinel. -/
def Keyed (ct : Ct) : Prop :=
  ∃ text, crypto.decrypt ct = some text ∧ isBlank text = false ∧ text ≠ sentinel

/-- A password is stored with encryption on, and none with encryption off. -/
def PasswordFits (encrypt : Bool) (stored : Option Ct) : Prop :=
  if encrypt then ∃ ct, stored = some ct ∧ Keyed crypto ct else stored = none

structure Consistent (state : State Ct) : Prop where
  instances : ∀ row ∈ state.instances.rows,
    PasswordFits crypto row.backupEncrypt row.backupEncryptPasswordCt
  replication : ∀ row, state.replication = some row → wraps row = true →
    row.secret .replicationPassword ≠ none

/-- A failed request leaves every setting and secret as it was. -/
def FailsClean (state : State Ct) (request : Request Salt) : Prop :=
  ∀ failure, (handle lib crypto state request).2 = some failure →
    (handle lib crypto state request).1 = state

/-- The password that a request sends as a new one. -/
def newPassword (sent : Option (Option String)) : Option String :=
  (truthy sent.join).filter (· ≠ sentinel)

/-- An instance is not created with the sentinel as its password. A new password is sent only to
an instance whose encryption the request leaves on or switches, and it is not blank if encryption
is on afterwards. The socket takes what a request pushes after its commit. -/
def Allowed (state : State Ct) : Request Salt → Prop
  | .createInstance env payload =>
    (payload.backupEncrypt = true → payload.backupEncryptPassword ≠ some sentinel) ∧
      ((truthy (asText (payload.plain .cronExpression))).isSome → env.pushes = true)
  | .updateInstance id env payload =>
    ∀ row, state.instances.get id = some row →
      (∀ text, newPassword payload.backupEncryptPassword = some text →
        (payload.backupEncrypt.getD (some row.backupEncrypt) = some true →
          isBlank text = false) ∧
        (row.backupEncrypt = false → payload.backupEncrypt.getD (some false) ≠ some false)) ∧
      ((row.draft.setFields crypto payload env).notifies payload → env.pushes = true)
  | .putReplication _ _ => True

variable {lib crypto}

theorem newPassword_real {sent : Option (Option String)} {text : String}
    (new : newPassword sent = some text) : text ≠ sentinel := by
  simpa using (Option.filter_eq_some_iff.mp new).2

theorem keyed_encrypt {salt : Salt} {text : String} (filled : isBlank text = false)
    (real : text ≠ sentinel) : Keyed crypto (crypto.encrypt salt text) :=
  ⟨text, crypto.decrypt_encrypt salt text, filled, real⟩

/-! ### `create_instance` -/

theorem createPassword_fits {env : Surroundings Salt} {payload : InstanceCreate}
    {stored : Option Ct}
    (real : payload.backupEncrypt = true → payload.backupEncryptPassword ≠ some sentinel)
    (taken : createPassword crypto env payload = .ok stored) :
    PasswordFits crypto payload.backupEncrypt stored := by
  unfold createPassword at taken
  cases on : payload.backupEncrypt with
  | false =>
    cases sent : truthy payload.backupEncryptPassword with
    | none =>
      rw [on, sent] at taken
      cases taken
      rfl
    | some password =>
      rw [on, sent] at taken
      cases taken
  | true =>
    cases sent : truthy payload.backupEncryptPassword with
    | none =>
      rw [on, sent] at taken
      cases taken
    | some password =>
      rw [on, sent] at taken
      simp only at taken
      split at taken
      · cases taken
      next filled =>
        cases taken
        have text : payload.backupEncryptPassword = some password :=
          (Option.filter_eq_some_iff.mp sent).1
        refine ⟨_, rfl, keyed_encrypt (by simpa using filled) ?_⟩
        intro same
        exact real on (same ▸ text)

theorem createInstance_consistent {rows : Instances Ct} {env : Surroundings Salt}
    {payload : InstanceCreate}
    (fits : ∀ row ∈ rows.rows, PasswordFits crypto row.backupEncrypt row.backupEncryptPasswordCt)
    (real : payload.backupEncrypt = true → payload.backupEncryptPassword ≠ some sentinel) :
    ∀ row ∈ (InstanceForms.createInstance lib crypto rows env payload).1.rows,
      PasswordFits crypto row.backupEncrypt row.backupEncryptPasswordCt := by
  rcases createInstance_spec lib crypto rows env payload with
    same | ⟨row, made, committed⟩
  · rw [same]
    exact fits
  · rw [committed]
    intro other mem
    obtain ⟨-, toggle, taken⟩ := createRow_spec made
    rcases Table.mem_insert mem with rfl | old
    · rw [toggle]
      exact createPassword_fits real taken
    · exact fits other old

/-! ### `update_instance` -/

section Draft

variable (draft : Draft Ct) (payload : InstanceUpdate) (env : Surroundings Salt)

theorem setUsername_keeps : (draft.setUsername crypto payload env).backupEncrypt =
      draft.backupEncrypt ∧
    (draft.setUsername crypto payload env).backupEncryptPasswordCt =
      draft.backupEncryptPasswordCt := by
  unfold Draft.setUsername
  split <;> exact ⟨rfl, rfl⟩

theorem setPassword_keeps : (draft.setPassword crypto payload env).backupEncrypt =
      draft.backupEncrypt ∧
    (draft.setPassword crypto payload env).backupEncryptPasswordCt =
      draft.backupEncryptPasswordCt := by
  unfold Draft.setPassword
  split
  · exact ⟨rfl, rfl⟩
  · split <;> exact ⟨rfl, rfl⟩

theorem clearEncryptPassword_spec : draft.clearEncryptPassword.backupEncrypt =
      draft.backupEncrypt ∧ draft.clearEncryptPassword.backupEncryptPasswordCt = none := by
  unfold Draft.clearEncryptPassword
  split
  · exact ⟨rfl, rfl⟩
  next absent => exact ⟨rfl, Option.not_isSome_iff_eq_none.mp absent⟩

/-- What the password field makes of the stored password: a new one, what there was, or none. -/
theorem setEncryptPassword_spec :
    (draft.setEncryptPassword crypto payload env).backupEncrypt = draft.backupEncrypt ∧
      match newPassword payload.backupEncryptPassword with
      | some text => ∃ salt, (draft.setEncryptPassword crypto payload
          env).backupEncryptPasswordCt = some (crypto.encrypt salt text)
      | none => (draft.setEncryptPassword crypto payload env).backupEncryptPasswordCt =
          draft.backupEncryptPasswordCt ∨
          (draft.setEncryptPassword crypto payload env).backupEncryptPasswordCt = none := by
  unfold Draft.setEncryptPassword newPassword
  cases payload.backupEncryptPassword with
  | none => exact ⟨rfl, .inl rfl⟩
  | some sent =>
    by_cases kept : sent = some sentinel
    · subst kept
      exact ⟨rfl, .inl rfl⟩
    · simp only [if_neg kept, Option.join_some]
      cases text : truthy sent with
      | none =>
        have cleared := clearEncryptPassword_spec draft
        exact ⟨cleared.1, .inr cleared.2⟩
      | some password =>
        have filled := (Option.filter_eq_some_iff.mp text).1
        have real : password ≠ sentinel := fun same => kept (same ▸ filled)
        have new : (some password).filter (· ≠ sentinel) = some password := by simp [real]
        rw [new]
        exact ⟨rfl, _, rfl⟩

/-- What the toggle makes of it: turned to anything but on, it clears the password. -/
theorem setEncrypt_spec :
    (draft.setEncrypt payload).backupEncrypt =
        payload.backupEncrypt.getD draft.backupEncrypt ∧
      (draft.setEncrypt payload).backupEncryptPasswordCt =
        if payload.backupEncrypt.getD draft.backupEncrypt = draft.backupEncrypt ∨
            payload.backupEncrypt.getD draft.backupEncrypt = some true then
          draft.backupEncryptPasswordCt
        else none := by
  unfold Draft.setEncrypt
  cases payload.backupEncrypt with
  | none => simp
  | some sent =>
    simp only [Option.getD_some]
    by_cases same : draft.backupEncrypt = sent
    · simp [same]
    · have other : ¬sent = draft.backupEncrypt := Ne.symm same
      rw [if_neg same]
      by_cases on : sent = some true
      · simp [on]
      · simp only [other, on, or_self, if_false]
        exact clearEncryptPassword_spec _

end Draft

/-- The fields that are set before the encryption settings leave these as they were. -/
theorem beforeEncryption_keeps (row : Instance Ct) (payload : InstanceUpdate)
    (env : Surroundings Salt) :
    (((row.draft.setPlain payload).setUsername crypto payload env).setPassword crypto payload
        env).backupEncrypt = some row.backupEncrypt ∧
      (((row.draft.setPlain payload).setUsername crypto payload env).setPassword crypto payload
        env).backupEncryptPasswordCt = row.backupEncryptPasswordCt := by
  constructor
  · rw [(setPassword_keeps _ _ _).1, (setUsername_keeps _ _ _).1]
    rfl
  · rw [(setPassword_keeps _ _ _).2, (setUsername_keeps _ _ _).2]
    rfl

/-- An update that is allowed leaves a password that fits the toggle, unless it is refused. -/
theorem setFields_fits {row : Instance Ct} {payload : InstanceUpdate} {env : Surroundings Salt}
    (fits : PasswordFits crypto row.backupEncrypt row.backupEncryptPasswordCt)
    (allowed : ∀ text, newPassword payload.backupEncryptPassword = some text →
      (payload.backupEncrypt.getD (some row.backupEncrypt) = some true → isBlank text = false) ∧
      (row.backupEncrypt = false → payload.backupEncrypt.getD (some false) ≠ some false))
    {encrypt : Bool}
    (toggle : (row.draft.setFields crypto payload env).backupEncrypt = some encrypt)
    (keyed : ¬((row.draft.setFields crypto payload env).backupEncrypt = some true ∧
      (row.draft.setFields crypto payload env).backupEncryptPasswordCt.isNone = true)) :
    PasswordFits crypto encrypt
      (row.draft.setFields crypto payload env).backupEncryptPasswordCt := by
  obtain ⟨was, stored⟩ := @beforeEncryption_keeps _ _ crypto row payload env
  unfold Draft.setFields at toggle keyed ⊢
  generalize ((row.draft.setPlain payload).setUsername crypto payload env).setPassword crypto
    payload env = draft at was stored toggle keyed ⊢
  obtain ⟨kept, password⟩ := @setEncryptPassword_spec _ _ crypto draft payload env
  obtain ⟨turned, left⟩ := setEncrypt_spec (draft.setEncryptPassword crypto payload env) payload
  rw [kept, was] at turned left
  rw [stored] at password
  rw [turned] at toggle keyed
  rw [toggle] at left keyed allowed
  rw [left] at keyed ⊢
  generalize (draft.setEncryptPassword crypto payload env).backupEncryptPasswordCt = after
    at password keyed ⊢
  cases encrypt with
  | true =>
    simp only [or_true, if_true, true_and] at keyed ⊢
    cases new : newPassword payload.backupEncryptPassword with
    | some text =>
      rw [new] at password
      obtain ⟨salt, sent⟩ := password
      exact ⟨_, sent, keyed_encrypt ((allowed text new).1 rfl) (newPassword_real new)⟩
    | none =>
      rw [new] at password
      rcases password with same | cleared
      · cases on : row.backupEncrypt with
        | true =>
          rw [on] at fits
          exact same ▸ fits
        | false =>
          rw [on] at fits
          exact (keyed (by rw [same, show row.backupEncryptPasswordCt = none from fits]; rfl)).elim
      · exact (keyed (by rw [cleared]; rfl)).elim
  | false =>
    show _ = none
    cases on : row.backupEncrypt with
    | true => simp
    | false =>
      rw [on] at fits allowed toggle
      simp only [true_or, if_true]
      cases new : newPassword payload.backupEncryptPassword with
      | some text => exact ((allowed text new).2 rfl toggle).elim
      | none =>
        rw [new] at password
        rcases password with same | cleared
        · exact same.trans fits
        · exact cleared

theorem updateInstance_consistent {rows : Instances Ct} {id : Nat} {env : Surroundings Salt}
    {payload : InstanceUpdate}
    (fits : ∀ row ∈ rows.rows, PasswordFits crypto row.backupEncrypt row.backupEncryptPasswordCt)
    (allowed : ∀ row, rows.get id = some row →
      ∀ text, newPassword payload.backupEncryptPassword = some text →
        (payload.backupEncrypt.getD (some row.backupEncrypt) = some true →
          isBlank text = false) ∧
        (row.backupEncrypt = false → payload.backupEncrypt.getD (some false) ≠ some false)) :
    ∀ row ∈ (InstanceForms.updateInstance lib crypto rows id env payload).1.rows,
      PasswordFits crypto row.backupEncrypt row.backupEncryptPasswordCt := by
  rcases updateInstance_spec lib crypto rows id env payload with
    same | ⟨row, draft, encrypt, found, made, toggle, committed⟩
  · rw [same]
    exact fits
  · rw [committed]
    intro other mem
    obtain ⟨rfl, keyed⟩ := updateDraft_spec made
    rcases Table.mem_modify (Draft.id_apply _ encrypt) mem with old | ⟨row', found', rfl⟩
    · exact fits other old
    · obtain rfl := Option.some.inj (found.symm.trans found')
      exact setFields_fits (fits row (Table.mem_of_get found)) (allowed row found) toggle keyed

/-! ### `put_replication` -/

theorem putReplication_keyed {env : Surroundings Salt}
    {stored : Option (ReplicationSettings Ct)} {payload : ReplicationSettingsUpdate}
    (keyed : ∀ row, stored = some row → wraps row = true → row.secret .replicationPassword ≠ none)
    (row : ReplicationSettings Ct)
    (committed : (ReplicationForms.putReplication crypto env stored payload).1 = some row)
    (wrapped : wraps row = true) : row.secret .replicationPassword ≠ none := by
  unfold ReplicationForms.putReplication at committed
  split at committed
  · exact keyed row committed wrapped
  · simp only at committed
    split at committed
    · exact keyed row committed wrapped
    next refused =>
      split at committed
      · exact keyed row committed wrapped
      · cases committed
        intro absent
        exact refused (by rw [wrapped, absent]; rfl)

/-! ### Failed requests -/

theorem createInstance_failsClean {rows : Instances Ct} {env : Surroundings Salt}
    {payload : InstanceCreate}
    (pushed : (truthy (asText (payload.plain .cronExpression))).isSome → env.pushes = true)
    {failure : Failure}
    (failed : failureOf (InstanceForms.createInstance lib crypto rows env payload).2 =
      some failure) :
    (InstanceForms.createInstance lib crypto rows env payload).1 = rows := by
  rcases createInstance_spec lib crypto rows env payload with
    same | ⟨row, made, committed⟩
  · exact same
  · rw [committed, (createRow_spec made).1] at failed
    have sent : ¬((truthy (asText (payload.plain .cronExpression))).isSome &&
        !env.pushes) = true := by
      intro lost
      obtain ⟨scheduled, lost⟩ := Bool.and_eq_true_iff.mp lost
      rw [pushed scheduled] at lost
      cases lost
    rw [if_neg sent] at failed
    cases failed

theorem updateInstance_failsClean {rows : Instances Ct} {id : Nat} {env : Surroundings Salt}
    {payload : InstanceUpdate}
    (pushed : ∀ row, rows.get id = some row →
      (row.draft.setFields crypto payload env).notifies payload → env.pushes = true)
    {failure : Failure}
    (failed : failureOf (InstanceForms.updateInstance lib crypto rows id env payload).2 =
      some failure) :
    (InstanceForms.updateInstance lib crypto rows id env payload).1 = rows := by
  rcases updateInstance_spec lib crypto rows id env payload with
    same | ⟨row, draft, encrypt, found, made, toggle, committed⟩
  · exact same
  · rw [committed] at failed
    obtain ⟨rfl, -⟩ := updateDraft_spec made
    have sent : ¬((row.draft.setFields crypto payload env).notifies payload &&
        !env.pushes) = true := by
      intro lost
      obtain ⟨notified, lost⟩ := Bool.and_eq_true_iff.mp lost
      rw [pushed row found notified] at lost
      cases lost
    rw [if_neg sent] at failed
    cases failed

theorem putReplication_failsClean {env : Surroundings Salt}
    {stored : Option (ReplicationSettings Ct)} {payload : ReplicationSettingsUpdate}
    {failure : Failure}
    (failed : failureOf (ReplicationForms.putReplication crypto env stored payload).2 =
      some failure) :
    (ReplicationForms.putReplication crypto env stored payload).1 = stored := by
  unfold ReplicationForms.putReplication at failed ⊢
  split
  · rfl
  next fits =>
    rw [if_neg fits] at failed
    simp only at failed ⊢
    split
    · rfl
    next keyed =>
      rw [if_neg keyed] at failed
      split
      · rfl
      next taken =>
        rw [if_neg taken] at failed
        cases failed

/-! ### Runs -/

/-- A request that is allowed keeps the settings consistent. -/
theorem handle_consistent {state : State Ct} {request : Request Salt}
    (consistent : Consistent crypto state) (allowed : Allowed crypto state request) :
    Consistent crypto (handle lib crypto state request).1 := by
  cases request with
  | createInstance env payload =>
    exact ⟨createInstance_consistent consistent.instances allowed.1, consistent.replication⟩
  | updateInstance id env payload =>
    exact ⟨updateInstance_consistent consistent.instances fun row found => (allowed row found).1,
      consistent.replication⟩
  | putReplication env payload =>
    exact ⟨consistent.instances, putReplication_keyed consistent.replication⟩

/-- A request that is allowed changes nothing if it fails. -/
theorem handle_failsClean {state : State Ct} {request : Request Salt}
    (allowed : Allowed crypto state request) : FailsClean lib crypto state request := by
  intro failure failed
  cases request with
  | createInstance env payload =>
    exact congrArg (State.mk · state.replication) (createInstance_failsClean allowed.2 failed)
  | updateInstance id env payload =>
    exact congrArg (State.mk · state.replication)
      (updateInstance_failsClean (fun row found => (allowed row found).2) failed)
  | putReplication env payload =>
    exact congrArg (State.mk state.instances ·) (putReplication_failsClean failed)

/-- In every state of a run of allowed requests the settings are consistent, and a request that is
allowed there changes nothing if it fails. -/
theorem consistent_of_allowed {start state : State Ct} (first : Consistent crypto start)
    (reached : Reach (Step lib crypto) (@Allowed Salt Ct crypto) start state) :
    Consistent crypto state ∧
      ∀ request, Allowed crypto state request → FailsClean lib crypto state request := by
  apply And.intro
  · apply reached.invariant first
    intro before request after consistent allowed taken
    exact taken ▸ handle_consistent consistent allowed
  · exact fun request allowed => handle_failsClean allowed

end

/-! ### Concrete requests -/

/-- Texts that are sealed with their salt. -/
def sealing : Crypto String (String × String) where
  encrypt salt text := (salt, text)
  decrypt ct := some ct.2
  decrypt_encrypt _ _ := rfl

def fresh : State (String × String) where
  instances := .empty
  replication := none

theorem fresh_consistent : Consistent sealing fresh where
  instances _ mem := (List.not_mem_nil mem).elim
  replication _ stored := by cases stored

def quiet : Surroundings String where
  draw field := field
  commits := true
  pushes := true

/-- A new instance with the values of the form. -/
def office (backupEncrypt : Bool) (password : Option String) : InstanceCreate where
  plain
    | .name => .str "office"
    | .url => .str "https://10.0.0.1"
    | .backupPrefix => .str "office-"
    | .cronTimezone => .str "UTC"
    | .timeoutSeconds => .int 60
    | .retentionCount => .int 30
    | .backupArea => .str ""
    | .verifySsl | .enabled | .replicate | .backupIncludePackages => .bool true
    | .compress | .backupIncludeRrd | .backupIncludeSsh => .bool false
    | _ => .none
  username := "admin"
  password := "pfsense"
  backupEncrypt := backupEncrypt
  backupEncryptPassword := password

def create (backupEncrypt : Bool) (password : Option String) : Request String :=
  .createInstance quiet (office backupEncrypt password)

theorem office_allowed : Allowed sealing fresh (create true (some "s3cret")) :=
  ⟨fun _ => by decide, fun _ => rfl⟩

theorem office_consistent :
    let state := (handle dialects sealing fresh (create true (some "s3cret"))).1
    Consistent sealing state ∧
      ∀ request, Allowed sealing state request → FailsClean dialects sealing state request :=
  consistent_of_allowed fresh_consistent (Reach.snoc .refl office_allowed rfl)

theorem sentinel_row : ∃ row ∈ (handle dialects sealing fresh
      (create true (some "__set__"))).1.instances.rows, row.backupEncrypt = true ∧
    row.backupEncryptPasswordCt = some ("backup_encrypt_password", "__set__") :=
  ⟨_, .head _, rfl, rfl⟩

/-- An instance that is created with the sentinel stores it as its password. -/
theorem sentinel_stored :
    ¬∀ state, Reach (Step dialects sealing) unguarded fresh state →
      Consistent sealing state ∧ ∀ request, FailsClean dialects sealing state request := by
  intro always
  have created := (always (handle dialects sealing fresh (create true (some "__set__"))).1
    (Reach.snoc .refl trivial rfl)).1
  obtain ⟨row, mem, on, stored⟩ := sentinel_row
  have fits := created.instances row mem
  rw [on, stored] at fits
  obtain ⟨ct, same, text, decrypted, -, real⟩ := fits
  obtain rfl := Option.some.inj same
  exact real (Option.some.inj decrypted).symm

end PfsenseBackups.EncryptionSettings
