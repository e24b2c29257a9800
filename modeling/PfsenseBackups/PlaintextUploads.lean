import PfsenseBackups.Payloads
import PfsenseBackups.StoredBackups

/-! What leaves the host when plaintext is to be encrypted: a downloaded configuration from
`_download_config` through `_save_backup` and the history row to the uploaded object. -/

namespace PfsenseBackups.PlaintextUploads
open Encodings PfsenseCrypto Replication StoredBackups Tables
open Payloads hiding preparePayload

/-! ### From the response to the row -/

def xmlContentTypePrefixes : List String :=
  ["text/xml", "application/xml", "application/octet-stream"]

/-- What `_download_config` takes for a configuration. -/
def downloadConfig (backupEncrypt : Bool) (contentType : Option String) (body : List Char) :
    Option (List Char) :=
  let contentType := ((contentType.getD "").toList).map Char.toLower
  if backupEncrypt && textLooksEncrypted body then some body
  else if xmlContentTypePrefixes.any (fun known => known.toList.isPrefixOf contentType) ||
      "<?xml".toList.isPrefixOf (body.dropWhile Labels.isSpace) then some body
  else none

/-- The flag of the history row: pfSense was asked for a wrapper, and the text probe found one. -/
def sourceEncrypted (backupEncrypt : Bool) (content : List Char) : Bool :=
  backupEncrypt && textLooksEncrypted content

/-- A row and its file as a backup with this content left them. -/
structure AsSaved {Digest Salt : Type} (gz : Gzip) (cwd : String) (content : List Char)
    (run : BackupRun Bytes Salt) (world : World Bytes Digest) (row : Backup Digest) : Prop where
  encrypted : row.encrypted = sourceEncrypted run.backupEncrypt content
  compressed : row.compressed = run.compress
  present : row.localPresent = true
  file : ∃ mtime, world.files (openedPath cwd row.path) =
    some (packWith (gz.compress mtime) run.compress (utf8 content))

/-- `_save_backup` and `_write_backup_history`, one after the other. -/
def backupToDisk {Digest Salt : Type} (gz : Gzip) (mtime : Nat) (cwd : String)
    (world : World Bytes Digest) (run : BackupRun Bytes Salt) (content : List Char) :
    World Bytes Digest :=
  let saved := saveWith (gz.compress mtime) List.length cwd world { run with content := utf8 content }
    (textLooksEncrypted content)
  writeBackupHistory saved.1 { run with content := utf8 content } saved.2

variable {Digest Salt : Type} {gz : Gzip} {cwd : String} {world : World Bytes Digest}
  {run : BackupRun Bytes Salt} {row : Backup Digest}

/-- The row and the file that a backup leaves. -/
theorem backupToDisk_row (gz : Gzip) (mtime : Nat) (cwd : String) (world : World Bytes Digest)
    {run : BackupRun Bytes Salt} (content : List Char) (absolute : isAbsolute run.xmlPath) :
    ∃ sizeBytes, (backupToDisk gz mtime cwd world run content).rows.get world.rows.nextId =
        some (historyRow world.rows.nextId run
          ⟨savedPath run, sizeBytes, run.compress, textLooksEncrypted content⟩) ∧
      (backupToDisk gz mtime cwd world run content).files (openedPath cwd (savedPath run)) =
        some (packWith (gz.compress mtime) run.compress (utf8 content)) := by
  let filled : BackupRun Bytes Salt := { run with content := utf8 content }
  obtain ⟨files, saved, written, -, result⟩ := saveWith_spec (gz.compress mtime) List.length cwd world
    (textLooksEncrypted content) (show isAbsolute filled.xmlPath from absolute)
  have disk : backupToDisk gz mtime cwd world run content =
      writeBackupHistory { world with files } filled ⟨savedPath filled,
        (packWith (gz.compress mtime) filled.compress filled.content).length, filled.compress,
        textLooksEncrypted content⟩ := by
    rw [← saved, ← result]
    rfl
  have opened : openedPath cwd (savedPath run) = savedPath run :=
    openedPath_of_absolute cwd (savedPath_absolute absolute)
  have fresh : world.rows.get (@historyRow Bytes Digest Salt world.rows.nextId filled
      ⟨savedPath filled, (packWith (gz.compress mtime) filled.compress filled.content).length,
        filled.compress, textLooksEncrypted content⟩).id = none := Table.get_nextId
  rw [disk]
  exact ⟨_, (Table.get_insert fresh).trans (if_pos rfl), (congrArg files opened).trans written⟩

/-- A backup leaves its row and file as saved. -/
theorem backupToDisk_asSaved (gz : Gzip) (mtime : Nat) (cwd : String) (world : World Bytes Digest)
    {run : BackupRun Bytes Salt} (content : List Char) (absolute : isAbsolute run.xmlPath) :
    ∃ row, (backupToDisk gz mtime cwd world run content).rows.get world.rows.nextId = some row ∧
      AsSaved gz cwd content run (backupToDisk gz mtime cwd world run content) row := by
  obtain ⟨sizeBytes, found, file⟩ := backupToDisk_row gz mtime cwd world content absolute
  exact ⟨_, found, rfl, rfl, rfl, mtime, file⟩

/-! ### What may leave -/

/-- A BEGIN line, lines of base64 that decode, an END line, and nothing else. -/
def CompleteWrapper (content : List Char) : Prop :=
  ∃ lines body, splitLines content = beginMarker :: lines ++ [endMarker] ∧
    lines.flatten ≠ [] ∧ b64decode lines.flatten = some body

/-- The wrappers that pfSense makes are complete. -/
theorem wrapperText_complete (prims : Primitives) (salt : PfsenseCrypto.Salt) (plaintext : Bytes)
    (password : String) : CompleteWrapper (wrapperText prims salt plaintext password) := by
  have digits : ∀ char ∈ b64encode (saltedBody prims salt plaintext password),
      isLineBreak char = false := fun char member =>
    (plain_of_isBase64 (b64encode_isBase64 _ char member)).lineBreak
  have unbroken : ∀ marker : List Char, (marker.all fun char => !isLineBreak char) = true →
      ∀ char ∈ marker, isLineBreak char = false := fun marker all char member =>
    (Bool.not_eq_true' _).mp (List.all_eq_true.mp all char member)
  have front := unbroken beginMarker (by decide)
  have back := unbroken endMarker (by decide)
  obtain ⟨line, lines, joined, split⟩ := exists_lines_wrapFrom 64 64 digits
  refine ⟨line :: lines, saltedBody prims salt plaintext password, ?_, ?_, ?_⟩
  · calc
      splitLines (wrapperText prims salt plaintext password)
        = splitLines (beginMarker ++ '\n' ::
            (wrapFrom 64 64 (b64encode (saltedBody prims salt plaintext password)) ++
              '\n' :: (endMarker ++ '\n' :: []))) := by
          simp only [wrapperText, wrapLines, saltedBody, List.append_assoc, List.cons_append]
      _ = beginMarker :: (line :: lines) ++ [endMarker] := by
          rw [splitLines_line _ front, split, splitLines_line _ back]
          rfl
  · rw [joined]
    exact b64encode_saltedBody_ne_nil salt plaintext password
  · rw [joined]
    exact b64decode_b64encode _

/-- The object is the content under the replication password, or a wrapper that came as such. -/
def Private (prims : Primitives) (password : String) (content : List Char) (payload : Bytes) : Prop :=
  (∃ salt, payload = encryptPfsenseBackup prims salt (utf8 content) password) ∨
    payload = utf8 content ∧ CompleteWrapper content

/-- Where a marker in the content makes the row an encrypted one and no layer is added to those, the
content is a complete wrapper. -/
def Guarded (run : BackupRun Bytes Salt) (cfg : ReplicationConfig) (content : List Char) : Prop :=
  run.backupEncrypt = true → textLooksEncrypted content = true → cfg.doubleEncrypt = false →
    CompleteWrapper content

theorem private_content_iff (prims : Primitives) (password : String) (content : List Char) :
    Private prims password content (utf8 content) ↔ CompleteWrapper content := by
  constructor
  · rintro (⟨salt, same⟩ | ⟨-, complete⟩)
    · have longer := @encrypt_length prims salt (utf8 content) password
      rw [← same] at longer
      exact absurd longer (Nat.lt_irrefl _)
    · exact complete
  · intro complete
    exact .inr ⟨rfl, complete⟩

/-- What is made of a saved file. -/
theorem prepare_saved (prims : Primitives) (salt : PfsenseCrypto.Salt) {content : List Char}
    {cfg : ReplicationConfig} {password : String} {raw : Bytes} {mtime : Nat}
    (saved : AsSaved gz cwd content run world row)
    (file : raw = packWith (gz.compress mtime) run.compress (utf8 content))
    (on : cfg.encryptPlaintext = true) (given : truthy cfg.replicationPassword = some password) :
    ∃ payload suffix,
      Payloads.preparePayload prims gz salt raw row.encrypted row.compressed cfg = .ok (payload, suffix) ∧
      (Private prims password content payload ↔ Guarded run cfg content) := by
  have unpacked : unpackWith gz.decompress row.compressed raw = .ok (utf8 content) := by
    rw [file, saved.compressed]
    exact unpack_packed mtime run.compress (utf8 content)
  have flag := saved.encrypted
  have layer : Private prims password content
      (encryptPfsenseBackup prims salt (utf8 content) password) := .inl ⟨salt, rfl⟩
  simp only [Payloads.preparePayload, prepareWith, unpacked, bind, Except.bind]
  cases source : sourceEncrypted run.backupEncrypt content with
  | false =>
    rw [source] at flag
    rw [flag, if_neg (by simp), if_pos on, given]
    refine ⟨_, _, rfl, iff_of_true layer ?_⟩
    intro asked marked
    rw [sourceEncrypted, asked, marked] at source
    cases source
  | true =>
    rw [source] at flag
    obtain ⟨asked, marked⟩ := Bool.and_eq_true_iff.mp source
    rw [flag, if_pos rfl]
    cases double : cfg.doubleEncrypt with
    | true =>
      rw [if_pos rfl, given]
      refine ⟨_, _, rfl, iff_of_true layer ?_⟩
      intro _ _ single
      rw [double] at single
      cases single
    | false =>
      rw [if_neg (by simp)]
      refine ⟨_, _, rfl, (private_content_iff prims password content).trans ?_⟩
      constructor
      · intro complete _ _ _
        exact complete
      · intro guarded
        exact guarded asked marked double

/-- With encryption of plaintexts on, the object of a saved backup keeps its content private if and
only if a content that is taken for a wrapper, and gets no second layer, is a complete one. -/
theorem upload_private_iff (prims : Primitives) (salt : PfsenseCrypto.Salt) (sha256 : Bytes → Digest)
    (instanceName : String) (now : Nat) {id : Nat} {content : List Char} {cfg : ReplicationConfig}
    {password : String} (found : world.rows.get id = some row)
    (saved : AsSaved gz cwd content run world row) (on : cfg.encryptPlaintext = true)
    (given : truthy cfg.replicationPassword = some password) :
    ∃ key payload after,
      replicateWith (Payloads.preparePayload prims gz salt) sha256 cwd world id (some cfg) instanceName now
        .succeeds = (true, after) ∧
      after.objects key = some payload ∧
      (after.rows.get id).bind Backup.replicaKey = some key ∧
      (Private prims password content payload ↔ Guarded run cfg content) := by
  obtain ⟨mtime, file⟩ := saved.file
  obtain ⟨payload, suffix, made, private_⟩ := prepare_saved prims salt saved rfl on given
  have uploads := replicateWith_succeeds sha256 cwd instanceName now found saved.present file made
  exact ⟨_, payload, _, uploads, World.objects_markDone, World.replicaKey_markDone found,
    private_⟩

/-! ### A plaintext with a marker in it -/

def blankWorld : World Bytes Bytes where
  rows := .empty
  files _ := none
  objects _ := none
  uploadedUnder _ := none

/-- An instance that asks pfSense for wrappers. -/
def wrappedNightly : BackupRun Bytes Unit where
  instanceName := "edge"
  backupEncrypt := true
  backupEncryptPassword := some "spring"
  compress := false
  replicate := true
  content := []
  xmlPath := "/backups/edge.xml"
  startedAt := 10
  prune := ⟨1, [], none, fun _ => false, fun _ => false⟩
  replicaAt := 11
  salt := ()
  attempt := .succeeds

/-- A target for which plaintext is to be encrypted. -/
def privateTarget : ReplicationConfig where
  basePath := "fleet"
  encryptPlaintext := true
  doubleEncrypt := false
  replicationPassword := some "offsite"
  mirrorDeletes := false

theorem wrapper_uploaded : ∃ row key payload after,
    AsSaved storedGzip "/app" (wrapperText clearCipher someSalt [] "spring") wrappedNightly
      (backupToDisk storedGzip 0 "/app" blankWorld wrappedNightly
        (wrapperText clearCipher someSalt [] "spring")) row ∧
    replicateWith (Payloads.preparePayload clearCipher storedGzip someSalt) id "/app"
      (backupToDisk storedGzip 0 "/app" blankWorld wrappedNightly
        (wrapperText clearCipher someSalt [] "spring")) 1 (some privateTarget) "edge" 12 .succeeds =
      (true, after) ∧
    after.objects key = some payload ∧
    (after.rows.get 1).bind Backup.replicaKey = some key ∧
    (Private clearCipher "offsite" (wrapperText clearCipher someSalt [] "spring") payload ↔
      Guarded wrappedNightly privateTarget (wrapperText clearCipher someSalt [] "spring")) := by
  obtain ⟨row, found, saved⟩ := @backupToDisk_asSaved Bytes Unit storedGzip 0 "/app" blankWorld
    wrappedNightly (wrapperText clearCipher someSalt [] "spring") (by decide)
  obtain ⟨key, payload, after, uploads, stored, recorded, kept⟩ :=
    upload_private_iff clearCipher someSalt id "edge" 12 found saved rfl
      (show truthy privateTarget.replicationPassword = some "offsite" from rfl)
  exact ⟨row, key, payload, after, saved, uploads, stored, recorded, kept⟩

/-- A configuration that pfSense sent unencrypted, with a description that quotes a wrapper. -/
def quotingConfig : List Char :=
  "<?xml version=\"1.0\"?><pfsense><descr>---- BEGIN config.xml ----</descr></pfsense>".toList

theorem quotingConfig_incomplete : ¬ CompleteWrapper quotingConfig := by
  have single : splitLines quotingConfig = [quotingConfig] := by decide
  rintro ⟨lines, body, split, -⟩
  have lengths := congrArg List.length (single.symm.trans split)
  simp only [List.length_append, List.length_cons, List.length_nil] at lengths
  omega

theorem quotingConfig_accepted :
    downloadConfig wrappedNightly.backupEncrypt none quotingConfig = some quotingConfig := by
  decide

theorem quotingConfig_unguarded : ¬ Guarded wrappedNightly privateTarget quotingConfig := by
  have marked : textLooksEncrypted quotingConfig = true := by decide
  intro guarded
  exact quotingConfig_incomplete (guarded rfl marked rfl)

/-- It is stored as encrypted, and uploaded as it is. -/
theorem quotingConfig_leaves :
    ¬ ∀ (prims : Primitives) (gz : Gzip) (salt : PfsenseCrypto.Salt) (cwd : String)
      (contentType : Option String) (body content : List Char) (run : BackupRun Bytes Unit)
      (world after : World Bytes Bytes) (row : Backup Bytes) (backupId : Nat)
      (cfg : ReplicationConfig) (password instanceName : String) (now : Nat) (key : String)
      (payload : Bytes),
      downloadConfig run.backupEncrypt contentType body = some content →
      world.rows.get backupId = some row → AsSaved gz cwd content run world row →
      cfg.encryptPlaintext = true → truthy cfg.replicationPassword = some password →
      replicateWith (Payloads.preparePayload prims gz salt) id cwd world backupId (some cfg)
        instanceName now .succeeds = (true, after) →
      (after.rows.get backupId).bind Backup.replicaKey = some key → after.objects key = some payload →
      Private prims password content payload := by
  intro claim
  obtain ⟨row, found, saved⟩ := @backupToDisk_asSaved Bytes Unit storedGzip 0 "/app" blankWorld
    wrappedNightly quotingConfig (by decide)
  generalize backupToDisk storedGzip 0 "/app" blankWorld wrappedNightly quotingConfig = world
    at found saved
  generalize blankWorld.rows.nextId = backupId at found
  obtain ⟨mtime, file⟩ := saved.file
  have given : truthy privateTarget.replicationPassword = some "offsite" := rfl
  obtain ⟨payload, suffix, made, kept⟩ := prepare_saved clearCipher someSalt saved rfl rfl given
  have uploads := replicateWith_succeeds id "/app" "edge" 12 found saved.present file made
  have recorded := @World.replicaKey_markDone _ _
    (world.putObject (objectKey privateTarget "edge" row.filename suffix) payload) backupId 12 row
    (objectKey privateTarget "edge" row.filename suffix) (id payload) found
  have leaked : Private clearCipher "offsite" quotingConfig payload :=
    claim clearCipher storedGzip someSalt "/app" none quotingConfig quotingConfig wrappedNightly world
      _ row backupId privateTarget "offsite" "edge" 12 _ payload quotingConfig_accepted found saved rfl
      given uploads recorded World.objects_markDone
  exact quotingConfig_unguarded (kept.mp leaked)

end PfsenseBackups.PlaintextUploads
