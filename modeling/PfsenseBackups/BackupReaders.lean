import PfsenseBackups.PlaintextUploads

/-! The two readers of backup files against their writer: `read_backup_bytes`, for diffs and event
ingestion, and `_read_for_walk`, for the anchor walk of the web service. -/

namespace PfsenseBackups.BackupReaders
open Encodings PfsenseCrypto Replication StoredBackups Payloads PlaintextUploads

/-! ### The readers -/

/-- `Path.suffix`. -/
def pathSuffix (path : String) : String :=
  let backwards := (pathName path).toList.reverse
  let ending := backwards.takeWhile (· ≠ '.')
  match backwards.dropWhile (· ≠ '.') with
  | '.' :: stem => if stem ≠ [] ∧ ending ≠ [] then String.ofList ('.' :: ending.reverse) else ""
  | _ => ""

section Readers

variable (prims : Primitives) (gz : Gzip) (files : String → Option Bytes)

/-- The stored password is shown as what it decrypts to. -/
def readBackupBytes (path : String) (encrypted : Bool) (encryptPassword : Option String) :
    Option Bytes :=
  match files path with
  | none => none
  | some raw =>
    if !encrypted then
      if pathSuffix path = ".gz" then (gz.decompress raw).toOption else some raw
    else
      match encryptPassword with
      | none => none
      | some password => (decryptPfsenseBackup prims raw password).toOption

def readForWalk (rawPath : String) (compressed encrypted : Bool) (encryptPassword : Option String) :
    Except String Bytes :=
  let path := resolveBackupPath rawPath
  match files path with
  | none => .error "No such file or directory"
  | some file => do
    let unpacked := if pathSuffix path = ".gz" ∨ compressed then gz.decompress file else .ok file
    let raw ← unpacked
    if !encrypted || !looksEncrypted raw then .ok raw
    else
      match encryptPassword with
      | none => throw ("cannot decrypt backup: no per-row password stored. " ++
          "Download the raw encrypted file and decrypt offline.")
      | some password => (decryptPfsenseBackup prims raw password).mapError fun text =>
          "cannot decrypt backup — password missing or KDF mismatch (" ++ text ++ ")"

end Readers

/-- What `gzip` does with data that is no stream of its own. -/
structure Gunzips (gz : Gzip) : Prop where
  blank : gz.decompress [] = .ok []
  refuses : ∀ raw, raw ≠ [] → ¬ [0x1F, 0x8B] <+: raw → ∃ text, gz.decompress raw = .error text

/-! ### What the writer leaves -/

/-- What pfSense sent for a configuration: itself, or a wrapper that the stored password opens. -/
inductive Answers (prims : Primitives) {Salt : Type} (run : BackupRun Bytes Salt) (password : String)
    (content : List Char) : Bytes → Prop
  | plain : Answers prims run password content (utf8 content)
  | wrapped {xml : Bytes} (asked : run.backupEncrypt = true)
      (opens : decryptPfsenseBackup prims (utf8 content) password = .ok xml) :
    Answers prims run password content xml

/-- A row and its file as they are after a backup, or after re-encryptions of it. -/
structure Written {Digest Salt : Type} (gz : Gzip) (cwd : String) (content : List Char)
    (password : String) (run : BackupRun Bytes Salt) (world : World Bytes Digest)
    (row : Backup Digest) : Prop extends AsSaved gz cwd content run world row where
  path : row.path = savedPath run
  named : pathName run.xmlPath ≠ ""
  password : row.encrypted = true → row.encryptPassword = some password

variable {Digest Salt : Type}

/-- Both readers come to the configuration. -/
def BothOpen (prims : Primitives) (gz : Gzip) (cwd : String) (world : World Bytes Digest)
    (row : Backup Digest) (xml : Bytes) : Prop :=
  readBackupBytes prims gz world.files (openedPath cwd row.path) row.encrypted row.encryptPassword =
      some xml ∧
    readForWalk prims gz world.files row.path row.compressed row.encrypted row.encryptPassword = .ok xml

/-- A plain configuration has no marker that makes an encrypted row of it, and no name that makes a
compressed file of it. -/
structure PlainReadable (run : BackupRun Bytes Salt) (content : List Char) : Prop where
  unmarked : sourceEncrypted run.backupEncrypt content = false
  name : run.compress = false → pathSuffix run.xmlPath = ".gz" → content = []

/-- A wrapper is neither compressed nor named so, and its marker comes early. -/
structure WrapperReadable (run : BackupRun Bytes Salt) (content : List Char) : Prop where
  uncompressed : run.compress = false
  name : pathSuffix run.xmlPath ≠ ".gz"
  text : textLooksEncrypted content = true
  bytes : looksEncrypted (utf8 content) = true

/-- What both readers need. -/
structure Readable (cwd : String) (run : BackupRun Bytes Salt) (content : List Char)
    (row : Backup Digest) (xml : Bytes) : Prop where
  place : resolveBackupPath row.path = openedPath cwd row.path
  plain : xml = utf8 content → PlainReadable run content
  wrapped : xml ≠ utf8 content → WrapperReadable run content

/-- A compressed file that reads as a wrapper, or another file where the web service looks. -/
def Coincidence (cwd : String) (world : World Bytes Digest) (row : Backup Digest) : Prop :=
  (row.compressed = true ∧ ∃ file parsed, world.files (openedPath cwd row.path) = some file ∧
      parseWrapper file = .ok parsed) ∨
    resolveBackupPath row.path ≠ openedPath cwd row.path ∧
      (world.files (resolveBackupPath row.path)).isSome

/-! ### Names -/

theorem pathName_below (front path : String) : pathName (front ++ "/" ++ path) = pathName path := by
  have slash : (front ++ "/" ++ path).toList.reverse =
      path.toList.reverse ++ '/' :: front.toList.reverse := by
    rw [String.toList_append, String.toList_append, List.reverse_append, List.reverse_append]
    rfl
  rw [pathName, pathName, slash, List.takeWhile_append]
  split
  case isTrue whole =>
    have all : path.toList.reverse.takeWhile (fun char => decide (char ≠ '/')) = path.toList.reverse :=
      (List.takeWhile_prefix _).eq_of_length whole
    rw [all, List.takeWhile_cons_of_neg (by decide), List.append_nil]
  case isFalse => rfl

theorem pathName_openedPath (cwd path : String) : pathName (openedPath cwd path) = pathName path := by
  rw [openedPath]
  split
  · rfl
  · exact pathName_below cwd path

theorem pathName_resolveBackupPath (path : String) :
    pathName (resolveBackupPath path) = pathName path := by
  rw [resolveBackupPath]
  split
  · rfl
  · exact pathName_below "/backups" path

theorem pathSuffix_openedPath (cwd path : String) :
    pathSuffix (openedPath cwd path) = pathSuffix path := by
  rw [pathSuffix, pathName_openedPath, ← pathSuffix]

theorem pathSuffix_resolveBackupPath (path : String) :
    pathSuffix (resolveBackupPath path) = pathSuffix path := by
  rw [pathSuffix, pathName_resolveBackupPath, ← pathSuffix]

theorem pathSuffix_gz {path : String} (named : pathName path ≠ "") :
    pathSuffix (path ++ ".gz") = ".gz" := by
  have stem : path.toList.reverse.takeWhile (fun char => decide (char ≠ '/')) ≠ [] := by
    intro blank
    apply named
    rw [pathName, blank]
    rfl
  have backwards : (pathName (path ++ ".gz")).toList.reverse = 'z' :: 'g' :: '.' ::
      path.toList.reverse.takeWhile (fun char => decide (char ≠ '/')) := by
    rw [pathName, String.toList_ofList, List.reverse_reverse, String.toList_append,
      List.reverse_append]
    rfl
  have front : ('z' :: 'g' :: '.' ::
      path.toList.reverse.takeWhile (fun char => decide (char ≠ '/'))).dropWhile
        (fun char => decide (char ≠ '.')) =
      '.' :: path.toList.reverse.takeWhile (fun char => decide (char ≠ '/')) := rfl
  simp only [pathSuffix, backwards, front]
  rw [if_pos ⟨stem, List.cons_ne_nil _ _⟩]
  rfl

theorem pathSuffix_savedPath {run : BackupRun Bytes Salt} (named : pathName run.xmlPath ≠ "") :
    pathSuffix (savedPath run) = if run.compress then ".gz" else pathSuffix run.xmlPath := by
  rw [savedPath]
  split
  · exact pathSuffix_gz named
  · rfl

/-! ### What each reader comes to -/

/-- The content as the file's name says it is packed. -/
def byName (gz : Gzip) (run : BackupRun Bytes Salt) (content : List Char) : Except String Bytes :=
  if run.compress = false ∧ pathSuffix run.xmlPath = ".gz" then gz.decompress (utf8 content)
  else .ok (utf8 content)

variable {prims : Primitives} {gz : Gzip} {cwd : String} {content : List Char} {password : String}
  {run : BackupRun Bytes Salt} {world : World Bytes Digest} {row : Backup Digest} {xml : Bytes}

theorem byName_ok (name : run.compress = false → pathSuffix run.xmlPath = ".gz" → content = [])
    (gunzips : Gunzips gz) : byName gz run content = .ok (utf8 content) := by
  rw [byName]
  split
  case isTrue packed =>
    rw [name packed.1 packed.2]
    exact gunzips.blank
  case isFalse => rfl

theorem byName_error (plain : run.compress = false) (name : pathSuffix run.xmlPath = ".gz")
    (filled : content ≠ []) (gunzips : Gunzips gz) : ∃ text, byName gz run content = .error text := by
  have bytes : utf8 content ≠ [] := by
    cases content with
    | nil => exact absurd rfl filled
    | cons char rest =>
      obtain ⟨first, later, head, -⟩ := utf8EncodeChar_cons char
      rw [utf8, List.flatMap_cons, head]
      exact List.cons_ne_nil _ _
  obtain ⟨text, refused⟩ := gunzips.refuses (utf8 content) bytes (utf8_no_magic content)
  refine ⟨text, ?_⟩
  rw [byName, if_pos ⟨plain, name⟩, refused]

theorem byName_of_ok (opened : byName gz run content = .ok xml) (gunzips : Gunzips gz) :
    xml = utf8 content := by
  by_cases fits : run.compress = false → pathSuffix run.xmlPath = ".gz" → content = []
  · rw [byName_ok fits gunzips] at opened
    exact (Except.ok.inj opened).symm
  · have packed : run.compress = false ∧ pathSuffix run.xmlPath = ".gz" ∧ content ≠ [] := by
      push Not at fits
      exact fits
    obtain ⟨text, refused⟩ := byName_error packed.1 packed.2.1 packed.2.2 gunzips
    rw [refused] at opened
    cases opened

theorem readBackupBytes_plain (written : Written gz cwd content password run world row)
    (plain : row.encrypted = false) :
    readBackupBytes prims gz world.files (openedPath cwd row.path) row.encrypted row.encryptPassword =
      (byName gz run content).toOption := by
  obtain ⟨mtime, file⟩ := written.file
  have suffix : pathSuffix (openedPath cwd row.path) =
      if run.compress then ".gz" else pathSuffix run.xmlPath := by
    rw [pathSuffix_openedPath, written.path, pathSuffix_savedPath written.named]
  simp only [readBackupBytes, file, plain, suffix, byName]
  cases run.compress with
  | true =>
    simp only [Bool.not_false, if_true, Bool.true_eq_false, false_and, if_false, packWith,
      gz.decompress_compress]
  | false =>
    simp only [Bool.not_false, if_true, Bool.false_eq_true, if_false, true_and, packWith]
    split <;> rfl

theorem readBackupBytes_encrypted (written : Written gz cwd content password run world row)
    (encrypted : row.encrypted = true) : ∃ mtime,
    readBackupBytes prims gz world.files (openedPath cwd row.path) row.encrypted row.encryptPassword =
      (decryptPfsenseBackup prims (packWith (gz.compress mtime) run.compress (utf8 content))
        password).toOption ∧
    world.files (openedPath cwd row.path) =
      some (packWith (gz.compress mtime) run.compress (utf8 content)) := by
  obtain ⟨mtime, file⟩ := written.file
  refine ⟨mtime, ?_, file⟩
  simp only [readBackupBytes, file, encrypted, written.password encrypted, Bool.not_true,
    Bool.false_eq_true, if_false]

theorem readForWalk_eq (written : Written gz cwd content password run world row)
    (place : resolveBackupPath row.path = openedPath cwd row.path) :
    readForWalk prims gz world.files row.path row.compressed row.encrypted row.encryptPassword =
      (byName gz run content).bind fun raw =>
        if !row.encrypted || !looksEncrypted raw then .ok raw
        else (decryptPfsenseBackup prims raw password).mapError fun text =>
          "cannot decrypt backup — password missing or KDF mismatch (" ++ text ++ ")" := by
  obtain ⟨mtime, file⟩ := written.file
  have suffix : pathSuffix (resolveBackupPath row.path) =
      if run.compress then ".gz" else pathSuffix run.xmlPath := by
    rw [pathSuffix_resolveBackupPath, written.path, pathSuffix_savedPath written.named]
  have unpacked : (if pathSuffix (resolveBackupPath row.path) = ".gz" ∨ row.compressed = true then
      gz.decompress (packWith (gz.compress mtime) run.compress (utf8 content))
      else .ok (packWith (gz.compress mtime) run.compress (utf8 content))) =
        byName gz run content := by
    rw [suffix, written.compressed, byName]
    cases run.compress with
    | true =>
      simp only [or_true, if_true, Bool.true_eq_false, false_and, if_false, packWith,
        gz.decompress_compress]
    | false =>
      simp only [Bool.false_eq_true, if_false, or_false, true_and, packWith]
  have passwords : ∀ raw, (!row.encrypted || !looksEncrypted raw) = false →
      row.encryptPassword = some password := by
    intro raw both
    apply written.password
    cases flag : row.encrypted with
    | true => rfl
    | false =>
      rw [flag] at both
      cases both
  simp only [readForWalk]
  rw [place, file]
  dsimp only
  rw [← place, unpacked]
  cases byName gz run content with
  | error text => rfl
  | ok raw =>
    cases both : !row.encrypted || !looksEncrypted raw with
    | true =>
      simp only [Except.bind, bind, both, if_true]
    | false =>
      simp only [Except.bind, bind, both, Bool.false_eq_true, if_false, passwords raw both]

/-! ### The readers against the writer -/

/-- A backup leaves its row and file as written. -/
theorem backupToDisk_written (gz : Gzip) (mtime : Nat) (cwd : String) (world : World Bytes Digest)
    {run : BackupRun Bytes Salt} (content : List Char) (absolute : isAbsolute run.xmlPath)
    (named : pathName run.xmlPath ≠ "") (given : truthy run.backupEncryptPassword = some password) :
    ∃ row, (backupToDisk gz mtime cwd world run content).rows.get world.rows.nextId = some row ∧
      Written gz cwd content password run (backupToDisk gz mtime cwd world run content) row := by
  obtain ⟨sizeBytes, found, file⟩ := backupToDisk_row gz mtime cwd world content absolute
  refine ⟨_, found, ⟨rfl, rfl, rfl, mtime, file⟩, rfl, named, ?_⟩
  intro encrypted
  exact (if_pos encrypted).trans given

theorem wrapped_ne (opens : decryptPfsenseBackup prims (utf8 content) password = .ok xml) :
    xml ≠ utf8 content := by
  intro same
  rw [same] at opens
  exact decrypt_ne_self _ _ opens

theorem bothOpen_of_readable (written : Written gz cwd content password run world row)
    (answers : Answers prims run password content xml) (gunzips : Gunzips gz)
    (readable : Readable cwd run content row xml) : BothOpen prims gz cwd world row xml := by
  have walk := @readForWalk_eq _ _ prims _ _ _ _ _ _ _ written readable.place
  cases answers with
  | plain =>
    have clear := readable.plain rfl
    have plain : row.encrypted = false := written.encrypted.trans clear.unmarked
    have named := byName_ok clear.name gunzips
    constructor
    · rw [readBackupBytes_plain written plain, named]
      rfl
    · rw [walk, named, plain]
      rfl
  | wrapped asked opens =>
    have clear := readable.wrapped (wrapped_ne opens)
    have encrypted : row.encrypted = true := by
      rw [written.encrypted, sourceEncrypted, asked, clear.text]
      rfl
    have named := @byName_ok _ gz content run (fun _ name => absurd name clear.name) gunzips
    constructor
    · obtain ⟨mtime, read, -⟩ := @readBackupBytes_encrypted _ _ prims _ _ _ _ _ _ _ written encrypted
      rw [read, packWith, clear.uncompressed, if_neg (by simp), opens]
      rfl
    · rw [walk, named, encrypted]
      simp only [Except.bind, clear.bytes, Bool.not_true, Bool.or_self, Bool.false_eq_true, if_false,
        opens]
      rfl

theorem coincidence_of_decrypted (written : Written gz cwd content password run world row) {mtime : Nat}
    (file : world.files (openedPath cwd row.path) =
      some (packWith (gz.compress mtime) run.compress (utf8 content)))
    (compressed : run.compress = true)
    (opened : (decryptPfsenseBackup prims (packWith (gz.compress mtime) run.compress (utf8 content))
      password).toOption = some xml) : Coincidence cwd world row := by
  cases result : decryptPfsenseBackup prims
      (packWith (gz.compress mtime) run.compress (utf8 content)) password with
  | error text =>
    rw [result] at opened
    cases opened
  | ok text =>
    obtain ⟨parsed, parses⟩ := parsed_of_decrypt result
    exact .inl ⟨written.compressed.trans compressed, _, parsed, file, parses⟩

/-- An encrypted row of which diffs are made has an uncompressed file. -/
theorem uncompressed_of_read (written : Written gz cwd content password run world row)
    (encrypted : row.encrypted = true) (apart : ¬ Coincidence cwd world row)
    (read : readBackupBytes prims gz world.files (openedPath cwd row.path) row.encrypted
      row.encryptPassword = some xml) :
    run.compress = false ∧ decryptPfsenseBackup prims (utf8 content) password = .ok xml := by
  obtain ⟨mtime, reads, file⟩ :=
    @readBackupBytes_encrypted _ _ prims _ _ _ _ _ _ _ written encrypted
  rw [reads] at read
  cases compressed : run.compress with
  | true => exact absurd (coincidence_of_decrypted written file compressed read) apart
  | false =>
    rw [packWith, compressed, if_neg (by simp)] at read
    refine ⟨rfl, ?_⟩
    cases result : decryptPfsenseBackup prims (utf8 content) password with
    | error text =>
      rw [result] at read
      cases read
    | ok text =>
      rw [result] at read
      exact congrArg _ (Option.some.inj read)

theorem place_of_walk (apart : ¬ Coincidence cwd world row)
    (walked : readForWalk prims gz world.files row.path row.compressed row.encrypted
      row.encryptPassword = .ok xml) : resolveBackupPath row.path = openedPath cwd row.path := by
  by_contra elsewhere
  cases file : world.files (resolveBackupPath row.path) with
  | none =>
    simp only [readForWalk, file] at walked
    cases walked
  | some content =>
    apply apart
    refine .inr ⟨elsewhere, ?_⟩
    rw [file]
    rfl

theorem byName_of_walk (written : Written gz cwd content password run world row)
    (place : resolveBackupPath row.path = openedPath cwd row.path)
    (walked : readForWalk prims gz world.files row.path row.compressed row.encrypted
      row.encryptPassword = .ok xml) : ∃ raw, byName gz run content = .ok raw := by
  rw [readForWalk_eq written place] at walked
  cases named : byName gz run content with
  | error text =>
    rw [named] at walked
    cases walked
  | ok raw => exact ⟨raw, rfl⟩

theorem readable_of_bothOpen (written : Written gz cwd content password run world row)
    (answers : Answers prims run password content xml) (gunzips : Gunzips gz)
    (apart : ¬ Coincidence cwd world row) (opens : BothOpen prims gz cwd world row xml) :
    Readable cwd run content row xml := by
  obtain ⟨read, walked⟩ := opens
  have place := place_of_walk apart walked
  obtain ⟨raw, named⟩ := byName_of_walk written place walked
  have name : content ≠ [] → run.compress = false → pathSuffix run.xmlPath ≠ ".gz" := by
    intro filled plain gz
    obtain ⟨text, refused⟩ := byName_error plain gz filled gunzips
    rw [refused] at named
    cases named
  cases answers with
  | plain =>
    refine ⟨place, fun _ => ⟨?_, ?_⟩, fun other => absurd rfl other⟩
    · rw [← written.encrypted, Bool.eq_false_iff]
      intro encrypted
      exact decrypt_ne_self _ _ (uncompressed_of_read written encrypted apart read).2
    · intro plain gz
      by_contra filled
      exact name filled plain gz
  | wrapped asked opened =>
    have differ := wrapped_ne opened
    have filled : content ≠ [] := by
      rintro rfl
      exact absurd (decrypt_ok opened).2 (Nat.not_lt_zero _)
    have encrypted : row.encrypted = true := by
      by_contra plain
      have unflagged : row.encrypted = false := Bool.eq_false_iff.mpr plain
      have same := byName_of_ok named gunzips
      rw [readBackupBytes_plain written unflagged, named, same] at read
      exact differ (Option.some.inj read).symm
    have flag := written.encrypted
    rw [encrypted, sourceEncrypted, asked, Bool.true_and] at flag
    have uncompressed := (uncompressed_of_read written encrypted apart read).1
    refine ⟨place, fun same => absurd same differ, fun _ => ⟨uncompressed, name filled uncompressed,
      flag.symm, ?_⟩⟩
    by_contra late
    have same := byName_of_ok named gunzips
    rw [readForWalk_eq written place, named, same, encrypted] at walked
    simp only [Except.bind, Bool.eq_false_iff.mpr late, Bool.not_true, Bool.not_false, Bool.or_true,
      if_true] at walked
    exact differ (Except.ok.inj walked).symm

/-- Both readers come to the configuration that a written file holds if it is readable, and only
then, unless a compressed file happens to read as a wrapper or another file lies where the web
service looks. -/
theorem readers_open (prims : Primitives) {gz : Gzip} (gunzips : Gunzips gz)
    (written : Written gz cwd content password run world row)
    (answers : Answers prims run password content xml) :
    (Readable cwd run content row xml → BothOpen prims gz cwd world row xml) ∧
      (BothOpen prims gz cwd world row xml →
        Readable cwd run content row xml ∨ Coincidence cwd world row) := by
  constructor
  · exact bothOpen_of_readable written answers gunzips
  · intro opens
    by_cases apart : Coincidence cwd world row
    · exact .inr apart
    · exact .inl (readable_of_bothOpen written answers gunzips apart opens)

/-! ### A compressed wrapper -/

/-- A header of two bytes, and the text with its high bits turned. -/
def turningGzip : Gzip where
  compress _ text := 0x1F :: 0x8B :: text.map (· + 128)
  decompress raw :=
    if raw = [] then .ok []
    else if [0x1F, 0x8B].isPrefixOf raw then .ok ((raw.drop 2).map (· + 128))
    else .error "Not a gzipped file"
  decompress_compress _ text := by
    have turned : ∀ byte : UInt8, byte + 128 + 128 = byte := by
      intro byte
      apply UInt8.toNat_inj.mp
      have bound := byte.toNat_lt
      simp only [UInt8.toNat_add, UInt8.reduceToNat]
      omega
    have twice : (text.map (· + 128)).map (· + 128) = text := by
      rw [List.map_map]
      conv_rhs => rw [← List.map_id text]
      exact List.map_congr_left fun byte _ => turned byte
    exact congrArg Except.ok twice

theorem turningGzip_gunzips : Gunzips turningGzip where
  blank := rfl
  refuses := by
    intro raw filled other
    refine ⟨"Not a gzipped file", ?_⟩
    have plain : ¬ [0x1F, 0x8B].isPrefixOf raw = true := by
      rw [List.isPrefixOf_iff_prefix]
      exact other
    exact (if_neg filled).trans (if_neg plain)

/-- A configuration, and its wrapper as a pfSense sends it. -/
def smallConfig : Bytes :=
  utf8 "<?xml?>".toList

def smallWrapper : List Char :=
  wrapperText clearCipher someSalt smallConfig "spring"

theorem smallWrapper_opens :
    decryptPfsenseBackup clearCipher (utf8 smallWrapper) "spring" = .ok smallConfig :=
  decrypt_encrypt someSalt "spring" (by decide)

theorem wrapper_opens : ∃ row, Written turningGzip "/app" smallWrapper "spring" wrappedNightly
      (backupToDisk turningGzip 0 "/app" blankWorld wrappedNightly smallWrapper) row ∧
    ((Readable "/app" wrappedNightly smallWrapper row smallConfig →
      BothOpen clearCipher turningGzip "/app"
        (backupToDisk turningGzip 0 "/app" blankWorld wrappedNightly smallWrapper) row smallConfig) ∧
    (BothOpen clearCipher turningGzip "/app"
        (backupToDisk turningGzip 0 "/app" blankWorld wrappedNightly smallWrapper) row smallConfig →
      Readable "/app" wrappedNightly smallWrapper row smallConfig ∨
        Coincidence "/app"
          (backupToDisk turningGzip 0 "/app" blankWorld wrappedNightly smallWrapper) row)) := by
  obtain ⟨row, -, written⟩ := @backupToDisk_written Bytes Unit "spring" turningGzip 0 "/app" blankWorld
    wrappedNightly smallWrapper (by decide) (by decide) rfl
  exact ⟨row, written, readers_open clearCipher turningGzip_gunzips written
    (.wrapped rfl smallWrapper_opens)⟩

/-- Compressed, the wrapper is saved in a form that no diff is made of. -/
def compressedNightly : BackupRun Bytes Unit :=
  { wrappedNightly with compress := true }

theorem compressed_unparsed {mtime : Nat} {parsed : Parsed} :
    parseWrapper (turningGzip.compress mtime (utf8 smallWrapper)) ≠ .ok parsed := by
  have failed : (parseWrapper (turningGzip.compress 0 (utf8 smallWrapper))).toOption.isNone := by
    decide
  intro reads
  rw [show turningGzip.compress 0 (utf8 smallWrapper) =
    turningGzip.compress mtime (utf8 smallWrapper) from rfl, reads] at failed
  cases failed

/-- No diff is made of a compressed wrapper, and so no event and no alert. -/
theorem compressed_wrapper_unread :
    ¬ ∀ (prims : Primitives) (gz : Gzip) (cwd : String) (content : List Char) (password : String)
      (run : BackupRun Bytes Unit) (world : World Bytes Bytes) (row : Backup Bytes) (xml : Bytes),
      Gunzips gz → Written gz cwd content password run world row →
      Answers prims run password content xml → BothOpen prims gz cwd world row xml := by
  intro claim
  obtain ⟨row, -, written⟩ := @backupToDisk_written Bytes Unit "spring" turningGzip 0 "/app" blankWorld
    compressedNightly smallWrapper (by decide) (by decide) rfl
  have answers : Answers clearCipher compressedNightly "spring" smallWrapper smallConfig :=
    .wrapped rfl smallWrapper_opens
  have opens := claim clearCipher turningGzip "/app" smallWrapper "spring" compressedNightly _ row
    smallConfig turningGzip_gunzips written answers
  have place : resolveBackupPath row.path = openedPath "/app" row.path := by
    rw [written.path]
    decide
  have apart : ¬ Coincidence "/app"
      (backupToDisk turningGzip 0 "/app" blankWorld compressedNightly smallWrapper) row := by
    rintro (⟨-, file, parsed, stored, reads⟩ | ⟨elsewhere, -⟩)
    · obtain ⟨mtime, saved⟩ := written.file
      rw [stored] at saved
      cases saved
      exact compressed_unparsed reads
    · exact elsewhere place
  have readable := readable_of_bothOpen written answers turningGzip_gunzips apart opens
  have uncompressed := (readable.wrapped (wrapped_ne smallWrapper_opens)).uncompressed
  cases uncompressed

end PfsenseBackups.BackupReaders
