import PfsenseBackups.PfsenseCrypto
import PfsenseBackups.Replication

/-! Off-site payloads as bytes: what `prepare_payload` makes of a file, and what `_undo_payload`
makes of that. -/

namespace PfsenseBackups.Payloads
open Encodings PfsenseCrypto Replication

/-- `gzip`; the time stamp goes into the header. -/
structure Gzip where
  compress : Nat → Bytes → Bytes
  decompress : Bytes → Except String Bytes
  decompress_compress : ∀ mtime text, decompress (compress mtime text) = .ok text

variable (prims : Primitives) (gz : Gzip)

def unpack (compressed : Bool) (raw : Bytes) : Except String Bytes :=
  unpackWith gz.decompress compressed raw

def preparePayload (salt : PfsenseCrypto.Salt) (raw : Bytes) (encrypted compressed : Bool)
    (cfg : ReplicationConfig) : Except String (Bytes × String) :=
  prepareWith gz.decompress (encryptPfsenseBackup prims salt) raw encrypted compressed cfg

def undoPayload (mtime : Nat) (payload : Bytes) (key : String) (encrypted compressed : Bool)
    (cfg : ReplicationConfig) : Except String Bytes :=
  undoWith (gz.compress mtime) (decryptPfsenseBackup prims) payload key encrypted compressed cfg

/-- The same file, up to how it was compressed. -/
def SameFile (compressed : Bool) (raw content : Bytes) : Prop :=
  if compressed then gz.decompress content = gz.decompress raw else content = raw

/-! ### Keys -/

/-- The name of an object, less its suffix. -/
def objectBase (filename : String) : String :=
  removeSuffix (removeSuffix filename ".gz") ".xml"

theorem endsWith_iff {text ending : String} :
    endsWith text ending = true ↔ ending.toList <:+ text.toList := by
  rw [endsWith, List.isSuffixOf_iff_suffix]

/-- The key says `.2x` where the file's own name does. -/
theorem endsWith_objectKey (cfg : ReplicationConfig) (instanceName filename : String) :
    endsWith (objectKey cfg instanceName filename ".xml.enc") ".2x.xml.enc" =
      endsWith (objectBase filename) ".2x" := by
  have layers : ".2x.xml.enc".toList = ".2x".toList ++ ".xml.enc".toList := by decide
  have stem : (objectStem cfg instanceName filename).toList =
      (cfg.basePath ++ "/" ++ instanceName).toList ++ '/' :: (objectBase filename).toList := by
    rw [objectStem, String.toList_append, String.toList_append, List.append_assoc]
    rfl
  rw [Bool.eq_iff_iff, endsWith_iff, endsWith_iff, objectKey, String.toList_append, layers,
    List.suffix_append_self_iff, stem]
  constructor
  · intro ends
    have slash : '/' :: (objectBase filename).toList <:+ (cfg.basePath ++ "/" ++ instanceName).toList ++
        '/' :: (objectBase filename).toList := List.suffix_append _ _
    rcases List.suffix_or_suffix_of_suffix ends slash with short | long
    · rcases List.suffix_cons_iff.mp short with same | within
      · have dot : '.' = '/' := (List.cons.inj same).1
        exact absurd dot (by decide)
      · exact within
    · exact absurd (long.subset List.mem_cons_self) (by decide)
  · intro ends
    exact (ends.trans (List.suffix_cons '/' _)).trans (List.suffix_append _ _)

theorem endsWith_xml (stem : String) : endsWith (stem ++ ".xml") ".xml.enc" = false := by
  rw [Bool.eq_false_iff, ne_eq, endsWith_iff, String.toList_append]
  intro ends
  have short := List.suffix_of_suffix_length_le (List.suffix_append stem.toList ".xml".toList) ends
    (by decide)
  exact absurd short (by decide)

theorem endsWith_enc {text : String} (outer : endsWith text ".2x.xml.enc") :
    endsWith text ".xml.enc" := by
  have layers : ".xml.enc".toList <:+ ".2x.xml.enc".toList := by decide
  rw [endsWith_iff] at outer ⊢
  exact layers.trans outer

theorem layered_bare (cfg : ReplicationConfig) (instanceName filename : String) (encrypted : Bool) :
    layered (objectKey cfg instanceName filename (if encrypted then ".xml.enc" else ".xml")) encrypted =
      (encrypted && endsWith (objectBase filename) ".2x") := by
  cases encrypted with
  | true =>
    rw [if_pos rfl, layered, endsWith_objectKey]
    simp
  | false =>
    have single := endsWith_xml (objectStem cfg instanceName filename)
    have double : endsWith (objectStem cfg instanceName filename ++ ".xml") ".2x.xml.enc" = false :=
      Bool.eq_false_iff.mpr fun outer => Bool.eq_false_iff.mp single (endsWith_enc outer)
    rw [if_neg (by simp), layered, objectKey, single, double]
    rfl

theorem layered_added (cfg : ReplicationConfig) (instanceName filename : String) (encrypted : Bool) :
    layered (objectKey cfg instanceName filename
      (if encrypted then ".2x.xml.enc" else ".xml.enc")) encrypted = true := by
  cases encrypted with
  | true => rw [if_pos rfl, layered, objectKey, endsWith_append, Bool.true_or]
  | false =>
    rw [if_neg (by simp), layered, objectKey, endsWith_append]
    simp

/-! ### What comes back -/

variable {prims} {gz} {cfg : ReplicationConfig} {raw payload content blob : Bytes} {suffix : String}
  {encrypted compressed : Bool}

theorem unpack_packed (mtime : Nat) (compressed : Bool) (blob : Bytes) :
    unpack gz compressed (packWith (gz.compress mtime) compressed blob) = .ok blob := by
  cases compressed
  · rfl
  · exact gz.decompress_compress mtime blob

/-- What is packed again is the same file if and only if it is what the file held. -/
theorem sameFile_packed (mtime : Nat) {other : Bytes} (unpacked : unpack gz compressed raw = .ok blob) :
    SameFile gz compressed raw (packWith (gz.compress mtime) compressed other) ↔ other = blob := by
  cases compressed with
  | true =>
    rw [SameFile, if_pos rfl, packWith, if_pos rfl, gz.decompress_compress]
    rw [unpack, unpackWith, if_pos rfl] at unpacked
    rw [unpacked, Except.ok.injEq]
  | false =>
    rw [unpack, unpackWith, if_neg (by simp)] at unpacked
    cases unpacked
    rfl

/-- The content is not taken for a wrong decryption, and no name for a second layer. -/
structure Recoverable (gz : Gzip) (raw : Bytes) (filename : String) (encrypted compressed : Bool)
    (cfg : ReplicationConfig) : Prop where
  unambiguous : encrypted = true → cfg.doubleEncrypt = false →
    endsWith (objectBase filename) ".2x" = false
  credible : addsLayer cfg encrypted = true → ∀ blob, unpack gz compressed raw = .ok blob →
    credible blob

theorem undo_bare_iff (mtime : Nat) (instanceName filename : String)
    (unpacked : unpack gz compressed raw = .ok payload) (bare : addsLayer cfg encrypted = false) :
    (∃ content, undoPayload prims gz mtime payload
        (objectKey cfg instanceName filename (if encrypted then ".xml.enc" else ".xml")) encrypted
        compressed cfg = .ok content ∧ SameFile gz compressed raw content) ↔
      Recoverable gz raw filename encrypted compressed cfg := by
  have marked := layered_bare cfg instanceName filename encrypted
  cases double : encrypted && endsWith (objectBase filename) ".2x" with
  | false =>
    rw [double] at marked
    apply iff_of_true
    · refine ⟨packWith (gz.compress mtime) compressed payload, ?_, ?_⟩
      · exact undoWith_bare marked
      · exact (sameFile_packed mtime unpacked).mpr rfl
    · constructor
      · intro source _
        rw [source, Bool.true_and] at double
        exact double
      · intro added
        rw [bare] at added
        cases added
  | true =>
    rw [double] at marked
    apply iff_of_false
    · rintro ⟨content, undone, same⟩
      obtain ⟨other, rfl, ⟨-, password, -, opened⟩ | ⟨plain, -⟩⟩ := undoWith_ok undone
      · have again : other = payload := (sameFile_packed mtime unpacked).mp same
        rw [again] at opened
        exact decrypt_ne_self payload password opened
      · rw [marked] at plain
        cases plain
    · intro clear
      obtain ⟨source, named⟩ := Bool.and_eq_true_iff.mp double
      have single : cfg.doubleEncrypt = false := by
        rw [addsLayer, if_pos source] at bare
        exact bare
      rw [clear.unambiguous source single] at named
      cases named

theorem undo_added_iff (salt : PfsenseCrypto.Salt) (mtime : Nat) (instanceName filename : String)
    {password : String} (unpacked : unpack gz compressed raw = .ok blob)
    (added : addsLayer cfg encrypted = true) (given : truthy cfg.replicationPassword = some password) :
    (∃ content, undoPayload prims gz mtime (encryptPfsenseBackup prims salt blob password)
        (objectKey cfg instanceName filename (if encrypted then ".2x.xml.enc" else ".xml.enc"))
        encrypted compressed cfg = .ok content ∧ SameFile gz compressed raw content) ↔
      Recoverable gz raw filename encrypted compressed cfg := by
  have undone : undoPayload prims gz mtime (encryptPfsenseBackup prims salt blob password)
      (objectKey cfg instanceName filename (if encrypted then ".2x.xml.enc" else ".xml.enc"))
      encrypted compressed cfg =
        (decryptPfsenseBackup prims (encryptPfsenseBackup prims salt blob password) password).map
          (packWith (gz.compress mtime) compressed) :=
    undoWith_layered (layered_added cfg instanceName filename encrypted) given
  rw [undone]
  constructor
  · rintro ⟨content, opened, same⟩
    cases text : decryptPfsenseBackup prims (encryptPfsenseBackup prims salt blob password)
      password with
    | error failure =>
      rw [text] at opened
      cases opened
    | ok other =>
      rw [text] at opened
      cases opened
      have again : other = blob := (sameFile_packed mtime unpacked).mp same
      have right : credible other := (decrypt_ok text).1
      constructor
      · intro source single
        rw [addsLayer, if_pos source, single] at added
        cases added
      · intro _ blob' unpacked'
        rw [unpacked] at unpacked'
        cases unpacked'
        rw [← again]
        exact right
  · intro clear
    rw [decrypt_encrypt salt password (clear.credible added blob unpacked)]
    exact ⟨_, rfl, (sameFile_packed mtime unpacked).mpr rfl⟩

/-- The file comes back from its object if and only if its content looks right under an added layer
and the name of an encrypted file without one does not end in `.2x`. -/
theorem undo_prepare_iff (prims : Primitives) (gz : Gzip) (salt : PfsenseCrypto.Salt) (mtime : Nat)
    (raw : Bytes) (encrypted compressed : Bool) (cfg : ReplicationConfig)
    (instanceName filename : String) {payload : Bytes} {suffix : String}
    (made : preparePayload prims gz salt raw encrypted compressed cfg = .ok (payload, suffix)) :
    (∃ content, undoPayload prims gz mtime payload (objectKey cfg instanceName filename suffix)
        encrypted compressed cfg = .ok content ∧ SameFile gz compressed raw content) ↔
      Recoverable gz raw filename encrypted compressed cfg := by
  obtain ⟨blob, unpacked, ⟨bare, same, named⟩ | ⟨added, password, given, same, named⟩⟩ :=
    prepareWith_ok made
  · rw [same, named]
    exact undo_bare_iff mtime instanceName filename unpacked bare
  · rw [same, named]
    exact undo_added_iff salt mtime instanceName filename unpacked added given

/-! ### A name that says too much -/

/-- A cipher that changes nothing. -/
def clearCipher : Primitives where
  pbkdf2HmacSha256 password salt _ := (password, salt)
  md5 := id
  cbcEncrypt _ blocks := blocks
  cbcDecrypt _ blocks := blocks
  cbcEncrypt_length _ _ := rfl
  cbcDecrypt_length _ _ := rfl
  cbcDecrypt_cbcEncrypt _ _ _ := rfl

/-- A header of two bytes, and the text as it is. -/
def storedGzip : Gzip where
  compress _ text := 0x1F :: 0x8B :: text
  decompress
    | [] => .ok []
    | 0x1F :: 0x8B :: text => .ok text
    | _ => .error "Not a gzipped file"
  decompress_compress _ _ := rfl

/-- Sources encrypt, and the target adds nothing to them. -/
def singleLayer : ReplicationConfig where
  basePath := "backups"
  encryptPlaintext := false
  doubleEncrypt := false
  replicationPassword := none
  mirrorDeletes := false

def someSalt : PfsenseCrypto.Salt :=
  ⟨[1, 2, 3, 4, 5, 6, 7, 8], rfl⟩

/-- What a pfSense returns with encryption on. -/
def wrappedConfig : Bytes :=
  encryptPfsenseBackup clearCipher someSalt (utf8 "<?xml version=\"1.0\"?><pfsense/>".toList) "secret"

theorem plain_name_restores :
    preparePayload clearCipher storedGzip someSalt wrappedConfig true false singleLayer =
      .ok (wrappedConfig, ".xml.enc") ∧
    ((∃ content, undoPayload clearCipher storedGzip 0 wrappedConfig
        (objectKey singleLayer "edge" "edge-20250101.xml" ".xml.enc") true false singleLayer =
          .ok content ∧ SameFile storedGzip false wrappedConfig content) ↔
      Recoverable storedGzip wrappedConfig "edge-20250101.xml" true false singleLayer) :=
  ⟨rfl, undo_prepare_iff clearCipher storedGzip someSalt 0 wrappedConfig true false singleLayer
    "edge" "edge-20250101.xml" rfl⟩

/-- An encrypted backup whose file name format puts `.2x` before the extension cannot be retrieved. -/
theorem doubled_name_lost :
    ¬ ∀ (prims : Primitives) (gz : Gzip) (salt : PfsenseCrypto.Salt) (mtime : Nat) (raw : Bytes)
      (encrypted compressed : Bool) (cfg : ReplicationConfig) (instanceName filename : String)
      (payload : Bytes) (suffix : String),
      preparePayload prims gz salt raw encrypted compressed cfg = .ok (payload, suffix) →
      ∃ content, undoPayload prims gz mtime payload (objectKey cfg instanceName filename suffix)
        encrypted compressed cfg = .ok content ∧ SameFile gz compressed raw content := by
  intro restores
  have restored := restores clearCipher storedGzip someSalt 0 wrappedConfig true false singleLayer
    "edge" "edge-20250101.2x.xml" wrappedConfig ".xml.enc" rfl
  have unpacked : unpack storedGzip false wrappedConfig = .ok wrappedConfig := rfl
  have clear : Recoverable storedGzip wrappedConfig "edge-20250101.2x.xml" true false singleLayer :=
    (undo_bare_iff 0 "edge" "edge-20250101.2x.xml" unpacked rfl).mp restored
  have named : endsWith (objectBase "edge-20250101.2x.xml") ".2x" = true := by decide
  rw [clear.unambiguous rfl rfl] at named
  cases named

end PfsenseBackups.Payloads
