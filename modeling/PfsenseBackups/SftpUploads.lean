import Mathlib.Data.List.DropRight
import PfsenseBackups.NotificationForms
import PfsenseBackups.RemoteTrees
import PfsenseBackups.ReplicaKeys
import PfsenseBackups.Shelf

/-! Where an upload by SFTP goes: the directories that are made for a key, and the path that is
opened under it. -/

namespace PfsenseBackups.SftpUploads
open NotificationForms Payloads PythonText RemoteTrees Replication ReplicaKeys Shelf

/-- The base path that `load_config` makes of the stored one. -/
def loadBasePath (basePath : String) : String :=
  rstripSlash (lstripSlash basePath)

/-- `key.split("/")[:-1]`. -/
def parents (key : String) : List String :=
  (split '/' key).dropLast

/-- The rounds of `_mkdirs`, from a path on. -/
def mkdirsFrom : Tree → String → List String → Option Tree
  | tree, _, [] => some tree
  | tree, path, part :: rest =>
    match tree.ensure (Tree.joined path part) with
    | none => none
    | some tree => mkdirsFrom tree (Tree.joined path part) rest

/-- `_mkdirs`, or nothing where a call raises. -/
def mkdirs (tree : Tree) (key : String) : Option Tree :=
  mkdirsFrom tree "" (parents key)

/-- The resolved key is below the base directory, in the folder of the instance. -/
def Below (tree : Tree) (basePath instanceName key : String) : Prop :=
  ∃ rest, rest ≠ [] ∧ follow (tree.start key) (split '/' key) =
    follow (tree.start basePath) (split '/' basePath) ++ instanceName :: rest

/-- If `_mkdirs` returns, the path that is opened has all its directories and is in the folder of
the instance. -/
def Lands (tree : Tree) (basePath instanceName key : String) : Prop :=
  ∀ after, mkdirs tree key = some after →
    after.Opens key ∧ Below tree basePath instanceName key

/-- A file stands where `_mkdirs` needs a directory to go on. -/
def Blocked (tree : Tree) (key : String) : Prop :=
  ∃ place ∈ (way tree.login (parents key)).dropLast, tree.kind place = some .file

/-- What the opened path leads through is there, or is missing and on the way of `_mkdirs`, which
begins at the login directory. -/
def Prepared (tree : Tree) (key : String) : Prop :=
  ∀ place ∈ way (tree.start key) (parents key), tree.kind place = some .dir ∨
    tree.kind place = none ∧ place ∈ way tree.login (parents key)

/-- No file stands in the way of `_mkdirs`. -/
def Clear (tree : Tree) (key : String) : Prop :=
  ∀ place ∈ way tree.login (parents key), tree.kind place ≠ some .file

section
variable {tree after : Tree} {path key : String} {place : Place} {parts : List String}

theorem mkdirsFrom_some (reached : tree.At path place) (flat : ∀ part ∈ parts, '/' ∉ part.toList)
    (done : mkdirsFrom tree path parts = some after) :
    (∀ other ∈ (way place parts).dropLast, tree.kind other ≠ some .file) ∧
      tree.Made (way place parts) after := by
  induction parts generalizing tree path place with
  | nil =>
    cases done
    refine ⟨fun other member => absurd member List.not_mem_nil, .old _ fun other member => ?_⟩
    rw [List.mem_singleton.mp member]
    exact reached.found
  | cons part rest ih =>
    obtain ⟨first, others⟩ := List.forall_mem_cons.mp flat
    cases there : tree.kind place with
    | none => exact absurd there reached.found
    | some kind =>
      cases kind with
      | file =>
        rw [mkdirsFrom, reached.ensure_file first there] at done
        cases done
      | dir =>
        obtain ⟨middle, ensured, reaches, made⟩ := reached.ensure_dir first there
        rw [mkdirsFrom, ensured] at done
        obtain ⟨clear, later⟩ := ih reaches others done
        rw [way, List.dropLast_cons_of_ne_nil (way_ne_nil _ rest)]
        constructor
        · refine List.forall_mem_cons.mpr ⟨by simp [there], fun other member file => ?_⟩
          apply clear other member
          rw [made.kept (by simp [file]), file]
        · apply (made.trans later).congr
          intro other missing
          have differ : other ≠ place := by
            intro same
            rw [same, there] at missing
            cases missing
          have start := mem_way_self (step place part) rest
          simp only [List.mem_append, List.mem_cons, List.not_mem_nil, or_false, differ, false_or]
          exact ⟨fun new => new.elim (fun same => same ▸ start) id, .inr⟩

theorem mkdirsFrom_none (reached : tree.At path place) (flat : ∀ part ∈ parts, '/' ∉ part.toList)
    (raised : mkdirsFrom tree path parts = none) :
    ∃ other ∈ (way place parts).dropLast, tree.kind other = some .file := by
  induction parts generalizing tree path place with
  | nil => cases raised
  | cons part rest ih =>
    obtain ⟨first, others⟩ := List.forall_mem_cons.mp flat
    rw [way, List.dropLast_cons_of_ne_nil (way_ne_nil _ rest)]
    cases there : tree.kind place with
    | none => exact absurd there reached.found
    | some kind =>
      cases kind with
      | file => exact ⟨place, List.mem_cons_self, there⟩
      | dir =>
        obtain ⟨middle, ensured, reaches, made⟩ := reached.ensure_dir first there
        rw [mkdirsFrom, ensured] at raised
        obtain ⟨other, member, file⟩ := ih reaches others raised
        refine ⟨other, List.mem_cons_of_mem _ member, ?_⟩
        rw [made.kind] at file
        split at file
        · cases file
        · exact file

theorem at_login (tree : Tree) : tree.At "" tree.login where
  relative := by simp
  leads := by
    rw [show split '/' "" = [""] from rfl, Tree.walk, if_pos tree.home]
    rfl
  found := by simp [tree.home]

theorem lands_iff_prepared {basePath instanceName : String} :
    Lands tree basePath instanceName key ↔
      Blocked tree key ∨ Below tree basePath instanceName key ∧ Prepared tree key := by
  have flat : ∀ part ∈ parents key, '/' ∉ part.toList :=
    fun part member => flat_of_split (List.mem_of_mem_dropLast member)
  unfold Lands mkdirs
  cases done : mkdirsFrom tree "" (parents key) with
  | none => simp [Blocked, mkdirsFrom_none (at_login tree) flat done]
  | some after =>
    obtain ⟨clear, made⟩ := mkdirsFrom_some (at_login tree) flat done
    have free : ¬ Blocked tree key := fun ⟨place, member, file⟩ => clear place member file
    have opens : after.Opens key ↔ Prepared tree key := by
      have start : after.start key = tree.start key := by
        rw [Tree.start, Tree.start, made.login]
      rw [Tree.opens_iff, start]
      apply forall₂_congr
      intro place _
      rw [made.kind]
      by_cases missing : tree.kind place = none
      · by_cases member : place ∈ way tree.login (parents key)
        · simp [missing, member]
        · simp [missing, member]
      · simp [missing]
    simp [free, opens, and_comm]

end

/-! ### File names without a slash -/

/-- The suffixes that `prepare_payload` gives. -/
def suffixes : List String :=
  [".xml", ".xml.enc", ".2x.xml.enc"]

section
variable {tree : Tree} {basePath instanceName filename suffix : String}

theorem loadBasePath_relative (basePath : String) :
    (loadBasePath basePath).toList.head? ≠ some '/' := by
  rw [loadBasePath, rstripSlash, lstripSlash, String.toList_ofList, String.toList_ofList]
  obtain ⟨tail, whole⟩ :=
    List.rdropWhile_prefix (fun char => decide (char = '/')) (basePath.toList.dropWhile (· = '/'))
  unfold List.rdropWhile at whole
  intro slash
  have head := List.head?_dropWhile_not (fun char => decide (char = '/')) basePath.toList
  rw [← whole, List.head?_append, slash] at head
  simp at head

theorem file_named (layout : suffix ∈ suffixes) (base : String) : Named (base ++ suffix) := by
  have long : 4 ≤ suffix.length := by
    revert suffix
    decide
  have whole : (base ++ suffix).length = base.length + suffix.length := String.length_append _ _
  refine ⟨?_, ?_, ?_⟩ <;> intro same <;> rw [same] at whole
  · have size : "".length = 0 := by decide
    omega
  · have size : ".".length = 1 := by decide
    omega
  · have size : "..".length = 2 := by decide
    omega

theorem file_flat (layout : suffix ∈ suffixes) (flat : '/' ∉ filename.toList) :
    '/' ∉ (objectBase filename ++ suffix).toList := by
  have ends : '/' ∉ suffix.toList := by
    revert suffix
    decide
  rw [String.toList_append, List.mem_append]
  refine not_or.mpr ⟨fun inside => ?_, ends⟩
  exact flat (removeSuffix_subset filename ".gz" (removeSuffix_subset _ ".xml" inside))

theorem instance_spec (accepted : noFsSpecial instanceName = true) :
    '/' ∉ instanceName.toList ∧ instanceName ≠ "" := by
  simp only [noFsSpecial, Bool.and_eq_true, List.all_eq_true, decide_eq_true_eq] at accepted
  refine ⟨fun inside => ?_, accepted.2⟩
  exact accepted.1.1.1 '/' inside (by decide)

/-- The parts of a key whose names have no slash. -/
theorem split_key {file : String} (inst : '/' ∉ instanceName.toList) (flat : '/' ∉ file.toList) :
    split '/' (basePath ++ "/" ++ instanceName ++ "/" ++ file) =
      split '/' basePath ++ [instanceName, file] := by
  rw [split_slash _ flat, split_slash _ inst, List.append_assoc]
  rfl

theorem start_key {rest : String} (relative : basePath.toList.head? ≠ some '/') :
    tree.start (basePath ++ "/" ++ rest) = if basePath = "" then [] else tree.login := by
  by_cases empty : basePath = ""
  · rw [if_pos empty, empty, Tree.start, if_pos (by simp)]
  · have filled : basePath.toList ≠ [] := by simpa using empty
    rw [if_neg empty, Tree.start, if_neg]
    rw [String.toList_append, String.toList_append, List.append_assoc,
      List.head?_append_of_ne_nil _ filled]
    exact relative

/-- Where a key leads. An empty base path lets it begin at the root instead of the login. -/
theorem follow_key {file : String} (relative : basePath.toList.head? ≠ some '/')
    (inst : '/' ∉ instanceName.toList) (flat : '/' ∉ file.toList) (named : Named file) :
    follow (tree.start (basePath ++ "/" ++ instanceName ++ "/" ++ file))
        (split '/' (basePath ++ "/" ++ instanceName ++ "/" ++ file)) =
      step (if basePath = "" then [] else follow tree.login (split '/' basePath)) instanceName ++
        [file] := by
  have start : tree.start (basePath ++ "/" ++ instanceName ++ "/" ++ file) =
      if basePath = "" then [] else tree.login := by
    rw [← @start_key tree basePath (instanceName ++ "/" ++ file) relative]
    simp only [String.append_assoc]
  have front : follow (if basePath = "" then [] else tree.login) (split '/' basePath) =
      if basePath = "" then [] else follow tree.login (split '/' basePath) := by
    by_cases empty : basePath = ""
    · rw [if_pos empty, if_pos empty, empty]
      rfl
    · rw [if_neg empty, if_neg empty]
  rw [start, split_key inst flat, follow_append, front, ← step_named named]
  rfl

/-- When a key leads below the directory of its instance. -/
theorem below_iff {file : String} (relative : basePath.toList.head? ≠ some '/')
    (accepted : noFsSpecial instanceName = true) (flat : '/' ∉ file.toList) (named : Named file) :
    Below tree basePath instanceName (basePath ++ "/" ++ instanceName ++ "/" ++ file) ↔
      instanceName ≠ "." ∧ instanceName ≠ ".." ∧ (basePath ≠ "" ∨ tree.login = []) := by
  obtain ⟨whole, filled⟩ := instance_spec accepted
  have base : tree.start basePath = tree.login := by
    rw [Tree.start, if_neg relative]
  rw [Below, base, follow_key relative whole flat named]
  generalize spot : follow tree.login (split '/' basePath) = place
  have login : basePath = "" → place = tree.login := by
    intro empty
    rw [← spot, empty]
    rfl
  constructor
  · rintro ⟨rest, some, same⟩
    have lengths := congrArg List.length same
    simp only [List.length_append, List.length_cons, List.length_nil] at lengths
    have more := List.length_pos_of_ne_nil some
    have short : (if basePath = "" then [] else place).length ≤ place.length := by
      split
      · exact Nat.zero_le _
      · exact le_rfl
    have inst : Named instanceName := by
      by_contra dotted
      have up := length_step_le (if basePath = "" then [] else place) dotted
      omega
    refine ⟨inst.2.1, inst.2.2, ?_⟩
    by_contra other
    obtain ⟨empty, inside⟩ := not_or.mp other
    have empty := not_not.mp empty
    rw [if_pos empty, step_named inst, List.nil_append, List.length_singleton] at lengths
    apply inside
    rw [← login empty]
    exact List.eq_nil_of_length_eq_zero (by omega)
  · rintro ⟨dot, dots, rooted⟩
    have begin : (if basePath = "" then [] else place) = place := by
      split
      · next empty =>
        rw [login empty]
        exact (rooted.resolve_left fun filled => filled empty).symm
      · rfl
    refine ⟨[file], List.cons_ne_nil _ _, ?_⟩
    rw [begin, step_named ⟨filled, dot, dots⟩, List.append_assoc]
    rfl

/-- The key of an upload, under the base path that is loaded. -/
def keyOf (cfg : ReplicationConfig) (basePath instanceName filename suffix : String) : String :=
  objectKey { cfg with basePath := loadBasePath basePath } instanceName filename suffix

variable {cfg : ReplicationConfig}

theorem keyOf_eq : keyOf cfg basePath instanceName filename suffix =
    loadBasePath basePath ++ "/" ++ instanceName ++ "/" ++ (objectBase filename ++ suffix) :=
  objectKey_eq _ instanceName filename suffix

theorem prepared_iff_clear {key : String} (same : tree.start key = tree.login) :
    Prepared tree key ↔ Clear tree key := by
  unfold Prepared Clear
  rw [same]
  apply forall₂_congr
  intro place member
  cases tree.kind place with
  | none => simp [member]
  | some kind => cases kind <;> simp

/-- An upload of a file name without a slash lands in its folder exactly if the key begins where
`_mkdirs` does, the instance's name is no dotted one, and no file stands in the way; or if one
stops `_mkdirs` itself. -/
theorem lands_iff_flat (accepted : noFsSpecial instanceName = true) (layout : suffix ∈ suffixes)
    (flat : '/' ∉ filename.toList) :
    Lands tree (loadBasePath basePath) instanceName
        (keyOf cfg basePath instanceName filename suffix) ↔
      Blocked tree (keyOf cfg basePath instanceName filename suffix) ∨
        instanceName ≠ "." ∧ instanceName ≠ ".." ∧
          (loadBasePath basePath ≠ "" ∨ tree.login = []) ∧
          Clear tree (keyOf cfg basePath instanceName filename suffix) := by
  have relative := loadBasePath_relative basePath
  have below := @below_iff tree _ _ _ relative accepted (file_flat layout flat)
    (file_named layout (objectBase filename))
  rw [← @keyOf_eq basePath instanceName filename suffix cfg] at below
  have start : (loadBasePath basePath ≠ "" ∨ tree.login = []) →
      tree.start (keyOf cfg basePath instanceName filename suffix) = tree.login := by
    intro rooted
    have text : keyOf cfg basePath instanceName filename suffix = loadBasePath basePath ++ "/" ++
        (instanceName ++ "/" ++ (objectBase filename ++ suffix)) := by
      rw [keyOf_eq]
      simp only [String.append_assoc]
    rw [text, start_key relative]
    split
    · next empty => exact (rooted.resolve_left fun filled => filled empty).symm
    · rfl
  rw [lands_iff_prepared, below]
  apply or_congr_right
  constructor
  · rintro ⟨⟨dot, dots, rooted⟩, prepared⟩
    exact ⟨dot, dots, rooted, (prepared_iff_clear (start rooted)).mp prepared⟩
  · rintro ⟨dot, dots, rooted, clear⟩
    exact ⟨⟨dot, dots, rooted⟩, (prepared_iff_clear (start rooted)).mpr clear⟩

/-- Where uploads land, for all file names and in particular for those without a slash. -/
theorem lands_iff (tree : Tree) (cfg : ReplicationConfig) (basePath filename : String)
    (accepted : noFsSpecial instanceName = true) (layout : suffix ∈ suffixes) :
    (Lands tree (loadBasePath basePath) instanceName
        (keyOf cfg basePath instanceName filename suffix) ↔
      Blocked tree (keyOf cfg basePath instanceName filename suffix) ∨
        Below tree (loadBasePath basePath) instanceName
            (keyOf cfg basePath instanceName filename suffix) ∧
          Prepared tree (keyOf cfg basePath instanceName filename suffix)) ∧
      ('/' ∉ filename.toList →
        (Lands tree (loadBasePath basePath) instanceName
            (keyOf cfg basePath instanceName filename suffix) ↔
          Blocked tree (keyOf cfg basePath instanceName filename suffix) ∨
            instanceName ≠ "." ∧ instanceName ≠ ".." ∧
              (loadBasePath basePath ≠ "" ∨ tree.login = []) ∧
              Clear tree (keyOf cfg basePath instanceName filename suffix))) :=
  ⟨lands_iff_prepared, lands_iff_flat accepted layout⟩

end

/-! ### A server with nothing but the login directory -/

def freshServer (login : Place) : Tree where
  kind place := if place.isPrefixOf login then some .dir else none
  login := login
  root := rfl
  inDir place name found := by
    have inside : (place ++ [name]).isPrefixOf login = true := by
      by_contra outside
      rw [if_neg outside] at found
      exact found rfl
    apply if_pos
    rw [List.isPrefixOf_iff_prefix] at inside ⊢
    exact (List.prefix_append place [name]).trans inside
  home := if_pos (List.isPrefixOf_iff_prefix.mpr (List.prefix_refl login))

def nightly : ReplicationConfig where
  basePath := ""
  encryptPlaintext := true
  doubleEncrypt := false
  replicationPassword := some "offsite"
  mirrorDeletes := false

theorem edge_lands :
    Lands (freshServer ["home", "backup"]) (loadBasePath "/pfsense-backups/") "edge"
      (keyOf nightly "/pfsense-backups/" "edge" "edge-20250101.xml" ".xml.enc") :=
  ((lands_iff (freshServer ["home", "backup"]) nightly "/pfsense-backups/" "edge-20250101.xml"
    (by decide) (by decide)).2 (by decide)).mpr
      (.inr ⟨by decide, by decide, .inl (by decide), by unfold Clear; decide⟩)

/-- An instance whose name is two dots gets its files into the login directory. -/
theorem dots_stray : noFsSpecial ".." = true ∧ ".xml.enc" ∈ suffixes ∧
    ¬ Lands (freshServer ["home", "backup"]) (loadBasePath "/pfsense-backups/") ".."
      (keyOf nightly "/pfsense-backups/" ".." "edge-20250101.xml" ".xml.enc") := by
  refine ⟨by decide, by decide, ?_⟩
  rw [lands_iff_flat (by decide) (by decide) (by decide)]
  unfold Blocked Clear
  decide

end PfsenseBackups.SftpUploads
