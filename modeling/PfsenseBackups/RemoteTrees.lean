import Mathlib.Logic.Function.Basic
import PfsenseBackups.PythonText

/-! Directories and files on a server, the places that paths lead to, and directories made one
after the other. -/

namespace PfsenseBackups.RemoteTrees
open Function PythonText

inductive Kind where
  | dir
  | file
  deriving DecidableEq

/-- A place, by the names that lead to it from the root. -/
abbrev Place :=
  List String

/-- What is where; everything but the root is in a directory. -/
structure Tree where
  kind : Place → Option Kind
  login : Place
  root : kind [] = some .dir
  inDir : ∀ place name, kind (place ++ [name]) ≠ none → kind place = some .dir
  home : kind login = some .dir

/-! ### Ways -/

def step (place : Place) (part : String) : Place :=
  if part = "" ∨ part = "." then place
  else if part = ".." then place.dropLast
  else place ++ [part]

/-- A path with its dots resolved. -/
def follow (place : Place) (parts : List String) : Place :=
  parts.foldl step place

/-- The places that a path leads through, with both ends. -/
def way : Place → List String → List Place
  | place, [] => [place]
  | place, part :: rest => place :: way (step place part) rest

/-- A part of a path that names something. -/
def Named (part : String) : Prop :=
  part ≠ "" ∧ part ≠ "." ∧ part ≠ ".."

instance : DecidablePred Named :=
  fun _ => inferInstanceAs (Decidable (_ ∧ _))

theorem step_named {place : Place} {part : String} (named : Named part) :
    step place part = place ++ [part] := by
  rw [step, if_neg (by simp [named.1, named.2.1]), if_neg named.2.2]

/-- A part that names nothing leads at most upwards. -/
theorem length_step_le (place : Place) {part : String} (dotted : ¬ Named part) :
    (step place part).length ≤ place.length := by
  unfold step
  split
  · exact le_rfl
  · next filled =>
    split
    · exact (List.length_dropLast).le.trans (Nat.sub_le _ _)
    · next up =>
      exact absurd ⟨fun same => filled (.inl same), fun same => filled (.inr same), up⟩ dotted

theorem split_flat {part : String} (flat : '/' ∉ part.toList) : split '/' part = [part] := by
  rw [split, List.splitOn_eq_singleton flat, List.map_singleton, String.ofList_toList]

theorem not_mem_of_splitOn {chars piece : List Char} (listed : piece ∈ chars.splitOn '/') :
    '/' ∉ piece := by
  induction chars generalizing piece with
  | nil =>
    rw [List.mem_singleton.mp listed]
    exact List.not_mem_nil
  | cons char rest ih =>
    rw [List.splitOn_cons_eq_if_modifyHead] at listed
    by_cases slash : char = '/'
    · rw [if_pos (by simp [slash])] at listed
      rcases List.mem_cons.mp listed with same | later
      · rw [same]
        exact List.not_mem_nil
      · exact ih later
    · rw [if_neg (by simp [slash])] at listed
      cases pieces : rest.splitOn '/' with
      | nil => exact absurd pieces (List.splitOn_ne_nil '/' rest)
      | cons head tail =>
        rw [pieces] at ih listed
        rcases List.mem_cons.mp listed with same | later
        · rw [same, List.mem_cons]
          exact not_or.mpr ⟨fun same => slash same.symm, ih List.mem_cons_self⟩
        · exact ih (List.mem_cons_of_mem head later)

/-- No part of a path has a slash. -/
theorem flat_of_split {path part : String} (listed : part ∈ split '/' path) :
    '/' ∉ part.toList := by
  obtain ⟨piece, found, rfl⟩ := List.mem_map.mp listed
  rw [String.toList_ofList]
  exact not_mem_of_splitOn found

theorem split_slash (path : String) {part : String} (flat : '/' ∉ part.toList) :
    split '/' (path ++ "/" ++ part) = split '/' path ++ [part] := by
  have text : (path ++ "/" ++ part).toList = path.toList ++ '/' :: part.toList := by
    simp
  rw [← split_flat flat, split, text, List.splitOn_append_cons_self, List.map_append, split, split]

theorem follow_append (place : Place) (front back : List String) :
    follow place (front ++ back) = follow (follow place front) back :=
  List.foldl_append

theorem way_ne_nil (place : Place) (parts : List String) : way place parts ≠ [] := by
  cases parts <;> exact List.cons_ne_nil _ _

theorem mem_way_self (place : Place) (parts : List String) : place ∈ way place parts := by
  cases parts <;> exact List.mem_cons_self

/-! ### Paths in a tree -/

namespace Tree

/-- A path through directories; what it ends in may be anything, or nothing. -/
def walk (tree : Tree) : Place → List String → Option Place
  | place, [] => some place
  | place, part :: rest =>
    if tree.kind place = some .dir then tree.walk (step place part) rest else none

/-- A path that begins with a slash leads from the root, any other from the login directory. -/
def start (tree : Tree) (path : String) : Place :=
  if path.toList.head? = some '/' then [] else tree.login

/-- What is found at a path. -/
def find (tree : Tree) (path : String) : Option Place :=
  (tree.walk (tree.start path) (split '/' path)).filter fun place => (tree.kind place).isSome

/-- The directory that a path's last part is in exists. -/
def Opens (tree : Tree) (path : String) : Prop :=
  ∃ place, tree.walk (tree.start path) (split '/' path).dropLast = some place ∧
    tree.kind place = some .dir

variable {tree after : Tree} {place other : Place} {parts : List String} {part : String}

theorem root_ne {name : String} : [] ≠ place ++ [name] := by
  simp

/-- A new directory. -/
def make (tree : Tree) (place : Place) (name : String) (inside : tree.kind place = some .dir)
    (fresh : tree.kind (place ++ [name]) = none) : Tree where
  kind := update tree.kind (place ++ [name]) (some .dir)
  login := tree.login
  root := by rw [update_of_ne root_ne, tree.root]
  inDir := by
    intro above below found
    by_cases same : above = place ++ [name]
    · rw [same, update_self]
    · rw [update_of_ne same]
      by_cases new : above ++ [below] = place ++ [name]
      · rw [(List.append_inj' new rfl).1, inside]
      · rw [update_of_ne new] at found
        exact tree.inDir above below found
  home := by
    have old : tree.login ≠ place ++ [name] := by
      intro same
      have home := tree.home
      rw [same, fresh] at home
      cases home
    rw [update_of_ne old, tree.home]

/-- The last part of the path has to be a name; a slash after it is not looked at. -/
def mkdir (tree : Tree) (path : String) : Option Tree :=
  match tree.walk (tree.start path) (split '/' path).dropLast, (split '/' path).getLast? with
  | some place, some name =>
    if fits : Named name ∧ tree.kind place = some .dir ∧ tree.kind (place ++ [name]) = none then
      some (tree.make place name fits.2.1 fits.2.2)
    else none
  | _, _ => none

theorem step_inside (inside : tree.kind place = some .dir) (dotted : ¬ Named part) :
    tree.kind (step place part) = some .dir := by
  unfold step
  split
  · exact inside
  · next filled =>
    split
    · rcases List.eq_nil_or_concat place with empty | ⟨above, name, rfl⟩
      · rw [empty]
        exact tree.root
      · rw [List.concat_eq_append, List.dropLast_concat]
        rw [List.concat_eq_append] at inside
        exact tree.inDir above name (by rw [inside]; simp)
    · next up =>
      exact absurd ⟨fun same => filled (.inl same), fun same => filled (.inr same), up⟩ dotted

theorem walk_append (front back : List String) : tree.walk place (front ++ back) =
    (tree.walk place front).bind fun middle => tree.walk middle back := by
  induction front generalizing place with
  | nil => rfl
  | cons part rest ih =>
    rw [List.cons_append, walk, walk]
    split
    · exact ih
    · rfl

/-- Directories that stay do not block a path. -/
theorem walk_mono (kept : ∀ place, tree.kind place = some .dir → after.kind place = some .dir)
    (found : tree.walk place parts = some other) : after.walk place parts = some other := by
  induction parts generalizing place with
  | nil => exact found
  | cons part rest ih =>
    rw [walk] at found ⊢
    by_cases inside : tree.kind place = some .dir
    · rw [if_pos inside] at found
      rw [if_pos (kept place inside)]
      exact ih found
    · rw [if_neg inside] at found
      cases found

/-- A path ends in a directory exactly if it leads through nothing else. -/
theorem walk_dir_iff : (∃ other, tree.walk place parts = some other ∧ tree.kind other = some .dir) ↔
    ∀ other ∈ way place parts, tree.kind other = some .dir := by
  induction parts generalizing place with
  | nil => simp [walk, way]
  | cons part rest ih =>
    rw [walk, way, List.forall_mem_cons, ← ih]
    by_cases inside : tree.kind place = some .dir
    · simp [inside]
    · simp [inside]

theorem opens_iff {path : String} : tree.Opens path ↔
    ∀ place ∈ way (tree.start path) (split '/' path).dropLast, tree.kind place = some .dir :=
  walk_dir_iff

/-! ### Directories made on the way -/

/-- Where there was nothing at some places, there are directories now. -/
structure Made (tree : Tree) (places : List Place) (after : Tree) : Prop where
  login : after.login = tree.login
  kind : ∀ place, after.kind place =
    if tree.kind place = none ∧ place ∈ places then some .dir else tree.kind place

theorem Made.old (tree : Tree) {places : List Place}
    (old : ∀ place ∈ places, tree.kind place ≠ none) : Made tree places tree where
  login := rfl
  kind place := by rw [if_neg fun new => old place new.2 new.1]

theorem Made.congr {places others : List Place} (made : Made tree places after)
    (same : ∀ place, tree.kind place = none → (place ∈ places ↔ place ∈ others)) :
    Made tree others after where
  login := made.login
  kind place := by
    rw [made.kind]
    by_cases missing : tree.kind place = none
    · simp [missing, same place missing]
    · simp [missing]

theorem Made.kept {places : List Place} (made : Made tree places after)
    (there : tree.kind place ≠ none) : after.kind place = tree.kind place := by
  rw [made.kind, if_neg fun new => there new.1]

theorem made_make {name : String} (inside : tree.kind place = some .dir)
    (fresh : tree.kind (place ++ [name]) = none) :
    Made tree [place ++ [name]] (tree.make place name inside fresh) where
  login := rfl
  kind other := by
    change update tree.kind (place ++ [name]) (some .dir) other = _
    by_cases same : other = place ++ [name]
    · rw [same, update_self, if_pos ⟨fresh, List.mem_singleton_self _⟩]
    · rw [update_of_ne same, if_neg fun new => same (List.mem_singleton.mp new.2)]

theorem Made.trans {middle after : Tree} {first second : List Place} (made : Made tree first middle)
    (later : Made middle second after) : Made tree (first ++ second) after where
  login := later.login.trans made.login
  kind place := by
    rw [later.kind place, made.kind place]
    by_cases missing : tree.kind place = none
    · by_cases before : place ∈ first
      · simp [missing, before]
      · simp [missing, before]
    · simp [missing]

theorem Made.dir {places : List Place} (made : Made tree places after)
    (inside : tree.kind place = some .dir) : after.kind place = some .dir := by
  rw [made.kept (by simp [inside]), inside]

/-- What a path does that leads somewhere from the login directory. -/
structure At (tree : Tree) (path : String) (place : Place) : Prop where
  relative : path.toList.head? ≠ some '/'
  leads : tree.walk tree.login (split '/' path) = some place
  found : tree.kind place ≠ none

/-- The path made longer by a part. -/
def joined (path part : String) : String :=
  if path = "" then part else path ++ "/" ++ part

/-- A directory at a path, made where nothing is found. -/
def ensure (tree : Tree) (path : String) : Option Tree :=
  match tree.find path with
  | some _ => some tree
  | none => tree.mkdir path

namespace At
variable {path : String}

theorem relative_joined (reached : At tree path place) (flat : '/' ∉ part.toList) :
    (joined path part).toList.head? ≠ some '/' := by
  unfold joined
  by_cases empty : path = ""
  · rw [if_pos empty]
    intro slash
    exact flat (List.mem_of_mem_head? slash)
  · have filled : path.toList ≠ [] := by simpa using empty
    rw [if_neg empty, String.toList_append, String.toList_append, List.append_assoc,
      List.head?_append_of_ne_nil _ filled]
    exact reached.relative

theorem start_joined (reached : At tree path place) (flat : '/' ∉ part.toList) :
    tree.start (joined path part) = tree.login := by
  rw [start, if_neg (reached.relative_joined flat)]

theorem split_joined (reached : At tree path place) (flat : '/' ∉ part.toList) :
    ∃ front, split '/' (joined path part) = front ++ [part] ∧
      tree.walk tree.login front = some place := by
  unfold joined
  by_cases empty : path = ""
  · refine ⟨[], ?_, ?_⟩
    · rw [if_pos empty, split_flat flat, List.nil_append]
    · have home := reached.leads
      rw [empty, show split '/' "" = [""] from rfl, walk, if_pos tree.home] at home
      exact home
  · refine ⟨split '/' path, ?_, reached.leads⟩
    rw [if_neg empty, split_slash path flat]

theorem ensure_dir (reached : At tree path place) (flat : '/' ∉ part.toList)
    (inside : tree.kind place = some .dir) : ∃ after, ensure tree (joined path part) = some after ∧
      At after (joined path part) (step place part) ∧ Made tree [step place part] after := by
  obtain ⟨front, parts, led⟩ := reached.split_joined flat
  have leads : tree.walk (tree.start (joined path part)) (split '/' (joined path part)) =
      some (step place part) := by
    rw [reached.start_joined flat, parts, walk_append, led, Option.bind_some, walk, if_pos inside,
      walk]
  have arrives {after : Tree} (made : Made tree [step place part] after)
      (found : after.kind (step place part) ≠ none) :
      At after (joined path part) (step place part) := by
    refine ⟨reached.relative_joined flat, ?_, found⟩
    rw [made.login, ← reached.start_joined flat]
    exact walk_mono (fun _ => made.dir) leads
  cases there : tree.kind (step place part) with
  | some kind =>
    have made : Made tree [step place part] tree := by
      apply Made.old
      intro other member
      rw [List.mem_singleton.mp member, there]
      simp
    refine ⟨tree, ?_, arrives made (by simp [there]), made⟩
    rw [ensure, find, leads, Option.filter_some, if_pos (by simp [there])]
  | none =>
    have named : Named part := by
      by_contra dotted
      rw [step_inside inside dotted] at there
      cases there
    rw [step_named named] at there leads arrives ⊢
    have made := made_make inside there
    refine ⟨_, ?_, arrives made ?_, made⟩
    · rw [ensure, find, leads, Option.filter_some, if_neg (by simp [there])]
      simp only [mkdir, reached.start_joined flat, parts, List.dropLast_concat,
        List.getLast?_concat, led]
      rw [dif_pos ⟨named, inside, there⟩]
    · rw [made.kind, if_pos ⟨there, List.mem_singleton_self _⟩]
      simp

/-- Nothing can be made in a file. -/
theorem ensure_file (reached : At tree path place) (flat : '/' ∉ part.toList)
    (file : tree.kind place = some .file) : ensure tree (joined path part) = none := by
  obtain ⟨front, parts, led⟩ := reached.split_joined flat
  have blocked : tree.find (joined path part) = none := by
    rw [find, reached.start_joined flat, parts, walk_append, led, Option.bind_some, walk,
      if_neg (by simp [file])]
    rfl
  rw [ensure, blocked]
  simp only [mkdir, reached.start_joined flat, parts, List.dropLast_concat, List.getLast?_concat,
    led]
  rw [dif_neg (by simp [file])]

end At

end Tree

end PfsenseBackups.RemoteTrees
