import PfsenseBackups.Keyed
import PfsenseBackups.Numbering
import PfsenseBackups.Splits
import Mathlib.Data.List.TakeWhile

/-! `zip_stream`, the archive of a bulk download: the names of its entries, and what an extraction
leaves of the files. -/

namespace PfsenseBackups.ZipNames
open Keyed Numbering Splits

/-- A file on disk. -/
structure File (γ : Type*) where
  path : List String
  content : γ

variable {γ : Type*}

/-- `path.name`. -/
def File.name (file : File γ) : String :=
  file.path.getLast?.getD ""

/-- `name.partition(".")`: the stem, and the suffix where there is a dot. -/
def partition (name : List Char) : List Char × Option (List Char) :=
  match name.dropWhile (· ≠ '.') with
  | [] => (name, none)
  | _ :: suffix => (name.takeWhile (· ≠ '.'), some suffix)

/-- `f"{stem}__{count}{dot}{suffix}" if dot else f"{stem}__{count}"`. -/
def numbered (name : String) (count : Nat) : String :=
  match partition name.toList with
  | (stem, some suffix) =>
    String.ofList (stem ++ '_' :: '_' :: (toString count).toList ++ '.' :: suffix)
  | (stem, none) => String.ofList (stem ++ '_' :: '_' :: (toString count).toList)

/-- The loop of `zip_stream`, entry by entry. -/
def zipEntries (seen : String → Option Nat) : List (File γ) → List (String × γ)
  | [] => []
  | file :: rest =>
    match seen file.name with
    | some count =>
      (numbered file.name (count + 1), file.content) ::
        zipEntries (Function.update seen file.name (some (count + 1))) rest
    | none =>
      (file.name, file.content) :: zipEntries (Function.update seen file.name (some 1)) rest

/-- `zip_stream`. -/
def zipStream (files : List (File γ)) : List (String × γ) :=
  zipEntries (fun _ => none) files

/-- What an extraction leaves under a name, where a later entry replaces an earlier one. -/
def extracted (entries : List (String × γ)) (name : String) : Option γ :=
  (lastBy Prod.fst entries name).map Prod.snd

/-- `path.suffix`: from the last dot on, unless that opens or ends the name. -/
def suffix (name : List Char) : List Char :=
  let tail := (name.reverse.takeWhile (· ≠ '.')).reverse
  if '.' ∈ name ∧ tail ≠ [] ∧ tail.length + 1 < name.length then '.' :: tail else []

/-! ### Numbered names -/

/-- The stem of a name, up to its first dot. -/
def stem (name : String) : List Char :=
  name.toList.takeWhile (· ≠ '.')

/-- The rest of a name, from its first dot on. -/
def rest (name : String) : List Char :=
  name.toList.dropWhile (· ≠ '.')

def digits (count : Nat) : List Char :=
  (toString count).toList

theorem stem_append_rest (name : String) : stem name ++ rest name = name.toList :=
  List.takeWhile_append_dropWhile

theorem numbered_toList (name : String) (count : Nat) :
    (numbered name count).toList = stem name ++ ['_', '_'] ++ digits count ++ rest name := by
  have whole := stem_append_rest name
  rw [numbered, partition]
  cases found : name.toList.dropWhile (· ≠ '.') with
  | nil =>
    have rests : rest name = [] := found
    rw [rests, List.append_nil] at whole
    simp [rests, whole, digits]
  | cons dot suffix =>
    have opens := List.head?_dropWhile_not (· ≠ '.') name.toList
    rw [found] at opens
    obtain rfl : dot = '.' := by simpa using opens
    have rests : rest name = '.' :: suffix := found
    simp [rests, stem, digits]

theorem rest_head (name : String) : ∀ char ∈ (rest name).head?, ¬ char ≠ '.' := by
  intro char member
  have opens := List.head?_dropWhile_not (· ≠ '.') name.toList
  rw [← rest, Option.mem_def.mp member] at opens
  simpa using opens

theorem stem_dotless (name : String) : ∀ char ∈ stem name, char ≠ '.' := by
  intro char member
  simpa using List.all_eq_true.mp List.all_takeWhile char member

theorem digits_sign {count : Nat} {sign : Char} (odd : sign.isDigit = false) :
    ∀ char ∈ digits count, char ≠ sign := by
  rintro char member rfl
  rw [digits, Nat.toString_eq_repr, Nat.toList_repr] at member
  rw [Nat.isDigit_of_mem_toDigits (by decide) (by decide) member] at odd
  cases odd

theorem digits_injective {count other : Nat} (same : digits count = digits other) :
    count = other := by
  rw [digits, digits, Nat.toString_eq_repr, Nat.toList_repr, Nat.toString_eq_repr,
    Nat.toList_repr] at same
  rw [← @Nat.ofDigitChars_ten_toDigits count, same, Nat.ofDigitChars_ten_toDigits]

/-- A numbered name tells the name and the number: the number stands between the last underscore of
the stem and its first dot. -/
theorem numbered_injective (name : String) (count : Nat) (other : String) (count' : Nat)
    (same : numbered name count = numbered other count') : name = other ∧ count = count' := by
  have chars := congrArg String.toList same
  rw [numbered_toList, numbered_toList] at chars
  have dotless (name : String) (count : Nat) :
      ∀ char ∈ stem name ++ ['_', '_'] ++ digits count, char ≠ '.' := by
    intro char member
    rw [List.mem_append, List.mem_append] at member
    rcases member with (early | marks) | late
    · exact stem_dotless name char early
    · rcases List.mem_pair.mp marks with rfl | rfl <;> decide
    · exact digits_sign rfl char late
  obtain ⟨front, rests⟩ := split_unique (dotless name count) (dotless other count')
    (rest_head name) (rest_head other) chars
  have markless (count : Nat) : ∀ char ∈ digits count, char ≠ '_' := digits_sign rfl
  obtain ⟨stems, numbers⟩ := split_unique_right (markless count) (markless count')
    (by simp) (by simp) front
  refine ⟨String.toList_injective ?_, digits_injective numbers⟩
  rw [← stem_append_rest, ← stem_append_rest, rests, List.append_cancel_right stems]

/-! ### Extensions -/

theorem suffix_dropWhile (front back : List Char) :
    '.' :: back <:+ (front ++ '.' :: back).dropWhile (· ≠ '.') := by
  rw [List.dropWhile_append]
  split
  · rw [List.dropWhile_cons_of_neg (by simp)]
  · exact List.suffix_append _ _

/-- The extension of a name is part of what stays behind the number. -/
theorem suffix_rest (name : String) : suffix name.toList <:+ rest name := by
  rw [suffix]
  split
  next filled =>
    obtain ⟨dotted, -⟩ := filled
    obtain ⟨dot, front, found⟩ : ∃ dot front, name.toList.reverse.dropWhile (· ≠ '.') =
        dot :: front := by
      refine List.exists_cons_of_ne_nil fun none => ?_
      simpa using List.dropWhile_eq_nil_iff.mp none '.' (List.mem_reverse.mpr dotted)
    have opens := List.head?_dropWhile_not (· ≠ '.') name.toList.reverse
    rw [found] at opens
    obtain rfl : dot = '.' := by simpa using opens
    have parts := @List.takeWhile_append_dropWhile _ (· ≠ '.') name.toList.reverse
    rw [found] at parts
    generalize name.toList.reverse.takeWhile (· ≠ '.') = back at parts
    have whole : name.toList = front.reverse ++ '.' :: back.reverse := by
      rw [← List.reverse_reverse name.toList, ← parts]
      simp
    rw [rest, whole]
    exact suffix_dropWhile _ _
  next => exact List.nil_suffix

/-! ### The archive -/

theorem zipEntries_names (seen : String → Option Nat) (files : List (File γ)) :
    (zipEntries seen files).map Prod.fst = numberFrom numbered seen (files.map File.name) := by
  induction files generalizing seen with
  | nil => rfl
  | cons file files ih =>
    rw [zipEntries, List.map_cons, numberFrom]
    cases seen file.name with
    | none => exact congrArg _ (ih _)
    | some count => exact congrArg _ (ih _)

/-- One entry for each file, in order, with its content and under a name with its extension. -/
theorem zipEntries_files (seen : String → Option Nat) (files : List (File γ)) :
    List.Forall₂ (fun entry file => entry.2 = file.content ∧
      suffix file.name.toList <:+ entry.1.toList) (zipEntries seen files) files := by
  induction files generalizing seen with
  | nil => exact .nil
  | cons file files ih =>
    rw [zipEntries]
    cases seen file.name with
    | none =>
      refine .cons ⟨rfl, (suffix_rest _).trans ?_⟩ (ih _)
      exact ⟨stem file.name, stem_append_rest _⟩
    | some count =>
      refine .cons ⟨rfl, (suffix_rest _).trans ?_⟩ (ih _)
      exact ⟨_, (numbered_toList _ _).symm⟩

/-- What the archive is for: distinct names, one entry for each file in order and with its
extension, and every content back at the extraction. -/
structure ContainsAll (files : List (File γ)) : Prop where
  distinct : ((zipStream files).map Prod.fst).Nodup
  inOrder : List.Forall₂ (fun entry file => entry.2 = file.content ∧
    suffix file.name.toList <:+ entry.1.toList) (zipStream files) files
  restored : ∀ entry ∈ zipStream files, extracted (zipStream files) entry.1 = some entry.2

/-- No listed name is, up to a number before its first dot, another one that is listed at least
that many times. -/
def Unmixed (names : List String) : Prop :=
  ∀ name count, 2 ≤ count → count ≤ names.count name →
    String.ofList (stem name ++ ['_', '_'] ++ digits count ++ rest name) ∉ names

/-- A bulk download contains every file exactly if no listed name is taken for the number of
another. -/
theorem zipStream_exact (files : List (File γ)) :
    ContainsAll files ↔ Unmixed (files.map File.name) := by
  have written (name : String) (count : Nat) :
      String.ofList (stem name ++ ['_', '_'] ++ digits count ++ rest name) =
        numbered name count := by
    rw [← numbered_toList, String.ofList_toList]
  have distinct : ((zipStream files).map Prod.fst).Nodup ↔ Unmixed (files.map File.name) := by
    rw [zipStream, zipEntries_names, numberFrom_nodup_iff
      fun name count other count' _ _ same => numbered_injective name count other count' same]
    simp only [Unmixed, written]
  rw [← distinct]
  constructor
  · exact ContainsAll.distinct
  · intro unique
    refine ⟨unique, zipEntries_files _ files, fun entry member => ?_⟩
    have keyed : Unique Prod.fst (zipStream files) := unique
    rw [extracted, keyed.lastBy member, Option.map_some]

/-- Of three backups the second is numbered like the third, which replaces it. -/
def mixedFiles : List (File String) :=
  [⟨["gw-a", "config.xml"], "one"⟩, ⟨["gw-b", "config.xml"], "two"⟩,
    ⟨["gw-c", "config__2.xml"], "three"⟩]

theorem mixedFiles_lost : ¬ ContainsAll mixedFiles ∧
    extracted (zipStream mixedFiles) "config__2.xml" = some "three" ∧
    ("config__2.xml", "two") ∈ zipStream mixedFiles := by
  have lost : extracted (zipStream mixedFiles) "config__2.xml" = some "three" := by decide +kernel
  have listed : ("config__2.xml", "two") ∈ zipStream mixedFiles := by decide +kernel
  refine ⟨fun all => ?_, lost, listed⟩
  have restored := all.restored _ listed
  rw [lost] at restored
  exact absurd restored (by decide)

end PfsenseBackups.ZipNames
