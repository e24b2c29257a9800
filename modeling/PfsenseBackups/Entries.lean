import PfsenseBackups.Models
import Mathlib.Data.String.Basic

/-! Dumps put together field by field, each with a value of its type. -/

namespace PfsenseBackups.Entries
open Value

/-- A field of a dump, with its type. -/
structure Entry where
  name : String
  type : FieldType
  value : Val
  fits : type.conforms value = true

/-! ### Dictionaries of texts -/

/-- `out[key] = value`, in a dict kept in key order. -/
def setItem (key value : String) : List (String × String) → List (String × String)
  | [] => [(key, value)]
  | (first, held) :: rest =>
    if key < first then (key, value) :: (first, held) :: rest
    else if key = first then (key, value) :: rest
    else (first, held) :: setItem key value rest

/-- The dict that holds the given items; of two with one key the later stays. -/
def dictOf (items : List (String × String)) : List (String × String) :=
  items.foldl (fun dict item => setItem item.1 item.2 dict) []

theorem strictlySorted_iff {keys : List String} :
    strictlySorted keys = true ↔ keys.IsChain (· < ·) := by
  induction keys with
  | nil => simp [strictlySorted]
  | cons first rest ih =>
    cases rest with
    | nil => simp [strictlySorted]
    | cons second rest => simp [strictlySorted, ih]

theorem setItem_keys (key value : String) (dict : List (String × String)) :
    ∀ name ∈ (setItem key value dict).map Prod.fst, name = key ∨ name ∈ dict.map Prod.fst := by
  induction dict with
  | nil => simp [setItem]
  | cons item rest ih =>
    intro name member
    rw [setItem] at member
    split at member
    · exact List.mem_cons.mp member
    · split at member
      · exact (List.mem_cons.mp member).imp_right (List.mem_cons_of_mem _)
      · rcases List.mem_cons.mp member with rfl | inside
        · exact .inr List.mem_cons_self
        · exact (ih name inside).imp_right (List.mem_cons_of_mem _)

theorem setItem_sorted (key value : String) {dict : List (String × String)}
    (sorted : (dict.map Prod.fst).Pairwise (· < ·)) :
    ((setItem key value dict).map Prod.fst).Pairwise (· < ·) := by
  induction dict with
  | nil => simp [setItem]
  | cons item rest ih =>
    obtain ⟨first, tail⟩ := List.pairwise_cons.mp sorted
    rw [setItem]
    split
    next before =>
      refine List.pairwise_cons.mpr ⟨fun name member => ?_, sorted⟩
      rcases List.mem_cons.mp member with rfl | inside
      · exact before
      · exact before.trans (first name inside)
    next behind =>
      split
      next same => exact List.pairwise_cons.mpr ⟨same ▸ first, tail⟩
      next apart =>
        refine List.pairwise_cons.mpr ⟨fun name member => ?_, ih tail⟩
        rcases setItem_keys key value rest name member with rfl | inside
        · exact lt_of_le_of_ne (not_lt.mp behind) (Ne.symm apart)
        · exact first name inside

theorem dictOf_sorted (items : List (String × String)) :
    strictlySorted ((dictOf items).map Prod.fst) = true := by
  rw [strictlySorted_iff, List.isChain_iff_pairwise, dictOf]
  suffices general : ∀ dict : List (String × String), (dict.map Prod.fst).Pairwise (· < ·) →
      ((items.foldl (fun dict item => setItem item.1 item.2 dict) dict).map Prod.fst).Pairwise
        (· < ·) from general [] List.Pairwise.nil
  induction items with
  | nil => exact fun _ sorted => sorted
  | cons item rest ih => exact fun dict sorted => ih _ (setItem_sorted item.1 item.2 sorted)

/-! ### Fields -/

namespace Entry

def str (name text : String) : Entry :=
  ⟨name, .str, .str text, conforms_str text⟩

def opt (name : String) (text : Option String) : Entry :=
  ⟨name, .optStr, .optional text, conforms_optional text⟩

def bool (name : String) (flag : Bool) : Entry :=
  ⟨name, .bool, .bool flag, by simp [FieldType.conforms]⟩

def int (name : String) (number : Int) : Entry :=
  ⟨name, .int, .int number, by simp [FieldType.conforms]⟩

def datetime (name : String) (text : Option String) : Entry :=
  ⟨name, .optDatetime, text.elim .none .datetime, by cases text <;> simp [FieldType.conforms]⟩

def strs (name : String) (texts : List String) : Entry :=
  ⟨name, .list .str, .list (texts.map .str), by simp [FieldType.conforms]⟩

def dict (name : String) (items : List (String × String)) : Entry :=
  ⟨name, .strDict, .dict ((dictOf items).map fun item => (item.1, .str item.2)), by
    have sorted := dictOf_sorted items
    simp [FieldType.conforms, Dict.keys, List.map_map, Function.comp_def, sorted]⟩

def row {model : Model} (name : String) (row : Row model) : Entry :=
  ⟨name, .model model, .dict row.dump, by simpa [FieldType.conforms] using row.conforms⟩

def optRow {model : Model} (name : String) (row : Option (Row model)) : Entry :=
  ⟨name, .optModel model, row.elim .none fun row => .dict row.dump, by
    cases row with
    | none => simp [FieldType.conforms]
    | some row => simpa [FieldType.conforms] using row.conforms⟩

def rows {model : Model} (name : String) (rows : List (Row model)) : Entry :=
  ⟨name, .list (.model model), .list (rows.map fun row => .dict row.dump), by
    simp only [FieldType.conforms, List.all_map, List.all_eq_true]
    intro row _
    simpa [FieldType.conforms] using row.conforms⟩

theorem optRow_injective {model : Model} (name : String) :
    Function.Injective fun row : Option (Row model) => (optRow name row).value := by
  intro left right same
  cases left <;> cases right <;> simp_all [optRow]
  exact Row.ext_dump same

theorem rows_injective {model : Model} (name : String) :
    Function.Injective fun held : List (Row model) => (rows name held).value := by
  intro left right same
  have dumps : left.map (fun row => Val.dict row.dump) = right.map fun row => .dict row.dump := by
    simpa [rows] using same
  refine List.map_injective_iff.mpr (fun left right same => ?_) dumps
  exact Row.ext_dump (Val.dict.inj same)

end Entry

theorem conforms_of_entries (entries : List Entry) :
    FieldType.fieldsConform (entries.map fun entry => (entry.name, entry.type))
      (entries.map fun entry => (entry.name, entry.value)) = true := by
  induction entries with
  | nil => simp [FieldType.fieldsConform]
  | cons entry rest ih => simp [FieldType.fieldsConform, entry.fits, ih]

/-- The instance of a model with these fields. -/
def instance_ {model : Model} (entries : List Entry)
    (fields : entries.map (fun entry => (entry.name, entry.type)) = model) : Row model where
  dump := entries.map fun entry => (entry.name, entry.value)
  conforms := fields ▸ conforms_of_entries entries

end PfsenseBackups.Entries
