import PfsenseBackups.ChangedAnchors
import PfsenseBackups.EnumeratedAnchors

/-! `xref.ts`: the ids that the frontend gives to rows and fields, against the ids of the backend.
The browser's texts are UTF-16, so a character may be two units there. -/

namespace PfsenseBackups.FrontendIds
open Value Config AnchorValues AnchorHistory EnumeratedAnchors
open AnchorEvents hiding rowAnchorId
open ChangedAnchors (safeUnits safeUnits_of_basic)

/-! ### The frontend's sanitiser -/

/-- The UTF-16 code units of a character. -/
def codeUnits (char : Char) : List Nat :=
  let code := char.toNat
  if code < 0x10000 then [code]
  else [0xD800 + (code - 0x10000) / 0x400, 0xDC00 + (code - 0x10000) % 0x400]

/-- `[A-Za-z0-9_-]`, of a code unit. -/
def isSafeUnit (unit : Nat) : Bool :=
  (65 ≤ unit && unit ≤ 90) || (97 ≤ unit && unit ≤ 122) || (48 ≤ unit && unit ≤ 57) ||
    unit == 95 || unit == 45

/-- `key.replace(/[^A-Za-z0-9_-]/g, "_")`. -/
def replaceUnsafe (key : String) : String :=
  String.ofList ((key.toList.flatMap codeUnits).map fun unit =>
    if isSafeUnit unit then Char.ofNat unit else '_')

def itemId (kind key : String) : String :=
  "xref-" ++ kind ++ "-" ++ replaceUnsafe key

def rowAnchorId (scope key : String) : String :=
  "xref-" ++ scope ++ "-" ++ replaceUnsafe key

def fieldId (section_ name : String) : String :=
  "field-" ++ section_ ++ "-" ++ replaceUnsafe name

/-- Every character is one code unit. -/
def Basic (key : String) : Prop :=
  ∀ char ∈ key.toList, char.toNat < 0x10000

theorem isSafeUnit_toNat (char : Char) : isSafeUnit char.toNat = isSafe char := by
  have underscore : char = '_' ↔ char.toNat = 95 := by
    rw [← Char.toNat_inj]
    rfl
  have dash : char = '-' ↔ char.toNat = 45 := by
    rw [← Char.toNat_inj]
    rfl
  have ranges : isSafe char =
      (((decide (char.val ≥ 65 ∧ char.val ≤ 90) || (char.val ≥ 97 && char.val ≤ 122)) ||
        (char.val ≥ 48 && char.val ≤ 57)) || char == '_' || char == '-') := rfl
  rw [Bool.eq_iff_iff, ranges]
  simp only [isSafeUnit, Bool.or_eq_true, Bool.and_eq_true, decide_eq_true_eq, beq_iff_eq,
    ge_iff_le, UInt32.le_iff_toNat_le, underscore, dash]
  rfl

theorem codeUnits_basic {char : Char} (basic : char.toNat < 0x10000) :
    codeUnits char = [char.toNat] :=
  if_pos basic

theorem isSafeUnit_small {unit : Nat} (allowed : isSafeUnit unit = true) : unit < 0x10000 := by
  simp only [isSafeUnit, Bool.or_eq_true, Bool.and_eq_true, decide_eq_true_eq, beq_iff_eq]
    at allowed
  omega

theorem isSafeUnit_surrogate {unit : Nat} (high : 0xD800 ≤ unit) : isSafeUnit unit = false := by
  simp only [isSafeUnit, Bool.or_eq_false_iff, Bool.and_eq_false_iff, decide_eq_false_iff_not,
    beq_eq_false_iff_ne]
  omega

/-- No half of a character is safe, so each of them becomes an underscore. -/
theorem replaceUnsafe_eq (key : String) : replaceUnsafe key = safeUnits key := by
  rw [replaceUnsafe, safeUnits, List.map_flatMap]
  congr 1
  apply List.flatMap_congr
  intro char _
  by_cases basic : char.toNat < 0x10000
  · rw [codeUnits_basic basic, List.map_singleton, isSafeUnit_toNat, Char.ofNat_toNat]
    simp only [basic, if_true]
    split <;> rfl
  · have unsafeChar : isSafe char = false := by
      by_contra allowed
      rw [Bool.not_eq_false, ← isSafeUnit_toNat] at allowed
      exact basic (isSafeUnit_small allowed)
    have high := isSafeUnit_surrogate (Nat.le_add_right 0xD800 ((char.toNat - 0x10000) / 0x400))
    have low := @isSafeUnit_surrogate (0xDC00 + (char.toNat - 0x10000) % 0x400) (by omega)
    simp [codeUnits, basic, unsafeChar, high, low]

/-- The walk over a diff builds its field ids by the same rule. -/
theorem fieldId_eq : fieldId = ChangedAnchors.fieldId := by
  funext section_ name
  rw [fieldId, replaceUnsafe_eq]
  rfl

/-- A character of two units makes a text longer. -/
theorem length_units (chars : List Char) : chars.length ≤ (chars.flatMap codeUnits).length ∧
    ((chars.flatMap codeUnits).length ≤ chars.length →
      ∀ char ∈ chars, char.toNat < 0x10000) := by
  induction chars with
  | nil => simp
  | cons char rest ih =>
    obtain ⟨longer, basic⟩ := ih
    rw [List.flatMap_cons, List.length_append, List.length_cons]
    by_cases small : char.toNat < 0x10000
    · rw [codeUnits_basic small, List.length_singleton]
      exact ⟨by omega, fun same => List.forall_mem_cons.mpr ⟨small, basic (by omega)⟩⟩
    · have two : (codeUnits char).length = 2 := by simp [codeUnits, small]
      exact ⟨by omega, fun same => by omega⟩

theorem replaceUnsafe_basic {key : String} (basic : Basic key) : replaceUnsafe key = safe key := by
  rw [replaceUnsafe_eq, safeUnits_of_basic basic]

theorem replaceUnsafe_iff {key : String} : replaceUnsafe key = safe key ↔ Basic key := by
  constructor
  · intro same
    have lengths := congrArg (fun text => text.toList.length) same
    simp only [replaceUnsafe, safe, String.toList_ofList, List.length_map] at lengths
    exact (length_units key.toList).2 lengths.le
  · exact replaceUnsafe_basic

theorem anchorId_tail_inj {space scope tail tail' : String} :
    anchorId space scope tail = anchorId space scope tail' ↔ tail = tail' := by
  constructor
  · intro same
    have lists := congrArg String.toList same
    simp only [anchorId, String.toList_append] at lists
    exact String.toList_inj.mp (List.append_cancel_left lists)
  · intro same
    rw [same]

theorem itemId_eq (kind key : String) :
    itemId kind key = anchorId "xref" kind (replaceUnsafe key) :=
  rfl

/-! ### Rows found again -/

/-- The id is resolved to a row of its kind whose key produces it. -/
def Finds (modelText : Dict → String) (config : ParsedConfig) (kind aid : String) : Prop :=
  ∃ path field row, rowScopes.lookup kind = some (path, field) ∧
    row ∈ (listAttr config path).getD [] ∧
    AnchorEvents.rowAnchorId kind row field = some aid ∧
    resolveAnchorValue modelText config aid = .dict row

theorem rowScopes_words : ∀ entry ∈ rowScopes,
    entry.1.toList.all isWord = true ∧ entry.1 ≠ "" := by
  decide

/-- Whatever key produced an id with a tail, its tail sanitises to itself, so a row is found. -/
theorem finds_produced (modelText : Dict → String) {config : ParsedConfig}
    {kind path field aid : String} {row : Dict}
    (scope : rowScopes.lookup kind = some (path, field))
    (member : row ∈ (listAttr config path).getD [])
    (named : AnchorEvents.rowAnchorId kind row field = some aid)
    (filled : aid ≠ anchorId "xref" kind "") : Finds modelText config kind aid := by
  obtain ⟨tail, sanitised, rfl, key⟩ := rowAnchorId_shape named
  obtain ⟨front, back, split, -⟩ := List.lookup_eq_some_iff.mp scope
  have listed : (kind, path, field) ∈ rowScopes := by simp [split]
  obtain ⟨word, nonempty⟩ := rowScopes_words _ listed
  have tailFilled : tail ≠ "" := fun empty => filled (by rw [empty])
  have oneLine := safe_oneLine sanitised
  have first : ((listAttr config path).getD []).find? (fun other =>
      anchorKeyFromRow other field = some tail) ≠ none := by
    intro none
    exact absurd key (by simpa using List.find?_eq_none.mp none row member)
  obtain ⟨found, search⟩ := Option.ne_none_iff_exists'.mp first
  have produces : anchorKeyFromRow found field = some tail := by
    simpa using List.find?_some search
  refine ⟨path, field, found, scope, List.mem_of_find?_eq_some search, ?_, ?_⟩
  · rw [AnchorEvents.rowAnchorId, produces, Option.map_some]
  · rw [resolveAnchorValue, matchAnchor_anchorId (by simp) word nonempty tailFilled oneLine]
    simp only [String.reduceEq, if_false, resolveRow, scope, sanitised, search, Option.elim]

/-! ### The frontend's ids and the backend's -/

/-- The frontend's ids of a key are the backend's, and find its rows. -/
structure Lockstep (key : String) : Prop where
  item : ∀ kind, itemId kind key = anchorId "xref" kind (safe key)
  row : ∀ scope, rowAnchorId scope key = anchorId "xref" scope (safe key)
  field : ∀ section_, fieldId section_ key = anchorId "field" section_ (safe key)
  again : safe (safe key) = safe key
  found : ∀ (modelText : Dict → String) (config : ParsedConfig) (kind path name : String),
    rowScopes.lookup kind = some (path, name) → ∀ entry ∈ (listAttr config path).getD [],
      Dict.get entry name ≠ .none → (Dict.get entry name).text = key → key ≠ "" →
        Finds modelText config kind (itemId kind key)

/-- The backend's own ids are resolved for every key. The frontend's are the same exactly for keys
without a character of two code units. -/
theorem lockstep_iff (key : String) :
    (Lockstep key ↔ Basic key) ∧ safe (safe key) = safe key ∧
      ∀ (modelText : Dict → String) (config : ParsedConfig) (kind path field aid : String),
        rowScopes.lookup kind = some (path, field) → ∀ row ∈ (listAttr config path).getD [],
          AnchorEvents.rowAnchorId kind row field = some aid → aid ≠ anchorId "xref" kind "" →
            Finds modelText config kind aid := by
  refine ⟨⟨fun lockstep => ?_, fun basic => ?_⟩, safe_safe key, ?_⟩
  · have same := lockstep.item "alias"
    rw [itemId_eq] at same
    exact replaceUnsafe_iff.mp (anchorId_tail_inj.mp same)
  · have item : ∀ kind, itemId kind key = anchorId "xref" kind (safe key) := by
      intro kind
      rw [itemId_eq, replaceUnsafe_basic basic]
    refine ⟨item, item, ?_, safe_safe key, ?_⟩
    · intro section_
      rw [← replaceUnsafe_basic basic]
      rfl
    · intro modelText config kind path field scope row member present text filled
      rw [item]
      apply finds_produced modelText scope member
      · rw [rowAnchorId_of_present kind present, text]
      · intro same
        have empty := congrArg (fun text => text.toList.length) (anchorId_tail_inj.mp same)
        simp only [safe, String.toList_ofList, List.length_map] at empty
        exact filled (String.toList_inj.mp (List.eq_nil_of_length_eq_zero empty))
  · intro modelText config kind path field aid scope row member named filled
    exact finds_produced modelText scope member named filled

/-- An alias named by a character of two code units. -/
theorem emoji_differs : itemId "alias" "😀" = "xref-alias-__" ∧
    anchorId "xref" "alias" (safe "😀") = "xref-alias-_" ∧ ¬ Lockstep "😀" := by
  refine ⟨by decide, by decide, fun lockstep => ?_⟩
  have same := lockstep.item "alias"
  revert same
  decide

end PfsenseBackups.FrontendIds
