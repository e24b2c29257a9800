import PfsenseBackups.JsonReader
import PfsenseBackups.Search

/-! The `value_json` column: the texts that the writers of the event log put there, and what
`json.loads` makes of them for the endpoints that show a value. -/

namespace PfsenseBackups.StoredValues
open Value Config Diff AnchorEvents EventLog JsonText JsonReader
open DiffConfigs hiding dumps dump

/-! ### The characters of `json.dumps` -/

theorem hexNumber_append (digits : List Char) (digit : Char) :
    hexNumber (digits ++ [digit]) =
      (hexNumber digits).bind fun number => (hexDigit digit).map fun value => number * 16 + value := by
  rw [hexNumber, List.foldl_append]
  change (hexNumber digits).bind _ = _
  congr 1
  funext number
  cases hexDigit digit <;> rfl

theorem hexDigits_length (count value : Nat) : (hexDigits count value).length = count := by
  induction count generalizing value with
  | zero => rfl
  | succ count ih => rw [hexDigits, List.length_append, ih, List.length_singleton]

theorem hexNumber_hexDigits (count value : Nat) :
    hexNumber (hexDigits count value) = some (value % 16 ^ count) := by
  induction count generalizing value with
  | zero => rw [pow_zero, Nat.mod_one]; rfl
  | succ count ih =>
    have digits : ∀ digit < 16, hexDigit ("0123456789abcdef".toList.getD digit '0') = some digit := by
      decide
    rw [hexDigits, hexNumber_append, ih, digits _ (Nat.mod_lt _ (by decide)), Option.bind_some,
      Option.map_some, Nat.pow_succ, Nat.mul_comm (16 ^ count), Nat.mod_mul, Nat.add_comm,
      Nat.mul_comm]

theorem readUnits_unicodeEscape {code : Nat} (small : code < 0x10000) (rest : List Char) :
    readUnits (unicodeEscape code ++ rest) = push [code] (readUnits rest) := by
  refine readUnits_unicode (hexDigits_length 4 code) ?_ rest
  rw [hexNumber_hexDigits]
  exact congrArg some (Nat.mod_eq_of_lt small)

/-- A character is no half of a surrogate pair. -/
theorem char_bounds (char : Char) : char.toNat < 0xd800 ∨ 0xdfff < char.toNat ∧ char.toNat < 0x110000 :=
  char.valid

theorem joinSurrogates_char (char : Char) (later : List Nat) :
    joinSurrogates ([char.toNat] ++ later) = char.toNat :: joinSurrogates later := by
  cases later with
  | nil => rfl
  | cons low later =>
    refine if_neg fun pair => ?_
    have bounds := char_bounds char
    omega

theorem joinSurrogates_pair {char : Char} (large : 0x10000 ≤ char.toNat) (later : List Nat) :
    joinSurrogates ([0xd800 + (char.toNat - 0x10000) / 0x400,
      0xdc00 + (char.toNat - 0x10000) % 0x400] ++ later) = char.toNat :: joinSurrogates later := by
  have bounds := char_bounds char
  rw [List.cons_append, List.cons_append, joinSurrogates, if_pos (by omega)]
  have code : 0x10000 + (0xd800 + (char.toNat - 0x10000) / 0x400 - 0xd800) * 0x400 +
      (0xdc00 + (char.toNat - 0x10000) % 0x400 - 0xdc00) = char.toNat := by omega
  rw [code, List.nil_append]

/-- A letter behind a backslash, the character itself, or its code in hexadecimal digits. -/
theorem escapeChar_cases (char : Char) :
    (∃ letter, letter ≠ 'u' ∧ escapeCode letter = some char.toNat ∧
      escapeChar char = ['\\', letter]) ∨
    ((char ≠ '"' ∧ char ≠ '\\' ∧ 32 ≤ char.toNat) ∧ escapeChar char = [char]) ∨
    (char.toNat < 0x10000 ∧ escapeChar char = unicodeEscape char.toNat) ∨
    (0x10000 ≤ char.toNat ∧ escapeChar char =
      unicodeEscape (0xd800 + (char.toNat - 0x10000) / 0x400) ++
        unicodeEscape (0xdc00 + (char.toNat - 0x10000) % 0x400)) := by
  rw [escapeChar]
  split_ifs with slash quote line back tab feed rub printable small
  · subst slash
    exact .inl ⟨'\\', by decide, rfl, rfl⟩
  · subst quote
    exact .inl ⟨'"', by decide, rfl, rfl⟩
  · subst line
    exact .inl ⟨'n', by decide, rfl, rfl⟩
  · subst back
    exact .inl ⟨'r', by decide, rfl, rfl⟩
  · subst tab
    exact .inl ⟨'t', by decide, rfl, rfl⟩
  · subst feed
    exact .inl ⟨'f', by decide, rfl, rfl⟩
  · subst rub
    exact .inl ⟨'b', by decide, rfl, rfl⟩
  · have shown : 32 ≤ char.toNat := UInt32.le_iff_toNat_le.mp printable.1
    exact .inr (.inl ⟨⟨quote, slash, shown⟩, rfl⟩)
  · exact .inr (.inr (.inl ⟨small, rfl⟩))
  · exact .inr (.inr (.inr ⟨Nat.not_lt.mp small, rfl⟩))

theorem readable_escapeChar : Readable escapeChar := by
  intro char
  rcases escapeChar_cases char with
    ⟨letter, simple, known, text⟩ | ⟨⟨quoteless, slashless, shown⟩, text⟩ | ⟨small, text⟩ | ⟨large, text⟩
  · refine ⟨[char.toNat], fun rest => ?_, joinSurrogates_char char⟩
    rw [text]
    exact readUnits_escape simple known rest
  · refine ⟨[char.toNat], fun rest => ?_, joinSurrogates_char char⟩
    rw [text]
    exact readUnits_plain quoteless slashless shown rest
  · refine ⟨[char.toNat], fun rest => ?_, joinSurrogates_char char⟩
    rw [text]
    exact readUnits_unicodeEscape small rest
  · have bounds := char_bounds char
    refine ⟨_, fun rest => ?_, joinSurrogates_pair large⟩
    rw [text, List.append_assoc, readUnits_unicodeEscape (by omega),
      readUnits_unicodeEscape (by omega), push_push]
    rfl

/-- `json.dumps(value, default=str)`. -/
def dumpsFormat : Format where
  gap := [' ']
  escapeChar := escapeChar
  blank := fun _ member => List.mem_singleton.mp member ▸ rfl
  readable := readable_escapeChar

/-! ### Values as documents -/

mutual

def toJson : Val → Json (List Char)
  | .none => .null
  | .bool flag => .bool flag
  | .int number => .int number
  | .str text => .str text.toList
  | .datetime text => .str text.toList
  | .list items => .list (toJsonItems items)
  | .dict fields => .dict (toJsonFields fields)

def toJsonItems : List Val → List (Json (List Char))
  | [] => []
  | item :: rest => toJson item :: toJsonItems rest

def toJsonFields : Dict → List (List Char × Json (List Char))
  | [] => []
  | (name, value) :: rest => (name.toList, toJson value) :: toJsonFields rest

end

def ofCodes (codes : List Nat) : Option String :=
  if codes.all (fun code => decide code.isValidChar) then
    some (String.ofList (codes.map Char.ofNat))
  else none

mutual

/-- A document as a value. Floats and halves of surrogate pairs are none. -/
def ofJson : Json (List Nat) → Option Val
  | .null => some .none
  | .bool flag => some (.bool flag)
  | .int number => some (.int number)
  | .float _ => none
  | .str codes => (ofCodes codes).map .str
  | .list items => (ofJsonItems items).map .list
  | .dict fields => (ofJsonFields fields).map .dict

def ofJsonItems : List (Json (List Nat)) → Option (List Val)
  | [] => some []
  | item :: rest => do return (← ofJson item) :: (← ofJsonItems rest)

def ofJsonFields : List (List Nat × Json (List Nat)) → Option Dict
  | [] => some []
  | (name, value) :: rest => do
    return (← ofCodes name, ← ofJson value) :: (← ofJsonFields rest)

end

/-- `json.loads(value_json)`. -/
def loadsValue (text : List Char) : Option Val :=
  (loads text).bind ofJson

mutual

theorem write_toJson : (value : Val) → dumpsFormat.write (toJson value) = dumps value
  | .none => rfl
  | .bool true => rfl
  | .bool false => rfl
  | .int _ => rfl
  | .str _ => rfl
  | .datetime _ => rfl
  | .list items => by
    rw [toJson, Format.write, writeItems_toJson items, dumps]
    rfl
  | .dict fields => by
    rw [toJson, Format.write, writeFields_toJson fields, dumps]
    rfl

theorem writeItems_toJson : (items : List Val) →
    dumpsFormat.writeItems (toJsonItems items) = dumpsItems items
  | [] => rfl
  | item :: rest => by
    rw [toJsonItems, Format.writeItems, write_toJson item, writeItems_toJson rest, dumpsItems]

theorem writeFields_toJson : (fields : Dict) →
    dumpsFormat.writeFields (toJsonFields fields) = dumpsFields fields
  | [] => rfl
  | (name, value) :: rest => by
    rw [toJsonFields, Format.writeFields, write_toJson value, writeFields_toJson rest, dumpsFields]
    rfl

end

theorem ofCodes_codes (text : String) : ofCodes (codes text.toList) = some text := by
  have valid : (codes text.toList).all (fun code => decide code.isValidChar) = true := by
    rw [List.all_eq_true]
    intro code member
    obtain ⟨char, -, rfl⟩ := List.mem_map.mp member
    exact decide_eq_true char.valid
  have same : (codes text.toList).map Char.ofNat = text.toList := by
    rw [codes, List.map_map]
    exact List.map_id'' Char.ofNat_toNat _
  rw [ofCodes, if_pos valid, same, String.ofList_toList]

mutual

theorem ofJson_coded : (value : Val) → ofJson (toJson value).coded = some (json value)
  | .none => rfl
  | .bool _ => rfl
  | .int _ => rfl
  | .str text => congrArg (Option.map Val.str) (ofCodes_codes text)
  | .datetime text => congrArg (Option.map Val.str) (ofCodes_codes text)
  | .list items => congrArg (Option.map Val.list) (ofJsonItems_coded items)
  | .dict fields => congrArg (Option.map Val.dict) (ofJsonFields_coded fields)

theorem ofJsonItems_coded : (items : List Val) →
    ofJsonItems (codedItems (toJsonItems items)) = some (jsonItems items)
  | [] => rfl
  | item :: rest => by
    rw [toJsonItems, codedItems, ofJsonItems, ofJson_coded item, ofJsonItems_coded rest]
    rfl

theorem ofJsonFields_coded : (fields : Dict) →
    ofJsonFields (codedFields (toJsonFields fields)) = some (jsonFields fields)
  | [] => rfl
  | (name, value) :: rest => by
    rw [toJsonFields, codedFields, ofJsonFields, ofCodes_codes, ofJson_coded value,
      ofJsonFields_coded rest]
    rfl

end

/-- The names in each dict of the value are distinct. -/
def Proper (value : Val) : Prop :=
  (toJson value).Exact

/-- A value's text reads as the document of the value. -/
theorem loadsValue_dumps {value : Val} (proper : Proper value) :
    loadsValue (dumps value) = some (json value) := by
  rw [loadsValue, ← write_toJson, dumpsFormat.loads_write proper, Option.bind_some, ofJson_coded]

/-! ### Values inside a value -/

theorem toJsonFields_names (fields : Dict) :
    (toJsonFields fields).map Prod.fst = (Dict.keys fields).map String.toList := by
  induction fields with
  | nil => rfl
  | cons field rest ih => exact congrArg (field.1.toList :: ·) ih

theorem proper_dict {fields : Dict} (unique : (Dict.keys fields).Nodup)
    (values : FieldsExact (toJsonFields fields)) : Proper (.dict fields) := by
  refine ⟨?_, values⟩
  rw [toJsonFields_names]
  exact unique.map fun _ _ => String.toList_inj.mp

theorem proper_field {fields : Dict} {field : String × Val} (proper : Proper (.dict fields))
    (member : field ∈ fields) : Proper field.2 := by
  have values : FieldsExact (toJsonFields fields) := proper.2
  clear proper
  induction fields with
  | nil => cases member
  | cons first rest ih =>
    rcases List.mem_cons.mp member with rfl | later
    · exact values.1
    · exact ih later values.2

theorem proper_none : Proper .none :=
  trivial

theorem proper_empty : Proper (.dict []) :=
  ⟨.nil, trivial⟩

theorem proper_get {fields : Dict} (proper : Proper (.dict fields)) (name : String) :
    Proper (Dict.get fields name) := by
  by_cases member : name ∈ Dict.keys fields
  · exact proper_field proper (Dict.mem_of_mem_keys member)
  · rw [Dict.get_of_not_mem _ _ member]
    exact proper_none

theorem proper_item {items : List Val} {item : Val} (proper : Proper (.list items))
    (member : item ∈ items) : Proper item := by
  have values : ItemsExact (toJsonItems items) := proper
  clear proper
  induction items with
  | nil => cases member
  | cons first rest ih =>
    rcases List.mem_cons.mp member with rfl | later
    · exact values.1
    · exact ih later values.2

theorem proper_list {items : List Val} (each : ∀ item ∈ items, Proper item) :
    Proper (.list items) := by
  change ItemsExact (toJsonItems items)
  induction items with
  | nil => trivial
  | cons first rest ih =>
    rw [List.forall_mem_cons] at each
    exact ⟨each.1, ih each.2⟩

/-! ### Values of a config -/

mutual

/-- The models inside lists are well named, too. -/
def listsNamed : FieldType → Bool
  | .list item => wellNamed item && listsNamed item
  | .model fields | .optModel fields => fieldsListsNamed fields
  | _ => true

def fieldsListsNamed : List (String × FieldType) → Bool
  | [] => true
  | (_, type) :: rest => listsNamed type && fieldsListsNamed rest

end

theorem listSection_listsNamed (section_ : ListSection) : fieldsListsNamed section_.model = true := by
  cases section_ <;> decide +kernel

theorem modelSection_listsNamed (section_ : ModelSection) :
    fieldsListsNamed section_.model = true := by
  cases section_ <;> decide +kernel

theorem proper_strDict {fields : Dict} (fits : FieldType.strDict.conforms (.dict fields) = true) :
    Proper (.dict fields) := by
  rw [FieldType.conforms, Bool.and_eq_true, List.all_eq_true] at fits
  obtain ⟨sorted, texts⟩ := fits
  refine proper_dict ((strictlySorted_pairwise _ sorted).imp ne_of_lt) ?_
  clear sorted
  induction fields with
  | nil => trivial
  | cons field rest ih =>
    obtain ⟨name, value⟩ := field
    have head := texts (name, value) List.mem_cons_self
    refine ⟨?_, ih fun entry later => texts entry (List.mem_cons_of_mem _ later)⟩
    cases value with
    | str text => trivial
    | _ => cases head

theorem proper_model {model : Model} (named : WellNamed model) {values : Dict}
    (fits : model.Conforms values) (exact : FieldsExact (toJsonFields values)) :
    Proper (.dict values) :=
  proper_dict (fits.keys ▸ named.nodup) exact

mutual

theorem proper_of_conforms : (type : FieldType) → wellNamed type = true → listsNamed type = true →
    (value : Val) → type.conforms value = true → Proper value
  | .list item, _, lists, .list items, fits => by
    rw [listsNamed, Bool.and_eq_true] at lists
    rw [FieldType.conforms, List.all_eq_true] at fits
    exact proper_list fun value member =>
      proper_of_conforms item lists.1 lists.2 value (fits value member)
  | .strDict, _, _, .dict _, fits => proper_strDict fits
  | .model fields, named, lists, .dict values, fits =>
    proper_model named fits
      (exact_of_fieldsConform fields (Bool.and_eq_true_iff.mp named).2 lists values fits)
  | .optModel fields, named, lists, .dict values, fits =>
    proper_model named fits
      (exact_of_fieldsConform fields (Bool.and_eq_true_iff.mp named).2 lists values fits)
  | _, _, _, .none, _ | _, _, _, .bool _, _ | _, _, _, .int _, _ | _, _, _, .str _, _
  | _, _, _, .datetime _, _ => trivial
  | .str, _, _, .list _, fits => by cases fits

theorem exact_of_fieldsConform : (fields : List (String × FieldType)) →
    fieldsWellNamed fields = true → fieldsListsNamed fields = true → (values : Dict) →
    FieldType.fieldsConform fields values = true → FieldsExact (toJsonFields values)
  | [], _, _, [], _ => trivial
  | [], _, _, _ :: _, fits => by cases fits
  | _ :: _, _, _, [], fits => by cases fits
  | (name, type) :: fields, named, lists, (key, value) :: values, fits => by
    simp only [fieldsWellNamed, Bool.and_eq_true] at named
    simp only [fieldsListsNamed, Bool.and_eq_true] at lists
    simp only [FieldType.fieldsConform, Bool.and_eq_true] at fits
    exact ⟨proper_of_conforms type named.1.2 lists.1 value fits.1.2,
      exact_of_fieldsConform fields named.2 lists.2 values fits.2⟩

end

theorem proper_row (config : ParsedConfig) (section_ : ListSection) {row : Dict}
    (member : row ∈ config.rows section_) : Proper (.dict row) :=
  proper_of_conforms (.model section_.model) (listSection_wellNamed section_)
    (listSection_listsNamed section_) (.dict row) (config.rows_conform section_ row member)

theorem proper_section (config : ParsedConfig) (section_ : ModelSection) {dump : Dict}
    (present : config.model section_ = some dump) : Proper (.dict dump) :=
  proper_of_conforms (.model section_.model) (modelSection_wellNamed section_)
    (modelSection_listsNamed section_) (.dict dump) (config.model_conforms section_ dump present)

/-! ### Values of events -/

theorem proper_change {a b : Dict} (properA : Proper (.dict a)) (properB : Proper (.dict b))
    {path : String} {change : FieldChange} (member : change ∈ fieldChanges a b path) :
    Proper change.before ∧ Proper change.after := by
  induction depth : Val.fieldsDepth a using Nat.strong_induction_on generalizing a b path with
  | _ n ih =>
    obtain ⟨name, -, inside⟩ := mem_fieldChanges.mp member
    have left := proper_get properA name
    have right := proper_get properB name
    by_cases nested : ∃ x y, Dict.get a name = .dict x ∧ Dict.get b name = .dict y
    · obtain ⟨x, y, before, after⟩ := nested
      have deeper := Val.depth_get_le a name
      rw [before, Val.depth] at deeper
      rw [before, after, changesBetween_dict] at inside
      exact ih _ (by omega) (before ▸ left) (after ▸ right) inside rfl
    · by_cases same : Dict.get a name = Dict.get b name
      · rw [same, changesBetween_self] at inside
        cases inside
      · rw [changesBetween_leaf _ same fun x y before after => nested ⟨x, y, before, after⟩,
          List.mem_singleton] at inside
        rw [inside]
        exact ⟨left, right⟩

theorem proper_changeValue {before after : Val} (left : Proper before) (right : Proper after) :
    Proper (changeValue before after) := by
  rw [changeValue]
  split
  · exact left
  · exact right

theorem proper_rowEvent {spec : RowSpec} {kind : Kind} {row : Dict} {event : Event}
    (proper : Proper (.dict row)) (reported : rowEvent spec kind row = some event) :
    Proper event.value := by
  obtain ⟨aid, -, rfl⟩ := Option.map_eq_some_iff.mp reported
  exact proper

theorem proper_rowEvents (a b : ParsedConfig) {spec : RowSpec} {event : Event}
    (member : event ∈ rowEvents spec ((diffConfigs a b).list spec.section_) (b.rows spec.section_)) :
    Proper event.value := by
  have named : ∀ {kind : Kind} {key : String},
      (byDiffKey spec (b.rows spec.section_) key).bind (rowEvent spec kind) = some event →
        Proper event.value := by
    intro kind key reported
    obtain ⟨row, found, reported⟩ := Option.bind_eq_some_iff.mp reported
    have listed := List.mem_of_mem_filter (Keyed.lastBy_spec found).1
    exact proper_rowEvent (proper_row b spec.section_ listed) reported
  rw [rowEvents, diffConfigs_list] at member
  simp only [List.mem_append, List.mem_filterMap] at member
  rcases member with ((⟨row, added, reported⟩ | ⟨row, removed, reported⟩) | ⟨item, -, reported⟩) |
    ⟨move, -, reported⟩
  · obtain ⟨k, known, -, rfl⟩ := mem_added.mp added
    exact proper_rowEvent (proper_row b spec.section_ (rowAt_spec known).1) reported
  · obtain ⟨k, known, -, rfl⟩ := mem_removed.mp removed
    exact proper_rowEvent (proper_row a spec.section_ (rowAt_spec known).1) reported
  · exact named reported
  · exact named reported

/-- Whole sides come from the configs, and changes from between them. -/
theorem diffOptionalModel_sources (x y : Option Dict) (label : String) :
    (∀ whole ∈ (diffOptionalModel x y label).added, y = some whole) ∧
      (∀ whole ∈ (diffOptionalModel x y label).removed, x = some whole) ∧
      ∀ change ∈ (diffOptionalModel x y label).modified.flatMap ItemDiff.changes,
        ∃ before after, x = some before ∧ y = some after ∧ change ∈ fieldChanges before after "" := by
  cases x with
  | none => cases y <;> simp [diffOptionalModel]
  | some before =>
    cases y with
    | none => simp [diffOptionalModel]
    | some after =>
      obtain ⟨added, removed, changes⟩ := diffOptionalModel_some before after label
      rw [added, removed, changes]
      refine ⟨?_, ?_, fun change member => ⟨before, after, rfl, rfl, member⟩⟩
      · exact List.forall_mem_nil _
      · exact List.forall_mem_nil _

theorem proper_wholeEvent {spec : FieldSpec} {kind : Kind} {whole : Dict} {event : Event}
    (proper : Proper (.dict whole)) (member : event ∈ wholeEvents spec kind whole) :
    Proper event.value := by
  obtain ⟨field, listed, reported⟩ := List.mem_filterMap.mp member
  obtain ⟨aid, -, rfl⟩ := Option.map_eq_some_iff.mp reported
  exact proper_field proper listed

theorem proper_fieldEvent {spec : FieldSpec} {change : FieldChange} {event : Event}
    (proper : Proper change.before ∧ Proper change.after)
    (reported : fieldEvent spec change = some event) : Proper event.value := by
  obtain ⟨aid, -, rfl⟩ := Option.map_eq_some_iff.mp reported
  exact proper_changeValue proper.1 proper.2

section Models

variable (a b : ParsedConfig) {section_ : ModelSection} {diff : SectionDiff}
  (compared : (diffConfigs a b).model section_ = some diff)
include compared

theorem proper_added {whole : Dict} (member : whole ∈ diff.added) : Proper (.dict whole) := by
  rw [diffConfigs_model a b section_ diff compared] at member
  exact proper_section b section_ ((diffOptionalModel_sources _ _ _).1 whole member)

theorem proper_removed {whole : Dict} (member : whole ∈ diff.removed) : Proper (.dict whole) := by
  rw [diffConfigs_model a b section_ diff compared] at member
  exact proper_section a section_ ((diffOptionalModel_sources _ _ _).2.1 whole member)

theorem proper_modified {change : FieldChange}
    (member : change ∈ diff.modified.flatMap ItemDiff.changes) :
    Proper change.before ∧ Proper change.after := by
  rw [diffConfigs_model a b section_ diff compared] at member
  obtain ⟨before, after, left, right, inside⟩ :=
    (diffOptionalModel_sources _ _ _).2.2 change member
  exact proper_change (proper_section a section_ left) (proper_section b section_ right) inside

theorem proper_singletonEvents {spec : FieldSpec} {event : Event}
    (member : event ∈ singletonEvents spec diff) : Proper event.value := by
  simp only [singletonEvents, List.mem_append, List.mem_flatMap] at member
  rcases member with (⟨whole, added, inside⟩ | ⟨whole, removed, inside⟩) | ⟨item, modified, inside⟩
  · exact proper_wholeEvent (proper_added a b compared added) inside
  · exact proper_wholeEvent (proper_removed a b compared removed) inside
  · obtain ⟨change, listed, reported⟩ := List.mem_filterMap.mp inside
    exact proper_fieldEvent
      (proper_modified a b compared (List.mem_flatMap.mpr ⟨item, modified, listed⟩)) reported

end Models

/-! ### Packages -/

theorem proper_wholePackage {kind : Kind} {whole : Dict} {event : Event}
    (proper : Proper (.dict whole)) (member : event ∈ wholePackageEvents kind whole) :
    Proper event.value := by
  obtain ⟨pkg, -, inside⟩ := List.mem_flatMap.mp member
  have held := proper_get proper pkg.1
  cases found : Dict.get whole pkg.1 with
  | dict fields =>
    simp only [found, List.mem_filterMap] at inside
    obtain ⟨field, listed, reported⟩ := inside
    split at reported
    · cases reported
      exact proper_field (found ▸ held) listed
    · cases reported
  | _ => simp [found] at inside

theorem proper_packageField {change : FieldChange} {event : Event}
    (proper : Proper change.before ∧ Proper change.after)
    (reported : packageFieldEvent change = some event) : Proper event.value := by
  rw [packageFieldEvent] at reported
  split at reported
  · obtain ⟨scope, -, rfl⟩ := Option.map_eq_some_iff.mp reported
    exact proper_changeValue proper.1 proper.2
  · cases reported

theorem proper_descend {fields : Dict} (proper : Proper (.dict fields)) (path : String) :
    Proper (descend fields path) := by
  rw [descend]
  generalize Val.dict fields = value at proper
  generalize splitPath path = parts
  induction parts generalizing value with
  | nil => exact proper
  | cons part parts ih =>
    refine ih _ ?_
    cases value with
    | dict inner => exact proper_get proper part
    | _ => exact proper_none

theorem proper_rowsAt {fields : Dict} (proper : Proper (.dict fields)) {path : String} {row : Dict}
    (member : row ∈ rowsAt fields path) : Proper (.dict row) := by
  have held := proper_descend proper path
  rw [rowsAt] at member
  split at member
  next rows found =>
    obtain ⟨item, listed, rfl⟩ := List.mem_map.mp member
    have inside := proper_item (found ▸ held) listed
    split
    · exact inside
    · exact proper_empty
  · cases member

theorem proper_packageRow {after : Option Dict} (proper : ∀ dump, after = some dump → Proper (.dict dump))
    (hit : (PackageRowSpec × String) × Kind) : Proper (packageRowEvent after hit).value := by
  rw [packageRowEvent]
  cases found : hitRow after hit.1.1 hit.1.2 with
  | none => exact proper_none
  | some row =>
    have listed : row ∈ rowsAt (after.getD []) hit.1.1.listPath := List.mem_of_find?_eq_some found
    cases after with
    | none => exact proper_rowsAt (proper_empty) listed
    | some dump => exact proper_rowsAt (proper dump rfl) listed

theorem proper_packageEvents (a b : ParsedConfig) {event : Event}
    (member : event ∈ packageEvents (diffConfigs a b).installedpackages
      (b.model .installedpackages)) : Proper event.value := by
  have compared : (diffConfigs a b).model .installedpackages =
      some (diffConfigs a b).installedpackages := rfl
  simp only [packageEvents, List.mem_append, List.mem_flatMap, List.mem_filterMap, List.mem_map]
    at member
  rcases member with ((⟨whole, added, inside⟩ | ⟨whole, removed, inside⟩) |
    ⟨change, ⟨item, modified, listed⟩, reported⟩) | ⟨hit, -, rfl⟩
  · exact proper_wholePackage (proper_added a b compared added) inside
  · exact proper_wholePackage (proper_removed a b compared removed) inside
  · exact proper_packageField
      (proper_modified a b compared (List.mem_flatMap.mpr ⟨item, modified, listed⟩)) reported
  · exact proper_packageRow (fun dump present => proper_section b .installedpackages present) hit

theorem proper_event (a b : ParsedConfig) {event : Event}
    (member : event ∈ diffToAnchorEvents (diffConfigs a b) b) : Proper event.value := by
  simp only [diffToAnchorEvents, List.mem_append, List.mem_flatMap] at member
  rcases member with (⟨spec, -, inside⟩ | ⟨spec, -, inside⟩) | inside
  · exact proper_rowEvents a b inside
  · cases compared : (diffConfigs a b).model spec.section_ with
    | none => simp [compared] at inside
    | some diff =>
      rw [compared] at inside
      exact proper_singletonEvents a b compared inside
  · exact proper_packageEvents a b inside

theorem proper_seed (config : ParsedConfig) {entry : String × Val}
    (member : entry ∈ enumerateAnchors config) : Proper entry.2 := by
  have stored : ∀ section_, Proper (.dict ((config.model section_).getD [])) := by
    intro section_
    cases present : config.model section_ with
    | none => exact proper_empty
    | some dump => exact proper_section config section_ present
  simp only [enumerateAnchors, List.mem_append, List.mem_flatMap] at member
  rcases member with ((⟨spec, -, inside⟩ | ⟨spec, -, inside⟩) | ⟨pkg, -, inside⟩) |
    ⟨spec, -, inside⟩
  · obtain ⟨anchored, listed, rfl⟩ := List.mem_map.mp inside
    obtain ⟨row, member, reported⟩ := List.mem_filterMap.mp listed
    obtain ⟨aid, -, rfl⟩ := Option.map_eq_some_iff.mp reported
    exact proper_row config spec.section_ member
  · obtain ⟨field, listed, reported⟩ := List.mem_filterMap.mp inside
    obtain ⟨aid, -, rfl⟩ := Option.map_eq_some_iff.mp reported
    have inner := proper_field (stored spec.section_) listed
    exact inner
  · have held := proper_get (stored .installedpackages) pkg.1
    cases found : Dict.get ((config.model .installedpackages).getD []) pkg.1 with
    | dict fields =>
      simp only [found, List.mem_filterMap] at inside
      obtain ⟨field, listed, reported⟩ := inside
      split at reported
      · cases reported
        have inner := proper_field (found ▸ held) listed
        exact inner
      · cases reported
    | _ => simp [found] at inside
  · obtain ⟨row, listed, reported⟩ := List.mem_filterMap.mp inside
    obtain ⟨aid, -, rfl⟩ := Option.map_eq_some_iff.mp reported
    exact proper_rowsAt (stored .installedpackages) listed

/-! ### The table -/

mutual

/-- The document is written as the value was: `default=str` gives a timestamp its text. -/
theorem dumps_json : (value : Val) → JsonText.dumps (json value) = JsonText.dumps value
  | .none | .bool _ | .int _ | .str _ | .datetime _ => rfl
  | .list items => by rw [json, JsonText.dumps, dumpsItems_json items, JsonText.dumps]
  | .dict fields => by rw [json, JsonText.dumps, dumpsFields_json fields, JsonText.dumps]

theorem dumpsItems_json : (items : List Val) → dumpsItems (jsonItems items) = dumpsItems items
  | [] => rfl
  | item :: rest => by
    rw [jsonItems, dumpsItems, dumps_json item, dumpsItems_json rest, dumpsItems]

theorem dumpsFields_json : (fields : Dict) → dumpsFields (jsonFields fields) = dumpsFields fields
  | [] => rfl
  | (name, value) :: rest => by
    rw [jsonFields, dumpsFields, dumps_json value, dumpsFields_json rest, dumpsFields]

end

/-- The value column of an event reads as the value. -/
def Restored (event : AnchorEvent) : Prop :=
  (Search.valueText event).map loadsValue = event.value.map some

theorem restored_of_proper {event : AnchorEvent} {value : Val} (proper : Proper value)
    (column : event.value = valueJson value) : Restored event := by
  rw [Restored, Search.valueText, column, valueJson]
  split
  · rfl
  · exact congrArg some (dumps_json value ▸ loadsValue_dumps proper)

theorem restored_emitted (bkp : Backup) (prevBackupId : Nat) (a b : ParsedConfig) :
    ∀ event ∈ emitAnchorEvents bkp prevBackupId (diffConfigs a b) b, Restored event := by
  intro event emitted
  obtain ⟨reported, member, rfl⟩ := List.mem_map.mp emitted
  exact restored_of_proper (proper_event a b member) rfl

theorem restored_seeded (bkp : Backup) (config : ParsedConfig) :
    ∀ event ∈ seedAnchorEvents bkp config, Restored event := by
  intro event seeded
  obtain ⟨entry, member, rfl⟩ := List.mem_map.mp seeded
  exact restored_of_proper (proper_seed config member) rfl

section Writers

variable {Bytes : Type*} (read : Backup → Option Bytes) (parse : Bytes → Option ParsedConfig)

theorem restored_persisted (rows : List Backup) (new : Backup) :
    ∀ event ∈ computeAndPersistDiffs read parse rows new, Restored event := by
  intro event member
  cases bytes : read new with
  | none => simp [computeAndPersistDiffs, bytes] at member
  | some newBytes =>
    cases parsed : parse newBytes with
    | none => simp [computeAndPersistDiffs, bytes, parsed] at member
    | some newParsed =>
      simp only [computeAndPersistDiffs, bytes, parsed, List.mem_append] at member
      rcases member with emitted | seeded
      · split at emitted
        · cases emitted
        · split at emitted
          · cases emitted
          next baseBytes _ =>
            cases before : parse baseBytes with
            | none => simp [computeDiff, parsed, before] at emitted
            | some baseParsed =>
              simp only [computeDiff, parsed, before] at emitted
              exact restored_emitted new _ baseParsed newParsed event emitted
      · split at seeded
        · exact restored_seeded new newParsed event seeded
        · cases seeded

/-- A loop over backups that adds such events only. -/
theorem restored_foldl {σ : Type*} {step : σ × List AnchorEvent → Backup → σ × List AnchorEvent}
    (adds : ∀ state bkp, ∀ event ∈ (step state bkp).2, event ∈ state.2 ∨ Restored event)
    (history : List Backup) (state : σ × List AnchorEvent)
    (restored : ∀ event ∈ state.2, Restored event) :
    ∀ event ∈ (history.foldl step state).2, Restored event := by
  induction history generalizing state with
  | nil => exact restored
  | cons bkp history ih =>
    refine ih _ fun event member => ?_
    rcases adds state bkp event member with earlier | added
    · exact restored event earlier
    · exact added

theorem restored_ingested (history : List Backup) :
    ∀ event ∈ ingested read parse history, Restored event := by
  refine restored_foldl (fun state new event member => ?_) history _ nofun
  rcases List.mem_append.mp member with earlier | added
  · exact .inl earlier
  · exact .inr (restored_persisted read parse _ new event added)

theorem restored_reindexed (history : List Backup) :
    ∀ event ∈ reindexed read parse history, Restored event := by
  refine restored_foldl (fun state bkp event member => ?_) _ _ nofun
  rw [reindexStep] at member
  split at member
  · exact .inl member
  next parsed _ =>
    rcases List.mem_append.mp member with earlier | added
    · exact .inl earlier
    · split at added
      · exact .inr (restored_seeded bkp parsed event added)
      · exact .inr (restored_emitted bkp _ _ parsed event added)

/-- Read back column by column, the log that ingestion leaves and the one that reindexing leaves
are the logs that were written. -/
theorem logs_restored (history : List Backup) :
    (ingested read parse history).map (fun event => (Search.valueText event).map loadsValue) =
        (ingested read parse history).map (fun event => event.value.map some) ∧
      (reindexed read parse history).map (fun event => (Search.valueText event).map loadsValue) =
        (reindexed read parse history).map (fun event => event.value.map some) :=
  ⟨List.map_congr_left (restored_ingested read parse history),
    List.map_congr_left (restored_reindexed read parse history)⟩

end Writers

end PfsenseBackups.StoredValues
