import Mathlib.Data.List.Basic
import Mathlib.Data.List.Sort

/-! The values a `model_dump()` can hold, Python's equality and text on them, and the
typed field lists that a Pydantic model's dump conforms to. A `dict[str, str]` field is
kept in key order: Python compares such dicts without regard to insertion order, and
nothing modelled here iterates over one. -/

namespace PfsenseBackups.Value

/-- A value inside a dumped model. Timestamps are kept as their `str()` text. -/
inductive Val where
  | none
  | bool (flag : Bool)
  | int (number : Int)
  | str (text : String)
  | datetime (text : String)
  | list (items : List Val)
  | dict (fields : List (String × Val))

/-- A dumped model: field names with their values, in declaration order. -/
abbrev Dict := List (String × Val)

mutual

def Val.beq : Val → Val → Bool
  | .none, .none => true
  | .bool x, .bool y => x == y
  | .int x, .int y => x == y
  | .str x, .str y => x == y
  | .datetime x, .datetime y => x == y
  | .list xs, .list ys => Val.beqItems xs ys
  | .dict xs, .dict ys => Val.beqFields xs ys
  | _, _ => false

def Val.beqItems : List Val → List Val → Bool
  | [], [] => true
  | x :: xs, y :: ys => x.beq y && Val.beqItems xs ys
  | _, _ => false

def Val.beqFields : Dict → Dict → Bool
  | [], [] => true
  | (j, x) :: xs, (k, y) :: ys => j == k && x.beq y && Val.beqFields xs ys
  | _, _ => false

end

mutual

theorem Val.beq_iff : (a b : Val) → (a.beq b = true ↔ a = b)
  | .none, b => by cases b <;> simp [Val.beq]
  | .bool x, b => by cases b <;> simp [Val.beq]
  | .int x, b => by cases b <;> simp [Val.beq]
  | .str x, b => by cases b <;> simp [Val.beq]
  | .datetime x, b => by cases b <;> simp [Val.beq]
  | .list xs, b => by cases b <;> simp [Val.beq, Val.beqItems_iff xs]
  | .dict xs, b => by cases b <;> simp [Val.beq, Val.beqFields_iff xs]

theorem Val.beqItems_iff : (a b : List Val) → (Val.beqItems a b = true ↔ a = b)
  | [], b => by cases b <;> simp [Val.beqItems]
  | x :: xs, b => by cases b <;> simp [Val.beqItems, Val.beq_iff x, Val.beqItems_iff xs]

theorem Val.beqFields_iff : (a b : Dict) → (Val.beqFields a b = true ↔ a = b)
  | [], b => by cases b <;> simp [Val.beqFields]
  | (j, x) :: xs, b => by
    cases b with
    | nil => simp [Val.beqFields]
    | cons y ys =>
      simp [Val.beqFields, Val.beq_iff x, Val.beqFields_iff xs, Prod.ext_iff]

end

instance : DecidableEq Val := fun a b => decidable_of_iff (a.beq b = true) (Val.beq_iff a b)

/-! Python's `str()`. Containers print with the `repr` of what they hold; a character is
escaped there when it is a quote, a backslash or a Latin-1 control character. -/

def hexDigits : Nat → Nat → List Char
  | 0, _ => []
  | count + 1, value =>
    hexDigits count (value / 16) ++ ["0123456789abcdef".toList.getD (value % 16) '0']

def reprChar (quote char : Char) : String :=
  if char = quote ∨ char = '\\' then String.ofList ['\\', char]
  else if char = '\n' then "\\n"
  else if char = '\r' then "\\r"
  else if char = '\t' then "\\t"
  else if char.val < 32 ∨ (127 ≤ char.val ∧ char.val ≤ 160) ∨ char.val = 173 then
    "\\x" ++ String.ofList (hexDigits 2 char.toNat)
  else String.ofList [char]

/-- `repr` of a string: single quotes, unless only double quotes avoid an escape. -/
def reprText (text : String) : String :=
  let quote := if '\'' ∈ text.toList ∧ '"' ∉ text.toList then '"' else '\''
  let body := (text.toList.map (reprChar quote)).foldr (· ++ ·) ""
  String.ofList [quote] ++ body ++ String.ofList [quote]

mutual

def Val.repr : Val → String
  | .none => "None"
  | .bool true => "True"
  | .bool false => "False"
  | .int number => toString number
  | .str text => reprText text
  | .datetime text => text
  | .list items => "[" ++ ", ".intercalate (Val.reprItems items) ++ "]"
  | .dict fields => String.ofList ['\x7b'] ++ ", ".intercalate (Val.reprFields fields)
      ++ String.ofList ['\x7d']

def Val.reprItems : List Val → List String
  | [] => []
  | item :: rest => item.repr :: Val.reprItems rest

def Val.reprFields : Dict → List String
  | [] => []
  | (name, value) :: rest => (reprText name ++ ": " ++ value.repr) :: Val.reprFields rest

end

/-- `str(value)`: a string is its own text, anything else its `repr`. -/
def Val.text : Val → String
  | .str text => text
  | other => other.repr

@[simp] theorem Val.text_str (text : String) : (Val.str text).text = text := rfl

namespace Dict

/-- `d.get(name)`: a missing key reads as `None`. -/
def get (fields : Dict) (name : String) : Val :=
  (fields.lookup name).getD .none

def keys (fields : Dict) : List String :=
  fields.map (·.1)

@[simp] theorem get_nil (name : String) : get [] name = .none := rfl

theorem get_cons (field name : String) (value : Val) (rest : Dict) :
    get ((field, value) :: rest) name = if name = field then value else get rest name := by
  by_cases same : name = field
  · subst same
    simp [get]
  · have apart : (name == field) = false := by simpa using same
    simp [get, List.lookup_cons, apart, same]

theorem get_of_not_mem (fields : Dict) (name : String) (absent : name ∉ keys fields) :
    get fields name = .none := by
  induction fields with
  | nil => rfl
  | cons field rest ih =>
    obtain ⟨key, value⟩ := field
    simp only [keys, List.map_cons, List.mem_cons, not_or] at absent
    rw [get_cons, if_neg absent.1]
    exact ih absent.2

theorem get_of_mem {fields : Dict} (unique : (keys fields).Nodup) {name : String} {value : Val}
    (member : (name, value) ∈ fields) : get fields name = value := by
  induction fields with
  | nil => cases member
  | cons field rest ih =>
    obtain ⟨key, first⟩ := field
    simp only [keys, List.map_cons, List.nodup_cons] at unique
    rw [get_cons]
    rcases List.mem_cons.mp member with same | later
    · cases same
      exact if_pos rfl
    · have apart : name ≠ key := by
        rintro rfl
        exact unique.1 (List.mem_map_of_mem (f := Prod.fst) later)
      rw [if_neg apart]
      exact ih unique.2 later

theorem mem_of_mem_keys {fields : Dict} {name : String} (member : name ∈ keys fields) :
    (name, get fields name) ∈ fields := by
  induction fields with
  | nil => cases member
  | cons field rest ih =>
    obtain ⟨key, first⟩ := field
    rw [get_cons]
    by_cases same : name = key
    · subst same
      simp
    · rw [if_neg same]
      refine List.mem_cons_of_mem _ (ih ?_)
      simpa [keys, same] using member

/-- A dict with one value for each key is determined by its key list and `get`. -/
theorem ext_of_get (a b : Dict) (order : keys a = keys b) (unique : (keys a).Nodup)
    (same : ∀ name ∈ keys a, get a name = get b name) : a = b := by
  induction a generalizing b with
  | nil =>
    cases b with
    | nil => rfl
    | cons field rest => simp [keys] at order
  | cons field rest ih =>
    obtain ⟨key, value⟩ := field
    cases b with
    | nil => simp [keys] at order
    | cons other tail =>
      obtain ⟨otherKey, otherValue⟩ := other
      simp only [keys, List.map_cons, List.cons.injEq, List.nodup_cons, List.mem_cons,
        forall_eq_or_imp] at order unique same
      obtain ⟨rfl, order⟩ := order
      have head : value = otherValue := by simpa only [get_cons, if_true] using same.1
      have tails : rest = tail := by
        apply ih tail order unique.2
        intro name member
        have apart : name ≠ key := fun eq => unique.1 (eq ▸ member)
        simpa only [get_cons, if_neg apart] using same.2 name member
      rw [head, tails]

end Dict

mutual

/-- How many dicts are nested in a value, counting only dicts directly inside dicts. -/
def Val.depth : Val → Nat
  | .dict fields => Val.fieldsDepth fields + 1
  | _ => 0

def Val.fieldsDepth : Dict → Nat
  | [] => 0
  | (_, value) :: rest => max value.depth (Val.fieldsDepth rest)

end

theorem Val.depth_get_le (fields : Dict) (name : String) :
    (Dict.get fields name).depth ≤ Val.fieldsDepth fields := by
  induction fields with
  | nil => simp [Val.depth, Val.fieldsDepth]
  | cons field rest ih =>
    obtain ⟨key, value⟩ := field
    rw [Dict.get_cons, Val.fieldsDepth]
    split
    · exact le_max_left _ _
    · exact ih.trans (le_max_right _ _)

/-! ### Field types -/

/-- The annotation of one Pydantic field, as far as a dump shows it. -/
inductive FieldType where
  | str
  | optStr
  | bool
  | int
  | optDatetime
  | list (item : FieldType)
  | strDict
  | model (fields : List (String × FieldType))
  | optModel (fields : List (String × FieldType))

/-- Values of the type are not dicts, so that a differ never descends into them. -/
def FieldType.isLeaf : FieldType → Bool
  | .strDict | .model _ | .optModel _ => false
  | _ => true

/-- A Pydantic model class: its fields in declaration order. -/
abbrev Model := List (String × FieldType)

def strictlySorted : List String → Bool
  | first :: second :: rest => decide (first < second) && strictlySorted (second :: rest)
  | _ => true

mutual

/-- The value can stand in a field of this type. -/
def FieldType.conforms : FieldType → Val → Bool
  | .str, .str _ => true
  | .optStr, .str _ => true
  | .optStr, .none => true
  | .bool, .bool _ => true
  | .int, .int _ => true
  | .optDatetime, .datetime _ => true
  | .optDatetime, .none => true
  | .list item, .list items => items.all fun value => item.conforms value
  | .strDict, .dict fields => strictlySorted (Dict.keys fields) &&
      fields.all fun field => match field.2 with
        | .str _ => true
        | _ => false
  | .model fields, .dict values => FieldType.fieldsConform fields values
  | .optModel _, .none => true
  | .optModel fields, .dict values => FieldType.fieldsConform fields values
  | _, _ => false

/-- A dump holds exactly the model's fields, in order, each with a value of its type. -/
def FieldType.fieldsConform : List (String × FieldType) → Dict → Bool
  | [], [] => true
  | (name, type) :: fields, (key, value) :: values =>
      decide (name = key) && type.conforms value && FieldType.fieldsConform fields values
  | _, _ => false

end

theorem FieldType.not_dict {type : FieldType} (leaf : type.isLeaf = true) {value : Val}
    (fits : type.conforms value = true) (inner : Dict) : value ≠ .dict inner := by
  rintro rfl
  cases type <;> simp_all [FieldType.isLeaf, FieldType.conforms]

namespace Model

abbrev Conforms (model : Model) (dump : Dict) : Prop :=
  FieldType.fieldsConform model dump = true

/-- The declared names of a model's fields. -/
def names (model : Model) : List String :=
  model.map (·.1)

/-- The type of a field, when the model declares it. -/
def fieldType (model : Model) (name : String) : Option FieldType :=
  model.lookup name

theorem Conforms.keys {model : Model} {dump : Dict} (fits : model.Conforms dump) :
    Dict.keys dump = model.names := by
  induction model generalizing dump with
  | nil => cases dump <;> simp_all [Conforms, FieldType.fieldsConform, Dict.keys, names]
  | cons field fields ih =>
    obtain ⟨name, type⟩ := field
    cases dump with
    | nil => simp [Conforms, FieldType.fieldsConform] at fits
    | cons entry rest =>
      obtain ⟨key, value⟩ := entry
      simp only [Conforms, FieldType.fieldsConform, Bool.and_eq_true, decide_eq_true_eq] at fits
      obtain ⟨⟨rfl, -⟩, rest⟩ := fits
      have tail := ih rest
      simp only [Dict.keys, names] at tail ⊢
      simp [tail]

/-- Each declared field of a conforming dump holds a value of its declared type. -/
theorem Conforms.get {model : Model} {dump : Dict} (fits : model.Conforms dump)
    {name : String} {type : FieldType} (declared : model.fieldType name = some type) :
    type.conforms (Dict.get dump name) = true := by
  induction model generalizing dump with
  | nil => simp [fieldType] at declared
  | cons field fields ih =>
    obtain ⟨first, firstType⟩ := field
    cases dump with
    | nil => simp [Conforms, FieldType.fieldsConform] at fits
    | cons entry rest =>
      obtain ⟨key, value⟩ := entry
      simp only [Conforms, FieldType.fieldsConform, Bool.and_eq_true, decide_eq_true_eq] at fits
      obtain ⟨⟨rfl, head⟩, rest⟩ := fits
      rw [Dict.get_cons]
      by_cases same : name = first
      · subst same
        simp only [fieldType, List.lookup_cons, beq_self_eq_true, Option.some.injEq] at declared
        subst declared
        simpa using head
      · rw [if_neg same]
        have apart : (name == first) = false := by simpa using same
        apply ih rest
        simpa only [fieldType, List.lookup_cons, apart] using declared

theorem fieldType_isSome {model : Model} {name : String} (member : name ∈ model.names) :
    ∃ type, model.fieldType name = some type := by
  induction model with
  | nil => simp [names] at member
  | cons field fields ih =>
    obtain ⟨first, type⟩ := field
    by_cases same : name = first
    · exact ⟨type, by simp [fieldType, same]⟩
    · have rest : name ∈ names fields := by
        simpa [names, same] using member
      obtain ⟨found, spec⟩ := ih rest
      have apart : (name == first) = false := by simpa using same
      exact ⟨found, by simpa only [fieldType, List.lookup_cons, apart] using spec⟩

/-- The value a field has when its tag is missing. -/
def blank : FieldType → Val
  | .bool => .bool false
  | .int => .int 0
  | .list _ => .list []
  | .str => .str ""
  | .strDict => .dict []
  | _ => .none

/-- A dump with the given fields, all others blank. -/
def dumpWith (model : Model) (fields : Dict) : Dict :=
  model.map fun field =>
    (field.1, if field.1 ∈ Dict.keys fields then Dict.get fields field.1 else blank field.2)

end Model

/-- A row or section object: the dump of an instance of `model`. -/
structure Row (model : Model) where
  dump : Dict
  conforms : model.Conforms dump

/-- An optional text as the value of a field. -/
def Val.optional : Option String → Val
  | .none => .none
  | .some text => .str text

theorem Val.optional_injective : Function.Injective Val.optional := by
  intro a b same
  cases a <;> cases b <;> simp_all [Val.optional]

@[simp] theorem conforms_str (text : String) : FieldType.str.conforms (.str text) = true := by
  simp [FieldType.conforms]

@[simp] theorem conforms_optional (text : Option String) :
    FieldType.optStr.conforms (Val.optional text) = true := by
  cases text <;> simp [Val.optional, FieldType.conforms]

instance (model : Model) : DecidableEq (Row model) := fun a b =>
  decidable_of_iff (a.dump = b.dump)
    ⟨fun same => by cases a; cases b; simp_all, fun same => by rw [same]⟩

theorem Row.ext_dump {model : Model} {a b : Row model} (same : a.dump = b.dump) : a = b := by
  cases a
  cases b
  simp_all

end PfsenseBackups.Value
