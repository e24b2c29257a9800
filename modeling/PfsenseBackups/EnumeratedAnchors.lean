import PfsenseBackups.AnchorHistory

/-! The anchors that a config enumerates, each resolved again on the same config. -/

namespace PfsenseBackups.EnumeratedAnchors
open Value Config Diff DiffConfigs AnchorEvents AnchorScopes AnchorValues AnchorHistory
  FieldEvents PackageEvents

/-! ### Names that occur once -/

theorem value_of_once {κ α : Type*} [DecidableEq κ] {entries : List (κ × α)} {key : κ} {x y : α}
    (once : (entries.map Prod.fst).count key = 1) (first : (key, x) ∈ entries)
    (second : (key, y) ∈ entries) : x = y := by
  have length : (entries.filter fun entry => entry.1 = key).length = 1 := by
    rw [← once, List.count, List.countP_map, List.countP_eq_length_filter]
    rfl
  obtain ⟨only, single⟩ := List.length_eq_one_iff.mp length
  have inside : ∀ value, (key, value) ∈ entries → (key, value) = only := by
    intro value member
    have kept : (key, value) ∈ entries.filter fun entry => entry.1 = key := by
      simp [member]
    rw [single, List.mem_singleton] at kept
    exact kept
  exact (Prod.mk.inj ((inside x first).trans (inside y second).symm)).2

/-! ### Texts of values -/

mutual

/-- A nested model is somewhere in the value. -/
def holdsModel : Val → Bool
  | .dict _ => true
  | .list items => holdsModelEach items
  | _ => false

def holdsModelEach : List Val → Bool
  | [] => false
  | item :: rest => holdsModel item || holdsModelEach rest

end

mutual

/-- Only the texts of nested models depend on how these print. -/
theorem stringify_plain (print other : Dict → String) (value : Val)
    (plain : holdsModel value = false) : stringify print value = stringify other value := by
  match value with
  | .none => rfl
  | .bool _ => rfl
  | .int _ => rfl
  | .str _ => rfl
  | .datetime _ => rfl
  | .dict _ => simp [holdsModel] at plain
  | .list items =>
    rw [holdsModel] at plain
    rw [stringify, stringify, stringifyItems_plain print other items plain]

theorem stringifyItems_plain (print other : Dict → String) (items : List Val)
    (plain : holdsModelEach items = false) :
    stringifyItems print items = stringifyItems other items := by
  match items with
  | [] => rfl
  | item :: rest =>
    rw [holdsModelEach, Bool.or_eq_false_iff] at plain
    rw [stringifyItems, stringifyItems, stringify_plain print other item plain.1,
      stringifyItems_plain print other rest plain.2]

end

/-- `_stringify` of a dumped value: a dict prints as Python prints a dict. -/
def stringifyDumped (value : Val) : Option String :=
  stringify (fun fields => (Val.dict fields).text) value

/-! ### Rows -/

/-- The kinds of the row anchors. -/
def rowKinds : List String :=
  sectionSpec.map RowSpec.anchorKind ++ packageRowSpec.map PackageRowSpec.anchorKind

/-- The anchor names a row, by its namespace. -/
def isRowAnchor (aid : String) : Bool :=
  "xref-".toList.isPrefixOf aid.toList

theorem isRowAnchor_xref (kind tail : String) : isRowAnchor (anchorId "xref" kind tail) = true := by
  rw [isRowAnchor, List.isPrefixOf_iff_prefix]
  exact ⟨(kind ++ "-" ++ tail).toList, by simp [anchorId]⟩

theorem isRowAnchor_field (scope tail : String) :
    isRowAnchor (anchorId "field" scope tail) = false := by
  simp [isRowAnchor, anchorId, List.isPrefixOf]

theorem safe_safe (key : String) : safe (safe key) = safe key := by
  simp only [safe, String.toList_ofList, List.map_map]
  congr 1
  refine List.map_congr_left fun char _ => ?_
  by_cases plain : isSafe char = true
  · simp [plain]
  · simp [plain, show isSafe '_' = true from rfl]

/-- The id of a row anchor is made of a sanitised key. -/
theorem rowAnchorId_shape {kind field aid : String} {row : Dict}
    (named : rowAnchorId kind row field = some aid) :
    ∃ tail, safe tail = tail ∧ aid = anchorId "xref" kind tail ∧
      anchorKeyFromRow row field = some tail := by
  obtain ⟨tail, found, rfl⟩ := Option.map_eq_some_iff.mp named
  refine ⟨tail, ?_, rfl, found⟩
  rw [anchorKeyFromRow] at found
  split at found
  · cases found
  · rw [← Option.some.inj found, safe_safe]

/-- Of several rows, the first one under an anchor is the only one. -/
theorem find_only {kind field aid : String} {rows : List Dict} {row : Dict}
    (only : ∀ other ∈ rows, rowAnchorId kind other field = some aid → other = row)
    (member : row ∈ rows) (named : rowAnchorId kind row field = some aid) :
    (rows.find? fun other => rowAnchorId kind other field = some aid) = some row := by
  cases found : rows.find? fun other => rowAnchorId kind other field = some aid with
  | none =>
    have absent := List.find?_eq_none.mp found row member
    simp [named] at absent
  | some first =>
    have spec := List.find?_some found
    rw [only first (List.mem_of_find?_eq_some found) (of_decide_eq_true spec)]

section Resolved

variable (modelText : Dict → String) {config : ParsedConfig} {aid : String} {value : Val}

theorem resolve_listed {spec : RowSpec} (listed : spec ∈ sectionSpec)
    (once : ((enumerateAnchors config).map Prod.fst).count aid = 1)
    (filled : aid ≠ anchorId "xref" spec.anchorKind "") {row : Dict}
    (member : row ∈ config.rows spec.section_)
    (named : rowAnchorId spec.anchorKind row spec.anchorKeyField = some aid) :
    resolveAnchorValue modelText config aid = .dict row := by
  have entry : ∀ other ∈ config.rows spec.section_,
      rowAnchorId spec.anchorKind other spec.anchorKeyField = some aid →
        (aid, Val.dict other) ∈ enumerateAnchors config := by
    intro other inside named
    refine List.mem_append_left _ (List.mem_append_left _ (List.mem_append_left _ ?_))
    refine List.mem_flatMap.mpr ⟨spec, listed, List.mem_map.mpr ⟨(aid, other), ?_, rfl⟩⟩
    exact List.mem_filterMap.mpr ⟨other, inside, by rw [named, Option.map_some]⟩
  have only : ∀ other ∈ config.rows spec.section_,
      rowAnchorId spec.anchorKind other spec.anchorKeyField = some aid → other = row := by
    intro other inside same
    exact Val.dict.inj (value_of_once once (entry other inside same) (entry row member named))
  have found := find_only only member named
  obtain ⟨tail, sanitised, rfl, -⟩ := rowAnchorId_shape named
  have nonempty : tail ≠ "" := by
    rintro rfl
    exact filled rfl
  rw [resolve_row modelText config listed sanitised nonempty, rowState, found]
  rfl

theorem resolve_declared {spec : FieldSpec} (listed : spec ∈ singletonSpec) {dump : Dict}
    (held : config.model spec.section_ = some dump) {name : String}
    (member : (name, value) ∈ dump) (named : fieldAnchorId spec name = some aid) :
    resolveAnchorValue modelText config aid = .optional (stringify modelText value) := by
  have fits := config.model_conforms spec.section_ dump held
  have declared : name ∈ spec.section_.model.names := by
    rw [← fits.keys]
    exact List.mem_map_of_mem (f := Prod.fst) member
  have unique : (Dict.keys dump).Nodup := fits.keys ▸ (modelSection_wellNamed spec.section_).nodup
  obtain ⟨-, rfl⟩ := fieldAnchorId_eq_some.mp named
  have resolved := resolve_field modelText config listed declared
  rw [targetId] at resolved
  rw [resolved, fieldText, fieldState, held, Option.map_some, Option.bind_some,
    Dict.get_of_mem unique member]

theorem resolve_packaged {pkg : String} (listed : pkg ∈ packageSingletonSpec.map Prod.snd)
    {fields : Dict} (held : Dict.get (packages config) pkg = .dict fields) {leaf : String}
    (member : (leaf, value) ∈ fields) :
    resolveAnchorValue modelText config (anchorId "field" pkg leaf) =
      .optional (stringify modelText value) := by
  obtain ⟨-, -, -, declared, -⟩ := package_facts pkg listed
  have fits : (packageModel pkg).Conforms fields := by
    cases block : config.model .installedpackages with
    | none => simp [packages, block] at held
    | some dump =>
      rw [packages, block, Option.getD_some] at held
      rcases package_dump config block declared with absent | ⟨inner, present, fits⟩
      · rw [absent] at held
        cases held
      · rw [present] at held
        exact Val.dict.inj held ▸ fits
  have inside : leaf ∈ (packageModel pkg).names := by
    rw [← fits.keys]
    exact List.mem_map_of_mem (f := Prod.fst) member
  have unique : (Dict.keys fields).Nodup := fits.keys ▸ packageModel_nodup listed
  rw [resolve_package modelText config listed inside, fieldText, packageState, held,
    Option.bind_some, Dict.get_of_mem unique member]

/-- Both walks come to the same list of backends. -/
theorem listAttr_backends (config : ParsedConfig) :
    (listAttr config "installedpackages.haproxy.backends").getD [] =
      rowsAt (packages config) "haproxy.backends" := by
  have path : splitPath "installedpackages.haproxy.backends" =
      ["installedpackages", "haproxy", "backends"] := by decide
  have inner : splitPath "haproxy.backends" = ["haproxy", "backends"] := by decide
  have block : ModelSection.all.find? (fun other => other.name = "installedpackages") =
      some .installedpackages := by decide
  rw [listAttr, if_pos (by decide), rowsAt, descend, inner, descendConfig, path]
  simp only [sectionAttr, block, packages]
  cases config.model .installedpackages with
  | none => simp
  | some dump =>
    simp only [Option.map_some, Option.getD_some]
    generalize ["haproxy", "backends"].foldl _ _ = found
    cases found <;> rfl

theorem resolve_backend {spec : PackageRowSpec} (listed : spec ∈ packageRowSpec)
    (once : ((enumerateAnchors config).map Prod.fst).count aid = 1)
    (filled : aid ≠ anchorId "xref" spec.anchorKind "") {row : Dict}
    (member : row ∈ rowsAt (packages config) spec.listPath)
    (named : rowAnchorId spec.anchorKind row spec.anchorKeyField = some aid) :
    resolveAnchorValue modelText config aid = .dict row := by
  have entry : ∀ other ∈ rowsAt (packages config) spec.listPath,
      rowAnchorId spec.anchorKind other spec.anchorKeyField = some aid →
        (aid, Val.dict other) ∈ enumerateAnchors config := by
    intro other inside named
    refine List.mem_append_right _ (List.mem_flatMap.mpr ⟨spec, listed, ?_⟩)
    exact List.mem_filterMap.mpr ⟨other, inside, by rw [named, Option.map_some]⟩
  have only : ∀ other ∈ rowsAt (packages config) spec.listPath,
      rowAnchorId spec.anchorKind other spec.anchorKeyField = some aid → other = row := by
    intro other inside same
    exact Val.dict.inj (value_of_once once (entry other inside same) (entry row member named))
  have found := find_only only member named
  obtain ⟨tail, sanitised, rfl, -⟩ := rowAnchorId_shape named
  rw [packageRowSpec, List.mem_singleton] at listed
  subst listed
  have nonempty : tail ≠ "" := by
    rintro rfl
    exact filled rfl
  have oneLine := safe_oneLine sanitised
  have sameRow : ∀ row : Dict, anchorKeyFromRow row "name" = some tail ↔
      rowAnchorId "haproxy_backend" row "name" = some (anchorId "xref" "haproxy_backend" tail) := by
    intro row
    rw [rowAnchorId, Option.map_eq_some_iff]
    constructor
    · exact fun key => ⟨tail, key, rfl⟩
    · rintro ⟨key, found, same⟩
      rw [found, (anchorId_inj (by decide) (by decide) (by decide) (by decide) same).2.2]
  have scope : rowScopes.lookup "haproxy_backend" =
      some ("installedpackages.haproxy.backends", "name") := by decide
  rw [resolveAnchorValue,
    matchAnchor_anchorId (by simp) (by decide) (by decide) nonempty oneLine]
  simp only [String.reduceEq, if_false, resolveRow, scope, sanitised, sameRow, listAttr_backends]
  rw [found]
  rfl

end Resolved

/-! ### Round trips -/

/-- The anchor is found again: a row as it was enumerated, a field as its text. Where the field's
value holds no nested model, that text is the one of the enumerated value; a nested model prints
as Pydantic prints it. -/
structure RoundTrips (modelText : Dict → String) (config : ParsedConfig) (aid : String)
    (value : Val) : Prop where
  row : isRowAnchor aid = true →
    (∃ row, value = .dict row) ∧ resolveAnchorValue modelText config aid = value
  field : isRowAnchor aid = false →
    resolveAnchorValue modelText config aid = .optional (stringify modelText value)
  plain : isRowAnchor aid = false → holdsModel value = false →
    resolveAnchorValue modelText config aid = .optional (stringifyDumped value)

section RoundTrips

variable {modelText : Dict → String} {config : ParsedConfig} {value : Val}

theorem roundTrips_row {kind tail : String} {row : Dict}
    (resolved : resolveAnchorValue modelText config (anchorId "xref" kind tail) = .dict row) :
    RoundTrips modelText config (anchorId "xref" kind tail) (.dict row) where
  row _ := ⟨⟨row, rfl⟩, resolved⟩
  field isField := by simp [isRowAnchor_xref] at isField
  plain isField := by simp [isRowAnchor_xref] at isField

theorem roundTrips_field {scope tail : String}
    (resolved : resolveAnchorValue modelText config (anchorId "field" scope tail) =
      .optional (stringify modelText value)) :
    RoundTrips modelText config (anchorId "field" scope tail) value where
  row isRow := by simp [isRowAnchor_field] at isRow
  field _ := resolved
  plain _ plain := by rw [resolved, stringifyDumped, stringify_plain modelText _ value plain]

end RoundTrips

theorem package_scope : ∀ entry ∈ packageSingletonSpec, entry.1 = entry.2 := by
  decide

/-- An anchor that a config enumerates once, with a row key if it names a row, makes a round
trip. -/
theorem resolve_enumerated (modelText : Dict → String) {config : ParsedConfig} {aid : String}
    {value : Val} (member : (aid, value) ∈ enumerateAnchors config)
    (once : ((enumerateAnchors config).map Prod.fst).count aid = 1)
    (filled : ∀ kind ∈ rowKinds, aid ≠ anchorId "xref" kind "") :
    RoundTrips modelText config aid value := by
  simp only [enumerateAnchors, List.mem_append] at member
  rcases member with ((listed | listed) | listed) | listed
  · obtain ⟨spec, known, inside⟩ := List.mem_flatMap.mp listed
    obtain ⟨entry, enumerated, same⟩ := List.mem_map.mp inside
    obtain ⟨rfl, rfl⟩ := Prod.mk.inj same
    obtain ⟨row, present, found⟩ := List.mem_filterMap.mp enumerated
    obtain ⟨named, spelled, rfl⟩ := Option.map_eq_some_iff.mp found
    have kind : spec.anchorKind ∈ rowKinds :=
      List.mem_append_left _ (List.mem_map_of_mem known)
    have resolved := resolve_listed modelText known once (filled _ kind) present spelled
    obtain ⟨tail, -, rfl, -⟩ := rowAnchorId_shape spelled
    exact roundTrips_row resolved
  · obtain ⟨spec, known, inside⟩ := List.mem_flatMap.mp listed
    obtain ⟨field, present, found⟩ := List.mem_filterMap.mp inside
    obtain ⟨named, spelled, same⟩ := Option.map_eq_some_iff.mp found
    obtain ⟨rfl, rfl⟩ := Prod.mk.inj same
    cases dumped : config.model spec.section_ with
    | none => simp [dumped] at present
    | some dump =>
      rw [dumped, Option.getD_some] at present
      have resolved := resolve_declared modelText known dumped present spelled
      obtain ⟨scope, -, tail, rfl⟩ := fieldAnchorId_scope spelled
      exact roundTrips_field resolved
  · obtain ⟨⟨pkg, scope⟩, known, inside⟩ := List.mem_flatMap.mp listed
    have same : pkg = scope := package_scope _ known
    subst same
    simp only at inside
    split at inside
    next fields held =>
      obtain ⟨leaf, present, found⟩ := List.mem_filterMap.mp inside
      split at found
      · obtain ⟨rfl, rfl⟩ := Prod.mk.inj (Option.some.inj found)
        exact roundTrips_field (resolve_packaged modelText
          (List.mem_map_of_mem (f := Prod.snd) known) held present)
      · cases found
    next => cases inside
  · obtain ⟨spec, known, inside⟩ := List.mem_flatMap.mp listed
    obtain ⟨row, present, found⟩ := List.mem_filterMap.mp inside
    obtain ⟨named, spelled, same⟩ := Option.map_eq_some_iff.mp found
    obtain ⟨rfl, rfl⟩ := Prod.mk.inj same
    have kind : spec.anchorKind ∈ rowKinds :=
      List.mem_append_right _ (List.mem_map_of_mem known)
    have resolved := resolve_backend modelText known once (filled _ kind) present spelled
    obtain ⟨tail, -, rfl, -⟩ := rowAnchorId_shape spelled
    exact roundTrips_row resolved

/-- `str()` of a model whose fields are plain. -/
def printed (fields : Dict) : String :=
  " ".intercalate (fields.map fun field => field.1 ++ "=" ++ field.2.repr)

/-- A config with a host name and a web GUI. -/
def webguiConfig : ParsedConfig where
  system := some {
    dump := Models.SystemInfo.dumpWith [("hostname", .str "gw"),
      ("webgui", .dict (Models.WebGui.dumpWith [("protocol", .str "https")]))]
    conforms := by decide }

def webgui : Dict :=
  Models.WebGui.dumpWith [("protocol", .str "https")]

/-- The web GUI is enumerated as a dict and resolved as the text of a model. -/
theorem webgui_differs :
    ("field-system-webgui", .dict webgui) ∈ enumerateAnchors webguiConfig ∧
      ((enumerateAnchors webguiConfig).map Prod.fst).count "field-system-webgui" = 1 ∧
      resolveAnchorValue printed webguiConfig "field-system-webgui" ≠
        .optional (stringifyDumped (.dict webgui)) := by
  decide +kernel

theorem hostname_listed :
    ("field-system-hostname", .str "gw") ∈ enumerateAnchors webguiConfig ∧
      ((enumerateAnchors webguiConfig).map Prod.fst).count "field-system-hostname" = 1 := by
  decide +kernel

theorem resolve_enumerated_hostname :
    RoundTrips printed webguiConfig "field-system-hostname" (.str "gw") := by
  have filled : ∀ kind ∈ rowKinds, "field-system-hostname" ≠ anchorId "xref" kind "" := by
    decide +kernel
  exact resolve_enumerated printed hostname_listed.1 hostname_listed.2 filled

end PfsenseBackups.EnumeratedAnchors
