import PfsenseBackups.PfsenseParser

/-! Which secrets of a tree reach its parsed view. The view of a config depends on no secret
exactly where none lies in what is kept as raw XML, in an API key or in a key of which the view
says whether it is configured. -/

namespace PfsenseBackups.Secrecy
open Value Xml Entries Entry Redaction ElementTree PfsenseParser Models Config Selections
open SystemSections InspectionPackages

/-! ### Where secrets show -/

/-- The elements of unknown packages that are kept as raw XML. -/
def unknownPackages (ip : Option Element) : List Element :=
  ip.elim [] fun ip => leftOver ip consumed

/-- The secret is missing or empty. -/
def Blank (el : Option Element) (tag : String) : Prop :=
  (textIn el tag).getD "" = ""

/-- No secret lies where the parsed view shows it. -/
structure Hidden (rt : Runtime) (root : Element) : Prop where
  sections : ∀ child ∈ leftOver root recognized, secrets rt child = 0
  packages : ∀ child ∈ unknownPackages (root.find "installedpackages"), secrets rt child = 0
  apikeys : ∀ item ∈ childrenIn (root.find "apikeys") "item", Blank (some item) "apikey"
  maxmind : Blank (findIn (root.find "installedpackages") "pfblockerngipsettings") "maxmind_key"
  suricata : Blank (findIn (root.find "installedpackages") "suricata") "oinkcode"
  snort : Blank (findIn (root.find "installedpackages") "snortglobal") "oinkcode"

theorem apikey_secret : Rule "apikey" true :=
  rule_of_chars _ (by decide)

theorem maxmindKey_secret : Rule "maxmind_key" true :=
  rule_of_chars _ (by decide)

theorem oinkcode_secret : Rule "oinkcode" true :=
  rule_of_chars _ (by decide)

section Veiled

variable (rt : Runtime) (veil : Veil)

theorem leftOver_veiled (el : Element) (listed : List String) :
    leftOver (veiled rt veil el) listed = (leftOver el listed).map (veiled rt veil) := by
  rw [leftOver, leftOver, ← firsts_map fun child => tag_veiled rt veil child]
  simp [List.filter_map, Function.comp_def]

theorem unknownPackages_veiled (ip : Option Element) :
    unknownPackages (ip.map (veiled rt veil)) = (unknownPackages ip).map (veiled rt veil) := by
  cases ip with
  | none => rfl
  | some ip => exact leftOver_veiled rt veil ip consumed

theorem blank_veiled {tag : String} (secret : Rule tag true) (el : Option Element) :
    Blank (el.map (veiled rt veil)) tag ↔ Blank el tag := by
  rw [Blank, Blank, textIn_secret rt veil secret]
  cases textIn el tag <;> simp

mutual

theorem secrets_veiled : ∀ el : Element, secrets rt (veiled rt veil el) = secrets rt el
  | .mk tag content nodes attrib tail => by
    have own : ownSecrets rt tag (veiledText rt veil tag content) = ownSecrets rt tag content := by
      simp only [ownSecrets, ne_eq, veiledText_eq_empty]
    rw [veiled, secrets, secrets, own, secretsEach_veiled nodes]

theorem secretsEach_veiled :
    ∀ nodes : List Element, secretsEach rt (veiledEach rt veil nodes) = secretsEach rt nodes
  | [] => by rw [veiledEach]
  | node :: rest => by
    rw [veiledEach, secretsEach, secretsEach, secrets_veiled node, secretsEach_veiled rest]

end

theorem hidden_veiled (root : Element) : Hidden rt (veiled rt veil root) ↔ Hidden rt root := by
  have raw : ∀ kept : List Element, (∀ child ∈ kept.map (veiled rt veil), secrets rt child = 0) ↔
      ∀ child ∈ kept, secrets rt child = 0 := by
    simp [secrets_veiled]
  have keys : ∀ items : List Element,
      (∀ item ∈ items.map (veiled rt veil), Blank (some item) "apikey") ↔
        ∀ item ∈ items, Blank (some item) "apikey" := by
    intro items
    rw [List.forall_mem_map]
    exact forall₂_congr fun item _ => blank_veiled rt veil apikey_secret (some item)
  have sections : (∀ child ∈ leftOver (veiled rt veil root) recognized, secrets rt child = 0) ↔
      ∀ child ∈ leftOver root recognized, secrets rt child = 0 := by
    rw [leftOver_veiled]
    exact raw _
  have packages : (∀ child ∈ unknownPackages ((veiled rt veil root).find "installedpackages"),
      secrets rt child = 0) ↔
      ∀ child ∈ unknownPackages (root.find "installedpackages"), secrets rt child = 0 := by
    rw [find_veiled, unknownPackages_veiled]
    exact raw _
  have apikeys : (∀ item ∈ childrenIn ((veiled rt veil root).find "apikeys") "item",
      Blank (some item) "apikey") ↔
      ∀ item ∈ childrenIn (root.find "apikeys") "item", Blank (some item) "apikey" := by
    rw [find_veiled, childrenIn_veiled]
    exact keys _
  have shown : ∀ {tag : String}, Rule tag true → ∀ package,
      (Blank (findIn ((veiled rt veil root).find "installedpackages") package) tag ↔
        Blank (findIn (root.find "installedpackages") package) tag) := by
    intro tag secret package
    rw [find_veiled, findIn_veiled]
    exact blank_veiled rt veil secret _
  have maxmind := shown maxmindKey_secret "pfblockerngipsettings"
  have suricata := shown oinkcode_secret "suricata"
  have snort := shown oinkcode_secret "snortglobal"
  constructor
  · exact fun hidden => ⟨sections.mp hidden.sections, packages.mp hidden.packages,
      apikeys.mp hidden.apikeys, maxmind.mp hidden.maxmind, suricata.mp hidden.suricata,
      snort.mp hidden.snort⟩
  · exact fun hidden => ⟨sections.mpr hidden.sections, packages.mpr hidden.packages,
      apikeys.mpr hidden.apikeys, maxmind.mpr hidden.maxmind, suricata.mpr hidden.suricata,
      snort.mpr hidden.snort⟩

/-! ### Hidden secrets are not shown -/

theorem unrecognized_veiled {root : Element}
    (bare : ∀ child ∈ leftOver root recognized, secrets rt child = 0) :
    unrecognized rt (veiled rt veil root) = unrecognized rt root := by
  rw [unrecognized, unrecognized, leftOver_veiled, List.map_map]
  apply List.map_congr_left
  intro child member
  rw [Function.comp_apply, veiled_of_none rt veil child (bare child member)]

theorem unknown_veiled {ip : Element} (bare : ∀ child ∈ leftOver ip consumed, secrets rt child = 0) :
    (leftOver (veiled rt veil ip) consumed).map (unknownPackage rt) =
      (leftOver ip consumed).map (unknownPackage rt) := by
  rw [leftOver_veiled, List.map_map]
  apply List.map_congr_left
  intro child member
  rw [Function.comp_apply, veiled_of_none rt veil child (bare child member)]

theorem parseApikeys_veiled {root : Element}
    (bare : ∀ item ∈ childrenIn (root.find "apikeys") "item", Blank (some item) "apikey") :
    parseApikeys rt (veiled rt veil root) = parseApikeys rt root := by
  rw [parseApikeys, parseApikeys, find_veiled, childrenIn_veiled, List.filterMap_map]
  apply List.filterMap_congr
  intro item member
  have blank : (text item "apikey").getD "" = "" := bare item member
  have covered : orText ((text item "apikey").map veil.cover) (text item "key") =
      orText (text item "apikey") (text item "key") := by
    cases found : text item "apikey" with
    | none => rfl
    | some secret =>
      rw [found, Option.getD_some] at blank
      rw [blank, Option.map_some, Veil.cover_empty]
  simp (disch := first | exact rule_of_chars _ (by decide) | fail)
    [apiKeyEntry, text_secret rt veil apikey_secret, covered]

theorem configured_of_blank {el : Option Element} {tag : String} (secret : Rule tag true)
    (blank : Blank el tag) :
    configured (el.map (veiled rt veil)) tag = configured el tag := by
  have covered := (blank_veiled rt veil secret el).mpr blank
  rw [Blank] at blank covered
  rw [configured, configured, blank, covered]

theorem packagesOf_veiled {root : Element} (hidden : Hidden rt root) :
    packagesOf rt (veiled rt veil root) = packagesOf rt root := by
  obtain ⟨-, packages, -, maxmind, suricata, snort⟩ := hidden
  have same : parsePackages rt (veiled rt veil root) = parsePackages rt root := by
    rw [parsePackages, parsePackages, find_veiled]
    cases found : root.find "installedpackages" with
    | none => rfl
    | some ip =>
      rw [found] at packages maxmind suricata snort
      have each : installed rt (veiled rt veil ip) = installed rt ip := by
        simp [installed, Function.comp_def, unknown_veiled rt veil packages,
          parsePfblockerng_veiled rt veil ip (configured_of_blank rt veil maxmindKey_secret maxmind),
          parseSuricata_veiled rt veil ip (configured_of_blank rt veil oinkcode_secret suricata),
          parseSnort_veiled rt veil ip (configured_of_blank rt veil oinkcode_secret snort)]
      simp [each]
  rw [packagesOf, packagesOf, find_veiled, same]
  cases root.find "wireguard" <;> simp

theorem parseUndated_veiled {root : Element} (hidden : Hidden rt root)
    (dated : Option (Row Revision)) :
    parseUndated rt (veiled rt veil root) dated = parseUndated rt root dated := by
  have version : ((root.find "version").map (veiled rt veil)).bind Element.content =
      (root.find "version").bind Element.content := by
    have plain : Rule "version" false := rule_of_chars _ (by decide)
    cases found : root.find "version" with
    | none => rfl
    | some el =>
      have named : el.tag = "version" := by simpa using List.find?_some found
      exact content_plain rt veil plain el named
  simp [parseUndated, version, unrecognized_veiled rt veil hidden.sections,
    parseApikeys_veiled rt veil hidden.apikeys, packagesOf_veiled rt veil hidden]

theorem parse_veiled {root : Element} (hidden : Hidden rt root) :
    parse rt (veiled rt veil root) = parse rt root := by
  have undated : parseUndated rt (veiled rt veil root) = parseUndated rt root := by
    funext dated
    exact parseUndated_veiled rt veil hidden dated
  rw [parse, parse, parseRevision_veiled, undated]

end Veiled

/-! ### Shown secrets are seen -/

section Seen

variable (rt : Runtime)

theorem sections_bare {root : Element}
    (same : unrecognized rt (veiled rt longer root) = unrecognized rt root) :
    ∀ child ∈ leftOver root recognized, secrets rt child = 0 := by
  intro child member
  rw [unrecognized, unrecognized, leftOver_veiled, List.map_map, List.map_inj_left] at same
  have shown := congrArg Row.dump (same child member)
  apply tostring_longer rt child
  simpa [rawSection, instance_, Entry.str] using shown

theorem packages_bare {ip : Element}
    (same : (leftOver (veiled rt longer ip) consumed).map (unknownPackage rt) =
      (leftOver ip consumed).map (unknownPackage rt)) :
    ∀ child ∈ leftOver ip consumed, secrets rt child = 0 := by
  intro child member
  rw [leftOver_veiled, List.map_map, List.map_inj_left] at same
  have shown := congrArg Row.dump (same child member)
  apply tostring_longer rt child
  simpa [unknownPackage, instance_, Entry.str, Entry.int] using shown

/-- Two readings of a list that keep the same elements agree on each where the results agree. -/
theorem eq_of_filterMap {α β : Type} {first second : α → Option β} {elements : List α}
    (same : elements.filterMap first = elements.filterMap second)
    (shape : ∀ element ∈ elements, (first element).isSome = (second element).isSome) :
    ∀ element ∈ elements, first element = second element := by
  induction elements with
  | nil => exact fun element member => absurd member List.not_mem_nil
  | cons head rest ih =>
    have alike := shape head List.mem_cons_self
    have later := fun element member => shape element (List.mem_cons_of_mem head member)
    rw [List.forall_mem_cons]
    cases left : first head with
    | none =>
      cases right : second head with
      | none =>
        rw [List.filterMap_cons_none left, List.filterMap_cons_none right] at same
        exact ⟨rfl, ih same later⟩
      | some value => simp [left, right] at alike
    | some value =>
      cases right : second head with
      | none => simp [left, right] at alike
      | some value' =>
        rw [List.filterMap_cons_some left, List.filterMap_cons_some right] at same
        obtain ⟨here, below⟩ := List.cons.inj same
        exact ⟨congrArg some here, ih below later⟩

theorem key_plain : Rule "key" false :=
  rule_of_chars _ (by decide)

/-- The key that a row is about. -/
theorem apiKeyEntry_key (it : Element) :
    (apiKeyEntry rt it).map (fun row => Dict.get row.dump "key") =
      (PythonText.truthy (orText (text it "apikey") (text it "key"))).map Val.str := by
  simp [apiKeyEntry, instance_, Entry.str, Dict.get_cons, Function.comp_def]

theorem apikeys_bare {root : Element}
    (same : parseApikeys rt (veiled rt longer root) = parseApikeys rt root) :
    ∀ item ∈ childrenIn (root.find "apikeys") "item", Blank (some item) "apikey" := by
  have grown : ∀ secret, secret ≠ "" → longer.cover secret = secret ++ "x" :=
    fun secret filled => longer.cover_filled filled
  have shape : ∀ item, (apiKeyEntry rt (veiled rt longer item)).isSome =
      (apiKeyEntry rt item).isSome := by
    intro item
    simp only [apiKeyEntry, Option.isSome_map, text_secret rt longer apikey_secret,
      text_veiled rt longer key_plain]
    cases text item "apikey" with
    | none => rfl
    | some secret =>
      by_cases empty : secret = ""
      · simp [empty]
      · simp [orText, PythonText.truthy, empty, grown secret empty]
  rw [parseApikeys, parseApikeys, find_veiled, childrenIn_veiled, List.filterMap_map] at same
  intro item member
  have row := eq_of_filterMap same (fun item _ => shape item) item member
  have shown := congrArg (Option.map fun row => Dict.get row.dump "key") row
  rw [Function.comp_apply, apiKeyEntry_key, apiKeyEntry_key,
    text_secret rt longer apikey_secret, text_veiled rt longer key_plain] at shown
  rw [Blank, textIn, Option.bind_some]
  cases found : text item "apikey" with
  | none => rfl
  | some secret =>
    by_contra filled
    rw [Option.getD_some] at filled
    have appended : secret ++ "x" ≠ "" := by simp
    rw [found] at shown
    simp [orText, filled, appended, grown secret filled, PythonText.truthy_some] at shown

/-- Whether a secret is configured, told of two veils, tells that there is none. -/
theorem blank_of_configured {el : Option Element} {tag : String} (secret : Rule tag true)
    (same : ∀ veil : Veil, configured (el.map (veiled rt veil)) tag = configured el tag) :
    Blank el tag := by
  by_contra filled
  rw [Blank] at filled
  have covered : ∀ (put : String) (given : put ≠ ""),
      ((textIn el tag).map (constant put given).cover).getD "" = put := by
    intro put given
    cases found : textIn el tag with
    | none => simp [found] at filled
    | some held =>
      rw [found, Option.getD_some] at filled
      exact Veil.cover_filled _ filled
  have marked := same (constant "x" (by decide))
  have blank := same (constant " " (by decide))
  rw [configured, textIn_secret rt _ secret, covered] at marked blank
  rw [← blank] at marked
  exact absurd marked (by decide)

/-! ### The packages -/

/-- What the parsed packages show of secrets. -/
def exposed (packages : Installed) :=
  (packages.unknown, packages.pfblockerng, packages.suricata, packages.snort)

theorem exposed_nothing {packages : Installed} (nothing : packages.nothing = true) :
    exposed packages = exposed {} := by
  simp only [Installed.nothing, Bool.and_eq_true, Option.isNone_iff_eq_none,
    List.isEmpty_iff] at nothing
  simp [exposed, nothing]

theorem exposed_childless {ip : Element} (childless : ip.nodes = []) :
    exposed (installed rt ip) = exposed {} := by
  have absent : ∀ tag, ip.find tag = none := by simp [Element.find, childless]
  simp [exposed, installed, leftOver, firsts, childless, parsePfblockerng, parseSuricata,
    parseSnort, geoipContinents, absent]

theorem exposed_packagesOf (root : Element) :
    exposed ((packagesOf rt root).getD {}) =
      exposed (((root.find "installedpackages").map (installed rt)).getD {}) := by
  have own : exposed ((parsePackages rt root).getD {}) =
      exposed (((root.find "installedpackages").map (installed rt)).getD {}) := by
    rw [parsePackages]
    cases root.find "installedpackages" with
    | none => rfl
    | some ip =>
      rw [Option.bind_some, Option.map_some, Option.getD_some]
      dsimp only
      split
      next gone =>
        rcases Bool.or_eq_true _ _ ▸ gone with childless | nothing
        · exact (exposed_childless rt (List.isEmpty_iff.mp childless)).symm
        · exact (exposed_nothing nothing).symm
      next => rfl
  rw [packagesOf, ← own]
  cases root.find "wireguard" <;> rfl

theorem row_injective : Function.Injective Installed.row := by
  intro left right same
  have dumps := congrArg Row.dump same
  simp only [Installed.row, instance_, List.map_cons, List.map_nil, List.cons.injEq,
    Prod.mk.injEq] at dumps
  obtain ⟨⟨-, h1⟩, ⟨-, h2⟩, ⟨-, h3⟩, ⟨-, h4⟩, ⟨-, h5⟩, ⟨-, h6⟩, ⟨-, h7⟩, ⟨-, h8⟩, ⟨-, h9⟩, ⟨-, h10⟩,
    ⟨-, h11⟩, ⟨-, h12⟩, ⟨-, h13⟩, ⟨-, h14⟩, ⟨-, h15⟩, ⟨-, h16⟩, -⟩ := dumps
  cases left
  cases right
  simp only [Installed.mk.injEq]
  exact ⟨optRow_injective _ h1, optRow_injective _ h2, optRow_injective _ h3,
    optRow_injective _ h4, optRow_injective _ h5, optRow_injective _ h6, optRow_injective _ h7,
    optRow_injective _ h8, optRow_injective _ h9, optRow_injective _ h10, optRow_injective _ h11,
    optRow_injective _ h12, optRow_injective _ h13, optRow_injective _ h14,
    optRow_injective _ h15, rows_injective _ h16⟩

theorem exposed_same (veil : Veil) {root ip : Element}
    (found : root.find "installedpackages" = some ip)
    (same : (packagesOf rt (veiled rt veil root)).map Installed.row =
      (packagesOf rt root).map Installed.row) :
    exposed (installed rt (veiled rt veil ip)) = exposed (installed rt ip) := by
  have packages := Option.map_injective row_injective same
  have left := exposed_packagesOf rt (veiled rt veil root)
  have right := exposed_packagesOf rt root
  rw [find_veiled, found] at left
  rw [found] at right
  exact left.symm.trans ((congrArg (fun held => exposed (held.getD {})) packages).trans right)

/-- The row of a package, where it is there, says whether a secret is configured. -/
theorem maxmind_flag {ip el : Element} (found : ip.find "pfblockerngipsettings" = some el) :
    (parsePfblockerng ip).map (fun row => Dict.get row.dump "maxmind_key_configured") =
      some (.bool (configured (some el) "maxmind_key")) := by
  simp [parsePfblockerng, found, instance_, Dict.get_cons, Entry.bool, Entry.opt, Entry.rows,
    Entry.strs]

theorem suricata_flag {ip el : Element} (found : ip.find "suricata" = some el) :
    (parseSuricata ip).map (fun row => Dict.get row.dump "oinkmaster_configured") =
      some (.bool (configured (some el) "oinkcode")) := by
  simp [parseSuricata, found, instance_, Dict.get_cons, Entry.bool, Entry.rows]

theorem snort_flag {ip el : Element} (found : ip.find "snortglobal" = some el) :
    (parseSnort ip).map (fun row => Dict.get row.dump "oinkmaster_configured") =
      some (.bool (configured (some el) "oinkcode")) := by
  simp [parseSnort, found, instance_, Dict.get_cons, Entry.bool, Entry.rows]

/-- A package whose row is the same under every veil has no secret to say configured. -/
theorem blank_of_flag {model : Model} {package tag field : String} {ip : Element}
    (read : Element → Option (Row model)) (secret : Rule tag true)
    (flag : ∀ {ip el : Element}, ip.find package = some el →
      (read ip).map (fun row => Dict.get row.dump field) = some (.bool (configured (some el) tag)))
    (same : ∀ veil, read (veiled rt veil ip) = read ip) : Blank (ip.find package) tag := by
  cases found : ip.find package with
  | none => rfl
  | some el =>
    apply blank_of_configured rt secret
    intro veil
    have there : (veiled rt veil ip).find package = some (veiled rt veil el) := by
      rw [find_veiled, found, Option.map_some]
    have shown := flag there
    rw [same veil, flag found] at shown
    simpa using shown.symm

theorem hidden_of_same {root : Element} {dated : Option (Row Revision)}
    (same : ∀ veil, parseUndated rt (veiled rt veil root) dated = parseUndated rt root dated) :
    Hidden rt root := by
  have packages : ∀ {ip}, root.find "installedpackages" = some ip → ∀ veil,
      exposed (installed rt (veiled rt veil ip)) = exposed (installed rt ip) :=
    fun found veil => exposed_same rt veil found
      (congrArg ParsedConfig.installedpackages (same veil))
  refine ⟨sections_bare rt (congrArg ParsedConfig.unrecognizedSections (same longer)), ?_,
    apikeys_bare rt (congrArg ParsedConfig.apikeys (same longer)), ?_, ?_, ?_⟩
  all_goals
    cases found : root.find "installedpackages" with
    | none => first | rfl | exact fun child member => absurd member List.not_mem_nil
    | some ip => ?_
  · exact packages_bare rt (congrArg (fun held => held.1) (packages found longer))
  · exact blank_of_flag rt parsePfblockerng maxmindKey_secret maxmind_flag
      fun veil => congrArg (fun held => held.2.1) (packages found veil)
  · exact blank_of_flag rt parseSuricata oinkcode_secret suricata_flag
      fun veil => congrArg (fun held => held.2.2.1) (packages found veil)
  · exact blank_of_flag rt parseSnort oinkcode_secret snort_flag
      fun veil => congrArg (fun held => held.2.2.2) (packages found veil)

end Seen

/-! ### The parsed view and the secrets -/

/-- The parsed view of the tree is that of every tree that differs from it in secrets alone. -/
def Unaffected (rt : Runtime) (root : Element) : Prop :=
  ∀ other, Alike rt root other → parse rt other = parse rt root

/-- No secret affects the parsed view exactly where the date of the revision raises or every
secret is hidden. -/
theorem unaffected_iff (rt : Runtime) (root : Element) :
    Unaffected rt root ↔ parseRevision rt root = none ∨ Hidden rt root := by
  constructor
  · intro unaffected
    cases dated : parseRevision rt root with
    | none => exact .inl rfl
    | some revision =>
      have same : ∀ veil, parseUndated rt (veiled rt veil root) revision =
          parseUndated rt root revision := by
        intro veil
        have view := unaffected (veiled rt veil root) (alike_veiled rt veil root)
        rw [parse, parse, parseRevision_veiled, dated, Option.map_some, Option.map_some] at view
        exact Option.some.inj view
      exact .inr (hidden_of_same rt same)
  · intro hidden other alike
    have filled : "x" ≠ "" := by decide
    have gone : veiled rt (constant "x" filled) root = veiled rt (constant "x" filled) other :=
      veiled_alike filled alike
    rcases hidden with undated | hidden
    · have undated' : parseRevision rt other = none := by
        rw [← parseRevision_veiled rt (constant "x" filled), ← gone, parseRevision_veiled, undated]
      rw [parse, parse, undated, undated', Option.map_none, Option.map_none]
    · have hidden' : Hidden rt other := by
        rw [← hidden_veiled rt (constant "x" filled), ← gone, hidden_veiled]
        exact hidden
      calc parse rt other
        _ = parse rt (veiled rt (constant "x" filled) other) := (parse_veiled rt _ hidden').symm
        _ = parse rt (veiled rt (constant "x" filled) root) := by rw [gone]
        _ = parse rt root := parse_veiled rt _ hidden

/-- A runtime that knows ASCII alone. -/
def asciiRuntime : Runtime where
  lower := lowerAscii
  lower_ascii := fun _ _ => rfl
  isDigit := fun char => decide ('0' ≤ char ∧ char ≤ '9')
  decimal := fun char => if '0' ≤ char ∧ char ≤ '9' then some (char.toNat - '0'.toNat) else none
  sha1 := fun _ => ""
  wellKnown := fun _ => none
  certificate := fun _ => none

/-- A config with a section that no parser knows, and a password in it. -/
def vendorSection (secret : String) : Element :=
  .mk "pfsense" none [.mk "vendor" none [.mk "password" (some secret) []]]

/-- Two passwords in an unknown section give two parsed views. -/
theorem vendorSection_shown :
    Alike asciiRuntime (vendorSection "x") (vendorSection "y") ∧
      parse asciiRuntime (vendorSection "x") ≠ parse asciiRuntime (vendorSection "y") := by
  have secret : shouldRedact asciiRuntime "password" = true :=
    rule_of_chars "password".toList (by decide) asciiRuntime
  constructor
  · simp [vendorSection, Alike, AlikeEach, AlikeText, secret]
  · intro same
    have sections := Option.some.inj same
    have shown := congrArg ParsedConfig.unrecognizedSections sections
    have kept : ∀ secret, leftOver (vendorSection secret) recognized =
        [.mk "vendor" none [.mk "password" (some secret) []]] := by
      intro secret
      simp [leftOver, firsts, vendorSection, recognized, Element.nodes, Element.tag]
    have xml : tostring asciiRuntime (.mk "vendor" none [.mk "password" (some "x") []]) =
        tostring asciiRuntime (.mk "vendor" none [.mk "password" (some "y") []]) := by
      have rows : unrecognized asciiRuntime (vendorSection "x") =
          unrecognized asciiRuntime (vendorSection "y") := shown
      rw [unrecognized, unrecognized, kept, kept] at rows
      have dumps := congrArg (List.map Row.dump) rows
      simpa [rawSection, instance_, Entry.str, Element.tag] using dumps
    exact absurd xml (by decide)

end PfsenseBackups.Secrecy
