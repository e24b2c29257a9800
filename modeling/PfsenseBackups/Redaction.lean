import PfsenseBackups.Xml

/-! `pfsense_redact.py`, and the trees that differ in secrets alone. -/

namespace PfsenseBackups.Redaction
open Value Xml

/-! ### What the parser takes from elsewhere -/

/-- `text.lower()` on ASCII. -/
def lowerAscii (text : String) : String :=
  String.ofList (text.toList.map Char.toLower)

/-- Unicode's tables, SHA-1, the prefixes of namespaces and the reader of certificates. -/
structure Runtime where
  lower : String → String
  lower_ascii : ∀ text, (∀ char ∈ text.toList, char.toNat < 128) → lower text = lowerAscii text
  /-- `char.isdigit()`. -/
  isDigit : Char → Bool
  /-- The digit that a character stands for in `int(text)`. -/
  decimal : Char → Option Nat
  /-- The hexadecimal SHA-1 digest of a text. -/
  sha1 : String → String
  /-- The prefix that `ElementTree` has for a URI beforehand. -/
  wellKnown : String → Option String
  /-- `decode_x509`, on a text that is not blank. -/
  certificate : String → Option (Row Models.CertMetadata)

/-! ### The rules -/

def redacted : String := "***redacted***"

/-- `_EXACT`. -/
def exactTags : List String := [
  "password", "bcrypt_hash", "md5_hash", "presharedkey", "pre-shared-key", "pre_shared_key",
  "shared_key", "tls", "tls_auth", "prv", "radius_secret", "radius_secret_enc", "ldap_bindpw",
  "bindpw", "rocommunity", "rwcommunity", "community", "trap_community", "trapstring", "pskey",
  "psk", "auth_token", "api_key", "apikey", "api_token", "apitoken", "accountkey", "account_key",
  "user_key", "userkey", "webhook_url", "webhookurl", "oinkcode", "maxmind_key", "nas_secret",
  "shared_secret", "user_password", "proxy_auth_password", "influxdb_token", "cf_token", "cf_key",
  "do_api_key", "gd_key", "gd_secret", "influxdb_username", "nt_pass", "frr_password",
  "bgp_password", "ospf_password", "secret", "remotepassword", "tlspsk", "tls_psk", "ssh_rsa_key",
  "ssh_ecdsa_key", "ssh_ed25519_key", "ssh_dsa_key", "apikey_secret", "api_secret", "privatekey",
  "private_key", "auth_user_pass", "otp_seed", "ddnsdomainkey"]

/-- `_SUFFIXES`. -/
def suffixes : List String := [
  "_password", "_secret", "_privkey", "_private_key", "_bindpw", "_apikey", "_api_key",
  "_authtoken", "_auth_token"]

/-- What a lower-case letter of a pattern matches under `re.IGNORECASE`. -/
def matchesLetter (letter char : Char) : Bool :=
  char.toLower == letter || (letter == 's' && char == 'ſ') || (letter == 'k' && char == '\u212A') ||
    (letter == 'i' && (char == 'ı' || char == 'İ'))

/-- The letters of a pattern, in front of a text. -/
def matchesFront : List Char → List Char → Bool
  | [], _ => true
  | letter :: pattern, char :: text => matchesLetter letter char && matchesFront pattern text
  | _ :: _, [] => false

/-- `_SUFFIX_RE.search(lower)`: both are read from the end. -/
def hasSuffix (text : List Char) : Bool :=
  suffixes.any fun suffix => matchesFront suffix.toList.reverse text.reverse

/-- A leaf with the tag must be redacted. -/
def shouldRedact (rt : Runtime) (tag : String) : Bool :=
  decide (rt.lower tag ∈ exactTags) || hasSuffix (rt.lower tag).toList

/-- Placeholder for secret fields, all others and the empty text as they are. -/
def redact (rt : Runtime) (tag : String) (value : Option String) : Option String :=
  match value with
  | none => none
  | some text => if text ≠ "" ∧ shouldRedact rt tag = true then some redacted else some text

/-! ### Tags spelled out -/

/-- The tables as lists of characters. -/
def exactChars : { chars : List (List Char) // exactTags.map String.toList = chars } :=
  ⟨_, by simp only [exactTags, List.map_cons, List.map_nil, String.reduceToList]; exact rfl⟩

def suffixChars :
    { chars : List (List Char) // suffixes.map (fun suffix => suffix.toList.reverse) = chars } :=
  ⟨_, by
    simp only [suffixes, List.map_cons, List.map_nil, String.reduceToList, List.reverse_cons,
      List.reverse_nil, List.nil_append, List.cons_append]
    exact rfl⟩

/-- `should_redact` on the characters of a lower-case ASCII tag. -/
def classify (chars : List Char) : Option Bool :=
  if chars.all fun char => char.toNat < 128 && char.toLower == char then
    some (exactChars.1.contains chars ||
      suffixChars.1.any fun suffix => suffix.isPrefixOf chars.reverse)
  else none

theorem matchesFront_ascii {pattern text : List Char}
    (ascii : ∀ char ∈ text, char.toNat < 128 ∧ char.toLower = char) :
    matchesFront pattern text = pattern.isPrefixOf text := by
  induction pattern generalizing text with
  | nil => rw [matchesFront, List.isPrefixOf]
  | cons letter pattern ih =>
    cases text with
    | nil => rfl
    | cons char text =>
      obtain ⟨small, lower⟩ := ascii char List.mem_cons_self
      have apart : ∀ other : Char, 128 ≤ other.toNat → (char == other) = false := by
        intro other large
        rw [beq_eq_false_iff_ne]
        rintro rfl
        exact absurd small (not_lt.mpr large)
      rw [matchesFront, List.isPrefixOf, matchesLetter, lower, apart 'ſ' (by decide),
        apart '\u212A' (by decide), apart 'ı' (by decide), apart 'İ' (by decide),
        ih fun other member => ascii other (List.mem_cons_of_mem _ member)]
      simp only [Bool.and_false, Bool.or_false, Bool.beq_comm (a := char)]

/-- Whatever the runtime, a leaf with the tag is redacted, or is not. -/
def Rule (tag : String) (secret : Bool) : Prop :=
  ∀ rt, shouldRedact rt tag = secret

theorem rule_of_chars (chars : List Char) {secret : Bool} (found : classify chars = some secret) :
    Rule (String.ofList chars) secret := by
  intro rt
  unfold classify at found
  split at found
  next ascii =>
    simp only [List.all_eq_true, Bool.and_eq_true, decide_eq_true_eq, beq_iff_eq] at ascii
    have lower : rt.lower (String.ofList chars) = String.ofList chars := by
      rw [rt.lower_ascii _ (by
        rw [String.toList_ofList]
        exact fun char member => (ascii char member).1), lowerAscii, String.toList_ofList]
      congr 1
      exact (List.map_congr_left fun char member => (ascii char member).2).trans (List.map_id _)
    have listed : decide (String.ofList chars ∈ exactTags) = exactChars.1.contains chars := by
      rw [List.contains_eq_mem, decide_eq_decide, ← exactChars.2, List.mem_map]
      constructor
      · exact fun member => ⟨_, member, String.toList_ofList⟩
      · rintro ⟨tag, member, same⟩
        rwa [← same, String.ofList_toList]
    have ended : hasSuffix chars =
        suffixChars.1.any fun suffix => suffix.isPrefixOf chars.reverse := by
      rw [hasSuffix, ← suffixChars.2, List.any_map]
      congr 1
      funext suffix
      exact matchesFront_ascii fun char member => ascii char (List.mem_reverse.mp member)
    rw [← Option.some.inj found, shouldRedact, lower, listed, String.toList_ofList, ended]
  next => cases found

theorem toLower_ascii {char : Char} (ascii : char.toNat < 128) :
    char.toLower.toNat < 128 ∧ char.toLower.toLower = char.toLower := by
  have every : ∀ code < 128, (Char.ofNat code).toLower.toNat < 128 ∧
      (Char.ofNat code).toLower.toLower = (Char.ofNat code).toLower := by decide
  rw [← Char.ofNat_toNat char]
  exact every _ ascii

/-- The case of an ASCII tag does not matter. -/
theorem rule_of_lower {tag : String} {secret : Bool}
    (plain : (tag.toList.all fun char => char.toNat < 128) = true)
    (rule : Rule (lowerAscii tag) secret) : Rule tag secret := by
  intro rt
  have ascii : ∀ char ∈ tag.toList, char.toNat < 128 := fun char member =>
    of_decide_eq_true (List.all_eq_true.mp plain char member)
  have letters : (lowerAscii tag).toList = tag.toList.map Char.toLower := by
    rw [lowerAscii, String.toList_ofList]
  have lowered : lowerAscii (lowerAscii tag) = lowerAscii tag := by
    rw [lowerAscii, letters, List.map_map]
    congr 1
    exact List.map_congr_left fun char member => (toLower_ascii (ascii char member)).2
  have small : ∀ char ∈ (lowerAscii tag).toList, char.toNat < 128 := by
    rw [letters]
    intro char member
    obtain ⟨upper, inside, rfl⟩ := List.mem_map.mp member
    exact (toLower_ascii (ascii upper inside)).1
  rw [← rule rt, shouldRedact, shouldRedact, rt.lower_ascii tag ascii,
    rt.lower_ascii _ small, lowered]

/-! ### Trees that differ in secrets alone -/

/-- A secret, or the text of a leaf that is none: of two secrets only the presence is the same. -/
def AlikeText (rt : Runtime) (tag : String) (left right : Option String) : Prop :=
  left = right ∨ shouldRedact rt tag = true ∧ left.getD "" ≠ "" ∧ right.getD "" ≠ ""

mutual

/-- Two trees of the same shape that differ in the non-empty text of secret leaves only. -/
def Alike (rt : Runtime) : Element → Element → Prop
  | .mk tag content nodes attrib tail, .mk tag' content' nodes' attrib' tail' =>
    tag = tag' ∧ AlikeText rt tag content content' ∧ AlikeEach rt nodes nodes' ∧
      attrib = attrib' ∧ tail = tail'

def AlikeEach (rt : Runtime) : List Element → List Element → Prop
  | [], [] => True
  | node :: rest, node' :: rest' => Alike rt node node' ∧ AlikeEach rt rest rest'
  | [], _ :: _ => False
  | _ :: _, [] => False

end

/-- A replacement of secrets by other secrets. -/
structure Veil where
  replace : String → String
  filled : ∀ secret, secret ≠ "" → replace secret ≠ ""

/-- The text in a secret's place; the empty text stays. -/
def Veil.cover (veil : Veil) (secret : String) : String :=
  if secret = "" then "" else veil.replace secret

@[simp] theorem Veil.cover_empty (veil : Veil) : veil.cover "" = "" :=
  if_pos rfl

theorem Veil.cover_filled (veil : Veil) {secret : String} (filled : secret ≠ "") :
    veil.cover secret = veil.replace secret :=
  if_neg filled

@[simp] theorem Veil.cover_eq_empty (veil : Veil) (secret : String) :
    veil.cover secret = "" ↔ secret = "" := by
  by_cases empty : secret = ""
  · simp [empty]
  · simp [empty, veil.cover_filled empty, veil.filled secret empty]

section Veiled

variable (rt : Runtime) (veil : Veil)

/-- The text of a leaf, replaced where it is a secret. -/
def veiledText (tag : String) (content : Option String) : Option String :=
  if shouldRedact rt tag = true then content.map veil.cover else content

mutual

/-- The tree with all its secrets replaced. -/
def veiled : Element → Element
  | .mk tag content nodes attrib tail =>
    .mk tag (veiledText rt veil tag content) (veiledEach nodes) attrib tail

def veiledEach : List Element → List Element
  | [] => []
  | node :: rest => veiled node :: veiledEach rest

end

theorem veiledEach_eq (nodes : List Element) : veiledEach rt veil nodes = nodes.map (veiled rt veil) := by
  induction nodes with
  | nil => rw [veiledEach, List.map_nil]
  | cons node rest ih => rw [veiledEach, ih, List.map_cons]

mutual

theorem alike_veiled : ∀ el : Element, Alike rt el (veiled rt veil el)
  | .mk tag content nodes attrib tail => by
    rw [veiled, Alike]
    refine ⟨rfl, ?_, alike_veiledEach nodes, rfl, rfl⟩
    rw [veiledText]
    split
    next secret =>
      cases content with
      | none => exact .inl rfl
      | some text =>
        by_cases empty : text = ""
        · exact .inl (by simp [empty])
        · exact .inr ⟨secret, by simpa using empty, by simpa using empty⟩
    next => exact .inl rfl

theorem alike_veiledEach : ∀ nodes : List Element, AlikeEach rt nodes (veiledEach rt veil nodes)
  | [] => by rw [veiledEach, AlikeEach]; trivial
  | node :: rest => by
    rw [veiledEach, AlikeEach]
    exact ⟨alike_veiled node, alike_veiledEach rest⟩

end

/-- The veil that puts one secret in the place of all. -/
def constant (secret : String) (filled : secret ≠ "") : Veil where
  replace := fun _ => secret
  filled := fun _ _ => filled

section Alike

variable {rt} {secret : String} (filled : secret ≠ "")

theorem veiledText_alike {tag : String} {left right : Option String}
    (alike : AlikeText rt tag left right) :
    veiledText rt (constant secret filled) tag left =
      veiledText rt (constant secret filled) tag right := by
  rcases alike with rfl | ⟨rule, first, second⟩
  · rfl
  · have covered : ∀ content : Option String, content.getD "" ≠ "" →
        content.map (constant secret filled).cover = some secret := by
      intro content text
      cases content with
      | none => exact absurd rfl text
      | some text' => exact congrArg some (Veil.cover_filled _ text)
    rw [veiledText, veiledText, if_pos rule, if_pos rule, covered left first, covered right second]

mutual

/-- Alike trees are one tree with the secrets gone. -/
theorem veiled_alike : ∀ {left right : Element}, Alike rt left right →
    veiled rt (constant secret filled) left = veiled rt (constant secret filled) right
  | .mk tag content nodes attrib tail, .mk tag' content' nodes' attrib' tail', alike => by
    rw [Alike] at alike
    obtain ⟨rfl, text, below, rfl, rfl⟩ := alike
    rw [veiled, veiled, veiledText_alike filled text, veiledEach_alike below]

theorem veiledEach_alike : ∀ {left right : List Element}, AlikeEach rt left right →
    veiledEach rt (constant secret filled) left = veiledEach rt (constant secret filled) right
  | [], [], _ => rfl
  | node :: rest, node' :: rest', alike => by
    rw [AlikeEach] at alike
    rw [veiledEach, veiledEach, veiled_alike alike.1, veiledEach_alike alike.2]
  | [], _ :: _, alike => by
    rw [AlikeEach] at alike
    exact alike.elim
  | _ :: _, [], alike => by
    rw [AlikeEach] at alike
    exact alike.elim

end

end Alike

/-! ### What readers see of them -/

section Readers

variable (el : Element)

@[simp] theorem tag_veiled : (veiled rt veil el).tag = el.tag := by
  cases el
  rw [veiled]
  rfl

@[simp] theorem nodes_veiled : (veiled rt veil el).nodes = el.nodes.map (veiled rt veil) := by
  cases el
  rw [veiled, veiledEach_eq]
  rfl

theorem content_veiled :
    (veiled rt veil el).content = veiledText rt veil el.tag el.content := by
  cases el
  rw [veiled]
  rfl

@[simp] theorem find_veiled (tag : String) :
    (veiled rt veil el).find tag = (el.find tag).map (veiled rt veil) := by
  have same : (fun node : Element => decide (node.tag = tag)) ∘ veiled rt veil =
      fun node => decide (node.tag = tag) := by
    funext node
    rw [Function.comp_apply, tag_veiled]
  rw [Element.find, Element.find, nodes_veiled, List.find?_map, same]

@[simp] theorem findIn_veiled (el : Option Element) (tag : String) :
    findIn (el.map (veiled rt veil)) tag = (findIn el tag).map (veiled rt veil) := by
  cases el <;> simp [findIn]

@[simp] theorem children_veiled (tag : String) :
    children (veiled rt veil el) tag = (children el tag).map (veiled rt veil) := by
  simp [children, List.filter_map, Function.comp_def]

@[simp] theorem childrenIn_veiled (el : Option Element) (tag : String) :
    childrenIn (el.map (veiled rt veil)) tag = (childrenIn el tag).map (veiled rt veil) := by
  cases el <;> simp [childrenIn]

@[simp] theorem boolFlag_veiled (tag : String) :
    boolFlag (veiled rt veil el) tag = boolFlag el tag := by
  simp [boolFlag]

@[simp] theorem flagIn_veiled (el : Option Element) (tag : String) :
    flagIn (el.map (veiled rt veil)) tag = flagIn el tag := by
  cases el <;> simp [flagIn]

mutual

@[simp] theorem iter_veiled (tag : String) : ∀ el : Element,
    iter tag (veiled rt veil el) = (iter tag el).map (veiled rt veil)
  | .mk own content nodes attrib tail => by
    rw [veiled, iter, iter, List.map_append, iterEach_veiled tag nodes]
    split <;> simp [veiled]

theorem iterEach_veiled (tag : String) : ∀ nodes : List Element,
    iterEach tag (veiledEach rt veil nodes) = (iterEach tag nodes).map (veiled rt veil)
  | [] => by simp [veiledEach, iterEach]
  | node :: rest => by
    rw [veiledEach, iterEach, iterEach, List.map_append, iter_veiled tag node,
      iterEach_veiled tag rest]

end

@[simp] theorem orRows_veiled (rows others : List Element) :
    orRows (rows.map (veiled rt veil)) (others.map (veiled rt veil)) =
      (orRows rows others).map (veiled rt veil) := by
  cases rows <;> rfl

end Readers

section Plain

variable {tag : String} (plain : Rule tag false)

include plain

theorem content_plain (el : Element) (named : el.tag = tag) :
    (veiled rt veil el).content = el.content := by
  have rule := plain rt
  rw [content_veiled, veiledText, named, rule, if_neg Bool.false_ne_true]

@[simp] theorem text_veiled (el : Element) : text (veiled rt veil el) tag = text el tag := by
  rw [text, text, find_veiled]
  cases found : el.find tag with
  | none => rfl
  | some node =>
    have named : node.tag = tag := by simpa using List.find?_some found
    simp only [Option.map_some, content_plain rt veil plain node named]

@[simp] theorem textIn_veiled (el : Option Element) :
    textIn (el.map (veiled rt veil)) tag = textIn el tag := by
  cases el with
  | none => rfl
  | some el => exact text_veiled rt veil plain el

@[simp] theorem texts_veiled (el : Element) : texts (veiled rt veil el) tag = texts el tag := by
  rw [texts, texts, children_veiled, List.filterMap_map]
  apply List.filterMap_congr
  intro node member
  have named : node.tag = tag := by simpa using (List.mem_filter.mp member).2
  simp only [Function.comp_apply, content_plain rt veil plain node named]

@[simp] theorem contents_veiled (el : Element) :
    contents (veiled rt veil el) tag = contents el tag := by
  rw [contents, contents, children_veiled, List.map_map]
  apply List.map_congr_left
  intro node member
  have named : node.tag = tag := by simpa using (List.mem_filter.mp member).2
  simp only [Function.comp_apply, content_plain rt veil plain node named]

/-- What is read of a section without a secret's tag, with its text. -/
theorem find_plain {α : Type} {read : Element → α}
    (same : ∀ el, (veiled rt veil el).content = el.content → read (veiled rt veil el) = read el)
    (el : Element) : ((veiled rt veil el).find tag).map read = (el.find tag).map read := by
  rw [find_veiled]
  cases found : el.find tag with
  | none => rfl
  | some node =>
    have named : node.tag = tag := by simpa using List.find?_some found
    simp only [Option.map_some, same node (content_plain rt veil plain node named)]

end Plain

section Hidden

variable {tag : String} (secret : Rule tag true)

include secret

theorem text_secret (el : Element) :
    text (veiled rt veil el) tag = (text el tag).map veil.cover := by
  rw [text, text, find_veiled]
  cases found : el.find tag with
  | none => rfl
  | some node =>
    have named : node.tag = tag := by simpa using List.find?_some found
    have rule := secret rt
    simp only [Option.map_some, content_veiled, veiledText, named, rule, if_pos]
    cases node.content <;> simp

theorem textIn_secret (el : Option Element) :
    textIn (el.map (veiled rt veil)) tag = (textIn el tag).map veil.cover := by
  cases el with
  | none => rfl
  | some el => exact text_secret rt veil secret el

end Hidden

/-- What redaction leaves of a secret. -/
def placeholder (value : Option String) : Option String :=
  value.map fun text => if text = "" then "" else redacted

@[simp] theorem redact_secret {tag : String} (secret : Rule tag true) (value : Option String) :
    redact rt tag value = placeholder value := by
  have rule := secret rt
  cases value with
  | none => rfl
  | some text => by_cases empty : text = "" <;> simp [redact, placeholder, rule, empty]

@[simp] theorem placeholder_none : placeholder none = none := rfl

@[simp] theorem placeholder_orText (first second : Option String) :
    placeholder (orText first second) = orText (placeholder first) (placeholder second) := by
  have mark : redacted ≠ "" := by decide
  cases first with
  | none => simp [orText, placeholder]
  | some text => by_cases empty : text = "" <;> simp [orText, placeholder, empty, mark]

/-- Of a secret, redaction shows no more than whether it is empty. -/
@[simp] theorem placeholder_text_veiled (el : Element) (tag : String) :
    placeholder (text (veiled rt veil el) tag) = placeholder (text el tag) := by
  rw [text, text, find_veiled]
  cases el.find tag with
  | none => rfl
  | some node =>
    simp only [Option.map_some, placeholder, content_veiled, veiledText]
    split
    next =>
      cases node.content with
      | none => rfl
      | some secret =>
        by_cases empty : secret = "" <;> simp [empty]
    next => rfl

@[simp] theorem placeholder_textIn_veiled (el : Option Element) (tag : String) :
    placeholder (textIn (el.map (veiled rt veil)) tag) = placeholder (textIn el tag) := by
  cases el with
  | none => rfl
  | some el => exact placeholder_text_veiled rt veil el tag

end Veiled

end PfsenseBackups.Redaction
