import PfsenseBackups.Payloads

/-! Wrappers within wrappers: what is encrypted is itself something that the decryption takes for a
right result, so that layers come off in the reverse order, whatever their number. -/

namespace PfsenseBackups.CryptoLayers
open Encodings PfsenseCrypto Payloads

variable (prims : Primitives)

/-- One encryption after another, each with its salt and password; the last one is outermost. -/
def wrapLayers : List (Salt × String) → Bytes → Bytes
  | [], plaintext => plaintext
  | (salt, password) :: outer, plaintext =>
    wrapLayers outer (encryptPfsenseBackup prims salt plaintext password)

/-- One decryption after another. -/
def stripLayers : List String → Bytes → Except String Bytes
  | [], blob => .ok blob
  | password :: inner, blob => do stripLayers inner (← decryptPfsenseBackup prims blob password)

theorem utf8_append (front back : List Char) : utf8 (front ++ back) = utf8 front ++ utf8 back := by
  simp [utf8]

variable {prims}

/-- A wrapper is seen for what it is. -/
theorem looksEncrypted_encrypt (salt : Salt) (plaintext : Bytes) (password : String) :
    looksEncrypted (encryptPfsenseBackup prims salt plaintext password) = true := by
  have opening : ∃ rest, encryptPfsenseBackup prims salt plaintext password =
      utf8 beginMarker ++ rest := by
    rw [encryptPfsenseBackup_eq, wrapBody, List.append_assoc, List.append_assoc, utf8_append]
    exact ⟨_, rfl⟩
  obtain ⟨rest, eq⟩ := opening
  have short : (utf8 beginMarker).length ≤ 4096 := by decide
  rw [looksEncrypted, eq, List.take_append, List.take_of_length_le short]
  exact decide_eq_true (List.prefix_append _ _).isInfix

theorem credible_encrypt (salt : Salt) (plaintext : Bytes) (password : String) :
    credible (encryptPfsenseBackup prims salt plaintext password) = true := by
  rw [credible, looksEncrypted_encrypt, Bool.or_true]

theorem stripLayers_append {outer inner : List String} {blob rest : Bytes}
    (stripped : stripLayers prims outer blob = .ok rest) :
    stripLayers prims (outer ++ inner) blob = stripLayers prims inner rest := by
  induction outer generalizing blob with
  | nil =>
    cases stripped
    rfl
  | cons password outer ih =>
    rw [List.cons_append, stripLayers]
    rw [stripLayers] at stripped
    cases opened : decryptPfsenseBackup prims blob password with
    | error failure =>
      rw [opened] at stripped
      cases stripped
    | ok next =>
      rw [opened] at stripped
      exact ih stripped

theorem stripLayers_wrapLayers (layers : List (Salt × String)) {plaintext : Bytes}
    (right : credible plaintext = true) :
    stripLayers prims (layers.map Prod.snd).reverse (wrapLayers prims layers plaintext) =
      .ok plaintext := by
  induction layers generalizing plaintext with
  | nil => rfl
  | cons layer outer ih =>
    obtain ⟨salt, password⟩ := layer
    have outside := ih (@credible_encrypt prims salt plaintext password)
    rw [List.map_cons, List.reverse_cons, wrapLayers, stripLayers_append outside, stripLayers,
      decrypt_encrypt salt password right]
    rfl

/-- What the plausibility check accepts comes back from its encryption, and from any number of
layers that are taken off in the reverse order. -/
theorem layers_round_trip (prims : Primitives) {plaintext : Bytes}
    (right : credible plaintext = true) :
    (∀ salt password, decryptPfsenseBackup prims
      (encryptPfsenseBackup prims salt plaintext password) password = .ok plaintext) ∧
    ∀ layers : List (Salt × String),
      stripLayers prims (layers.map Prod.snd).reverse (wrapLayers prims layers plaintext) =
        .ok plaintext :=
  ⟨fun salt password => decrypt_encrypt salt password right,
    fun layers => stripLayers_wrapLayers layers right⟩

/-- Two layers around a small configuration. -/
theorem twoLayers_round_trip :
    let config := utf8 "<?xml version=\"1.0\"?><pfsense/>".toList
    credible config = true ∧
      stripLayers clearCipher ["outer", "inner"]
        (wrapLayers clearCipher [(someSalt, "inner"), (someSalt, "outer")] config) = .ok config := by
  have right : credible (utf8 "<?xml version=\"1.0\"?><pfsense/>".toList) = true := by decide
  exact ⟨right, (layers_round_trip clearCipher right).2 [(someSalt, "inner"), (someSalt, "outer")]⟩

end PfsenseBackups.CryptoLayers
