import PfsenseBackups.DiffConfigs
import PfsenseBackups.Xml

/-! What `diff_configs` shows and what it hides. With unique row keys the diff is empty
exactly when the two configs agree on every field that has a section; rows that share a key
are lost one by one. -/

namespace PfsenseBackups.DiffCompleteness
open Value Keyed Config Diff DiffConfigs Labels Xml

/-- Every section of the diff is empty. -/
def AllEmpty (diff : ConfigDiff) : Prop :=
  (∀ section_, (diff.list section_).isEmpty = true) ∧
    (∀ section_, ∀ inner ∈ diff.model section_, inner.isEmpty = true) ∧
    diff.configVersion.isEmpty = true

/-- In each list section no two rows share the key that the differ matches on. -/
def UniqueKeys (config : ParsedConfig) : Prop :=
  ∀ section_, Unique (diffKey (rowKey section_)) (config.rows section_)

/-- The list sections hold the same rows, in the same order where order matters. -/
def SameRows (a b : ParsedConfig) : Prop :=
  ∀ section_, (a.rows section_).Perm (b.rows section_) ∧
    (orderSensitive section_ = true → a.rows section_ = b.rows section_)

/-- Equal up to the order of rows in the list sections that are not order-sensitive. -/
def SameUpToOrder (a b : ParsedConfig) : Prop :=
  a.configVersion = b.configVersion ∧ SameRows a b ∧ ∀ section_, a.model section_ = b.model section_

/-- The same with the mobile client settings of IPsec left out. -/
def SameElsewhere (a b : ParsedConfig) : Prop :=
  a.configVersion = b.configVersion ∧ SameRows a b ∧
    ∀ section_, section_ ≠ .ipsecMobileClients → a.model section_ = b.model section_

theorem sameUpToOrder_iff (a b : ParsedConfig) : SameUpToOrder a b ↔
    SameElsewhere a b ∧ a.model .ipsecMobileClients = b.model .ipsecMobileClients := by
  unfold SameUpToOrder SameElsewhere
  constructor
  · rintro ⟨version, rows, models⟩
    exact ⟨⟨version, rows, fun section_ _ => models section_⟩, models _⟩
  · rintro ⟨⟨version, rows, models⟩, mobile⟩
    refine ⟨version, rows, ?_⟩
    intro section_
    by_cases left_out : section_ = .ipsecMobileClients
    · rw [left_out]
      exact mobile
    · exact models section_ left_out

theorem list_isEmpty_iff {a b : ParsedConfig} (ua : UniqueKeys a) (ub : UniqueKeys b)
    (section_ : ListSection) : ((diffConfigs a b).list section_).isEmpty = true ↔
      (a.rows section_).Perm (b.rows section_) ∧
        (orderSensitive section_ = true → a.rows section_ = b.rows section_) := by
  rw [diffConfigs_list]
  exact diffList_isEmpty (listSection_wellNamed section_) (a.rows_conform section_)
    (b.rows_conform section_) (ua section_) (ub section_)

theorem model_isEmpty_iff (a b : ParsedConfig) (section_ : ModelSection) :
    (∀ inner ∈ (diffConfigs a b).model section_, inner.isEmpty = true) ↔
      (section_ ≠ .ipsecMobileClients → a.model section_ = b.model section_) := by
  have decides := diffOptionalModel_isEmpty (modelSection_wellNamed section_) (a.model section_)
    (b.model section_) section_.name (a.model_conforms section_) (b.model_conforms section_)
  by_cases left_out : section_ = .ipsecMobileClients
  · subst left_out
    simp [ConfigDiff.model]
  · have shown : (diffConfigs a b).model section_ ≠ none := by
      cases section_ <;> first | exact (left_out rfl).elim | simp [ConfigDiff.model]
    obtain ⟨inner, found⟩ := Option.ne_none_iff_exists'.mp shown
    have spec := diffConfigs_model a b section_ inner found
    simp only [found, Option.mem_some_iff, forall_eq', spec, decides, ne_eq, left_out,
      not_false_eq_true, forall_const]

/-- The diff of two uniquely keyed configs is empty exactly when they are the same in all
that `ConfigDiff` has a section for. -/
theorem diffConfigs_empty_iff {a b : ParsedConfig} (ua : UniqueKeys a) (ub : UniqueKeys b) :
    AllEmpty (diffConfigs a b) ↔ SameElsewhere a b := by
  have version : (diffConfigs a b).configVersion.isEmpty = true ↔
      a.configVersion = b.configVersion :=
    (diffScalar_isEmpty _ _ _).trans Val.optional_injective.eq_iff
  simp only [AllEmpty, SameElsewhere, SameRows, list_isEmpty_iff ua ub, model_isEmpty_iff, version]
  tauto

/-- The diff is complete and sound for two configs unless they differ in the mobile client
settings of IPsec and in nothing else. -/
theorem diffConfigs_complete_iff (a b : ParsedConfig) (ua : UniqueKeys a) (ub : UniqueKeys b) :
    (AllEmpty (diffConfigs a b) ↔ SameUpToOrder a b) ↔
      (SameElsewhere a b → a.model .ipsecMobileClients = b.model .ipsecMobileClients) := by
  rw [diffConfigs_empty_iff ua ub, sameUpToOrder_iff]
  tauto

/-- A config that holds nothing but mobile client settings with the given address pool. -/
def mobileClients (pool : String) : ParsedConfig where
  ipsecMobileClients := some
    { dump := [("enable", .bool true), ("user_source", .str "Local Database"),
        ("group_source", .str "none"), ("pool_address", .str pool), ("pool_netbits", .str "24"),
        ("dns_address", .none), ("wins_address", .none), ("login_banner", .none)]
      conforms := by simp [Model.Conforms, Models.IpsecMobileClient, FieldType.fieldsConform,
        FieldType.conforms] }

theorem mobileClients_uniqueKeys (pool : String) : UniqueKeys (mobileClients pool) := by
  intro section_
  cases section_ <;> exact List.nodup_nil

theorem mobileClients_complete :
    (AllEmpty (diffConfigs (mobileClients "10.8.0.0") (mobileClients "10.8.0.0")) ↔
      SameUpToOrder (mobileClients "10.8.0.0") (mobileClients "10.8.0.0")) :=
  (diffConfigs_complete_iff _ _ (mobileClients_uniqueKeys _) (mobileClients_uniqueKeys _)).mpr
    fun _ => rfl

/-- Moving the mobile clients to another address pool shows up in no section. -/
theorem mobileClients_moved_unseen :
    UniqueKeys (mobileClients "10.8.0.0") ∧ UniqueKeys (mobileClients "10.9.0.0") ∧
      ¬(AllEmpty (diffConfigs (mobileClients "10.8.0.0") (mobileClients "10.9.0.0")) ↔
        SameUpToOrder (mobileClients "10.8.0.0") (mobileClients "10.9.0.0")) := by
  have before := mobileClients_uniqueKeys "10.8.0.0"
  have after := mobileClients_uniqueKeys "10.9.0.0"
  refine ⟨before, after, ?_⟩
  rw [diffConfigs_empty_iff before after, sameUpToOrder_iff]
  have elsewhere : SameElsewhere (mobileClients "10.8.0.0") (mobileClients "10.9.0.0") := by
    refine ⟨rfl, ?_, ?_⟩
    · intro section_
      cases section_ <;> exact ⟨.refl _, fun _ => rfl⟩
    · intro section_ others
      cases section_ <;> first | rfl | exact (others rfl).elim
  have moved : (mobileClients "10.8.0.0").model .ipsecMobileClients ≠
      (mobileClients "10.9.0.0").model .ipsecMobileClients := by decide
  exact fun complete => moved (complete.mp elsewhere).2

/-! ### Rows that share a key -/

/-- In every section, `diff_configs` loses no row exactly when the keys are unique within
each of the two lists. -/
theorem section_losesNoRow_iff (section_ : ListSection) (a b : ParsedConfig) :
    LosesNoRow (rowKey section_) (a.rows section_) (b.rows section_) (rowLabel section_)
        (orderSensitive section_) ↔
      Unique (diffKey (rowKey section_)) (a.rows section_) ∧
        Unique (diffKey (rowKey section_)) (b.rows section_) :=
  losesNoRow_iff_unique (listSection_wellNamed section_) (a.rows_conform section_)
    (b.rows_conform section_)

/-- A `<queue>` with its name, interface and bandwidth. -/
def queue (name interface bandwidth : String) : Element :=
  .mk "queue" none [.mk "name" (some name) [], .mk "interface" (some interface) [],
    .mk "bandwidth" (some bandwidth) []]

/-- The shaper that pfSense writes for a WAN and a LAN with one ACK queue each. -/
def ackQueues (wanBandwidth : String) : Element :=
  .mk "pfsense" none [.mk "shaper" none
    [.mk "queue" none [.mk "name" (some "wan") [], queue "qACK" "wan" wanBandwidth],
      .mk "queue" none [.mk "name" (some "lan") [], queue "qACK" "lan" "20"]]]

/-- The WAN's bandwidth was edited, and the diff of what `parse_shaper` reads is empty. -/
theorem ackQueues_edit_lost :
    let a := dumps (parseShaper (ackQueues "20"))
    let b := dumps (parseShaper (ackQueues "99"))
    (diffList "name" a b labelQueue false).isEmpty = true ∧ ¬a.Perm b ∧
      ¬LosesNoRow "name" a b labelQueue false := by
  have empty : (diffList "name" (dumps (parseShaper (ackQueues "20")))
      (dumps (parseShaper (ackQueues "99"))) labelQueue false).isEmpty = true := by decide
  have edited : ¬(dumps (parseShaper (ackQueues "20"))).Perm
      (dumps (parseShaper (ackQueues "99"))) := by decide
  exact ⟨empty, edited, fun complete => edited (complete.2.2 empty).1⟩

end PfsenseBackups.DiffCompleteness
