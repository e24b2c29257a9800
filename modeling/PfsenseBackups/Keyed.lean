import Mathlib.Data.List.Dedup
import Mathlib.Data.List.Perm.Basic
import Mathlib.Data.List.NodupEquivFin

/-! Rows indexed by a key, as a dict comprehension `{key(r): r for r in rows}` indexes
them: where several rows share a key, the last one stays. -/

namespace PfsenseBackups.Keyed

variable {α κ : Type*} (key : α → κ)

/-- No two rows share a key. -/
abbrev Unique (rows : List α) : Prop :=
  (rows.map key).Nodup

variable {key}

theorem Unique.injOn {rows : List α} (unique : Unique key rows) {x y : α} (hx : x ∈ rows)
    (hy : y ∈ rows) (same : key x = key y) : x = y :=
  List.inj_on_of_nodup_map unique hx hy same

theorem Unique.nodup {rows : List α} (unique : Unique key rows) : rows.Nodup :=
  List.Nodup.of_map key unique

theorem Unique.of_perm {a b : List α} (unique : Unique key a) (perm : a.Perm b) :
    Unique key b :=
  (perm.map key).nodup unique

variable [DecidableEq κ] (key)

/-- The row that the dict holds under `k`. -/
def lastBy (rows : List α) (k : κ) : Option α :=
  (rows.filter fun row => key row = k).getLast?

/-- The keys of the dict, each once. -/
def keys (rows : List α) : List κ :=
  (rows.map key).dedup

variable {key}

theorem mem_keys {rows : List α} {k : κ} : k ∈ keys key rows ↔ ∃ row ∈ rows, key row = k := by
  simp [keys]

theorem keys_nodup (rows : List α) : (keys key rows).Nodup :=
  List.nodup_dedup _

theorem lastBy_spec {rows : List α} {k : κ} {row : α} (found : lastBy key rows k = some row) :
    row ∈ rows ∧ key row = k := by
  have member := List.mem_of_getLast? found
  simpa using member

theorem lastBy_isSome {rows : List α} {k : κ} (member : k ∈ keys key rows) :
    ∃ row, lastBy key rows k = some row := by
  obtain ⟨row, present, same⟩ := mem_keys.mp member
  have inside : row ∈ rows.filter fun row => key row = k := by simp [present, same]
  exact ⟨_, List.getLast?_eq_some_getLast (List.ne_nil_of_mem inside)⟩

theorem lastBy_eq_none {rows : List α} {k : κ} (absent : k ∉ keys key rows) :
    lastBy key rows k = none := by
  cases found : lastBy key rows k with
  | none => rfl
  | some row =>
    obtain ⟨member, same⟩ := lastBy_spec found
    exact (absent (mem_keys.mpr ⟨row, member, same⟩)).elim

theorem lastBy_append (rows later : List α) (k : κ) :
    lastBy key (rows ++ later) k = (lastBy key later k).or (lastBy key rows k) := by
  rw [lastBy, List.filter_append, List.getLast?_append]
  rfl

theorem lastBy_map {β : Type*} (f : β → α) (rows : List β) (k : κ) :
    lastBy key (rows.map f) k = (lastBy (fun row => key (f row)) rows k).map f := by
  rw [lastBy, List.filter_map, List.getLast?_map]
  rfl

/-- The last row under a coarser key is the last one under its own key. -/
theorem lastBy_of_comp {μ : Type*} [DecidableEq μ] {coarse : κ → μ} {rows : List α} {m : μ}
    {row : α} (found : Keyed.lastBy (fun row => coarse (key row)) rows m = some row) :
    lastBy key rows (key row) = some row := by
  have same : coarse (key row) = m := (lastBy_spec found).2
  have inner : (rows.filter fun other => key other = key row) =
      (rows.filter fun other => coarse (key other) = m).filter fun other => key other = key row := by
    rw [List.filter_filter]
    refine List.filter_congr fun other _ => ?_
    by_cases equal : key other = key row <;> simp [equal, same]
  obtain ⟨front, whole⟩ := List.getLast?_eq_some_iff.mp found
  rw [lastBy, inner, whole]
  simp

theorem Unique.lastBy {rows : List α} (unique : Unique key rows) {row : α}
    (member : row ∈ rows) : Keyed.lastBy key rows (key row) = some row := by
  have listed : key row ∈ keys key rows := mem_keys.mpr ⟨row, member, rfl⟩
  obtain ⟨found, spec⟩ := lastBy_isSome listed
  obtain ⟨inside, same⟩ := lastBy_spec spec
  rw [spec, unique.injOn inside member same]

theorem Unique.lastBy_eq_some {rows : List α} (unique : Unique key rows) {k : κ} {row : α} :
    Keyed.lastBy key rows k = some row ↔ row ∈ rows ∧ key row = k := by
  constructor
  · exact lastBy_spec
  · rintro ⟨member, rfl⟩
    exact unique.lastBy member

/-- Counting keys counts rows exactly when no key repeats. -/
theorem length_keys_eq_iff (rows : List α) :
    (keys key rows).length = rows.length ↔ Unique key rows := by
  constructor
  · intro full
    have sub := List.dedup_sublist (rows.map key)
    have same : (rows.map key).dedup = rows.map key :=
      sub.eq_of_length (by simpa [keys] using full)
    rw [Unique, ← same]
    exact List.nodup_dedup _
  · intro unique
    simp [keys, List.Nodup.dedup unique]

/-- Uniquely keyed rows are determined, up to order, by the dict. -/
theorem Unique.perm_iff {a b : List α} (ua : Unique key a) (ub : Unique key b) :
    a.Perm b ↔ ∀ k, Keyed.lastBy key a k = Keyed.lastBy key b k := by
  constructor
  · intro perm k
    apply Option.ext
    intro row
    rw [ua.lastBy_eq_some, ub.lastBy_eq_some, perm.mem_iff]
  · intro same
    apply (List.perm_ext_iff_of_nodup ua.nodup ub.nodup).mpr
    intro row
    have left : Keyed.lastBy key a (key row) = some row ↔ row ∈ a ∧ key row = key row :=
      ua.lastBy_eq_some
    have right : Keyed.lastBy key b (key row) = some row ↔ row ∈ b ∧ key row = key row :=
      ub.lastBy_eq_some
    simp only [and_true] at left right
    rw [← left, ← right, same]

/-! ### Two dicts side by side -/

variable (key)

/-- `after.keys() - before.keys()`. -/
def newKeys (before after : List α) : List κ :=
  (keys key after).filter fun k => k ∉ keys key before

/-- `before.keys() & after.keys()`. -/
def sharedKeys (before after : List α) : List κ :=
  (keys key after).filter fun k => k ∈ keys key before

variable {key}

theorem mem_newKeys {before after : List α} {k : κ} :
    k ∈ newKeys key before after ↔ k ∈ keys key after ∧ k ∉ keys key before := by
  simp [newKeys]

theorem mem_sharedKeys {before after : List α} {k : κ} :
    k ∈ sharedKeys key before after ↔ k ∈ keys key after ∧ k ∈ keys key before := by
  simp [sharedKeys]

theorem sharedKeys_nodup (before after : List α) : (sharedKeys key before after).Nodup :=
  (keys_nodup after).filter _

theorem sharedKeys_perm (before after : List α) :
    (sharedKeys key before after).Perm (sharedKeys key after before) := by
  apply (List.perm_ext_iff_of_nodup (sharedKeys_nodup _ _) (sharedKeys_nodup _ _)).mpr
  intro k
  rw [mem_sharedKeys, mem_sharedKeys, and_comm]

theorem length_newKeys_add_sharedKeys (before after : List α) :
    (newKeys key before after).length + (sharedKeys key before after).length =
      (keys key after).length := by
  have split := List.length_eq_length_filter_add (l := keys key after)
    (fun k => decide (k ∈ keys key before))
  simp only [newKeys, sharedKeys, decide_not]
  omega

/-! ### Positions -/

variable (key)

/-- `{key(r): i for i, r in enumerate(rows)}[k]`. -/
def lastIndexBy (rows : List α) (k : κ) : Option Nat :=
  (lastBy (fun entry => key entry.1) rows.zipIdx k).map (·.2)

variable {key}

omit [DecidableEq κ] in
private theorem map_key_zipIdx (rows : List α) :
    rows.zipIdx.map (fun entry => key entry.1) = rows.map key := by
  rw [show (fun entry : α × Nat => key entry.1) = key ∘ Prod.fst from rfl, ← List.map_map,
    List.zipIdx_map_fst]

omit [DecidableEq κ] in
private theorem Unique.zipIdx {rows : List α} (unique : Unique key rows) :
    Unique (fun entry : α × Nat => key entry.1) rows.zipIdx := by
  rw [Unique, map_key_zipIdx]
  exact unique

theorem lastIndexBy_isSome {rows : List α} {k : κ} (member : k ∈ keys key rows) :
    ∃ i, lastIndexBy key rows k = some i := by
  have listed : k ∈ keys (fun entry : α × Nat => key entry.1) rows.zipIdx := by
    rw [keys, map_key_zipIdx]
    exact member
  obtain ⟨entry, found⟩ := lastBy_isSome listed
  exact ⟨entry.2, by rw [lastIndexBy, found, Option.map_some]⟩

theorem Unique.lastIndexBy {rows : List α} (unique : Unique key rows) (i : Nat)
    (bound : i < rows.length) : Keyed.lastIndexBy key rows (key rows[i]) = some i := by
  have member : (rows[i], i) ∈ rows.zipIdx := by
    rw [List.mk_mem_zipIdx_iff_getElem?]
    exact List.getElem?_eq_getElem bound
  have found := unique.zipIdx.lastBy member
  simp only [Keyed.lastIndexBy, found, Option.map_some]

/-- Same rows at the same positions: the lists are equal. -/
theorem Unique.eq_of_lastIndexBy {a b : List α} (ua : Unique key a) (ub : Unique key b)
    (perm : a.Perm b)
    (same : ∀ k ∈ keys key a, Keyed.lastIndexBy key a k = Keyed.lastIndexBy key b k) : a = b := by
  apply List.ext_getElem perm.length_eq
  intro i left right
  obtain ⟨j, bound, at_j⟩ := List.getElem_of_mem (perm.mem_iff.mp (List.getElem_mem left))
  have indexA := ua.lastIndexBy i left
  have indexB := ub.lastIndexBy j bound
  have agree := same (key a[i]) (mem_keys.mpr ⟨a[i], List.getElem_mem left, rfl⟩)
  rw [indexA, ← at_j, indexB, Option.some.injEq] at agree
  subst agree
  exact at_j.symm

end PfsenseBackups.Keyed
