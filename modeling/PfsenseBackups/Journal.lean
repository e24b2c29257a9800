import PfsenseBackups.Keyed
import Mathlib.Logic.Function.Basic

/-! A keyed store and the journal it is rebuilt from. Between two snapshots, rows have an
identity and, apart from it, the key that the store files them under; the journal of a
step is right exactly when no surviving row leaves a store key behind. -/

namespace PfsenseBackups.Journal
open Keyed

variable {ι ρ : Type*} [DecidableEq ι]

abbrev Store (ι ρ : Type*) := ι → Option ρ

inductive Entry (ι ρ : Type*) where
  | put (key : ι) (row : ρ)
  | erase (key : ι)

def Entry.key : Entry ι ρ → ι
  | put key _ => key
  | erase key => key

/-- What the store holds under an entry's key afterwards. -/
def Entry.result : Entry ι ρ → Option ρ
  | put _ row => some row
  | erase _ => none

def apply (store : Store ι ρ) (entry : Entry ι ρ) : Store ι ρ :=
  Function.update store entry.key entry.result

def replay (entries : List (Entry ι ρ)) (store : Store ι ρ) : Store ι ρ :=
  entries.foldl apply store

@[simp] theorem replay_nil (store : Store ι ρ) : replay [] store = store := rfl

@[simp] theorem replay_cons (entry : Entry ι ρ) (rest : List (Entry ι ρ)) (store : Store ι ρ) :
    replay (entry :: rest) store = replay rest (apply store entry) := rfl

theorem replay_append (first second : List (Entry ι ρ)) (store : Store ι ρ) :
    replay (first ++ second) store = replay second (replay first store) :=
  List.foldl_append

/-- A key no entry names keeps its row. -/
theorem replay_untouched {entries : List (Entry ι ρ)} {k : ι}
    (untouched : ∀ entry ∈ entries, entry.key ≠ k) (store : Store ι ρ) :
    replay entries store k = store k := by
  induction entries generalizing store with
  | nil => rfl
  | cons entry rest ih =>
    rw [replay_cons, ih (fun later member => untouched later (List.mem_cons_of_mem _ member))]
    exact Function.update_of_ne (untouched entry List.mem_cons_self).symm _ _

/-- When all entries for a key agree, the store holds what they say. -/
theorem replay_agreed {entries : List (Entry ι ρ)} {k : ι} {result : Option ρ}
    (agreed : ∀ entry ∈ entries, entry.key = k → entry.result = result)
    (named : ∃ entry ∈ entries, entry.key = k) (store : Store ι ρ) :
    replay entries store k = result := by
  induction entries generalizing store with
  | nil =>
    obtain ⟨entry, member, -⟩ := named
    cases member
  | cons entry rest ih =>
    rw [replay_cons]
    have later : ∀ other ∈ rest, other.key = k → other.result = result :=
      fun other member => agreed other (List.mem_cons_of_mem _ member)
    by_cases again : ∃ other ∈ rest, other.key = k
    · exact ih later again _
    · have untouched : ∀ other ∈ rest, other.key ≠ k :=
        fun other member same => again ⟨other, member, same⟩
      obtain ⟨first, member, same⟩ := named
      rcases List.mem_cons.mp member with rfl | inside
      · rw [replay_untouched untouched, apply, same, Function.update_self]
        exact agreed first List.mem_cons_self same
      · exact (again ⟨first, inside, same⟩).elim

/-! ### Changes of rows -/

section Changes

variable {τ : Type*} (key : τ → ι) (change : τ → ρ → Option ρ)

/-- The store after each change is made to the row under its key; `none` where the row or the
change is missing. -/
def alter : List τ → Store ι ρ → Option (Store ι ρ)
  | [], store => some store
  | item :: rest, store => ((store (key item)).bind (change item)).bind fun changed =>
      alter rest (Function.update store (key item) (some changed))

variable {key change}

/-- Changes under distinct keys are made independently of each other. -/
theorem alter_eq {items : List τ} (distinct : (items.map key).Nodup) {store goal : Store ι ρ}
    (changes : ∀ item ∈ items, ∃ row, store (key item) = some row ∧
      ∃ changed, change item row = some changed ∧ goal (key item) = some changed)
    (others : ∀ k, k ∉ items.map key → store k = goal k) :
    alter key change items store = some goal := by
  induction items generalizing store with
  | nil =>
    have same : store = goal := funext fun k => others k (by simp)
    rw [alter, same]
  | cons item rest ih =>
    obtain ⟨row, held, changed, made, reached⟩ := changes item List.mem_cons_self
    rw [List.map_cons, List.nodup_cons] at distinct
    rw [alter, held, Option.bind_some, made, Option.bind_some]
    apply ih distinct.2
    · intro other member
      have apart : key other ≠ key item := fun same =>
        distinct.1 (same ▸ List.mem_map_of_mem member)
      rw [Function.update_of_ne apart]
      exact changes other (List.mem_cons_of_mem _ member)
    · intro k absent
      by_cases same : k = key item
      · rw [same, Function.update_self, reached]
      · rw [Function.update_of_ne same]
        exact others k (by simpa [same] using absent)

end Changes

/-! ### Snapshots -/

variable (file : ρ → ι)

/-- The store that files each row of a snapshot under its key. -/
def snapshot (rows : List ρ) : Store ι ρ :=
  replay (rows.map fun row => .put (file row) row) fun _ => none

variable {file}

theorem snapshot_of_mem {rows : List ρ} (unique : Unique file rows) {row : ρ}
    (member : row ∈ rows) : snapshot file rows (file row) = some row := by
  apply replay_agreed
  · intro entry listed same
    obtain ⟨other, inside, rfl⟩ := List.mem_map.mp listed
    rw [unique.injOn inside member same]
    rfl
  · exact ⟨.put (file row) row, List.mem_map.mpr ⟨row, member, rfl⟩, rfl⟩

theorem snapshot_of_absent {rows : List ρ} {k : ι} (absent : ∀ row ∈ rows, file row ≠ k) :
    snapshot file rows k = none := by
  apply replay_untouched
  intro entry listed
  obtain ⟨row, member, rfl⟩ := List.mem_map.mp listed
  exact absent row member

/-- A step's journal: it erases the rows whose identity is gone, and then puts rows of the
later snapshot, at least all those that the earlier one did not have. -/
structure Records {κ : Type*} (identity : ρ → κ) (file : ρ → ι) (before after : List ρ)
    (erasures puts : List (Entry ι ρ)) : Prop where
  erased : ∀ entry, entry ∈ erasures ↔ ∃ row ∈ before,
    (∀ other ∈ after, identity other ≠ identity row) ∧ entry = .erase (file row)
  putsNew : ∀ row ∈ after, row ∉ before → Entry.put (file row) row ∈ puts
  putsOnly : ∀ entry ∈ puts, ∃ row ∈ after, entry = .put (file row) row

/-- A row whose identity survives was filed under a key that the later snapshot still uses. -/
def SurvivorsFiled {κ : Type*} (identity : ρ → κ) (file : ρ → ι) (before after : List ρ) : Prop :=
  ∀ row ∈ before, (∃ other ∈ after, identity other = identity row) →
    ∃ other ∈ after, file other = file row

section Step

variable {κ : Type*} {identity : ρ → κ} {before after : List ρ} {erasures puts : List (Entry ι ρ)}

/-- Under a key of the later snapshot the replay holds that snapshot's row. -/
private theorem replay_at_filed (records : Records identity file before after erasures puts)
    (ub : Unique file before) (ua : Unique file after) {row : ρ} (member : row ∈ after) :
    replay (erasures ++ puts) (snapshot file before) (file row) = some row := by
  rw [replay_append]
  have agreed : ∀ entry ∈ puts, entry.key = file row → entry.result = some row := by
    intro entry listed same
    obtain ⟨other, inside, rfl⟩ := records.putsOnly entry listed
    rw [ua.injOn inside member same]
    rfl
  by_cases written : ∃ entry ∈ puts, entry.key = file row
  · exact replay_agreed agreed written _
  · -- No entry wrote the row, so it was there before, and it is not erased.
    have old : row ∈ before := by
      by_contra new
      exact written ⟨_, records.putsNew row member new, rfl⟩
    rw [replay_untouched (fun entry listed same => written ⟨entry, listed, same⟩)]
    rw [replay_untouched, snapshot_of_mem ub old]
    intro entry listed same
    obtain ⟨gone, inside, lost, rfl⟩ := (records.erased entry).mp listed
    rw [ub.injOn inside old same] at lost
    exact lost row member rfl

/-- Under any other key only a surviving row can be left. -/
private theorem replay_at_other (records : Records identity file before after erasures puts)
    (ub : Unique file before) {k : ι} (other : ∀ row ∈ after, file row ≠ k) :
    replay (erasures ++ puts) (snapshot file before) k = none ↔
      ∀ row ∈ before, file row = k → ∀ later ∈ after, identity later ≠ identity row := by
  rw [replay_append]
  have unwritten : ∀ entry ∈ puts, entry.key ≠ k := by
    intro entry listed
    obtain ⟨row, inside, rfl⟩ := records.putsOnly entry listed
    exact other row inside
  rw [replay_untouched unwritten]
  by_cases filed : ∃ row ∈ before, file row = k
  · obtain ⟨row, member, rfl⟩ := filed
    by_cases lost : ∀ later ∈ after, identity later ≠ identity row
    · have erased : replay erasures (snapshot file before) (file row) = none := by
        apply replay_agreed
        · intro entry listed _
          obtain ⟨gone, -, -, rfl⟩ := (records.erased entry).mp listed
          rfl
        · exact ⟨_, (records.erased _).mpr ⟨row, member, lost, rfl⟩, rfl⟩
      simp only [erased, true_iff]
      intro again inside same
      rw [ub.injOn inside member same]
      exact lost
    · have kept : replay erasures (snapshot file before) (file row) = some row := by
        rw [replay_untouched, snapshot_of_mem ub member]
        intro entry listed same
        obtain ⟨gone, inside, spec, rfl⟩ := (records.erased entry).mp listed
        rw [ub.injOn inside member same] at spec
        exact lost spec
      simp only [kept, reduceCtorEq, false_iff]
      exact fun all => lost (all row member rfl)
  · have empty : replay erasures (snapshot file before) k = none := by
      rw [replay_untouched]
      · exact snapshot_of_absent fun row member same => filed ⟨row, member, same⟩
      · intro entry listed same
        obtain ⟨gone, inside, -, rfl⟩ := (records.erased entry).mp listed
        exact filed ⟨gone, inside, same⟩
    simp only [empty, true_iff]
    exact fun row member same => (filed ⟨row, member, same⟩).elim

/-- Replaying a step's journal gives the later snapshot exactly when no survivor is left
under a key that the later snapshot does not use. -/
theorem replay_step_iff (records : Records identity file before after erasures puts)
    (ub : Unique file before) (ua : Unique file after) :
    replay (erasures ++ puts) (snapshot file before) = snapshot file after ↔
      SurvivorsFiled identity file before after := by
  constructor
  · intro right row member survives
    by_contra left_out
    have other : ∀ later ∈ after, file later ≠ file row :=
      fun later inside same => left_out ⟨later, inside, same⟩
    have empty : replay (erasures ++ puts) (snapshot file before) (file row) = none := by
      rw [right]
      exact snapshot_of_absent other
    obtain ⟨later, inside, same⟩ := survives
    exact (replay_at_other records ub other).mp empty row member rfl later inside same
  · intro filed
    funext k
    by_cases used : ∃ row ∈ after, file row = k
    · obtain ⟨row, member, rfl⟩ := used
      rw [replay_at_filed records ub ua member, snapshot_of_mem ua member]
    · have other : ∀ row ∈ after, file row ≠ k := fun row member same => used ⟨row, member, same⟩
      rw [snapshot_of_absent other, replay_at_other records ub other]
      rintro row member rfl later inside same
      obtain ⟨late, present, at_key⟩ := filed row member ⟨later, inside, same⟩
      exact other late present at_key

end Step

end PfsenseBackups.Journal
