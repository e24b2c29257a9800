import PfsenseBackups.Diff
import PfsenseBackups.Labels
import PfsenseBackups.NetworkSections
import PfsenseBackups.RelativeOrder
import PfsenseBackups.Secrecy

/-! The `reordered` list of a section diff. `_diff_list` compares the positions of a row in
the two lists, and a position moves with every row added or removed above it. -/

namespace PfsenseBackups.ReorderEvents
open Value Keyed Diff Labels RelativeOrder Xml NetworkSections Secrecy

section
variable {key : String} {a b : List Dict} {labelFn : Dict → String}

/-- The keys of the rows, in the order of the list. -/
abbrev keyOrder (key : String) (rows : List Dict) : List String :=
  rows.map (diffKey key)

/-- The keys of the rows present in both lists, in the order of the first. -/
def survivors (key : String) (a b : List Dict) : List String :=
  common (keyOrder key a) (keyOrder key b)

/-- The row changed place relative to some other row present in both lists. -/
def ChangedPlace (key : String) (a b : List Dict) (k : String) : Prop :=
  Displaced (keyOrder key a) (keyOrder key b) k

/-- The rows only `a` has that stand before the row with key `k`. -/
def goneBefore (key : String) (a b : List Dict) (k : String) : Nat :=
  othersBefore (keyOrder key a) (keyOrder key b) k

/-- The rows only `b` has that stand before the row with key `k`. -/
def comeBefore (key : String) (a b : List Dict) (k : String) : Nat :=
  othersBefore (keyOrder key b) (keyOrder key a) k

instance (key : String) (a b : List Dict) (k : String) : Decidable (ChangedPlace key a b k) :=
  inferInstanceAs (Decidable (Displaced _ _ k))

theorem mem_survivors {k : String} : k ∈ survivors key a b ↔
    k ∈ keys (diffKey key) b ∧ k ∈ keys (diffKey key) a := by
  rw [survivors, mem_common, keys, keys, List.mem_dedup, List.mem_dedup, and_comm]

theorem indexAt_eq {rows : List Dict} (unique : Unique (diffKey key) rows) {k : String}
    (member : k ∈ keys (diffKey key) rows) : indexAt key rows k = (keyOrder key rows).idxOf k := by
  have listed : k ∈ keyOrder key rows := List.mem_dedup.mp member
  have bound := List.idxOf_lt_length_iff.mpr listed
  have here : (keyOrder key rows)[(keyOrder key rows).idxOf k] = k := List.getElem_idxOf bound
  have found := unique.lastIndexBy _ (by simpa using bound)
  rw [List.getElem_map] at here
  rw [here] at found
  rw [indexAt, found, Option.getD_some]

/-- The rows that `_diff_list` calls reordered are the shared rows at another position. -/
theorem mem_reordered_keys (labelFn : Dict → String) (ua : Unique (diffKey key) a)
    (ub : Unique (diffKey key) b) {k : String} : k ∈ (diffList key a b labelFn true).reordered.map ReorderEvent.key ↔
      k ∈ survivors key a b ∧ (keyOrder key a).idxOf k ≠ (keyOrder key b).idxOf k := by
  rw [List.mem_map]
  constructor
  · intro listed
    obtain ⟨event, member, rfl⟩ := listed
    obtain ⟨k, shared, moved, rfl⟩ := mem_reordered.mp member
    rw [indexAt_eq ua shared.2, indexAt_eq ub shared.1] at moved
    exact ⟨mem_survivors.mpr shared, moved.2⟩
  · intro moved
    have shared := mem_survivors.mp moved.1
    refine ⟨_, mem_reordered.mpr ⟨k, shared, ⟨rfl, ?_⟩, rfl⟩, rfl⟩
    rw [indexAt_eq ua shared.2, indexAt_eq ub shared.1]
    exact moved.2

/-- What a reader takes the list for: it is non-empty exactly when the rows present in both
lists stand in another relative order, every row it names changed place among them, and
rows that came or went around unpermuted survivors yield nothing. -/
structure MeansReordering (key : String) (a b : List Dict) (labelFn : Dict → String) :
    Prop where
  nonempty_iff : (diffList key a b labelFn true).reordered ≠ [] ↔
    survivors key a b ≠ survivors key b a
  named_moved : ∀ event ∈ (diffList key a b labelFn true).reordered,
    ChangedPlace key a b event.key
  unpermuted : survivors key a b = survivors key b a →
    (diffList key a b labelFn true).reordered = []

/-- A permutation of the survivors always shows: some survivor has another position. -/
theorem reordered_of_permuted (ua : Unique (diffKey key) a) (ub : Unique (diffKey key) b)
    (permuted : survivors key a b ≠ survivors key b a) :
    (diffList key a b labelFn true).reordered ≠ [] := by
  intro silent
  apply permuted
  apply (common_eq_iff ua ub).mpr
  intro k member
  apply not_displaced_of_idxOf_eq _ member
  intro k member
  by_contra moved
  have listed := (mem_reordered_keys labelFn ua ub).mpr ⟨member, moved⟩
  rw [silent] at listed
  cases listed

/-- The list means reordering exactly when above every survivor that changed place with no
other, as many rows went as came. -/
theorem meansReordering_iff (ua : Unique (diffKey key) a) (ub : Unique (diffKey key) b) :
    MeansReordering key a b labelFn ↔ ∀ k ∈ survivors key a b, ¬ChangedPlace key a b k →
      goneBefore key a b k = comeBefore key a b k := by
  constructor
  · intro means k member still
    apply (idxOf_eq_iff ua ub member still).mp
    by_contra moved
    have listed := (mem_reordered_keys labelFn ua ub).mpr ⟨member, moved⟩
    obtain ⟨event, named, rfl⟩ := List.mem_map.mp listed
    exact still (means.named_moved event named)
  · intro level
    have named : ∀ event ∈ (diffList key a b labelFn true).reordered,
        ChangedPlace key a b event.key := by
      intro event member
      have listed := (mem_reordered_keys labelFn ua ub).mp
        (List.mem_map_of_mem (f := ReorderEvent.key) member)
      by_contra still
      exact listed.2 ((idxOf_eq_iff ua ub listed.1 still).mpr (level _ listed.1 still))
    have unpermuted : survivors key a b = survivors key b a →
        (diffList key a b labelFn true).reordered = [] := by
      intro same
      apply List.eq_nil_iff_forall_not_mem.mpr
      intro event member
      have listed := (mem_reordered_keys labelFn ua ub).mp
        (List.mem_map_of_mem (f := ReorderEvent.key) member)
      exact (common_eq_iff ua ub).mp same _ listed.1 (named event member)
    exact ⟨⟨fun loud same => loud (unpermuted same), reordered_of_permuted ua ub⟩, named,
      unpermuted⟩

end

/-! ### A rule on top -/

/-- A rule with a tracker, for the LAN. -/
def lanRule (tracker : String) : Element :=
  .mk "rule" none [.mk "tracker" (some tracker) [], .mk "type" (some "pass") [],
    .mk "interface" (some "lan") []]

/-- A config with rules of these trackers. -/
def ruleSet (trackers : List String) : Element :=
  .mk "pfsense" none [.mk "filter" none (trackers.map lanRule)]

/-- The rules as the differ sees them. -/
def rules (trackers : List String) : List Dict :=
  (parseFirewall asciiRuntime (ruleSet trackers)).map Row.dump

/-- Two rules swapped places and one was appended: the swap alone is reported. -/
theorem swappedRules_mean :
    MeansReordering "key" (rules ["1", "2", "3"]) (rules ["2", "1", "3", "4"]) labelFirewall :=
  (meansReordering_iff (by decide) (by decide)).mpr (by decide)

/-- One rule was added at the top: the rule below it is reported as reordered. -/
theorem ruleOnTop_floods :
    (diffList "key" (rules ["1"]) (rules ["2", "1"]) labelFirewall true).reordered =
        [⟨"tracker:1", "[lan] pass:", 0, 1⟩] ∧
      ¬MeansReordering "key" (rules ["1"]) (rules ["2", "1"]) labelFirewall := by
  have flagged : (diffList "key" (rules ["1"]) (rules ["2", "1"]) labelFirewall true).reordered =
      [⟨"tracker:1", "[lan] pass:", 0, 1⟩] := by decide
  refine ⟨flagged, ?_⟩
  intro means
  have silent := means.unpermuted (by decide)
  rw [flagged] at silent
  cases silent

end PfsenseBackups.ReorderEvents
