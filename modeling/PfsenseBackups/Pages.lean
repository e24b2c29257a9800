import Mathlib.Data.List.Nodup
import Mathlib.Order.Lattice

/-! A listing read page by page with a key as the cursor: the next page holds the entries whose key
is below that of the last entry seen. The listing itself may have any order. -/

namespace PfsenseBackups.Pages

variable {α ι : Type*} [LinearOrder ι] (key : α → ι) (limit : Nat)

/-- The pages of a listing, one after the other, to the first one with nothing left over. -/
inductive Paged : List α → List α → Prop where
  | last {listing : List α} (fits : listing.length ≤ limit) : Paged listing listing
  | more {front rest listed : List α} {final : α} (full : front.length + 1 = limit)
    (left : rest ≠ []) (next : Paged
      ((front ++ final :: rest).filter fun entry => key entry < key final) listed) :
    Paged (front ++ final :: rest) (front ++ final :: listed)

/-- At each border between two pages the entry before it has the least key so far, and the entries
behind it have lesser ones. -/
def Bordered (listing : List α) : Prop :=
  ∀ front final rest, listing = front ++ final :: rest → rest ≠ [] →
    limit ∣ front.length + 1 →
      (∀ entry ∈ front, key final < key entry) ∧ ∀ entry ∈ rest, key entry < key final

variable {key limit}

theorem bordered_of_descending {listing : List α}
    (descending : listing.Pairwise fun entry later => key later < key entry) :
    Bordered key limit listing := by
  rintro front final rest rfl - -
  rw [List.pairwise_append, List.pairwise_cons] at descending
  obtain ⟨-, ⟨behind, -⟩, across⟩ := descending
  exact ⟨fun entry member => across entry member final List.mem_cons_self, behind⟩

/-- Pages of one entry each need the keys to descend. -/
theorem bordered_one_iff {listing : List α} :
    Bordered key 1 listing ↔ listing.Pairwise fun entry later => key later < key entry := by
  constructor
  · intro bordered
    induction listing with
    | nil => exact List.Pairwise.nil
    | cons first rest ih =>
      refine List.pairwise_cons.mpr ⟨fun entry member => ?_, ih ?_⟩
      · have some : rest ≠ [] := List.ne_nil_of_mem member
        exact (bordered [] first rest rfl some (Nat.one_dvd _)).2 entry member
      · intro front final back split left _
        have split' : first :: rest = first :: front ++ final :: back := by rw [split]; rfl
        have border := bordered (first :: front) final back split' left (Nat.one_dvd _)
        exact ⟨fun entry member => border.1 entry (List.mem_cons_of_mem _ member), border.2⟩
  · exact bordered_of_descending

/-! ### The end of the pages -/

theorem exists_split {listing : List α} (positive : 0 < limit) (longer : limit < listing.length) :
    ∃ front final rest, listing = front ++ final :: rest ∧ front.length + 1 = limit ∧
      rest ≠ [] := by
  have inside : limit - 1 < listing.length := by omega
  refine ⟨listing.take (limit - 1), listing[limit - 1], listing.drop limit, ?_, ?_, ?_⟩
  · have step := List.drop_eq_getElem_cons inside
    rw [Nat.sub_add_cancel positive] at step
    rw [← step, List.take_append_drop]
  · rw [List.length_take]
    omega
  · intro none
    have short := List.drop_eq_nil_iff.mp none
    omega

theorem take_page {front rest : List α} {final : α} (full : front.length + 1 = limit) :
    (front ++ final :: rest).take limit = front ++ [final] := by
  rw [← full, List.take_append, List.take_of_length_le (Nat.le_succ _), Nat.add_sub_cancel_left]
  rfl

theorem shorter (front rest : List α) (final : α) :
    ((front ++ final :: rest).filter fun entry => key entry < key final).length <
      (front ++ final :: rest).length := by
  refine List.length_filter_lt_length_iff_exists.mpr ⟨final, by simp, by simp⟩

/-- Every listing comes to an end. -/
theorem exists_paged (positive : 0 < limit) (listing : List α) :
    ∃ listed, Paged key limit listing listed := by
  induction count : listing.length using Nat.strongRecOn generalizing listing with
  | _ count ih =>
    subst count
    by_cases fits : listing.length ≤ limit
    · exact ⟨listing, .last fits⟩
    · obtain ⟨front, final, rest, rfl, full, left⟩ :=
        exists_split positive (Nat.lt_of_not_le fits)
      have less := @shorter _ _ _ key front rest final
      obtain ⟨listed, next⟩ := ih _ less _ rfl
      exact ⟨front ++ final :: listed, .more full left next⟩

/-! ### What the pages list -/

theorem Paged.subset {listing listed : List α} (paged : Paged key limit listing listed) :
    listed ⊆ listing := by
  induction paged with
  | last fits => exact List.Subset.refl _
  | more full left next ih =>
    intro entry member
    rcases List.mem_append.mp member with before | behind
    · exact List.mem_append_left _ before
    · rcases List.mem_cons.mp behind with rfl | later
      · exact List.mem_append_right _ List.mem_cons_self
      · exact List.mem_of_mem_filter (ih later)

theorem Paged.head {listing listed : List α} (paged : Paged key limit listing listed) :
    listed.head? = listing.head? := by
  cases paged with
  | last fits => rfl
  | @more front rest listed final full left next => cases front <;> rfl

/-- Behind a border the rest of the listing is left. -/
theorem filter_border {front rest : List α} {final : α}
    (before : ∀ entry ∈ front, key final < key entry)
    (behind : ∀ entry ∈ rest, key entry < key final) :
    ((front ++ final :: rest).filter fun entry => key entry < key final) = rest := by
  rw [List.filter_append, List.filter_cons_of_neg (by simp),
    List.filter_eq_nil_iff.mpr fun entry member => by simpa using (before entry member).le,
    List.filter_eq_self.mpr fun entry member => by simpa using behind entry member, List.nil_append]

theorem Bordered.rest {front rest : List α} {final : α} (full : front.length + 1 = limit)
    (bordered : Bordered key limit (front ++ final :: rest)) : Bordered key limit rest := by
  rintro front' final' rest' rfl left border
  have border' : limit ∣ (front ++ final :: front').length + 1 := by
    have length : (front ++ final :: front').length + 1 = limit + (front'.length + 1) := by
      rw [List.length_append, List.length_cons]
      omega
    rw [length]
    exact Nat.dvd_add (Nat.dvd_refl _) border
  have deeper := bordered (front ++ final :: front') final' rest' (by simp) left border'
  exact ⟨fun entry member => deeper.1 entry (by simp [member]), deeper.2⟩

theorem Bordered.of_rest {front rest : List α} {final : α} (full : front.length + 1 = limit)
    (before : ∀ entry ∈ front, key final < key entry)
    (behind : ∀ entry ∈ rest, key entry < key final) (bordered : Bordered key limit rest) :
    Bordered key limit (front ++ final :: rest) := by
  intro front' final' rest' split left border
  have long : limit ≤ front'.length + 1 := Nat.le_of_dvd (Nat.succ_pos _) border
  rcases List.append_eq_append_iff.mp split with ⟨between, whole, parts⟩ | ⟨between, whole, parts⟩
  · cases between with
    | nil =>
      -- The border is the first one.
      rw [List.append_nil] at whole
      rw [List.nil_append, List.cons.injEq] at parts
      obtain ⟨rfl, rfl⟩ := parts
      rw [whole]
      exact ⟨before, behind⟩
    | cons first between =>
      rw [List.cons_append, List.cons.injEq] at parts
      obtain ⟨rfl, rfl⟩ := parts
      have border' : limit ∣ between.length + 1 := by
        have length : front'.length + 1 = limit + (between.length + 1) := by
          rw [whole, List.length_append, List.length_cons]
          omega
        rw [length] at border
        exact (Nat.dvd_add_right (Nat.dvd_refl _)).mp border
      have deeper := bordered between final' rest' rfl left border'
      have above : key final' < key final := behind final' (by simp)
      refine ⟨fun entry member => ?_, deeper.2⟩
      rw [whole, List.mem_append, List.mem_cons] at member
      rcases member with early | rfl | late
      · exact above.trans (before entry early)
      · exact above
      · exact deeper.1 entry late
  · have none : between = [] := by
      have length := congrArg List.length whole
      rw [List.length_append] at length
      exact List.eq_nil_of_length_eq_zero (by omega)
    rw [none, List.append_nil] at whole
    rw [none, List.nil_append, List.cons.injEq] at parts
    obtain ⟨rfl, rfl⟩ := parts
    rw [← whole]
    exact ⟨before, behind⟩

/-- Where the keys respect the borders, the pages are the listing. -/
theorem Paged.eq_of_bordered {listing listed : List α} (paged : Paged key limit listing listed)
    (bordered : Bordered key limit listing) : listed = listing := by
  induction paged with
  | last fits => rfl
  | @more front rest listed final full left next ih =>
    obtain ⟨before, behind⟩ := bordered front final rest rfl left (full ▸ Nat.dvd_refl _)
    rw [filter_border before behind] at ih
    rw [ih (bordered.rest full)]

/-- Otherwise some entry is missing or listed twice. -/
theorem Paged.bordered_of_perm {listing listed : List α} (paged : Paged key limit listing listed)
    (unique : (listing.map key).Nodup) (perm : listed.Perm listing) :
    Bordered key limit listing := by
  induction paged with
  | @last listing fits =>
    rintro front final rest rfl left border
    have long := Nat.le_of_dvd (Nat.succ_pos _) border
    have some := List.length_pos_iff.mpr left
    rw [List.length_append, List.length_cons] at fits
    omega
  | @more front rest listed final full left next ih =>
    have perm' : listed.Perm rest := (List.perm_append_left_iff front).mp perm |>.cons_inv
    have behind : ∀ entry ∈ rest, key entry < key final := fun entry member => by
      simpa using List.of_mem_filter (next.subset (perm'.mem_iff.mpr member))
    -- An entry of the page with a lesser key would open the next page and be listed again.
    have none : (front.filter fun entry => key entry < key final) = [] := by
      by_contra some
      obtain ⟨again, others, found⟩ := List.exists_cons_of_ne_nil some
      have opened := next.head
      rw [List.filter_append, found, List.cons_append, List.head?_cons] at opened
      have twice : again ∈ rest := perm'.mem_iff.mp (List.mem_of_mem_head? opened)
      have seen : again ∈ front :=
        List.mem_of_mem_filter (found ▸ List.mem_cons_self : again ∈ front.filter _)
      rw [List.map_append, List.nodup_append] at unique
      exact unique.2.2 _ (List.mem_map_of_mem seen) _
        (List.mem_map_of_mem (List.mem_cons_of_mem _ twice)) rfl
    have before : ∀ entry ∈ front, key final < key entry := by
      intro entry member
      have above : key final ≤ key entry := by
        simpa using List.filter_eq_nil_iff.mp none entry member
      refine lt_of_le_of_ne above fun same => ?_
      rw [List.map_append, List.nodup_append] at unique
      exact unique.2.2 _ (List.mem_map_of_mem member) _ List.mem_cons_self same.symm
    rw [filter_border before behind] at ih
    rw [List.map_append, List.map_cons, List.nodup_append, List.nodup_cons] at unique
    exact .of_rest full before behind (ih unique.2.1.2 perm')

theorem Paged.perm_iff {listing listed : List α} (paged : Paged key limit listing listed)
    (unique : (listing.map key).Nodup) : listed.Perm listing ↔ Bordered key limit listing :=
  ⟨paged.bordered_of_perm unique, fun bordered => .of_eq (paged.eq_of_bordered bordered)⟩

end PfsenseBackups.Pages
