import Mathlib.Data.List.Sort

/-! Selections from a list, and those which come to the same whether or not an earlier selection
has already thinned the list out. -/

namespace PfsenseBackups.Selections

variable {α β : Type*}

/-- A selection that its chosen elements decide: to leave out others changes nothing, and what is
chosen stays chosen among fewer. -/
structure Stable (select : List α → List α) : Prop where
  mem : ∀ {elements chosen}, chosen ∈ select elements → chosen ∈ elements
  outcast : ∀ {elements} {keep : α → Bool}, (∀ chosen ∈ select elements, keep chosen) →
    select (elements.filter keep) = select elements
  heritage : ∀ {elements} {keep : α → Bool} {chosen}, chosen ∈ select elements → keep chosen →
    chosen ∈ select (elements.filter keep)

/-- The first element of each group, outside the groups seen before. -/
def firsts [DecidableEq β] (group : α → β) : List β → List α → List α
  | _, [] => []
  | seen, element :: rest =>
    if group element ∈ seen then firsts group seen rest
    else element :: firsts group (group element :: seen) rest

/-! ### Stable selections -/

theorem Stable.take (count : Nat) : Stable (List.take count : List α → List α) where
  mem := List.mem_of_mem_take
  outcast := by
    intro elements keep kept
    induction elements generalizing count with
    | nil => rfl
    | cons element rest ih =>
      cases count with
      | zero => simp
      | succ count =>
        simp only [List.take_succ_cons, List.mem_cons, forall_eq_or_imp] at kept
        rw [List.filter_cons_of_pos kept.1, List.take_succ_cons, List.take_succ_cons, ih count kept.2]
  heritage := by
    intro elements keep chosen member kept
    induction elements generalizing count with
    | nil => simp at member
    | cons element rest ih =>
      cases count with
      | zero => simp at member
      | succ count =>
        by_cases same : keep element = true
        · rw [List.filter_cons_of_pos same, List.take_succ_cons, List.mem_cons]
          rw [List.take_succ_cons, List.mem_cons] at member
          exact member.imp_right (ih count)
        · rw [List.filter_cons_of_neg same]
          rw [List.take_succ_cons, List.mem_cons] at member
          rcases member with rfl | member
          · exact absurd kept same
          · exact List.take_subset_take_left _ (Nat.le_succ count) (ih count member)

theorem Stable.all : Stable (id : List α → List α) where
  mem := id
  outcast := fun kept => List.filter_eq_self.mpr kept
  heritage := fun member kept => List.mem_filter.mpr ⟨member, kept⟩

theorem firsts_subset [DecidableEq β] (group : α → β) (seen : List β) (elements : List α) :
    firsts group seen elements ⊆ elements := by
  induction elements generalizing seen with
  | nil => exact fun _ member => member
  | cons element rest ih =>
    rw [firsts]
    split
    · exact fun _ member => List.mem_cons_of_mem _ (ih seen member)
    · exact List.cons_subset_cons _ (ih _)

/-- What keeps the groups keeps the choice. -/
theorem firsts_map [DecidableEq β] {group : α → β} {change : α → α}
    (same : ∀ element, group (change element) = group element) (seen : List β)
    (elements : List α) :
    firsts group seen (elements.map change) = (firsts group seen elements).map change := by
  induction elements generalizing seen with
  | nil => rfl
  | cons element rest ih =>
    rw [List.map_cons, firsts, firsts, same]
    split
    · exact ih seen
    · rw [ih, List.map_cons]

/-- To have seen more groups leaves fewer to choose from. -/
theorem firsts_anti [DecidableEq β] {group : α → β} {seen wider : List β} (wide : seen ⊆ wider)
    (elements : List α) : firsts group wider elements ⊆ firsts group seen elements := by
  induction elements generalizing seen wider with
  | nil => exact fun _ member => member
  | cons element rest ih =>
    rw [firsts, firsts]
    by_cases known : group element ∈ seen
    · rw [if_pos known, if_pos (wide known)]
      exact ih wide
    · rw [if_neg known]
      split
      case isTrue later =>
        exact fun _ member => List.mem_cons_of_mem _
          (ih (List.cons_subset.mpr ⟨later, wide⟩) member)
      · exact List.cons_subset_cons _ (ih (List.cons_subset_cons _ wide))

theorem Stable.firsts [DecidableEq β] (group : α → β) (seen : List β) :
    Stable (firsts group seen) where
  mem := fun member => firsts_subset group seen _ member
  outcast := by
    intro elements keep kept
    induction elements generalizing seen with
    | nil => rfl
    | cons element rest ih =>
      rw [Selections.firsts] at kept ⊢
      by_cases known : group element ∈ seen
      · rw [if_pos known] at kept ⊢
        by_cases same : keep element = true
        · rw [List.filter_cons_of_pos same, Selections.firsts, if_pos known, ih seen kept]
        · rw [List.filter_cons_of_neg same, ih seen kept]
      · rw [if_neg known] at kept ⊢
        rw [List.forall_mem_cons] at kept
        rw [List.filter_cons_of_pos kept.1, Selections.firsts, if_neg known, ih _ kept.2]
  heritage := by
    intro elements keep chosen member kept
    induction elements generalizing seen with
    | nil => cases member
    | cons element rest ih =>
      rw [Selections.firsts] at member
      by_cases known : group element ∈ seen
      · rw [if_pos known] at member
        by_cases same : keep element = true
        · rw [List.filter_cons_of_pos same, Selections.firsts, if_pos known]
          exact ih seen member
        · rw [List.filter_cons_of_neg same]
          exact ih seen member
      · rw [if_neg known, List.mem_cons] at member
        by_cases same : keep element = true
        · rw [List.filter_cons_of_pos same, Selections.firsts, if_neg known, List.mem_cons]
          exact member.imp_right (ih _)
        · rw [List.filter_cons_of_neg same]
          rcases member with rfl | member
          · exact absurd kept same
          · exact firsts_anti (List.subset_cons_self _ _) _ (ih _ member)

/-- A stable selection among the elements of a window. -/
theorem Stable.window {select : List α → List α} (stable : Stable select) (inside : α → Bool) :
    Stable fun elements => select (elements.filter inside) where
  mem := fun member => (List.mem_filter.mp (stable.mem member)).1
  outcast := by
    intro elements keep kept
    rw [List.filter_comm]
    exact stable.outcast kept
  heritage := by
    intro elements keep chosen member kept
    rw [List.filter_comm]
    exact stable.heritage member kept

theorem Stable.append {first second : List α → List α} (one : Stable first) (two : Stable second) :
    Stable fun elements => first elements ++ second elements where
  mem := fun member => (List.mem_append.mp member).elim one.mem two.mem
  outcast := by
    intro elements keep kept
    rw [one.outcast fun chosen member => kept chosen (List.mem_append_left _ member),
      two.outcast fun chosen member => kept chosen (List.mem_append_right _ member)]
  heritage := by
    intro elements keep chosen member kept
    rw [List.mem_append] at member ⊢
    exact member.imp (one.heritage · kept) (two.heritage · kept)

theorem Stable.nothing : Stable fun _ : List α => [] where
  mem := nofun
  outcast := fun _ => rfl
  heritage := by
    intro _ _ _ member
    cases member

/-! ### Orders and windows -/

variable {τ : Type*} [LinearOrder τ]

def newestFirst (time : α → τ) (elements : List α) : List α :=
  elements.insertionSort fun first second => time second ≤ time first

theorem newestFirst_cons (time : α → τ) (element : α) (rest : List α) :
    newestFirst time (element :: rest) =
      (newestFirst time rest).orderedInsert (fun first second => time second ≤ time first) element :=
  rfl

theorem pairwise_newestFirst (time : α → τ) (elements : List α) :
    (newestFirst time elements).Pairwise fun first second => time second ≤ time first :=
  haveI : Std.Total fun first second : α => time second ≤ time first :=
    ⟨fun first second => le_total (time second) (time first)⟩
  haveI : IsTrans α fun first second : α => time second ≤ time first :=
    ⟨fun _ _ _ earlier later => later.trans earlier⟩
  List.pairwise_insertionSort _ elements

theorem newestFirst_perm (time : α → τ) (elements : List α) :
    (newestFirst time elements).Perm elements :=
  List.perm_insertionSort _ elements

theorem orderedInsert_filter {time : α → τ} {keep : α → Bool} {element : α} {sorted : List α}
    (order : sorted.Pairwise fun first second => time second ≤ time first) :
    (sorted.orderedInsert (fun first second => time second ≤ time first) element).filter keep =
      if keep element then
        (sorted.filter keep).orderedInsert (fun first second => time second ≤ time first) element
      else sorted.filter keep := by
  induction sorted with
  | nil => cases kept : keep element <;> simp [kept]
  | cons head rest ih =>
    rw [List.pairwise_cons] at order
    rw [List.orderedInsert_cons]
    by_cases before : time head ≤ time element
    · rw [if_pos before]
      by_cases kept : keep element = true
      · rw [if_pos kept, List.filter_cons_of_pos kept]
        cases left : (head :: rest).filter keep with
        | nil => rfl
        | cons next others =>
          have later : time next ≤ time head := by
            have member : next ∈ head :: rest :=
              (List.mem_filter.mp (left ▸ List.mem_cons_self)).1
            rcases List.mem_cons.mp member with rfl | member
            · exact le_rfl
            · exact order.1 next member
          rw [List.orderedInsert_cons, if_pos (later.trans before)]
      · rw [if_neg kept, List.filter_cons_of_neg kept]
    · rw [if_neg before, List.filter_cons, List.filter_cons, ih order.2]
      by_cases kept : keep element = true
      · by_cases other : keep head = true
        · rw [if_pos other, if_pos other, if_pos kept, if_pos kept, List.orderedInsert_cons,
            if_neg before]
        · rw [if_neg other, if_neg other]
      · rw [if_neg kept, if_neg kept]

/-- The order is stable, so that it does not matter whether elements are left out before or after. -/
theorem newestFirst_filter (time : α → τ) (keep : α → Bool) (elements : List α) :
    newestFirst time (elements.filter keep) = (newestFirst time elements).filter keep := by
  induction elements with
  | nil => rfl
  | cons element rest ih =>
    rw [newestFirst_cons, orderedInsert_filter (pairwise_newestFirst time rest), ← ih]
    by_cases kept : keep element = true
    · rw [List.filter_cons_of_pos kept, if_pos kept, newestFirst_cons]
    · rw [List.filter_cons_of_neg kept, if_neg kept]

def oldestFirst (time : α → τ) (elements : List α) : List α :=
  newestFirst (fun element => OrderDual.toDual (time element)) elements

theorem le_of_head {time : α → τ} {elements : List α} {newest other : α}
    (head : (newestFirst time elements).head? = some newest) (member : other ∈ elements) :
    time other ≤ time newest := by
  obtain ⟨rest, sorted⟩ := List.head?_eq_some_iff.mp head
  have perm := newestFirst_perm time elements
  have order := pairwise_newestFirst time elements
  rw [sorted] at perm order
  rcases List.mem_cons.mp (perm.mem_iff.mpr member) with rfl | below
  · exact le_rfl
  · exact (List.pairwise_cons.mp order).1 other below

theorem eq_nil_of_head {time : α → τ} {elements : List α}
    (none : (newestFirst time elements).head? = none) : elements = [] :=
  List.perm_nil.mp (List.head?_eq_none_iff.mp none ▸ (newestFirst_perm time elements).symm)

theorem exists_head (time : α → τ) {elements : List α} (filled : elements ≠ []) :
    ∃ newest, (newestFirst time elements).head? = some newest :=
  Option.ne_none_iff_exists'.mp fun none => filled (eq_nil_of_head none)

theorem mem_of_head {time : α → τ} {elements : List α} {newest : α}
    (head : (newestFirst time elements).head? = some newest) : newest ∈ elements :=
  (newestFirst_perm time elements).mem_iff.mp (List.mem_of_mem_head? head)

theorem head_filter {time : α → τ} {keep : α → Bool} {elements : List α} {newest : α}
    (head : (newestFirst time elements).head? = some newest) (kept : keep newest) :
    (newestFirst time (elements.filter keep)).head? = some newest := by
  obtain ⟨rest, sorted⟩ := List.head?_eq_some_iff.mp head
  rw [newestFirst_filter, sorted, List.filter_cons_of_pos kept, List.head?_cons]

theorem newestFirst_map {γ : Type*} {time : α → τ} {time' : γ → τ} {change : α → γ}
    (same : ∀ element, time' (change element) = time element) (elements : List α) :
    newestFirst time' (elements.map change) = (newestFirst time elements).map change := by
  refine (List.map_insertionSort _ _ change elements fun first _ second _ => ?_).symm
  rw [same, same]

theorem head_cons (time : α → τ) (element : α) (rest : List α) :
    (newestFirst time (element :: rest)).head? =
      match (newestFirst time rest).head? with
      | none => some element
      | some newest => if time newest ≤ time element then some element else some newest := by
  rw [newestFirst_cons]
  cases newestFirst time rest with
  | nil => rfl
  | cons newest others =>
    rw [List.orderedInsert_cons, List.head?_cons]
    dsimp only
    split <;> rfl

/-- The head stays when an element that is not newer comes last. -/
theorem head_append {time : α → τ} {elements : List α} {newest last : α}
    (head : (newestFirst time elements).head? = some newest) (older : time last ≤ time newest) :
    (newestFirst time (elements ++ [last])).head? = some newest := by
  induction elements generalizing newest with
  | nil => cases head
  | cons element rest ih =>
    rw [List.cons_append, head_cons]
    rw [head_cons] at head
    cases former : (newestFirst time rest).head? with
    | none =>
      rw [former] at head
      obtain rfl := Option.some.inj head
      rw [eq_nil_of_head former]
      exact if_pos older
    | some next =>
      rw [former] at head
      dsimp only at head
      by_cases below : time next ≤ time element
      · rw [if_pos below] at head
        obtain rfl := Option.some.inj head
        cases found : (newestFirst time (rest ++ [last])).head? with
        | none => rfl
        | some other =>
          refine if_pos ?_
          rcases List.mem_append.mp (mem_of_head found) with member | member
          · exact (le_of_head former member).trans below
          · obtain rfl := List.mem_singleton.mp member
            exact older
      · rw [if_neg below] at head
        obtain rfl := Option.some.inj head
        rw [ih former older]
        exact if_neg below

/-- A later start of the window, and no group seen before that the wider window has not seen,
leave fewer to choose from. -/
theorem firsts_later [DecidableEq β] {group : α → β} {time : α → τ} {start later : τ}
    (advances : start ≤ later) (seen : List β) {sorted : List α}
    (order : sorted.Pairwise fun first second => time second ≤ time first) :
    firsts group seen (sorted.filter fun element => later ≤ time element) ⊆
      firsts group seen (sorted.filter fun element => start ≤ time element) := by
  induction sorted generalizing seen with
  | nil => exact fun _ member => member
  | cons element rest ih =>
    rw [List.pairwise_cons] at order
    by_cases inside : later ≤ time element
    · rw [List.filter_cons_of_pos (by simpa using inside),
        List.filter_cons_of_pos (by simpa using advances.trans inside), firsts, firsts]
      split
      · exact ih seen order.2
      · exact List.cons_subset_cons _ (ih _ order.2)
    · have none : (element :: rest).filter (fun other => later ≤ time other) = [] := by
        refine List.filter_eq_nil_iff.mpr fun other member => ?_
        rw [decide_eq_true_eq, not_le]
        rcases List.mem_cons.mp member with rfl | member
        · exact not_le.mp inside
        · exact (order.1 other member).trans_lt (not_le.mp inside)
      rw [none]
      exact List.nil_subset _

/-! ### Selecting again -/

section Again
variable [DecidableEq β] {time : α → τ} {key : α → β} {select select' : List α → List α}

/-- The elements whose keys a selection from the sorted list has. -/
def retained (time : α → τ) (key : α → β) (select : List α → List α) (elements : List α) : List α :=
  elements.filter fun element => key element ∈ (select (newestFirst time elements)).map key

/-- A stable selection that takes no more than an earlier one takes the same after it, whatever
has come in between. -/
theorem Stable.again (stable : Stable select') {elements arrived : List α}
    (fewer : select' (newestFirst time elements) ⊆ select (newestFirst time elements))
    (fresh : ∀ element ∈ arrived, key element ∉ elements.map key) :
    select' (newestFirst time (retained time key select elements ++ arrived)) =
      select' (newestFirst time (elements ++ arrived)) := by
  let held := (select (newestFirst time elements)).map key
  let keep : α → Bool := fun element => key element ∈ held || key element ∉ elements.map key
  have thinned : retained time key select elements ++ arrived = (elements ++ arrived).filter keep := by
    rw [List.filter_append]
    congr 1
    · refine List.filter_congr fun element member => ?_
      have known := List.mem_map_of_mem (f := key) member
      simp only [keep, held, known, not_true_eq_false, decide_false, Bool.or_false]
    · refine (List.filter_eq_self.mpr fun element member => ?_).symm
      simp only [keep, fresh element member, not_false_eq_true, decide_true, Bool.or_true]
  rw [thinned, newestFirst_filter]
  refine stable.outcast fun chosen member => ?_
  by_cases old : key chosen ∈ elements.map key
  · let known : α → Bool := fun element => key element ∈ elements.map key
    have among : chosen ∈ select' ((newestFirst time (elements ++ arrived)).filter known) :=
      stable.heritage member (by simpa only [known, decide_eq_true_eq] using old)
    have former : (elements ++ arrived).filter known = elements := by
      rw [List.filter_append, List.filter_eq_self.mpr fun element member => by
          simpa only [known, decide_eq_true_eq] using List.mem_map_of_mem (f := key) member,
        List.filter_eq_nil_iff.mpr fun element member => by
          simpa only [known, decide_eq_true_eq] using fresh element member,
        List.append_nil]
    rw [← newestFirst_filter, former] at among
    have taken : key chosen ∈ held := List.mem_map_of_mem (fewer among)
    simp only [keep, taken, decide_true, Bool.true_or]
  · simp only [keep, old, not_false_eq_true, decide_true, Bool.or_true]

end Again

end PfsenseBackups.Selections
