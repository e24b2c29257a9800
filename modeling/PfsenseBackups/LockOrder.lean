import Mathlib.Data.Set.Finite.Lemmas
import Mathlib.Data.Finite.Defs
import Mathlib.Order.WithBot

/-! Programs that take resources and give them back, and the order of resources that keeps a set of
threads from waiting for one another in a circle. -/

namespace PfsenseBackups.LockOrder

variable {Thread Resource Work : Type*}

/-- What a thread does next: it takes a resource, gives it back, or does work of its own. -/
inductive Act (Resource Work : Type*) where
  | acquire (resource : Resource)
  | release (resource : Resource)
  | work (work : Work)
  deriving DecidableEq

/-- A `with` statement. -/
def within (resource : Resource) (body : List (Act Resource Work)) : List (Act Resource Work) :=
  .acquire resource :: (body ++ [.release resource])

/-- The `with` statements of a stack of resources, the first one outermost. -/
def withAll (resources : List Resource) (body : List (Act Resource Work)) :
    List (Act Resource Work) :=
  resources.foldr within body

/-- What is left of a program holds a resource that it only gives back. -/
def Holds (program : List (Act Resource Work)) (resource : Resource) : Prop :=
  .release resource ∈ program ∧ .acquire resource ∉ program

/-- Nothing is given back that has not been taken. -/
def Balanced (program : List (Act Resource Work)) : Prop :=
  ∀ resource, .release resource ∈ program → .acquire resource ∈ program

/-- A resource is taken once, above all that are held, and given back once. -/
def Ordered {Rank : Type*} [LT Rank] (rank : Resource → Rank) : List (Act Resource Work) → Prop
  | [] => True
  | .acquire resource :: rest =>
    Holds rest resource ∧
      (∀ held, Holds (.acquire resource :: rest) held → rank held < rank resource) ∧
      Ordered rank rest
  | .release resource :: rest =>
    .acquire resource ∉ rest ∧ .release resource ∉ rest ∧ Ordered rank rest
  | .work _ :: rest => Ordered rank rest

variable {program rest body : List (Act Resource Work)} {resource other : Resource} {work : Work}

/-! ### What a program holds -/

theorem not_holds_nil : ¬ Holds ([] : List (Act Resource Work)) resource :=
  fun holds => absurd holds.1 List.not_mem_nil

theorem holds_acquire :
    Holds (.acquire resource :: rest) other ↔ other ≠ resource ∧ Holds rest other := by
  simp only [Holds, List.mem_cons, reduceCtorEq, false_or, not_or, Act.acquire.injEq]
  tauto

theorem holds_release (single : .acquire resource ∉ rest) :
    Holds (.release resource :: rest) other ↔ other = resource ∨ Holds rest other := by
  simp only [Holds, List.mem_cons, reduceCtorEq, false_or, Act.release.injEq]
  constructor
  · rintro ⟨same | given, untaken⟩
    · exact .inl same
    · exact .inr ⟨given, untaken⟩
  · rintro (same | ⟨given, untaken⟩)
    · exact ⟨.inl same, same ▸ single⟩
    · exact ⟨.inr given, untaken⟩

theorem holds_work : Holds (.work work :: rest) other ↔ Holds rest other := by
  simp only [Holds, List.mem_cons, reduceCtorEq, false_or]

theorem not_holds_of_balanced (balanced : Balanced program) : ¬ Holds program resource :=
  fun holds => holds.2 (balanced resource holds.1)

/-- The last act of a `with` statement gives back what it holds throughout. -/
theorem holds_concat (untaken : .acquire resource ∉ rest) :
    Holds (rest ++ [.release resource]) resource := by
  refine ⟨List.mem_append_right _ List.mem_cons_self, fun taken => ?_⟩
  rcases List.mem_append.mp taken with taken | taken
  · exact untaken taken
  · cases List.mem_singleton.mp taken

theorem Holds.concat (holds : Holds rest other) :
    Holds (rest ++ [.release resource]) other := by
  refine ⟨List.mem_append_left _ holds.1, fun taken => ?_⟩
  rcases List.mem_append.mp taken with taken | taken
  · exact holds.2 taken
  · cases List.mem_singleton.mp taken

theorem holds_of_concat (different : other ≠ resource)
    (holds : Holds (rest ++ [.release resource]) other) : Holds rest other := by
  obtain ⟨given, untaken⟩ := holds
  refine ⟨?_, fun taken => untaken (List.mem_append_left _ taken)⟩
  rcases List.mem_append.mp given with given | given
  · exact given
  · cases List.mem_singleton.mp given
    exact absurd rfl different

/-! ### `with` statements -/

theorem mem_within_acquire :
    .acquire other ∈ within resource body ↔ other = resource ∨ .acquire other ∈ body := by
  simp [within]

theorem mem_within_release :
    .release other ∈ within resource body ↔ .release other ∈ body ∨ other = resource := by
  simp [within]

theorem mem_within_work : .work work ∈ within resource body ↔ .work work ∈ body := by
  simp [within]

theorem mem_withAll_work {resources : List Resource} :
    .work work ∈ withAll resources body ↔ .work work ∈ body := by
  induction resources with
  | nil => rfl
  | cons first others ih => exact mem_within_work.trans ih

theorem mem_withAll_acquire {resources : List Resource} :
    .acquire other ∈ withAll resources body ↔ other ∈ resources ∨ .acquire other ∈ body := by
  induction resources with
  | nil => simp [withAll]
  | cons first others ih =>
    refine mem_within_acquire.trans ?_
    rw [List.mem_cons, or_assoc]
    exact or_congr_right ih

theorem mem_withAll_release {resources : List Resource} :
    .release other ∈ withAll resources body ↔ .release other ∈ body ∨ other ∈ resources := by
  induction resources with
  | nil => simp [withAll]
  | cons first others ih =>
    refine mem_within_release.trans ?_
    rw [List.mem_cons, or_comm (a := other = first), ← or_assoc]
    exact or_congr_left ih

theorem balanced_nil : Balanced ([] : List (Act Resource Work)) :=
  fun _ given => absurd given List.not_mem_nil

theorem Balanced.within (balanced : Balanced body) : Balanced (within resource body) := by
  intro other given
  rw [mem_within_acquire]
  rcases mem_within_release.mp given with given | same
  · exact .inr (balanced other given)
  · exact .inl same

theorem Balanced.append (first : Balanced body) (second : Balanced rest) :
    Balanced (body ++ rest) := by
  intro other given
  rcases List.mem_append.mp given with given | given
  · exact List.mem_append_left _ (first other given)
  · exact List.mem_append_right _ (second other given)

/-- Work alone. -/
def Plain (program : List (Act Resource Work)) : Prop :=
  ∀ act ∈ program, ∃ work, act = .work work

theorem Plain.untaken (plain : Plain program) : .acquire resource ∉ program := by
  intro taken
  obtain ⟨work, same⟩ := plain _ taken
  cases same

theorem Plain.ungiven (plain : Plain program) : .release resource ∉ program := by
  intro given
  obtain ⟨work, same⟩ := plain _ given
  cases same

theorem Plain.balanced (plain : Plain program) : Balanced program :=
  fun _ given => absurd given plain.ungiven

section Order

variable {Rank : Type*} [LT Rank] {rank : Resource → Rank}

theorem Plain.ordered (plain : Plain program) : Ordered rank program := by
  induction program with
  | nil => trivial
  | cons act rest ih =>
    obtain ⟨work, rfl⟩ := plain act List.mem_cons_self
    exact ih fun other member => plain other (List.mem_cons_of_mem _ member)

theorem Ordered.append_plain (ordered : Ordered rank program) (plain : Plain rest) :
    Ordered rank (program ++ rest) := by
  have same : ∀ {suffix : List (Act Resource Work)} {held},
      Holds (suffix ++ rest) held ↔ Holds suffix held := by
    intro suffix held
    simp only [Holds, List.mem_append, plain.ungiven, plain.untaken, or_false]
  induction program with
  | nil => exact plain.ordered
  | cons act suffix ih =>
    cases act with
    | acquire taken =>
      obtain ⟨holds, above, inner⟩ := ordered
      refine ⟨same.mpr holds, fun held holding => above held ?_, ih inner⟩
      exact same.mp holding
    | release given =>
      obtain ⟨untaken, ungiven, inner⟩ := ordered
      refine ⟨fun member => ?_, fun member => ?_, ih inner⟩
      · exact (List.mem_append.mp member).elim untaken plain.untaken
      · exact (List.mem_append.mp member).elim ungiven plain.ungiven
    | work => exact ih ordered

/-- A resource below all that a body takes can be held around it. -/
theorem Ordered.concat (ordered : Ordered rank body) (untaken : .acquire resource ∉ body)
    (ungiven : .release resource ∉ body)
    (below : ∀ taken, .acquire taken ∈ body → rank resource < rank taken) :
    Ordered rank (body ++ [.release resource]) := by
  induction body with
  | nil => exact ⟨List.not_mem_nil, List.not_mem_nil, trivial⟩
  | cons act rest ih =>
    rw [List.mem_cons, not_or] at untaken ungiven
    have more : ∀ taken, .acquire taken ∈ rest → rank resource < rank taken :=
      fun taken member => below taken (List.mem_cons_of_mem _ member)
    cases act with
    | acquire taken =>
      obtain ⟨holds, above, inner⟩ := ordered
      refine ⟨holds.concat, fun held holding => ?_, ih inner untaken.2 ungiven.2 more⟩
      by_cases same : held = resource
      · rw [same]
        exact below taken List.mem_cons_self
      · exact above held (holds_of_concat same holding)
    | release given =>
      obtain ⟨untakenAgain, ungivenAgain, inner⟩ := ordered
      have different : given ≠ resource := fun same => ungiven.1 (by rw [same])
      refine ⟨fun member => ?_, fun member => ?_, ih inner untaken.2 ungiven.2 more⟩
      · rcases List.mem_append.mp member with member | member
        · exact untakenAgain member
        · cases List.mem_singleton.mp member
      · rcases List.mem_append.mp member with member | member
        · exact ungivenAgain member
        · cases List.mem_singleton.mp member
          exact different rfl
    | work => exact ih ordered untaken.2 ungiven.2 more

theorem Ordered.within (ordered : Ordered rank body) (balanced : Balanced body)
    (untaken : .acquire resource ∉ body)
    (below : ∀ taken, .acquire taken ∈ body → rank resource < rank taken) :
    Ordered rank (within resource body) := by
  have ungiven : .release resource ∉ body := fun given => untaken (balanced resource given)
  refine ⟨holds_concat untaken, fun held holding => ?_, ordered.concat untaken ungiven below⟩
  exact absurd holding (not_holds_of_balanced balanced.within)

/-- Resources that are taken in ascending order, below all that the body takes. -/
theorem Ordered.withAll {resources : List Resource} (ordered : Ordered rank body)
    (balanced : Balanced body)
    (ascending : resources.Pairwise fun first second => first ≠ second ∧ rank first < rank second)
    (below : ∀ taken, .acquire taken ∈ body → ∀ resource ∈ resources,
      taken ≠ resource ∧ rank resource < rank taken) :
    Ordered rank (withAll resources body) ∧ Balanced (withAll resources body) := by
  induction resources with
  | nil => exact ⟨ordered, balanced⟩
  | cons first others ih =>
    rw [List.pairwise_cons] at ascending
    obtain ⟨inner, innerBalanced⟩ := ih ascending.2 fun taken member resource listed =>
      below taken member resource (List.mem_cons_of_mem _ listed)
    have lower : ∀ taken, .acquire taken ∈ LockOrder.withAll others body →
        first ≠ taken ∧ rank first < rank taken := by
      intro taken member
      rcases mem_withAll_acquire.mp member with listed | member
      · exact ascending.1 taken listed
      · have apart := below taken member first List.mem_cons_self
        exact ⟨apart.1.symm, apart.2⟩
    exact ⟨inner.within innerBalanced (fun member => (lower first member).1 rfl)
      fun taken member => (lower taken member).2, innerBalanced.within⟩

theorem Ordered.suffix (ordered : Ordered rank program) (suffix : rest <:+ program) :
    Ordered rank rest := by
  induction program with
  | nil =>
    rw [List.suffix_nil.mp suffix]
    trivial
  | cons act inner ih =>
    rcases List.suffix_cons_iff.mp suffix with rfl | suffix
    · exact ordered
    · refine ih ?_ suffix
      cases act with
      | acquire => exact ordered.2.2
      | release => exact ordered.2.2
      | work => exact ordered

end Order

/-! ### Suffixes -/

/-- Of the rest of a `with` statement, its body is left, or nothing. -/
theorem suffix_within (suffix : rest <:+ within resource body) :
    rest = within resource body ∨ rest = [] ∨
      ∃ inner, inner <:+ body ∧ rest = inner ++ [.release resource] := by
  rcases List.suffix_cons_iff.mp suffix with whole | suffix
  · exact .inl whole
  · rcases List.suffix_concat_iff.mp suffix with nothing | ⟨inner, same, within⟩
    · exact .inr (.inl nothing)
    · exact .inr (.inr ⟨inner, within, same⟩)

/-- Where more than the resource of a `with` statement is held, that one is held too. -/
theorem holds_of_within (balanced : Balanced body) (untaken : .acquire resource ∉ body)
    (suffix : rest <:+ within resource body) (holds : Holds rest other) : Holds rest resource := by
  rcases suffix_within suffix with rfl | rfl | ⟨inner, within, rfl⟩
  · exact absurd holds (not_holds_of_balanced balanced.within)
  · exact absurd holds not_holds_nil
  · exact holds_concat fun taken => untaken (within.subset taken)

/-- Work is done within the body. -/
theorem inner_of_within (suffix : .work work :: rest <:+ within resource body) :
    ∃ inner, .work work :: inner <:+ body ∧ rest = inner ++ [.release resource] := by
  rcases suffix_within suffix with whole | nothing | ⟨inner, within, same⟩
  · cases whole
  · cases nothing
  · cases inner with
    | nil => cases same
    | cons act inner =>
      obtain ⟨rfl, rfl⟩ := List.cons.inj same
      exact ⟨inner, within, rfl⟩

theorem holds_at_work (untaken : .acquire resource ∉ body)
    (suffix : .work work :: rest <:+ within resource body) : Holds rest resource := by
  obtain ⟨inner, within, rfl⟩ := inner_of_within suffix
  exact holds_concat fun taken => untaken (within.subset (List.mem_cons_of_mem _ taken))

/-- All resources of a stack are held where work is done. -/
theorem holds_at_work_withAll {resources : List Resource}
    (untaken : ∀ resource ∈ resources, .acquire resource ∉ body) (distinct : resources.Nodup)
    (suffix : .work work :: rest <:+ withAll resources body) (listed : resource ∈ resources) :
    Holds rest resource := by
  induction resources generalizing rest with
  | nil => cases listed
  | cons first others ih =>
    rw [List.nodup_cons] at distinct
    have untakenOthers : ∀ resource ∈ others, .acquire resource ∉ body :=
      fun resource member => untaken resource (List.mem_cons_of_mem _ member)
    obtain ⟨inner, deeper, rfl⟩ := inner_of_within suffix
    rcases List.mem_cons.mp listed with rfl | listed
    · refine holds_concat fun taken => ?_
      rcases mem_withAll_acquire.mp (deeper.subset (List.mem_cons_of_mem _ taken)) with member | member
      · exact distinct.1 member
      · exact untaken resource List.mem_cons_self member
    · exact (ih untakenOthers distinct.2 deeper listed).concat

/-! ### Deadlock -/

/-- The rank of what a program takes next. -/
def nextRank {Rank : Type*} (rank : Resource → Rank) : List (Act Resource Work) → WithBot Rank
  | .acquire taken :: _ => rank taken
  | _ => ⊥

/-- Threads whose programs are ordered never all wait: where each resource that is waited for has a
holder, one of the holders does not wait. -/
theorem exists_unblocked {Rank : Type*} [LinearOrder Rank] {rank : Resource → Rank} [Finite Thread]
    {programs : Thread → List (Act Resource Work)}
    (ordered : ∀ thread, Ordered rank (programs thread))
    {waits : Thread → Resource → Prop}
    (held : ∀ {thread resource}, waits thread resource → ∃ holder, Holds (programs holder) resource)
    {thread : Thread} (holds : Holds (programs thread) resource) :
    ∃ holder, (∃ held, Holds (programs holder) held) ∧
      ∀ taken rest, programs holder = .acquire taken :: rest → ¬ waits holder taken := by
  classical
  by_contra stuck
  have blocked : ∀ holder held, Holds (programs holder) held → ∃ taken rest,
      programs holder = .acquire taken :: rest ∧ waits holder taken := by
    intro holder held holding
    by_contra free
    exact stuck ⟨holder, ⟨held, holding⟩, fun taken rest next waiting =>
      free ⟨taken, rest, next, waiting⟩⟩
  obtain ⟨highest, ⟨held', holding⟩, maximal⟩ := Set.exists_max_image
    {thread | ∃ held, Holds (programs thread) held} (fun thread => nextRank rank (programs thread))
    (Set.toFinite _) ⟨thread, resource, holds⟩
  obtain ⟨taken, rest, first, waiting⟩ := blocked highest held' holding
  obtain ⟨holder, holdsTaken⟩ := held waiting
  obtain ⟨above, restAbove, firstAbove, -⟩ := blocked holder taken holdsTaken
  have higher : rank taken < rank above := by
    have ascending := ordered holder
    rw [firstAbove] at ascending holdsTaken
    exact ascending.2.1 taken holdsTaken
  have bounded := maximal holder ⟨taken, holdsTaken⟩
  rw [first, firstAbove] at bounded
  exact absurd (WithBot.coe_le_coe.mp bounded) (not_le.mpr higher)

end PfsenseBackups.LockOrder
