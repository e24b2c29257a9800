import Mathlib.Algebra.BigOperators.Group.Finset.Sigma
import Mathlib.Algebra.Order.BigOperators.Group.Finset
import Mathlib.Data.Fintype.Card
import PfsenseBackups.Runs

/-! Pools of permits, one for each key, each made by the first agent that asks for it. A guard keeps
the map of the pools to one agent at a time. -/

namespace PfsenseBackups.KeyedPermits
open Function Runs

variable {Agent Key : Type*}

inductive Phase where
  | idle
  /-- Waits for the guard. -/
  | calls
  /-- Has the guard, and has read the map. -/
  | looked (found : Option Nat)
  /-- Has the guard, and a new pool that is not in the map yet. -/
  | made (pool : Nat)
  /-- Waits for a permit. -/
  | waits (pool : Nat)
  | inside (pool : Nat)
  deriving DecidableEq

def Phase.isInside : Phase → Bool
  | .inside _ => true
  | _ => false

structure State (Agent Key : Type*) where
  phase : Agent → Phase := fun _ => .idle
  guard : Option Agent := none
  pools : Key → Option Nat := fun _ => none
  /-- How many pools were made; the next one gets this number. -/
  count : Nat := 0

section
variable [Fintype Agent] [DecidableEq Agent] [DecidableEq Key]

/-- Who has a permit of a pool. -/
def State.holders (state : State Agent Key) (pool : Nat) : Finset Agent :=
  Finset.univ.filter fun agent => state.phase agent = .inside pool

/-- An agent without a key never comes to its call. -/
inductive Step (key : Agent → Option Key) (capacity : Nat) :
    State Agent Key → Agent → State Agent Key → Prop
  | call {state agent} (idle : state.phase agent = .idle) (keyed : (key agent).isSome) :
    Step key capacity state agent { state with phase := update state.phase agent .calls }
  | look {state agent own} (calls : state.phase agent = .calls) (free : state.guard = none)
      (keyed : key agent = some own) :
    Step key capacity state agent
      { state with
        phase := update state.phase agent (.looked (state.pools own))
        guard := some agent }
  | share {state agent pool} (found : state.phase agent = .looked (some pool)) :
    Step key capacity state agent
      { state with
        phase := update state.phase agent (.waits pool)
        guard := none }
  | make {state agent} (missing : state.phase agent = .looked none) :
    Step key capacity state agent
      { state with
        phase := update state.phase agent (.made state.count)
        count := state.count + 1 }
  | store {state agent own pool} (made : state.phase agent = .made pool)
      (keyed : key agent = some own) :
    Step key capacity state agent
      { state with
        phase := update state.phase agent (.waits pool)
        guard := none
        pools := update state.pools own (some pool) }
  | take {state agent pool} (waits : state.phase agent = .waits pool)
      (room : (state.holders pool).card < capacity) :
    Step key capacity state agent { state with phase := update state.phase agent (.inside pool) }
  | leave {state agent pool} (inside : state.phase agent = .inside pool) :
    Step key capacity state agent { state with phase := update state.phase agent .idle }

end

/-! ### One pool for each key -/

/-- What an agent in a phase may rely on. -/
def Phase.Fits (state : State Agent Key) (own : Option Key) : Phase → Prop
  | .idle | .calls => True
  | .looked found => ∃ key, own = some key ∧ found = state.pools key
  | .made pool => ∃ key, own = some key ∧ state.pools key = none ∧ pool < state.count ∧
      ∀ other, state.pools other ≠ some pool
  | .waits pool | .inside pool => ∃ key, own = some key ∧ state.pools key = some pool

/-- The phases between two turns at the guard. -/
def Phase.guards : Phase → Bool
  | .looked _ | .made _ => true
  | _ => false

structure Inv (key : Agent → Option Key) (state : State Agent Key) : Prop where
  fits : ∀ agent, (state.phase agent).Fits state (key agent)
  guarded : ∀ agent, (state.phase agent).guards = true → state.guard = some agent
  apart : ∀ own other pool, state.pools own = some pool → state.pools other = some pool →
    own = other
  numbered : ∀ own pool, state.pools own = some pool → pool < state.count

section
variable {key : Agent → Option Key} {state next : State Agent Key} {agent other : Agent}
  {own : Option Key} {phase : Phase}

theorem Phase.Fits.same (pools : next.pools = state.pools) (count : state.count ≤ next.count)
    (fits : phase.Fits state own) : phase.Fits next own := by
  cases phase with
  | idle | calls => trivial
  | looked found =>
    obtain ⟨key, keyed, read⟩ := fits
    exact ⟨key, keyed, by rw [pools, read]⟩
  | made pool =>
    obtain ⟨key, keyed, missing, numbered, fresh⟩ := fits
    exact ⟨key, keyed, by rw [pools, missing], by omega, by rw [pools]; exact fresh⟩
  | waits pool | inside pool =>
    obtain ⟨key, keyed, stored⟩ := fits
    exact ⟨key, keyed, by rw [pools, stored]⟩

/-- Away from the guard an agent relies on nothing but its stored pool. -/
theorem Phase.Fits.kept (away : phase.guards = false)
    (kept : ∀ key pool, state.pools key = some pool → next.pools key = some pool)
    (fits : phase.Fits state own) : phase.Fits next own := by
  cases phase with
  | idle | calls => trivial
  | looked found | made pool => cases away
  | waits pool | inside pool =>
    obtain ⟨key, keyed, stored⟩ := fits
    exact ⟨key, keyed, kept key pool stored⟩

theorem Inv.start (key : Agent → Option Key) : Inv key {} where
  fits _ := trivial
  guarded _ guards := nomatch guards
  apart _ _ _ stored := nomatch stored
  numbered _ _ stored := nomatch stored

/-- The guard has one holder. -/
theorem Inv.alone (inv : Inv key state) (guards : (state.phase agent).guards = true)
    (differ : other ≠ agent) : (state.phase other).guards = false := by
  apply Bool.eq_false_iff.mpr
  intro others
  have mine := inv.guarded agent guards
  rw [inv.guarded other others] at mine
  exact differ (Option.some.inj mine)

theorem Inv.free (inv : Inv key state) (free : state.guard = none) (agent : Agent) :
    (state.phase agent).guards = false := by
  apply Bool.eq_false_iff.mpr
  intro guards
  have taken := inv.guarded agent guards
  rw [free] at taken
  cases taken

variable [DecidableEq Agent]

/-- A step that leaves the map as it is. -/
theorem Inv.turn (inv : Inv key state) (phases : next.phase = update state.phase agent phase)
    (pools : next.pools = state.pools) (count : state.count ≤ next.count)
    (fits : phase.Fits next (key agent)) (own : phase.guards = true → next.guard = some agent)
    (others : ∀ other, other ≠ agent → (state.phase other).guards = true →
      next.guard = some other) : Inv key next := by
  constructor
  · intro other
    rw [phases]
    by_cases same : other = agent
    · rw [same, update_self]
      exact fits
    · rw [update_of_ne same]
      exact (inv.fits other).same pools count
  · intro other guards
    rw [phases] at guards
    by_cases same : other = agent
    · rw [same] at guards ⊢
      rw [update_self] at guards
      exact own guards
    · rw [update_of_ne same] at guards
      exact others other same guards
  · rw [pools]
    exact inv.apart
  · rw [pools]
    intro own pool stored
    exact (inv.numbered own pool stored).trans_le count

variable [DecidableEq Key]

/-- A new pool comes into the map. -/
theorem Inv.store (inv : Inv key state) {own : Key} {pool : Nat}
    (made : state.phase agent = .made pool) (keyed : key agent = some own) :
    Inv key
      { state with
        phase := update state.phase agent (.waits pool)
        guard := none
        pools := update state.pools own (some pool) } := by
  have guards : (state.phase agent).guards = true := by rw [made]; rfl
  have relies := inv.fits agent
  rw [made] at relies
  obtain ⟨_, keyed', missing, numbered, fresh⟩ := relies
  obtain rfl := Option.some.inj (keyed.symm.trans keyed')
  have kept : ∀ key found, state.pools key = some found →
      update state.pools own (some pool) key = some found := by
    intro key found stored
    have differ : key ≠ own := by
      intro same
      rw [same, missing] at stored
      cases stored
    rw [update_of_ne differ, stored]
  constructor
  · intro other
    change (update state.phase agent (.waits pool) other).Fits _ _
    by_cases same : other = agent
    · rw [same, update_self]
      exact ⟨own, keyed, update_self _ _ _⟩
    · rw [update_of_ne same]
      exact (inv.fits other).kept (inv.alone guards same) kept
  · intro other guarding
    change (update state.phase agent (.waits pool) other).guards = true at guarding
    by_cases same : other = agent
    · rw [same, update_self] at guarding
      cases guarding
    · rw [update_of_ne same, inv.alone guards same] at guarding
      cases guarding
  · intro first second found stored stored'
    change update state.pools own (some pool) first = some found at stored
    change update state.pools own (some pool) second = some found at stored'
    by_cases same : first = own <;> by_cases same' : second = own
    · rw [same, same']
    · rw [same, update_self] at stored
      rw [update_of_ne same', ← stored] at stored'
      exact absurd stored' (fresh second)
    · rw [same', update_self] at stored'
      rw [update_of_ne same, ← stored'] at stored
      exact absurd stored (fresh first)
    · rw [update_of_ne same] at stored
      rw [update_of_ne same'] at stored'
      exact inv.apart first second found stored stored'
  · intro other found stored
    change update state.pools own (some pool) other = some found at stored
    by_cases same : other = own
    · rw [same, update_self] at stored
      rw [← Option.some.inj stored]
      exact numbered
    · rw [update_of_ne same] at stored
      exact inv.numbered other found stored

variable [Fintype Agent] {capacity : Nat}

theorem Inv.step (inv : Inv key state) (taken : Step key capacity state agent next) :
    Inv key next := by
  cases taken with
  | call idle keyed =>
    exact inv.turn rfl rfl le_rfl trivial nofun fun other _ guards => inv.guarded other guards
  | @look own calls free keyed =>
    refine inv.turn rfl rfl le_rfl ?_ (fun _ => rfl) ?_
    · exact ⟨own, keyed, rfl⟩
    · intro other _ guards
      rw [inv.free free] at guards
      cases guards
  | share found =>
    have relies := inv.fits agent
    rw [found] at relies
    obtain ⟨own, keyed, read⟩ := relies
    refine inv.turn rfl rfl le_rfl ?_ nofun ?_
    · exact ⟨own, keyed, read.symm⟩
    · intro other differ guards
      rw [inv.alone (by rw [found]; rfl) differ] at guards
      cases guards
  | make missing =>
    have relies := inv.fits agent
    rw [missing] at relies
    obtain ⟨own, keyed, read⟩ := relies
    have guards := inv.guarded agent (by rw [missing]; rfl)
    refine inv.turn rfl rfl (Nat.le_succ _) ?_ (fun _ => guards) ?_
    · refine ⟨own, keyed, read.symm, Nat.lt_succ_self _, fun other stored => ?_⟩
      exact absurd (inv.numbered other _ stored) (lt_irrefl _)
    · exact fun other _ guarding => inv.guarded other guarding
  | store made keyed => exact inv.store made keyed
  | take waits room =>
    have relies := inv.fits agent
    rw [waits] at relies
    exact inv.turn rfl rfl le_rfl relies nofun fun other _ guards => inv.guarded other guards
  | leave inside =>
    exact inv.turn rfl rfl le_rfl trivial nofun fun other _ guards => inv.guarded other guards

/-! ### Never more than the permits -/

/-- No pool gives out more permits than it has. -/
def Bounded (capacity : Nat) (state : State Agent Key) : Prop :=
  ∀ pool, (state.holders pool).card ≤ capacity

omit [DecidableEq Key] in
theorem holders_subset (phases : next.phase = update state.phase agent phase) {pool : Nat}
    (outside : phase ≠ .inside pool) : next.holders pool ⊆ state.holders pool := by
  intro other member
  have held := (Finset.mem_filter.mp member).2
  rw [phases] at held
  have differ : other ≠ agent := by
    intro same
    rw [same, update_self] at held
    exact outside held
  rw [update_of_ne differ] at held
  exact Finset.mem_filter.mpr ⟨Finset.mem_univ other, held⟩

omit [DecidableEq Key] in
theorem holders_take {pool : Nat} :
    State.holders { state with phase := update state.phase agent (.inside pool) } pool ⊆
      insert agent (state.holders pool) := by
  intro other member
  have held : update state.phase agent (.inside pool) other = .inside pool :=
    (Finset.mem_filter.mp member).2
  by_cases same : other = agent
  · exact Finset.mem_insert.mpr (.inl same)
  · rw [update_of_ne same] at held
    exact Finset.mem_insert_of_mem (Finset.mem_filter.mpr ⟨Finset.mem_univ other, held⟩)

theorem Bounded.step (bounded : Bounded capacity state)
    (taken : Step key capacity state agent next) : Bounded capacity next := by
  intro pool
  cases taken with
  | @take own waits room =>
    by_cases same : pool = own
    · subst same
      calc _ ≤ (insert agent (state.holders pool)).card := Finset.card_le_card holders_take
        _ ≤ (state.holders pool).card + 1 := Finset.card_insert_le agent _
        _ ≤ capacity := room
    · have differ : Phase.inside own ≠ .inside pool := fun eq => same (Phase.inside.inj eq).symm
      exact (Finset.card_le_card (holders_subset rfl differ)).trans (bounded pool)
  | call | look | share | make | store | leave =>
    exact (Finset.card_le_card (holders_subset rfl (by simp))).trans (bounded pool)

/-- The members of a set of agents that have a permit. -/
def State.crowd (state : State Agent Key) (agents : Finset Agent) : Finset Agent :=
  agents.filter fun agent => (state.phase agent).isInside

theorem sound_of_reach (reached : Reach (Step key capacity) unguarded {} state) :
    Inv key state ∧ Bounded capacity state := by
  have first : Inv key {} ∧ Bounded capacity ({} : State Agent Key) := by
    refine ⟨.start key, fun pool => ?_⟩
    have nobody : State.holders ({} : State Agent Key) pool = ∅ :=
      Finset.filter_false_of_mem fun _ _ => nofun
    rw [nobody]
    exact Nat.zero_le capacity
  refine @Reach.invariant _ _ _ _ _ (fun state => Inv key state ∧ Bounded capacity state) first ?_
    _ reached
  intro before agent after sound _ taken
  exact ⟨sound.1.step taken, sound.2.step taken⟩

omit [DecidableEq Agent] [DecidableEq Key] [Fintype Agent] in
theorem exists_pool (inv : Inv key state) (inside : (state.phase agent).isInside = true) :
    ∃ own pool, key agent = some own ∧ state.pools own = some pool ∧
      state.phase agent = .inside pool := by
  have relies := inv.fits agent
  cases phase : state.phase agent with
  | inside pool =>
    rw [phase] at relies
    obtain ⟨own, keyed, stored⟩ := relies
    exact ⟨own, pool, keyed, stored, rfl⟩
  | idle | calls | looked | made | waits =>
    rw [phase] at inside
    cases inside

omit [DecidableEq Agent] in
/-- Agents with one key share one pool. -/
theorem crowd_key_le (inv : Inv key state) (bounded : Bounded capacity state)
    (agents : Finset Agent) (own : Option Key) :
    ((state.crowd agents).filter fun agent => key agent = own).card ≤ capacity := by
  rcases Finset.eq_empty_or_nonempty ((state.crowd agents).filter fun agent => key agent = own)
    with nobody | some
  · rw [nobody]
    exact Nat.zero_le capacity
  · obtain ⟨first, member⟩ := some
    obtain ⟨member, keyed⟩ := Finset.mem_filter.mp member
    obtain ⟨_, pool, keyed', stored, -⟩ := exists_pool inv (Finset.mem_filter.mp member).2
    apply le_trans (Finset.card_le_card _) (bounded pool)
    intro other member
    obtain ⟨member, keyed''⟩ := Finset.mem_filter.mp member
    obtain ⟨_, pool', same, stored', phase⟩ := exists_pool inv (Finset.mem_filter.mp member).2
    rw [keyed'', ← keyed, keyed'] at same
    obtain rfl := Option.some.inj same
    rw [stored] at stored'
    obtain rfl := Option.some.inj stored'
    exact Finset.mem_filter.mpr ⟨Finset.mem_univ other, phase⟩

/-- The permits that a set of agents can have at once: of each key as many as there are agents or
permits. -/
def most (key : Agent → Option Key) (capacity : Nat) (agents : Finset Agent) : Nat :=
  ∑ own ∈ agents.image key, min capacity (agents.filter fun agent => key agent = own).card

omit [DecidableEq Agent] in
theorem crowd_le (inv : Inv key state) (bounded : Bounded capacity state)
    (agents : Finset Agent) : (state.crowd agents).card ≤ most key capacity agents := by
  have keys : ∀ agent ∈ state.crowd agents, key agent ∈ agents.image key :=
    fun agent member => Finset.mem_image_of_mem key (Finset.mem_filter.mp member).1
  rw [Finset.card_eq_sum_card_fiberwise keys]
  apply Finset.sum_le_sum
  intro own _
  apply le_min (crowd_key_le inv bounded agents own)
  exact Finset.card_le_card (Finset.filter_subset_filter _ (Finset.filter_subset _ agents))

/-! ### A run that fills the pools -/

/-- An agent comes to the pool of its key, whoever made it. -/
theorem reach_waits (reached : Reach (Step key capacity) unguarded {} state)
    (free : state.guard = none) (idle : state.phase agent = .idle)
    (keyed : (key agent).isSome = true) :
    ∃ next pool, Reach (Step key capacity) unguarded {} next ∧ next.guard = none ∧
      next.phase = update state.phase agent (.waits pool) := by
  obtain ⟨own, named⟩ := Option.isSome_iff_exists.mp keyed
  have called := reached.snoc trivial (Step.call idle keyed)
  have looking := called.snoc trivial (Step.look (update_self _ _ _) free named)
  cases stored : state.pools own with
  | some pool =>
    have found := update_self agent (Phase.looked (state.pools own))
      (update state.phase agent .calls)
    rw [stored] at found looking
    refine ⟨_, pool, looking.snoc trivial (Step.share found), rfl, ?_⟩
    simp only [update_idem]
  | none =>
    have missing := update_self agent (Phase.looked (state.pools own))
      (update state.phase agent .calls)
    rw [stored] at missing looking
    have making := looking.snoc trivial (Step.make missing)
    have storing := making.snoc trivial (Step.store (update_self _ _ _) named)
    refine ⟨_, state.count, storing, rfl, ?_⟩
    simp only [update_idem]

/-- Those who are to have a permit have one, and nobody else has begun. -/
def State.Filled (state : State Agent Key) (chosen : Finset Agent) : Prop :=
  (∀ agent ∈ chosen, (state.phase agent).isInside = true) ∧
    ∀ agent, agent ∉ chosen → state.phase agent = .idle

omit [DecidableEq Key] [Fintype Agent] in
theorem State.Filled.crowd_eq {chosen agents : Finset Agent} (filled : state.Filled chosen)
    (known : chosen ⊆ agents) : state.crowd agents = chosen := by
  ext agent
  constructor
  · intro member
    by_contra outside
    have inside := (Finset.mem_filter.mp member).2
    rw [filled.2 agent outside] at inside
    cases inside
  · exact fun member => Finset.mem_filter.mpr ⟨known member, filled.1 agent member⟩

/-- Where an agent waits, those inside have its key. -/
theorem holders_subset_key {chosen : Finset Agent} {pool : Nat} (inv : Inv key state)
    (waits : state.phase agent = .waits pool)
    (others : ∀ other, other ≠ agent → other ∉ chosen → state.phase other = .idle) :
    state.holders pool ⊆ chosen.filter fun other => key other = key agent := by
  have relies := inv.fits agent
  rw [waits] at relies
  obtain ⟨own, keyed, stored⟩ := relies
  intro other member
  have inside : state.phase other = .inside pool := (Finset.mem_filter.mp member).2
  have differ : other ≠ agent := by
    intro same
    rw [same, waits] at inside
    cases inside
  have picked : other ∈ chosen := by
    by_contra absent
    rw [others other differ absent] at inside
    cases inside
  have relies := inv.fits other
  rw [inside] at relies
  obtain ⟨own', keyed', stored'⟩ := relies
  have same := inv.apart own own' pool stored stored'
  exact Finset.mem_filter.mpr ⟨picked, by rw [keyed, keyed', same]⟩

theorem exists_filled (chosen : Finset Agent) (keyed : ∀ agent ∈ chosen, (key agent).isSome = true)
    (fits : ∀ own, (chosen.filter fun agent => key agent = own).card ≤ capacity) :
    ∃ state, Reach (Step key capacity) unguarded {} state ∧ state.guard = none ∧
      state.Filled chosen := by
  induction chosen using Finset.induction_on with
  | empty => exact ⟨{}, .refl, rfl, fun _ member => absurd member (Finset.notMem_empty _),
      fun _ _ => rfl⟩
  | insert agent chosen absent ih =>
    have fewer : ∀ own, (chosen.filter fun agent => key agent = own).card ≤ capacity := by
      intro own
      apply le_trans (Finset.card_le_card _) (fits own)
      exact Finset.filter_subset_filter _ (Finset.subset_insert agent chosen)
    obtain ⟨state, reached, free, filled⟩ :=
      ih (fun other member => keyed other (Finset.mem_insert_of_mem member)) fewer
    obtain ⟨next, pool, reached', free', phases⟩ := reach_waits reached free
      (filled.2 agent absent) (keyed agent (Finset.mem_insert_self agent chosen))
    have waits : next.phase agent = .waits pool := by rw [phases, update_self]
    have others : ∀ other, other ≠ agent → next.phase other = state.phase other := by
      intro other differ
      rw [phases, update_of_ne differ]
    have room : (next.holders pool).card < capacity := by
      have within := holders_subset_key (sound_of_reach reached').1 waits
        fun other differ outside => (others other differ).trans (filled.2 other outside)
      have whole := fits (key agent)
      rw [Finset.filter_insert, if_pos rfl, Finset.card_insert_of_notMem
        fun member => absent (Finset.mem_filter.mp member).1] at whole
      exact (Finset.card_le_card within).trans_lt whole
    refine ⟨_, reached'.snoc trivial (Step.take waits room), free', ?_, ?_⟩
    · intro other member
      change (update next.phase agent (.inside pool) other).isInside = true
      by_cases same : other = agent
      · rw [same, update_self]
        rfl
      · rw [update_of_ne same, others other same]
        exact filled.1 other (Finset.mem_of_mem_insert_of_ne member same)
    · intro other outside
      obtain ⟨differ, outside⟩ := not_or.mp (mt Finset.mem_insert.mpr outside)
      change update next.phase agent (.inside pool) other = .idle
      rw [update_of_ne differ, others other differ]
      exact filled.2 other outside

/-- Some run gives a set of agents all the permits that it can have. -/
theorem exists_crowd (agents : Finset Agent) (keyed : ∀ agent ∈ agents, (key agent).isSome = true) :
    ∃ state, Reach (Step key capacity) unguarded {} state ∧
      (state.crowd agents).card = most key capacity agents := by
  have picks : ∀ own, ∃ picked ⊆ agents.filter fun agent => key agent = own,
      picked.card = min capacity (agents.filter fun agent => key agent = own).card :=
    fun own => Finset.exists_subset_card_eq (min_le_right _ _)
  choose picked within size using picks
  have named : ∀ own, ∀ agent ∈ picked own, agent ∈ agents ∧ key agent = own :=
    fun own agent member => Finset.mem_filter.mp (within own member)
  obtain ⟨state, reached, -, filled⟩ := @exists_filled _ _ key _ _ _ capacity
    ((agents.image key).biUnion picked)
    (fun agent member => by
      obtain ⟨own, -, member⟩ := Finset.mem_biUnion.mp member
      exact keyed agent (named own agent member).1)
    (fun own => by
      apply le_trans (Finset.card_le_card _) ((size own).trans_le (min_le_left _ _))
      intro agent member
      obtain ⟨member, same⟩ := Finset.mem_filter.mp member
      obtain ⟨other, -, member⟩ := Finset.mem_biUnion.mp member
      rw [← same, (named other agent member).2]
      exact member)
  refine ⟨state, reached, ?_⟩
  have known : (agents.image key).biUnion picked ⊆ agents := by
    intro agent member
    obtain ⟨own, -, member⟩ := Finset.mem_biUnion.mp member
    exact (named own agent member).1
  rw [filled.crowd_eq known, Finset.card_biUnion]
  · exact Finset.sum_congr rfl fun own _ => size own
  · intro first _ second _ differ
    apply Finset.disjoint_left.mpr
    intro agent member member'
    exact differ ((named first agent member).2.symm.trans (named second agent member').2)

omit [DecidableEq Agent] [Fintype Agent] in
theorem card_eq_fibres (key : Agent → Option Key) (agents : Finset Agent) : agents.card =
    ∑ own ∈ agents.image key, (agents.filter fun agent => key agent = own).card :=
  Finset.card_eq_sum_card_fiberwise fun _ member => Finset.mem_image_of_mem key member

omit [DecidableEq Agent] [Fintype Agent] in
/-- Agents with two keys can be more than one pool lets in, as soon as they are that many. -/
theorem lt_most {agents : Finset Agent} (positive : 0 < capacity) (many : capacity < agents.card)
    {first second : Agent} (member : first ∈ agents) (member' : second ∈ agents)
    (differ : key first ≠ key second) : capacity < most key capacity agents := by
  by_cases full : ∃ own ∈ agents.image key,
      capacity ≤ (agents.filter fun agent => key agent = own).card
  · obtain ⟨own, used, enough⟩ := full
    -- Some agent has another key, and its pool lets it in.
    obtain ⟨extra, member, apart⟩ : ∃ extra ∈ agents, key extra ≠ own := by
      by_cases same : key first = own
      · exact ⟨second, member', fun other => differ (same.trans other.symm)⟩
      · exact ⟨first, member, same⟩
    have counted : 0 < (agents.filter fun agent => key agent = key extra).card :=
      Finset.card_pos.mpr ⟨extra, Finset.mem_filter.mpr ⟨member, rfl⟩⟩
    have two : ∑ other ∈ {own, key extra},
        min capacity (agents.filter fun agent => key agent = other).card ≤
          most key capacity agents := by
      apply Finset.sum_le_sum_of_subset
      intro other listed
      rcases Finset.mem_insert.mp listed with same | listed
      · rw [same]
        exact used
      · rw [Finset.mem_singleton.mp listed]
        exact Finset.mem_image_of_mem key member
    rw [Finset.sum_pair apart.symm, min_eq_left enough] at two
    omega
  · have all : most key capacity agents = agents.card := by
      rw [card_eq_fibres key, most]
      apply Finset.sum_congr rfl
      intro own used
      exact min_eq_right (not_le.mp fun enough => full ⟨own, used, enough⟩).le
    rw [all]
    exact many

omit [DecidableEq Agent] [Fintype Agent] in
/-- The pools of a set of agents let in no more than one pool would exactly if they are one pool,
or have room for everybody, or for nobody. -/
theorem most_le_iff (agents : Finset Agent) : most key capacity agents ≤ capacity ↔
    capacity = 0 ∨ (∀ first ∈ agents, ∀ second ∈ agents, key first = key second) ∨
      agents.card ≤ capacity := by
  constructor
  · intro enough
    by_contra other
    simp only [not_or, not_forall] at other
    obtain ⟨positive, ⟨first, member, second, member', differ⟩, many⟩ := other
    have more := lt_most (Nat.pos_of_ne_zero positive) (not_le.mp many) member member' differ
    omega
  · rintro (zero | one | few)
    · rw [zero, most, Finset.sum_eq_zero fun _ _ => Nat.zero_min _]
    · have single : (agents.image key).card ≤ 1 := by
        apply Finset.card_le_one.mpr
        intro own used own' used'
        obtain ⟨first, member, rfl⟩ := Finset.mem_image.mp used
        obtain ⟨second, member', rfl⟩ := Finset.mem_image.mp used'
        exact one first member second member'
      calc most key capacity agents ≤ ∑ _ ∈ agents.image key, capacity :=
            Finset.sum_le_sum fun _ _ => min_le_left _ _
        _ = (agents.image key).card * capacity := Finset.sum_const_nat fun _ _ => rfl
        _ ≤ 1 * capacity := Nat.mul_le_mul_right capacity single
        _ = capacity := one_mul capacity
    · calc most key capacity agents
          ≤ ∑ own ∈ agents.image key, (agents.filter fun agent => key agent = own).card :=
            Finset.sum_le_sum fun _ _ => min_le_right _ _
        _ = agents.card := (card_eq_fibres key agents).symm
        _ ≤ capacity := few

/-- A bound on a set of agents holds in every run exactly if their keys have no more permits. -/
theorem crowd_le_iff {bound : Nat} (agents : Finset Agent)
    (keyed : ∀ agent ∈ agents, (key agent).isSome = true) :
    (∀ state, Reach (Step key capacity) unguarded {} state → (state.crowd agents).card ≤ bound) ↔
      most key capacity agents ≤ bound := by
  constructor
  · intro always
    obtain ⟨state, reached, full⟩ := @exists_crowd _ _ key _ _ _ capacity agents keyed
    rw [← full]
    exact always state reached
  · intro enough state reached
    obtain ⟨inv, bounded⟩ := sound_of_reach reached
    exact (crowd_le inv bounded agents).trans enough

end

end PfsenseBackups.KeyedPermits
