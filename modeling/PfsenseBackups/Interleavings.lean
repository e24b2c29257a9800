import Mathlib.Data.List.Basic

/-! Traces of several agents, merged into one in any order that keeps each agent's own. -/

namespace PfsenseBackups.Interleavings

variable {Agent α : Type*} [DecidableEq Agent]

/-- What one agent did in a merged trace. -/
def trace (merged : List (Agent × α)) (agent : Agent) : List α :=
  (merged.filter fun event => event.1 = agent).map Prod.snd

/-- A merge of the agents' traces: each agent did there what it does, and nobody else did
anything. -/
structure Interleaves (agents : List Agent) (does : Agent → List α)
    (merged : List (Agent × α)) : Prop where
  known : ∀ {event}, event ∈ merged → event.1 ∈ agents
  same : ∀ {agent}, agent ∈ agents → trace merged agent = does agent

variable {agents : List Agent} {does : Agent → List α} {merged : List (Agent × α)}

theorem Interleaves.mem (interleaves : Interleaves agents does merged) {event : Agent × α}
    (member : event ∈ merged) : event.2 ∈ does event.1 := by
  rw [← interleaves.same (interleaves.known member)]
  exact List.mem_map_of_mem (List.mem_filter.mpr ⟨member, decide_eq_true rfl⟩)

theorem Interleaves.exists_mem (interleaves : Interleaves agents does merged) {agent : Agent}
    (known : agent ∈ agents) {action : α} (acts : action ∈ does agent) :
    (agent, action) ∈ merged := by
  rw [← interleaves.same known] at acts
  obtain ⟨event, kept, rfl⟩ := List.mem_map.mp acts
  obtain ⟨member, same⟩ := List.mem_filter.mp kept
  obtain rfl : event.1 = agent := of_decide_eq_true same
  exact member

/-- The last of all actions is the last of the agent that it belongs to. -/
theorem Interleaves.getLast? (interleaves : Interleaves agents does merged) {event : Agent × α}
    (last : merged.getLast? = some event) : (does event.1).getLast? = some event.2 := by
  obtain ⟨before, rfl⟩ := List.getLast?_eq_some_iff.mp last
  rw [← interleaves.same (interleaves.known (List.mem_append_right _ List.mem_cons_self)), trace,
    List.filter_append, List.map_append, List.filter_singleton, decide_eq_true rfl, cond_true,
    List.map_singleton, List.getLast?_concat]

end PfsenseBackups.Interleavings
