import Mathlib.Data.List.Basic
import Mathlib.Data.List.Infix

/-! Where a list can be cut in two, told by the elements at the cut. -/

namespace PfsenseBackups.Splits

variable {α : Type*}

/-- A part that is cut through by no end of a front and of what follows lies on one side. -/
theorem infix_split {part front rest : List α} {sign : α} (apart : sign ∉ part)
    (inside : part <:+: front ++ sign :: rest) : part <:+: front ∨ part <:+: rest := by
  obtain ⟨before, after, whole⟩ := inside
  rw [List.append_assoc] at whole
  rcases List.append_eq_append_iff.mp whole with ⟨more, front, same⟩ | ⟨more, before, same⟩
  · rcases List.append_eq_append_iff.mp same with ⟨last, more, _⟩ | ⟨last, inPart, same⟩
    · exact .inl ⟨_, last, by rw [front, more, List.append_assoc]⟩
    · cases last with
      | nil => exact .inl ⟨before, [], by simp_all⟩
      | cons first last =>
        obtain ⟨rfl, -⟩ := List.cons.inj same
        exact (apart (by simp [inPart])).elim
  · cases more with
    | nil =>
      cases part with
      | nil => exact .inl List.nil_infix
      | cons first part =>
        obtain ⟨rfl, -⟩ := List.cons.inj same
        exact (apart List.mem_cons_self).elim
    | cons first more =>
      obtain ⟨-, rfl⟩ := List.cons.inj same
      exact .inr ⟨more, after, by simp⟩

/-- A list has one cut behind elements of a kind and before one that is not of it. -/
theorem split_unique {kind : α → Prop} {first first' rest rest' : List α}
    (all : ∀ element ∈ first, kind element) (all' : ∀ element ∈ first', kind element)
    (start : ∀ element ∈ rest.head?, ¬ kind element)
    (start' : ∀ element ∈ rest'.head?, ¬ kind element) (same : first ++ rest = first' ++ rest') :
    first = first' ∧ rest = rest' := by
  rcases List.append_eq_append_iff.mp same with ⟨between, whole, parts⟩ | ⟨between, whole, parts⟩
  · cases between with
    | nil => exact ⟨by simpa using whole.symm, by simpa using parts⟩
    | cons element between =>
      exact absurd (all' element (by simp [whole])) (start element (by simp [parts]))
  · cases between with
    | nil => exact ⟨by simpa using whole, by simpa using parts.symm⟩
    | cons element between =>
      exact absurd (all element (by simp [whole])) (start' element (by simp [parts]))

theorem split_unique_right {kind : α → Prop} {rest rest' last last' : List α}
    (all : ∀ element ∈ last, kind element) (all' : ∀ element ∈ last', kind element)
    (stop : ∀ element ∈ rest.getLast?, ¬ kind element)
    (stop' : ∀ element ∈ rest'.getLast?, ¬ kind element) (same : rest ++ last = rest' ++ last') :
    rest = rest' ∧ last = last' := by
  have mirrored : last.reverse ++ rest.reverse = last'.reverse ++ rest'.reverse := by
    rw [← List.reverse_append, same, List.reverse_append]
  have parts := split_unique (by simpa using all) (by simpa using all')
    (by simpa using stop) (by simpa using stop') mirrored
  exact ⟨List.reverse_injective parts.2, List.reverse_injective parts.1⟩

end PfsenseBackups.Splits
