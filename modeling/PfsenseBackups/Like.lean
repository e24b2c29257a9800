import Mathlib.Data.List.Infix

/-! `LIKE` patterns: one sign for a run of anything, one for any one character, and an escape before
a character that means itself. Characters are compared up to a fold. -/

namespace PfsenseBackups.Like

inductive Token (α : Type*) where
  | run
  | one
  | exactly (char : α)

/-- The special signs of the patterns. -/
structure Signs (α : Type*) where
  run : α
  one : α
  escape : α

variable {α β : Type*}

/-! ### Tokens -/

section Tokens

variable [DecidableEq β] (fold : α → β)

/-- Whether tokens take up a text. -/
def fits : List (Token α) → List α → Bool
  | [], text => text.isEmpty
  | .run :: rest, text => text.tails.any (fits rest)
  | .one :: _, [] => false
  | .one :: rest, _ :: text => fits rest text
  | .exactly _ :: _, [] => false
  | .exactly char :: rest, first :: text => fold char = fold first && fits rest text

variable {fold}

theorem fits_run (rest : List (Token α)) (text : List α) :
    fits fold (.run :: rest) text = true ↔
      ∃ front back, text = front ++ back ∧ fits fold rest back = true := by
  rw [fits, List.any_eq_true]
  constructor
  · rintro ⟨back, member, fit⟩
    obtain ⟨front, rfl⟩ := (List.mem_tails _ _).mp member
    exact ⟨front, back, rfl, fit⟩
  · rintro ⟨front, back, rfl, fit⟩
    exact ⟨back, (List.mem_tails _ _).mpr (List.suffix_append front back), fit⟩

theorem fits_exactly (chars : List α) (rest : List (Token α)) (text : List α) :
    fits fold (chars.map .exactly ++ rest) text = true ↔
      ∃ front back, text = front ++ back ∧ front.map fold = chars.map fold ∧
        fits fold rest back = true := by
  induction chars generalizing text with
  | nil => simp
  | cons char chars ih =>
    cases text with
    | nil => simp [fits]
    | cons first text =>
      rw [List.map_cons, List.cons_append, fits, Bool.and_eq_true, decide_eq_true_eq, ih]
      constructor
      · rintro ⟨same, front, back, rfl, equal, fit⟩
        exact ⟨first :: front, back, rfl, by simp [same, equal], fit⟩
      · rintro ⟨front, back, split, equal, fit⟩
        cases front with
        | nil => cases equal
        | cons head front =>
          rw [List.cons_append, List.cons.injEq] at split
          obtain ⟨rfl, rfl⟩ := split
          rw [List.map_cons, List.map_cons, List.cons.injEq] at equal
          exact ⟨equal.1.symm, front, back, rfl, equal.2, fit⟩

/-- Characters between two runs fit the texts that they occur in, up to the fold. -/
theorem fits_inside (chars text : List α) :
    fits fold (.run :: (chars.map .exactly ++ [.run])) text = true ↔
      chars.map fold <:+: text.map fold := by
  rw [fits_run]
  constructor
  · rintro ⟨front, behind, rfl, fit⟩
    obtain ⟨inner, back, rfl, equal, -⟩ := (fits_exactly chars [.run] behind).mp fit
    exact ⟨front.map fold, back.map fold, by simp [equal]⟩
  · rintro ⟨before, after, whole⟩
    obtain ⟨ahead, back, rfl, inside, -⟩ := List.map_eq_append_iff.mp whole.symm
    obtain ⟨front, inner, rfl, -, equal⟩ := List.map_eq_append_iff.mp inside
    refine ⟨front, inner ++ back, by simp, ?_⟩
    rw [fits_exactly]
    exact ⟨inner, back, rfl, equal, (fits_run [] back).mpr ⟨back, [], by simp, rfl⟩⟩

end Tokens

/-! ### Patterns -/

section Patterns

variable [DecidableEq α] (signs : Signs α)

/-- The tokens of a pattern; nothing where an escape ends it. -/
def tokens : List α → Option (List (Token α))
  | [] => some []
  | char :: rest =>
    if char = signs.escape then
      match rest with
      | [] => none
      | literal :: rest => (tokens rest).map (.exactly literal :: ·)
    else if char = signs.run then (tokens rest).map (.run :: ·)
    else if char = signs.one then (tokens rest).map (.one :: ·)
    else (tokens rest).map (.exactly char :: ·)

/-- `text LIKE pattern ESCAPE escape`. -/
def like [DecidableEq β] (fold : α → β) (pattern text : List α) : Bool :=
  match tokens signs pattern with
  | none => false
  | some parsed => fits fold parsed text

/-- A text with its special signs escaped. -/
def escaped (text : List α) : List α :=
  text.flatMap fun char =>
    if char = signs.escape ∨ char = signs.run ∨ char = signs.one then [signs.escape, char]
    else [char]

variable {signs}

theorem tokens_escape (char : α) (rest : List α) :
    tokens signs (signs.escape :: char :: rest) = (tokens signs rest).map (.exactly char :: ·) := by
  rw [tokens.eq_def]
  exact if_pos rfl

theorem tokens_run (apart : signs.run ≠ signs.escape) (rest : List α) :
    tokens signs (signs.run :: rest) = (tokens signs rest).map (.run :: ·) := by
  rw [tokens.eq_def]
  exact (if_neg apart).trans (if_pos rfl)

theorem tokens_plain {char : α}
    (plain : ¬(char = signs.escape ∨ char = signs.run ∨ char = signs.one)) (rest : List α) :
    tokens signs (char :: rest) = (tokens signs rest).map (.exactly char :: ·) := by
  rw [not_or, not_or] at plain
  rw [tokens.eq_def]
  exact (if_neg plain.1).trans ((if_neg plain.2.1).trans (if_neg plain.2.2))

theorem tokens_escaped (chars rest : List α) :
    tokens signs (escaped signs chars ++ rest) =
      (tokens signs rest).map (chars.map .exactly ++ ·) := by
  induction chars with
  | nil => simp [escaped]
  | cons char chars ih =>
    have step : tokens signs (escaped signs (char :: chars) ++ rest) =
        (tokens signs (escaped signs chars ++ rest)).map (.exactly char :: ·) := by
      rw [escaped, List.flatMap_cons, List.append_assoc]
      split
      next => exact tokens_escape char _
      next plain => exact tokens_plain plain _
    rw [step, ih, Option.map_map]
    rfl

/-- An escaped text between two runs finds just the texts that it occurs in. -/
theorem like_escaped [DecidableEq β] {fold : α → β} (apart : signs.run ≠ signs.escape)
    (chars text : List α) :
    like signs fold (signs.run :: (escaped signs chars ++ [signs.run])) text = true ↔
      chars.map fold <:+: text.map fold := by
  have parsed : tokens signs (signs.run :: (escaped signs chars ++ [signs.run])) =
      some (.run :: (chars.map .exactly ++ [.run])) := by
    rw [tokens_run apart, tokens_escaped, tokens_run apart, tokens]
    rfl
  rw [like, parsed]
  exact fits_inside chars text

end Patterns

end PfsenseBackups.Like
