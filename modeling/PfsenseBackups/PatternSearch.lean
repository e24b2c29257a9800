import Mathlib.Data.List.Infix

/-! Patterns of literals, single characters and greedy runs, as a backtracking search finds them:
the leftmost place where the pattern matches, with every run as long as it can be there. -/

namespace PfsenseBackups.PatternSearch

variable {α : Type*}

inductive Item (α : Type*) where
  | lit (text : List α)
  | one (kind : α → Bool)
  /-- A run of a kind, which is a group of the pattern or not. -/
  | many (kept : Bool) (kind : α → Bool)

abbrev Pattern (α : Type*) := List (Item α)

/-- The ways to cut a run of a kind off a text, the longest first. -/
def splits (kind : α → Bool) : List α → List (List α × List α)
  | [] => [([], [])]
  | first :: rest =>
    (if kind first then (splits kind rest).map fun cut => (first :: cut.1, cut.2) else []) ++
      [([], first :: rest)]

section Search

variable [DecidableEq α]

/-- A match at the start of a text, with its groups. -/
def matchAt : Pattern α → List α → Option (List (List α))
  | [], _ => some []
  | .lit text :: pattern, chars =>
    if text <+: chars then matchAt pattern (chars.drop text.length) else none
  | .one _ :: _, [] => none
  | .one kind :: pattern, char :: chars => if kind char then matchAt pattern chars else none
  | .many kept kind :: pattern, chars =>
    (splits kind chars).findSome? fun cut =>
      (matchAt pattern cut.2).map fun groups => if kept then cut.1 :: groups else groups

def search (pattern : Pattern α) : List α → Option (List (List α))
  | [] => matchAt pattern []
  | char :: chars => (matchAt pattern (char :: chars)).or (search pattern chars)

/-! ### What a match is -/

inductive Matches : Pattern α → List α → List (List α) → Prop
  | nil : Matches [] [] []
  | lit {text pattern chars groups} (rest : Matches pattern chars groups) :
    Matches (.lit text :: pattern) (text ++ chars) groups
  | one {kind pattern char chars groups} (fits : kind char = true)
    (rest : Matches pattern chars groups) : Matches (.one kind :: pattern) (char :: chars) groups
  | many {kept kind pattern run chars groups} (fits : ∀ char ∈ run, kind char = true)
    (rest : Matches pattern chars groups) :
    Matches (.many kept kind :: pattern) (run ++ chars) (if kept then run :: groups else groups)

end Search

end PfsenseBackups.PatternSearch
