import Mathlib.Data.List.Forall2
import Mathlib.Data.List.Nodup
import Mathlib.Data.Option.Basic

/-! Database tables: lists of rows with distinct ids, and what the usual statements do to a row
that is looked up by its id. -/

namespace PfsenseBackups.Tables

variable {Row : Type*}

/-- Rows with a primary key. -/
structure Table (Row : Type*) (id : Row → Nat) where
  rows : List Row
  distinct : (rows.map id).Nodup

/-! ### Loops that keep ids -/

section

variable {change : Row → Option Row} {rows rows' : List Row}

theorem forall₂_of_mapM (changed : rows.mapM change = some rows') :
    List.Forall₂ (fun row row' => change row = some row') rows rows' := by
  induction rows generalizing rows' with
  | nil =>
    obtain rfl := Option.some.inj changed
    exact .nil
  | cons row rows ih =>
    simp only [List.mapM_cons, Option.bind_eq_bind, Option.bind_eq_some_iff] at changed
    obtain ⟨row', head, rest, tail, eq⟩ := changed
    obtain rfl := Option.some.inj eq
    exact .cons head (ih tail)

theorem exists_mapM (defined : ∀ row ∈ rows, ∃ row', change row = some row') :
    ∃ rows', rows.mapM change = some rows' := by
  induction rows with
  | nil => exact ⟨[], rfl⟩
  | cons row rows ih =>
    obtain ⟨row', head⟩ := defined row List.mem_cons_self
    obtain ⟨rows', tail⟩ := ih fun other mem => defined other (List.mem_cons_of_mem _ mem)
    exact ⟨row' :: rows', by simp [head, tail]⟩

variable {id : Row → Nat} (keeps : ∀ row row', change row = some row' → id row' = id row)
include keeps

theorem ids_of_mapM (changed : rows.mapM change = some rows') : rows'.map id = rows.map id := by
  have pairs := forall₂_of_mapM changed
  clear changed
  induction pairs with
  | nil => rfl
  | cons head _ ih => rw [List.map_cons, List.map_cons, keeps _ _ head, ih]

theorem filter_ids_of_mapM {test : Row → Bool}
    (same : ∀ row row', change row = some row' → test row' = test row)
    (changed : rows.mapM change = some rows') :
    (rows'.filter test).map id = (rows.filter test).map id := by
  have pairs := forall₂_of_mapM changed
  clear changed
  induction pairs with
  | nil => rfl
  | cons head _ ih =>
    rw [List.filter_cons, List.filter_cons, same _ _ head]
    split
    · rw [List.map_cons, List.map_cons, keeps _ _ head, ih]
    · exact ih

/-- A row and the row it became are found under the same id. -/
theorem find?_of_mapM (changed : rows.mapM change = some rows') (wanted : Nat) :
    Option.Rel (fun row row' => id row = wanted ∧ change row = some row')
      (rows.find? fun row => id row = wanted) (rows'.find? fun row => id row = wanted) := by
  have pairs := forall₂_of_mapM changed
  clear changed
  induction pairs with
  | nil => exact .none
  | @cons row row' _ _ head _ ih =>
    by_cases found : id row = wanted
    · rw [List.find?_cons_of_pos (by simpa using found),
        List.find?_cons_of_pos (by simpa [keeps _ _ head] using found)]
      exact .some ⟨found, head⟩
    · rw [List.find?_cons_of_neg (by simpa using found),
        List.find?_cons_of_neg (by simpa [keeps _ _ head] using found)]
      exact ih

end

namespace Table

variable {id : Row → Nat}

/-! ### Statements -/

def empty : Table Row id :=
  ⟨[], List.nodup_nil⟩

def get (table : Table Row id) (key : Nat) : Option Row :=
  table.rows.find? fun row => id row = key

/-- The id that the next row gets: one more than the largest. -/
def nextId (table : Table Row id) : Nat :=
  (table.rows.map id).foldr max 0 + 1

/-- A change of the row with an id. -/
def modify (table : Table Row id) (key : Nat) (change : Row → Row)
    (keeps : ∀ row, id (change row) = id row := by intro _; rfl) : Table Row id where
  rows := table.rows.map fun row => if id row = key then change row else row
  distinct := by
    have same : ∀ row ∈ table.rows,
        (id ∘ fun row => if id row = key then change row else row) row = id row := by
      intro row _
      rw [Function.comp_apply]
      split
      · exact keeps row
      · rfl
    rw [List.map_map, List.map_congr_left same]
    exact table.distinct

def delete (table : Table Row id) (key : Nat) : Table Row id where
  rows := table.rows.filter fun row => id row ≠ key
  distinct := table.distinct.sublist (List.filter_sublist.map id)

/-- A change of every row. -/
def map (table : Table Row id) (change : Row → Row) (keeps : ∀ row, id (change row) = id row) :
    Table Row id where
  rows := table.rows.map change
  distinct := by
    have same : id ∘ change = id := funext keeps
    rw [List.map_map, same]
    exact table.distinct

/-- The rows that pass a test. -/
def filter (table : Table Row id) (test : Row → Bool) : Table Row id where
  rows := table.rows.filter test
  distinct := table.distinct.sublist (List.filter_sublist.map id)

/-- A row is added unless its id is taken. -/
def insert (table : Table Row id) (row : Row) : Table Row id :=
  if taken : id row ∈ table.rows.map id then table
  else
    { rows := table.rows ++ [row]
      distinct := by
        rw [List.map_append]
        refine List.Nodup.append table.distinct (List.nodup_singleton _) ?_
        intro key member single
        obtain rfl := List.mem_singleton.mp single
        exact taken member }

/-- Every row is changed, or the whole statement fails. -/
def traverse (table : Table Row id) (change : Row → Option Row)
    (keeps : ∀ row row', change row = some row' → id row' = id row) : Option (Table Row id) :=
  match changed : table.rows.mapM change with
  | none => none
  | some rows => some ⟨rows, ids_of_mapM keeps changed ▸ table.distinct⟩

/-! ### What the statements leave under an id -/

variable {table : Table Row id} {key wanted : Nat} {row : Row}

theorem id_of_get (found : table.get key = some row) : id row = key := by
  simpa using List.find?_some found

theorem mem_of_get (found : table.get key = some row) : row ∈ table.rows :=
  List.mem_of_find?_eq_some found

theorem get_of_mem (mem : row ∈ table.rows) : table.get (id row) = some row := by
  obtain ⟨rows, distinct⟩ := table
  change rows.find? (fun other => id other = id row) = some row
  induction rows with
  | nil => cases mem
  | cons first rows ih =>
    obtain ⟨fresh, distinct⟩ := List.nodup_cons.mp distinct
    rcases List.mem_cons.mp mem with rfl | mem
    · exact List.find?_cons_of_pos (by simp)
    · have other : id first ≠ id row := fun eq => fresh (eq ▸ List.mem_map_of_mem mem)
      rw [List.find?_cons_of_neg (by simpa using other), ih distinct mem]

@[simp] theorem get_empty : (empty : Table Row id).get key = none :=
  rfl

theorem get_modify {change : Row → Row} (keeps : ∀ row, id (change row) = id row) :
    (table.modify key change keeps).get wanted =
      if wanted = key then (table.get wanted).map change else table.get wanted := by
  have test : (fun row => decide (id row = wanted)) ∘
      (fun row => if id row = key then change row else row) =
        fun row => decide (id row = wanted) := by
    funext row
    rw [Function.comp_apply]
    split
    · rw [keeps]
    · rfl
  rw [get, modify, List.find?_map, test]
  by_cases same : wanted = key
  · rw [if_pos same]
    refine Option.map_congr fun row found => ?_
    rw [if_pos ((id_of_get found).trans same)]
  · rw [if_neg same]
    refine (Option.map_congr fun row found => ?_).trans Option.map_id'
    rw [if_neg fun eq => same ((id_of_get found).symm.trans eq)]

theorem get_delete :
    (table.delete key).get wanted = if wanted = key then none else table.get wanted := by
  rw [get, delete, List.find?_filter]
  by_cases same : wanted = key
  · rw [if_pos same, List.find?_eq_none]
    intro row _
    simp [same]
  · rw [if_neg same, get]
    congr 1
    funext row
    by_cases found : id row = wanted
    · simp [found, same]
    · simp [found]

theorem get_eq_none : table.get key = none ↔ key ∉ table.rows.map id := by
  rw [get, List.find?_eq_none, List.mem_map]
  simp

theorem get_insert (fresh : table.get (id row) = none) :
    (table.insert row).get wanted = if wanted = id row then some row else table.get wanted := by
  rw [insert, dif_neg (get_eq_none.mp fresh), get, List.find?_append]
  by_cases same : wanted = id row
  · subst same
    have absent : table.rows.find? (fun other => id other = id row) = none := fresh
    simp [absent]
  · rw [if_neg same, get, List.find?_singleton]
    have other : ¬ id row = wanted := fun eq => same eq.symm
    simp [other]

/-- After an insertion there is the new row, besides those that there were. -/
theorem mem_insert {other : Row} (mem : other ∈ (table.insert row).rows) :
    other = row ∨ other ∈ table.rows := by
  unfold insert at mem
  split at mem
  · exact .inr mem
  · rcases List.mem_append.mp mem with old | new
    · exact .inr old
    · exact .inl (List.mem_singleton.mp new)

/-- After a modification a row is one that there was, changed if it has the id. -/
theorem mem_modify {change : Row → Row} (keeps : ∀ row, id (change row) = id row) {other : Row}
    (mem : other ∈ (table.modify key change keeps).rows) :
    other ∈ table.rows ∨ ∃ row, table.get key = some row ∧ other = change row := by
  obtain ⟨row, old, same⟩ := List.mem_map.mp mem
  split at same
  next found => exact .inr ⟨row, found ▸ get_of_mem old, same.symm⟩
  · exact .inl (same ▸ old)

theorem get_nextId : table.get table.nextId = none := by
  have bound : ∀ ids : List Nat, ∀ key ∈ ids, key ≤ ids.foldr max 0 := by
    intro ids
    induction ids with
    | nil => exact fun key member => (List.not_mem_nil member).elim
    | cons first ids ih =>
      intro key member
      rcases List.mem_cons.mp member with rfl | member
      · exact Nat.le_max_left _ _
      · exact Nat.le_trans (ih key member) (Nat.le_max_right _ _)
  rw [get_eq_none]
  intro member
  have := bound _ _ member
  simp only [nextId] at this
  omega

/-! ### A loop over all rows -/

variable {change : Row → Option Row}
  {keeps : ∀ row row', change row = some row' → id row' = id row} {table' : Table Row id}

theorem mapM_of_traverse (changed : table.traverse change keeps = some table') :
    table.rows.mapM change = some table'.rows := by
  unfold traverse at changed
  split at changed
  · cases changed
  case h_2 rows eq =>
    obtain rfl := Option.some.inj changed
    exact eq

theorem get_traverse (changed : table.traverse change keeps = some table') (wanted : Nat) :
    Option.Rel (fun row row' => id row = wanted ∧ change row = some row')
      (table.get wanted) (table'.get wanted) :=
  find?_of_mapM keeps (mapM_of_traverse changed) wanted

theorem exists_traverse (defined : ∀ row ∈ table.rows, ∃ row', change row = some row') :
    ∃ table', table.traverse change keeps = some table' := by
  obtain ⟨rows, changed⟩ := exists_mapM defined
  unfold traverse
  split
  case h_1 fails =>
    rw [changed] at fails
    cases fails
  case h_2 => exact ⟨_, rfl⟩

end Table
end PfsenseBackups.Tables
