import PfsenseBackups.CumulativeChanges
import PfsenseBackups.JsonText
import PfsenseBackups.Like
import PfsenseBackups.Pages
import PfsenseBackups.PfsenseCrypto

/-! The `/api/search` endpoint: a substring search over the anchor events of every instance, by a
`LIKE` on the JSON text of the value and on the anchor id. -/

namespace PfsenseBackups.Search
open Value AnchorEvents EventLog CumulativeChanges Selections JsonText Like Pages

/-- A row of `anchor_event` under its key. -/
structure EventRow where
  id : Nat
  instanceId : Nat
  event : AnchorEvent
  deriving DecidableEq

structure Tables where
  instances : List (Nat × String)
  events : List EventRow

structure SearchQuery where
  q : String
  instanceId : Option Nat := none
  kind : Option String := none
  limit : Nat := 50
  deriving DecidableEq

structure SearchHit where
  eventId : Nat
  instanceId : Nat
  instanceName : String
  backupId : Nat
  occurredAt : Nat
  anchorId : String
  kind : Kind
  section_ : Option String
  label : String
  excerpt : String
  deriving DecidableEq

structure SearchResponse where
  hits : List SearchHit
  hasMore : Bool
  deriving DecidableEq

/-! ### The pattern -/

/-- `text.replace(char, written)`. -/
def replaceChar (char : Char) (written : List Char) (text : List Char) : List Char :=
  text.flatMap fun other => if other = char then written else [other]

/-- `_escape_like`. -/
def escapeLike (q : List Char) : List Char :=
  replaceChar '_' ['\\', '_'] (replaceChar '%' ['\\', '%'] (replaceChar '\\' ['\\', '\\'] q))

def pattern (q : List Char) : List Char :=
  '%' :: (escapeLike q ++ ['%'])

def likeSigns : Signs Char :=
  ⟨'%', '_', '\\'⟩

/-- `text LIKE pattern ESCAPE '\'`, which ignores ASCII case. -/
def textLike (q text : List Char) : Bool :=
  like likeSigns Char.toLower (pattern q) text

/-- The three replacements come to one pass over the text. -/
theorem escapeLike_eq (q : List Char) : escapeLike q = escaped likeSigns q := by
  rw [escapeLike, replaceChar, replaceChar, replaceChar, List.flatMap_assoc, List.flatMap_assoc,
    escaped]
  congr 1
  funext char
  by_cases backslash : char = '\\'
  · subst backslash
    decide
  · by_cases percent : char = '%'
    · subst percent
      decide
    · by_cases underscore : char = '_'
      · subst underscore
        decide
      · simp [likeSigns, backslash, percent, underscore]

/-- A query finds just the texts that it occurs in, ASCII case ignored. -/
theorem textLike_iff (q text : List Char) :
    textLike q text = true ↔ q.map Char.toLower <:+: text.map Char.toLower := by
  rw [textLike, pattern, escapeLike_eq]
  exact like_escaped (by decide) q text

/-! ### The endpoint -/

/-- The `value_json` column. -/
def valueText (event : AnchorEvent) : Option (List Char) :=
  event.value.map dumps

/-- `value_json.like(pattern) | anchor_id.like(pattern)`. -/
def textMatches (q : List Char) (event : AnchorEvent) : Bool :=
  (valueText event).any (textLike q) || textLike q event.anchorId.toList

def kindName : Kind → String
  | .added => "added"
  | .modified => "modified"
  | .removed => "removed"
  | .reordered => "reordered"

/-- The bounds of the parameters, and the check of `kind`; other requests are answered with 422. -/
def accepted (query : SearchQuery) : Bool :=
  2 ≤ query.q.length && query.q.length ≤ 256 && 1 ≤ query.limit && query.limit ≤ 100 &&
    query.kind.all (["added", "modified", "removed", "reordered"].contains ·)

/-- The events with the names of their instances. -/
def joined (tables : Tables) : List (EventRow × String) :=
  tables.events.filterMap fun row =>
    (tables.instances.lookup row.instanceId).map fun name => (row, name)

/-- The conditions of the statement, up to the cursor. -/
def selects (query : SearchQuery) (entry : EventRow × String) : Bool :=
  textMatches query.q.toList entry.1.event &&
    query.instanceId.all (entry.1.instanceId = ·) &&
    query.kind.all (kindName entry.1.event.kind = ·)

/-- `order_by(occurred_at.desc(), id.desc())`. -/
def eventOrder (entry : EventRow × String) : Nat ×ₗ Nat :=
  toLex (entry.1.event.occurredAt, entry.1.id)

section Endpoint

-- `str.lower`.
variable (lower : List Char → List Char)

def excerptRadius : Nat := 40

/-- `_excerpt`. -/
def excerptOf (valueJson : Option (List Char)) (q : List Char) : String :=
  match valueJson with
  | none | some [] => ""
  | some text =>
    match PfsenseCrypto.find (lower q) (lower text) with
    | none => String.ofList (text.take (excerptRadius * 2))
    | some idx =>
      let start := idx - excerptRadius
      let stop := min text.length (idx + q.length + excerptRadius)
      let lead := if 0 < start then "…" else ""
      let trail := if stop < text.length then "…" else ""
      lead ++ String.ofList ((text.take stop).drop start) ++ trail

/-- `_label`. -/
def labelOf (anchorId : String) (section_ : Option String) (value : Option Val) : String :=
  match section_, value with
  | some name, some (.dict row) =>
    let label := labelForSection name row
    if name ≠ "" ∧ label ≠ "" ∧ label ≠ "?" then label else anchorTail anchorId
  | _, _ => anchorTail anchorId

def searchHit (q : List Char) (entry : EventRow × String) : SearchHit :=
  let ev := entry.1.event
  let section_ := sectionForAnchor ev.anchorId
  { eventId := entry.1.id
    instanceId := entry.1.instanceId
    instanceName := entry.2
    backupId := ev.backupId
    occurredAt := ev.occurredAt
    anchorId := ev.anchorId
    kind := ev.kind
    section_ := section_
    label := labelOf ev.anchorId section_ ev.value
    excerpt := excerptOf lower (valueText ev) q }

/-- `search`. -/
def search (tables : Tables) (query : SearchQuery) (beforeId : Option Nat) :
    Option SearchResponse :=
  if accepted query then
    let found := (joined tables).filter fun entry =>
      selects query entry && beforeId.all (entry.1.id < ·)
    let rows := (newestFirst eventOrder found).take (query.limit + 1)
    let hasMore := query.limit < rows.length
    let rows := rows.take query.limit
    some ⟨rows.map (searchHit lower query.q.toList), hasMore⟩
  else none

variable {lower}

/-! ### Pages -/

/-- The results of a query, newest first. -/
def results (tables : Tables) (query : SearchQuery) : List (EventRow × String) :=
  newestFirst eventOrder ((joined tables).filter (selects query))

def entryId (entry : EventRow × String) : Nat :=
  entry.1.id

/-- What is left of a listing below the cursor. -/
def below (beforeId : Option Nat) (listing : List (EventRow × String)) :
    List (EventRow × String) :=
  listing.filter fun entry => beforeId.all (entryId entry < ·)

theorem found_eq (tables : Tables) (query : SearchQuery) (beforeId : Option Nat) :
    newestFirst eventOrder ((joined tables).filter fun entry =>
      selects query entry && beforeId.all (entry.1.id < ·)) =
        below beforeId (results tables query) := by
  rw [below, results, ← newestFirst_filter, List.filter_filter]
  refine congrArg _ (List.filter_congr fun entry _ => ?_)
  exact Bool.and_comm _ _

/-- A page of the results: so many entries below the cursor, and whether there are more. -/
theorem search_eq {query : SearchQuery} (valid : accepted query = true) (tables : Tables)
    (beforeId : Option Nat) :
    search lower tables query beforeId = some
      ⟨((below beforeId (results tables query)).take query.limit).map
        (searchHit lower query.q.toList),
        decide (query.limit < (below beforeId (results tables query)).length)⟩ := by
  simp only [search, if_pos valid, found_eq, List.take_take, min_eq_left (Nat.le_succ _)]
  congr 2
  simp

variable (lower) in
/-- The hits that a reader sees who follows `has_more`, with the id of the last hit as
`before_id`. -/
inductive Follows (tables : Tables) (query : SearchQuery) :
    Option Nat → List SearchHit → Prop where
  | last {beforeId : Option Nat} {response : SearchResponse}
    (answer : search lower tables query beforeId = some response)
    (done : response.hasMore = false) : Follows tables query beforeId response.hits
  | more {beforeId : Option Nat} {response : SearchResponse} {final : SearchHit}
    {listed : List SearchHit} (answer : search lower tables query beforeId = some response)
    (more : response.hasMore = true) (cursor : response.hits.getLast? = some final)
    (next : Follows tables query (some final.eventId) listed) :
    Follows tables query beforeId (response.hits ++ listed)

end Endpoint

end PfsenseBackups.Search
