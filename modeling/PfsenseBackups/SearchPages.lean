import PfsenseBackups.Search

/-! The pages of a search. They are in the order of time, and the cursor is an id: what is listed
depends on whether the ids follow the time where one page ends and the next begins. -/

namespace PfsenseBackups.SearchPages
open Selections Pages Search

variable {lower : List Char → List Char} {tables : Tables} {query : SearchQuery}

/-! ### The walk over the pages -/

theorem below_none (listing : List (EventRow × String)) : below none listing = listing :=
  List.filter_eq_self.mpr fun _ _ => rfl

/-- A cursor taken from what another cursor leaves is the lower one. -/
theorem below_below {beforeId : Option Nat} {listing : List (EventRow × String)}
    {final : EventRow × String} (member : final ∈ below beforeId listing) :
    below (some (entryId final)) listing =
      (below beforeId listing).filter fun entry => entryId entry < entryId final := by
  have low := List.of_mem_filter member
  rw [below, below, List.filter_filter]
  refine List.filter_congr fun entry _ => ?_
  cases beforeId with
  | none => simp
  | some bound =>
    simp only [Option.all_some, decide_eq_true_eq] at low
    by_cases less : entryId entry < entryId final
    · simp [less, less.trans low]
    · simp [less]

theorem follows_of_paged (valid : accepted query = true)
    {listing listed : List (EventRow × String)} (paged : Paged entryId query.limit listing listed)
    {beforeId : Option Nat} (rest : listing = below beforeId (results tables query)) :
    Follows lower tables query beforeId (listed.map (searchHit lower query.q.toList)) := by
  have answer := @search_eq lower query valid tables beforeId
  induction paged generalizing beforeId with
  | @last listing fits =>
    rw [← rest, List.take_of_length_le fits] at answer
    exact .last answer (decide_eq_false (not_lt.mpr fits))
  | @more front rest' listed final full left next ih =>
    rw [← rest, take_page full] at answer
    have member : final ∈ below beforeId (results tables query) := rest ▸ by simp
    have longer : query.limit < (front ++ final :: rest').length := by
      have some := List.length_pos_iff.mpr left
      rw [List.length_append, List.length_cons]
      omega
    have later := ih (rest.symm ▸ (below_below member).symm) (search_eq valid tables _)
    have cursor : ((front ++ [final]).map (searchHit lower query.q.toList)).getLast? =
        some (searchHit lower query.q.toList final) := by simp
    have whole := Follows.more answer (decide_eq_true longer) cursor later
    simpa using whole

theorem follows_unique {beforeId : Option Nat} {listed other : List SearchHit}
    (follows : Follows lower tables query beforeId listed)
    (follows' : Follows lower tables query beforeId other) : listed = other := by
  induction follows generalizing other with
  | last answer done =>
    cases follows' with
    | last answer' done' =>
      rw [answer, Option.some.injEq] at answer'
      rw [answer']
    | more answer' more cursor next =>
      rw [answer, Option.some.injEq] at answer'
      rw [answer', more] at done
      cases done
  | more answer more cursor next ih =>
    cases follows' with
    | last answer' done =>
      rw [answer, Option.some.injEq] at answer'
      rw [answer', done] at more
      cases more
    | more answer' more' cursor' next' =>
      rw [answer, Option.some.injEq] at answer'
      subst answer'
      rw [cursor, Option.some.injEq] at cursor'
      subst cursor'
      rw [ih next']

/-! ### What is listed -/

/-- The hits are the events that match, each of them once, and newest first. -/
structure CoversOnce (lower : List Char → List Char) (tables : Tables) (query : SearchQuery)
    (listed : List SearchHit) : Prop where
  once : listed.Perm
    (((joined tables).filter (selects query)).map (searchHit lower query.q.toList))
  newest : listed.Pairwise fun hit later => later.occurredAt ≤ hit.occurredAt

theorem results_perm : (results tables query).Perm ((joined tables).filter (selects query)) :=
  newestFirst_perm _ _

theorem results_order : (results tables query).Pairwise fun entry later =>
    later.1.event.occurredAt < entry.1.event.occurredAt ∨
      later.1.event.occurredAt = entry.1.event.occurredAt ∧ entryId later ≤ entryId entry :=
  (pairwise_newestFirst eventOrder _).imp fun order => Prod.Lex.le_iff.mp order

theorem joined_ids : ((joined tables).map entryId).Sublist (tables.events.map EventRow.id) := by
  rw [joined]
  induction tables.events with
  | nil => exact List.nil_sublist _
  | cons row rest ih =>
    rw [List.filterMap_cons]
    cases tables.instances.lookup row.instanceId with
    | none => exact ih.cons _
    | some name => exact ih.cons_cons _

theorem results_ids (keyed : (tables.events.map EventRow.id).Nodup) :
    ((results tables query).map entryId).Nodup := by
  have unique : ((joined tables).map entryId).Nodup := keyed.sublist joined_ids
  rw [(results_perm.map entryId).nodup_iff]
  exact unique.sublist (List.filter_sublist.map entryId)

theorem covers_iff {listed : List (EventRow × String)}
    (keyed : (tables.events.map EventRow.id).Nodup)
    (paged : Paged entryId query.limit (results tables query) listed) :
    CoversOnce lower tables query (listed.map (searchHit lower query.q.toList)) ↔
      Bordered entryId query.limit (results tables query) := by
  have unique : ((results tables query).map entryId).Nodup := results_ids keyed
  rw [← paged.perm_iff unique]
  constructor
  · intro covers
    -- The ids of the hits tell the events apart.
    have ids : (listed.map entryId).Perm ((results tables query).map entryId) := by
      have hits := covers.once.map SearchHit.eventId
      rw [List.map_map, List.map_map] at hits
      exact hits.trans (results_perm.map entryId).symm
    have distinct : listed.Nodup := List.Nodup.of_map entryId (ids.nodup_iff.mpr unique)
    have length : (results tables query).length ≤ listed.length := by
      simpa using ids.length_eq.ge
    exact (distinct.subperm paged.subset).perm_of_length_le length
  · intro perm
    have same := paged.eq_of_bordered (paged.bordered_of_perm unique perm)
    rw [same]
    refine ⟨results_perm.map _, ?_⟩
    rw [List.pairwise_map]
    refine results_order.imp fun {entry later} order => ?_
    rcases order with older | ⟨level, -⟩
    · exact older.le
    · exact level.le

/-- The ids of the matching events are in the order of their times. -/
def InTime (tables : Tables) (query : SearchQuery) : Prop :=
  ∀ entry ∈ results tables query, ∀ other ∈ results tables query,
    entry.1.event.occurredAt < other.1.event.occurredAt → entryId entry < entryId other

theorem descending_iff (keyed : (tables.events.map EventRow.id).Nodup) :
    ((results tables query).Pairwise fun entry later => entryId later < entryId entry) ↔
      InTime tables query := by
  have order : (results tables query).Pairwise _ := results_order
  constructor
  · intro descending entry member other member' earlier
    -- Of two events the one listed first has the greater id and is not the earlier one.
    have either : (results tables query).Pairwise fun x y =>
        (x.1.event.occurredAt < y.1.event.occurredAt → entryId x < entryId y) ∧
          (y.1.event.occurredAt < x.1.event.occurredAt → entryId y < entryId x) := by
      refine order.imp₂ (fun x y order below => ⟨fun early => ?_, fun _ => below⟩) descending
      omega
    have symmetric : Std.Symm fun x y : EventRow × String =>
        (x.1.event.occurredAt < y.1.event.occurredAt → entryId x < entryId y) ∧
          (y.1.event.occurredAt < x.1.event.occurredAt → entryId y < entryId x) :=
      ⟨fun _ _ => And.symm⟩
    have apart : entry ≠ other := fun same => by
      subst same
      exact lt_irrefl _ earlier
    exact (either.forall member member' apart).1 earlier
  · intro inTime
    have distinct : (results tables query).Pairwise fun x y => entryId x ≠ entryId y :=
      List.pairwise_map.mp (results_ids keyed)
    refine (List.Pairwise.and order distinct).imp_of_mem fun {entry later} member member' both => ?_
    obtain ⟨older | ⟨-, least⟩, apart⟩ := both
    · exact inTime later member' entry member older
    · exact lt_of_le_of_ne least apart.symm

/-- The pages are sound whatever their length exactly if the ids are in the order of time. -/
theorem bordered_iff_inTime (keyed : (tables.events.map EventRow.id).Nodup) :
    (∀ limit, Bordered entryId limit (results tables query)) ↔ InTime tables query := by
  rw [← descending_iff keyed]
  exact ⟨fun every => bordered_one_iff.mp (every 1), fun descending _ =>
    bordered_of_descending descending⟩

/-- Whoever follows `has_more` to its end sees one listing; it has every matching event once, newest
first, exactly if at the end of each page the ids have come down to that of the last hit, and the
later events lie below it. -/
theorem search_pages (lower : List Char → List Char) (valid : accepted query = true)
    (keyed : (tables.events.map EventRow.id).Nodup) :
    ∃ listed, Follows lower tables query none listed ∧
      (∀ other, Follows lower tables query none other → other = listed) ∧
      (CoversOnce lower tables query listed ↔
        Bordered entryId query.limit (results tables query)) := by
  have positive : 0 < query.limit := by
    simp only [accepted, Bool.and_eq_true, decide_eq_true_eq] at valid
    omega
  obtain ⟨listed, paged⟩ : ∃ listed, Paged entryId query.limit (results tables query) listed :=
    exists_paged positive _
  have follows : Follows lower tables query none (listed.map (searchHit lower query.q.toList)) :=
    follows_of_paged valid paged (below_none _).symm
  exact ⟨_, follows, fun other follows' => follows_unique follows' follows, covers_iff keyed paged⟩

def hostEvent (backupId occurredAt : Nat) : EventLog.AnchorEvent :=
  ⟨backupId, none, "xref-alias-mgmt_hosts", occurredAt, .added, some (.str "192.0.2.5")⟩

/-- The older backups of the first instance were indexed after those of the second. -/
def backfilled : Tables where
  instances := [(1, "gw-a"), (2, "gw-b")]
  events := [⟨1, 2, hostEvent 8 20⟩, ⟨2, 1, hostEvent 7 10⟩]

def firstPage : SearchQuery where
  q := "mgmt_hosts"
  limit := 1

def widePage : SearchQuery where
  q := "mgmt_hosts"
  limit := 2

theorem search_pages_wide : accepted widePage = true ∧
    ∃ listed, Follows (List.map Char.toLower) backfilled widePage none listed ∧
      (∀ other, Follows (List.map Char.toLower) backfilled widePage none other → other = listed) ∧
      (CoversOnce (List.map Char.toLower) backfilled widePage listed ↔
        Bordered entryId 2 (results backfilled widePage)) := by
  have valid : accepted widePage = true := by decide +kernel
  exact ⟨valid, search_pages (List.map Char.toLower) valid (by decide)⟩

/-- The event with the greater id comes last in time, and no page has it. -/
theorem backfilled_unlisted : accepted firstPage = true ∧
    (backfilled.events.map EventRow.id).Nodup ∧
    ¬ ∃ listed, Follows (List.map Char.toLower) backfilled firstPage none listed ∧
      CoversOnce (List.map Char.toLower) backfilled firstPage listed := by
  refine ⟨by decide +kernel, by decide, ?_⟩
  rintro ⟨listed, follows, covers⟩
  let newer : SearchHit := searchHit (List.map Char.toLower) firstPage.q.toList
    (⟨1, 2, hostEvent 8 20⟩, "gw-b")
  have first : search (List.map Char.toLower) backfilled firstPage none = some ⟨[newer], true⟩ := by
    decide +kernel
  have second : search (List.map Char.toLower) backfilled firstPage (some 1) =
      some ⟨[], false⟩ := by
    decide +kernel
  have walk : Follows (List.map Char.toLower) backfilled firstPage none ([newer] ++ []) :=
    .more first rfl rfl (.last second rfl)
  rw [follows_unique follows walk] at covers
  have two : ((joined backfilled).filter (selects firstPage)).length = 2 := by decide +kernel
  have length := covers.once.length_eq
  rw [List.length_map, two] at length
  cases length

end PfsenseBackups.SearchPages
