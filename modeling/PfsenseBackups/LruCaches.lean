import Mathlib.Data.List.Nodup

/-! Caches of bounded size that drop what was used least recently, and the variant whose items
also lapse. Their items are listed from the least to the most recently used. -/

namespace PfsenseBackups.LruCaches

structure LruCache (Key Value : Type*) (maxsize : Nat) where
  items : List (Key × Value)
  fits : items.length ≤ maxsize
  distinct : (items.map Prod.fst).Nodup

variable {Key Value : Type*} {maxsize : Nat}

namespace LruCache

def empty : LruCache Key Value maxsize where
  items := []
  fits := Nat.zero_le _
  distinct := List.nodup_nil

/-- Keep the items that pass a test. -/
def filter (cache : LruCache Key Value maxsize) (keep : Key × Value → Bool) :
    LruCache Key Value maxsize where
  items := cache.items.filter keep
  fits := Nat.le_trans (List.length_filter_le _ _) cache.fits
  distinct := (List.filter_sublist.map _).nodup cache.distinct

@[simp]
theorem items_filter (cache : LruCache Key Value maxsize) (keep : Key × Value → Bool) :
    (cache.filter keep).items = cache.items.filter keep :=
  rfl

variable [DecidableEq Key]

def find? (cache : LruCache Key Value maxsize) (key : Key) : Option Value :=
  (cache.items.find? fun item => item.1 = key).map Prod.snd

theorem mem_of_find? {cache : LruCache Key Value maxsize} {key : Key} {value : Value}
    (found : cache.find? key = some value) : (key, value) ∈ cache.items := by
  obtain ⟨item, here, rfl⟩ := Option.map_eq_some_iff.mp found
  have same : item.1 = key := by simpa using List.find?_some here
  have member := List.mem_of_find?_eq_some here
  rwa [← same]

theorem touched_perm (items : List (Key × Value)) (key : Key) :
    (items.filter (fun item => item.1 ≠ key) ++ items.filter fun item => item.1 = key).Perm items := by
  have perm := List.filter_append_perm (fun item : Key × Value => decide (item.1 = key)) items
  simp only [← decide_not] at perm
  exact List.perm_append_comm.trans perm

/-- A key that is used moves to the end. -/
def touch (cache : LruCache Key Value maxsize) (key : Key) : LruCache Key Value maxsize where
  items := cache.items.filter (fun item => item.1 ≠ key) ++
    cache.items.filter fun item => item.1 = key
  fits := by
    rw [(touched_perm cache.items key).length_eq]
    exact cache.fits
  distinct := ((touched_perm cache.items key).map Prod.fst).nodup_iff.mpr cache.distinct

theorem mem_touch {cache : LruCache Key Value maxsize} {key : Key} {item : Key × Value} :
    item ∈ (cache.touch key).items ↔ item ∈ cache.items :=
  (touched_perm cache.items key).mem_iff

/-- A new item goes to the end, and the front makes room for it. -/
def insert (cache : LruCache Key Value maxsize) (key : Key) (value : Value) :
    LruCache Key Value maxsize where
  items :=
    let others := cache.items.filter fun item => item.1 ≠ key
    (others ++ [(key, value)]).drop (others.length + 1 - maxsize)
  fits := by
    simp only [List.length_drop, List.length_append, List.length_singleton]
    omega
  distinct := by
    refine ((List.drop_sublist _ _).map Prod.fst).nodup ?_
    rw [List.map_append, List.nodup_append]
    refine ⟨(cache.filter _).distinct, List.nodup_singleton _, ?_⟩
    intro old member new here
    obtain ⟨item, kept, rfl⟩ := List.mem_map.mp member
    obtain rfl := List.mem_singleton.mp here
    exact of_decide_eq_true (List.mem_filter.mp kept).2

theorem of_mem_insert {cache : LruCache Key Value maxsize} {key : Key} {value : Value}
    {item : Key × Value} (member : item ∈ (cache.insert key value).items) :
    item = (key, value) ∨ item ∈ cache.items := by
  rcases List.mem_append.mp (List.mem_of_mem_drop member) with old | new
  · exact .inr (List.mem_filter.mp old).1
  · exact .inl (List.mem_singleton.mp new)

end LruCache

/-- A cache whose items come with the time at which they lapse. -/
abbrev TtlCache (Key Value : Type*) (maxsize : Nat) : Type _ :=
  LruCache Key (Value × Nat) maxsize

namespace TtlCache

/-- Lapsed items are dropped when another is stored. -/
def expire (cache : TtlCache Key Value maxsize) (now : Nat) : TtlCache Key Value maxsize :=
  cache.filter fun item => now < item.2.2

variable [DecidableEq Key]

def current? (cache : TtlCache Key Value maxsize) (now : Nat) (key : Key) : Option Value :=
  ((cache.find? key).filter fun value => now < value.2).map Prod.fst

def store (cache : TtlCache Key Value maxsize) (now ttl : Nat) (key : Key) (value : Value) :
    TtlCache Key Value maxsize :=
  (expire cache now).insert key (value, now + ttl)

theorem mem_of_current? {cache : TtlCache Key Value maxsize} {now : Nat} {key : Key} {value : Value}
    (found : current? cache now key = some value) :
    ∃ lapses, (key, value, lapses) ∈ cache.items ∧ now < lapses := by
  obtain ⟨held, kept, rfl⟩ := Option.map_eq_some_iff.mp found
  obtain ⟨here, fresh⟩ := Option.filter_eq_some_iff.mp kept
  exact ⟨held.2, LruCache.mem_of_find? here, of_decide_eq_true fresh⟩

theorem of_mem_store {cache : TtlCache Key Value maxsize} {now ttl : Nat} {key : Key}
    {value : Value} {item : Key × Value × Nat} (member : item ∈ (store cache now ttl key value).items) :
    item = (key, value, now + ttl) ∨ item ∈ cache.items :=
  (LruCache.of_mem_insert member).imp id fun old => (List.mem_filter.mp old).1

end TtlCache

end PfsenseBackups.LruCaches
