import Mathlib

namespace Caches

universe u v w

variable {κ : Type u} {ν : Type v} {τ : Type w} {maxsize : Nat}

structure Entry (κ : Type u) (ν : Type v) (τ : Type w) where
  key : κ
  value : ν
  expires : τ

/-- A cache whose entries live for a limited time and of which the least recently used one makes
    room for a new one. The entries are listed from the least to the most recently used. -/
structure TTLCache (κ : Type u) (ν : Type v) (τ : Type w) (maxsize : Nat) where
  entries : List (Entry κ ν τ)
  distinct : (entries.map Entry.key).Nodup
  bounded : entries.length ≤ maxsize

namespace TTLCache

def empty : TTLCache κ ν τ maxsize := ⟨[], List.nodup_nil, Nat.zero_le _⟩

def restrict (cache : TTLCache κ ν τ maxsize) {rest : List (Entry κ ν τ)}
    (sublist : rest.Sublist cache.entries) : TTLCache κ ν τ maxsize where
  entries := rest
  distinct := cache.distinct.sublist (sublist.map _)
  bounded := Nat.le_trans sublist.length_le cache.bounded

def append (cache : TTLCache κ ν τ maxsize) (entry : Entry κ ν τ)
    (fresh : entry.key ∉ cache.entries.map Entry.key) (room : cache.entries.length < maxsize) :
    TTLCache κ ν τ maxsize where
  entries := cache.entries ++ [entry]
  distinct := by
    rw [List.map_append]
    refine List.nodup_append.mpr ⟨cache.distinct, List.nodup_singleton _, ?_⟩
    intro key member other last same
    cases List.mem_singleton.mp last
    exact fresh (same ▸ member)
  bounded := by
    rw [List.length_append]
    exact room

section Keys

variable [DecidableEq κ]

def find? (cache : TTLCache κ ν τ maxsize) (key : κ) : Option (Entry κ ν τ) :=
  cache.entries.find? fun entry => entry.key = key

def remove (cache : TTLCache κ ν τ maxsize) (key : κ) : TTLCache κ ν τ maxsize :=
  cache.restrict (List.filter_sublist (p := fun entry => decide (entry.key ≠ key)))

theorem mem_remove (cache : TTLCache κ ν τ maxsize) (key : κ) (entry : Entry κ ν τ) :
    entry ∈ (cache.remove key).entries ↔ entry ∈ cache.entries ∧ entry.key ≠ key := by
  simp [remove, restrict]

theorem remove_fresh (cache : TTLCache κ ν τ maxsize) (key : κ) :
    key ∉ (cache.remove key).entries.map Entry.key := by
  intro member
  obtain ⟨entry, inside, same⟩ := List.mem_map.mp member
  exact ((cache.mem_remove key entry).mp inside).2 same

theorem remove_shorter (cache : TTLCache κ ν τ maxsize) {entry : Entry κ ν τ}
    (member : entry ∈ cache.entries) :
    (cache.remove entry.key).entries.length < cache.entries.length :=
  List.length_filter_lt_length_iff_exists.mpr ⟨entry, member, by simp⟩

theorem find?_eq_some (cache : TTLCache κ ν τ maxsize) (key : κ) (entry : Entry κ ν τ) :
    cache.find? key = some entry ↔ entry ∈ cache.entries ∧ entry.key = key := by
  constructor
  · intro found
    exact ⟨List.mem_of_find?_eq_some found, by simpa using List.find?_some found⟩
  · rintro ⟨member, same⟩
    cases found : cache.find? key with
    | none => simpa [same] using List.find?_eq_none.mp found entry member
    | some other =>
      have there : other.key = key := by simpa using List.find?_some found
      rw [List.inj_on_of_nodup_map cache.distinct (List.mem_of_find?_eq_some found) member
        (there.trans same.symm)]

def touch (cache : TTLCache κ ν τ maxsize) (key : κ) : TTLCache κ ν τ maxsize :=
  match found : cache.find? key with
  | none => cache
  | some entry => (cache.remove key).append entry
    (((cache.find?_eq_some key entry).mp found).2 ▸ cache.remove_fresh key)
    (by
      obtain ⟨member, rfl⟩ := (cache.find?_eq_some key entry).mp found
      exact Nat.lt_of_lt_of_le (cache.remove_shorter member) cache.bounded)

theorem mem_touch (cache : TTLCache κ ν τ maxsize) (key : κ) (entry : Entry κ ν τ) :
    entry ∈ (cache.touch key).entries ↔ entry ∈ cache.entries := by
  unfold touch
  split
  · exact Iff.rfl
  next other found =>
    obtain ⟨member, there⟩ := (cache.find?_eq_some key other).mp found
    simp only [append, List.mem_append, List.mem_singleton, mem_remove]
    constructor
    · rintro (⟨inside, _⟩ | rfl)
      · exact inside
      · exact member
    · intro inside
      by_cases same : entry.key = key
      · exact Or.inr (List.inj_on_of_nodup_map cache.distinct inside member (same.trans there.symm))
      · exact Or.inl ⟨inside, same⟩

end Keys

def popitem (cache : TTLCache κ ν τ maxsize) : TTLCache κ ν τ maxsize :=
  cache.restrict (List.tail_sublist cache.entries)

section Time

variable [LinearOrder τ]

def expire (cache : TTLCache κ ν τ maxsize) (time : τ) : TTLCache κ ν τ maxsize :=
  cache.restrict (List.filter_sublist (p := fun entry => decide (time < entry.expires)))

theorem mem_expire (cache : TTLCache κ ν τ maxsize) (time : τ) (entry : Entry κ ν τ) :
    entry ∈ (cache.expire time).entries ↔ entry ∈ cache.entries ∧ time < entry.expires := by
  simp [expire, restrict]

variable [DecidableEq κ]

def lookup (cache : TTLCache κ ν τ maxsize) (time : τ) (key : κ) : Option ν :=
  ((cache.find? key).filter fun entry => time < entry.expires).map Entry.value

theorem lookup_eq_some (cache : TTLCache κ ν τ maxsize) (time : τ) (key : κ) (value : ν) :
    cache.lookup time key = some value ↔
      ∃ entry ∈ cache.entries, entry.key = key ∧ entry.value = value ∧ time < entry.expires := by
  simp only [lookup, Option.map_eq_some_iff, Option.filter_eq_some_iff, find?_eq_some,
    decide_eq_true_eq]
  constructor
  · rintro ⟨entry, ⟨⟨member, same⟩, live⟩, rfl⟩
    exact ⟨entry, member, same, rfl, live⟩
  · rintro ⟨entry, member, same, rfl, live⟩
    exact ⟨entry, ⟨⟨member, same⟩, live⟩, rfl⟩

def get (cache : TTLCache κ ν τ maxsize) (time : τ) (key : κ) :
    Option ν × TTLCache κ ν τ maxsize :=
  match cache.lookup time key with
  | none => (none, cache)
  | some value => (some value, cache.touch key)

def pop (cache : TTLCache κ ν τ maxsize) (time : τ) (key : κ) : TTLCache κ ν τ maxsize :=
  match cache.lookup time key with
  | none => cache
  | some _ => cache.remove key

section Reads

variable {cache : TTLCache κ ν τ maxsize} {time later : τ} {key other : κ} {value : ν}

theorem mem_get (cache : TTLCache κ ν τ maxsize) (time : τ) (key : κ) (entry : Entry κ ν τ) :
    entry ∈ (cache.get time key).2.entries ↔ entry ∈ cache.entries := by
  unfold get
  split
  · exact Iff.rfl
  · exact cache.mem_touch key entry

theorem lookup_congr {cache' : TTLCache κ ν τ maxsize}
    (same : ∀ entry, entry ∈ cache'.entries ↔ entry ∈ cache.entries) (time : τ) (key : κ) :
    cache'.lookup time key = cache.lookup time key := by
  ext value
  simp only [lookup_eq_some, same]

theorem lookup_earlier (earlier : time ≤ later) (found : cache.lookup later key = some value) :
    cache.lookup time key = some value := by
  rw [lookup_eq_some] at found ⊢
  obtain ⟨entry, member, same, there, live⟩ := found
  exact ⟨entry, member, same, there, lt_of_le_of_lt earlier live⟩

theorem mem_pop {entry : Entry κ ν τ} (member : entry ∈ (cache.pop time key).entries) :
    entry ∈ cache.entries ∧ (time < entry.expires → entry.key ≠ key) := by
  unfold pop at member
  split at member
  next gone =>
    refine ⟨member, fun live same => ?_⟩
    have found := (cache.lookup_eq_some time key entry.value).mpr ⟨entry, member, same, rfl, live⟩
    rw [gone] at found
    cases found
  next =>
    obtain ⟨inside, unlike⟩ := (cache.mem_remove key entry).mp member
    exact ⟨inside, fun _ => unlike⟩

theorem lookup_pop (cache : TTLCache κ ν τ maxsize) (time : τ) (key other : κ) :
    (cache.pop time key).lookup time other =
      if other = key then none else cache.lookup time other := by
  ext value
  simp only [lookup_eq_some]
  split
  next same =>
    subst same
    refine iff_of_false ?_ (fun found => nomatch found)
    rintro ⟨entry, member, same, _, live⟩
    exact (mem_pop member).2 live same
  next unlike =>
    constructor
    · rintro ⟨entry, member, same, there, live⟩
      exact cache.lookup_eq_some time other value |>.mpr
        ⟨entry, (mem_pop member).1, same, there, live⟩
    · intro found
      obtain ⟨entry, member, rfl, there, live⟩ := (cache.lookup_eq_some time other value).mp found
      refine ⟨entry, ?_, rfl, there, live⟩
      unfold pop
      split
      · exact member
      · exact (cache.mem_remove key entry).mpr ⟨member, unlike⟩

end Reads

variable [Add τ]

def set [NeZero maxsize] (cache : TTLCache κ ν τ maxsize) (ttl time : τ) (key : κ) (value : ν) :
    TTLCache κ ν τ maxsize :=
  let live := cache.expire time
  if known : (live.find? key).isSome then
    (live.remove key).append ⟨key, value, time + ttl⟩ (live.remove_fresh key) (by
      obtain ⟨entry, found⟩ := Option.isSome_iff_exists.mp known
      obtain ⟨member, rfl⟩ := (live.find?_eq_some key entry).mp found
      exact Nat.lt_of_lt_of_le (live.remove_shorter member) live.bounded)
  else if room : live.entries.length < maxsize then
    live.append ⟨key, value, time + ttl⟩ (by
      intro member
      obtain ⟨entry, inside, same⟩ := List.mem_map.mp member
      exact known (Option.isSome_iff_exists.mpr ⟨entry, (live.find?_eq_some key entry).mpr
        ⟨inside, same⟩⟩)) room
  else
    live.popitem.append ⟨key, value, time + ttl⟩ (by
      intro member
      obtain ⟨entry, inside, same⟩ := List.mem_map.mp member
      exact known (Option.isSome_iff_exists.mpr ⟨entry, (live.find?_eq_some key entry).mpr
        ⟨List.mem_of_mem_tail inside, same⟩⟩)) (by
      show live.entries.tail.length < maxsize
      have bounded := live.bounded
      have positive := Nat.pos_of_ne_zero (NeZero.ne maxsize)
      rw [List.length_tail]
      omega)

section Set

variable [NeZero maxsize] {cache : TTLCache κ ν τ maxsize} {ttl time later : τ} {key other : κ}
  {value : ν}

theorem mem_set {entry : Entry κ ν τ} (member : entry ∈ (cache.set ttl time key value).entries) :
    entry = ⟨key, value, time + ttl⟩ ∨ entry ∈ cache.entries ∧ entry.key ≠ key := by
  have absent : ((cache.expire time).find? key).isSome ≠ true →
      ∀ entry ∈ (cache.expire time).entries, entry.key ≠ key := by
    intro unknown entry inside same
    exact unknown (Option.isSome_iff_exists.mpr
      ⟨entry, ((cache.expire time).find?_eq_some key entry).mpr ⟨inside, same⟩⟩)
  unfold set at member
  dsimp only at member
  split at member
  · rcases List.mem_append.mp member with inside | last
    · obtain ⟨inside, unlike⟩ := (mem_remove _ key entry).mp inside
      exact Or.inr ⟨((cache.mem_expire time entry).mp inside).1, unlike⟩
    · exact Or.inl (List.mem_singleton.mp last)
  next unknown =>
    split at member
    · rcases List.mem_append.mp member with inside | last
      · exact Or.inr ⟨((cache.mem_expire time entry).mp inside).1, absent unknown entry inside⟩
      · exact Or.inl (List.mem_singleton.mp last)
    · rcases List.mem_append.mp member with inside | last
      · have inside := List.mem_of_mem_tail inside
        exact Or.inr ⟨((cache.mem_expire time entry).mp inside).1, absent unknown entry inside⟩
      · exact Or.inl (List.mem_singleton.mp last)

theorem set_mem (cache : TTLCache κ ν τ maxsize) (ttl time : τ) (key : κ) (value : ν) :
    ⟨key, value, time + ttl⟩ ∈ (cache.set ttl time key value).entries := by
  unfold set
  dsimp only
  split
  · exact List.mem_append_right _ (List.mem_singleton_self _)
  · split
    · exact List.mem_append_right _ (List.mem_singleton_self _)
    · exact List.mem_append_right _ (List.mem_singleton_self _)

theorem lookup_set_self (cache : TTLCache κ ν τ maxsize) (ttl : τ) (key : κ) (value : ν)
    (positive : time < time + ttl) : (cache.set ttl time key value).lookup time key = some value :=
  (lookup_eq_some ..).mpr ⟨_, cache.set_mem ttl time key value, rfl, rfl, positive⟩

theorem lookup_set_of_ne (unlike : other ≠ key) {found : ν}
    (there : (cache.set ttl time key value).lookup later other = some found) :
    cache.lookup later other = some found := by
  rw [lookup_eq_some] at there ⊢
  obtain ⟨entry, member, rfl, same, live⟩ := there
  rcases mem_set member with rfl | ⟨inside, _⟩
  · exact absurd rfl unlike
  · exact ⟨entry, inside, rfl, same, live⟩

end Set

end Time

end TTLCache

end Caches
