import Mathlib.Data.List.Nodup

/-! # String-keyed maps

`std::unordered_map<std::string, V>` as the list of its entries in iteration
order, with the keys distinct.  The standard leaves the iteration order
unspecified; the model iterates in insertion order, and no result below depends
on the order beyond membership.  `emplace` inserts only when the key is new, as
the standard's does.
-/
namespace RadioControl

/-- A string-keyed map: its entries in iteration order, no key twice. -/
structure UnorderedMap (V : Type) where
  entries : List (String × V)
  nodup : (entries.map Prod.fst).Nodup

namespace UnorderedMap
variable {V : Type} (m : UnorderedMap V)

def empty : UnorderedMap V := ⟨[], List.nodup_nil⟩

/-- `clear()`. -/
def clear (_m : UnorderedMap V) : UnorderedMap V := empty

def keys : List String := m.entries.map Prod.fst

/-- `find(k)`, with `none` for `end()`. -/
def find (k : String) : Option V := m.entries.lookup k

/-- `emplace(k, v)`: a new entry when `k` is absent, no change otherwise. -/
def emplace (k : String) (v : V) : UnorderedMap V :=
  if h : k ∈ m.keys then m
  else ⟨m.entries ++ [(k, v)], by
    rw [List.map_append, List.nodup_append]
    exact ⟨m.nodup, List.nodup_singleton _, by simpa [keys] using h⟩⟩

/-- Apply `f` to the value at `k`, in place. -/
def modify (k : String) (f : V → V) : UnorderedMap V :=
  ⟨m.entries.map (fun e => if e.1 = k then (e.1, f e.2) else e), by
    have : (m.entries.map fun e => if e.1 = k then (e.1, f e.2) else e).map Prod.fst =
        m.entries.map Prod.fst := by
      rw [List.map_map]; congr 1; funext e; simp only [Function.comp]; split <;> rfl
    rw [this]; exact m.nodup⟩

/-! ## Lookup -/

@[simp] theorem empty_entries : (empty : UnorderedMap V).entries = [] := rfl

@[simp] theorem clear_entries : m.clear.entries = [] := rfl

theorem find_eq_some_iff {k : String} {v : V} : m.find k = some v ↔ (k, v) ∈ m.entries := by
  obtain ⟨entries, nodup⟩ := m
  simp only [find]
  induction entries with
  | nil => simp
  | cons e es ih =>
    obtain ⟨k', v'⟩ := e
    simp only [List.map_cons, List.nodup_cons, List.mem_map] at nodup
    by_cases hk : k = k'
    · subst hk
      simp only [List.lookup_cons_self, Option.some.injEq, List.mem_cons, Prod.mk.injEq, true_and]
      exact ⟨fun h => .inl h.symm, fun h => h.elim Eq.symm
        fun hm => absurd ⟨(k, v), hm, rfl⟩ nodup.1⟩
    · simp [List.lookup_cons, beq_false_of_ne hk, ih nodup.2, hk]

/-- No key has two entries. -/
theorem eq_of_mem_entries {k : String} {v v' : V} (h : (k, v) ∈ m.entries)
    (h' : (k, v') ∈ m.entries) : v = v' :=
  Option.some.inj (((m.find_eq_some_iff).2 h).symm.trans ((m.find_eq_some_iff).2 h'))

theorem mem_keys_iff {k : String} : k ∈ m.keys ↔ ∃ v, m.find k = some v := by
  simp [keys, find_eq_some_iff]

theorem find_eq_none_iff {k : String} : m.find k = none ↔ k ∉ m.keys := by
  rw [mem_keys_iff, Option.eq_none_iff_forall_not_mem]; simp

/-! ## Entries after each update -/

theorem emplace_entries (k : String) (v : V) :
    (m.emplace k v).entries = if k ∈ m.keys then m.entries else m.entries ++ [(k, v)] := by
  unfold emplace; split <;> simp [*]

theorem mem_emplace_entries {k k' : String} {v v' : V} :
    (k', v') ∈ (m.emplace k v).entries ↔ (k', v') ∈ m.entries ∨ (k ∉ m.keys ∧ k' = k ∧ v' = v) := by
  rw [emplace_entries]
  split <;> simp [*]

/-- A lookup after `emplace(k, v)` finds what it found before, or else `v` at `k`. -/
theorem find_emplace (k j : String) (v : V) :
    (m.emplace k v).find j = (m.find j).or (if j = k then some v else none) := by
  unfold emplace
  split
  · next hk =>
    by_cases hj : j = k
    · obtain ⟨v', hv'⟩ := (m.mem_keys_iff).1 hk
      simp [hj, hv']
    · simp [hj]
  · by_cases hj : j = k <;> simp [find, List.lookup_append, List.lookup_cons, beq_false_of_ne, hj]

theorem mem_emplace_keys {k k' : String} {v : V} :
    k' ∈ (m.emplace k v).keys ↔ k' ∈ m.keys ∨ k' = k := by
  simp only [keys, emplace_entries]
  split
  · constructor
    · exact .inl
    · rintro (h | rfl) <;> assumption
  · simp

@[simp] theorem modify_keys (k : String) (f : V → V) : (m.modify k f).keys = m.keys := by
  simp only [keys, modify, List.map_map]; congr 1; funext e; simp only [Function.comp]
  split <;> rfl

theorem mem_modify_entries {k k' : String} {f : V → V} {v : V} :
    (k', v) ∈ (m.modify k f).entries ↔
      ∃ v', (k', v') ∈ m.entries ∧ v = if k' = k then f v' else v' := by
  simp only [modify, List.mem_map]
  constructor
  · rintro ⟨⟨k'', v'⟩, he, h⟩
    split at h <;> obtain ⟨rfl, rfl⟩ := Prod.mk.inj h <;> exact ⟨v', he, by simp_all⟩
  · rintro ⟨v', he, rfl⟩
    exact ⟨(k', v'), he, by split <;> simp_all⟩

end UnorderedMap
end RadioControl
