import RadioControl.RegistryRuns

/-! # What construction builds

`load_from_config` walks the configured radios in order, skips every entry
whose adapter is not `"silvus"`, and for each other one builds an adapter and
emplaces a descriptor under the entry's id.  `emplace` keeps what a key already
holds, so a later entry with the same id builds an adapter that no descriptor
points to.

The loop keeps one invariant (`LoadedFrom`): after the entries `done`, a key's
descriptor exists exactly when `done` has a `"silvus"` entry with that id, and
then it is the descriptor built from the first such entry, whose adapter is the
one that entry built.  Hence every key of a new manager names a descriptor
carrying the key, the adapter type `"silvus"`, an adapter with that id built
from the endpoint of the first entry, and that adapter's own state
(`descriptors_from_first_entry`).
-/
namespace RadioControl
namespace RadioManager

/-- The first `"silvus"` entry of `radios` with id `k`. -/
def firstSilvus (radios : List RadioProfile) (k : String) : Option RadioProfile :=
  radios.find? fun r => r.adapter = "silvus" ∧ r.id = k

theorem firstSilvus_append (done rest : List RadioProfile) (k : String) :
    firstSilvus (done ++ rest) k = (firstSilvus done k).or (firstSilvus rest k) :=
  List.find?_append

theorem firstSilvus_spec {radios : List RadioProfile} {k : String} {r : RadioProfile}
    (h : firstSilvus radios k = some r) : r.adapter = "silvus" ∧ r.id = k := by
  simpa using List.find?_some h

/-- **The loop invariant of `load_from_config`**: each key's descriptor is the
one built from the first `"silvus"` entry of `done` with that id, on an
allocated adapter that this entry built, and a key has a descriptor exactly
when there is such an entry. -/
def LoadedFrom (done : List RadioProfile) (m : RadioManager) : Prop :=
  ∀ k, Option.Rel
    (fun d r => d = loadedDescriptor r d.adapter ∧ d.adapter < m.next ∧
      m.heap d.adapter = SilvusAdapter.new r.id r.endpoint)
    (m.radios_.find k) (firstSilvus done k)

/-- Left-biased choice keeps a relation that holds of both alternatives. -/
theorem rel_or {α β : Type} {R R' : α → β → Prop} {a x : Option α} {b y : Option β}
    (hab : Option.Rel R a b) (hxy : Option.Rel R' x y) (hR : ∀ d r, R d r → R' d r) :
    Option.Rel R' (a.or x) (b.or y) := by
  cases hab with
  | some h => exact .some (hR _ _ h)
  | none => exact hxy

variable {m : RadioManager}

/-- One entry keeps the invariant, with that entry added to `done`. -/
theorem LoadedFrom.loadRadio {done : List RadioProfile} (h : LoadedFrom done m)
    (radio : RadioProfile) : LoadedFrom (done ++ [radio]) (m.loadRadio radio) := by
  intro k
  rw [firstSilvus_append]
  by_cases hs : radio.adapter = "silvus"
  · rw [loadRadio_silvus _ _ hs]
    simp only [UnorderedMap.find_emplace]
    refine rel_or (h k) ?_ fun d r ⟨hd, hlt, ha⟩ =>
      ⟨hd, Nat.lt_succ_of_lt hlt, by rw [Function.update_noteq (Nat.ne_of_lt hlt), ha]⟩
    by_cases hk : k = radio.id
    · simp only [hk, if_true, firstSilvus, List.find?_singleton, hs, decide_True, and_self]
      exact .some ⟨rfl, Nat.lt_succ_self _, by simp [loadedDescriptor]⟩
    · simp only [hk, if_false, firstSilvus, List.find?_singleton, Ne.symm hk, and_false,
        decide_False]
      exact .none
  · rw [loadRadio_other _ _ hs]
    have hnone : firstSilvus [radio] k = none := by
      simp [firstSilvus, List.find?_singleton, hs]
    rw [hnone, Option.or_none]
    exact h k

theorem LoadedFrom.loadLoop {done : List RadioProfile} (h : LoadedFrom done m)
    (rs : List RadioProfile) : LoadedFrom (done ++ rs) (loadLoop rs m) := by
  induction rs generalizing done m with
  | nil => simpa using h
  | cons r rs ih => simpa using ih (h.loadRadio r)

theorem loadedFrom_new (config : Configuration) : LoadedFrom config.radios (new config) := by
  have start : LoadedFrom [] ({ blank.emit .lock with radios_ := blank.radios_.clear } : RadioManager) :=
    fun _ => .none
  simpa using start.loadLoop config.radios

/-- **Every key of a new manager names the descriptor of the first
`"silvus"` entry with that id.**  For every configuration, with duplicate ids
and unsupported adapter types or not, the descriptor a key maps to carries the
key as `id` and `"silvus"` as `adapter_type`; its adapter has the key as
`id()` and was built from the endpoint of the first `"silvus"` entry with that
id, later ones being ignored; and its cached state is that adapter's
`state()`. -/
theorem descriptors_from_first_entry (config : Configuration) (k : String) (d : RadioDescriptor)
    (h : (new config).radios_.find k = some d) :
    let a := (new config).heap d.adapter
    d.id = k ∧ d.adapterType = "silvus" ∧ a.id = k ∧
      (∃ r, config.radios.find? (fun r => r.adapter = "silvus" ∧ r.id = k) = some r ∧
        a = SilvusAdapter.new r.id r.endpoint) ∧
      d.state = a.state := by
  have hrel := loadedFrom_new config k
  rw [h] at hrel
  generalize hr : firstSilvus config.radios k = o at hrel
  cases hrel with
  | some hd =>
    obtain ⟨hd, -, ha⟩ := hd
    obtain ⟨hs, rfl⟩ := firstSilvus_spec hr
    refine ⟨by rw [hd]; rfl, by rw [hd]; exact hs, by rw [ha]; rfl, ⟨_, hr, ha⟩, ?_⟩
    rw [ha, hd]; rfl

/-- An entry of an unsupported type for `"r1"`, then two `"silvus"` ones. -/
def duplicatedConfig : Configuration :=
  ⟨[⟨"r1", "other", "x"⟩, ⟨"r1", "silvus", "e1"⟩, ⟨"r1", "silvus", "e2"⟩]⟩

/-- With `duplicatedConfig`, `"r1"` names the descriptor of the first
`"silvus"` entry, on the adapter allocated first. -/
theorem first_silvus_entry_wins :
    (new duplicatedConfig).radios_.find "r1" = some ⟨"r1", "silvus", 0, { status := .offline }⟩ ∧
      let d : RadioDescriptor := ⟨"r1", "silvus", 0, { status := .offline }⟩
      let a := (new duplicatedConfig).heap d.adapter
      d.id = "r1" ∧ d.adapterType = "silvus" ∧ a.id = "r1" ∧
        (∃ r, duplicatedConfig.radios.find? (fun r => r.adapter = "silvus" ∧ r.id = "r1") = some r ∧
          a = SilvusAdapter.new r.id r.endpoint) ∧
        d.state = a.state :=
  ⟨by decide, descriptors_from_first_entry _ _ _ (by decide)⟩

example : (new duplicatedConfig).heap 0 = SilvusAdapter.new "r1" "e1" := rfl

end RadioManager
end RadioControl
