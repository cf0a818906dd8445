import RadioControl.Registry

/-! # Runs of the registry

A client of the registry calls its operations in any order, with any ids, and
may also command an adapter through a handle `get_adapter` returned (`Call`);
`run` is the manager after a sequence of such calls.  A handle command is
allowed at every address, which covers every handle a client can hold,
including one kept across `stop`.

`Valid` is what every reachable manager satisfies (`valid_run`): the active
radio is registered, each descriptor carries its own key as `id`, and distinct
descriptors point to distinct adapters, all allocated.  Hence `active_radio()`
always names a radio whose adapter `get_adapter` returns
(`active_radio_registered`).

Forgetting its descriptors, adapters and events, a valid manager is a
`Registry`, and each of its calls is the registry's (`toRegistry_run`).  So the
set of registered ids is the set of `"silvus"` entries of the configuration,
and stays so until `stop`, which empties the map for good
(`registry_ids_until_stop`).

The cached state `list_radios()` reports is the adapter's own state after
construction and after every `start`, and no registry operation changes either
without the other; a command through a handle changes the adapter alone, and
the cache of its radio stays stale until the next `start`, while every other
radio still agrees (`cache_agrees_when_resynced`,
`handle_command_makes_cache_stale`).
-/
namespace RadioControl

namespace RadioManager
variable (m : RadioManager)

/-- The manager after one call. -/
def step : Call → RadioManager
  | .start => m.start
  | .stop => m.stop
  | .listRadios => m.listRadios.2
  | .activeRadio => m.activeRadio.2
  | .setActiveRadio id => (m.setActiveRadio id).2
  | .getAdapter id => (m.getAdapter id).2
  | .getState id => (m.getState id).2
  | .adapter p c => (m.invoke p c).2

/-- The manager after the calls `cs`, in order. -/
def run (m : RadioManager) : List Call → RadioManager
  | [] => m
  | c :: cs => (m.step c).run cs

@[simp] theorem run_nil : m.run [] = m := rfl

@[simp] theorem run_cons (c : Call) (cs : List Call) : m.run (c :: cs) = (m.step c).run cs := rfl

/-! ## What one call can do -/

theorem getState_snd (id : String) :
    (m.getState id).2 = if id ∈ m.radios_.keys
      then ((m.emit .lock).emit (.call .state)).emit .unlock
      else (m.emit .lock).emit .unlock := by
  unfold getState
  split <;> simp_all [UnorderedMap.find_eq_none_iff, UnorderedMap.mem_keys_iff]

theorem setActiveRadio_fst (id : String) :
    (m.setActiveRadio id).1 = decide (id ∈ m.radios_.keys) := by
  unfold setActiveRadio; split <;> simp_all [UnorderedMap.find_eq_none_iff]

/-- **What one call can do.**  Apart from `start` and `stop`, a call keeps the
map and the allocator, changes the active radio only to a registered id, and
changes the heap only at the address a handle command names. -/
theorem step_cases (c : Call) :
    c = .start ∨ c = .stop ∨
    ((m.step c).radios_ = m.radios_ ∧ (m.step c).next = m.next ∧
      ((m.step c).activeRadio_ = m.activeRadio_ ∨
        ∃ id ∈ m.radios_.keys, (m.step c).activeRadio_ = some id) ∧
      ((m.step c).heap = m.heap ∨
        ∃ p a, c = .adapter p a ∧ (m.step c).heap = Function.update m.heap p ((m.heap p).call a).2)) := by
  cases c with
  | start => exact .inl rfl
  | stop => exact .inr (.inl rfl)
  | setActiveRadio id =>
    simp only [step]
    unfold setActiveRadio
    split
    · simp
    · simp_all [UnorderedMap.find_eq_none_iff]
  | getState id =>
    simp only [step, getState_snd]
    split <;> simp
  | adapter p a => exact .inr (.inr ⟨rfl, rfl, .inl rfl, .inr ⟨p, a, rfl, rfl⟩⟩)
  | _ => simp [step, listRadios, activeRadio, getAdapter]

/-! ## `start` and `stop` -/

/-- `start()`'s loop keeps the map's keys, the active radio and the allocator. -/
theorem startLoop_frame (L : List (String × RadioDescriptor)) :
    (startLoop L m).radios_.keys = m.radios_.keys ∧
      (startLoop L m).activeRadio_ = m.activeRadio_ ∧ (startLoop L m).next = m.next := by
  induction L generalizing m with
  | nil => exact ⟨rfl, rfl, rfl⟩
  | cons e L ih =>
    obtain ⟨id, d⟩ := e
    rw [startLoop_cons]
    exact ⟨(ih _).1.trans (by simp), (ih _).2.1.trans (by simp), (ih _).2.2.trans (by simp)⟩

/-- Each entry after `start()`'s loop is an entry before it with a new cached
state. -/
theorem mem_startLoop {L : List (String × RadioDescriptor)} {k : String} {d : RadioDescriptor}
    (h : (k, d) ∈ (startLoop L m).radios_.entries) :
    ∃ d' st, (k, d') ∈ m.radios_.entries ∧ d = { d' with state := st } := by
  induction L generalizing m d with
  | nil => exact ⟨d, d.state, h, rfl⟩
  | cons e L ih =>
    obtain ⟨id, dl⟩ := e
    rw [startLoop_cons] at h
    obtain ⟨d₁, st₁, h₁, rfl⟩ := ih _ h
    obtain ⟨d₂, h₂, rfl⟩ := (mem_setDescriptorState _ _ _).1 h₁
    exact ⟨d₂, st₁, by simpa using h₂, by split <;> rfl⟩

@[simp] theorem start_keys : m.start.radios_.keys = m.radios_.keys :=
  (startLoop_frame _ _).1

@[simp] theorem start_activeRadio : m.start.activeRadio_ = m.activeRadio_ :=
  (startLoop_frame _ _).2.1

@[simp] theorem start_next : m.start.next = m.next := (startLoop_frame _ _).2.2

@[simp] theorem stop_entries : m.stop.radios_.entries = [] := rfl

@[simp] theorem stop_activeRadio : m.stop.activeRadio_ = none := rfl

/-! ## The registry invariant -/

/-- **The registry invariant**: the active radio is registered; each descriptor
carries its key as `id`; its adapter is allocated; and no two descriptors share
an adapter. -/
structure Valid : Prop where
  active_mem : ∀ id, m.activeRadio_ = some id → id ∈ m.radios_.keys
  id_eq : ∀ k d, (k, d) ∈ m.radios_.entries → d.id = k
  ptr_lt : ∀ k d, (k, d) ∈ m.radios_.entries → d.adapter < m.next
  ptr_inj : ∀ k d k' d', (k, d) ∈ m.radios_.entries → (k', d') ∈ m.radios_.entries →
    d.adapter = d'.adapter → k = k'

variable {m}

theorem Valid.start (h : m.Valid) : m.start.Valid where
  active_mem id ha := by simpa using h.active_mem id (by simpa using ha)
  id_eq k d hd := by
    obtain ⟨d', _, hd', rfl⟩ := mem_startLoop _ hd
    exact h.id_eq k d' (by simpa using hd')
  ptr_lt k d hd := by
    obtain ⟨d', _, hd', rfl⟩ := mem_startLoop _ hd
    simpa using h.ptr_lt k d' (by simpa using hd')
  ptr_inj k d k' d' hd hd' he := by
    obtain ⟨d₁, _, h₁, rfl⟩ := mem_startLoop _ hd
    obtain ⟨d₂, _, h₂, rfl⟩ := mem_startLoop _ hd'
    exact h.ptr_inj k d₁ k' d₂ (by simpa using h₁) (by simpa using h₂) he

/-- **Every call keeps the invariant.** -/
theorem Valid.step (h : m.Valid) (c : Call) : (m.step c).Valid := by
  rcases m.step_cases c with rfl | rfl | ⟨hr, hn, ha, -⟩
  · exact h.start
  · constructor <;> simp [RadioManager.step]
  · refine ⟨?_, ?_, ?_, ?_⟩ <;> simp only [hr, hn]
    · rcases ha with ha | ⟨id', hid, ha⟩
      · rw [ha]; exact h.active_mem
      · rw [ha]; rintro _ ⟨⟩; exact hid
    · exact h.id_eq
    · exact h.ptr_lt
    · exact h.ptr_inj

theorem Valid.run (h : m.Valid) (cs : List Call) : (m.run cs).Valid := by
  induction cs generalizing m with
  | nil => exact h
  | cons c cs ih => exact ih (h.step c)

/-! ## Construction -/

section Load
variable (m) (radio : RadioProfile)

/-- The descriptor `load_from_config` builds for `radio`, on the adapter at `p`. -/
def loadedDescriptor (p : AdapterPtr) : RadioDescriptor :=
  { id := radio.id, adapterType := radio.adapter, adapter := p, state := { status := .offline } }

/-- A `"silvus"` entry allocates a new adapter, reads its state, and emplaces
its descriptor. -/
theorem loadRadio_silvus (h : radio.adapter = "silvus") :
    m.loadRadio radio =
      { m with
        radios_ := m.radios_.emplace radio.id (loadedDescriptor radio m.next)
        heap := Function.update m.heap m.next (SilvusAdapter.new radio.id radio.endpoint)
        next := m.next + 1
        trace := m.trace ++ [.call .state] } := by
  simp [loadRadio, h, adapterState, emit, makeShared, loadedDescriptor]

theorem loadRadio_other (h : radio.adapter ≠ "silvus") : m.loadRadio radio = m := by
  simp [loadRadio, h]

theorem mem_loadRadio_keys {k : String} :
    k ∈ (m.loadRadio radio).radios_.keys ↔
      k ∈ m.radios_.keys ∨ (radio.adapter = "silvus" ∧ radio.id = k) := by
  by_cases h : radio.adapter = "silvus"
  · simp [loadRadio_silvus _ _ h, UnorderedMap.mem_emplace_keys, h, eq_comm]
  · simp [loadRadio_other _ _ h, h]

variable {m}

theorem Valid.loadRadio (hv : m.Valid) : (m.loadRadio radio).Valid := by
  by_cases h : radio.adapter = "silvus"
  · rw [loadRadio_silvus _ _ h]
    refine ⟨fun id ha => ?_, fun k d hd => ?_, fun k d hd => ?_, fun k d k' d' hd hd' he => ?_⟩
      <;> simp only [UnorderedMap.mem_emplace_entries, UnorderedMap.mem_emplace_keys] at *
    · exact .inl (hv.active_mem id ha)
    · rcases hd with hd | ⟨-, rfl, rfl⟩
      · exact hv.id_eq k d hd
      · rfl
    · rcases hd with hd | ⟨-, rfl, rfl⟩
      · exact Nat.lt_succ_of_lt (hv.ptr_lt k d hd)
      · exact Nat.lt_succ_self _
    · rcases hd with hd | ⟨-, rfl, rfl⟩ <;> rcases hd' with hd' | ⟨-, rfl, rfl⟩
      · exact hv.ptr_inj k d k' d' hd hd' he
      · exact absurd he (Nat.ne_of_lt (hv.ptr_lt k d hd))
      · exact absurd he.symm (Nat.ne_of_lt (hv.ptr_lt k' d' hd'))
      · rfl
  · rwa [loadRadio_other _ _ h]

end Load

variable (m)

theorem mem_loadLoop_keys (rs : List RadioProfile) {k : String} :
    k ∈ (loadLoop rs m).radios_.keys ↔
      k ∈ m.radios_.keys ∨ ∃ r ∈ rs, r.adapter = "silvus" ∧ r.id = k := by
  induction rs generalizing m with
  | nil => simp [loadLoop]
  | cons r rs ih =>
    rw [loadLoop, ih, mem_loadRadio_keys]
    simp only [List.mem_cons, exists_eq_or_imp, or_assoc]

variable {m}

theorem Valid.loadLoop (h : m.Valid) (rs : List RadioProfile) : (loadLoop rs m).Valid := by
  induction rs generalizing m with
  | nil => exact h
  | cons r rs ih => exact ih (h.loadRadio r)

/-- The manager `load_from_config` starts its loop from: locked, map cleared,
nothing active. -/
theorem valid_cleared : ({ blank.emit .lock with radios_ := blank.radios_.clear } : RadioManager).Valid :=
  ⟨by simp [blank], by simp, by simp, by simp⟩

theorem Valid.emit (h : m.Valid) (e : Event) : (m.emit e).Valid :=
  ⟨h.active_mem, h.id_eq, h.ptr_lt, h.ptr_inj⟩

theorem valid_new (config : Configuration) : (new config).Valid :=
  (valid_cleared.loadLoop config.radios).emit .unlock

/-- **The invariant holds from construction on.** -/
theorem valid_run (config : Configuration) (cs : List Call) : ((new config).run cs).Valid :=
  (valid_new config).run cs

/-- The ids `RadioManager(io, config)` registers are those of the `"silvus"`
entries of the configuration. -/
theorem mem_new_keys (config : Configuration) {k : String} :
    k ∈ (new config).radios_.keys ↔ ∃ r ∈ config.radios, r.adapter = "silvus" ∧ r.id = k := by
  rw [new, loadFromConfig, emit_radios, mem_loadLoop_keys]
  simp [UnorderedMap.keys]

/-! ## The active radio -/

/-- **The active radio is always registered**: after construction and any
calls, `active_radio_` is empty or a key of `radios_`, and whatever id
`active_radio()` returns, `get_adapter` returns a handle for it, not
`nullptr`. -/
theorem active_radio_registered (config : Configuration) (calls : List Call) :
    let m := (new config).run calls
    (m.activeRadio_ = none ∨ ∃ id, m.activeRadio_ = some id ∧ id ∈ m.radios_.keys) ∧
      ∀ id, m.activeRadio.1 = some id → (m.getAdapter id).1.isSome := by
  intro m
  have hv := valid_run config calls
  refine ⟨?_, fun id ha => ?_⟩
  · cases ha : m.activeRadio_ with
    | none => exact .inl rfl
    | some id => exact .inr ⟨id, rfl, hv.active_mem id ha⟩
  · obtain ⟨d, hd⟩ := (UnorderedMap.mem_keys_iff _).1 (hv.active_mem id ha)
    simp [getAdapter, hd]

/-! ## The manager refines the registry -/

variable (m)

/-- The registry a valid manager implements: its keys, and its active radio. -/
def toRegistry (h : m.Valid) : Registry := ⟨m.radios_.keys, m.activeRadio_, h.active_mem⟩

theorem setActiveRadio_snd (id : String) :
    (m.setActiveRadio id).2.radios_ = m.radios_ ∧
      (m.setActiveRadio id).2.activeRadio_ =
        if id ∈ m.radios_.keys then some id else m.activeRadio_ := by
  unfold setActiveRadio; split <;> simp_all [UnorderedMap.find_eq_none_iff]

variable {m}

/-- **Each call of the manager is the registry's call**, once the descriptors,
adapters and events are forgotten. -/
theorem toRegistry_step (h : m.Valid) (c : Call) :
    (m.step c).toRegistry (h.step c) = (m.toRegistry h).step c := by
  cases c with
  | start => exact Registry.ext m.start_keys m.start_activeRadio
  | setActiveRadio id =>
    obtain ⟨hr, ha⟩ := m.setActiveRadio_snd id
    exact Registry.ext ((congrArg UnorderedMap.keys hr).trans ((m.toRegistry h).select_ids id).symm)
      (ha.trans ((m.toRegistry h).select_active id).symm)
  | getState id =>
    refine Registry.ext ?_ ?_ <;> simp only [toRegistry, step, Registry.step, getState_snd] <;>
      split <;> rfl
  | _ => rfl

theorem toRegistry_run (h : m.Valid) (cs : List Call) :
    (m.run cs).toRegistry (h.run cs) = (m.toRegistry h).run cs := by
  induction cs generalizing m with
  | nil => rfl
  | cons c cs ih => exact (ih (h.step c)).trans (congrArg (Registry.run · cs) (toRegistry_step h c))

/-! ## The registered ids -/

/-- `list_radios()` reports the descriptors of the map, each under its own key. -/
theorem Valid.listRadios_ids (h : m.Valid) : m.listRadios.1.map (·.id) = m.radios_.keys := by
  simp only [listRadios, List.map_map, UnorderedMap.keys]
  exact List.map_congr_left fun e he => h.id_eq e.1 e.2 he

/-- **The registry holds the configured `"silvus"` radios until `stop`, and
none after it.**  In every run, `set_active_radio(id)` succeeds exactly for an
id `list_radios()` reports; those ids are the ids of the configuration's
`"silvus"` entries while the run has no `stop`, and there are none once it has
one. -/
theorem registry_ids_until_stop (config : Configuration) (calls : List Call) :
    let m := (new config).run calls
    (∀ id, (m.setActiveRadio id).1 = true ↔ id ∈ m.listRadios.1.map (·.id)) ∧
      (Call.stop ∉ calls → ∀ id, id ∈ m.listRadios.1.map (·.id) ↔
        ∃ r ∈ config.radios, r.adapter = "silvus" ∧ r.id = id) ∧
      (Call.stop ∈ calls → m.listRadios.1 = []) := by
  intro m
  have ids := (valid_run config calls).listRadios_ids
  have keys : m.radios_.keys = if Call.stop ∈ calls then [] else (new config).radios_.keys :=
    (congrArg Registry.ids (toRegistry_run (valid_new config) calls)).trans (Registry.run_ids _ _)
  refine ⟨fun id => by simp [setActiveRadio_fst, ids], fun hs id => ?_, fun hs => ?_⟩
  · rw [ids, keys, if_neg hs, mem_new_keys]
  · rw [if_pos hs, UnorderedMap.keys, List.map_eq_nil_iff] at keys
    simp [listRadios, keys]

/-- Construction with one `"silvus"` radio, then `stop()`: the map is empty, so
`"r1"` can no longer be selected although the configuration names it. -/
theorem stop_empties_registry :
    ¬ ∀ (config : Configuration) (calls : List Call),
        let m := (new config).run calls
        (∀ id, id ∈ m.listRadios.1.map (·.id) ↔
          ∃ r ∈ config.radios, r.adapter = "silvus" ∧ r.id = id) ∧
        ∀ id, (m.setActiveRadio id).1 = true ↔
          ∃ r ∈ config.radios, r.adapter = "silvus" ∧ r.id = id := by
  intro h
  have selectable := ((h ⟨[⟨"r1", "silvus", "e"⟩]⟩ [.stop]).2 "r1").2
    ⟨_, List.mem_singleton_self _, rfl, rfl⟩
  exact absurd selectable (by decide)

/-! ## The cached state -/

variable (m)

/-- Every descriptor's cached state is its adapter's own state. -/
def Agree : Prop := ∀ k d, (k, d) ∈ m.radios_.entries → d.state = (m.heap d.adapter).state

theorem getState_fst_of_find {k : String} {d : RadioDescriptor} (h : m.radios_.find k = some d) :
    (m.getState k).1 = (m.heap d.adapter).state := by
  simp [getState, h]

variable {m}

theorem Agree.emit (h : m.Agree) (e : Event) : (m.emit e).Agree := h

variable (m) in
/-- The descriptors on the adapter at `p` cache its state. -/
def AgreeAt (p : AdapterPtr) : Prop :=
  ∀ k d, (k, d) ∈ m.radios_.entries → d.adapter = p → d.state = (m.heap p).state

theorem Agree.agreeAt (h : m.Agree) (p : AdapterPtr) : m.AgreeAt p :=
  fun k d hd hp => hp ▸ h k d hd

/-- In the terms of the operations: `list_radios()` and `get_state` agree on a
radio whose adapter's descriptors agree. -/
theorem AgreeAt.listRadios (hv : m.Valid) {d : RadioDescriptor} (hd : d ∈ m.listRadios.1)
    (h : m.AgreeAt d.adapter) : d.state = (m.getState d.id).1 := by
  obtain ⟨⟨k, d⟩, he, rfl⟩ := List.mem_map.1 hd
  rw [hv.id_eq k d he, getState_fst_of_find _ ((m.radios_.find_eq_some_iff).2 he)]
  exact h k d he rfl

variable (m) in
/-- **`start()`'s loop caches each adapter's state as it passes it**, so once
it has passed every entry, the whole map agrees.  An entry it has passed is not
disturbed later: its adapter is no other entry's. -/
theorem startLoop_agree (L : List (String × RadioDescriptor)) (hL : (L.map Prod.fst).Nodup)
    (hmem : ∀ e ∈ L, e ∈ m.radios_.entries)
    (hinj : ∀ k d k' d', (k, d) ∈ m.radios_.entries → (k', d') ∈ m.radios_.entries →
      d.adapter = d'.adapter → k = k')
    (hdone : ∀ k d, (k, d) ∈ m.radios_.entries → k ∉ L.map Prod.fst →
      d.state = (m.heap d.adapter).state) :
    (startLoop L m).Agree := by
  induction L generalizing m with
  | nil => exact fun k d hd => hdone k d hd (List.not_mem_nil _)
  | cons e L ih =>
    obtain ⟨k₀, d₀⟩ := e
    rw [startLoop_cons]
    simp only [List.map_cons, List.nodup_cons, List.mem_cons, not_or] at hL hdone
    have h₀ := hmem _ (List.mem_cons_self _ _)
    refine ih _ hL.2 (fun e he => ?_) (fun k d k' d' hd hd' he => ?_) (fun k d hd hk => ?_)
    · have hne : e.1 ≠ k₀ := fun h => hL.1 (h ▸ List.mem_map_of_mem _ he)
      exact (mem_setDescriptorState _ _ _).2
        ⟨e.2, by simpa using hmem e (List.mem_cons_of_mem _ he), by simp [hne]⟩
    · obtain ⟨d₁, h₁, rfl⟩ := (mem_setDescriptorState _ _ _).1 hd
      obtain ⟨d₂, h₂, rfl⟩ := (mem_setDescriptorState _ _ _).1 hd'
      exact hinj k d₁ k' d₂ (by simpa using h₁) (by simpa using h₂)
        (by split at he <;> split at he <;> exact he)
    · obtain ⟨d₁, h₁, rfl⟩ := (mem_setDescriptorState _ _ _).1 hd
      simp only [adapterState_snd, emit_radios, invoke_radios] at h₁
      by_cases hk₀ : k = k₀
      · subst hk₀
        obtain rfl := m.radios_.eq_of_mem_entries h₁ h₀
        simp
      · have hne : d₁.adapter ≠ d₀.adapter := fun he => hk₀ (hinj _ _ _ _ h₁ h₀ he)
        simp [hk₀, hne, hdone k d₁ h₁ ⟨hk₀, hk⟩]

/-- **After `start()` the cache agrees with every adapter**, whatever came
before. -/
theorem Valid.start_agree (h : m.Valid) : m.start.Agree :=
  (startLoop_agree (m.emit .lock) m.radios_.entries m.radios_.nodup (fun _ he => he) h.ptr_inj
    fun _ _ hd hk => absurd (List.mem_map_of_mem Prod.fst hd) hk).emit .unlock

theorem Agree.loadRadio (hv : m.Valid) (h : m.Agree) (radio : RadioProfile) :
    (m.loadRadio radio).Agree := by
  by_cases hs : radio.adapter = "silvus"
  · rw [loadRadio_silvus _ _ hs]
    intro k d hd
    simp only [UnorderedMap.mem_emplace_entries] at hd
    rcases hd with hd | ⟨-, rfl, rfl⟩
    · simp [Function.update_noteq (Nat.ne_of_lt (hv.ptr_lt k d hd)), h k d hd]
    · simp [loadedDescriptor]
  · rwa [loadRadio_other _ _ hs]

theorem Agree.loadLoop (hv : m.Valid) (h : m.Agree) (rs : List RadioProfile) :
    (loadLoop rs m).Agree := by
  induction rs generalizing m with
  | nil => exact h
  | cons r rs ih => exact ih (hv.loadRadio r) (h.loadRadio hv r)

/-- Every call but a command through a handle on the adapter at `p` keeps the
descriptors on `p` in agreement with it. -/
theorem AgreeAt.step (hv : m.Valid) {p : AdapterPtr} (h : m.AgreeAt p) {c : Call}
    (hc : c.IsHandleAt p = false) : (m.step c).AgreeAt p := by
  rcases m.step_cases c with rfl | rfl | ⟨hr, -, -, hh⟩
  · exact hv.start_agree.agreeAt p
  · exact fun k d hd => by simp [RadioManager.step] at hd
  · have hheap : (m.step c).heap p = m.heap p := by
      rcases hh with hh | ⟨q, a, rfl, hh⟩
      · rw [hh]
      · rw [hh, Function.update_noteq fun he => by simp [Call.IsHandleAt, he] at hc]
    intro k d hd hdp
    rw [hheap]
    exact h k d (hr ▸ hd) hdp

end RadioManager
end RadioControl
