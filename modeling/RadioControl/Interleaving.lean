import RadioControl.RegistryRuns

/-! # `start()` against commands through handles

`start()` holds `mutex_` for its whole loop, so no other operation of the
manager runs inside it.  A thread that obtained an adapter with `get_adapter`
does not take `mutex_`: its commands take only the adapter's own lock, so they
can fall between the adapter calls of `start()`'s loop, even between the
`connect()` and the `state()` it makes on one adapter (`Turn`,
`startInterleaved`).

Every such interleaving has the effect, on everything the threads share, of a
sequential run in which `start()` is atomic and each command through a handle
comes before or after it (`startInterleaved_run`): a command on an
adapter the loop has already passed goes after `start()`, any other before.  So
no command moves past another on the same adapter, and the sequential run makes
the calls to each object, the manager or one adapter, in the order of the
schedule (`fineRun_serializable`).  In particular no command through a handle is
lost or overtaken: each adapter ends with the power and the channel last sent
to it (`fineRun_last_sent`).

Two facts make this so.  Commands on different adapters touch different
objects; and `connect()` commutes with every command on its own adapter, each
of them leaving the adapter `Ready` (`call_connect_comm`).
-/
namespace RadioControl

namespace SilvusAdapter

/-- **`connect()` commutes with every command**: either order leaves the same
adapter. -/
theorem call_connect_comm (a : SilvusAdapter) (c : AdapterCall) :
    ((a.call c).2.connect).2 = (a.connect.2.call c).2 := by
  cases c with
  | refreshState =>
    by_cases h : a.state_.status = .offline <;> simp [call, connect, refreshState, h]
  | _ => rfl

end SilvusAdapter

/-- The object a call goes to, and whose lock orders it: the manager, under
`mutex_`, or the adapter at an address, under its own lock. -/
def Call.target : Call → Option AdapterPtr
  | .adapter p _ => some p
  | _ => none

/-- `cs` makes the calls of `cs'` with the calls to each object in the same
order. -/
def Call.SameOrderOn (cs cs' : List Call) : Prop :=
  ∀ o, cs.filter (·.target == o) = cs'.filter (·.target == o)

/-- Keeping each object's calls in order is a permutation of the calls. -/
theorem Call.SameOrderOn.perm {cs cs' : List Call} (h : Call.SameOrderOn cs cs') : cs.Perm cs' := by
  refine List.perm_iff_count.2 fun c => ?_
  have hc : ∀ l : List Call, l.count c = (l.filter (·.target == c.target)).count c := fun l => by
    rw [List.count_filter]; simp
  rw [hc cs, hc cs', h]

theorem Call.SameOrderOn.refl (cs : List Call) : Call.SameOrderOn cs cs := fun _ => rfl

theorem Call.SameOrderOn.append {a a' b b' : List Call} (ha : Call.SameOrderOn a a')
    (hb : Call.SameOrderOn b b') : Call.SameOrderOn (a ++ b) (a' ++ b') := fun o => by
  rw [List.filter_append, List.filter_append, ha o, hb o]

namespace RadioManager
variable (m : RadioManager)

/-! ## What the threads share -/

/-- The manager without its event log: what the threads share. -/
def shared : RadioManager := { m with trace := [] }

@[simp] theorem shared_radios : m.shared.radios_ = m.radios_ := rfl
@[simp] theorem shared_heap : m.shared.heap = m.heap := rfl
theorem shared_emit (e : Event) : (m.emit e).shared = m.shared := rfl

/-- The second half of a turn of `start()`'s loop: `state()` on the adapter,
cached into the descriptor of `id`. -/
def cacheState (id : String) (p : AdapterPtr) : RadioManager :=
  let read := m.adapterState p
  read.2.setDescriptorState id read.1

/-- Commands through handles, as calls of a run. -/
def handleCalls (hs : List (AdapterPtr × AdapterCall)) : List Call :=
  hs.map fun x => .adapter x.1 x.2

theorem startLoop_cons' (id : String) (d : RadioDescriptor) (rest : List (String × RadioDescriptor)) :
    startLoop ((id, d) :: rest) m = startLoop rest ((m.invoke d.adapter .connect).2.cacheState id d.adapter) :=
  startLoop_cons m id d rest

theorem startLoop_append (L R : List (String × RadioDescriptor)) :
    startLoop (L ++ R) m = startLoop R (startLoop L m) := by
  induction L generalizing m with
  | nil => rfl
  | cons e L ih => obtain ⟨id, d⟩ := e; rw [List.cons_append, startLoop_cons', startLoop_cons', ih]

theorem run_append (cs ds : List Call) : m.run (cs ++ ds) = (m.run cs).run ds := by
  induction cs generalizing m with
  | nil => rfl
  | cons c cs ih => exact ih _

@[simp] theorem run_handleCalls_radios (hs : List (AdapterPtr × AdapterCall)) :
    (m.run (handleCalls hs)).radios_ = m.radios_ := by
  induction hs generalizing m with
  | nil => rfl
  | cons h hs ih => exact (ih _).trans (invoke_radios _ _ _)

/-! ### Nothing reads the event log -/

section Congr
variable {m₁ m₂ : RadioManager} (h : m₁.shared = m₂.shared)
include h

theorem invoke_congr (p : AdapterPtr) (c : AdapterCall) :
    (m₁.invoke p c).2.shared = (m₂.invoke p c).2.shared := by
  simp only [shared, RadioManager.mk.injEq] at h ⊢
  obtain ⟨h₁, h₂, h₃, h₄, -⟩ := h
  simp [invoke, emit, h₁, h₂, h₃, h₄]

theorem cacheState_congr (id : String) (p : AdapterPtr) :
    (m₁.cacheState id p).shared = (m₂.cacheState id p).shared := by
  simp only [shared, RadioManager.mk.injEq] at h ⊢
  obtain ⟨h₁, h₂, h₃, h₄, -⟩ := h
  simp [cacheState, adapterState, setDescriptorState, emit, h₁, h₂, h₃, h₄]

theorem emit_congr (e : Event) : (m₁.emit e).shared = (m₂.emit e).shared := h

end Congr

theorem startLoop_congr {m₁ m₂ : RadioManager} (h : m₁.shared = m₂.shared) :
    ∀ L, (startLoop L m₁).shared = (startLoop L m₂).shared
  | [] => h
  | (id, d) :: L => by
    rw [startLoop_cons', startLoop_cons']
    exact startLoop_congr (cacheState_congr (invoke_congr h _ _) _ _) L

theorem step_congr {m₁ m₂ : RadioManager} (h : m₁.shared = m₂.shared) (c : Call) :
    (m₁.step c).shared = (m₂.step c).shared := by
  have hr : m₁.radios_ = m₂.radios_ := by simpa using congrArg RadioManager.radios_ h
  cases c with
  | start =>
    simp only [step, start, hr]
    exact emit_congr (startLoop_congr (emit_congr h _) _) _
  | adapter p c => exact invoke_congr h p c
  | setActiveRadio id =>
    simp only [step, setActiveRadio, hr]
    split
    · exact emit_congr (emit_congr h _) _
    · simp only [shared, RadioManager.mk.injEq] at h ⊢
      simp [emit, h]
  | getState id =>
    simp only [step, getState, hr]
    split
    · exact emit_congr (emit_congr h _) _
    · exact emit_congr (emit_congr (emit_congr h _) _) _
  | _ =>
    simp only [shared, RadioManager.mk.injEq] at h ⊢
    obtain ⟨h₁, h₂, h₃, h₄, -⟩ := h
    simp [step, stop, listRadios, activeRadio, setActiveRadio, getAdapter, emit, h₁, h₂, h₃, h₄]

theorem run_congr {m₁ m₂ : RadioManager} (h : m₁.shared = m₂.shared) :
    ∀ cs, (m₁.run cs).shared = (m₂.run cs).shared
  | [] => h
  | c :: cs => run_congr (step_congr h c) cs

/-! ### Commands on different adapters commute -/

/-- Commands on different adapters commute. -/
theorem invoke_comm {p q : AdapterPtr} (hpq : p ≠ q) (c c' : AdapterCall) :
    ((m.invoke p c).2.invoke q c').2.shared = ((m.invoke q c').2.invoke p c).2.shared := by
  simp only [shared, invoke, emit, Function.update_noteq hpq, Function.update_noteq hpq.symm,
    Function.update_comm hpq]

/-- `connect()` commutes with every command, on any adapter. -/
theorem invoke_connect_comm (p q : AdapterPtr) (c : AdapterCall) :
    ((m.invoke p c).2.invoke q .connect).2.shared = ((m.invoke q .connect).2.invoke p c).2.shared := by
  by_cases hpq : p = q
  · subst hpq
    simp only [shared, invoke, emit, Function.update_same, Function.update_idem]
    exact congrArg (fun a => ({ m with heap := Function.update m.heap p a, trace := [] } : RadioManager))
      (SilvusAdapter.call_connect_comm (m.heap p) c)
  · exact m.invoke_comm hpq c .connect

/-- A command on another adapter commutes with caching a state. -/
theorem invoke_cacheState_comm {p q : AdapterPtr} (hpq : p ≠ q) (id : String) (c : AdapterCall) :
    ((m.invoke p c).2.cacheState id q).shared = ((m.cacheState id q).invoke p c).2.shared := by
  simp [shared, invoke, cacheState, adapterState, setDescriptorState, emit,
    Function.update_noteq hpq.symm]

/-- A command on an adapter the loop does not visit commutes with the loop. -/
theorem invoke_startLoop_comm {p : AdapterPtr} (c : AdapterCall) :
    ∀ {L : List (String × RadioDescriptor)}, p ∉ L.map (·.2.adapter) → ∀ m : RadioManager,
      (startLoop L (m.invoke p c).2).shared = ((startLoop L m).invoke p c).2.shared
  | [], _, _ => rfl
  | (id, d) :: L, hp, m => by
    simp only [List.map_cons, List.mem_cons, not_or] at hp
    rw [startLoop_cons', startLoop_cons']
    refine (startLoop_congr ?_ L).trans (invoke_startLoop_comm c hp.2 _)
    exact (cacheState_congr (m.invoke_comm hp.1 c .connect) _ _).trans
      (invoke_cacheState_comm _ hp.1 _ _)

/-- A step that commutes with each of a list of commands commutes with all of
them in turn. -/
theorem run_handleCalls_comm (f : RadioManager → RadioManager) (hs : List (AdapterPtr × AdapterCall))
    (hcomm : ∀ x ∈ hs, ∀ m : RadioManager, (f (m.invoke x.1 x.2).2).shared = ((f m).invoke x.1 x.2).2.shared) :
    ∀ m : RadioManager, (f (m.run (handleCalls hs))).shared = ((f m).run (handleCalls hs)).shared := by
  induction hs with
  | nil => intro m; rfl
  | cons x hs ih =>
    intro m
    exact (ih (fun y hy => hcomm y (List.mem_cons_of_mem _ hy)) _).trans
      (run_congr (hcomm x (List.mem_cons_self _ _) m) _)

/-! ## `start()` interleaved with commands through handles -/

/-- Who moves next while a thread is inside `start()`: that thread, with the
next adapter call of its loop, or another thread, with a command through a
handle. -/
inductive Turn
  | starter
  | handle (p : AdapterPtr) (c : AdapterCall)
  deriving DecidableEq, Repr

/-- The command of a turn through a handle. -/
def Turn.command? : Turn → Option (AdapterPtr × AdapterCall)
  | .starter => none
  | .handle p c => some (p, c)

/-- The thread inside `start()`: the entries of `radios_` its loop has not
passed, and whether it has connected the adapter of the first. -/
structure Progress where
  rest : List (String × RadioDescriptor)
  connected : Bool
  deriving DecidableEq, Repr

/-- The next adapter call of `start()`'s loop: `connect()` on the adapter of the
first entry not passed, then, on `Ok`, `state()` on it, cached into the
descriptor. -/
def Progress.advance : Progress → RadioManager → Progress × RadioManager
  | ⟨[], b⟩, m => (⟨[], b⟩, m)
  | ⟨(id, d) :: rest, false⟩, m =>
    let connected := m.invoke d.adapter .connect
    if connected.1.code = .ok then (⟨(id, d) :: rest, true⟩, connected.2)
    else (⟨rest, false⟩, connected.2)
  | ⟨(id, d) :: rest, true⟩, m => (⟨rest, false⟩, m.cacheState id d.adapter)

/-- The turns of a schedule, in order. -/
def interleave : List Turn → Progress → RadioManager → Progress × RadioManager
  | [], g, m => (g, m)
  | .starter :: ts, g, m => interleave ts (g.advance m).1 (g.advance m).2
  | .handle p c :: ts, g, m => interleave ts g (m.invoke p c).2

/-- The rest of the loop, once no other thread moves. -/
def Progress.finish : Progress → RadioManager → RadioManager
  | ⟨(id, d) :: rest, true⟩, m => startLoop rest (m.cacheState id d.adapter)
  | ⟨rest, false⟩, m => startLoop rest m
  | ⟨[], true⟩, m => m

/-- **`start()` while other threads issue commands through handles**: the lock,
the loop with the turns `ts` of the schedule, the rest of the loop, the
unlock. -/
def startInterleaved (ts : List Turn) : RadioManager :=
  let s := interleave ts ⟨m.radios_.entries, false⟩ (m.emit .lock)
  (s.1.finish s.2).emit .unlock

/-- `hs` has the commands of `hs'`, each adapter's in the same order. -/
def SameOrder (hs hs' : List (AdapterPtr × AdapterCall)) : Prop :=
  ∀ p, hs.filter (·.1 == p) = hs'.filter (·.1 == p)

theorem filter_handleCalls_none (hs : List (AdapterPtr × AdapterCall)) :
    (handleCalls hs).filter (·.target == none) = [] := by
  simp [handleCalls, List.filter_map, Call.target]

theorem filter_handleCalls_some (hs : List (AdapterPtr × AdapterCall)) (p : AdapterPtr) :
    (handleCalls hs).filter (·.target == some p) = handleCalls (hs.filter (·.1 == p)) := by
  simp only [handleCalls, List.filter_map]
  rfl

/-- `start()` with commands moved before and after it keeps each object's
calls in order when the commands keep each adapter's. -/
theorem sameOrderOn_start {before after hs : List (AdapterPtr × AdapterCall)}
    (h : SameOrder (before ++ after) hs) :
    Call.SameOrderOn (handleCalls before ++ .start :: handleCalls after) (.start :: handleCalls hs) := by
  intro o
  have hstart : ∀ p, (Call.start.target == some p) = false := fun _ => rfl
  cases o with
  | none =>
    simp only [List.filter_append, List.filter_cons, filter_handleCalls_none]
    rfl
  | some p =>
    simp only [List.filter_append, List.filter_cons, filter_handleCalls_some, hstart, Bool.false_eq_true,
      if_false]
    rw [← h p, List.filter_append, handleCalls, handleCalls, handleCalls, List.map_append]

theorem run_handleCalls_concat (hs : List (AdapterPtr × AdapterCall)) (p : AdapterPtr)
    (c : AdapterCall) : m.run (handleCalls (hs ++ [(p, c)])) = ((m.run (handleCalls hs)).invoke p c).2 := by
  rw [handleCalls, List.map_append, run_append]; rfl

/-! ### The invariant of the interleaved loop -/

/-- Where the atomic loop stands, from `m`, once it has passed `passed` and,
when `g` says so, connected the next adapter. -/
def Progress.reached (g : Progress) (passed : List (String × RadioDescriptor)) (m : RadioManager) :
    RadioManager :=
  match g.connected, g.rest with
  | true, (_, d) :: _ => ((startLoop passed m).invoke d.adapter .connect).2
  | _, _ => startLoop passed m

/-- **The invariant of the interleaved loop**, from `m₀` over the entries `L`:
the commands `done` so far split into `before`, run before the loop, and
`after`, on adapters the loop has passed; and the manager is where the atomic
loop stands after `before`, followed by `after`. -/
def Serial (L : List (String × RadioDescriptor)) (m₀ : RadioManager)
    (done : List (AdapterPtr × AdapterCall)) (g : Progress) (m : RadioManager) : Prop :=
  ∃ passed before after, passed ++ g.rest = L ∧ SameOrder (before ++ after) done ∧
    (∀ x ∈ after, x.1 ∈ passed.map (·.2.adapter)) ∧
    m.shared = ((g.reached passed (m₀.run (handleCalls before))).run (handleCalls after)).shared

/-- A command on an adapter the loop has not passed commutes with the loop so
far, the pending `connect()` included. -/
theorem reached_invoke_comm (g : Progress) {passed : List (String × RadioDescriptor)} {p : AdapterPtr}
    (hp : p ∉ passed.map (·.2.adapter)) (c : AdapterCall) (m : RadioManager) :
    (g.reached passed (m.invoke p c).2).shared = ((g.reached passed m).invoke p c).2.shared := by
  rcases g with ⟨_ | ⟨⟨_, d⟩, _⟩, _ | _⟩
  · exact invoke_startLoop_comm c hp m
  · exact invoke_startLoop_comm c hp m
  · exact invoke_startLoop_comm c hp m
  · exact (invoke_congr (invoke_startLoop_comm c hp m) _ _).trans (invoke_connect_comm _ _ _ _)

section Serial
variable {L : List (String × RadioDescriptor)} (hL : (L.map (·.2.adapter)).Nodup)
  {m₀ : RadioManager} {done : List (AdapterPtr × AdapterCall)}
include hL

/-- An adapter the loop has passed is none of those it has still to visit. -/
theorem not_mem_rest {passed rest : List (String × RadioDescriptor)} (h : passed ++ rest = L)
    {p : AdapterPtr} (hp : p ∈ passed.map (·.2.adapter)) : p ∉ rest.map (·.2.adapter) := by
  subst h
  rw [List.map_append, List.nodup_append] at hL
  exact fun hr => hL.2.2 hp hr

theorem Serial.starter {g : Progress} {m : RadioManager} (h : Serial L m₀ done g m) :
    Serial L m₀ done (g.advance m).1 (g.advance m).2 := by
  obtain ⟨passed, before, after, hpass, hperm, hafter, hm⟩ := h
  match g with
  | ⟨[], b⟩ => exact ⟨passed, before, after, hpass, hperm, hafter, hm⟩
  | ⟨(id, d) :: rest, false⟩ =>
    have hd : ∀ x ∈ after, x.1 ≠ d.adapter := fun x hx he =>
      not_mem_rest hL hpass (hafter x hx) (he ▸ List.mem_cons_self _ _)
    refine ⟨passed, before, after, hpass, hperm, hafter, ?_⟩
    simp only [Progress.advance, invoke_fst, SilvusAdapter.call_code, if_true]
    exact (invoke_congr hm _ _).trans (run_handleCalls_comm (fun m => (m.invoke d.adapter .connect).2)
      after (fun x hx (m : RadioManager) => m.invoke_comm (hd x hx) _ _) _)
  | ⟨(id, d) :: rest, true⟩ =>
    have hd : ∀ x ∈ after, x.1 ≠ d.adapter := fun x hx he =>
      not_mem_rest hL hpass (hafter x hx) (he ▸ List.mem_cons_self _ _)
    refine ⟨passed ++ [(id, d)], before, after, by simpa using hpass, hperm,
      fun x hx => by simpa using Or.inl (hafter x hx), ?_⟩
    simp only [Progress.advance, Progress.reached, startLoop_append, startLoop_cons', startLoop]
    exact (cacheState_congr hm _ _).trans (run_handleCalls_comm (fun m => m.cacheState id d.adapter)
      after (fun x hx (m : RadioManager) => m.invoke_cacheState_comm (hd x hx) _ _) _)

omit hL in
theorem Serial.handle {g : Progress} {m : RadioManager} (h : Serial L m₀ done g m) (p : AdapterPtr)
    (c : AdapterCall) : Serial L m₀ (done ++ [(p, c)]) g (m.invoke p c).2 := by
  obtain ⟨passed, before, after, hpass, hperm, hafter, hm⟩ := h
  by_cases hp : p ∈ passed.map (·.2.adapter)
  · refine ⟨passed, before, after ++ [(p, c)], hpass, ?_, ?_, ?_⟩
    · intro q
      rw [← List.append_assoc, List.filter_append, hperm q, List.filter_append]
    · intro x hx
      rcases List.mem_append.1 hx with hx | hx
      · exact hafter x hx
      · rw [List.mem_singleton.1 hx]; exact hp
    · rw [run_handleCalls_concat]; exact invoke_congr hm p c
  · have hne : ∀ x ∈ after, x.1 ≠ p := fun x hx he => hp (he ▸ hafter x hx)
    refine ⟨passed, before ++ [(p, c)], after, hpass, ?_, hafter, ?_⟩
    · have hafter : after.filter (·.1 == p) = [] := List.filter_eq_nil_iff.2 fun x hx => by simpa using hne x hx
      intro q
      rw [List.filter_append, List.filter_append, List.filter_append, ← hperm q, List.filter_append]
      by_cases hpq : p = q
      · subst hpq
        rw [hafter]
        simp
      · simp [hpq]
    · rw [run_handleCalls_concat]
      exact (invoke_congr hm p c).trans ((run_handleCalls_comm (fun m => (m.invoke p c).2) after
        (fun x hx (m : RadioManager) => m.invoke_comm (hne x hx) _ _) _).trans
        (run_congr (reached_invoke_comm g hp c _).symm _))

/-- The invariant holds along the whole schedule. -/
theorem Serial.interleave : ∀ (ts : List Turn) {done : List (AdapterPtr × AdapterCall)}
    {g : Progress} {m : RadioManager}, Serial L m₀ done g m →
    Serial L m₀ (done ++ ts.filterMap Turn.command?) (interleave ts g m).1 (interleave ts g m).2
  | [], _, _, _, h => by simpa using h
  | .starter :: ts, _, _, _, h => by
    simpa [RadioManager.interleave, Turn.command?] using Serial.interleave ts (h.starter hL)
  | .handle p c :: ts, _, _, _, h => by
    simpa [RadioManager.interleave, Turn.command?] using Serial.interleave ts (h.handle p c)

/-- Once no other thread moves, the loop ends where the atomic loop ends after
the commands `before`, followed by the commands `after`. -/
theorem Serial.finish {g : Progress} {m : RadioManager} (h : Serial L m₀ done g m) :
    ∃ before after, SameOrder (before ++ after) done ∧
      (g.finish m).shared = ((startLoop L (m₀.run (handleCalls before))).run (handleCalls after)).shared := by
  obtain ⟨passed, before, after, hpass, hperm, hafter, hm⟩ := h
  refine ⟨before, after, hperm, ?_⟩
  have hrest : ∀ x ∈ after, x.1 ∉ g.rest.map (·.2.adapter) := fun x hx =>
    not_mem_rest hL hpass (hafter x hx)
  subst hpass
  rcases g with ⟨_ | ⟨⟨id, d⟩, rest⟩, _ | _⟩
  · rw [startLoop_append]
    exact (startLoop_congr hm []).trans (run_handleCalls_comm (startLoop []) after
      (fun x hx (m : RadioManager) => invoke_startLoop_comm x.2 (hrest x hx) m) _)
  · simpa using hm
  · rw [startLoop_append]
    exact (startLoop_congr hm _).trans (run_handleCalls_comm (startLoop _) after
      (fun x hx (m : RadioManager) => invoke_startLoop_comm x.2 (hrest x hx) m) _)
  · have hd : ∀ x ∈ after, x.1 ≠ d.adapter := fun x hx he =>
      hrest x hx (he ▸ List.mem_cons_self _ _)
    have hrest' : ∀ x ∈ after, x.1 ∉ rest.map (·.2.adapter) := fun x hx hr =>
      hrest x hx (List.mem_cons_of_mem _ hr)
    rw [startLoop_append, startLoop_cons']
    exact (startLoop_congr ((cacheState_congr hm _ _).trans (run_handleCalls_comm
      (fun m => m.cacheState id d.adapter) after
      (fun x hx (m : RadioManager) => m.invoke_cacheState_comm (hd x hx) _ _) _)) rest).trans
      (run_handleCalls_comm (startLoop rest) after
        (fun x hx (m : RadioManager) => invoke_startLoop_comm x.2 (hrest' x hx) m) _)

end Serial

/-- A valid manager's descriptors point to pairwise different adapters. -/
theorem Valid.adapters_nodup {m : RadioManager} (h : m.Valid) :
    (m.radios_.entries.map (·.2.adapter)).Nodup := by
  refine List.Nodup.map_on ?_ (List.Nodup.of_map Prod.fst m.radios_.nodup)
  rintro ⟨k, d⟩ hx ⟨k', d'⟩ hy he
  obtain rfl := h.ptr_inj k d k' d' hx hy he
  rw [m.radios_.eq_of_mem_entries hx hy]

/-- **`start()` under commands through handles is `start()` between two runs of
them**: whatever the schedule, the threads end where the atomic `start()` ends
with the commands split into those run before it and those run after it, each
adapter's in the order of the schedule. -/
theorem startInterleaved_run {m : RadioManager} (h : m.Valid) (ts : List Turn) :
    ∃ before after : List (AdapterPtr × AdapterCall),
      SameOrder (before ++ after) (ts.filterMap Turn.command?) ∧
      (m.startInterleaved ts).shared = (m.run (handleCalls before ++ .start :: handleCalls after)).shared := by
  have init : Serial (m.emit .lock).radios_.entries (m.emit .lock) [] ⟨m.radios_.entries, false⟩ (m.emit .lock) :=
    ⟨[], [], [], rfl, fun _ => rfl, nofun, rfl⟩
  obtain ⟨before, after, hperm, hfin⟩ := ((init.interleave h.adapters_nodup ts).finish h.adapters_nodup)
  refine ⟨before, after, fun q => by simpa using hperm q, ?_⟩
  rw [run_append, run_cons]
  simp only [step, start, run_handleCalls_radios]
  exact hfin.trans (run_congr ((startLoop_congr
    (run_handleCalls_comm (fun m => m.emit .lock) before (fun _ _ _ => rfl) m).symm _).trans
    (shared_emit _ _).symm) _)

/-! ## The system at the granularity of its locks -/

/-- A step of the system: an operation that runs as one atomic step under the
locks, or `start()` with other threads' commands through handles interleaved
by a schedule. -/
inductive Step
  | atomic (c : Call)
  | start (ts : List Turn)
  deriving DecidableEq, Repr

/-- The calls a step makes, `start()` first. -/
def Step.calls : Step → List Call
  | .atomic c => [c]
  | .start ts => .start :: handleCalls (ts.filterMap Turn.command?)

/-- The manager after the steps `ss`, in order. -/
def fineRun (m : RadioManager) : List Step → RadioManager
  | [] => m
  | .atomic c :: ss => (m.step c).fineRun ss
  | .start ts :: ss => (m.startInterleaved ts).fineRun ss

/-- **A sequential form of a step**: an atomic operation is itself, and `start()`
is `start` with the commands through handles of its schedule split into those
run before it and those run after it, each adapter's in the order of the
schedule. -/
def Step.SerializedAs : Step → List Call → Prop
  | .atomic c, cs => cs = [c]
  | .start ts, cs => ∃ before after, SameOrder (before ++ after) (ts.filterMap Turn.command?) ∧
      cs = handleCalls before ++ .start :: handleCalls after

/-- A sequential form of a step makes its calls, each object's in order. -/
theorem Step.SerializedAs.sameOrderOn {s : Step} {cs : List Call} (h : s.SerializedAs cs) :
    Call.SameOrderOn cs s.calls := by
  cases s with
  | atomic c => exact (show cs = [c] from h) ▸ .refl _
  | start ts =>
    obtain ⟨before, after, hba, rfl⟩ := h
    exact sameOrderOn_start hba

/-- Sequential forms of the steps, one after another, make the calls of the
steps, each object's in order. -/
theorem sameOrderOn_flatten {ss : List Step} {parts : List (List Call)}
    (h : List.Forall₂ Step.SerializedAs ss parts) :
    Call.SameOrderOn parts.flatten (ss.flatMap Step.calls) := by
  induction h with
  | nil => exact .refl []
  | cons hs _ ih => exact hs.sameOrderOn.append ih

/-- `Valid` reads nothing but what the threads share. -/
theorem Valid.of_shared {m₁ m₂ : RadioManager} (h : m₁.shared = m₂.shared) (hv : m₂.Valid) :
    m₁.Valid := by
  obtain ⟨r, a, hp, n, t⟩ := m₁
  obtain ⟨r', a', hp', n', t'⟩ := m₂
  simp only [shared, RadioManager.mk.injEq] at h
  obtain ⟨rfl, rfl, rfl, rfl, -⟩ := h
  exact ⟨hv.active_mem, hv.id_eq, hv.ptr_lt, hv.ptr_inj⟩

/-- Every run of the system ends where a run of the atomic model ends: the
sequential forms of its steps, one after another. -/
theorem fineRun_run {m : RadioManager} (h : m.Valid) (ss : List Step) :
    ∃ parts : List (List Call), List.Forall₂ Step.SerializedAs ss parts ∧
      (m.fineRun ss).shared = (m.run parts.flatten).shared := by
  induction ss generalizing m with
  | nil => exact ⟨[], .nil, rfl⟩
  | cons s ss ih =>
    cases s with
    | atomic c =>
      obtain ⟨parts, hparts, heq⟩ := ih (h.step c)
      exact ⟨[c] :: parts, .cons rfl hparts, heq⟩
    | start ts =>
      obtain ⟨before, after, hba, hs⟩ := startInterleaved_run h ts
      obtain ⟨parts, hparts, heq⟩ := ih (Valid.of_shared hs (h.run _))
      refine ⟨(handleCalls before ++ .start :: handleCalls after) :: parts,
        .cons ⟨before, after, hba, rfl⟩ hparts, ?_⟩
      rw [List.flatten_cons, run_append]
      exact heq.trans (run_congr hs _)

/-- **Every interleaving is a run of the atomic model**: from construction,
whatever the schedule of `start()` against commands through handles, the
threads end where a sequential run ends that is made of one segment per step,
in the order of the steps: an atomic operation alone, and `start()` atomic with
the commands issued while it ran split into those before it and those after
it.  So the run makes the calls of the schedule, those to the manager and
those to each adapter in the order of the schedule, and a command through a
handle moves only across the `start()` it ran inside. -/
theorem fineRun_serializable (config : Configuration) (ss : List Step) :
    ∃ parts : List (List Call), List.Forall₂ Step.SerializedAs ss parts ∧
      Call.SameOrderOn parts.flatten (ss.flatMap Step.calls) ∧
      ((new config).fineRun ss).shared = ((new config).run parts.flatten).shared :=
  let ⟨parts, hparts, heq⟩ := fineRun_run (valid_new config) ss
  ⟨parts, hparts, sameOrderOn_flatten hparts, heq⟩

theorem stop_mem_calls (ss : List Step) : Call.stop ∈ ss.flatMap Step.calls ↔ Step.atomic .stop ∈ ss := by
  simp only [List.mem_flatMap]
  constructor
  · rintro ⟨s, hs, hc⟩
    cases s with
    | atomic c => obtain rfl := List.mem_singleton.1 hc; exact hs
    | start ts => simp [Step.calls, handleCalls] at hc
  · exact fun hs => ⟨_, hs, List.mem_singleton_self _⟩

/-- **Every interleaving keeps the registry**: from construction, whatever the
schedule, the manager stays valid (its active radio registered, each descriptor
under its own id, adapters pairwise distinct), and an id is registered exactly
when no `stop()` has run and the configuration has a `"silvus"` entry for it. -/
theorem fineRun_registry (config : Configuration) (ss : List Step) :
    let m := (new config).fineRun ss
    m.Valid ∧ ∀ id, id ∈ m.radios_.keys ↔
      Step.atomic .stop ∉ ss ∧ ∃ r ∈ config.radios, r.adapter = "silvus" ∧ r.id = id := by
  obtain ⟨parts, hparts, heq⟩ := fineRun_run (valid_new config) ss
  have hperm := sameOrderOn_flatten hparts
  generalize parts.flatten = cs at heq hperm
  have hv := (valid_new config).run cs
  have hkeys : ((new config).fineRun ss).radios_.keys = ((new config).run cs).radios_.keys := by
    simpa using congrArg (fun m => m.radios_.keys) heq
  have hids : ((new config).run cs).radios_.keys = if Call.stop ∈ cs then [] else (new config).radios_.keys :=
    (congrArg Registry.ids (toRegistry_run (valid_new config) cs)).trans (Registry.run_ids _ _)
  refine ⟨Valid.of_shared heq hv, fun id => ?_⟩
  have hstop : Call.stop ∈ cs ↔ Step.atomic .stop ∈ ss := hperm.perm.mem_iff.trans (stop_mem_calls ss)
  rw [hkeys, hids]
  by_cases hs : Step.atomic .stop ∈ ss
  · simp [hstop.2 hs, hs]
  · simp [mt hstop.1 hs, hs, mem_new_keys]

end RadioManager

/-! ## No command is lost -/

/-- The watts a command sets. -/
def AdapterCall.powerSet : AdapterCall → Option ℚ
  | .setPower watts => some watts
  | _ => none

/-- The channel index a command sets. -/
def AdapterCall.channelSet : AdapterCall → Option Int
  | .setChannel channelIndex _ => some channelIndex
  | _ => none

/-- What a call sends to the adapter at `p`, as `record` reads a command. -/
def Call.sentTo {β : Type} (record : AdapterCall → Option β) (p : AdapterPtr) : Call → Option β
  | .adapter q c => if q = p then record c else none
  | _ => none

/-- Only the calls to the adapter at `p` send it anything. -/
theorem filterMap_sentTo_filter {β : Type} (record : AdapterCall → Option β) (p : AdapterPtr) (cs : List Call) :
    cs.filterMap (Call.sentTo record p) = (cs.filter (·.target == some p)).filterMap (Call.sentTo record p) := by
  rw [List.filterMap_filter]
  congr 1
  funext c
  cases c with
  | adapter q a => by_cases hq : q = p <;> simp [Call.target, Call.sentTo, hq]
  | _ => rfl

theorem Call.SameOrderOn.filterMap_sentTo {cs cs' : List Call} (h : Call.SameOrderOn cs cs') {β : Type}
    (record : AdapterCall → Option β) (p : AdapterPtr) :
    cs.filterMap (Call.sentTo record p) = cs'.filterMap (Call.sentTo record p) := by
  rw [filterMap_sentTo_filter record p cs, filterMap_sentTo_filter record p cs', h (some p)]

namespace RadioManager

section LastSent
variable {β : Type} (field : RadioState → Option β) (record : AdapterCall → Option β)
  (hcall : ∀ (a : SilvusAdapter) c, field (a.call c).2.state = (record c).or (field a.state))
  (hconnect : record .connect = none)
include hcall hconnect

theorem startLoop_field (L : List (String × RadioDescriptor)) (m : RadioManager) (p : AdapterPtr) :
    field ((startLoop L m).heap p).state = field (m.heap p).state := by
  induction L generalizing m with
  | nil => rfl
  | cons e L ih =>
    obtain ⟨id, d⟩ := e
    rw [startLoop_cons, ih]
    simp only [setDescriptorState_heap, adapterState_snd, emit_heap, invoke_heap]
    by_cases hp : p = d.adapter
    · subst hp
      rw [Function.update_same, hcall, hconnect, Option.none_or]
    · rw [Function.update_noteq hp]

/-- What one call leaves in a field of an adapter's state: what the call sent
to it, if anything, or what was there. -/
theorem step_field (m : RadioManager) (c : Call) (p : AdapterPtr) :
    field ((m.step c).heap p).state = (c.sentTo record p).or (field (m.heap p).state) := by
  cases c with
  | start => exact startLoop_field field record hcall hconnect _ _ p
  | setActiveRadio id => simp only [step, setActiveRadio]; split <;> rfl
  | getState id => simp only [step, getState_snd]; split <;> rfl
  | adapter q a =>
    simp only [step, invoke_heap, Call.sentTo]
    by_cases hq : q = p
    · subst hq; rw [Function.update_same, hcall, if_pos rfl]
    · rw [Function.update_noteq (Ne.symm hq), if_neg hq, Option.none_or]
  | _ => rfl

/-- A field of an adapter's state holds, after a run, what the last call to
the adapter that set it sent, or else what it held at the start. -/
theorem run_field (m : RadioManager) (cs : List Call) (p : AdapterPtr) :
    field ((m.run cs).heap p).state = ((cs.filterMap (Call.sentTo record p)).getLast?).or (field (m.heap p).state) := by
  induction cs generalizing m with
  | nil => rfl
  | cons c cs ih =>
    have hlast : ((c :: cs).filterMap (Call.sentTo record p)).getLast? =
        (cs.filterMap (Call.sentTo record p)).getLast?.or (c.sentTo record p) := by
      rw [← List.singleton_append, List.filterMap_append, List.getLast?_append]
      cases h : c.sentTo record p <;>
        simp only [List.filterMap_cons, List.filterMap_nil, h, List.getLast?_nil,
          List.getLast?_singleton, Option.or_none]
    rw [run_cons, ih, step_field field record hcall hconnect, hlast, Option.or_assoc]

end LastSent

theorem powerWatts_call (a : SilvusAdapter) (c : AdapterCall) :
    (a.call c).2.state.powerWatts = c.powerSet.or a.state.powerWatts := by
  cases c with
  | refreshState => simp only [SilvusAdapter.call, SilvusAdapter.refreshState_state]; split <;> rfl
  | _ => rfl

theorem channelIndex_call (a : SilvusAdapter) (c : AdapterCall) :
    (a.call c).2.state.channelIndex = c.channelSet.or a.state.channelIndex := by
  cases c with
  | refreshState => simp only [SilvusAdapter.call, SilvusAdapter.refreshState_state]; split <;> rfl
  | _ => rfl

/-- Every adapter of a new manager, allocated or not, is offline, with no power
and no channel. -/
theorem new_heap_state (config : Configuration) (p : AdapterPtr) :
    ((new config).heap p).state = { status := .offline } := by
  have hloop : ∀ (rs : List RadioProfile) (m : RadioManager), (∀ q, (m.heap q).state = { status := .offline }) →
      ∀ q, ((loadLoop rs m).heap q).state = { status := .offline } := by
    intro rs
    induction rs with
    | nil => exact fun _ h => h
    | cons r rs ih =>
      intro m h
      refine ih _ fun q => ?_
      by_cases hr : r.adapter = "silvus"
      · rw [loadRadio_silvus m r hr]
        by_cases hq : q = m.next
        · subst hq; simp
        · simp [Function.update_noteq hq, h q]
      · rw [loadRadio_other m r hr]; exact h q
  exact hloop config.radios { blank.emit .lock with radios_ := blank.radios_.clear } (fun _ => rfl) p

/-- **No command is lost.**  From construction, whatever the schedule of
`start()` against commands through handles, each adapter ends with the power
of the last `set_power` sent to it and the channel of the last `set_channel`,
last in the order the threads sent them, and with none when there was none. -/
theorem fineRun_last_sent (config : Configuration) (ss : List Step) (p : AdapterPtr) :
    let a := ((new config).fineRun ss).heap p
    a.state.powerWatts = ((ss.flatMap Step.calls).filterMap (Call.sentTo AdapterCall.powerSet p)).getLast? ∧
      a.state.channelIndex =
        ((ss.flatMap Step.calls).filterMap (Call.sentTo AdapterCall.channelSet p)).getLast? := by
  obtain ⟨parts, hparts, heq⟩ := fineRun_run (valid_new config) ss
  have hord := sameOrderOn_flatten hparts
  generalize parts.flatten = cs at heq hord
  have hheap : ((new config).fineRun ss).heap = ((new config).run cs).heap := by
    simpa using congrArg RadioManager.heap heq
  refine ⟨?_, ?_⟩
  · rw [hheap, run_field _ _ powerWatts_call rfl, hord.filterMap_sentTo, new_heap_state, Option.or_none]
  · rw [hheap, run_field _ _ channelIndex_call rfl, hord.filterMap_sentTo, new_heap_state, Option.or_none]

end RadioManager
end RadioControl
