import RadioControl.RadioManager

/-! # The registry as the specification describes it

The specification's registry (§4.2) owns a fixed set of radios and an "active
radio" pointer which, "if set, always references an existing RadioId".
`Registry` is that state, with the invariant as a field, so a registry whose
active radio is unknown cannot be built; `Registry.step` is what each call of a
client does to it.  `set_active_radio` succeeds exactly for a registered id,
and every other call but `stop()` leaves the registry as it is.  `stop()` is
the one departure from "membership is fixed after load": it tears the registry
down to no radios (`run_ids`).

`RadioManager` refines this registry: forgetting its descriptors, adapters and
events, each of its calls is the registry's (`RadioManager.toRegistry_run`, in
`RegistryRuns`).
-/
namespace RadioControl

/-- One call of a client: an operation of the registry, or a command on the
adapter at an address the client holds. -/
inductive Call
  | start
  | stop
  | listRadios
  | activeRadio
  | setActiveRadio (id : String)
  | getAdapter (id : String)
  | getState (id : String)
  | adapter (p : AdapterPtr) (c : AdapterCall)
  deriving DecidableEq, Repr

namespace Call

/-- A command on an adapter through a handle. -/
def IsHandle : Call → Bool
  | .adapter _ _ => true
  | _ => false

/-- Every handle command of the calls is followed, later on, by a `start`. -/
def Resynced : List Call → Bool
  | [] => true
  | c :: cs => (!c.IsHandle || decide (Call.start ∈ cs)) && Resynced cs

/-- A command through a handle on the adapter at `p`. -/
def IsHandleAt (p : AdapterPtr) : Call → Bool
  | .adapter q _ => q == p
  | _ => false

/-- Every command through a handle on the adapter at `p` is followed, later on,
by a `start`. -/
def ResyncedAt (p : AdapterPtr) : List Call → Bool
  | [] => true
  | c :: cs => (!c.IsHandleAt p || decide (Call.start ∈ cs)) && ResyncedAt p cs

/-- Calls after which every handle command is followed by a `start` are so for
each adapter. -/
theorem Resynced.resyncedAt {cs : List Call} (h : Resynced cs = true) (p : AdapterPtr) :
    ResyncedAt p cs = true := by
  induction cs with
  | nil => rfl
  | cons c cs ih =>
    simp only [Resynced, ResyncedAt, Bool.and_eq_true, Bool.or_eq_true, Bool.not_eq_true'] at h ⊢
    refine ⟨h.1.imp (fun hc => ?_) id, ih h.2⟩
    cases c <;> simp_all [IsHandle, IsHandleAt]

end Call

/-- **The registry**: the registered ids, and the active one if any. -/
@[ext] structure Registry where
  ids : List String
  active : Option String
  active_mem : ∀ id, active = some id → id ∈ ids

namespace Registry
variable (r : Registry)

/-- `set_active_radio(id)`: the id becomes active exactly when it is registered. -/
def select (id : String) : Bool × Registry :=
  if h : id ∈ r.ids then (true, ⟨r.ids, some id, fun _ he => Option.some.inj he ▸ h⟩)
  else (false, r)

/-- `stop()`: no radios, and nothing active. -/
def teardown : Registry := ⟨[], none, nofun⟩

/-- The registry after one call. -/
def step : Call → Registry
  | .stop => teardown
  | .setActiveRadio id => (r.select id).2
  | _ => r

/-- The registry after the calls `cs`, in order. -/
def run (r : Registry) : List Call → Registry
  | [] => r
  | c :: cs => (r.step c).run cs

theorem select_fst (id : String) : (r.select id).1 = decide (id ∈ r.ids) := by
  unfold select; split <;> simp [*]

@[simp] theorem select_ids (id : String) : (r.select id).2.ids = r.ids := by
  unfold select; split <;> rfl

theorem select_active (id : String) :
    (r.select id).2.active = if id ∈ r.ids then some id else r.active := by
  unfold select; split <;> simp [*]

/-- Only `stop` changes the registered ids. -/
theorem step_ids (c : Call) : (r.step c).ids = if c = .stop then [] else r.ids := by
  cases c with
  | stop => rfl
  | setActiveRadio id => simp [step]
  | _ => rfl

/-- **The ids are those of the start until a `stop`, and none after it.** -/
theorem run_ids (cs : List Call) : (r.run cs).ids = if Call.stop ∈ cs then [] else r.ids := by
  induction cs generalizing r with
  | nil => simp [run]
  | cons c cs ih =>
    rw [run, ih, step_ids]
    by_cases hc : c = .stop
    · simp [hc]
    · simp [hc, Ne.symm hc]

end Registry
end RadioControl
