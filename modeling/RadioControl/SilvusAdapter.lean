import RadioControl.Types
import Mathlib.Tactic.NormNum

/-! # The Silvus adapter

`adapter::SilvusAdapter` (`src/adapter/silvus_adapter.cpp`), the only
`IRadioAdapter` the registry builds.  Its `mutex_` makes each method one atomic
step on the adapter's fields, so a method is a function from the adapter to its
result and the adapter after it.  `state()`, `capabilities()` and `id()` only
read.

`set_power` and `set_channel` share one shape (`applyCommand`): record the
argument, mark the radio `Busy`, then `Ready`, and answer `Ok`.  Neither looks
at `capabilities_`, so an argument outside the advertised range is stored like
any other (`setPower_ignores_range`, `out_of_range_not_rejected`).
-/
namespace RadioControl

/-- `adapter::SilvusAdapter`: its identity, endpoint, capabilities and
last-known state. -/
structure SilvusAdapter where
  id_ : String
  endpoint_ : String
  capabilities_ : CapabilityInfo
  state_ : RadioState
  deriving DecidableEq, Repr

/-- A command a holder of an adapter handle can issue: the methods of
`IRadioAdapter` that change the adapter. -/
inductive AdapterCall
  | connect
  | setPower (watts : ℚ)
  | setChannel (channelIndex : Int) (frequencyMhz : ℚ)
  | refreshState
  deriving DecidableEq, Repr

namespace SilvusAdapter

/-- The constructor: channels at 2412, 2437 and 2462 MHz, power from 0.1 W to
5 W, status `Offline`. -/
def new (id endpoint : String) : SilvusAdapter where
  id_ := id
  endpoint_ := endpoint
  capabilities_ :=
    { supportedFrequenciesMhz := [2412.0, 2437.0, 2462.0], powerRangeWatts := (0.1, 5.0) }
  state_ := { status := .offline }

def id (a : SilvusAdapter) : String := a.id_

def capabilities (a : SilvusAdapter) : CapabilityInfo := a.capabilities_

def state (a : SilvusAdapter) : RadioState := a.state_

def connect (a : SilvusAdapter) : CommandResult × SilvusAdapter :=
  ({ code := .ok }, { a with state_ := { a.state_ with status := .ready } })

/-- The body `set_power` and `set_channel` share: `record` writes the argument
into the state, then the status is set to `Busy` and then to `Ready`. -/
def applyCommand (record : RadioState → RadioState) (a : SilvusAdapter) :
    CommandResult × SilvusAdapter :=
  let recorded := record a.state_
  let busy := { recorded with status := .busy }
  ({ code := .ok }, { a with state_ := { busy with status := .ready } })

def setPower (watts : ℚ) (a : SilvusAdapter) : CommandResult × SilvusAdapter :=
  applyCommand (fun st => { st with powerWatts := some watts }) a

/-- `frequency_mhz` is discarded, as `(void)frequency_mhz` does. -/
def setChannel (channelIndex : Int) (_frequencyMhz : ℚ) (a : SilvusAdapter) :
    CommandResult × SilvusAdapter :=
  applyCommand (fun st => { st with channelIndex := some channelIndex }) a

def refreshState (a : SilvusAdapter) : CommandResult × SilvusAdapter :=
  ({ code := .ok },
    if a.state_.status = .offline then { a with state_ := { a.state_ with status := .ready } }
    else a)

/-- A command on the adapter, by name. -/
def call : AdapterCall → SilvusAdapter → CommandResult × SilvusAdapter
  | .connect => connect
  | .setPower watts => setPower watts
  | .setChannel channelIndex frequencyMhz => setChannel channelIndex frequencyMhz
  | .refreshState => refreshState

/-! ## One lemma per method -/

variable (a : SilvusAdapter)

@[simp] theorem new_state (id endpoint : String) :
    (new id endpoint).state = { status := .offline } := rfl

@[simp] theorem new_id (id endpoint : String) : (new id endpoint).id = id := rfl

@[simp] theorem connect_state : (connect a).2.state = { a.state with status := .ready } := rfl

@[simp] theorem setPower_state (watts : ℚ) :
    (setPower watts a).2.state = { a.state with powerWatts := some watts, status := .ready } := rfl

@[simp] theorem setChannel_state (channelIndex : Int) (frequencyMhz : ℚ) :
    (setChannel channelIndex frequencyMhz a).2.state =
      { a.state with channelIndex := some channelIndex, status := .ready } := rfl

@[simp] theorem refreshState_state :
    (refreshState a).2.state =
      if a.state.status = .offline then { a.state with status := .ready } else a.state := by
  unfold refreshState state; split <;> simp [*]

/-- **Every command answers `Ok`.** -/
@[simp] theorem call_code (c : AdapterCall) : (a.call c).1.code = .ok := by
  cases c <;> rfl

/-- **A command changes only the state**: identity, endpoint and capabilities
stay as the constructor set them. -/
theorem call_frame (c : AdapterCall) : (a.call c).2 = { a with state_ := (a.call c).2.state } := by
  cases c with
  | refreshState => by_cases h : a.state_.status = .offline <;> simp [call, refreshState, state, h]
  | _ => rfl

@[simp] theorem call_id (c : AdapterCall) : (a.call c).2.id = a.id := by
  rw [call_frame]; rfl

@[simp] theorem call_capabilities (c : AdapterCall) :
    (a.call c).2.capabilities = a.capabilities := by
  rw [call_frame]; rfl

/-- **Every command leaves the radio `Ready`**, from any status: `connect`,
`set_power` and `set_channel` set it, and `refresh_state` sets it from
`Offline`; the `Busy` that the two commands write is overwritten before the
adapter's lock is released. -/
theorem call_status (c : AdapterCall) (h : a.state.status = .offline ∨ a.state.status = .ready) :
    (a.call c).2.state.status = .ready := by
  cases c with
  | refreshState => rcases h with h | h <;> simp [call, h]
  | _ => rfl

/-! ## No range check -/

/-- **`set_power` and `set_channel` never consult `capabilities()`**: for every
adapter and every argument, inside the advertised range or not, they answer
`Ok`, store the argument and leave the radio `Ready`. -/
theorem setPower_ignores_range (watts : ℚ) (channelIndex : Int) (frequencyMhz : ℚ) :
    (a.setPower watts).1.code = .ok ∧
      (a.setPower watts).2.state = { a.state with powerWatts := some watts, status := .ready } ∧
    (a.setChannel channelIndex frequencyMhz).1.code = .ok ∧
      (a.setChannel channelIndex frequencyMhz).2.state =
        { a.state with channelIndex := some channelIndex, status := .ready } :=
  ⟨rfl, rfl, rfl, rfl⟩

/-- Construction followed by `set_power(7.0)`: 7 W lies outside `(0.1, 5.0)`,
and the adapter answers `Ok` where the range check would answer
`InvalidRange`. -/
theorem out_of_range_not_rejected :
    ¬ ((∀ (a : SilvusAdapter) (watts : ℚ),
          ¬ (a.capabilities.powerRangeWatts.1 ≤ watts ∧ watts ≤ a.capabilities.powerRangeWatts.2) →
          (a.setPower watts).1.code = .invalidRange ∧ (a.setPower watts).2.state = a.state) ∧
        ∀ (a : SilvusAdapter) (channelIndex : Int) (frequencyMhz : ℚ),
          frequencyMhz ∉ a.capabilities.supportedFrequenciesMhz →
          (a.setChannel channelIndex frequencyMhz).1.code = .invalidRange ∧
            (a.setChannel channelIndex frequencyMhz).2.state = a.state) := by
  intro h
  have rejected := (h.1 (new "r1" "") 7.0 (by norm_num [new, capabilities])).1
  cases rejected

end SilvusAdapter
end RadioControl
