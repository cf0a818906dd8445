import RadioControl.SilvusAdapter
import RadioControl.UnorderedMap

/-! # The radio registry

`radio::RadioManager` (`src/radio/radio_manager.cpp`): the map from radio ids to
descriptors and the active-radio pointer, both guarded by `mutex_`.

A descriptor holds a `shared_ptr` to its adapter, and `get_adapter` hands a
copy of it to the caller, so an adapter is shared between the registry and
whoever holds a handle.  The model therefore keeps the adapter objects on a
heap (`heap`, with `next` the first address `make_shared` has not handed out)
and a descriptor holds an address.  Every method of the manager takes the
lock on entry and releases it on return (`std::lock_guard`); the `trace` records
those two events and every adapter method called, in order.

Each operation is one function of the whole state, written as its body is:
`start` and `load_from_config` walk their loops in `startLoop` and `loadLoop`.
-/
namespace RadioControl

/-- The address of an adapter object; `get_adapter`'s `nullptr` is `none`. -/
abbrev AdapterPtr := Nat

/-- `config::RadioProfile`. -/
structure RadioProfile where
  id : String
  adapter : String
  endpoint : String
  deriving DecidableEq, Repr

/-- `config::Configuration`, with the one field the registry reads. -/
structure Configuration where
  radios : List RadioProfile
  deriving DecidableEq, Repr

/-- `radio::RadioDescriptor`; `state` is the registry's cached copy of the
adapter's state. -/
structure RadioDescriptor where
  id : String
  adapterType : String
  adapter : AdapterPtr
  state : RadioState
  deriving DecidableEq, Repr

/-- The `IRadioAdapter` methods, as trace events name them. -/
inductive AdapterMethod
  | connect
  | setPower
  | setChannel
  | refreshState
  | state
  deriving DecidableEq, Repr

/-- What the trace records: `mutex_` taken or released, or an adapter method
called. -/
inductive Event
  | lock
  | unlock
  | call (method : AdapterMethod)
  deriving DecidableEq, Repr

def AdapterCall.method : AdapterCall → AdapterMethod
  | .connect => .connect
  | .setPower _ => .setPower
  | .setChannel _ _ => .setChannel
  | .refreshState => .refreshState

/-- The manager's members `radios_` and `active_radio_`, the adapter objects
its descriptors point to, and the events so far. -/
structure RadioManager where
  radios_ : UnorderedMap RadioDescriptor
  activeRadio_ : Option String
  heap : AdapterPtr → SilvusAdapter
  next : AdapterPtr
  trace : List Event

namespace RadioManager
variable (m : RadioManager)

/-! ## Primitive steps -/

def emit (e : Event) : RadioManager := { m with trace := m.trace ++ [e] }

/-- `std::make_shared<adapter::SilvusAdapter>(id, endpoint)`. -/
def makeShared (id endpoint : String) : AdapterPtr × RadioManager :=
  (m.next, { m with heap := Function.update m.heap m.next (SilvusAdapter.new id endpoint),
                    next := m.next + 1 })

/-- `p->c`: a command on the adapter at `p`. -/
def invoke (p : AdapterPtr) (c : AdapterCall) : CommandResult × RadioManager :=
  let r := (m.heap p).call c
  (r.1, { m.emit (.call c.method) with heap := Function.update m.heap p r.2 })

/-- `p->state()`. -/
def adapterState (p : AdapterPtr) : RadioState × RadioManager :=
  ((m.heap p).state, m.emit (.call .state))

/-- `descriptor.state = st`, for the descriptor of `id`. -/
def setDescriptorState (id : String) (st : RadioState) : RadioManager :=
  { m with radios_ := m.radios_.modify id fun d => { d with state := st } }

/-! ## The operations -/

/-- The loop of `start()`: connect each radio and, on `Ok`, cache its state. -/
def startLoop : List (String × RadioDescriptor) → RadioManager → RadioManager
  | [], m => m
  | (id, descriptor) :: rest, m =>
    let connected := m.invoke descriptor.adapter .connect
    let m :=
      if connected.1.code = .ok then
        let read := connected.2.adapterState descriptor.adapter
        read.2.setDescriptorState id read.1
      else connected.2
    startLoop rest m

def start : RadioManager :=
  (startLoop m.radios_.entries (m.emit .lock)).emit .unlock

def stop : RadioManager :=
  { m.emit .lock with radios_ := m.radios_.clear, activeRadio_ := none }.emit .unlock

def listRadios : List RadioDescriptor × RadioManager :=
  (m.radios_.entries.map Prod.snd, (m.emit .lock).emit .unlock)

def activeRadio : Option String × RadioManager :=
  (m.activeRadio_, (m.emit .lock).emit .unlock)

def setActiveRadio (id : String) : Bool × RadioManager :=
  if m.radios_.find id = none then (false, (m.emit .lock).emit .unlock)
  else (true, { m.emit .lock with activeRadio_ := some id }.emit .unlock)

/-- `get_adapter(id)`: the descriptor's handle, or `nullptr`. -/
def getAdapter (id : String) : Option AdapterPtr × RadioManager :=
  ((m.radios_.find id).map (·.adapter), (m.emit .lock).emit .unlock)

/-- `get_state(id)`: the adapter's own state, not the cached one; a default
`RadioState` for an unknown id. -/
def getState (id : String) : RadioState × RadioManager :=
  match m.radios_.find id with
  | none => ({}, (m.emit .lock).emit .unlock)
  | some descriptor =>
    let read := (m.emit .lock).adapterState descriptor.adapter
    (read.1, read.2.emit .unlock)

/-- One turn of `load_from_config`'s loop: for a `"silvus"` entry, build an
adapter, read its state into a descriptor, and `emplace` it; skip any other
adapter type. -/
def loadRadio (radio : RadioProfile) : RadioManager :=
  if radio.adapter = "silvus" then
    let made := m.makeShared radio.id radio.endpoint
    let read := made.2.adapterState made.1
    let descriptor : RadioDescriptor :=
      { id := radio.id, adapterType := radio.adapter, adapter := made.1, state := read.1 }
    { read.2 with radios_ := read.2.radios_.emplace radio.id descriptor }
  else m

/-- The loop of `load_from_config`, over the configured radios in order. -/
def loadLoop : List RadioProfile → RadioManager → RadioManager
  | [], m => m
  | radio :: rest, m => loadLoop rest (m.loadRadio radio)

def loadFromConfig (config : Configuration) : RadioManager :=
  (loadLoop config.radios { m.emit .lock with radios_ := m.radios_.clear }).emit .unlock

/-- The manager a process starts with: no radios, no active radio, nothing
allocated; an address not yet allocated holds an arbitrary adapter. -/
def blank : RadioManager where
  radios_ := .empty
  activeRadio_ := none
  heap := fun _ => SilvusAdapter.new "" ""
  next := 0
  trace := []

/-- The constructor `RadioManager(io, config)`. -/
def new (config : Configuration) : RadioManager := blank.loadFromConfig config

/-! ## What each primitive step changes -/

section Primitives
variable (e : Event) (p : AdapterPtr) (c : AdapterCall) (id : String) (st : RadioState)

@[simp] theorem emit_radios : (m.emit e).radios_ = m.radios_ := rfl
@[simp] theorem emit_activeRadio : (m.emit e).activeRadio_ = m.activeRadio_ := rfl
@[simp] theorem emit_heap : (m.emit e).heap = m.heap := rfl
@[simp] theorem emit_next : (m.emit e).next = m.next := rfl
@[simp] theorem emit_trace : (m.emit e).trace = m.trace ++ [e] := rfl

@[simp] theorem invoke_fst : (m.invoke p c).1 = ((m.heap p).call c).1 := rfl
@[simp] theorem invoke_radios : (m.invoke p c).2.radios_ = m.radios_ := rfl
@[simp] theorem invoke_activeRadio : (m.invoke p c).2.activeRadio_ = m.activeRadio_ := rfl
@[simp] theorem invoke_heap :
    (m.invoke p c).2.heap = Function.update m.heap p ((m.heap p).call c).2 := rfl
@[simp] theorem invoke_next : (m.invoke p c).2.next = m.next := rfl
@[simp] theorem invoke_trace : (m.invoke p c).2.trace = m.trace ++ [.call c.method] := rfl

@[simp] theorem adapterState_fst : (m.adapterState p).1 = (m.heap p).state := rfl
@[simp] theorem adapterState_snd : (m.adapterState p).2 = m.emit (.call .state) := rfl

@[simp] theorem setDescriptorState_activeRadio :
    (m.setDescriptorState id st).activeRadio_ = m.activeRadio_ := rfl
@[simp] theorem setDescriptorState_heap : (m.setDescriptorState id st).heap = m.heap := rfl
@[simp] theorem setDescriptorState_next : (m.setDescriptorState id st).next = m.next := rfl
@[simp] theorem setDescriptorState_trace : (m.setDescriptorState id st).trace = m.trace := rfl
@[simp] theorem setDescriptorState_keys :
    (m.setDescriptorState id st).radios_.keys = m.radios_.keys :=
  UnorderedMap.modify_keys _ _ _

theorem mem_setDescriptorState {k : String} {d : RadioDescriptor} :
    (k, d) ∈ (m.setDescriptorState id st).radios_.entries ↔
      ∃ d', (k, d') ∈ m.radios_.entries ∧ d = if k = id then { d' with state := st } else d' :=
  UnorderedMap.mem_modify_entries _

end Primitives

/-- `start()` connects every radio and caches the state it then reads: the
adapter of `descriptor` answers `connect` with `Ok`. -/
theorem startLoop_cons (id : String) (descriptor : RadioDescriptor)
    (rest : List (String × RadioDescriptor)) :
    startLoop ((id, descriptor) :: rest) m =
      let read := (m.invoke descriptor.adapter .connect).2.adapterState descriptor.adapter
      startLoop rest (read.2.setDescriptorState id read.1) := by
  rw [startLoop, if_pos (by simp)]

end RadioManager
end RadioControl
