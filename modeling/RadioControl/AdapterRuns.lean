import RadioControl.SilvusAdapter

/-! # A Silvus adapter along a run

A client holding an adapter calls its commands in some order; `run` is the
adapter after them, and `results` pairs each call with the result it was
answered.  Reads (`state()`, `capabilities()`) change nothing and are left out
of the run.

Each command either records its argument or leaves `power_watts` and
`channel_index` as they are, so along every run from construction they are the
arguments of the last `set_power` and the last `set_channel` answered `Ok`,
and absent before the first (`power_and_channel_of_last_ok`).

The specification's §4.3 table lets a radio leave `Offline` only on a
successful `connect` or `refresh_state`, and has a command pass through `Busy`
from `Ready` (`TableEdge`).  The adapter does less: every command leaves it
`Ready` (`call_status`), so from construction the status is `Offline` until the
first command, whichever it is, and `Ready` from then on
(`status_offline_until_first_call`).  A `set_power` on a new adapter is
therefore a change `Offline → Ready` that no row of the table allows
(`set_power_leaves_offline`).
-/
namespace RadioControl

namespace AdapterCall

/-- `set_power` or `set_channel`, which the table calls a command. -/
def IsCommand : AdapterCall → Prop
  | .setPower _ | .setChannel _ _ => True
  | _ => False

end AdapterCall

/-- **The transition table of §4.3**, read as the status changes one adapter
call may make: `TableEdge c code s s'` when some row takes `s` to `s'` on an
event that the call `c` answering `code` can be.  The row for a manager
`stop` is not an adapter call and has no edge here; "connect failure" leaves
the status unchanged. -/
inductive TableEdge : AdapterCall → CommandResultCode → RadioStatus → RadioStatus → Prop
  /-- Offline, connect success: Ready. -/
  | connectSuccess : TableEdge .connect .ok .offline .ready
  /-- Discovering, the first successful connect: Ready. -/
  | discovered : TableEdge .connect .ok .discovering .ready
  /-- Offline, refresh success: Ready. -/
  | refreshSuccess : TableEdge .refreshState .ok .offline .ready
  /-- Recovering, refresh success: Ready. -/
  | recovered : TableEdge .refreshState .ok .recovering .ready
  /-- Recovering, refresh exhausted or repeated failure: Offline. -/
  | refreshFailed {code : CommandResultCode} (h : code ≠ .ok) :
      TableEdge .refreshState code .recovering .offline
  /-- Ready, command invoked: Busy. -/
  | commandInvoked {c : AdapterCall} {code : CommandResultCode} (h : c.IsCommand) :
      TableEdge c code .ready .busy
  /-- Busy, command completes with any result: Ready. -/
  | commandCompletes {c : AdapterCall} {code : CommandResultCode} (h : c.IsCommand) :
      TableEdge c code .busy .ready
  /-- Ready or Busy, the adapter reports link loss: Recovering. -/
  | linkLoss {c : AdapterCall} {code : CommandResultCode} {s : RadioStatus}
      (h : s = .ready ∨ s = .busy) : TableEdge c code s .recovering

namespace SilvusAdapter

/-- The adapter after the commands `cs`, in order. -/
def run (a : SilvusAdapter) : List AdapterCall → SilvusAdapter
  | [] => a
  | c :: cs => (a.call c).2.run cs

variable (a : SilvusAdapter)

@[simp] theorem run_nil : a.run [] = a := rfl

@[simp] theorem run_cons (c : AdapterCall) (cs : List AdapterCall) :
    a.run (c :: cs) = (a.call c).2.run cs := rfl

/-- From `Offline` or `Ready`, a run ends `Ready` unless it is empty. -/
theorem run_status (cs : List AdapterCall)
    (h : a.state.status = .offline ∨ a.state.status = .ready) :
    (a.run cs).state.status = if cs = [] then a.state.status else .ready := by
  induction cs generalizing a with
  | nil => rfl
  | cons c cs ih =>
    have hc := a.call_status c h
    rw [run_cons, ih _ (.inr hc)]
    split <;> simp [*]

/-- **From construction, the status is `Offline` until the first command and
`Ready` after it**: the only change a run makes is `Offline → Ready`, by its
first command, and `Busy` is never seen between calls. -/
theorem status_offline_until_first_call (id endpoint : String) (calls : List AdapterCall) :
    ((new id endpoint).run calls).state.status = if calls = [] then .offline else .ready :=
  (new id endpoint).run_status calls (.inl rfl)

/-- A new adapter, then `set_power(1.0)`: the status goes from `Offline` to
`Ready` on a command, which no row of the table allows. -/
theorem set_power_leaves_offline :
    ¬ ∀ (id endpoint : String) (calls : List AdapterCall) (c : AdapterCall),
        let a := (new id endpoint).run calls
        a.state.status ≠ (a.call c).2.state.status →
        TableEdge c (a.call c).1.code a.state.status (a.call c).2.state.status := by
  intro h
  have edge : TableEdge (.setPower 1.0) .ok .offline .ready :=
    h "r1" "" [] (.setPower 1.0) (by decide)
  cases edge

/-! ## Power and channel along a run -/

/-- The calls of a run from `a`, each with the result the adapter answered it. -/
def results (a : SilvusAdapter) : List AdapterCall → List (AdapterCall × CommandResult)
  | [] => []
  | c :: cs => (c, (a.call c).1) :: (a.call c).2.results cs

/-- The watts of a `set_power` answered `Ok`. -/
def okPower : AdapterCall × CommandResult → Option ℚ
  | (.setPower watts, r) => if r.code = .ok then some watts else none
  | _ => none

/-- The channel index of a `set_channel` answered `Ok`. -/
def okChannel : AdapterCall × CommandResult → Option Int
  | (.setChannel channelIndex _, r) => if r.code = .ok then some channelIndex else none
  | _ => none

theorem call_powerWatts (c : AdapterCall) :
    (a.call c).2.state.powerWatts = (okPower (c, (a.call c).1)).or a.state.powerWatts := by
  cases c with
  | refreshState => simp only [call, refreshState_state]; split <;> rfl
  | _ => rfl

theorem call_channelIndex (c : AdapterCall) :
    (a.call c).2.state.channelIndex = (okChannel (c, (a.call c).1)).or a.state.channelIndex := by
  cases c with
  | refreshState => simp only [call, refreshState_state]; split <;> rfl
  | _ => rfl

section LastOk
variable {β : Type} (field : RadioState → Option β) (record : AdapterCall × CommandResult → Option β)

/-- A field of the state that each call either sets to what it records, or
keeps, holds after a run what the last recording call set, or else what it
held at the start. -/
theorem run_field_of_call
    (hcall : ∀ (a : SilvusAdapter) c, field (a.call c).2.state = (record (c, (a.call c).1)).or (field a.state))
    (cs : List AdapterCall) :
    field (a.run cs).state = (((a.results cs).filterMap record).getLast?).or (field a.state) := by
  induction cs generalizing a with
  | nil => rfl
  | cons c cs ih =>
    have hlast : ((a.results (c :: cs)).filterMap record).getLast? =
        (((a.call c).2.results cs).filterMap record).getLast?.or (record (c, (a.call c).1)) := by
      rw [results, ← List.singleton_append, List.filterMap_append, List.getLast?_append]
      cases h : record (c, (a.call c).1) <;>
        simp only [List.filterMap_cons, List.filterMap_nil, h, List.getLast?_nil,
          List.getLast?_singleton, Option.or_none]
    rw [run_cons, ih, hcall, hlast, Option.or_assoc]

end LastOk

/-- **Power and channel are the last ones set.**  Along every run from
construction, `power_watts` is the argument of the last `set_power` answered
`Ok` and `channel_index` that of the last `set_channel` answered `Ok`, each
absent when there is none.  `connect` and `refresh_state` change neither, and
`connect` on a `Ready` adapter answers `Ok` and changes nothing. -/
theorem power_and_channel_of_last_ok (id endpoint : String) (calls : List AdapterCall) :
    let a := new id endpoint
    (a.run calls).state.powerWatts = ((a.results calls).filterMap okPower).getLast? ∧
      (a.run calls).state.channelIndex = ((a.results calls).filterMap okChannel).getLast? ∧
      (∀ b : SilvusAdapter, ∀ c ∈ [AdapterCall.connect, .refreshState],
        (b.call c).2.state.powerWatts = b.state.powerWatts ∧
          (b.call c).2.state.channelIndex = b.state.channelIndex) ∧
      ∀ b : SilvusAdapter, b.state.status = .ready → b.connect.1.code = .ok ∧ b.connect.2.state = b.state := by
  refine ⟨?_, ?_, ?_, fun b h => ⟨rfl, by simp [← h]⟩⟩
  · exact (run_field_of_call _ RadioState.powerWatts okPower call_powerWatts calls).trans Option.or_none
  · exact (run_field_of_call _ RadioState.channelIndex okChannel call_channelIndex calls).trans
      Option.or_none
  · intro b c hc
    simp only [List.mem_cons, List.mem_singleton, List.not_mem_nil, or_false] at hc
    rcases hc with rfl | rfl <;> simp [call_powerWatts, call_channelIndex, okPower, okChannel]

end SilvusAdapter
end RadioControl
