import Mathlib.Algebra.Order.Field.Rat

/-! # The common data model

The records every component of the container exchanges (`rcc/common/types.hpp`,
and `CapabilityInfo` from `rcc/adapter/radio_adapter.hpp`), with the defaults
their member initialisers give.

A `double` of the source is modelled by the rational it denotes.  No modelled
function computes with one: watts and frequencies are only stored, returned
and compared, so nothing depends on rounding; NaN and the infinities are left
out.  An `int` is an `Int`, since it is only stored.
-/
namespace RadioControl

/-- `common::CommandResultCode`. -/
inductive CommandResultCode
  | ok
  | invalidRange
  | busy
  | unavailable
  | internalError
  deriving DecidableEq, Repr

/-- `common::CommandResult`: `code{Ok}`, an empty message, no vendor payload. -/
structure CommandResult where
  code : CommandResultCode := .ok
  message : String := ""
  vendorPayload : Option String := none
  deriving DecidableEq, Repr

/-- `common::RadioStatus`. -/
inductive RadioStatus
  | offline
  | discovering
  | ready
  | busy
  | recovering
  deriving DecidableEq, Repr

/-- `common::RadioState`: `status{Offline}`, and channel and power absent until set. -/
structure RadioState where
  status : RadioStatus := .offline
  channelIndex : Option Int := none
  powerWatts : Option ℚ := none
  deriving DecidableEq, Repr

/-- `adapter::CapabilityInfo`: no frequencies, and the power range `{0.0, 0.0}`. -/
structure CapabilityInfo where
  supportedFrequenciesMhz : List ℚ := []
  powerRangeWatts : ℚ × ℚ := (0.0, 0.0)
  deriving DecidableEq, Repr

end RadioControl
