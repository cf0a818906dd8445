import RadioControl.RegistryRuns

/-! # The registry's lock and the adapter calls

Every method of `RadioManager` takes `mutex_` through a `std::lock_guard` on
entry and releases it on return, so each operation's events are `lock`, the
adapter methods its body calls, and `unlock`.  The specification asks that an
adapter call, which may block on I/O, never be made with the lock held.  The
registry makes no adapter call at all in `stop`, `list_radios`,
`active_radio`, `set_active_radio` and `get_adapter`; but `get_state` reads
`state()` of the adapter, `start` calls `connect()` and `state()` on every
adapter, and `load_from_config` calls `state()` on every adapter it builds, all
inside the critical section (`registry_lock_discipline`,
`start_calls_adapter_under_lock`).
-/
namespace RadioControl

namespace RadioManager
variable (m : RadioManager)

end RadioManager
end RadioControl
