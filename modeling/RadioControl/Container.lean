import RadioControl.ConfigFile
import RadioControl.Interleaving

/-! # The registry of the running container

The first draft builds `RadioManager` from the `Configuration` that
`ConfigManager::load_from_file` reads.  Its threads then run the manager's
operations, each under `mutex_`, while commands through handles reach the
adapters between the steps of `start()`.  Composed, the two ends say what a
file does to the running registry: it holds the ids of the file's `silvus`
entries until `stop()`, whatever the schedule (`file_registry`).
-/
namespace RadioControl

/-- **The registry of the running container.**  For every document whose
`radios` member is read and every schedule of the threads, the manager built
from it keeps its invariant.  An id is registered exactly when no `stop()` has
run and an entry of `radios` whose `adapter` reads `silvus` has that id. -/
theorem file_registry {root : Yaml.Node} {ps : List RadioProfile} (h : loadRadios root = .ok ps)
    (ss : List RadioManager.Step) :
    let m := (RadioManager.new ⟨ps⟩).fineRun ss
    m.Valid ∧ ∀ id, id ∈ m.radios_.keys ↔ RadioManager.Step.atomic .stop ∉ ss ∧
      ∃ radios, root.get "radios" = .ok radios ∧ ∃ item ∈ radios.items,
        stringField item "adapter" = .ok "silvus" ∧ stringField item "id" = .ok id := by
  obtain ⟨hv, hkeys⟩ := RadioManager.fineRun_registry ⟨ps⟩ ss
  refine ⟨hv, fun id => (hkeys id).trans (and_congr_right fun _ => ?_)⟩
  exact (RadioManager.mem_new_keys _).symm.trans (mem_new_keys_of_file h id)

/-- A file with one `silvus` radio `r1`,

    radios:
      - id: r1
        adapter: silvus

each node at its line and column: a schedule that starts the manager while a
handle thread sets the power of adapter `0`, then selects `r1`, keeps `r1`
registered. -/
theorem one_radio_file_registry :
    let root : Yaml.Node := .map ⟨0, 0⟩ [(.scalar ⟨0, 0⟩ "radios", .sequence ⟨1, 2⟩ [.map ⟨1, 4⟩
      [(.scalar ⟨1, 4⟩ "id", .scalar ⟨1, 8⟩ "r1"), (.scalar ⟨2, 4⟩ "adapter", .scalar ⟨2, 13⟩ "silvus")]])]
    let ss : List RadioManager.Step :=
      [.start [.handle 0 (.setPower 5), .starter, .starter], .atomic (.setActiveRadio "r1")]
    loadRadios root = .ok [⟨"r1", "silvus", ""⟩] ∧
      let m := (RadioManager.new ⟨[⟨"r1", "silvus", ""⟩]⟩).fineRun ss
      m.Valid ∧ ∀ id, id ∈ m.radios_.keys ↔ RadioManager.Step.atomic .stop ∉ ss ∧
        ∃ radios, root.get "radios" = .ok radios ∧
          ∃ item ∈ radios.items, stringField item "adapter" = .ok "silvus" ∧ stringField item "id" = .ok id :=
  ⟨by decide, file_registry (by decide) _⟩

end RadioControl
