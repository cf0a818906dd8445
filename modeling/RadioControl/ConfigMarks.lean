import RadioControl.ConfigLoad

/-! # Where the nodes of a document stand

yaml-cpp marks every node with the line and the column where it starts, and the
loader takes nothing from a mark but the position it writes into a report.  So
a document loads without a report to the configuration its erasure loads to
(`loadFromFile_of_erase`): each parser returns on a node what it returns on the
erased node (`parseChannel_okAs`, `parseRadio_okAs`), and each block of
the `try` block assigns on a node what it assigns on the erased node
(`ReturnsAs`, `loadBody_returnsAs`).
-/
namespace RadioControl

open Yaml

/-! ## The parsers -/

theorem asRead_okAs {α : Type} {decode : Node → Option α} (hd : ∀ n, decode n.erase = decode n)
    (n : Node) : OkAs (asRead decode n) (asRead decode n.erase) := by
  intro v h
  cases hn : n.erase.as decode with
  | error e => simp [asRead, hn, Except.mapError] at h
  | ok w =>
    simp only [asRead, hn, Except.mapError, Except.ok.injEq] at h
    simp only [asRead, Node.as_of_erase hd (h ▸ hn), Except.mapError]

theorem durationRead_okAs (n : Node) : OkAs (durationRead n) (durationRead n.erase) :=
  (asRead_okAs decodeString_erase n).bind fun _ => okAs_refl _

theorem parseChannel_okAs (dec : Decoders) (n : Node) :
    OkAs (parseChannel dec n) (parseChannel dec n.erase) := by
  simp only [parseChannel, bind_assoc]
  refine okAs_get_bind n "index" fun i => (okAs_as (decodeScalar_erase _) i).bind fun _ => ?_
  refine okAs_get_bind n "frequency_mhz" fun f => (okAs_as (decodeScalar_erase _) f).bind fun _ => ?_
  refine okAs_get_bind n "description" fun d => ?_
  rw [Node.isDefined_erase]
  exact ((okAs_as decodeString_erase d).bind fun _ => okAs_refl _).ite (okAs_refl _)

theorem parseRadio_okAs (dec : Decoders) (n : Node) : OkAs (parseRadio dec n) (parseRadio dec n.erase) := by
  simp only [parseRadio, bind_assoc]
  refine okAs_get_bind n "radio_id" fun i => (okAs_as decodeString_erase i).bind fun _ => ?_
  refine okAs_get_bind n "model" fun m => (okAs_as decodeString_erase m).bind fun _ => ?_
  refine okAs_get_bind n "channels" fun c => ?_
  rw [Node.isDefined_erase, Node.isSequence_erase, Node.items_erase]
  exact ((okAs_mapM (parseChannel_okAs dec) _).bind fun _ => okAs_refl _).ite (okAs_refl _)

/-! ## The blocks -/

/-- `x` ends, from every configuration, with the configuration `x'` ends with,
wherever `x'` returns. -/
def ReturnsAs (x x' : Loader Unit) : Prop :=
  ∀ s s', x' s = .ok () s' → x s = .ok () s'

theorem returnsAs_refl (x : Loader Unit) : ReturnsAs x x := fun _ _ => id

theorem ReturnsAs.bind {x x' : Loader Unit} {g g' : Unit → Loader Unit} (hx : ReturnsAs x x')
    (hg : ∀ u, ReturnsAs (g u) (g' u)) : ReturnsAs (x >>= g) (x' >>= g') := by
  intro s s' h
  obtain ⟨⟨⟩, s₁, h₁, h₂⟩ := run_bind_eq_ok h
  rw [run_bind_ok (hx s s₁ h₁)]
  exact hg () s₁ s' h₂

theorem ReturnsAs.ite {c : Prop} [Decidable c] {x x' y y' : Loader Unit} (hx : ReturnsAs x x')
    (hy : ReturnsAs y y') : ReturnsAs (if c then x else y) (if c then x' else y') := by
  split
  · exact hx
  · exact hy

theorem lift_eq_ok {α : Type} {x : Except Fault α} {s s' : ContainerConfig} {a : α}
    (h : lift x s = .ok a s') : x = .ok a ∧ s' = s := by
  cases x <;> simp_all [lift]

theorem yaml_eq_ok {α : Type} {x : Except Exception α} {s s' : ContainerConfig} {a : α}
    (h : yaml x s = .ok a s') : x = .ok a ∧ s' = s := by
  cases x <;> simp_all [yaml, lift, Except.mapError]

/-- A value read through `erase` is the same value. -/
theorem returnsAs_lift_bind {α : Type} {x x' : Except Fault α} {g g' : α → Loader Unit}
    (hx : OkAs x x') (hg : ∀ a, ReturnsAs (g a) (g' a)) :
    ReturnsAs (lift x >>= g) (lift x' >>= g') := by
  intro s s' h
  obtain ⟨a, s₁, h₁, h₂⟩ := run_bind_eq_ok h
  obtain ⟨hx', rfl⟩ := lift_eq_ok h₁
  rw [run_bind_ok (show lift x _ = .ok a _ by rw [hx a hx']; rfl)]
  exact hg a _ s' h₂

/-- A node looked up through `erase` is the erasure of the node looked up. -/
theorem returnsAs_get_bind (n : Node) (key : String) {g g' : Node → Loader Unit}
    (hg : ∀ c, ReturnsAs (g c) (g' c.erase)) :
    ReturnsAs (yaml (n.get key) >>= g) (yaml (n.erase.get key) >>= g') := by
  intro s s' h
  obtain ⟨c', s₁, h₁, h₂⟩ := run_bind_eq_ok h
  obtain ⟨hc', rfl⟩ := yaml_eq_ok h₁
  obtain ⟨c, hc, rfl⟩ := Node.get_of_erase hc'
  rw [run_bind_ok (yaml_run hc _)]
  exact hg c _ s' h₂

theorem returnsAs_readField {α : Type} (node : Node) (key : String) {read : Node → Except Fault α}
    (hread : ∀ n, OkAs (read n) (read n.erase)) (set : α → ContainerConfig → ContainerConfig) :
    ReturnsAs (readField node key read set) (readField node.erase key read set) := by
  refine returnsAs_get_bind node key fun c => ?_
  rw [Node.isDefined_erase]
  exact ReturnsAs.ite (returnsAs_lift_bind (hread c) fun _ => returnsAs_refl _) (returnsAs_refl _)

theorem returnsAs_yaml_bind {α : Type} {x x' : Except Exception α} {g g' : α → Loader Unit}
    (hx : OkAs x x') (hg : ∀ a, ReturnsAs (g a) (g' a)) : ReturnsAs (yaml x >>= g) (yaml x' >>= g') :=
  returnsAs_lift_bind (hx.mapError _) hg

/-- The four blocks that read only fields assign on a document what they assign
on the erased document. -/
theorem readFields_returnsAs (dec : Decoders) (root : Node) :
    ReturnsAs (readSystem dec root) (readSystem dec root.erase) ∧
      ReturnsAs (readAuth root) (readAuth root.erase) ∧
      ReturnsAs (readTiming dec root) (readTiming dec root.erase) ∧
      ReturnsAs (readTelemetry dec root) (readTelemetry dec root.erase) := by
  refine ⟨?_, ?_, ?_, ?_⟩ <;> simp only [readSystem, readAuth, readTiming, readTelemetry] <;>
  repeat' first
    | with_reducible exact returnsAs_readField _ _ (asRead_okAs decodeString_erase) _
    | with_reducible exact returnsAs_readField _ _ (asRead_okAs (decodeScalar_erase _)) _
    | with_reducible exact returnsAs_readField _ _ durationRead_okAs _
    | with_reducible exact returnsAs_refl _
    | apply returnsAs_get_bind
    | simp only [Node.isDefined_erase, Node.isMap_erase]
    | apply ReturnsAs.ite
    | apply ReturnsAs.bind
    | intro _

theorem pushRadios_returnsAs (dec : Decoders) :
    ∀ nodes : List Node, ReturnsAs (pushRadios dec nodes) (pushRadios dec (nodes.map Node.erase))
  | [] => returnsAs_refl _
  | n :: nodes =>
    returnsAs_yaml_bind (parseRadio_okAs dec n) fun _ =>
      (returnsAs_refl _).bind fun _ => pushRadios_returnsAs dec nodes

theorem readChannels_returnsAs (dec : Decoders) (root : Node) :
    ReturnsAs (readChannels dec root) (readChannels dec root.erase) := by
  simp only [readChannels]
  refine returnsAs_get_bind root "channels" fun channels => ?_
  simp only [Node.isDefined_erase, Node.isMap_erase]
  refine ReturnsAs.ite (returnsAs_get_bind channels "radio_channels" fun radioChannels => ?_) (returnsAs_refl _)
  simp only [Node.isDefined_erase, Node.isMap_erase, Node.values_erase]
  exact (pushRadios_returnsAs dec _).ite (returnsAs_refl _)

/-- The `try` block on a document ends with the configuration it ends with on
the erased document, wherever that returns. -/
theorem loadBody_returnsAs (dec : Decoders) (root : Node) :
    ReturnsAs (loadBody dec (.ok root)) (loadBody dec (.ok root.erase)) := by
  rw [loadBody_ok, loadBody_ok]
  obtain ⟨hsystem, hauth, htiming, htelemetry⟩ := readFields_returnsAs dec root
  exact hsystem.bind fun _ => hauth.bind fun _ => htiming.bind fun _ => htelemetry.bind fun _ =>
    readChannels_returnsAs dec root

/-- **Where the nodes stand changes nothing but the reports**: a document loads
without a report to the configuration its erasure loads to without a report. -/
theorem loadFromFile_of_erase (dec : Decoders) {root : Node} {cfg : ContainerConfig}
    (h : loadFromFile dec (.ok root.erase) = some ⟨cfg, []⟩) :
    loadFromFile dec (.ok root) = some ⟨cfg, []⟩ := by
  have hbody : (loadBody dec (.ok root)).run {} = .ok () cfg :=
    loadBody_returnsAs dec root {} cfg (loadBody_of_loadFromFile h)
  rw [loadFromFile, hbody]

end RadioControl
