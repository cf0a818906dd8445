import RadioControl.Duration
import RadioControl.Yaml

/-! # Loading the container configuration

`ConfigManager::loadFromFile` (third draft of `src/config/config_manager.cpp`)
starts from `ContainerConfig cfg{}` and, inside one `try` block, loads the YAML
file and reads the recognised fields one after another, assigning each to
`cfg` as soon as it is read.  The `catch (const std::exception&)` writes
"Failed to parse config: ... Using defaults." to `std::cerr` and falls through
to `return cfg`.

The assignments made before a failing read are not undone, so the
configuration returned after a failure is the defaults with every field read
before the failure applied, not the defaults: a document that names its
service and then has a radio without `radio_id` loads with that service name
(`loadFromFile_containerId`, `partial_config_on_failure`), and a radio list
that fails part way keeps the radios read before the failing entry
(`pushRadios_final`).

The loader looks up five keys of the document and nothing else, so keys it does
not know change nothing (`loadFromFile_sections`), and no key sets
`deployment`, which every result leaves `"development"`
(`loadFromFile_deployment`).  Two keys set the idle timeout, and the one read
last, `telemetry.client_idle_timeout`, wins over
`timing.telemetry.heartbeat_timeout` (`loadFromFile_clientIdleTimeout`).

The loader reads the document through the yaml-cpp model of `Yaml`, its
conversions other than to `std::string` being a parameter (`Yaml.Decoders`).
-/
namespace RadioControl

/-! ## The configuration -/

structure NetworkConfig where
  listenAddress : String := "0.0.0.0"
  port : UInt16 := 8002
  deriving DecidableEq, Repr

structure AuthConfig where
  required : Bool := true
  jwtSecret : String := "dev-secret"
  issuer : String := ""
  audience : String := ""
  deriving DecidableEq, Repr

/-- `eventRetention` counts hours and `clientIdleTimeout` seconds. -/
structure TelemetryConfig where
  eventBufferSize : Nat := 512
  eventRetention : Int := 1
  maxSseClients : Nat := 8
  clientIdleTimeout : Int := 60
  deriving DecidableEq, Repr

structure ChannelEntry where
  index : Int := 1
  frequencyMHz : Double := .finite false 0 0
  description : String := ""
  deriving DecidableEq, Repr

structure RadioConfig where
  id : String := ""
  model : String := ""
  channels : List ChannelEntry := []
  deriving DecidableEq, Repr

/-- `ContainerConfig`, with the defaults of its member initialisers. -/
structure ContainerConfig where
  containerId : String := "radio-control-container"
  deployment : String := "development"
  network : NetworkConfig := {}
  auth : AuthConfig := {}
  telemetry : TelemetryConfig := {}
  radios : List RadioConfig := []
  deriving DecidableEq, Repr

/-! ## Reading one radio -/

section Parse
variable (dec : Yaml.Decoders)

/-- `parseChannel`. -/
def parseChannel (node : Yaml.Node) : Except Exception ChannelEntry := do
  let index ← (← node.get "index").as (Yaml.decodeScalar dec.int)
  let frequencyMHz ← (← node.get "frequency_mhz").as (Yaml.decodeScalar dec.double)
  let description ← node.get "description"
  let description ← if description.isDefined then description.as Yaml.decodeString else pure ""
  return { index, frequencyMHz, description }

/-- `parseRadio`. -/
def parseRadio (node : Yaml.Node) : Except Exception RadioConfig := do
  let id ← (← node.get "radio_id").as Yaml.decodeString
  let model ← (← node.get "model").as Yaml.decodeString
  let channels ← node.get "channels"
  let channels ← if channels.isDefined && channels.isSequence then
      channels.items.mapM (parseChannel dec)
    else pure []
  return { id, model, channels }

end Parse

/-! ## The `try` block -/

/-- The `try` block of `loadFromFile`: it fills the configuration in place, and
a throw leaves the configuration as far as it got. -/
abbrev Loader := EStateM Fault ContainerConfig

/-- A step of the `try` block that may throw or be undefined. -/
def lift {α : Type} (x : Except Fault α) : Loader α := fun cfg =>
  match x with
  | .ok a => .ok a cfg
  | .error e => .error e cfg

/-- A yaml-cpp call, which may throw. -/
def yaml {α : Type} (x : Except Exception α) : Loader α := lift (x.mapError .thrown)

/-- `if (node[key]) { field = read(node[key]); }`, with `set` the assignment
(`node[key]` is looked up twice in the source, with the same result). -/
def readField {α : Type} (node : Yaml.Node) (key : String) (read : Yaml.Node → Except Fault α)
    (set : α → ContainerConfig → ContainerConfig) : Loader Unit := do
  let child ← yaml (node.get key)
  if child.isDefined then
    let v ← lift (read child)
    modify (set v)

/-- `node.as<T>()` as a read. -/
def asRead {α : Type} (decode : Yaml.Node → Option α) (node : Yaml.Node) : Except Fault α :=
  (node.as decode).mapError .thrown

/-- `parseDuration(node.as<std::string>())` as a read. -/
def durationRead (node : Yaml.Node) : Except Fault Int :=
  (asRead Yaml.decodeString node).bind parseDuration

section Blocks
variable (dec : Yaml.Decoders) (root : Yaml.Node)

/-- The `system` block. -/
def readSystem : Loader Unit := do
  let system ← yaml (root.get "system")
  if system.isDefined then
    readField system "service_name" (asRead Yaml.decodeString) fun v cfg =>
      { cfg with containerId := v }
    readField system "listen_address" (asRead Yaml.decodeString) fun v cfg =>
      { cfg with network.listenAddress := v }
    readField system "port" (asRead (Yaml.decodeScalar dec.uint16)) fun v cfg =>
      { cfg with network.port := v }
    readField system "auth_required" (asRead (Yaml.decodeScalar dec.bool)) fun v cfg =>
      { cfg with auth.required := v }

/-- The `auth` block. -/
def readAuth : Loader Unit := do
  let auth ← yaml (root.get "auth")
  if auth.isDefined && auth.isMap then
    readField auth "jwt_secret" (asRead Yaml.decodeString) fun v cfg => { cfg with auth.jwtSecret := v }
    readField auth "issuer" (asRead Yaml.decodeString) fun v cfg => { cfg with auth.issuer := v }
    readField auth "audience" (asRead Yaml.decodeString) fun v cfg => { cfg with auth.audience := v }

/-- The `timing` block: the idle timeout, and the event buffer, whose retention
`duration_cast<std::chrono::hours>` truncates to whole hours. -/
def readTiming : Loader Unit := do
  let timing ← yaml (root.get "timing")
  if timing.isDefined && timing.isMap then
    let telemetry ← yaml (timing.get "telemetry")
    if telemetry.isDefined && telemetry.isMap then
      readField telemetry "heartbeat_timeout" durationRead fun v cfg =>
        { cfg with telemetry.clientIdleTimeout := v }
    let events ← yaml (timing.get "events")
    if events.isDefined && events.isMap then
      readField events "buffer_size_per_radio" (asRead (Yaml.decodeScalar dec.size)) fun v cfg =>
        { cfg with telemetry.eventBufferSize := v }
      readField events "buffer_retention" durationRead fun v cfg =>
        { cfg with telemetry.eventRetention := v.tdiv 3600 }

/-- The `telemetry` block. -/
def readTelemetry : Loader Unit := do
  let telemetry ← yaml (root.get "telemetry")
  if telemetry.isDefined && telemetry.isMap then
    readField telemetry "max_clients" (asRead (Yaml.decodeScalar dec.size)) fun v cfg =>
      { cfg with telemetry.maxSseClients := v }
    readField telemetry "client_idle_timeout" durationRead fun v cfg =>
      { cfg with telemetry.clientIdleTimeout := v }

/-- `cfg.radios.push_back(parseRadio(entry.second))` for each entry in turn. -/
def pushRadios : List Yaml.Node → Loader Unit
  | [] => pure ()
  | node :: rest => do
    let radio ← yaml (parseRadio dec node)
    modify fun cfg => { cfg with radios := cfg.radios ++ [radio] }
    pushRadios rest

/-- The `channels` block. -/
def readChannels : Loader Unit := do
  let channels ← yaml (root.get "channels")
  if channels.isDefined && channels.isMap then
    let radioChannels ← yaml (channels.get "radio_channels")
    if radioChannels.isDefined && radioChannels.isMap then
      pushRadios dec radioChannels.values

end Blocks

/-- **The `try` block of `loadFromFile`**: `YAML::LoadFile`, whose result or
exception is `file`, then the blocks in the order of the source. -/
def loadBody (dec : Yaml.Decoders) (file : Except Exception Yaml.Node) : Loader Unit := do
  let root ← yaml file
  readSystem dec root
  readAuth root
  readTiming dec root
  readTelemetry dec root
  readChannels dec root

/-- What `loadFromFile` returns, and the lines it writes to `std::cerr`. -/
structure Loaded where
  config : ContainerConfig
  stderr : List String
  deriving DecidableEq, Repr

/-- **`ConfigManager::loadFromFile`**: the `try` block run on `ContainerConfig{}`;
a thrown exception is reported and the configuration as it stands is returned.
`none` is undefined behaviour. -/
def loadFromFile (dec : Yaml.Decoders) (file : Except Exception Yaml.Node) : Option Loaded :=
  match (loadBody dec file).run {} with
  | .ok () cfg => some ⟨cfg, []⟩
  | .error (.thrown e) cfg =>
    some ⟨cfg, ["[ConfigManager] Failed to parse config: " ++ e.what ++ ". Using defaults."]⟩
  | .error .undefined _ => none

/-! ## What a step leaves alone -/

/-- The configuration a run of the `try` block ends with, returning or
throwing. -/
def finalConfig {α : Type} : EStateM.Result Fault ContainerConfig α → ContainerConfig
  | .ok _ cfg => cfg
  | .error _ cfg => cfg

/-- A step of the `try` block leaves `f` of the configuration as it was,
whether it returns or throws. -/
def Keeps {β α : Type} (f : ContainerConfig → β) (x : Loader α) : Prop :=
  ∀ cfg, f (finalConfig (x cfg)) = f cfg

section Keeps
variable {β : Type} {f : ContainerConfig → β}

theorem keeps_lift {α : Type} (x : Except Fault α) : Keeps f (lift x) := by
  intro cfg; cases x <;> rfl

theorem keeps_yaml {α : Type} (x : Except Exception α) : Keeps f (yaml x) := keeps_lift _

theorem keeps_pure {α : Type} (a : α) : Keeps f (pure a : Loader α) := fun _ => rfl

theorem keeps_modify {g : ContainerConfig → ContainerConfig} (hg : ∀ cfg, f (g cfg) = f cfg) :
    Keeps f (modify g : Loader Unit) := hg

theorem keeps_bind {α γ : Type} {x : Loader α} {g : α → Loader γ} (hx : Keeps f x)
    (hg : ∀ a, Keeps f (g a)) : Keeps f (x >>= g) := by
  intro cfg
  have h := hx cfg
  cases hc : x cfg with
  | ok a s =>
    have hrun : (x >>= g) cfg = g a s := by simp only [bind, EStateM.bind, hc]
    rw [hrun]; rw [hc] at h; exact (hg a s).trans h
  | error e s =>
    have hrun : (x >>= g) cfg = .error e s := by simp only [bind, EStateM.bind, hc]
    rw [hrun]; rw [hc] at h; exact h

theorem keeps_ite {c : Prop} [Decidable c] {x y : Loader Unit} (hx : Keeps f x) (hy : Keeps f y) :
    Keeps f (if c then x else y) := by
  split
  · exact hx
  · exact hy

/-- A field read keeps what its assignment keeps. -/
theorem keeps_readField {α : Type} (node : Yaml.Node) (key : String)
    (read : Yaml.Node → Except Fault α) {set : α → ContainerConfig → ContainerConfig}
    (hset : ∀ v cfg, f (set v cfg) = f cfg) : Keeps f (readField node key read set) :=
  keeps_bind (keeps_yaml _) fun _ =>
    keeps_ite (keeps_bind (keeps_lift _) fun v => keeps_modify (hset v)) (keeps_pure _)

variable (f) in
theorem keeps_pushRadios (dec : Yaml.Decoders) (hf : ∀ cfg rs, f { cfg with radios := rs } = f cfg) :
    ∀ nodes, Keeps f (pushRadios dec nodes)
  | [] => keeps_pure _
  | _ :: rest =>
    keeps_bind (keeps_yaml _) fun _ =>
      keeps_bind (keeps_modify fun cfg => hf cfg _) fun _ => keeps_pushRadios dec hf rest

end Keeps

/-! ## A field read before a failure survives it -/

/-- The blocks after `system` never assign `containerId`. -/
theorem keeps_containerId_after_system (dec : Yaml.Decoders) (root : Yaml.Node) :
    Keeps ContainerConfig.containerId
      (do readAuth root; readTiming dec root; readTelemetry dec root; readChannels dec root) := by
  simp only [readAuth, readTiming, readTelemetry, readChannels]
  repeat' first
    | with_reducible exact keeps_yaml _
    | with_reducible exact keeps_pure _
    | with_reducible exact keeps_readField _ _ _ fun _ _ => rfl
    | with_reducible exact keeps_pushRadios ContainerConfig.containerId _ (fun _ _ => rfl) _
    | with_reducible apply keeps_bind
    | with_reducible apply keeps_ite
    | intro _

theorem run_bind_ok {α γ : Type} {x : Loader α} {g : α → Loader γ} {cfg s : ContainerConfig} {a : α}
    (hx : x cfg = .ok a s) : (x >>= g) cfg = g a s := by
  simp only [bind, EStateM.bind, hx]

theorem yaml_run {α : Type} {x : Except Exception α} {a : α} (h : x = .ok a) (cfg : ContainerConfig) :
    yaml x cfg = .ok a cfg := by
  subst h; rfl

theorem run_bind_eq_ok {α γ : Type} {x : Loader α} {g : α → Loader γ} {s s' : ContainerConfig} {b : γ}
    (h : (x >>= g) s = .ok b s') : ∃ a s₁, x s = .ok a s₁ ∧ g a s₁ = .ok b s' := by
  simp only [bind, EStateM.bind] at h
  split at h
  · exact ⟨_, _, ‹_›, h⟩
  · cases h

/-- A continuation that keeps `f` leaves `f` of the final configuration as the
first step left it. -/
theorem final_bind {β α γ : Type} (f : ContainerConfig → β) (x : Loader α) {g : α → Loader γ}
    (hg : ∀ a, Keeps f (g a)) (cfg : ContainerConfig) :
    f (finalConfig ((x >>= g) cfg)) = f (finalConfig (x cfg)) := by
  cases hc : x cfg with
  | ok a s => rw [run_bind_ok hc]; exact hg a s
  | error e s =>
    have hrun : (x >>= g) cfg = .error e s := by simp only [bind, EStateM.bind, hc]
    rw [hrun]; rfl

theorem readField_run {α : Type} {node child : Yaml.Node} {key : String}
    {read : Yaml.Node → Except Fault α} {set : α → ContainerConfig → ContainerConfig} {v : α}
    (hget : node.get key = .ok child) (hdef : child.isDefined = true) (hread : read child = .ok v)
    (cfg : ContainerConfig) : readField node key read set cfg = .ok () (set v cfg) := by
  simp only [readField, yaml, lift, hget, Except.mapError, bind, EStateM.bind, hdef, if_true, hread]
  rfl

theorem config_of_loadFromFile {dec : Yaml.Decoders} {file : Except Exception Yaml.Node}
    {r : Loaded} (h : loadFromFile dec file = some r) :
    r.config = finalConfig ((loadBody dec file).run {}) := by
  unfold loadFromFile at h
  split at h
  · next heq => cases h; rw [heq]; rfl
  · next heq => cases h; rw [heq]; rfl
  · cases h

/-- A load without a report ran the whole `try` block. -/
theorem loadBody_of_loadFromFile {dec : Yaml.Decoders} {file : Except Exception Yaml.Node} {cfg : ContainerConfig}
    (h : loadFromFile dec file = some ⟨cfg, []⟩) : loadBody dec file {} = .ok () cfg := by
  unfold loadFromFile at h
  split at h
  · next heq => cases h; exact heq
  · cases h
  · cases h

/-- **A service name read before a failure survives it.**  For every document
whose `system` names its service, every result of `loadFromFile` carries that
name, whether the rest of the document loads or a later read throws and the
catch reports "Using defaults". -/
theorem loadFromFile_containerId (dec : Yaml.Decoders) {root system : Yaml.Node} {mark : Yaml.Mark}
    {name : String} (hsys : root.get "system" = .ok system)
    (hname : system.get "service_name" = .ok (.scalar mark name))
    {r : Loaded} (h : loadFromFile dec (.ok root) = some r) : r.config.containerId = name := by
  have hdef : system.isDefined = true := by
    cases system <;> simp_all [Yaml.Node.get, Yaml.Node.isDefined]
  have hsystem : (finalConfig (readSystem dec root {})).containerId = name := by
    have hget : yaml (root.get "system") ({} : ContainerConfig) = .ok system {} := by
      simp [yaml, lift, hsys, Except.mapError]
    simp only [readSystem]
    rw [run_bind_ok hget]
    simp only [hdef, if_true]
    have hread : asRead Yaml.decodeString (.scalar mark name) = .ok name := rfl
    rw [final_bind ContainerConfig.containerId, readField_run hname rfl hread]
    · rfl
    · intro _
      repeat' first
        | with_reducible exact keeps_readField _ _ _ fun _ _ => rfl
        | with_reducible apply keeps_bind
        | intro _
  rw [config_of_loadFromFile h, ← hsystem]
  exact final_bind _ (readSystem dec root) (fun _ => keeps_containerId_after_system dec root) {}

/-- A document naming the service `edge-1` whose one channel list has an entry
without `radio_id`, each node marked where it starts in the file

    system:
      service_name: edge-1
    channels:
      radio_channels:
        r1:
          model: sr
-/
def partialDocument : Yaml.Node := .map ⟨0, 0⟩ [
  (.scalar ⟨0, 0⟩ "system", .map ⟨1, 2⟩ [(.scalar ⟨1, 2⟩ "service_name", .scalar ⟨1, 16⟩ "edge-1")]),
  (.scalar ⟨2, 0⟩ "channels", .map ⟨3, 2⟩ [(.scalar ⟨3, 2⟩ "radio_channels",
    .map ⟨4, 4⟩ [(.scalar ⟨4, 4⟩ "r1", .map ⟨5, 6⟩ [(.scalar ⟨5, 6⟩ "model", .scalar ⟨5, 13⟩ "sr")])])])]

/-- Decoders that decode nothing. -/
def Yaml.Decoders.rejectAll : Yaml.Decoders := ⟨fun _ => none, fun _ => none, fun _ => none,
  fun _ => none, fun _ => none⟩

/-- With `partialDocument` the service name survives the failing radio. -/
theorem partial_document_keeps_service_name :
    let system : Yaml.Node := .map ⟨1, 2⟩ [(.scalar ⟨1, 2⟩ "service_name", .scalar ⟨1, 16⟩ "edge-1")]
    partialDocument.get "system" = .ok system ∧
      system.get "service_name" = .ok (.scalar ⟨1, 16⟩ "edge-1") ∧
      ∃ r, loadFromFile Yaml.Decoders.rejectAll (.ok partialDocument) = some r ∧
        r.config.containerId = "edge-1" := by
  intro system
  have hsys : partialDocument.get "system" = .ok system := rfl
  have hname : system.get "service_name" = .ok (.scalar ⟨1, 16⟩ "edge-1") := rfl
  exact ⟨hsys, hname, _, rfl, loadFromFile_containerId Yaml.Decoders.rejectAll hsys hname rfl⟩

/-- With `partialDocument`, reading `radio_id` throws after `service_name` was
assigned: the catch reports "Using defaults" and returns the configuration with
the service name `edge-1`, not the defaults. -/
theorem partial_config_on_failure (dec : Yaml.Decoders) :
    loadFromFile dec (.ok partialDocument) = some ⟨{ containerId := "edge-1" },
      ["[ConfigManager] Failed to parse config: invalid node; first invalid key: \"radio_id\". Using defaults."]⟩ :=
  rfl

/-! ## A failing radio entry keeps the radios before it -/

/-- The radios `parseRadio` reads from `nodes` up to the first entry it throws
on. -/
def parsedPrefix (dec : Yaml.Decoders) : List Yaml.Node → List RadioConfig
  | [] => []
  | node :: rest =>
    match parseRadio dec node with
    | .ok radio => radio :: parsedPrefix dec rest
    | .error _ => []

/-- **The radio loop keeps every radio read before a failing entry**: returning
or throwing, it ends with the radios of the entries before the first one
`parseRadio` throws on appended, and nothing else changed. -/
theorem pushRadios_final (dec : Yaml.Decoders) (nodes : List Yaml.Node) (cfg : ContainerConfig) :
    finalConfig (pushRadios dec nodes cfg) =
      { cfg with radios := cfg.radios ++ parsedPrefix dec nodes } := by
  induction nodes generalizing cfg with
  | nil => simp only [parsedPrefix, List.append_nil]; rfl
  | cons node rest ih =>
    cases h : parseRadio dec node with
    | error e =>
      have hrun : pushRadios dec (node :: rest) cfg = .error (.thrown e) cfg := by
        simp only [pushRadios, bind, EStateM.bind, yaml, lift, Except.mapError, h]
      simp only [hrun, parsedPrefix, h, List.append_nil]
      rfl
    | ok radio =>
      have hrun : pushRadios dec (node :: rest) cfg =
          pushRadios dec rest { cfg with radios := cfg.radios ++ [radio] } := by
        simp only [pushRadios, bind, EStateM.bind, yaml, lift, Except.mapError, h]
        rfl
      rw [hrun, ih, parsedPrefix, h]
      simp only [List.append_assoc, List.singleton_append]

/-- With a `channels.radio_channels` map, the `channels` block appends the
radios of its entries up to the first one that throws. -/
theorem readChannels_final (dec : Yaml.Decoders) {root channels radioChannels : Yaml.Node}
    (hc : root.get "channels" = .ok channels) (hcm : channels.isMap = true)
    (hr : channels.get "radio_channels" = .ok radioChannels) (hrm : radioChannels.isMap = true)
    (cfg : ContainerConfig) :
    finalConfig (readChannels dec root cfg) =
      { cfg with radios := cfg.radios ++ parsedPrefix dec radioChannels.values } := by
  have hdef : ∀ n : Yaml.Node, n.isMap = true → n.isDefined = true := by
    intro n hn; cases n <;> simp_all [Yaml.Node.isMap, Yaml.Node.isDefined]
  have hget : ∀ {x : Except Exception Yaml.Node} {n : Yaml.Node}, x = .ok n →
      yaml x cfg = .ok n cfg := by
    rintro _ _ rfl; rfl
  simp only [readChannels]
  rw [run_bind_ok (hget hc)]
  simp only [hdef _ hcm, hcm, Bool.and_self, if_true]
  rw [run_bind_ok (hget hr)]
  simp only [hdef _ hrm, hrm, Bool.and_self, if_true]
  exact pushRadios_final dec _ cfg

/-- The channel list of `partialDocument` fails on its first radio, which adds
no radio. -/
theorem partial_document_channels :
    let radioChannels : Yaml.Node :=
      .map ⟨4, 4⟩ [(.scalar ⟨4, 4⟩ "r1", .map ⟨5, 6⟩ [(.scalar ⟨5, 6⟩ "model", .scalar ⟨5, 13⟩ "sr")])]
    let channels : Yaml.Node := .map ⟨3, 2⟩ [(.scalar ⟨3, 2⟩ "radio_channels", radioChannels)]
    partialDocument.get "channels" = .ok channels ∧ channels.isMap = true ∧
      channels.get "radio_channels" = .ok radioChannels ∧ radioChannels.isMap = true ∧
      finalConfig (readChannels Yaml.Decoders.rejectAll partialDocument {}) =
        { ({} : ContainerConfig) with radios := [] ++ parsedPrefix Yaml.Decoders.rejectAll radioChannels.values } := by
  intro radioChannels channels
  have hc : partialDocument.get "channels" = .ok channels := rfl
  have hr : channels.get "radio_channels" = .ok radioChannels := rfl
  exact ⟨hc, rfl, hr, rfl, readChannels_final Yaml.Decoders.rejectAll hc rfl hr rfl {}⟩

/-! ## What no document sets -/

/-- No read of the `try` block assigns `deployment`. -/
theorem keeps_deployment_loadBody (dec : Yaml.Decoders) (file : Except Exception Yaml.Node) :
    Keeps ContainerConfig.deployment (loadBody dec file) := by
  simp only [loadBody, readSystem, readAuth, readTiming, readTelemetry, readChannels]
  repeat' first
    | with_reducible exact keeps_yaml _
    | with_reducible exact keeps_pure _
    | with_reducible exact keeps_readField _ _ _ fun _ _ => rfl
    | with_reducible exact keeps_pushRadios ContainerConfig.deployment _ (fun _ _ => rfl) _
    | with_reducible apply keeps_bind
    | with_reducible apply keeps_ite
    | intro _

/-- **No document sets the deployment**: the loader reads no key for it, so
every configuration `loadFromFile` returns, whether the document loaded or a
read threw, has the default deployment `"development"`. -/
theorem loadFromFile_deployment (dec : Yaml.Decoders) (file : Except Exception Yaml.Node) (r : Loaded)
    (h : loadFromFile dec file = some r) : r.config.deployment = "development" := by
  rw [config_of_loadFromFile h]
  exact keeps_deployment_loadBody dec file {}

/-- With `partialDocument`, the configuration returned after the failure keeps
the default deployment. -/
theorem partial_load_keeps_deployment :
    ∃ r, loadFromFile Yaml.Decoders.rejectAll (.ok partialDocument) = some r ∧
      r.config.deployment = "development" :=
  ⟨_, rfl, loadFromFile_deployment Yaml.Decoders.rejectAll (.ok partialDocument) _ rfl⟩

/-! ## What the loader reads -/

/-- The keys of the top level of a document that the loader looks up. -/
def sectionKeys : List String := ["system", "auth", "timing", "telemetry", "channels"]

theorem loadBody_ok (dec : Yaml.Decoders) (root : Yaml.Node) :
    loadBody dec (.ok root) = (do
      readSystem dec root
      readAuth root
      readTiming dec root
      readTelemetry dec root
      readChannels dec root) :=
  rfl

/-- **Only the five sections of a document are read**: two documents whose
`system`, `auth`, `timing`, `telemetry` and `channels` entries are the same
nodes, at the same places in the file, load the same, reports included,
whatever other keys either holds and wherever its top level starts.  (A report
names the line and column of the node it was thrown at, so sections that stand
elsewhere can change it.) -/
theorem loadFromFile_sections (dec : Yaml.Decoders) {root root' : Yaml.Node}
    (h : ∀ k ∈ sectionKeys, root.get k = root'.get k) :
    loadFromFile dec (.ok root) = loadFromFile dec (.ok root') := by
  simp only [sectionKeys, List.mem_cons, List.not_mem_nil, or_false, forall_eq_or_imp, forall_eq] at h
  obtain ⟨hs, ha, ht, hm, hc⟩ := h
  simp only [loadFromFile, loadBody_ok, readSystem, readAuth, readTiming, readTelemetry, readChannels,
    hs, ha, ht, hm, hc]

/-- A `version` key, which the loader does not know, changes nothing. -/
theorem unknown_key_ignored :
    let versioned : Yaml.Node := .map ⟨0, 0⟩ [(.scalar ⟨0, 0⟩ "version", .scalar ⟨0, 9⟩ "2")]
    (∀ k ∈ sectionKeys, versioned.get k = (Yaml.Node.map ⟨0, 0⟩ []).get k) ∧
      loadFromFile Yaml.Decoders.rejectAll (.ok versioned) =
        loadFromFile Yaml.Decoders.rejectAll (.ok (.map ⟨0, 0⟩ [])) := by
  intro versioned
  have h : ∀ k ∈ sectionKeys, versioned.get k = (Yaml.Node.map ⟨0, 0⟩ []).get k := by
    simp only [sectionKeys, List.mem_cons, List.not_mem_nil, or_false]
    rintro k (rfl | rfl | rfl | rfl | rfl) <;> rfl
  exact ⟨h, loadFromFile_sections Yaml.Decoders.rejectAll h⟩

/-! ## Which key wins -/

/-- **The top-level `telemetry` section has the last word on the idle
timeout.**  For every document that loads without a report and whose
`telemetry` map has a `client_idle_timeout` that `parseDuration` reads as `v`,
the idle timeout is `v`, whatever `timing.telemetry.heartbeat_timeout`, read
before it, says. -/
theorem loadFromFile_clientIdleTimeout (dec : Yaml.Decoders) {root telemetry : Yaml.Node} {text : String}
    {mark : Yaml.Mark} {v : Int} (ht : root.get "telemetry" = .ok telemetry) (hm : telemetry.isMap = true)
    (hc : telemetry.get "client_idle_timeout" = .ok (.scalar mark text)) (hv : parseDuration text = .ok v)
    {cfg : ContainerConfig} (h : loadFromFile dec (.ok root) = some ⟨cfg, []⟩) :
    cfg.telemetry.clientIdleTimeout = v := by
  have hbody := loadBody_of_loadFromFile h
  rw [loadBody_ok] at hbody
  obtain ⟨_, _, -, hbody⟩ := run_bind_eq_ok hbody
  obtain ⟨_, _, -, hbody⟩ := run_bind_eq_ok hbody
  obtain ⟨_, s₀, -, hbody⟩ := run_bind_eq_ok hbody
  obtain ⟨_, s, hs, hchannels⟩ := run_bind_eq_ok hbody
  have hkeep : Keeps (·.telemetry.clientIdleTimeout) (readChannels dec root) := by
    simp only [readChannels]
    repeat' first
      | with_reducible exact keeps_yaml _
      | with_reducible exact keeps_pure _
      | with_reducible exact keeps_pushRadios (·.telemetry.clientIdleTimeout) _ (fun _ _ => rfl) _
      | with_reducible apply keeps_bind
      | with_reducible apply keeps_ite
      | intro _
  have hdef : (telemetry.isDefined && telemetry.isMap) = true := by
    cases telemetry <;> simp_all [Yaml.Node.isMap, Yaml.Node.isDefined]
  have hfinal : cfg.telemetry.clientIdleTimeout = s.telemetry.clientIdleTimeout := by
    have := hkeep s
    rw [hchannels] at this
    exact this
  rw [hfinal]
  rw [readTelemetry, run_bind_ok (yaml_run ht s₀), if_pos hdef] at hs
  obtain ⟨_, s', -, hs⟩ := run_bind_eq_ok hs
  rw [readField_run hc rfl (show durationRead (.scalar mark text) = .ok v from hv) s'] at hs
  cases hs
  rfl

/-- A document that sets the idle timeout twice, `5s` under `timing`, then
`30s` under `telemetry`, each node marked where it starts in the file

    timing:
      telemetry:
        heartbeat_timeout: 5s
    telemetry:
      client_idle_timeout: 30s
-/
def twoTimeoutsDocument : Yaml.Node := .map ⟨0, 0⟩ [
  (.scalar ⟨0, 0⟩ "timing", .map ⟨1, 2⟩ [(.scalar ⟨1, 2⟩ "telemetry",
    .map ⟨2, 4⟩ [(.scalar ⟨2, 4⟩ "heartbeat_timeout", .scalar ⟨2, 23⟩ "5s")])]),
  (.scalar ⟨3, 0⟩ "telemetry", .map ⟨4, 2⟩ [(.scalar ⟨4, 2⟩ "client_idle_timeout", .scalar ⟨4, 23⟩ "30s")])]

/-- With `twoTimeoutsDocument` the idle timeout is `30 s`. -/
theorem telemetry_timeout_wins :
    let telemetry : Yaml.Node :=
      .map ⟨4, 2⟩ [(.scalar ⟨4, 2⟩ "client_idle_timeout", .scalar ⟨4, 23⟩ "30s")]
    twoTimeoutsDocument.get "telemetry" = .ok telemetry ∧ telemetry.isMap = true ∧
      telemetry.get "client_idle_timeout" = .ok (.scalar ⟨4, 23⟩ "30s") ∧
      parseDuration "30s" = .ok 30 ∧
      ∃ cfg, loadFromFile Yaml.Decoders.rejectAll (.ok twoTimeoutsDocument) = some ⟨cfg, []⟩ ∧
        cfg.telemetry.clientIdleTimeout = 30 := by
  intro telemetry
  have ht : twoTimeoutsDocument.get "telemetry" = .ok telemetry := rfl
  have hc : telemetry.get "client_idle_timeout" = .ok (.scalar ⟨4, 23⟩ "30s") := rfl
  have hv : parseDuration "30s" = .ok 30 := by decide
  have h : loadFromFile Yaml.Decoders.rejectAll (.ok twoTimeoutsDocument) =
      some ⟨{ telemetry := { clientIdleTimeout := 30 } }, []⟩ := by decide
  exact ⟨ht, rfl, hc, hv, _, h, loadFromFile_clientIdleTimeout Yaml.Decoders.rejectAll ht rfl hc hv h⟩

end RadioControl
