import RadioControl.ConfigFile
import RadioControl.ConfigMarks
import Mathlib.Logic.Encodable.Basic

/-! # Every configuration is a document that loads as itself

`loadFromFile` reads every member of `ContainerConfig` but `deployment` from
one key of the document.  Writing a configuration under those keys, each value
through yaml-cpp's `convert<T>::encode` (`Yaml.Encoders`), the retention as
whole hours `Nh` and the idle timeout as whole seconds `Ns`, gives a document
that the loader reads back member for member, with nothing written to
`std::cerr` (`loadFromFile_of_writes`).  The only `deployment` it can return is
`"development"`.

Two things are needed, and both come from the code.  The first is a codec:
`convert<T>::decode` has to read back what `encode` writes for every value of
the C++ type (`Yaml.Codec`), so each value has to be one (`ContainerConfig.Writable`).
The second is that each duration is an `int` count of its unit, since
`parseDuration` casts the number `std::stod` reads with `static_cast<int>`
(`TelemetryConfig.Writable`).  Its sign is never checked, so a negative
retention or idle timeout loads as itself too.

The hypothesis on the document is only that, wherever its nodes stand, its five
sections are those of the configuration (`Writes` of its erasure).  Its other
keys, and the order of its sections, are never read: `ContainerConfig.toYaml` is
one such document.  Codecs exist: one of them writes each value as the digits
of its code (`Yaml.Codec.enumerated`).
-/
namespace RadioControl

/-! ## Decimal digits -/

theorem digitChar_spec : ∀ d, d < 10 →
    (Nat.digitChar d).isDigit = true ∧ digitValue (Nat.digitChar d) = d := by
  decide

theorem digitsValue_concat (b : Nat) (xs : List Char) (c : Char) :
    digitsValue b (xs ++ [c]) = digitsValue b xs * b + digitValue c := by
  simp [digitsValue, List.foldl_append]

/-- `Nat.toDigits` prepends the digits of `n`, least significant first, to what
it has written so far. -/
theorem toDigitsCore_digits : ∀ fuel n ds, n < fuel →
    ∃ xs, Nat.toDigitsCore 10 fuel n ds = xs ++ ds ∧ xs ≠ [] ∧ (∀ c ∈ xs, c.isDigit = true) ∧
      digitsValue 10 xs = n
  | 0, _, _, h => absurd h (Nat.not_lt_zero _)
  | fuel + 1, n, ds, h => by
    obtain ⟨hdig, hval⟩ := digitChar_spec (n % 10) (Nat.mod_lt _ (by decide))
    have hstep : Nat.toDigitsCore 10 (fuel + 1) n ds = if n / 10 = 0 then Nat.digitChar (n % 10) :: ds
        else Nat.toDigitsCore 10 fuel (n / 10) (Nat.digitChar (n % 10) :: ds) := rfl
    by_cases hn : n / 10 = 0
    · refine ⟨[Nat.digitChar (n % 10)], by simp [hstep, hn], by simp, by simpa using hdig, ?_⟩
      simp only [digitsValue, List.foldl_cons, List.foldl_nil, hval]
      omega
    · obtain ⟨xs, hxs, -, hd, hv⟩ :=
        toDigitsCore_digits fuel (n / 10) (Nat.digitChar (n % 10) :: ds) (by omega)
      refine ⟨xs ++ [Nat.digitChar (n % 10)], by simp [hstep, hn, hxs], by simp, ?_, ?_⟩
      · simpa [or_imp, forall_and] using And.intro hd hdig
      · rw [digitsValue_concat, hv, hval]
        omega

/-- The decimal text of `n` is a nonempty string of digits that writes `n`. -/
theorem toDigits_digits (n : Nat) : Nat.toDigits 10 n ≠ [] ∧
    (∀ c ∈ Nat.toDigits 10 n, c.isDigit = true) ∧ digitsValue 10 (Nat.toDigits 10 n) = n := by
  obtain ⟨xs, h, hne, hd, hv⟩ := toDigitsCore_digits (n + 1) n [] (Nat.lt_succ_self n)
  have htext : Nat.toDigits 10 n = xs := (List.append_nil xs).symm ▸ h
  exact htext ▸ ⟨hne, hd, hv⟩

/-- The decimal literal of `n`. -/
def DecimalLiteral.ofNat (n : Nat) : DecimalLiteral where
  intPart := Nat.toDigits 10 n
  fracPart := none
  digits := by simpa using (toDigits_digits n).2.1
  has_digit := by simpa using (toDigits_digits n).1

theorem DecimalLiteral.num_ofNat (n : Nat) : (DecimalLiteral.ofNat n).num = n := by
  simp [DecimalLiteral.num, DecimalLiteral.ofNat, DecimalLiteral.frac, (toDigits_digits n).2.2]

/-- A whole count of a unit as a duration: the count, with a `-` when it is
negative, then the unit letter. -/
def durationText (n : Int) (u : Char) : String := n.repr.push u

/-- **A count that is an `int` is read back exactly**, in seconds, whatever its
sign. -/
theorem parseDuration_durationText {n : Int} (hlo : -2 ^ 31 ≤ n) (hhi : n < 2 ^ 31) {u : Char}
    (hu : u ∈ unitLetters) : parseDuration (durationText n u) = .ok (unitFactor u * n) := by
  have hend : CannotExtend ([] : List Char) := fun _ => nofun
  cases n with
  | ofNat k =>
    rw [Int.ofNat_eq_coe] at hhi
    have h := parseDuration_integer (.ofNat k) rfl (by rw [DecimalLiteral.num_ofNat]; omega) hend hu
    rwa [DecimalLiteral.num_ofNat, if_pos (by omega), List.append_nil] at h
  | negSucc k =>
    rw [Int.negSucc_eq] at hlo
    have h := parseDuration_neg_integer (.ofNat (k + 1)) rfl (by rw [DecimalLiteral.num_ofNat]; omega)
      hend hu
    rwa [DecimalLiteral.num_ofNat, if_pos (by omega), List.append_nil] at h

/-! ## Codecs -/

namespace Yaml

/-- yaml-cpp's `convert<T>::encode` for the types the loader decodes with
`Decoders`: the text of the scalar a value is written as. -/
structure Encoders where
  bool : Bool → String
  uint16 : UInt16 → String
  size : Nat → String
  int : Int → String
  double : Double → String

/-- Encoders, and decoders that read back every value of its C++ type the
encoders write: a `bool`, a `uint16_t`, a `size_t` below `2^64`, an `int`, and
a `double` in the form its bits give it. -/
structure Codec where
  enc : Encoders
  dec : Decoders
  bool_decode : ∀ v, dec.bool (enc.bool v) = some v
  uint16_decode : ∀ v, dec.uint16 (enc.uint16 v) = some v
  size_decode : ∀ v, v < 2 ^ 64 → dec.size (enc.size v) = some v
  int_decode : ∀ v, -2 ^ 31 ≤ v → v < 2 ^ 31 → dec.int (enc.int v) = some v
  double_decode : ∀ v, v.Canonical → dec.double (enc.double v) = some v

end Yaml

/-! ## Writing a configuration -/

section Write
variable (enc : Yaml.Encoders)

/-- A channel as an entry of `channels`. -/
def ChannelEntry.toYaml (c : ChannelEntry) : Yaml.Node :=
  .obj [("index", .str (enc.int c.index)), ("frequency_mhz", .str (enc.double c.frequencyMHz)),
    ("description", .str c.description)]

/-- A radio as a value of `radio_channels`. -/
def RadioConfig.toYaml (r : RadioConfig) : Yaml.Node :=
  .obj [("radio_id", .str r.id), ("model", .str r.model),
    ("channels", .seq (r.channels.map (ChannelEntry.toYaml enc)))]

namespace ContainerConfig
variable (cfg : ContainerConfig)

def systemYaml : Yaml.Node :=
  .obj [("service_name", .str cfg.containerId), ("listen_address", .str cfg.network.listenAddress),
    ("port", .str (enc.uint16 cfg.network.port)), ("auth_required", .str (enc.bool cfg.auth.required))]

def authYaml : Yaml.Node :=
  .obj [("jwt_secret", .str cfg.auth.jwtSecret), ("issuer", .str cfg.auth.issuer),
    ("audience", .str cfg.auth.audience)]

def eventsYaml : Yaml.Node :=
  .obj [("buffer_size_per_radio", .str (enc.size cfg.telemetry.eventBufferSize)),
    ("buffer_retention", .str (durationText cfg.telemetry.eventRetention 'h'))]

def timingYaml : Yaml.Node := .obj [("events", cfg.eventsYaml enc)]

def telemetryYaml : Yaml.Node :=
  .obj [("max_clients", .str (enc.size cfg.telemetry.maxSseClients)),
    ("client_idle_timeout", .str (durationText cfg.telemetry.clientIdleTimeout 's'))]

/-- The radios under `channels.radio_channels`, each under its id. -/
def channelsYaml : Yaml.Node :=
  .obj [("radio_channels", .obj (cfg.radios.map fun r => (r.id, r.toYaml enc)))]

/-- The configuration as a document. -/
def toYaml : Yaml.Node :=
  .obj [("system", cfg.systemYaml enc), ("auth", cfg.authYaml), ("timing", cfg.timingYaml enc),
    ("telemetry", cfg.telemetryYaml enc), ("channels", cfg.channelsYaml enc)]

end ContainerConfig

/-- A document whose five sections are those `cfg` is written as, whatever else
it holds. -/
structure Writes (cfg : ContainerConfig) (root : Yaml.Node) : Prop where
  system : root.get "system" = .ok (cfg.systemYaml enc)
  auth : root.get "auth" = .ok cfg.authYaml
  timing : root.get "timing" = .ok (cfg.timingYaml enc)
  telemetry : root.get "telemetry" = .ok (cfg.telemetryYaml enc)
  channels : root.get "channels" = .ok (cfg.channelsYaml enc)

theorem toYaml_writes (cfg : ContainerConfig) : Writes enc cfg (cfg.toYaml enc) :=
  ⟨rfl, rfl, rfl, rfl, rfl⟩

end Write

/-- Each duration is a count of its unit that is an `int`, so that
`parseDuration` reads back exactly what is written, and each count of events
and of clients is a `size_t`. -/
def TelemetryConfig.Writable (t : TelemetryConfig) : Prop :=
  -2 ^ 31 ≤ t.eventRetention ∧ t.eventRetention < 2 ^ 31 ∧ -2 ^ 31 ≤ t.clientIdleTimeout ∧
    t.clientIdleTimeout < 2 ^ 31 ∧ t.eventBufferSize < 2 ^ 64 ∧ t.maxSseClients < 2 ^ 64

instance TelemetryConfig.decidableWritable (t : TelemetryConfig) : Decidable t.Writable :=
  inferInstanceAs (Decidable (_ ∧ _))

/-- A channel whose index is an `int` and whose frequency a `double`. -/
def ChannelEntry.Writable (ch : ChannelEntry) : Prop :=
  -2 ^ 31 ≤ ch.index ∧ ch.index < 2 ^ 31 ∧ ch.frequencyMHz.Canonical

instance ChannelEntry.decidableWritable (ch : ChannelEntry) : Decidable ch.Writable :=
  inferInstanceAs (Decidable (_ ∧ _))

/-- **A configuration whose every value is one of its C++ type**, each
duration an `int` count of its unit. -/
def ContainerConfig.Writable (cfg : ContainerConfig) : Prop :=
  cfg.telemetry.Writable ∧ ∀ r ∈ cfg.radios, ∀ ch ∈ r.channels, ch.Writable

instance ContainerConfig.decidableWritable (cfg : ContainerConfig) : Decidable cfg.Writable :=
  inferInstanceAs (Decidable (_ ∧ _))

/-! ## Running the `try` block on a written document -/

theorem run_pure_bind {α γ : Type} (a : α) (g : α → Loader γ) (cfg : ContainerConfig) :
    ((pure a : Loader α) >>= g) cfg = g a cfg := rfl

theorem run_modify_bind {γ : Type} (f : ContainerConfig → ContainerConfig) (g : Unit → Loader γ)
    (cfg : ContainerConfig) : ((modify f : Loader Unit) >>= g) cfg = g () (f cfg) := rfl

/-- A scalar field whose read gives `v` assigns `v`. -/
theorem readField_scalar {α : Type} {node : Yaml.Node} {key text : String}
    {read : Yaml.Node → Except Fault α} {v : α} {set : α → ContainerConfig → ContainerConfig}
    (hread : read (.str text) = .ok v) (hget : node.get key = .ok (.str text))
    (cfg : ContainerConfig) : readField node key read set cfg = .ok () (set v cfg) :=
  readField_run hget rfl hread cfg

theorem as_str {α : Type} {decode : String → Option α} {text : String} {v : α}
    (h : decode text = some v) : (Yaml.Node.str text).as (Yaml.decodeScalar decode) = .ok v := by
  simp only [Yaml.Node.str, Yaml.Node.as, Yaml.decodeScalar, h]

theorem asRead_scalar {α : Type} {decode : String → Option α} {text : String} {v : α}
    (h : decode text = some v) : asRead (Yaml.decodeScalar decode) (.str text) = .ok v := by
  rw [asRead, as_str h]
  rfl

theorem asRead_string (text : String) : asRead Yaml.decodeString (.str text) = .ok text := rfl

theorem durationRead_durationText {n : Int} (hlo : -2 ^ 31 ≤ n) (hhi : n < 2 ^ 31) {u : Char}
    (hu : u ∈ unitLetters) : durationRead (.str (durationText n u)) = .ok (unitFactor u * n) :=
  parseDuration_durationText hlo hhi hu

section Blocks
variable (codec : Yaml.Codec) {cfg : ContainerConfig} {root : Yaml.Node}
  (hroot : Writes codec.enc cfg root) (c : ContainerConfig)
include hroot

theorem readSystem_writes :
    readSystem codec.dec root c = .ok () { c with
      containerId := cfg.containerId, network := cfg.network, auth.required := cfg.auth.required } := by
  have hdef : (cfg.systemYaml codec.enc).isDefined = true := rfl
  rw [readSystem, run_bind_ok (yaml_run hroot.system c), if_pos hdef,
    run_bind_ok (readField_scalar (asRead_string cfg.containerId) ?_ c),
    run_bind_ok (readField_scalar (asRead_string cfg.network.listenAddress) ?_ _),
    run_bind_ok (readField_scalar (asRead_scalar (codec.uint16_decode cfg.network.port)) ?_ _),
    readField_scalar (asRead_scalar (codec.bool_decode cfg.auth.required)) ?_ _]
  all_goals rfl

omit hroot in
theorem readAuth_writes (hauth : root.get "auth" = .ok cfg.authYaml) :
    readAuth root c = .ok () { c with auth := { cfg.auth with required := c.auth.required } } := by
  rw [readAuth, run_bind_ok (yaml_run hauth c)]
  rfl

theorem readTiming_writes (h : cfg.telemetry.Writable) :
    readTiming codec.dec root c = .ok () { c with
      telemetry := { c.telemetry with
        eventBufferSize := cfg.telemetry.eventBufferSize, eventRetention := cfg.telemetry.eventRetention } } := by
  obtain ⟨hlo, hhi, -, -, hsize, -⟩ := h
  have hdef : ((cfg.timingYaml codec.enc).isDefined && (cfg.timingYaml codec.enc).isMap) = true := rfl
  have hnone : (cfg.timingYaml codec.enc).get "telemetry" = .ok (.zombie "telemetry") := rfl
  have hevents : (cfg.timingYaml codec.enc).get "events" = .ok (cfg.eventsYaml codec.enc) := rfl
  have hmap : ((cfg.eventsYaml codec.enc).isDefined && (cfg.eventsYaml codec.enc).isMap) = true := rfl
  simp only [readTiming]
  rw [run_bind_ok (yaml_run hroot.timing c), if_pos hdef, run_bind_ok (yaml_run hnone c), if_neg nofun,
    run_pure_bind, run_bind_ok (yaml_run hevents c), if_pos hmap,
    run_bind_ok (readField_scalar
      (asRead_scalar (codec.size_decode cfg.telemetry.eventBufferSize hsize)) ?_ c),
    readField_scalar (durationRead_durationText hlo hhi (show 'h' ∈ unitLetters by decide)) ?_ _]
  · rw [show (unitFactor 'h' * cfg.telemetry.eventRetention).tdiv 3600 = cfg.telemetry.eventRetention from
      Int.mul_tdiv_cancel_left _ (by decide)]
  all_goals rfl

theorem readTelemetry_writes (h : cfg.telemetry.Writable) :
    readTelemetry codec.dec root c = .ok () { c with
      telemetry := { c.telemetry with
        maxSseClients := cfg.telemetry.maxSseClients, clientIdleTimeout := cfg.telemetry.clientIdleTimeout } } := by
  obtain ⟨-, -, hlo, hhi, -, hsize⟩ := h
  have hdef : ((cfg.telemetryYaml codec.enc).isDefined && (cfg.telemetryYaml codec.enc).isMap) = true := rfl
  rw [readTelemetry, run_bind_ok (yaml_run hroot.telemetry c), if_pos hdef,
    run_bind_ok (readField_scalar
      (asRead_scalar (codec.size_decode cfg.telemetry.maxSseClients hsize)) ?_ c),
    readField_scalar (durationRead_durationText hlo hhi (show 's' ∈ unitLetters by decide)) ?_ _]
  · rw [show unitFactor 's' * cfg.telemetry.clientIdleTimeout = cfg.telemetry.clientIdleTimeout from
      Int.one_mul _]
  all_goals rfl

end Blocks

section Radios
variable (codec : Yaml.Codec)

theorem parseChannel_toYaml {ch : ChannelEntry} (h : ch.Writable) :
    parseChannel codec.dec (ch.toYaml codec.enc) = .ok ch := by
  have hread : parseChannel codec.dec (ch.toYaml codec.enc) = (do
      let index ← (Yaml.Node.str (codec.enc.int ch.index)).as (Yaml.decodeScalar codec.dec.int)
      let frequencyMHz ←
        (Yaml.Node.str (codec.enc.double ch.frequencyMHz)).as (Yaml.decodeScalar codec.dec.double)
      pure { index, frequencyMHz, description := ch.description }) := rfl
  rw [hread, as_str (codec.int_decode _ h.1 h.2.1), as_str (codec.double_decode _ h.2.2)]
  rfl

theorem parseRadio_toYaml {r : RadioConfig} (h : ∀ ch ∈ r.channels, ch.Writable) :
    parseRadio codec.dec (r.toYaml codec.enc) = .ok r := by
  have hread : parseRadio codec.dec (r.toYaml codec.enc) =
      ((r.channels.map (ChannelEntry.toYaml codec.enc)).mapM (parseChannel codec.dec)).bind fun channels =>
        .ok { id := r.id, model := r.model, channels } := rfl
  have hchannels :
      (r.channels.map (ChannelEntry.toYaml codec.enc)).mapM (parseChannel codec.dec) = .ok r.channels :=
    (mapM_eq_ok _ _).2
      (List.forall₂_map_left_iff.2 (List.forall₂_same.2 fun ch hch => parseChannel_toYaml codec (h ch hch)))
  rw [hread, hchannels]
  rfl

theorem pushRadios_toYaml {rs : List RadioConfig} (h : ∀ r ∈ rs, ∀ ch ∈ r.channels, ch.Writable)
    (c : ContainerConfig) :
    pushRadios codec.dec (rs.map (RadioConfig.toYaml codec.enc)) c =
      .ok () { c with radios := c.radios ++ rs } := by
  induction rs generalizing c with
  | nil => simp only [List.map_nil, List.append_nil]; rfl
  | cons r rs ih =>
    have hread : yaml (parseRadio codec.dec (r.toYaml codec.enc)) c = .ok r c :=
      yaml_run (parseRadio_toYaml codec (h r (List.mem_cons_self _ _))) c
    rw [List.map_cons, pushRadios, run_bind_ok hread, run_modify_bind,
      ih (fun r hr => h r (List.mem_cons_of_mem _ hr))]
    simp only [List.append_assoc, List.singleton_append]

theorem readChannels_writes {cfg : ContainerConfig} {root : Yaml.Node}
    (hchannels : root.get "channels" = .ok (cfg.channelsYaml codec.enc))
    (h : ∀ r ∈ cfg.radios, ∀ ch ∈ r.channels, ch.Writable) (c : ContainerConfig) :
    readChannels codec.dec root c = .ok () { c with radios := c.radios ++ cfg.radios } := by
  have hdef : ((cfg.channelsYaml codec.enc).isDefined && (cfg.channelsYaml codec.enc).isMap) = true := rfl
  have hradios : (cfg.channelsYaml codec.enc).get "radio_channels" =
      .ok (.obj (cfg.radios.map fun r => (r.id, r.toYaml codec.enc))) := rfl
  have hvalues : (Yaml.Node.obj (cfg.radios.map fun r => (r.id, r.toYaml codec.enc))).values =
      cfg.radios.map (RadioConfig.toYaml codec.enc) := by
    simp only [Yaml.Node.obj, Yaml.Node.values, List.map_map]; rfl
  rw [readChannels, run_bind_ok (yaml_run hchannels c), if_pos hdef, run_bind_ok (yaml_run hradios c),
    if_pos (show ((Yaml.Node.obj _).isDefined && (Yaml.Node.obj _).isMap) = true from rfl), hvalues,
    pushRadios_toYaml codec h]

end Radios

/-! ## The round trip -/

/-- **Every configuration can be written as a file.**  For every codec, every
configuration whose values are values of their C++ types, its durations `int`
counts of their units, negative ones included, and every document whose
sections are, wherever their nodes stand, those the configuration is written
as, `loadFromFile` returns the configuration, with the default deployment, and
reports nothing. -/
theorem loadFromFile_of_writes (codec : Yaml.Codec) {cfg : ContainerConfig} {root : Yaml.Node}
    (hroot : Writes codec.enc cfg root.erase) (h : cfg.Writable) :
    loadFromFile codec.dec (.ok root) = some ⟨{ cfg with deployment := "development" }, []⟩ := by
  refine loadFromFile_of_erase codec.dec ?_
  have hbody : (loadBody codec.dec (.ok root.erase)).run {} = .ok () { cfg with deployment := "development" } := by
    show loadBody codec.dec (.ok root.erase) {} = _
    rw [loadBody, run_bind_ok (yaml_run rfl _), run_bind_ok (readSystem_writes codec hroot _),
      run_bind_ok (readAuth_writes _ hroot.auth), run_bind_ok (readTiming_writes codec hroot _ h.1),
      run_bind_ok (readTelemetry_writes codec hroot _ h.1), readChannels_writes codec hroot.channels h.2]
    rfl
  rw [loadFromFile, hbody]

/-! ## A codec -/

section Enumerated
variable {α : Type} [Encodable α]

/-- `v` written as the decimal digits of its code. -/
def encodeDigits (v : α) : String := ⟨Nat.toDigits 10 (Encodable.encode v)⟩

/-- The value whose code the digits of a text write. -/
def decodeDigits (text : String) : Option α := Encodable.decode (digitsValue 10 text.toList)

theorem decodeDigits_encodeDigits (v : α) : decodeDigits (encodeDigits v) = some v := by
  show Encodable.decode (digitsValue 10 (Nat.toDigits 10 (Encodable.encode v))) = some v
  rw [(toDigits_digits _).2.2, Encodable.encodek]

end Enumerated

/-- A `double` as a finite number, an infinity or a NaN. -/
def Double.equivSum : Double ≃ (Bool × Nat × Int) ⊕ (Bool ⊕ Unit) where
  toFun
    | .finite neg m e => .inl (neg, m, e)
    | .inf neg => .inr (.inl neg)
    | .nan => .inr (.inr ())
  invFun
    | .inl (neg, m, e) => .finite neg m e
    | .inr (.inl neg) => .inf neg
    | .inr (.inr ()) => .nan
  left_inv x := by cases x <;> rfl
  right_inv x := by rcases x with ⟨_, _, _⟩ | _ | ⟨⟩ <;> rfl

instance Double.encodable : Encodable Double := Encodable.ofEquiv _ Double.equivSum

instance UInt16.encodableBits : Encodable UInt16 :=
  Encodable.ofEquiv (Fin (2 ^ 16)) ⟨fun x => x.toBitVec.toFin, fun f => ⟨⟨f⟩⟩, fun _ => rfl, fun _ => rfl⟩

/-- Every value written as the digits of its code. -/
def Yaml.Codec.enumerated : Yaml.Codec where
  enc := ⟨encodeDigits, encodeDigits, encodeDigits, encodeDigits, encodeDigits⟩
  dec := ⟨decodeDigits, decodeDigits, decodeDigits, decodeDigits, decodeDigits⟩
  bool_decode := decodeDigits_encodeDigits
  uint16_decode := decodeDigits_encodeDigits
  size_decode v _ := decodeDigits_encodeDigits v
  int_decode v _ _ := decodeDigits_encodeDigits v
  double_decode v _ := decodeDigits_encodeDigits v

/-- The default configuration, written with `Codec.enumerated`, loads as
itself. -/
theorem default_config_loads_back :
    Writes Yaml.Codec.enumerated.enc {} (({} : ContainerConfig).toYaml Yaml.Codec.enumerated.enc).erase ∧
      ({} : ContainerConfig).Writable ∧
      loadFromFile Yaml.Codec.enumerated.dec (.ok (({} : ContainerConfig).toYaml Yaml.Codec.enumerated.enc)) =
        some ⟨{ ({} : ContainerConfig) with deployment := "development" }, []⟩ :=
  ⟨⟨rfl, rfl, rfl, rfl, rfl⟩, by decide,
    loadFromFile_of_writes Yaml.Codec.enumerated ⟨rfl, rfl, rfl, rfl, rfl⟩ (by decide)⟩

end RadioControl
