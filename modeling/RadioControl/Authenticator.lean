import Mathlib.Tactic.SplitIfs

/-! # The authenticator

`auth::Authenticator` (`src/auth/authenticator.cpp`): built from the security
configuration, it decides whether a request may read telemetry or control a
radio.

The bearer tokens are checked by an external library,
`dts::common::security::BearerValidator`, which is not part of this repository:
its `validate` and its two scope tests are parameters of the model
(`TokenLibrary`).

With no `token_secret` the constructor leaves `validator_` empty and relies on
two allow flags.  `authorize` grants anonymous access when the flag of the
requested level is set; when it is not, it goes on to the header check and
then to `validator_->validate`, which dereferences the empty `std::optional`.
The model makes that undefined behaviour visible: `authorize` returns `none`
exactly there (`authorize_eq_none_iff`).
-/
namespace RadioControl

/-- `dts::common::security::Scope`. -/
inductive Scope
  | viewer
  | operator
  | admin
  deriving DecidableEq, Repr

/-- What `BearerValidator::validate` returns, as `authorize` reads it. -/
structure TokenInfo where
  valid : Bool
  subject : String
  scope : Scope
  deriving DecidableEq, Repr

/-- A `BearerValidator`, constructed from the configured secret. -/
structure BearerValidator where
  secret : String
  deriving DecidableEq, Repr

/-- The external token library: `validator.validate(header)` and the static
tests `hasViewerOrHigher` and `hasOperatorOrHigher`. -/
structure TokenLibrary where
  validate : BearerValidator → String → TokenInfo
  hasViewerOrHigher : TokenInfo → Bool
  hasOperatorOrHigher : TokenInfo → Bool

/-- `auth::AccessLevel`. -/
inductive AccessLevel
  | telemetry
  | control
  deriving DecidableEq, Repr

/-- `permitted` in `authorize`: viewer-or-higher for telemetry,
operator-or-higher for control. -/
def TokenLibrary.permits (lib : TokenLibrary) : AccessLevel → TokenInfo → Bool
  | .telemetry, info => lib.hasViewerOrHigher info
  | .control, info => lib.hasOperatorOrHigher info

/-- `config::SecurityConfig`. -/
structure SecurityConfig where
  tokenSecret : String
  allowedRoles : List String
  deriving DecidableEq, Repr

/-- `dts::common::rest::HttpRequest`, with the one member `authorize` reads. -/
structure HttpRequest where
  headers : List (String × String)
  deriving DecidableEq, Repr

/-- `auth::AuthResult`: not allowed, empty subject and message, scope `Viewer`. -/
structure AuthResult where
  allowed : Bool := false
  subject : String := ""
  message : String := ""
  scope : Scope := .viewer
  deriving DecidableEq, Repr

/-- The role `authorize` requires of the configuration for a level. -/
def AccessLevel.requiredRole : AccessLevel → String
  | .telemetry => "viewer"
  | .control => "controller"

/-- `auth::Authenticator`'s members. -/
structure Authenticator where
  validator_ : Option BearerValidator
  allowUnauthenticatedViewer_ : Bool
  allowUnauthenticatedControl_ : Bool
  allowedRoles_ : List String
  deriving DecidableEq, Repr

namespace Authenticator
variable (a : Authenticator)

def isRoleAllowed (role : String) : Bool :=
  if a.allowedRoles_ = [] then true else decide (role ∈ a.allowedRoles_)

/-- `header_value(request, key)`: the header's value, or empty when absent. -/
def headerValue (request : HttpRequest) (key : String) : String :=
  (request.headers.lookup key).getD ""

/-- The constructor: a validator when a secret is configured, both allow flags
otherwise; then the flags are recomputed from the role list when it is not
empty ("if roles not configured, default to allowing both"). -/
def new (config : SecurityConfig) : Authenticator :=
  let fresh : Authenticator :=
    { validator_ := none, allowUnauthenticatedViewer_ := false,
      allowUnauthenticatedControl_ := false, allowedRoles_ := config.allowedRoles }
  let keyed : Authenticator :=
    if config.tokenSecret ≠ "" then { fresh with validator_ := some ⟨config.tokenSecret⟩ }
    else { fresh with allowUnauthenticatedViewer_ := true, allowUnauthenticatedControl_ := true }
  if keyed.allowedRoles_ = [] then { keyed with allowUnauthenticatedViewer_ := true }
  else
    { keyed with allowUnauthenticatedViewer_ := keyed.isRoleAllowed "viewer",
                 allowUnauthenticatedControl_ := keyed.isRoleAllowed "controller" }

/-- The first block of `authorize`: with no validator, the anonymous grant of
the allow list of the requested level, if its flag is set. -/
def anonymousGrant (level : AccessLevel) : Option AuthResult :=
  if a.validator_ = none then
    if level = .telemetry ∧ a.allowUnauthenticatedViewer_ then
      some { allowed := true, subject := "anonymous" }
    else if level = .control ∧ a.allowUnauthenticatedControl_ then
      some { allowed := true, subject := "anonymous" }
    else none
  else none

/-- The rest of `authorize`: the header, the token, its scope, the role list.
`none` when `validator_->validate` is reached with `validator_` empty. -/
def bearerCheck (lib : TokenLibrary) (request : HttpRequest) (level : AccessLevel) :
    Option AuthResult :=
  let authHeader := headerValue request "authorization"
  if authHeader = "" then some { allowed := false, message := "Missing Authorization header" }
  else
    match a.validator_ with
    | none => none
    | some validator =>
      let info := lib.validate validator authHeader
      if !info.valid then some { allowed := false, message := "Invalid bearer token" }
      else
        if !lib.permits level info then some { allowed := false, message := "Insufficient scope" }
        else if a.allowedRoles_ ≠ [] ∧ !a.isRoleAllowed level.requiredRole then
          some { allowed := false, message := "Role not permitted by configuration" }
        else some { allowed := true, subject := info.subject, scope := info.scope }

/-- `authorize(request, level)`; `none` is undefined behaviour. -/
def authorize (lib : TokenLibrary) (request : HttpRequest) (level : AccessLevel) :
    Option AuthResult :=
  match a.anonymousGrant level with
  | some result => some result
  | none => a.bearerCheck lib request level

/-- Whether `authorize` returns a result with `allowed` set. -/
def allows (lib : TokenLibrary) (request : HttpRequest) (level : AccessLevel) : Bool :=
  (a.authorize lib request level).any (·.allowed)

/-! ## What the constructor sets -/

variable (config : SecurityConfig) (lib : TokenLibrary) (request : HttpRequest)
  (level : AccessLevel)

@[simp] theorem new_allowedRoles : (new config).allowedRoles_ = config.allowedRoles := by
  unfold new; dsimp only; split <;> split <;> rfl

theorem new_validator :
    (new config).validator_ = if config.tokenSecret = "" then none else some ⟨config.tokenSecret⟩ := by
  unfold new; dsimp only
  by_cases h : config.tokenSecret = "" <;> by_cases hr : config.allowedRoles = [] <;> simp [h, hr]

/-- With no secret, the allow flag of a level is set exactly when the role list
is empty or names the level's role. -/
theorem new_anonymousGrant_of_no_secret (hs : config.tokenSecret = "") :
    (new config).anonymousGrant level =
      if config.allowedRoles = [] ∨ level.requiredRole ∈ config.allowedRoles
      then some { allowed := true, subject := "anonymous" } else none := by
  cases level <;> by_cases hr : config.allowedRoles = [] <;>
    simp [new, anonymousGrant, isRoleAllowed, hs, hr, AccessLevel.requiredRole]

theorem new_anonymousGrant_of_secret (hs : config.tokenSecret ≠ "") :
    (new config).anonymousGrant level = none := by
  simp [anonymousGrant, new_validator, hs]

theorem bearerCheck_of_no_validator (h : a.validator_ = none) :
    a.bearerCheck lib request level =
      if headerValue request "authorization" = ""
      then some { allowed := false, message := "Missing Authorization header" } else none := by
  simp only [bearerCheck, h]

theorem bearerCheck_ne_none (h : a.validator_ ≠ none) :
    a.bearerCheck lib request level ≠ none := by
  obtain ⟨v, hv⟩ := Option.ne_none_iff_exists'.1 h
  unfold bearerCheck; simp only [hv]; split_ifs <;> simp

/-- **Exactly where `authorize` dereferences the empty validator**: no secret,
a role list that does not name the level's role, and a non-empty
`authorization` header. -/
theorem authorize_eq_none_iff :
    (new config).authorize lib request level = none ↔
      config.tokenSecret = "" ∧ config.allowedRoles ≠ [] ∧
        level.requiredRole ∉ config.allowedRoles ∧ headerValue request "authorization" ≠ "" := by
  by_cases hs : config.tokenSecret = ""
  · have hv : (new config).validator_ = none := by simp [new_validator, hs]
    rw [authorize, new_anonymousGrant_of_no_secret _ _ hs, bearerCheck_of_no_validator _ _ _ _ hv]
    by_cases hr : config.allowedRoles = [] ∨ level.requiredRole ∈ config.allowedRoles
    · simp only [if_pos hr]
      exact ⟨nofun, fun ⟨_, h₁, h₂, _⟩ => absurd (hr.resolve_left h₁) h₂⟩
    · rw [not_or] at hr
      simp only [if_neg (not_or.2 hr), hs, hr, ne_eq, not_false_eq_true, true_and]
      split <;> simp_all
  · rw [authorize, new_anonymousGrant_of_secret _ _ hs]
    simp only [hs, false_and, iff_false]
    exact bearerCheck_ne_none _ _ _ _ (by simp [new_validator, hs])

/-! ## Grants -/

/-- **A grant of the token path**: the header is present, the token valid and
of sufficient scope, the role list permits the level, and the result carries
the token's subject and scope. -/
theorem bearerCheck_allowed {v : BearerValidator} (h : a.validator_ = some v) {r : AuthResult}
    (hb : a.bearerCheck lib request level = some r) (ha : r.allowed = true) :
    let info := lib.validate v (headerValue request "authorization")
    headerValue request "authorization" ≠ "" ∧ info.valid = true ∧ lib.permits level info = true ∧
      (a.allowedRoles_ = [] ∨ level.requiredRole ∈ a.allowedRoles_) ∧
      r.subject = info.subject ∧ r.scope = info.scope := by
  unfold bearerCheck at hb
  simp only [h] at hb
  split_ifs at hb with h₁ h₂ h₃ h₄ <;> cases hb
  all_goals first
    | exact absurd ha (by decide)
    | simp only [Bool.not_eq_true', Bool.not_eq_false] at h₂ h₃ h₄
      refine ⟨h₁, by simpa using h₂, by simpa using h₃, ?_, rfl, rfl⟩
      by_cases hr : a.allowedRoles_ = []
      · exact .inl hr
      · simpa [isRoleAllowed, hr] using h₄

/-- With no secret, a level is granted exactly when its allow flag is set: the
token path cannot grant without a validator. -/
theorem allows_of_no_secret (hs : config.tokenSecret = "") :
    (new config).allows lib request level =
      decide (config.allowedRoles = [] ∨ level.requiredRole ∈ config.allowedRoles) := by
  have hv : (new config).validator_ = none := by simp [new_validator, hs]
  simp only [allows, authorize, new_anonymousGrant_of_no_secret _ _ hs,
    bearerCheck_of_no_validator _ _ _ _ hv]
  by_cases hr : config.allowedRoles = [] ∨ level.requiredRole ∈ config.allowedRoles
  · simp [hr]
  · simp only [if_neg hr, decide_eq_false hr]; split <;> rfl

/-- With a secret, a level is granted exactly when the token path grants it. -/
theorem allows_of_secret (hs : config.tokenSecret ≠ "") :
    let info := lib.validate ⟨config.tokenSecret⟩ (headerValue request "authorization")
    (new config).allows lib request level = true ↔
      headerValue request "authorization" ≠ "" ∧ info.valid = true ∧
        lib.permits level info = true ∧
        (config.allowedRoles = [] ∨ level.requiredRole ∈ config.allowedRoles) := by
  have hv : (new config).validator_ = some ⟨config.tokenSecret⟩ := by simp [new_validator, hs]
  simp only [allows, authorize, new_anonymousGrant_of_secret _ _ hs]
  constructor
  · intro hg
    cases hb : (new config).bearerCheck lib request level with
    | none => simp [hb] at hg
    | some r =>
      obtain ⟨h₁, h₂, h₃, h₄, -⟩ := bearerCheck_allowed _ _ _ _ hv hb (by simpa [hb] using hg)
      exact ⟨h₁, h₂, h₃, by simpa using h₄⟩
  · rintro ⟨h₁, h₂, h₃, h₄⟩
    have h₄' : ¬ (config.allowedRoles ≠ [] ∧ (new config).isRoleAllowed level.requiredRole = false) := by
      rintro ⟨hr, hn⟩; simp [isRoleAllowed, hr] at hn; exact hn (h₄.resolve_left hr)
    simp [bearerCheck, hv, h₁, h₂, h₃, h₄']

end Authenticator
end RadioControl
