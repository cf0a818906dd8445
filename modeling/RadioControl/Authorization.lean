import RadioControl.Authenticator

/-! # What a grant of the authenticator means

With a secret configured, every grant is token-backed: the request carries an
`authorization` header whose token is valid, of sufficient scope, and of a role
the configuration permits, and the grant carries the token's subject and scope
(`secret_grants_are_token_backed`).

With no secret, grants are the anonymous ones of the allow flags.  Three
consequences follow, each shown on a concrete configuration:

* a `Control` request whose flag is off and that carries a header reaches
  `validator_->validate` with no validator (`control_request_dereferences_empty_validator`);
* an anonymous `Control` grant carries the default scope `Viewer`
  (`control_grant_scope`, `anonymous_control_grant_has_viewer_scope`);
* a role list naming only `"controller"` grants control and not telemetry,
  so access is monotone in the level only when the list is empty or names
  `"viewer"` (`control_implies_telemetry`, `controller_role_only_denies_telemetry`).
-/
namespace RadioControl
namespace Authenticator

/-- A token library that takes every token for a valid operator's. -/
def operatorTokens : TokenLibrary where
  validate _ _ := ⟨true, "operator", .operator⟩
  hasViewerOrHigher _ := true
  hasOperatorOrHigher _ := true

/-! ## With a secret -/

/-- **With a secret, every grant is token-backed**, whatever the allow flags:
the request has a non-empty `authorization` header, its token is valid,
viewer-or-higher for telemetry and operator-or-higher for control, the role
list is empty or names the level's role, and the grant carries the token's
subject and scope. -/
theorem secret_grants_are_token_backed (lib : TokenLibrary) (config : SecurityConfig)
    (request : HttpRequest) (level : AccessLevel) {r : AuthResult}
    (hs : config.tokenSecret ≠ "") (h : (new config).authorize lib request level = some r)
    (ha : r.allowed = true) :
    ∃ header, request.headers.lookup "authorization" = some header ∧ header ≠ "" ∧
      let info := lib.validate ⟨config.tokenSecret⟩ header
      info.valid = true ∧ lib.permits level info = true ∧
        (config.allowedRoles = [] ∨ level.requiredRole ∈ config.allowedRoles) ∧
        r.subject = info.subject ∧ r.scope = info.scope := by
  rw [authorize, new_anonymousGrant_of_secret _ _ hs] at h
  have hv : (new config).validator_ = some ⟨config.tokenSecret⟩ := by simp [new_validator, hs]
  obtain ⟨h₁, h₂, h₃, h₄, h₅, h₆⟩ := bearerCheck_allowed _ _ _ _ hv h ha
  cases hl : request.headers.lookup "authorization" with
  | none => simp [headerValue, hl] at h₁
  | some header =>
    simp only [headerValue, hl, Option.getD_some] at h₁ h₂ h₃ h₅ h₆
    exact ⟨header, rfl, h₁, h₂, h₃, by simpa using h₄, h₅, h₆⟩

/-- A secret, no roles, an operator's token: the control grant is token-backed. -/
theorem operator_token_grant :
    ("s" : String) ≠ "" ∧
      (new ⟨"s", []⟩).authorize operatorTokens ⟨[("authorization", "Bearer t")]⟩ .control =
        some { allowed := true, subject := "operator", scope := .operator } ∧
      ∃ header, [("authorization", "Bearer t")].lookup "authorization" = some header ∧
        header ≠ "" ∧
        (operatorTokens.validate ⟨"s"⟩ header).valid = true ∧
        operatorTokens.permits .control (operatorTokens.validate ⟨"s"⟩ header) = true ∧
        (([] : List String) = [] ∨ AccessLevel.control.requiredRole ∈ ([] : List String)) ∧
        "operator" = (operatorTokens.validate ⟨"s"⟩ header).subject ∧
        Scope.operator = (operatorTokens.validate ⟨"s"⟩ header).scope :=
  ⟨by decide, rfl, secret_grants_are_token_backed operatorTokens ⟨"s", []⟩
    ⟨[("authorization", "Bearer t")]⟩ .control (by decide) rfl rfl⟩

/-! ## With no secret -/

/-- No secret, the role list `["viewer"]`, and a `Control` request with an
`authorization` header: the control flag is off, and `authorize` reaches
`validator_->validate` with no validator. -/
theorem control_request_dereferences_empty_validator (lib : TokenLibrary) :
    (new ⟨"", ["viewer"]⟩).authorize lib ⟨[("authorization", "Bearer t")]⟩ .control = none :=
  (authorize_eq_none_iff _ _ _ _).2 ⟨rfl, by simp, by decide, by decide⟩

/-- **What a `Control` grant carries.**  With a secret configured it is
token-backed: the token passed `hasOperatorOrHigher`, and the grant carries its
scope.  With none it is the anonymous grant, with the default scope
`Viewer`. -/
theorem control_grant_scope (lib : TokenLibrary) (config : SecurityConfig)
    (request : HttpRequest) {r : AuthResult}
    (h : (new config).authorize lib request .control = some r) (ha : r.allowed = true) :
    (config.tokenSecret = "" ∧ r.subject = "anonymous" ∧ r.scope = .viewer) ∨
      (config.tokenSecret ≠ "" ∧
        let info := lib.validate ⟨config.tokenSecret⟩ (headerValue request "authorization")
        lib.hasOperatorOrHigher info = true ∧ r.scope = info.scope) := by
  by_cases hs : config.tokenSecret = ""
  · have hv : (new config).validator_ = none := by simp [new_validator, hs]
    rw [authorize, new_anonymousGrant_of_no_secret _ _ hs, bearerCheck_of_no_validator _ _ _ _ hv] at h
    split_ifs at h <;> cases h
    all_goals first | exact .inl ⟨hs, rfl, rfl⟩ | exact absurd ha (by decide)
  · rw [authorize, new_anonymousGrant_of_secret _ _ hs] at h
    have hv : (new config).validator_ = some ⟨config.tokenSecret⟩ := by simp [new_validator, hs]
    obtain ⟨-, -, h₃, -, -, h₆⟩ := bearerCheck_allowed _ _ _ _ hv h ha
    exact .inr ⟨hs, h₃, h₆⟩

/-- No secret and no roles: a `Control` request with no header is granted
anonymously. -/
theorem anonymous_control_grant :
    (new ⟨"", []⟩).authorize operatorTokens ⟨[]⟩ .control =
        some { allowed := true, subject := "anonymous" } ∧
      ((("" : String) = "" ∧ "anonymous" = "anonymous" ∧ Scope.viewer = .viewer) ∨
        (("" : String) ≠ "" ∧
          operatorTokens.hasOperatorOrHigher
            (operatorTokens.validate ⟨""⟩ (headerValue ⟨[]⟩ "authorization")) = true ∧
          Scope.viewer =
            (operatorTokens.validate ⟨""⟩ (headerValue ⟨[]⟩ "authorization")).scope)) :=
  ⟨rfl, control_grant_scope operatorTokens ⟨"", []⟩ ⟨[]⟩ rfl rfl⟩

/-- No secret and no roles: a `Control` request with no header is granted,
with the scope `Viewer`. -/
theorem anonymous_control_grant_has_viewer_scope :
    ¬ ∀ (lib : TokenLibrary) (config : SecurityConfig) (request : HttpRequest) (r : AuthResult),
        (new config).authorize lib request .control = some r → r.allowed = true →
        r.scope = .operator ∨ r.scope = .admin := by
  intro h
  have viewerScope := h operatorTokens ⟨"", []⟩ ⟨[]⟩ _ rfl rfl
  simp at viewerScope

/-! ## Control and telemetry -/

/-- **Control implies telemetry when the role list allows viewers.**  If the
token library orders its scopes, and the role list is empty or names
`"viewer"`, a request granted control is granted telemetry. -/
theorem control_implies_telemetry (lib : TokenLibrary)
    (hord : ∀ info, lib.hasOperatorOrHigher info = true → lib.hasViewerOrHigher info = true)
    (config : SecurityConfig) (request : HttpRequest)
    (hroles : config.allowedRoles = [] ∨ "viewer" ∈ config.allowedRoles)
    (h : (new config).allows lib request .control = true) :
    (new config).allows lib request .telemetry = true := by
  by_cases hs : config.tokenSecret = ""
  · rw [allows_of_no_secret _ _ _ _ hs]
    simpa [AccessLevel.requiredRole] using hroles
  · obtain ⟨h₁, h₂, h₃, -⟩ := (allows_of_secret _ _ _ _ hs).1 h
    exact (allows_of_secret _ _ _ _ hs).2
      ⟨h₁, h₂, hord _ h₃, by simpa [AccessLevel.requiredRole] using hroles⟩

/-- A secret, the roles `viewer` and `controller`, an operator's token: both
levels are granted. -/
theorem operator_token_reads_telemetry :
    (∀ info, operatorTokens.hasOperatorOrHigher info = true →
        operatorTokens.hasViewerOrHigher info = true) ∧
      ((["viewer", "controller"] : List String) = [] ∨ "viewer" ∈ ["viewer", "controller"]) ∧
      (new ⟨"s", ["viewer", "controller"]⟩).allows operatorTokens
        ⟨[("authorization", "Bearer t")]⟩ .control = true ∧
      (new ⟨"s", ["viewer", "controller"]⟩).allows operatorTokens
        ⟨[("authorization", "Bearer t")]⟩ .telemetry = true :=
  ⟨fun _ _ => rfl, .inr (by decide), by decide,
    control_implies_telemetry operatorTokens (fun _ _ => rfl) ⟨"s", ["viewer", "controller"]⟩
      ⟨[("authorization", "Bearer t")]⟩ (.inr (by decide)) (by decide)⟩

/-- No secret and the role list `["controller"]`: a request with no header is
granted control anonymously and refused telemetry ("Missing Authorization
header"). -/
theorem controller_role_only_denies_telemetry :
    ¬ ∀ lib : TokenLibrary,
        (∀ info, lib.hasOperatorOrHigher info = true → lib.hasViewerOrHigher info = true) →
        ∀ (config : SecurityConfig) (request : HttpRequest),
          (new config).allows lib request .control = true →
          (new config).allows lib request .telemetry = true := by
  intro h
  have granted := h operatorTokens (fun _ _ => rfl) ⟨"", ["controller"]⟩ ⟨[]⟩ (by decide)
  exact absurd granted (by decide)

end Authenticator
end RadioControl
