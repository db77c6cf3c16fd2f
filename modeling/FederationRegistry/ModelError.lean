import FederationRegistry.Text.Blank
import FederationRegistry.Word
import FederationRegistry.Decimal.Digits

/-!
# What can be wrong with an aggregate

Every rule of the model that a value can break is one constructor of `ModelError`, together with
the field it is about. The wording is in `ModelError.reason` alone.
-/

namespace FederationRegistry

/-- The two kinds of identity provider. -/
inductive ProviderKind where
  /-- The registry's own provider. -/
  | resident
  /-- A partner's provider. -/
  | federated
deriving DecidableEq

/-- The name that the resident provider has and no other. -/
def residentName : String := "LOCAL"

namespace ProviderKind

/-- The kind in words. -/
def label : ProviderKind → String
  | .resident => "resident"
  | .federated => "federated"

/-- The kind that a name stands for. -/
def ofName (name : String) : ProviderKind := if name = residentName then .resident else .federated

end ProviderKind

/-- A field that a rule is about. -/
inductive ModelField where
  | metadataName
  | certificateAlias
  | certificateThumbprint
  | dialectId
  | localRoleId
  | externalRole
  | requestedClaim
  | authenticatorName
  | jitProvider
  | provisioningRole
  | provisioningClaim
  | provisionerName
  | homeRealm
  | federationHub
  | serviceProviderName
  | inboundBindings
  | inboundKey
  | inboundType
  | loginSteps
  | stepAuthenticatorName
  | stepProvider
  | outboundProvider
  | roleClaim
  | permission
deriving DecidableEq

/-- The path of the field. -/
def ModelField.path : ModelField → String
  | .metadataName => "metadata.name"
  | .certificateAlias => "metadata.certificates.alias"
  | .certificateThumbprint => "metadata.certificates.thumbprint"
  | .dialectId => "metadata.claim_config.dialect_id"
  | .localRoleId => "metadata.role_config.local_role_id"
  | .externalRole => "metadata.role_config.external_role"
  | .requestedClaim => "authentication.requested_claims"
  | .authenticatorName => "authenticator.name"
  | .jitProvider => "provisioning.jit.provisioning_idps"
  | .provisioningRole => "provisioning.roles"
  | .provisioningClaim => "provisioning.claims.claim_uri"
  | .provisionerName => "provisioner.name"
  | .homeRealm => "home_realm_id"
  | .federationHub => "federation_hub"
  | .serviceProviderName => "name"
  | .inboundBindings => "inbound_authentication"
  | .inboundKey => "inbound_authentication.inbound_auth_key"
  | .inboundType => "inbound_authentication.inbound_auth_type"
  | .loginSteps => "local_and_outbound.steps"
  | .stepAuthenticatorName => "local_and_outbound.steps.local_authenticators.name"
  | .stepProvider => "local_and_outbound.steps.federated_idps"
  | .outboundProvider => "provisioning.provisioning_idps"
  | .roleClaim => "claim_config.role_claim_uri"
  | .permission => "permission_and_role.permissions"

/-- A broken rule of the model. -/
inductive ModelError where
  | blank (field : ModelField)
  /-- An identifier of another registry lies beyond `maxReferenceId`. -/
  | beyondRange (field : ModelField) (value : Nat)
  /-- A resident provider has another name than `residentName`. -/
  | residentMisnamed
  /-- A federated provider has the name `residentName`. -/
  | nameReserved
  | residentWithHomeRealm
  | residentAsHub
  /-- A connector stands under another name than its own. -/
  | misplaced (field : ModelField) (noun key name : String)
  | duplicateBinding (inboundType inboundKey : String)
  | emptyStep
  /-- A provider of one kind stands where the other is wanted. -/
  | kindMismatch (expected actual : ProviderKind)
deriving DecidableEq

/-- The largest identifier of a role or a claim dialect. -/
def maxReferenceId : Nat := Word.signedLimit - 1

namespace ModelError

/-- The field that the broken rule is about. -/
def field? : ModelError → Option ModelField
  | .blank field | .beyondRange field _ | .misplaced field .. => some field
  | .residentMisnamed | .nameReserved => some .metadataName
  | .residentWithHomeRealm => some .homeRealm
  | .residentAsHub => some .federationHub
  | .duplicateBinding .. => some .inboundBindings
  | .emptyStep => some .loginSteps
  | .kindMismatch .. => none

/-- The broken rule in words, without the field. -/
def reason : ModelError → String
  | .blank _ => "must not be blank"
  | .beyondRange _ value => Decimal.text value ++ " exceeds " ++ Decimal.text maxReferenceId
  | .residentMisnamed => "resident identity provider must be named '" ++ residentName ++ "'"
  | .nameReserved => "'" ++ residentName ++ "' is reserved for the resident identity provider"
  | .residentWithHomeRealm => "resident identity provider has no home realm"
  | .residentAsHub => "resident identity provider cannot be a federation hub"
  | .misplaced _ noun key name => noun ++ " keyed as '" ++ key ++ "' is named '" ++ name ++ "'"
  | .duplicateBinding inboundType inboundKey =>
    "duplicate " ++ inboundType ++ " binding '" ++ inboundKey ++ "'"
  | .emptyStep => "each step needs a local authenticator or a federated identity provider"
  | .kindMismatch expected actual =>
    "identity provider type mismatch: expected " ++ expected.label ++ ", found " ++ actual.label

/-- The broken rule in words. -/
def message (e : ModelError) : String :=
  match e.field? with
  | some field => "invalid " ++ field.path ++ ": " ++ e.reason
  | none => e.reason

end ModelError

/-- A value that keeps the rules, or the first one it breaks. -/
abbrev Checked (α : Type) := Except ModelError α

/-- The text is not blank. -/
def requireText (field : ModelField) (s : String) : Checked Unit :=
  if Text.isBlank s then .error (.blank field) else .ok ()

/-- The identifier is in range. -/
def requireReferenceId (field : ModelField) (n : Nat) : Checked Unit :=
  if maxReferenceId < n then .error (.beyondRange field n) else .ok ()

/-- Every member of a list keeps a rule; of several that break it the first is reported. -/
def requireAll {α : Type} (rule : α → Checked Unit) : List α → Checked Unit
  | [] => .ok ()
  | a :: as =>
    match rule a with
    | .error e => .error e
    | .ok () => requireAll rule as

theorem requireText_ok_iff {field : ModelField} {s : String} :
    requireText field s = .ok () ↔ Text.isBlank s = false := by
  unfold requireText; split <;> simp_all

theorem requireReferenceId_ok_iff {field : ModelField} {n : Nat} :
    requireReferenceId field n = .ok () ↔ n ≤ maxReferenceId := by
  unfold requireReferenceId; split <;> simp_all

theorem requireAll_ok_iff {α : Type} {rule : α → Checked Unit} {as : List α} :
    requireAll rule as = .ok () ↔ ∀ a ∈ as, rule a = .ok () := by
  induction as with
  | nil => simp [requireAll]
  | cons a as ih =>
    simp only [requireAll, List.forall_mem_cons]
    cases h : rule a <;> simp [ih]

end FederationRegistry
