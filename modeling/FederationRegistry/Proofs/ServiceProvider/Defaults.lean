import FederationRegistry.Proofs.ServiceProvider.Omission

/-!
# Defaults of the sections document

What may be left out of the document of a service provider, and what is meant then: the tables of
`schema` below, one for every record. A writer leaves nothing out; a reader takes what is missing
from the record that it starts with.

Main statement: `Sections.Plain.ofText_of_omits`.
-/

namespace FederationRegistry

open Json

/-! ## What may be left out -/

/-- The members of a binding; key and type have to be there. -/
def InboundBinding.schema : Schema :=
  .record
    [("inbound_auth_key", none, .value),
      ("inbound_auth_type", none, .value),
      ("inbound_config_type", some .null, .value),
      ("friendly_name", some .null, .value),
      ("properties", some (.object []), .value)]

/-- The members of an authenticator; the name has to be there. -/
def LocalAuthenticator.schema : Schema :=
  .record
    [("name", none, .value),
      ("display_name", some .null, .value),
      ("enabled", some (.bool true), .value),
      ("properties", some (.object []), .value)]

/-- The members of a step. -/
def LoginStep.schema : Schema :=
  .record
    [("strategy", some (.string "show_auth_page"), .value),
      ("local_authenticators", some (.array []), .list LocalAuthenticator.schema),
      ("federated_idps", some (.array []), .value)]

/-- The members of a login flow. -/
def LoginFlow.schema : Schema :=
  .record
    [("steps", some (.array []), .list LoginStep.schema),
      ("send_authenticated_idps", some (.bool false), .value),
      ("use_domain_in_local_subject_identifier", some (.bool false), .value),
      ("use_local_subject_identifier", some (.bool true), .value)]

/-- The members of outbound provisioning. -/
def OutboundProvisioning.schema : Schema :=
  .record
    [("provisioning_idps", some (.array []), .value),
      ("provision_by_roles", some (.array []), .value)]

/-- The members of the claims. -/
def ApplicationClaims.schema : Schema :=
  .record
    [("local_claim_dialect", some (.bool false), .value),
      ("role_claim_uri", some .null, .value),
      ("requested_claims", some (.array []), .value),
      ("claim_mappings", some (.object []), .value)]

/-- The members of the permissions. -/
def ApplicationPermissions.schema : Schema :=
  .record
    [("permissions", some (.array []), .value),
      ("role_mappings", some (.object []), .value)]

/-- The members of the document. -/
def Sections.schema : Schema :=
  .record
    [("inbound_authentication", some (.array []), .list InboundBinding.schema),
      ("local_and_outbound", some (LoginFlow.toJson {}), LoginFlow.schema),
      ("provisioning", some (OutboundProvisioning.toJson {}), OutboundProvisioning.schema),
      ("claim_config", some (ApplicationClaims.toJson {}), ApplicationClaims.schema),
      ("permission_and_role", some (ApplicationPermissions.toJson {}),
        ApplicationPermissions.schema),
      ("properties", some (.object []), .value)]

/-! ## What is read where members are left out -/

theorem InboundBinding.recovers (b : InboundBinding) :
    Recovers InboundBinding.read schema toJson b := by
  refine recovers_record (by decide) rfl (reads b) fun d => ?_
  refine fillsFrom_mandatory (reads_text b.key) ?_
  refine fillsFrom_mandatory (reads_text b.type) ?_
  refine fillsFrom_value reads_text? b.configType none rfl ?_
  refine fillsFrom_value reads_text? b.friendlyName none rfl ?_
  refine fillsFrom_value PropertyMap.reads b.properties ∅ rfl ?_
  exact fillsFrom_nil b

theorem LocalAuthenticator.recovers (a : LocalAuthenticator) :
    Recovers LocalAuthenticator.read schema toJson a := by
  refine recovers_record (by decide) rfl (reads a) fun d => ?_
  refine fillsFrom_mandatory (reads_text a.name) ?_
  refine fillsFrom_value reads_text? a.displayName none rfl ?_
  refine fillsFrom_value reads_flag a.enabled true rfl ?_
  refine fillsFrom_value PropertyMap.reads a.properties ∅ rfl ?_
  exact fillsFrom_nil a

theorem LoginStep.recovers (s : LoginStep) : Recovers LoginStep.read schema toJson s := by
  refine recovers_record (by decide) rfl (reads s) fun d => ?_
  refine fillsFrom_value LoginStrategy.reads s.strategy .showAuthPage rfl ?_
  refine fillsFrom_optional (recovers_list LocalAuthenticator.recovers) s.localAuthenticators []
    rfl ?_
  refine fillsFrom_value reads_textList s.federatedProviders [] rfl ?_
  exact fillsFrom_nil s

theorem LoginFlow.recovers (f : LoginFlow) : Recovers LoginFlow.read schema toJson f := by
  refine recovers_record (by decide) rfl (reads f) fun d => ?_
  refine fillsFrom_optional (recovers_list LoginStep.recovers) f.steps [] rfl ?_
  refine fillsFrom_value reads_flag f.sendAuthenticatedProviders false rfl ?_
  refine fillsFrom_value reads_flag f.useDomainInLocalSubject false rfl ?_
  refine fillsFrom_value reads_flag f.useLocalSubject true rfl ?_
  exact fillsFrom_nil f

theorem OutboundProvisioning.recovers (p : OutboundProvisioning) :
    Recovers OutboundProvisioning.read schema toJson p := by
  refine recovers_record (by decide) rfl (reads p) fun d => ?_
  refine fillsFrom_value reads_names p.providers ∅ rfl ?_
  refine fillsFrom_value reads_names p.roles ∅ rfl ?_
  exact fillsFrom_nil p

theorem ApplicationClaims.recovers (c : ApplicationClaims) :
    Recovers ApplicationClaims.read schema toJson c := by
  refine recovers_record (by decide) rfl (reads c) fun d => ?_
  refine fillsFrom_value reads_flag c.localDialect false rfl ?_
  refine fillsFrom_value reads_text? c.roleClaim none rfl ?_
  refine fillsFrom_value reads_names c.requestedClaims ∅ rfl ?_
  refine fillsFrom_value reads_texts c.mappings ∅ rfl ?_
  exact fillsFrom_nil c

theorem ApplicationPermissions.recovers (p : ApplicationPermissions) :
    Recovers ApplicationPermissions.read schema toJson p := by
  refine recovers_record (by decide) rfl (reads p) fun d => ?_
  refine fillsFrom_value reads_names p.permissions ∅ rfl ?_
  refine fillsFrom_value reads_texts p.roleMappings ∅ rfl ?_
  exact fillsFrom_nil p

namespace Sections

theorem recovers (s : Sections) : Recovers Sections.read schema toJson s := by
  refine recovers_record (by decide) rfl (reads s) fun d => ?_
  refine fillsFrom_optional (recovers_list InboundBinding.recovers) s.inbound [] rfl ?_
  refine fillsFrom_optional LoginFlow.recovers s.login {} rfl ?_
  refine fillsFrom_optional OutboundProvisioning.recovers s.provisioning {} rfl ?_
  refine fillsFrom_optional ApplicationClaims.recovers s.claims {} rfl ?_
  refine fillsFrom_optional ApplicationPermissions.recovers s.permissions {} rfl ?_
  refine fillsFrom_value PropertyMap.reads s.properties ∅ rfl ?_
  exact fillsFrom_nil s

/-- **Whatever is left of the text is read back as the sections.** -/
theorem Plain.ofText_of_omits {s : Sections} (hs : s.Plain) {j : Json}
    (hj : schema.Omits s.toJson j) : ofText j.compact = .ok s := by
  rw [ofText, decodeText_compact read (hj.doubleFree hs.doubleFree)]
  exact recovers s PropertyValue.maxDepth j hj (Nat.le_trans hj.depth_le hs.shallow)

end Sections

end FederationRegistry
