import FederationRegistry.Json.Form
import FederationRegistry.ServiceProvider.Sections

/-!
# Sections as JSON

The sections of a service provider are one JSON document. `toJson` writes every field of every
record, in a fixed order; a reader takes missing fields from the defaults. Of the records only the
outermost is closed: elsewhere members of other names are skipped.

Main definitions: `Sections.text` and `Sections.ofText`.
-/

namespace FederationRegistry

open Json

/-! ## Inbound bindings -/

namespace InboundBinding

/-- The JSON form of a binding. -/
def toJson (b : InboundBinding) : Json :=
  .object
    [("inbound_auth_key", .string b.key),
      ("inbound_auth_type", .string b.type),
      ("inbound_config_type", Json.ofText? b.configType),
      ("friendly_name", Json.ofText? b.friendlyName),
      ("properties", b.properties.toJson)]

/-- The fields of a binding; key and type have no default. -/
def shape : RecordShape InboundBinding where
  fields :=
    [.mandatory "inbound_auth_key" Node.readText fun key b => { b with key },
      .mandatory "inbound_auth_type" Node.readText fun type b => { b with type },
      .optional "inbound_config_type" Node.readText? fun configType b => { b with configType },
      .optional "friendly_name" Node.readText? fun friendlyName b => { b with friendlyName },
      .optional "properties" PropertyMap.read fun properties b => { b with properties }]
  closed := false
  blank := { key := "", type := "" }

/-- The binding at a node. -/
def read : Depth → Node → Decoded InboundBinding := shape.read

end InboundBinding

/-! ## Login -/

namespace LoginStrategy

/-- The name of the strategy. -/
def label : LoginStrategy → String
  | .requestPathOnly => "request_path_only"
  | .showAuthPage => "show_auth_page"
  | .requestPathOrShowAuth => "request_path_or_show_auth"
  | .showAuthWhenRequestPathFails => "show_auth_when_request_path_fails"

/-- The strategies by name. -/
def words : List (String × LoginStrategy) :=
  [requestPathOnly, showAuthPage, requestPathOrShowAuth, showAuthWhenRequestPathFails].map
    fun s => (s.label, s)

/-- The strategy at a node. -/
def read : Depth → Node → Decoded LoginStrategy := Node.word words

end LoginStrategy

namespace LocalAuthenticator

/-- The JSON form of an authenticator. -/
def toJson (a : LocalAuthenticator) : Json :=
  .object
    [("name", .string a.name),
      ("display_name", Json.ofText? a.displayName),
      ("enabled", .bool a.enabled),
      ("properties", a.properties.toJson)]

/-- The fields of an authenticator; the name has no default. -/
def shape : RecordShape LocalAuthenticator where
  fields :=
    [.mandatory "name" Node.readText fun name a => { a with name },
      .optional "display_name" Node.readText? fun displayName a => { a with displayName },
      .optional "enabled" Node.readFlag fun enabled a => { a with enabled },
      .optional "properties" PropertyMap.read fun properties a => { a with properties }]
  closed := false
  blank := { name := "" }

/-- The authenticator at a node. -/
def read : Depth → Node → Decoded LocalAuthenticator := shape.read

end LocalAuthenticator

namespace LoginStep

/-- The JSON form of a step. -/
def toJson (s : LoginStep) : Json :=
  .object
    [("strategy", .string s.strategy.label),
      ("local_authenticators", Json.ofList LocalAuthenticator.toJson s.localAuthenticators),
      ("federated_idps", Json.ofTexts s.federatedProviders)]

/-- The fields of a step. -/
def shape : RecordShape LoginStep where
  fields :=
    [.optional "strategy" LoginStrategy.read fun strategy s => { s with strategy },
      .optional "local_authenticators" (fun depth n => n.list LocalAuthenticator.read depth)
        fun localAuthenticators s => { s with localAuthenticators },
      .optional "federated_idps" (fun depth n => n.list Node.readText depth)
        fun federatedProviders s => { s with federatedProviders }]
  closed := false
  blank := {}

/-- The step at a node. -/
def read : Depth → Node → Decoded LoginStep := shape.read

end LoginStep

namespace LoginFlow

/-- The JSON form of a login flow. -/
def toJson (f : LoginFlow) : Json :=
  .object
    [("steps", Json.ofList LoginStep.toJson f.steps),
      ("send_authenticated_idps", .bool f.sendAuthenticatedProviders),
      ("use_domain_in_local_subject_identifier", .bool f.useDomainInLocalSubject),
      ("use_local_subject_identifier", .bool f.useLocalSubject)]

/-- The fields of a login flow. -/
def shape : RecordShape LoginFlow where
  fields :=
    [.optional "steps" (fun depth n => n.list LoginStep.read depth)
        fun steps f => { f with steps },
      .optional "send_authenticated_idps" Node.readFlag
        fun flag f => { f with sendAuthenticatedProviders := flag },
      .optional "use_domain_in_local_subject_identifier" Node.readFlag
        fun flag f => { f with useDomainInLocalSubject := flag },
      .optional "use_local_subject_identifier" Node.readFlag
        fun flag f => { f with useLocalSubject := flag }]
  closed := false
  blank := {}

/-- The login flow at a node. -/
def read : Depth → Node → Decoded LoginFlow := shape.read

end LoginFlow

/-! ## Provisioning, claims, permissions -/

namespace OutboundProvisioning

/-- The JSON form of outbound provisioning. -/
def toJson (p : OutboundProvisioning) : Json :=
  .object
    [("provisioning_idps", Json.ofNames p.providers),
      ("provision_by_roles", Json.ofNames p.roles)]

/-- The fields of outbound provisioning. -/
def shape : RecordShape OutboundProvisioning where
  fields :=
    [.optional "provisioning_idps" Node.readNames fun providers p => { p with providers },
      .optional "provision_by_roles" Node.readNames fun roles p => { p with roles }]
  closed := false
  blank := {}

/-- Outbound provisioning at a node. -/
def read : Depth → Node → Decoded OutboundProvisioning := shape.read

end OutboundProvisioning

namespace ApplicationClaims

/-- The JSON form of the claims. -/
def toJson (c : ApplicationClaims) : Json :=
  .object
    [("local_claim_dialect", .bool c.localDialect),
      ("role_claim_uri", Json.ofText? c.roleClaim),
      ("requested_claims", Json.ofNames c.requestedClaims),
      ("claim_mappings", Json.ofDict .string c.mappings)]

/-- The fields of the claims. -/
def shape : RecordShape ApplicationClaims where
  fields :=
    [.optional "local_claim_dialect" Node.readFlag fun localDialect c => { c with localDialect },
      .optional "role_claim_uri" Node.readText? fun roleClaim c => { c with roleClaim },
      .optional "requested_claims" Node.readNames
        fun requestedClaims c => { c with requestedClaims },
      .optional "claim_mappings" Node.readTexts fun mappings c => { c with mappings }]
  closed := false
  blank := {}

/-- The claims at a node. -/
def read : Depth → Node → Decoded ApplicationClaims := shape.read

end ApplicationClaims

namespace ApplicationPermissions

/-- The JSON form of the permissions. -/
def toJson (p : ApplicationPermissions) : Json :=
  .object
    [("permissions", Json.ofNames p.permissions),
      ("role_mappings", Json.ofDict .string p.roleMappings)]

/-- The fields of the permissions. -/
def shape : RecordShape ApplicationPermissions where
  fields :=
    [.optional "permissions" Node.readNames fun permissions p => { p with permissions },
      .optional "role_mappings" Node.readTexts fun roleMappings p => { p with roleMappings }]
  closed := false
  blank := {}

/-- The permissions at a node. -/
def read : Depth → Node → Decoded ApplicationPermissions := shape.read

end ApplicationPermissions

/-! ## The document -/

namespace Sections

/-- The JSON form of the sections. -/
def toJson (s : Sections) : Json :=
  .object
    [("inbound_authentication", Json.ofList InboundBinding.toJson s.inbound),
      ("local_and_outbound", s.login.toJson),
      ("provisioning", s.provisioning.toJson),
      ("claim_config", s.claims.toJson),
      ("permission_and_role", s.permissions.toJson),
      ("properties", s.properties.toJson)]

/-- The fields of the sections. -/
def shape : RecordShape Sections where
  fields :=
    [.optional "inbound_authentication" (fun depth n => n.list InboundBinding.read depth)
        fun inbound s => { s with inbound },
      .optional "local_and_outbound" LoginFlow.read fun login s => { s with login },
      .optional "provisioning" OutboundProvisioning.read
        fun provisioning s => { s with provisioning },
      .optional "claim_config" ApplicationClaims.read fun claims s => { s with claims },
      .optional "permission_and_role" ApplicationPermissions.read
        fun permissions s => { s with permissions },
      .optional "properties" PropertyMap.read fun properties s => { s with properties }]
  closed := true
  blank := {}

/-- The sections at a node. -/
def read : Depth → Node → Decoded Sections := shape.read

/-- The canonical text of the sections. -/
def text (s : Sections) : String := s.toJson.compact

/-- The sections that a text stands for. -/
def ofText (text : String) : Decoded Sections := Json.decodeText read text

end Sections

end FederationRegistry
