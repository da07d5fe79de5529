import ServiceAccess.ConnectorType
import ServiceAccess.Resource.Affix

/-! # Extensions with a scripted service

Connector types whose whole provider is one named service, which is asked for every routine. The widget
extension is a ready example with two auth methods and three resource types. -/

namespace ServiceAccess.Rehearsal

/-- The routines that a provider may lack. -/
inductive Capability where
  /-- Clients are released. -/
  | disconnect
  /-- A local tool can be set up. -/
  | configureLocal
  /-- Credentials can be found in the surroundings. -/
  | autoConfigure
deriving DecidableEq

/-- How an extension finds credentials: a variable of the environment holds the value of one field. -/
structure AutoRule where
  /-- The variable. -/
  variableName : String
  /-- The field. -/
  field : String
  /-- The auth method, unless another one is requested. -/
  method : String
  /-- The resource type, unless another one is requested. -/
  resourceType : String

/-- An extension. -/
structure Extension where
  /-- Its description. -/
  spec : TypeSpec
  /-- The readers of its resource IDs, by resource type. -/
  resolvers : Table String Resolver
  /-- The routines that it has besides connecting and verifying. -/
  capabilities : List Capability
  /-- How it finds credentials. -/
  auto : Option AutoRule

namespace Extension

/-- The secret that an extension authenticates with: the token, else the key, if there is any. -/
def credentialOf (c : Credentials) : Option String :=
  let reveal := fun (field : String) => match c.get? field with
    | some (.secret s) => some s.cleartext
    | _ => none
  (reveal "token") <|> (reveal "apiKey")

/-- The canonical ID of the target. -/
def targetOf (ctx : Context) : Option String := ctx.resource.map ResourceId.canonicalId

/-- Make a handshake with the service. -/
def connect (service : String) (ctx : Context) : Routine Client :=
  (Routine.query (.extension service
    (.connect ctx.method.id ctx.resourceType.id (targetOf ctx) (credentialOf ctx.credentials)))).map
      Client.extension

/-- Let the service check the credentials. -/
def verify (service : String) (ctx : Context) (discover : Bool) : Routine VerifyOutcome :=
  Routine.query (.extension service
    (.verify ctx.method.id ctx.resourceType.id (targetOf ctx) discover))

/-- End the session of a client. -/
def disconnect (service : String) : Client → Routine Unit
  | .extension client => Routine.query (.extension service (.release client.serial))
  | _ => pure ()

/-- Let the service set up a local tool. -/
def configureLocal (service : String) (ctx : Context) : Routine Unit :=
  Routine.query (.extension service (.configureLocal (targetOf ctx)))

/-- Find credentials by a rule. -/
def autoConfigure (service : String) (rule : AutoRule) (request : AutoConfigureRequest) :
    Routine FoundSettings :=
  (Routine.query (.extension service (.autoConfigure request))).bind fun _ =>
    match request.lookup? rule.variableName with
    | none => .fail (.authorization (.stated (rule.variableName ++ " is not set")) none none)
    | some value => pure {
        method := request.method.getD rule.method
        resourceType := request.resourceType.getD rule.resourceType
        resourceId := request.resourceId
        bundle := .ofList [(rule.field, .value (.str value))] }

/-- The connector type of an extension with a named service. -/
def connectorType (e : Extension) (service : String) : ConnectorType :=
  let provides := fun (c : Capability) => e.capabilities.contains c
  { spec := e.spec
    resolvers := e.resolvers
    provider := {
      connect := connect service
      verify := verify service
      disconnect := if provides .disconnect then some (disconnect service) else none
      configureLocal := if provides .configureLocal then some (configureLocal service) else none
      autoConfigure :=
        if provides .autoConfigure then e.auto.map (autoConfigure service) else none } }

end Extension

namespace Widget

/-- The auth method by a service token. -/
def tokenMethod : AuthMethod where
  id := "token"
  name := "Token"
  description := "Service token."
  schema := {
    fields := .ofList [
      ("token", .secretText (some "Widget service token")),
      ("endpoint", ⟨some "Widget service URL", .text none none none, false, false,
        some (.str "https://widgets.test")⟩),
      ("retries", ⟨none, .numeric .integer { Limits.none with least := some (Number.ofNat 0) }, false, true,
        none⟩)]
    additional := some false }

/-- The auth method by an account key. -/
def keyMethod : AuthMethod where
  id := "api-key"
  name := "API key"
  description := "Account API key."
  schema := { fields := .ofList [("apiKey", .secretText none)], additional := some false }

/-- A shape with the canonical lead and the field of widgets. -/
def shape (name format lead tail : String) : Shape :=
  AffixShape.toShape
    ⟨name, format, lead, .name, tail, false, false, "widget://", some "name", [], none⟩

/-- The reader of widgets. -/
def widgetResolver : Resolver :=
  ⟨"widget", [shape "widget URI" "widget://<name>" "widget://" "/", shape "widget name" "<name>" "" ""]⟩

/-- The reader of gadgets. -/
def gadgetResolver : Resolver :=
  ⟨"gadget", [AffixShape.toShape
    ⟨"gadget reference", "gadget:<name>", "gadget:", .lower, "", false, false, "gadget:", some "name", [],
      none⟩]⟩

/-- The description of the widget extension. -/
def spec : TypeSpec where
  id := "widget-service"
  name := "Widget Service Connector"
  description := "Test connector type backed by an in-memory provider."
  methods := [tokenMethod, keyMethod]
  resourceTypes := [
    ⟨"widget", "Widget", none, true, true, ["token"]⟩,
    ⟨"gadget", "Gadget", none, true, false, ["token"]⟩,
    ⟨"account", "Account", none, false, false, ["token", "api-key"]⟩]
  supportsAutoConfiguration := true

/-- The widget extension. -/
def extension : Extension where
  spec := spec
  resolvers := .ofList [("widget", widgetResolver), ("gadget", gadgetResolver)]
  capabilities := [.disconnect, .configureLocal, .autoConfigure]
  auto := some ⟨"WIDGET_TOKEN", "token", "token", "widget"⟩

end Widget

end ServiceAccess.Rehearsal
