import A2AShim.Serve.Http
import A2AShim.Serve.PushConfigs
import A2AShim.Wire.MessageCodec

/-!
# The push configuration requests

The four handlers on the registry of push configurations.  Creating one is the
only request that passes an error of the database on.
-/

namespace A2AShim

structure AuthenticationInfo where
  scheme : String
  credentials : String
  deriving DecidableEq, Repr

namespace AuthenticationInfo

def ofValue (value : Value) : Option AuthenticationInfo := do
  let members ← value.structMembers ["scheme", "credentials"]
  let scheme ← (← members.get "scheme").asStr
  let credentials ← (← members.get "credentials").asStr
  return { scheme, credentials }

def toValue (info : AuthenticationInfo) : Value :=
  .object
    [("credentials", .string info.credentials), ("scheme", .string info.scheme)]

end AuthenticationInfo

structure PushNotificationConfigWire where
  id : Option String
  tenant : Option String
  taskId : Option String
  url : String
  token : Option String
  authentication : Option AuthenticationInfo
  deriving DecidableEq, Repr

namespace PushNotificationConfigWire

def ofValue (value : Value) : Option PushNotificationConfigWire := do
  let members ←
    value.structMembers
      ["id", "tenant", "taskId", "url", "token", "authentication"]
  let id ← Value.optional Value.asStr (members.get "id")
  let tenant ← Value.optional Value.asStr (members.get "tenant")
  let taskId ← Value.optional Value.asStr (members.get "taskId")
  let url ← (← members.get "url").asStr
  let token ← Value.optional Value.asStr (members.get "token")
  let authentication ←
    Value.optional AuthenticationInfo.ofValue (members.get "authentication")
  return { id, tenant, taskId, url, token, authentication }

/-- Only `id` is written when it is missing. -/
def toValue (wire : PushNotificationConfigWire) : Value :=
  Value.ofFields
    [("authentication", wire.authentication.map AuthenticationInfo.toValue),
      ("id", some ((wire.id.map Value.string).getD .null)),
      ("taskId", wire.taskId.map Value.string),
      ("tenant", wire.tenant.map Value.string),
      ("token", wire.token.map Value.string),
      ("url", some (.string wire.url))]

end PushNotificationConfigWire

structure PushConfigParams where
  taskId : Option String
  configId : Option String
  pushNotificationConfig : Option PushNotificationConfigWire
  deriving DecidableEq, Repr

def PushConfigParams.ofValue (value : Value) : Option PushConfigParams := do
  let members ←
    value.structMembers ["taskId", "configId", "pushNotificationConfig"]
  let taskId ← Value.optional Value.asStr (members.get "taskId")
  let configId ← Value.optional Value.asStr (members.get "configId")
  let pushNotificationConfig ←
    Value.optional PushNotificationConfigWire.ofValue
      (members.get "pushNotificationConfig")
  return { taskId, configId, pushNotificationConfig }

namespace Http

variable (json : SerdeJson)

def invalidPushConfig (message : String) : JsonRpcError :=
  { code := Codes.invalidPushNotificationConfig, message, data := none }

def pushConfigNotFound (configId : String) : JsonRpcError :=
  { code := Codes.taskNotFound
    message := "push config not found: " ++ configId
    data := none }

def pushConfigToWire (config : PushNotificationConfig) : Value :=
  let text (member : Option String) : Value :=
    (member.map Value.string).getD .null
  .object
    [("authentication",
        match config.authScheme, config.authCredentials with
        | some scheme, some credentials =>
            AuthenticationInfo.toValue { scheme, credentials }
        | _, _ => .null),
      ("id", .string config.configId),
      ("taskId", .string config.taskId),
      ("tenant", text config.tenant),
      ("token", text config.token),
      ("url", .string config.url)]

/-- `require_push_enabled`, and the parameters of all four requests. -/
def pushParams (pushEnabled : Bool) (params : Value) :
    Except JsonRpcError PushConfigParams :=
  if pushEnabled then
    match PushConfigParams.ofValue params with
    | none =>
        .error (invalidParams ("invalid params: " ++ json.rejection params))
    | some parsed => .ok parsed
  else
    .error
      { code := Codes.pushNotificationsNotSupported
        message := "push notifications disabled by config"
        data := none }

/-- What is inserted, and the answer to it; `newId` is the random id. -/
def pushConfigOf (parsed : PushConfigParams) (newId : String) :
    Except JsonRpcError (PushNotificationConfig × Value) :=
  match parsed.pushNotificationConfig with
  | none => .error (invalidPushConfig "missing pushNotificationConfig")
  | some wire =>
      match wire.taskId.or parsed.taskId with
      | none => .error (invalidPushConfig "missing taskId")
      | some taskId =>
          let configId := wire.id.getD newId
          .ok
            ({ configId
               taskId
               url := wire.url
               token := wire.token
               authScheme := wire.authentication.map AuthenticationInfo.scheme
               authCredentials :=
                wire.authentication.map AuthenticationInfo.credentials
               tenant := wire.tenant },
              { wire with id := some configId, taskId := some taskId }.toValue)

def requireConfigId (parsed : PushConfigParams) :
    Except JsonRpcError String :=
  match parsed.configId with
  | none => .error (invalidParams "missing configId")
  | some configId => .ok configId

def handlePushCreate (parsed : PushConfigParams) (now : Nat) (newId : String)
    (configs : PushConfigs) : Except JsonRpcError Value × PushConfigs :=
  match pushConfigOf parsed newId with
  | .error error => (.error error, configs)
  | .ok (config, out) =>
      match configs.insert config now with
      | .error text =>
          (.error (internalError ("push registry insert: " ++ text)), configs)
      | .ok inserted => (.ok out, inserted)

def handlePushGet (parsed : PushConfigParams) (scan : List String)
    (configs : PushConfigs) : Except JsonRpcError Value :=
  match requireConfigId parsed with
  | .error error => .error error
  | .ok configId =>
      match configs.get scan configId with
      | none => .error (pushConfigNotFound configId)
      | some config => .ok (pushConfigToWire config)

def handlePushList (parsed : PushConfigParams) (configs : PushConfigs) :
    Except JsonRpcError Value :=
  match parsed.taskId with
  | none => .error (invalidParams "missing taskId")
  | some taskId =>
      .ok (.object
        [("configs",
          .array ((configs.listForTask taskId).map pushConfigToWire))])

def handlePushDelete (parsed : PushConfigParams) (configs : PushConfigs) :
    Except JsonRpcError Value × PushConfigs :=
  match requireConfigId parsed with
  | .error error => (.error error, configs)
  | .ok configId =>
      (.ok (.object [("deleted", .bool true)]), configs.delete configId)

end Http

end A2AShim
