import A2AShim.Client.CallHandler
import A2AShim.Client.Outbound
import A2AShim.Wire.TaskCodec

/-!
# Requests of the MCP host

What the stdio loop answers by itself, and what it makes of the result of an
`a2a_send` call.
-/

namespace A2AShim

/-- The arguments of the tool; the fold reads the first two. -/
structure ToolArguments extends A2aSendArgs where
  endpoint : String
  taskId : Option String
  timeoutSecs : Option Nat
  metadata : Option Value
  callerId : Option String
  conversationMode : Option String
  deriving DecidableEq, Repr

namespace ToolArguments

def asU64 : Value → Option Nat
  | .number (.int value) =>
      if 0 ≤ value ∧ value < 2 ^ 64 then some value.toNat else none
  | _ => none

def ofValue (value : Value) : Option ToolArguments := do
  let members ←
    value.structMembersFrom 3
      ["endpoint", "conversation_id", "message", "task_id", "timeout_secs",
        "metadata", "caller_id", "conversation_mode"]
  let endpoint ← (← members.get "endpoint").asStr
  let conversationId ← (← members.get "conversation_id").asStr
  let message ← (← members.get "message").asStr
  let taskId ← Value.optional Value.asStr (members.get "task_id")
  let timeoutSecs ← Value.optional asU64 (members.get "timeout_secs")
  let metadata ← Value.optional some (members.get "metadata")
  let callerId ← Value.optional Value.asStr (members.get "caller_id")
  let conversationMode ←
    Value.optional Value.asStr (members.get "conversation_mode")
  return {
    conversationId, message, endpoint, taskId, timeoutSecs, metadata, callerId
    conversationMode }

end ToolArguments

namespace McpServer

open Outbound (object)
open CallHandler (textContent)

/-! ## The tool -/

def property (type description : String) : Value :=
  object [("type", .string type), ("description", .string description)]

def toolDefinition : Value :=
  object
    [("name", .string "a2a_send"),
      ("description", .string
        ("Send a message to a remote A2A agent and stream back its full " ++
          "reply. Each call is bound to a `conversation_id`; reuse the same " ++
          "id across calls to keep state on the remote agent's side " ++
          "(recommended format: \"<host>/<topic>\"). Returns the agent's " ++
          "complete reply as text plus the full A2A Task object via " ++
          "_meta.a2aTask. Use task_id to continue a Task currently waiting " ++
          "on input-required.")),
      ("inputSchema", object
        [("type", .string "object"), ("additionalProperties", .bool false),
          ("required", .array
            [.string "endpoint", .string "conversation_id",
              .string "message"]),
          ("properties", object
            [("endpoint", object
                [("type", .string "string"), ("format", .string "uri"),
                  ("description", .string
                    ("Base URL of the remote A2A endpoint, e.g. " ++
                      "http://127.0.0.1:7001"))]),
              ("conversation_id", property "string"
                ("Opaque conversation identifier (ADR 0004). Reusing the " ++
                  "same id keeps the remote agent's session warm.")),
              ("message", property "string"
                ("The message body to send to the agent. Plain text or " ++
                  "Markdown.")),
              ("task_id", property "string"
                ("Optional. Continuation id for an existing Task currently " ++
                  "in input-required.")),
              ("timeout_secs", object
                [("type", .string "number"), ("minimum", .number (.int 1)),
                  ("description", .string
                    ("Optional per-call timeout in seconds. Defaults to the " ++
                      "Client Shim's --stream-idle-secs."))]),
              ("metadata", object
                [("type", .string "object"),
                  ("description", .string
                    ("Optional. Extra metadata merged into the outbound A2A " ++
                      "Message.metadata.")),
                  ("additionalProperties", .bool true)]),
              ("caller_id", property "string"
                ("Optional caller identity (v1.1 item #4). Forwarded as " ++
                  "metadata['x-a2a-shim/caller_id']. Remote Serve Shim uses " ++
                  "this to partition conversations across callers when " ++
                  "[server.caller_identity].enabled.")),
              ("conversation_mode", object
                [("type", .string "string"),
                  ("enum", .array
                    [.string "new", .string "continue", .string "auto"]),
                  ("default", .string "auto"),
                  ("description", .string
                    ("Optional conversation mode (v1.1 item #5). 'new' " ++
                      "rejects if the conversation_id already exists " ++
                      "(CONVERSATION_EXISTS). 'continue' rejects if it " ++
                      "doesn't (CONVERSATION_LOST). 'auto' (default) " ++
                      "silently reuses or creates."))])])])]

def toolsListResult : Value :=
  object [("tools", .array [toolDefinition])]

def initializeResult : Value :=
  object
    [("protocolVersion", .string "2025-06-18"),
      ("capabilities", object
        [("tools", object [("listChanged", .bool false)])]),
      ("serverInfo", object
        [("name", .string "a2a-shim"), ("version", .string "1.1.0")])]

/-! ## Responses -/

def requestId (request : Value) : Value :=
  (request.get "id").getD .null

def requestMethod (request : Value) : String :=
  ((request.get "method").bind Value.asStr).getD ""

def answer (id : Value) (resultOrError : ResultOrError) : Value :=
  JsonRpcResponse.toValue { jsonrpc := "2.0", id, resultOrError }

/-- `text` is what `from_str` says about the line. -/
def parseErrorResponse (text : String) : Value :=
  answer .null
    (.error
      { code := Codes.parseError
        message := "parse error: " ++ text
        data := none })

def dispatchSync (request : Value) : Value :=
  answer (requestId request)
    (match requestMethod request with
    | "initialize" => .result initializeResult
    | "tools/list" => .result toolsListResult
    | other =>
        .error
          { code := Codes.methodNotFound
            message := "method not found: " ++ other
            data := none })

def requestParams (request : Value) : Value :=
  (request.get "params").getD .null

def toolName (request : Value) : String :=
  (((requestParams request).get "name").bind Value.asStr).getD ""

def toolArguments (request : Value) : Value :=
  ((requestParams request).get "arguments").getD .null

def progressToken (request : Value) : Option Value :=
  ((request.get "params").bind (Value.get "_meta")).bind
    (Value.get "progressToken")

def unknownTool (request : Value) : Value :=
  answer (requestId request)
    (.result (object
      [("isError", .bool true),
        ("content", textContent ("unknown tool: " ++ toolName request))]))

def invalidParamsKey : String :=
  "__a2a_shim_invalid_params"

/-- What a call with invalid arguments returns. -/
def invalidParamsMarker (text : String) : Value :=
  object
    [(invalidParamsKey, .bool true),
      ("message", .string ("invalid a2a_send arguments: " ++ text))]

/-- The response to a call that has returned `result`. -/
def toolResponse (request result : Value) : Value :=
  answer (requestId request)
    (if (result.get invalidParamsKey).bind Value.asBool = some true then
      .error
        { code := Codes.invalidParams
          message :=
            ((result.get "message").bind Value.asStr).getD "invalid params"
          data := none }
    else
      .result result)

/-! ## What a value on the wire answers -/

/-- The id of a response, and whether it is a parse error. -/
def replyKey (value : Value) : Option (Value × Bool) :=
  (value.get "id").map fun id =>
    (id,
      ((value.get "error").bind (Value.get "code")) =
        some (.number (.int Codes.parseError)))

theorem replyKey_result (id result : Value) :
    replyKey (answer id (.result result)) = some (id, false) := by
  simp [replyKey, answer, JsonRpcResponse.toValue]

theorem replyKey_error (id : Value) (error : JsonRpcError) :
    replyKey (answer id (.error error)) =
      some (id, decide (error.code = Codes.parseError)) := by
  simp [replyKey, answer, JsonRpcResponse.toValue, JsonRpcError.toValue]

theorem replyKey_parseErrorResponse (text : String) :
    replyKey (parseErrorResponse text) = some (.null, true) :=
  replyKey_error _ _

theorem replyKey_dispatchSync (request : Value) :
    replyKey (dispatchSync request) = some (requestId request, false) := by
  unfold dispatchSync
  split
  · exact replyKey_result _ _
  · exact replyKey_result _ _
  · exact replyKey_error _ _

theorem replyKey_unknownTool (request : Value) :
    replyKey (unknownTool request) = some (requestId request, false) :=
  replyKey_result _ _

theorem replyKey_toolResponse (request result : Value) :
    replyKey (toolResponse request result) =
      some (requestId request, false) := by
  unfold toolResponse
  split
  · exact replyKey_error _ _
  · exact replyKey_result _ _

end McpServer

end A2AShim
