import Mathlib.Algebra.Order.Ring.Int
import A2AShim.Wire.Task

/-!
# JSON-RPC errors and method parameters
-/

namespace A2AShim

namespace Codes

def parseError : Int := -32700
def invalidParams : Int := -32602
def internalError : Int := -32603
def methodNotFound : Int := -32601
def taskNotFound : Int := -32001
def taskNotCancelable : Int := -32002
def conversationBusy : Int := -32010
def conversationLimitReached : Int := -32011
def conversationExists : Int := -32012
def conversationLost : Int := -32013
def pushNotificationsNotSupported : Int := -32030
def invalidPushNotificationConfig : Int := -32031

end Codes

structure JsonRpcError where
  code : Int
  message : String
  data : Option Value
  deriving DecidableEq, Repr

/-- Parameters of `SendMessage` and `SendStreamingMessage`. -/
structure SendMessageParams where
  id : Option TaskId
  message : Message
  configuration : Option Value
  deriving DecidableEq, Repr

namespace SendMessageParams

def ofValue (value : Value) : Option SendMessageParams := do
  let members ← value.structMembers ["id", "message", "configuration"]
  let id ←
    Value.optional (fun id => id.asStr.map TaskId.mk) (members.get "id")
  let message ← Message.ofValue (← members.get "message")
  let configuration ← Value.optional some (members.get "configuration")
  return { id, message, configuration }

end SendMessageParams

end A2AShim
