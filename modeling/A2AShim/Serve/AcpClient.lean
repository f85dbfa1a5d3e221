import Mathlib.Data.List.Basic
import Mathlib.Logic.Function.Basic
import A2AShim.Lib.Machine
import A2AShim.Serve.Translate

/-!
# The ACP client and its driver

`AcpClient` handles put `Command`s on a queue; one driver task takes them off
and talks to the agent.  Prompt streams are channels with several senders:
the route table, the queued command, the driver and the notification callback
each may hold one.

The machine below has one action for each step that other tasks can come
between.  What the protocol crate decides (which answer arrives, when a
notification arrives, when the connection ends) is left to the actions.  Two
facts about that crate are built in: the callback handles one notification at
a time, and a response resolves only after the callback has finished with the
notifications before it on the wire.
-/

namespace A2AShim

abbrev SessionId := String

inductive StopReason where
  | endTurn
  | maxTokens
  | maxTurnRequests
  | refusal
  | cancelled
  | other
  deriving DecidableEq, Repr

/-- Session updates; the bridge looks at message chunks only. -/
inductive SessionUpdate where
  | agentMessageChunk (content : ContentBlock)
  | other
  deriving DecidableEq, Repr

inductive BridgeEvent where
  | update (update : SessionUpdate)
  | terminal (reason : StopReason)
  deriving DecidableEq, Repr

inductive AcpError where
  | spawn (text : String)
  | transport (text : String)
  | agent (text : String)
  | driverGone
  deriving DecidableEq, Repr

def AcpError.text : AcpError → String
  | .spawn text => "spawn or connect failed: " ++ text
  | .transport text => "transport: " ++ text
  | .agent text => "agent error: " ++ text
  | .driverGone => "driver task gone"

/-- An item of a prompt stream. -/
abbrev StreamItem := Except AcpError BridgeEvent

/-- The items after which nothing more may come. -/
def endsStream : StreamItem → Bool
  | .ok (.update _) => false
  | _ => true

/-- Names the channel of one `session_prompt_blocks` call. -/
abbrev PromptId := Nat

/-- Names the oneshot channel of one other call. -/
abbrev CallId := Nat

inductive Command where
  | initializeAgent (respond : CallId)
  | sessionNew (cwd : String) (respond : CallId)
  | prompt (session : SessionId) (content : List ContentBlock)
      (sink : PromptId)
  | loadSession (session : SessionId) (cwd : String) (respond : CallId)
  | resumeSession (session : SessionId) (cwd : String) (respond : CallId)
  | cancel (session : SessionId) (respond : CallId)
  deriving DecidableEq, Repr

namespace Command

def isPrompt : Command → Bool
  | .prompt _ _ _ => true
  | _ => false

/-- The channel a prompt command carries a sender of. -/
def sink? : Command → Option PromptId
  | .prompt _ _ sink => some sink
  | _ => none

/-- The session a command is for, if it is for one. -/
def session? : Command → Option SessionId
  | .prompt session _ _ => some session
  | .loadSession session _ _ => some session
  | .resumeSession session _ _ => some session
  | .cancel session _ => some session
  | .initializeAgent _ | .sessionNew _ _ => none

end Command

/-- What a response of the agent carries. -/
inductive Answer where
  | initialized
  | session (id : SessionId)
  | stopped (reason : StopReason)
  | done
  | failed (text : String)
  deriving DecidableEq, Repr

/-- Responses have the type of their request, or are errors. -/
def Command.accepts : Command → Answer → Bool
  | .initializeAgent _, .initialized => true
  | .sessionNew _ _, .session _ => true
  | .prompt _ _ _, .stopped _ => true
  | .loadSession _ _ _, .done => true
  | .resumeSession _ _ _, .done => true
  | .cancel _ _, _ => false
  | _, .failed _ => true
  | _, _ => false

/-- The stream item the driver makes of the response to a prompt. -/
def Answer.item : Answer → StreamItem
  | .stopped reason => .ok (.terminal reason)
  | .failed text => .error (.agent text)
  | _ => .error (.agent "")

/-- Where the driver task stands in `drive`. -/
inductive Driver where
  | receiving
  | awaiting (command : Command)
  | resolved (session : SessionId) (sink : PromptId) (item : StreamItem)
  | clearing (session : SessionId) (sink : PromptId)
  | gone
  deriving DecidableEq, Repr

/-- A `session_prompt_blocks` call before it sends its command, and its two
ways to return. -/
inductive CallStatus where
  | registered
  | returned
  | failed
  deriving DecidableEq, Repr

/-- One prompt's channel: all items sent on it, and how many were taken. -/
structure PromptStream where
  session : SessionId
  content : List ContentBlock
  status : CallStatus
  items : List StreamItem
  taken : Nat
  deriving DecidableEq, Repr

/-- The items the holder of the stream has got. -/
def PromptStream.yielded (stream : PromptStream) : List StreamItem :=
  stream.items.take stream.taken

/-- `callback` holds the sender a notification was looked up for, until the
update is sent on it.  `sent` records the requests that went to the agent. -/
structure AcpClient where
  routes : SessionId → Option PromptId
  streams : PromptId → Option PromptStream
  queue : List Command
  driver : Driver
  callback : Option (PromptId × SessionUpdate)
  sent : List Command
  replies : CallId → Option Answer

namespace AcpClient

/-- The client `spawn` returns. -/
def spawned : AcpClient :=
  { routes := fun _ => none
    streams := fun _ => none
    queue := []
    driver := .receiving
    callback := none
    sent := []
    replies := fun _ => none }

def putRoute (client : AcpClient) (session : SessionId)
    (route : Option PromptId) : AcpClient :=
  { client with routes := Function.update client.routes session route }

def putStream (client : AcpClient) (sink : PromptId) (stream : PromptStream) :
    AcpClient :=
  { client with streams := Function.update client.streams sink (some stream) }

/-- Send on a channel.  The receiver may be gone; then nobody reads the item. -/
def send (client : AcpClient) (sink : PromptId) (item : StreamItem) :
    AcpClient :=
  match client.streams sink with
  | none => client
  | some stream =>
      client.putStream sink { stream with items := stream.items ++ [item] }

/-- First half of `session_prompt_blocks`: make the channel, insert the
route. -/
def registerRoute (client : AcpClient) (sink : PromptId)
    (session : SessionId) (content : List ContentBlock) : Option AcpClient :=
  match client.streams sink with
  | some _ => none
  | none =>
      some ((client.putStream sink
        { session, content, status := .registered, items := [], taken := 0 }
        ).putRoute session (some sink))

/-- Second half: send the command, or take the route out again when the
driver's end of the queue is gone. -/
def sendPrompt (client : AcpClient) (sink : PromptId) : Option AcpClient :=
  match client.streams sink with
  | none => none
  | some stream =>
      if stream.status ≠ .registered then
        none
      else if client.driver = .gone then
        some ((client.putRoute stream.session none).putStream sink
          { stream with status := .failed })
      else
        some { client.putStream sink { stream with status := .returned } with
          queue :=
            client.queue ++ [.prompt stream.session stream.content sink] }

/-- The other methods: send the command, if the driver still receives. -/
def submit (client : AcpClient) (command : Command) : Option AcpClient :=
  if command.isPrompt then
    none
  else if client.driver = .gone then
    some client
  else
    some { client with queue := client.queue ++ [command] }

/-- The driver takes the next command and sends its request.  A cancel is a
notification: it is answered at once. -/
def receive (client : AcpClient) : Option AcpClient :=
  match client.driver, client.queue with
  | .receiving, .cancel session respond :: rest =>
      some { client with
        queue := rest
        sent := client.sent ++ [.cancel session respond]
        replies := Function.update client.replies respond (some .done) }
  | .receiving, command :: rest =>
      some { client with
        queue := rest
        sent := client.sent ++ [command]
        driver := .awaiting command }
  | _, _ => none

def reply (client : AcpClient) (respond : CallId) (answer : Answer) :
    AcpClient :=
  { client with
    replies := Function.update client.replies respond (some answer)
    driver := .receiving }

/-- The request the driver awaits resolves with `answer`. -/
def answered (client : AcpClient) (answer : Answer) : Option AcpClient :=
  match client.driver with
  | .awaiting command =>
      if command.accepts answer = true ∧ client.callback = none then
        match command with
        | .prompt session _ sink =>
            some { client with
              driver := .resolved session sink answer.item }
        | .initializeAgent respond => some (client.reply respond answer)
        | .sessionNew _ respond => some (client.reply respond answer)
        | .loadSession _ _ respond => some (client.reply respond answer)
        | .resumeSession _ _ respond => some (client.reply respond answer)
        | .cancel _ _ => none
      else
        none
  | _ => none

/-- The driver sends the terminal item on its own sender. -/
def sendTerminal (client : AcpClient) : Option AcpClient :=
  match client.driver with
  | .resolved session sink item =>
      some { client.send sink item with driver := .clearing session sink }
  | _ => none

/-- The driver removes the session's route, whichever prompt it leads to. -/
def clearRoute (client : AcpClient) : Option AcpClient :=
  match client.driver with
  | .clearing session _ =>
      some { client.putRoute session none with driver := .receiving }
  | _ => none

/-- First half of the notification callback: look the sender up. -/
def notified (client : AcpClient) (session : SessionId)
    (update : SessionUpdate) : Option AcpClient :=
  if client.driver = .gone ∨ client.callback ≠ none then
    none
  else
    some { client with
      callback := (client.routes session).map fun sink => (sink, update) }

/-- Second half: send the update on the sender found. -/
def deliver (client : AcpClient) : Option AcpClient :=
  match client.callback with
  | none => none
  | some (sink, update) =>
      some { client.send sink (.ok (.update update)) with callback := none }

/-- The holder of a returned stream takes its next item. -/
def take (client : AcpClient) (sink : PromptId) : Option AcpClient :=
  match client.streams sink with
  | none => none
  | some stream =>
      if stream.status = .returned ∧ stream.taken < stream.items.length then
        some (client.putStream sink { stream with taken := stream.taken + 1 })
      else
        none

/-- `drive` ends, or is dropped with its connection: the queued commands and
the callback go with it. -/
def stop (client : AcpClient) : Option AcpClient :=
  if client.driver = .gone then
    none
  else
    some { client with driver := .gone, queue := [], callback := none }

inductive Action where
  | registerRoute (sink : PromptId) (session : SessionId)
      (content : List ContentBlock)
  | sendPrompt (sink : PromptId)
  | submit (command : Command)
  | receive
  | answer (answer : Answer)
  | sendTerminal
  | clearRoute
  | notify (session : SessionId) (update : SessionUpdate)
  | deliver
  | take (sink : PromptId)
  | stop
  deriving DecidableEq, Repr

def step : Action → AcpClient → Option AcpClient
  | .registerRoute sink session content, client =>
      client.registerRoute sink session content
  | .sendPrompt sink, client => client.sendPrompt sink
  | .submit command, client => client.submit command
  | .receive, client => client.receive
  | .answer answer, client => client.answered answer
  | .sendTerminal, client => client.sendTerminal
  | .clearRoute, client => client.clearRoute
  | .notify session update, client => client.notified session update
  | .deliver, client => client.deliver
  | .take sink, client => client.take sink
  | .stop, client => client.stop

/-! ## What each step can do -/

variable {client target : AcpClient}

theorem registerRoute_some
    {sink : PromptId} {session : SessionId} {content : List ContentBlock}
    (taken : client.registerRoute sink session content = some target) :
    client.streams sink = none ∧
      target =
        (client.putStream sink
          { session, content, status := .registered, items := [], taken := 0 }
          ).putRoute session (some sink) := by
  unfold registerRoute at taken
  cases found : client.streams sink with
  | some stream => simp [found] at taken
  | none =>
      rw [found] at taken
      exact ⟨rfl, (Option.some.inj taken).symm⟩

/-- `sendPrompt` either queues the command, or takes back the route. -/
theorem sendPrompt_some
    {sink : PromptId} (taken : client.sendPrompt sink = some target) :
    ∃ stream,
      client.streams sink = some stream ∧ stream.status = .registered ∧
        ((client.driver = .gone ∧
            target =
              (client.putRoute stream.session none).putStream sink
                { stream with status := .failed }) ∨
          (client.driver ≠ .gone ∧
            target =
              { client.putStream sink { stream with status := .returned } with
                queue :=
                  client.queue ++
                    [.prompt stream.session stream.content sink] })) := by
  unfold sendPrompt at taken
  cases found : client.streams sink with
  | none => simp [found] at taken
  | some stream =>
      rw [found] at taken
      refine ⟨stream, rfl, ?_⟩
      by_cases inCall : stream.status = .registered
      · refine ⟨inCall, ?_⟩
        by_cases ended : client.driver = .gone
        · simp only [inCall, ended, ne_eq, not_true_eq_false, if_false,
            if_true, Option.some.injEq] at taken
          exact .inl ⟨ended, taken.symm⟩
        · simp only [inCall, ended, ne_eq, not_true_eq_false, if_false,
            Option.some.injEq] at taken
          exact .inr ⟨ended, taken.symm⟩
      · simp [inCall] at taken

theorem submit_some
    {command : Command} (taken : client.submit command = some target) :
    command.isPrompt = false ∧
      ((client.driver = .gone ∧ target = client) ∨
        (client.driver ≠ .gone ∧
          target = { client with queue := client.queue ++ [command] })) := by
  unfold submit at taken
  by_cases forPrompt : command.isPrompt = true
  · simp [forPrompt] at taken
  · refine ⟨by simpa using forPrompt, ?_⟩
    by_cases ended : client.driver = .gone
    · simp only [forPrompt, ended, if_false, if_true, Option.some.injEq,
        Bool.false_eq_true] at taken
      exact .inl ⟨ended, taken.symm⟩
    · simp only [forPrompt, ended, if_false, Option.some.injEq,
        Bool.false_eq_true] at taken
      exact .inr ⟨ended, taken.symm⟩

/-- Taking a command leaves everything but the driver's own business alone. -/
theorem receive_some
    (taken : client.receive = some target) :
    ∃ command rest,
      client.driver = .receiving ∧ client.queue = command :: rest ∧
        ((∃ session respond,
            command = .cancel session respond ∧
              target =
                { client with
                  queue := rest
                  sent := client.sent ++ [command]
                  replies :=
                    Function.update client.replies respond (some .done) }) ∨
          ((∀ session respond, command ≠ .cancel session respond) ∧
            target =
              { client with
                queue := rest
                sent := client.sent ++ [command]
                driver := .awaiting command })) := by
  unfold receive at taken
  split at taken
  · rename_i session respond rest atReceive queued
    exact ⟨_, rest, atReceive, queued,
      .inl ⟨session, respond, rfl, (Option.some.inj taken).symm⟩⟩
  · rename_i command rest notCancel atReceive queued
    exact ⟨command, rest, atReceive, queued,
      .inr ⟨notCancel, (Option.some.inj taken).symm⟩⟩
  · cases taken

theorem answered_some
    {answer : Answer} (taken : client.answered answer = some target) :
    client.callback = none ∧
      ∃ command,
        client.driver = .awaiting command ∧ command.accepts answer = true ∧
          ((∃ session content sink,
              command = .prompt session content sink ∧
                target =
                  { client with
                    driver := .resolved session sink answer.item }) ∨
            (command.isPrompt = false ∧
              ∃ respond, target = client.reply respond answer)) := by
  unfold answered at taken
  split at taken
  · rename_i command atAwait
    by_cases proper : command.accepts answer = true ∧ client.callback = none
    · rw [if_pos proper] at taken
      refine ⟨proper.2, command, atAwait, proper.1, ?_⟩
      cases command with
      | prompt session content sink =>
          exact .inl ⟨session, content, sink, rfl, (Option.some.inj taken).symm⟩
      | initializeAgent respond =>
          exact .inr ⟨rfl, respond, (Option.some.inj taken).symm⟩
      | sessionNew cwd respond =>
          exact .inr ⟨rfl, respond, (Option.some.inj taken).symm⟩
      | loadSession session cwd respond =>
          exact .inr ⟨rfl, respond, (Option.some.inj taken).symm⟩
      | resumeSession session cwd respond =>
          exact .inr ⟨rfl, respond, (Option.some.inj taken).symm⟩
      | cancel session respond => cases taken
    · rw [if_neg proper] at taken
      cases taken
  · cases taken

theorem sendTerminal_some
    (taken : client.sendTerminal = some target) :
    ∃ session sink item,
      client.driver = .resolved session sink item ∧
        target =
          { client.send sink item with driver := .clearing session sink } := by
  unfold sendTerminal at taken
  split at taken
  · rename_i session sink item atResolved
    exact ⟨session, sink, item, atResolved, (Option.some.inj taken).symm⟩
  · cases taken

theorem clearRoute_some
    (taken : client.clearRoute = some target) :
    ∃ session sink,
      client.driver = .clearing session sink ∧
        target =
          { client.putRoute session none with driver := .receiving } := by
  unfold clearRoute at taken
  split at taken
  · rename_i session sink atClearing
    exact ⟨session, sink, atClearing, (Option.some.inj taken).symm⟩
  · cases taken

theorem notified_some
    {session : SessionId} {update : SessionUpdate}
    (taken : client.notified session update = some target) :
    client.driver ≠ .gone ∧ client.callback = none ∧
      target =
        { client with
          callback :=
            (client.routes session).map fun sink => (sink, update) } := by
  unfold notified at taken
  by_cases unable : client.driver = .gone ∨ client.callback ≠ none
  · rw [if_pos unable] at taken
    cases taken
  · rw [if_neg unable] at taken
    obtain ⟨alive, idle⟩ := not_or.mp unable
    exact ⟨alive, not_not.mp idle, (Option.some.inj taken).symm⟩

theorem deliver_some
    (taken : client.deliver = some target) :
    ∃ sink update,
      client.callback = some (sink, update) ∧
        target =
          { client.send sink (.ok (.update update)) with
            callback := none } := by
  unfold deliver at taken
  split at taken
  · cases taken
  · rename_i sink update held
    exact ⟨sink, update, held, (Option.some.inj taken).symm⟩

theorem take_some
    {sink : PromptId} (taken : client.take sink = some target) :
    ∃ stream,
      client.streams sink = some stream ∧ stream.status = .returned ∧
        stream.taken < stream.items.length ∧
          target =
            client.putStream sink { stream with taken := stream.taken + 1 } := by
  unfold take at taken
  cases found : client.streams sink with
  | none => simp [found] at taken
  | some stream =>
      rw [found] at taken
      by_cases ready :
          stream.status = .returned ∧ stream.taken < stream.items.length
      · exact ⟨stream, rfl, ready.1, ready.2,
          (Option.some.inj ((if_pos ready).symm.trans taken)).symm⟩
      · exact absurd ((if_neg ready).symm.trans taken) (by simp)

theorem stop_some
    (taken : client.stop = some target) :
    client.driver ≠ .gone ∧
      target =
        { client with driver := .gone, queue := [], callback := none } := by
  unfold stop at taken
  by_cases ended : client.driver = .gone
  · rw [if_pos ended] at taken
    cases taken
  · rw [if_neg ended] at taken
    exact ⟨ended, (Option.some.inj taken).symm⟩

end AcpClient

end A2AShim
