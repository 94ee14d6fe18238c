import MazeClient.Client.Transport
import MazeClient.Protocol.TaskRpc
import MazeClient.Shared.Program

set_option autoImplicit false

namespace MazeClient

open Program

structure Transport where
  connected : Bool := false
  outcomeUnknown : Bool := false
  error : String := ""

structure ClientOptions where
  identity : ServiceInstanceIdentity := {}
  environmentInstanceId : String := ""
  openRequestId : String := ""
  abortWaitBudget : Int := 30000

structure TaskClient where
  options : ClientOptions := {}
  transport : Transport := {}
  cursor : LifecycleCursor := {}
  error : String := ""

-- What a run meets outside the client: the fate of each attempt, the stop flag and the
-- steady clock in nanoseconds, all free to change with every observation.
structure Outside where
  attempt : Nat → (rpc : SessionRpc) → rpc.Request → Status × rpc.Response
  stopped : Nat → Bool
  now : Nat → Int

def SessionRpc.cleared : (rpc : SessionRpc) → rpc.Response
  | .openSession => {}
  | .task rpc => rpc.cleared

structure Sent where
  rpc : SessionRpc
  request : rpc.Request

-- One command in the record of a run, its retries included: the states it was issued in, how
-- often it was attempted, and its own error text. A command the run never left has no outcome.
structure Issue (τ : Type) (rpc : SessionRpc) where
  request : rpc.Request
  response : rpc.Response
  cursor : LifecycleCursor
  task : τ
  outcome : Option CommandOutcome := none
  sends : Nat := 0
  error : String := ""

structure Command (τ : Type) where
  rpc : SessionRpc
  issue : Issue τ rpc

def Command.attempts {τ : Type} (command : Command τ) : List Sent :=
  List.replicate command.issue.sends ⟨command.rpc, command.issue.request⟩

-- `sent` logs every attempt as it is made, `commands` what they belong to; newest first.
structure World (τ : Type) where
  client : TaskClient
  task : τ
  tick : Nat := 0
  commands : List (Command τ) := []
  sent : List Sent := []

variable {τ : Type}

def World.start (options : ClientOptions) (connected : Bool) (task : τ) : World τ :=
  { client := { options, transport := { connected } }, task }

def Command.resent (count : Nat) (command : Command τ) : Command τ :=
  { command with issue.sends := command.issue.sends + count }

def resendHead (count : Nat) : List (Command τ) → List (Command τ)
  | [] => []
  | command :: earlier => command.resent count :: earlier

@[simp] theorem resendHead_zero (commands : List (Command τ)) :
    resendHead 0 commands = commands := by
  cases commands <;> rfl

@[simp] theorem resendHead_resendHead (m n : Nat) (commands : List (Command τ)) :
    resendHead m (resendHead n commands) = resendHead (n + m) commands := by
  cases commands <;> simp [resendHead, Command.resent, Nat.add_assoc]

def observe {α : Type} (reading : Nat → α) : Prog (World τ) α := do
  let w ← Prog.get
  Prog.modify fun w => { w with tick := w.tick + 1 }
  pure (reading w.tick)

def send (outside : Outside) (rpc : SessionRpc) (request : rpc.Request) :
    Prog (World τ) (Status × rpc.Response) := do
  Prog.modify fun w =>
    { w with commands := resendHead 1 w.commands, sent := ⟨rpc, request⟩ :: w.sent }
  observe fun tick => outside.attempt tick rpc request

def setTransport (outcomeUnknown : Bool) (error : String) : Prog (World τ) Unit :=
  Prog.modify fun w =>
    { w with
      client.transport.outcomeUnknown := outcomeUnknown
      client.transport.error := error }

def setError (error : String) : Prog (World τ) Unit :=
  Prog.modify fun w => { w with client.error := error }

def invokeFrom (outside : Outside) (rpc : SessionRpc) (request : rpc.Request) :
    Nat → Nat → Prog (World τ) (Option rpc.Response)
  | _, 0 => pure none
  | attempt, remaining + 1 => do
      let answer ← send outside rpc request
      if answer.1.code = .ok then
        setTransport false ""
        pure (some answer.2)
      else
        setTransport true
          ("gRPC status " ++ toString answer.1.code.number ++ ": " ++ answer.1.message)
        if givesUp attempt answer.1.code then pure none
        else invokeFrom outside rpc request (attempt + 1) remaining

def invokeUnary (outside : Outside) (rpc : SessionRpc) (request : rpc.Request) :
    Prog (World τ) (Option rpc.Response) := do
  setTransport false ""
  let w ← Prog.get
  if !w.client.transport.connected then
    setTransport false "transport is not connected"
    pure none
  else invokeFrom outside rpc request 1 2

def invoke (outside : Outside) (rpc : SessionRpc) (request : rpc.Request) :
    Prog (World τ) (Option rpc.Response) := do
  let response ← invokeUnary outside rpc request
  if response.isNone then
    let w ← Prog.get
    setError w.client.transport.error
  pure response

def recorded (rpc : SessionRpc) (request : rpc.Request)
    (command : Prog (World τ) (CommandOutcome × rpc.Response)) :
    Prog (World τ) (CommandOutcome × rpc.Response) := do
  Prog.modify fun w =>
    { w with commands :=
        ⟨rpc, { request, response := rpc.cleared, cursor := w.client.cursor, task := w.task }⟩ ::
          w.commands }
  let ended ← command
  Prog.modify fun w =>
    { w with commands :=
        match w.commands with
        | [] => []
        | opened :: earlier =>
            ⟨rpc,
              { request
                response := ended.2
                cursor := opened.issue.cursor
                task := opened.issue.task
                outcome := some ended.1
                sends := opened.issue.sends
                error := w.client.error }⟩ :: earlier }
  pure ended

structure Underway (attempt : Sent) (count : Nat) (w w' : World τ) : Prop where
  cursor : w'.client.cursor = w.client.cursor
  options : w'.client.options = w.client.options
  connected : w'.client.transport.connected = w.client.transport.connected
  task : w'.task = w.task
  resent : w'.commands = resendHead count w.commands
  sent : w'.sent = List.replicate count attempt ++ w.sent

theorem Underway.refl (attempt : Sent) (w : World τ) : Underway attempt 0 w w :=
  ⟨rfl, rfl, rfl, rfl, (resendHead_zero _).symm, rfl⟩

theorem Underway.trans {attempt : Sent} {m n : Nat} {w w' w'' : World τ}
    (first : Underway attempt m w w') (second : Underway attempt n w' w'') :
    Underway attempt (m + n) w w'' where
  cursor := second.cursor.trans first.cursor
  options := second.options.trans first.options
  connected := second.connected.trans first.connected
  task := second.task.trans first.task
  resent := by rw [second.resent, first.resent, resendHead_resendHead]
  sent := by
    rw [second.sent, first.sent, ← List.append_assoc, ← List.replicate_add, Nat.add_comm n]

@[simp] theorem wp_observe {α : Type} (reading : Nat → α) (post : Option α → World τ → Prop)
    (w : World τ) : (observe reading).wp post w =
      post (some (reading w.tick)) { w with tick := w.tick + 1 } := rfl

@[simp] theorem wp_setTransport (outcomeUnknown : Bool) (error : String)
    (post : Option Unit → World τ → Prop) (w : World τ) :
    (setTransport outcomeUnknown error).wp post w =
      post (some ()) { w with
        client.transport.outcomeUnknown := outcomeUnknown
        client.transport.error := error } := rfl

@[simp] theorem wp_setError (error : String) (post : Option Unit → World τ → Prop)
    (w : World τ) :
    (setError error).wp post w = post (some ()) { w with client.error := error } := rfl

theorem Underway.rewrite {attempt : Sent} {count : Nat} {w w' : World τ}
    (underway : Underway attempt count w w') (outcomeUnknown : Bool) (error : String) :
    Underway attempt count w { w' with
      client.transport.outcomeUnknown := outcomeUnknown
      client.transport.error := error } :=
  ⟨underway.cursor, underway.options, underway.connected, underway.task, underway.resent,
    underway.sent⟩

theorem send_underway (outside : Outside) (rpc : SessionRpc) (request : rpc.Request)
    (w : World τ) : (send outside rpc request).wp
      (fun result w' => ∃ answer, result = some answer ∧ Underway ⟨rpc, request⟩ 1 w w') w :=
  ⟨_, rfl, rfl, rfl, rfl, rfl, rfl, rfl⟩

theorem invokeFrom_underway (outside : Outside) (rpc : SessionRpc) (request : rpc.Request)
    (attempt remaining : Nat) (w : World τ) :
    (invokeFrom outside rpc request attempt remaining).wp
      (fun result w' => ∃ response count, result = some response ∧
        Underway ⟨rpc, request⟩ count w w' ∧ (response.isSome → 0 < count)) w := by
  induction remaining generalizing attempt w with
  | zero =>
      rw [invokeFrom, Prog.wp_pure]
      exact ⟨none, 0, rfl, .refl _ w, by simp⟩
  | succ remaining ih =>
      rw [invokeFrom, Prog.wp_bind]
      apply Prog.wp_mono (send_underway outside rpc request w)
      rintro _ sent ⟨answer, rfl, first⟩
      rw [Prog.andThen_some]
      split
      · exact ⟨_, 1, rfl, first.rewrite _ _, by simp⟩
      · rw [Prog.wp_bind, wp_setTransport, Prog.andThen_some]
        split
        · exact ⟨none, 1, rfl, first.rewrite _ _, by simp⟩
        · apply Prog.wp_mono (ih (attempt + 1) _)
          rintro result w' ⟨response, count, returned, later, -⟩
          exact ⟨response, 1 + count, returned, (first.rewrite _ _).trans later, by omega⟩

theorem invoke_underway (outside : Outside) (rpc : SessionRpc) (request : rpc.Request)
    (w : World τ) :
    (invoke outside rpc request).wp
      (fun result w' => ∃ response count, result = some response ∧
        Underway ⟨rpc, request⟩ count w w' ∧ (response.isSome → 0 < count)) w := by
  have started := (Underway.refl ⟨rpc, request⟩ w).rewrite false ""
  have ended {response : Option rpc.Response} {count : Nat} {w' : World τ}
      (underway : Underway ⟨rpc, request⟩ count w w') (sent : response.isSome → 0 < count) :
      (do
        if response.isNone then
          let w ← Prog.get
          setError w.client.transport.error
        pure response : Prog (World τ) (Option rpc.Response)).wp
        (fun result w' => ∃ response count, result = some response ∧
          Underway ⟨rpc, request⟩ count w w' ∧ (response.isSome → 0 < count)) w' := by
    cases response with
    | none => exact ⟨none, count, rfl, ⟨underway.cursor, underway.options, underway.connected,
        underway.task, underway.resent, underway.sent⟩, sent⟩
    | some response => exact ⟨some response, count, rfl, underway, sent⟩
  rw [invoke, invokeUnary]
  simp only [Prog.wp_bind, wp_setTransport, Prog.andThen_some, Prog.wp_get]
  split
  · simp only [Prog.wp_bind, wp_setTransport, Prog.andThen_some, Prog.wp_pure]
    exact ended (started.rewrite _ _) (by simp)
  · apply Prog.wp_mono (invokeFrom_underway outside rpc request 1 2 _)
    rintro _ w' ⟨response, count, rfl, underway, sent⟩
    exact ended (by simpa using started.trans underway) sent

end MazeClient
