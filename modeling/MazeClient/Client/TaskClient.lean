import MazeClient.Client.World

set_option autoImplicit false

namespace MazeClient

open Program

variable {τ : Type}

def bindCursor (cursor : LifecycleCursor) (sessionId : String) (sessionEpoch : Nat)
    (reply : CommandReply) : LifecycleCursor :=
  { updateCursor cursor reply with
    sessionId, sessionEpoch, nextSequence := increment reply.appliedSequence }

def setEpisode (episodeId : String) : Prog (World τ) Unit :=
  Prog.modify fun w => { w with client.cursor.episodeId := episodeId }

-- `std::chrono::milliseconds::max()`, for a wait without a budget.
def noBudget : Int := 9223372036854775807

structure Exchanged (Response : Type) where
  outcome : CommandOutcome
  response : Response
  validated : Option Bool

section Exchange

variable (outside : Outside) (fuel : Nat)

def exchangeRound (rpc : TaskRpc) (request : rpc.Request)
    (validate : rpc.Request → rpc.Response → Bool) (wait : rpc.Response → Int)
    (stopped : Nat → Bool) (budget : Int) (start : Int) (response : rpc.Response) :
    Prog (World τ) (rpc.Response ⊕ Exchanged rpc.Response) := do
  if ← observe stopped then return .inr ⟨.stopped, response, none⟩
  let now ← observe outside.now
  if budget ≠ noBudget && budget * 1000000 ≤ now - start then
    return .inr ⟨.waitExpired, response, none⟩
  match ← invoke outside (.task rpc) request with
  | none => return .inr ⟨.unknown, rpc.cleared, none⟩
  | some response =>
      let delay := wait response
      let w ← Prog.get
      if 0 < delay && isCommandWait w.client.cursor (TaskRpc.reply response) then
        return .inl response
      let validated := if delay = 0 then some (validate request response) else none
      let verdict := settle w.client.cursor (validated = some true) (TaskRpc.reply response)
      Prog.modify fun w => { w with client.cursor := verdict.2 }
      return .inr ⟨verdict.1, response, validated⟩

def sessionExchange (rpc : TaskRpc) (request : rpc.Request) (response : rpc.Response)
    (validate : rpc.Request → rpc.Response → Bool) (wait : rpc.Response → Int)
    (stopped : Nat → Bool) (budget : Int) :
    Prog (World τ) (Exchanged rpc.Response) := do
  let start ← observe outside.now
  Prog.iterate (exchangeRound outside rpc request validate wait stopped budget start) fuel response

def exchangeError (outcome : CommandOutcome) (validated : Option Bool) (reply : CommandReply) :
    String :=
  if validated = some false ∧ commandAccepted reply then
    "task response payload or lifecycle phase is invalid"
  else if outcome = .waitExpired then "command WAIT budget expired"
  else if outcome = .stopped then "command stopped by caller"
  else if outcome = .unknown ∧ commandAccepted reply then
    "command receipt does not match the requested lifecycle sequence"
  else if reply.message = "" then "command was not confirmed"
  else reply.message

namespace TaskClient

def exchange (rpc : TaskRpc) (request : rpc.Request) (response : rpc.Response)
    (validate : rpc.Request → rpc.Response → Bool) (wait : rpc.Response → Int)
    (stopped : Nat → Bool) (budget : Int) :
    Prog (World τ) (CommandOutcome × rpc.Response) := do
  setError ""
  let w ← Prog.get
  let request := TaskRpc.withCommand request (fillCommand w.client.cursor)
  recorded (.task rpc) request do
    let ended ← sessionExchange outside fuel rpc request response validate wait stopped budget
    let w ← Prog.get
    if ended.outcome ≠ .applied ∧ w.client.error = "" then
      setError (exchangeError ended.outcome ended.validated (TaskRpc.reply ended.response))
    pure (ended.outcome, ended.response)

def waitDelay (wait : Option WaitControl) : Int :=
  match wait with
  | none => 0
  | some control => if 0 < control.retryAfterMs then control.retryAfterMs else -1

def active (client : TaskClient) : Bool := client.cursor.phase = .episodeRunning

def complete (client : TaskClient) : Bool := client.cursor.phase = .taskComplete

def canClose (client : TaskClient) : Bool :=
  client.cursor.sessionId ≠ "" &&
    (client.cursor.phase = .opened || client.cursor.phase = .ready ||
      client.cursor.phase = .aborted || client.cursor.phase = .taskComplete)

def openSession (validate : OpenSessionReq → OpenSessionRsp → Bool)
    (response : OpenSessionRsp) : Prog (World τ) (CommandOutcome × OpenSessionRsp) := do
  setError ""
  let w ← Prog.get
  let request : OpenSessionReq :=
    { client := some w.client.options.identity
      environmentInstanceId := w.client.options.environmentInstanceId
      requestId := w.client.options.openRequestId }
  recorded .openSession request do
    match ← invoke outside .openSession request with
    | none => return (.unknown, response)
    | some response =>
        if !commandAccepted response.reply then
          setError response.reply.message
          return (.rejected, response)
        if response.reply.appliedSequence ≠ 0 ∨ response.reply.phase ≠ .opened ∨
            response.sessionId = "" ∨ response.sessionEpoch = 0 ∨
            response.aiserver.component = "" ∨ response.aiserver.instanceId = "" ∨
            response.aiserver.lifecycleEpoch = 0 ∨ ¬ validate request response then
          setError "OpenSession identity or task assignment is invalid"
          return (.unknown, response)
        Prog.modify fun w =>
          { w with client.cursor :=
              bindCursor w.client.cursor response.sessionId response.sessionEpoch response.reply }
        return (.applied, response)

def never (_ : Nat) : Bool := false

def init (request : InitReq) (validate : InitReq → InitRsp → Bool) :
    Prog (World τ) (CommandOutcome × InitRsp) :=
  exchange outside fuel .init request {}
    (fun req rsp => rsp.reply.phase = .ready && validate req rsp) (fun _ => 0) never noBudget

def beginEpisode (validate : BeginEpisodeReq → BeginEpisodeRsp → Bool) (stopped : Nat → Bool) :
    Prog (World τ) (CommandOutcome × BeginEpisodeRsp) := do
  let ended ← exchange outside fuel .beginEpisode {} {}
    (fun req rsp =>
      let assigned := rsp.reply.phase = .episodeRunning && rsp.hasAssignment &&
        rsp.assignment.episodeId ≠ ""
      let complete := rsp.reply.phase = .taskComplete && rsp.hasTaskComplete
      (assigned || complete) && validate req rsp)
    (fun rsp => if rsp.reply.result = .wait then 100 else 0) stopped noBudget
  let w ← Prog.get
  if ended.1 = .applied ∧ w.client.active then setEpisode ended.2.assignment.episodeId
  pure ended

def update (request : UpdateReq) (response : UpdateRsp)
    (validate : UpdateReq → UpdateRsp → Bool) (stopped : Nat → Bool) :
    Prog (World τ) (CommandOutcome × UpdateRsp) :=
  exchange outside fuel .update request response
    (fun req rsp =>
      (rsp.reply.phase = .episodeRunning || rsp.reply.phase = .episodeTerminal) &&
        validate req rsp)
    (fun rsp => waitDelay rsp.wait) stopped noBudget

def endEpisode (validate : EndEpisodeReq → EndEpisodeRsp → Bool) :
    Prog (World τ) (CommandOutcome × EndEpisodeRsp) := do
  let ended ← exchange outside fuel .endEpisode {} {}
    (fun req rsp => rsp.reply.phase = .ready && validate req rsp) (fun _ => 0) never noBudget
  if ended.1 = .applied then setEpisode ""
  pure ended

def preserveFailure (original cleanup : String) (outcome : CommandOutcome) :
    Prog (World τ) Unit := do
  let w ← Prog.get
  if original ≠ "" then
    setError (original ++
      if outcome = .applied then "" else "; " ++ cleanup ++ " cleanup failed: " ++ w.client.error)

def abortEpisode (request : AbortEpisodeReq) :
    Prog (World τ) (CommandOutcome × AbortEpisodeRsp) := do
  let w ← Prog.get
  let ended ← exchange outside fuel .abortEpisode request {}
    (fun _ rsp => rsp.reply.phase = .aborted) (fun rsp => waitDelay rsp.wait) never
    w.client.options.abortWaitBudget
  if ended.1 = .applied then setEpisode ""
  preserveFailure w.client.error "AbortEpisode" ended.1
  pure ended

def closeSession : Prog (World τ) (CommandOutcome × CloseSessionRsp) := do
  let w ← Prog.get
  let ended ← exchange outside fuel .closeSession {} {}
    (fun _ rsp => rsp.reply.phase = .closed) (fun _ => 0) never noBudget
  preserveFailure w.client.error "CloseSession" ended.1
  pure ended

end TaskClient

end Exchange

end MazeClient
