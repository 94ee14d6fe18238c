import MazeClient.Client.Transport
import MazeClient.Session.ServerLog

set_option autoImplicit false

namespace MazeClient

-- One gRPC attempt, identified by its place in the list of attempts ever sent.
structure Attempt (S : Service) where
  rpc : S.Rpc
  request : S.Request rpc

structure Answer (S : Service) where
  attempt : Nat
  rpc : S.Rpc
  response : S.Response rpc

inductive Call (S : Service) where
  | idle
  | round (rpc : S.Rpc) (request : S.Request rpc)
  | awaiting (rpc : S.Rpc) (request : S.Request rpc) (tries attempt : Nat)
  | halted

structure Receipt (S : Service) where
  rpc : S.Rpc
  request : S.Request rpc
  response : S.Response rpc

/-- The client session, everything the network may still deliver, and the server session. -/
structure System (S : Service) where
  cursor : LifecycleCursor
  call : Call S := .idle
  applied : List (Receipt S) := []
  attempts : List (Attempt S) := []
  answers : List (Answer S) := []
  log : ServerLog S

inductive Decision (S : Service) (rpc : S.Rpc) where
  | commit (commitment : Commitment S rpc)
  | reject (errorCode : CommandErrorCode) (nonzero : errorCode ≠ .unspecified) (message : String)
  | wait (message : String)

-- The response a handler starts from and what it does if the request may proceed.
structure Handling (S : Service) (rpc : S.Rpc) where
  response : S.Response rpc
  decision : Decision S rpc

inductive Action (S : Service) where
  | command (rpc : S.Rpc) (request : S.Request rpc)
  | setEpisode (episodeId : String)
  | stop
  | expire
  | send
  | fail (code : StatusCode)
  | receive (answer : Nat) (delay : Int) (valid : Bool)
  | deliver (attempt : Nat) (handling : (rpc : S.Rpc) → Handling S rpc)
  | movePhase (phase : SessionPhase)

variable {S : Service}

def handle (log : ServerLog S) {rpc : S.Rpc} (request : S.Request rpc)
    (handling : Handling S rpc) : ServerLog S × S.Response rpc :=
  match checkCommand log.session (S.command request) request handling.response with
  | (.proceed, response) =>
      match handling.decision with
      | .commit commitment =>
          (log.commit request commitment,
            (commitCommand { log.session with phase := commitment.phase } (S.command request)
              request commitment.response commitment.message).2)
      | .reject errorCode _ message =>
          (log, S.withReply response (rejectCommand log.session errorCode message))
      | .wait message =>
          (log, S.withReply response (fillReply log.session log.session.lastCommandSequence
            .wait .unspecified message))
  | (_, response) => (log, response)

def System.sendAttempt (s : System S) (rpc : S.Rpc) (request : S.Request rpc) (tries : Nat) :
    System S :=
  { s with
    attempts := s.attempts ++ [⟨rpc, request⟩]
    call := .awaiting rpc request tries s.attempts.length }

def System.takeReply (s : System S) (rpc : S.Rpc) (request : S.Request rpc)
    (response : S.Response rpc) (delay : Int) (valid : Bool) : System S :=
  if 0 < delay ∧ isCommandWait s.cursor (S.reply response) = true then
    { s with call := .round rpc request }
  else
    match settle s.cursor (delay = 0 && valid) (S.reply response) with
    | (.applied, cursor) =>
        { s with cursor, call := .idle, applied := s.applied ++ [⟨rpc, request, response⟩] }
    | (.unknown, cursor) => { s with cursor, call := .halted }
    | (_, cursor) => { s with cursor, call := .idle }

variable [DecidableEq S.Rpc]

-- An action that is not enabled leaves the system as it is.
def step (s : System S) : Action S → System S
  | .command rpc request =>
      match s.call with
      | .idle => { s with call := .round rpc (S.withCommand request (fillCommand s.cursor)) }
      | _ => s
  | .setEpisode episodeId =>
      match s.call with
      | .idle => { s with cursor := { s.cursor with episodeId } }
      | _ => s
  | .stop | .expire =>
      match s.call with
      | .round _ _ => { s with call := .idle }
      | _ => s
  | .send =>
      match s.call with
      | .round rpc request => s.sendAttempt rpc request 1
      | _ => s
  | .fail code =>
      match s.call with
      | .awaiting rpc request tries _ =>
          if code = .ok then s
          else if givesUp tries code then { s with call := .halted }
          else s.sendAttempt rpc request (tries + 1)
      | _ => s
  | .receive index delay valid =>
      match s.call, s.answers[index]? with
      | .awaiting rpc request _ attempt, some answer =>
          if mine : answer.attempt = attempt ∧ answer.rpc = rpc then
            s.takeReply rpc request (mine.2 ▸ answer.response) delay valid
          else s
      | _, _ => s
  | .deliver index handling =>
      match s.attempts[index]? with
      | some attempt =>
          let handled := handle s.log attempt.request (handling attempt.rpc)
          { s with
            log := handled.1
            answers := s.answers ++ [⟨index, attempt.rpc, handled.2⟩] }
      | none => s
  | .movePhase phase => { s with log.session.phase := phase }

def run (s : System S) (actions : List (Action S)) : System S := actions.foldl step s

def System.opened (sessionId : String) (sessionEpoch : Nat) (phase : SessionPhase) : System S :=
  { cursor := { sessionId, sessionEpoch, phase }
    log := ⟨freshSession sessionId sessionEpoch phase, []⟩ }

end MazeClient
