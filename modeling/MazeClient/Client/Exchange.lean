import MazeClient.Client.TaskClient

set_option autoImplicit false

namespace MazeClient

open Program

variable {τ : Type} {outside : Outside} {fuel : Nat}

structure Ended (rpc : TaskRpc) (request : rpc.Request)
    (validate : rpc.Request → rpc.Response → Bool) (wait : rpc.Response → Int)
    (stopped : Nat → Bool) (budget : Int) (w : World τ) (ended : Exchanged rpc.Response)
    (w' : World τ) : Prop where
  progress : ∃ count before, Underway ⟨.task rpc, request⟩ count w before ∧
    w' = { before with client.cursor := w'.client.cursor } ∧
    (ended.outcome = .applied → 0 < count)
  applied : ended.outcome = .applied →
    wait ended.response = 0 ∧ validate request ended.response = true ∧
    commandAccepted (TaskRpc.reply ended.response) = true ∧
    (TaskRpc.reply ended.response).appliedSequence = w.client.cursor.nextSequence ∧
    hasConcretePhase (TaskRpc.reply ended.response) = true ∧
    w'.client.cursor = { w.client.cursor with
      phase := (TaskRpc.reply ended.response).phase
      nextSequence := increment w.client.cursor.nextSequence }
  kept : ended.outcome ≠ .applied → w'.client.cursor = w.client.cursor
  rejected : ended.outcome = .rejected →
    isConclusiveRejected w.client.cursor (TaskRpc.reply ended.response) = true
  stopped : ended.outcome = .stopped → ∃ tick, stopped tick = true
  expired : ended.outcome = .waitExpired → budget ≠ noBudget

theorem Underway.observed {attempt : Sent} {count : Nat} {w w' : World τ}
    (underway : Underway attempt count w w') (tick : Nat) :
    Underway attempt count w { w' with tick } :=
  ⟨underway.cursor, underway.options, underway.connected, underway.task, underway.resent,
    underway.sent⟩

theorem Underway.ended {rpc : TaskRpc} {request : rpc.Request}
    {validate : rpc.Request → rpc.Response → Bool} {wait : rpc.Response → Int}
    {stopped : Nat → Bool} {budget : Int} {count : Nat} {w w' : World τ}
    {ended : Exchanged rpc.Response} (underway : Underway ⟨.task rpc, request⟩ count w w')
    (outcome : ended.outcome = .unknown ∨
      (ended.outcome = .stopped ∧ ∃ tick, stopped tick = true) ∨
      (ended.outcome = .waitExpired ∧ budget ≠ noBudget)) :
    Ended rpc request validate wait stopped budget w ended w' := by
  refine ⟨⟨count, w', underway, rfl, ?_⟩, ?_, fun _ => underway.cursor, ?_, ?_, ?_⟩ <;>
    intro reached <;> simp_all

theorem exchangeRound_ended (rpc : TaskRpc) (request : rpc.Request)
    (validate : rpc.Request → rpc.Response → Bool) (wait : rpc.Response → Int)
    (stopped : Nat → Bool) (budget start : Int) (response : rpc.Response) {count : Nat}
    {w w' : World τ} (underway : Underway ⟨.task rpc, request⟩ count w w') :
    (exchangeRound outside rpc request validate wait stopped budget start response).wp
      (fun result w'' => match result with
        | some (.inl _) => ∃ count, Underway ⟨.task rpc, request⟩ count w w''
        | some (.inr ended) => Ended rpc request validate wait stopped budget w ended w''
        | none => ∃ count, Underway ⟨.task rpc, request⟩ count w w'') w' := by
  unfold exchangeRound
  simp only [Prog.wp_bind, wp_observe, Prog.andThen_some]
  split
  case isTrue halted =>
    exact (underway.observed _).ended (.inr (.inl ⟨rfl, _, halted⟩))
  simp only [Prog.wp_bind, wp_observe, Prog.andThen_some]
  split
  case isTrue spent =>
    exact ((underway.observed _).observed _).ended (.inr (.inr ⟨rfl, by simp_all⟩))
  rw [Prog.wp_bind]
  apply Prog.wp_mono (invoke_underway outside (.task rpc) request _)
  rintro _ invoked ⟨answer, more, rfl, later, sent⟩
  have total := ((underway.observed _).observed _).trans later
  rw [Prog.andThen_some]
  cases answer with
  | none => exact total.ended (.inl rfl)
  | some answer =>
      simp only [Prog.wp_bind, Prog.wp_get, Prog.andThen_some]
      split
      · exact ⟨_, total⟩
      · simp only [Prog.wp_bind, Prog.wp_modify, Prog.andThen_some, Prog.wp_pure]
        have cursor : invoked.client.cursor = w.client.cursor := total.cursor
        have count := sent rfl
        rcases settle_cases w.client.cursor
            ((if wait answer = 0 then some (validate request answer) else none) = some true)
            (TaskRpc.reply answer) with
          ⟨verdict, valid, accepted, sequence, concrete⟩ | ⟨verdict, rejected⟩ | verdict
        · refine ⟨⟨_, invoked, total, rfl, fun _ => by omega⟩, fun _ => ?_, ?_, ?_, ?_, ?_⟩ <;>
            simp_all
        · refine ⟨⟨_, invoked, total, rfl, fun _ => by omega⟩, ?_, ?_, ?_, ?_, ?_⟩ <;>
            simp_all
        · refine ⟨⟨_, invoked, total, rfl, fun _ => by omega⟩, ?_, ?_, ?_, ?_, ?_⟩ <;>
            simp_all

theorem sessionExchange_ended (rpc : TaskRpc) (request : rpc.Request) (response : rpc.Response)
    (validate : rpc.Request → rpc.Response → Bool) (wait : rpc.Response → Int)
    (stopped : Nat → Bool) (budget : Int) (w : World τ) :
    (sessionExchange outside fuel rpc request response validate wait stopped budget).wp
      (fun result w' => match result with
        | some ended => Ended rpc request validate wait stopped budget w ended w'
        | none => ∃ count, Underway ⟨.task rpc, request⟩ count w w') w := by
  rw [sessionExchange, Prog.wp_bind, wp_observe, Prog.andThen_some]
  refine Prog.wp_iterate (fun _ w' => ∃ count, Underway ⟨.task rpc, request⟩ count w w') ?_ ?_
    fuel ⟨0, (Underway.refl _ w).observed _⟩
  · rintro response w' ⟨count, underway⟩
    apply Prog.wp_mono (exchangeRound_ended rpc request validate wait stopped budget _ response
      underway)
    rintro (_ | _ | _) w'' after <;> exact after
  · intro response w' underway
    exact underway

def TaskRpc.admits : {rpc : TaskRpc} → rpc.Response → Bool
  | .init, response => response.reply.phase = .ready
  | .beginEpisode, response =>
      (response.reply.phase = .episodeRunning && response.hasAssignment &&
        response.assignment.episodeId ≠ "") ||
      (response.reply.phase = .taskComplete && response.hasTaskComplete)
  | .update, response =>
      response.reply.phase = .episodeRunning || response.reply.phase = .episodeTerminal
  | .endEpisode, response => response.reply.phase = .ready
  | .abortEpisode, response => response.reply.phase = .aborted
  | .closeSession, response => response.reply.phase = .closed

def TaskRpc.episodeAfter : {rpc : TaskRpc} → rpc.Response → String → String
  | .beginEpisode, response, episodeId =>
      if response.reply.phase = .episodeRunning then response.assignment.episodeId else episodeId
  | .endEpisode, _, _ => ""
  | .abortEpisode, _, _ => ""
  | .init, _, episodeId => episodeId
  | .update, _, episodeId => episodeId
  | .closeSession, _, episodeId => episodeId

def TaskRpc.cleanup? : TaskRpc → Option String
  | .abortEpisode => some "AbortEpisode"
  | .closeSession => some "CloseSession"
  | _ => none

def TaskRpc.errorAfter (rpc : TaskRpc) (original own : String) (outcome : CommandOutcome) :
    String :=
  match rpc.cleanup? with
  | none => own
  | some cleanup =>
      if original = "" then own
      else original ++
        if outcome = .applied then "" else "; " ++ cleanup ++ " cleanup failed: " ++ own

def Issue.after {rpc : TaskRpc} (issue : Issue τ (.task rpc)) : LifecycleCursor :=
  if issue.outcome = some .applied then
    { issue.cursor with
      phase := (TaskRpc.reply issue.response).phase
      nextSequence := increment issue.cursor.nextSequence
      episodeId := TaskRpc.episodeAfter issue.response issue.cursor.episodeId }
  else issue.cursor

theorem Issue.after_episodeId {rpc : TaskRpc} (issue : Issue τ (.task rpc)) :
    issue.after.episodeId =
      if issue.outcome = some .applied then
        TaskRpc.episodeAfter issue.response issue.cursor.episodeId
      else issue.cursor.episodeId := by
  unfold Issue.after
  split <;> rfl

structure Issued {rpc : TaskRpc} (payload : rpc.Request)
    (validate : rpc.Request → rpc.Response → Bool) (stopped : Nat → Bool) (budget : Int)
    (w : World τ) (issue : Issue τ (.task rpc)) (result : Option (CommandOutcome × rpc.Response))
    (w' : World τ) : Prop where
  commands : w'.commands = ⟨.task rpc, issue⟩ :: w.commands
  sent : w'.sent = Command.attempts ⟨.task rpc, issue⟩ ++ w.sent
  task : w'.task = w.task
  options : w'.client.options = w.client.options
  request : issue.request = TaskRpc.withCommand payload (fillCommand w.client.cursor)
  issuedAt : issue.cursor = w.client.cursor
  snapshot : issue.task = w.task
  outcome : issue.outcome = result.map Prod.fst
  returned : ∀ ended, result = some ended →
    issue.response = ended.2 ∧ issue.error = w'.client.error
  applied : issue.outcome = some .applied →
    validate issue.request issue.response = true ∧
    commandAccepted (TaskRpc.reply issue.response) = true ∧
    (TaskRpc.reply issue.response).appliedSequence = issue.cursor.nextSequence ∧ 0 < issue.sends
  advanced : issue.outcome = some .applied → w'.client.cursor = { issue.cursor with
    phase := (TaskRpc.reply issue.response).phase
    nextSequence := increment issue.cursor.nextSequence }
  kept : issue.outcome ≠ some .applied → w'.client.cursor = issue.cursor
  rejected : issue.outcome = some .rejected →
    isConclusiveRejected issue.cursor (TaskRpc.reply issue.response) = true
  stopped : issue.outcome = some .stopped → ∃ tick, stopped tick = true
  expired : issue.outcome = some .waitExpired → budget ≠ noBudget

theorem exchange_issued (rpc : TaskRpc) (payload : rpc.Request) (response : rpc.Response)
    (validate : rpc.Request → rpc.Response → Bool) (wait : rpc.Response → Int)
    (stopped : Nat → Bool) (budget : Int) (w : World τ) :
    (TaskClient.exchange outside fuel rpc payload response validate wait stopped budget).wp
      (fun result w' => ∃ issue, Issued payload validate stopped budget w issue result w') w := by
  unfold TaskClient.exchange recorded
  simp only [Prog.wp_bind, wp_setError, Prog.wp_get, Prog.andThen_some, Prog.wp_modify]
  apply Prog.wp_mono (sessionExchange_ended rpc _ response validate wait stopped budget _)
  rintro (_ | ended) w' after
  · obtain ⟨count, underway⟩ := after
    have sent := underway.sent
    refine ⟨_, underway.resent, ?_, underway.task, underway.options, rfl, rfl, rfl, rfl, ?_, ?_,
      ?_, fun _ => underway.cursor, ?_, ?_, ?_⟩ <;> simp [Command.attempts, sent]
  · obtain ⟨count, before, underway, moved, counted⟩ := after.progress
    have record : w'.commands = resendHead count _ := (congrArg World.commands moved).trans
      underway.resent
    have sent : w'.sent = List.replicate count _ ++ w.sent :=
      (congrArg World.sent moved).trans underway.sent
    have task : w'.task = w.task := (congrArg World.task moved).trans underway.task
    have options : w'.client.options = w.client.options :=
      (congrArg (fun w => w.client.options) moved).trans underway.options
    have closed (error : String) : ∃ issue, Issued payload validate stopped budget w issue
        (some (ended.outcome, ended.response))
        { w' with
          client.error := error
          commands := ⟨.task rpc,
            { request := TaskRpc.withCommand payload (fillCommand w.client.cursor)
              response := ended.response
              cursor := w.client.cursor
              task := w.task
              outcome := some ended.outcome
              sends := 0 + count
              error }⟩ :: w.commands } := by
      refine ⟨_, rfl, by simpa [Command.attempts] using sent, task, options, rfl, rfl, rfl, rfl,
        by simp, ?_, ?_, ?_, ?_, ?_, ?_⟩ <;>
        intro reached <;>
        simp only [Option.some.injEq, ne_eq] at reached
      · obtain ⟨-, valid, accepted, sequence, -, -⟩ := after.applied reached
        exact ⟨valid, accepted, sequence, by simpa using counted reached⟩
      · exact (after.applied reached).2.2.2.2.2
      · exact after.kept reached
      · exact after.rejected reached
      · exact after.stopped reached
      · exact after.expired reached
    simp only [resendHead, Command.resent] at record
    simp only [Prog.wp_bind, Prog.wp_get, Prog.andThen_some]
    split <;>
      simp only [Prog.wp_bind, wp_setError, Prog.andThen_some, Prog.wp_modify, Prog.wp_pure,
        record]
    · exact closed _
    · exact closed _

theorem Issued.episodeId {rpc : TaskRpc} {payload : rpc.Request}
    {validate : rpc.Request → rpc.Response → Bool} {stopped : Nat → Bool} {budget : Int}
    {w w' : World τ} {issue : Issue τ (.task rpc)}
    {result : Option (CommandOutcome × rpc.Response)}
    (issued : Issued payload validate stopped budget w issue result w') :
    w'.client.cursor.episodeId = issue.cursor.episodeId := by
  by_cases outcome : issue.outcome = some .applied
  · rw [issued.advanced outcome]
  · rw [issued.kept outcome]

structure Performed {rpc : TaskRpc} (payload : rpc.Request)
    (validate : rpc.Request → rpc.Response → Bool) (w : World τ) (issue : Issue τ (.task rpc))
    (result : Option (CommandOutcome × rpc.Response)) (w' : World τ) : Prop where
  commands : w'.commands = ⟨.task rpc, issue⟩ :: w.commands
  sent : w'.sent = Command.attempts ⟨.task rpc, issue⟩ ++ w.sent
  task : w'.task = w.task
  options : w'.client.options = w.client.options
  cursor : w'.client.cursor = issue.after
  request : issue.request = TaskRpc.withCommand payload (fillCommand w.client.cursor)
  issuedAt : issue.cursor = w.client.cursor
  snapshot : issue.task = w.task
  outcome : issue.outcome = result.map Prod.fst
  returned : ∀ ended, result = some ended → issue.response = ended.2 ∧
    w'.client.error = rpc.errorAfter w.client.error issue.error ended.1
  applied : issue.outcome = some .applied →
    TaskRpc.admits issue.response = true ∧ validate issue.request issue.response = true ∧
    commandAccepted (TaskRpc.reply issue.response) = true ∧
    (TaskRpc.reply issue.response).appliedSequence = issue.cursor.nextSequence ∧ 0 < issue.sends
  rejected : issue.outcome = some .rejected →
    isConclusiveRejected issue.cursor (TaskRpc.reply issue.response) = true
  unstopped : rpc.cleanup?.isSome → issue.outcome ≠ some .stopped
  patient : rpc ≠ .abortEpisode → issue.outcome ≠ some .waitExpired

theorem Issued.performed {rpc : TaskRpc} {payload : rpc.Request}
    {validate binding : rpc.Request → rpc.Response → Bool} {stopped : Nat → Bool} {budget : Int}
    {w w' w'' : World τ} {issue : Issue τ (.task rpc)}
    {result : Option (CommandOutcome × rpc.Response)}
    (issued : Issued payload validate stopped budget w issue result w')
    (admitted : ∀ request response, validate request response = true →
      TaskRpc.admits response = true ∧ binding request response = true)
    (unstopped : rpc.cleanup?.isSome → stopped = TaskClient.never)
    (patient : rpc ≠ .abortEpisode → budget = noBudget)
    (kept : w''.commands = w'.commands ∧ w''.sent = w'.sent ∧ w''.task = w'.task ∧
      w''.client.options = w'.client.options)
    (cursor : w''.client.cursor = { w'.client.cursor with
      episodeId := issue.after.episodeId })
    (error : ∀ ended, result = some ended →
      w''.client.error = rpc.errorAfter w.client.error w'.client.error ended.1) :
    Performed payload binding w issue result w'' := by
  have cursor : w''.client.cursor = issue.after := by
    rw [cursor]
    by_cases outcome : issue.outcome = some .applied
    · simp [Issue.after, outcome, issued.advanced outcome]
    · simp [Issue.after, outcome, issued.kept outcome]
  obtain ⟨record, sent, task, options⟩ := kept
  refine ⟨record.trans issued.commands, sent.trans issued.sent, task.trans issued.task,
    options.trans issued.options, cursor, issued.request, issued.issuedAt, issued.snapshot, issued.outcome, ?_, ?_,
    issued.rejected, ?_, ?_⟩
  · intro ended returned
    have own := issued.returned ended returned
    exact ⟨own.1, by rw [error ended returned, own.2]⟩
  · intro outcome
    have accepted := issued.applied outcome
    have admits := admitted _ _ accepted.1
    exact ⟨admits.1, admits.2, accepted.2⟩
  · intro cleanup halted
    obtain ⟨tick, raised⟩ := issued.stopped halted
    simp [unstopped cleanup, TaskClient.never] at raised
  · intro other expired
    exact issued.expired expired (patient other)

theorem Issued.performed_cut {rpc : TaskRpc} {payload : rpc.Request}
    {validate binding : rpc.Request → rpc.Response → Bool} {stopped : Nat → Bool} {budget : Int}
    {w w' : World τ} {issue : Issue τ (.task rpc)}
    (issued : Issued payload validate stopped budget w issue none w') :
    Performed payload binding w issue none w' := by
  have outcome : issue.outcome = none := issued.outcome
  have cursor : w'.client.cursor = issue.after := by
    rw [issued.kept (by simp [outcome]), Issue.after, if_neg (by simp [outcome])]
  refine ⟨issued.commands, issued.sent, issued.task, issued.options, cursor, issued.request,
    issued.issuedAt, issued.snapshot, issued.outcome, ?_, ?_, ?_, ?_, ?_⟩ <;> simp [outcome]

theorem Issued.performed_plain {rpc : TaskRpc} {payload : rpc.Request}
    {validate binding : rpc.Request → rpc.Response → Bool} {stopped : Nat → Bool}
    {w w' : World τ} {issue : Issue τ (.task rpc)}
    {result : Option (CommandOutcome × rpc.Response)}
    (issued : Issued payload validate stopped noBudget w issue result w')
    (plain : rpc = .init ∨ rpc = .update)
    (admitted : ∀ request response, validate request response = true →
      TaskRpc.admits response = true ∧ binding request response = true) :
    Performed payload binding w issue result w' := by
  refine issued.performed admitted ?_ (fun _ => rfl) ⟨rfl, rfl, rfl, rfl⟩ ?_ ?_
  · rcases plain with rfl | rfl <;> simp [TaskRpc.cleanup?]
  · have episode : issue.after.episodeId = w'.client.cursor.episodeId := by
      rw [issue.after_episodeId, issued.episodeId]
      rcases plain with rfl | rfl <;> exact ite_self _
    rw [episode]
  · rcases plain with rfl | rfl <;> exact fun _ _ => rfl

section Operations

variable (w : World τ)

theorem init_performed (payload : InitReq) (validate : InitReq → InitRsp → Bool) :
    (TaskClient.init outside fuel payload validate).wp
      (fun result w' => ∃ issue, @Performed _ .init payload validate w issue result w') w := by
  apply Prog.wp_mono (exchange_issued .init payload _ _ _ _ _ w)
  rintro result w' ⟨issue, issued⟩
  exact ⟨issue, issued.performed_plain (.inl rfl) (by simp [TaskRpc.admits])⟩

theorem update_performed (payload : UpdateReq) (response : UpdateRsp)
    (validate : UpdateReq → UpdateRsp → Bool) (stopped : Nat → Bool) :
    (TaskClient.update outside fuel payload response validate stopped).wp
      (fun result w' => ∃ issue, @Performed _ .update payload validate w issue result w') w := by
  apply Prog.wp_mono (exchange_issued .update payload _ _ _ _ _ w)
  rintro result w' ⟨issue, issued⟩
  exact ⟨issue, issued.performed_plain (.inr rfl) (by simp [TaskRpc.admits])⟩

theorem beginEpisode_performed (validate : BeginEpisodeReq → BeginEpisodeRsp → Bool)
    (stopped : Nat → Bool) :
    (TaskClient.beginEpisode outside fuel validate stopped).wp
      (fun result w' => ∃ issue, @Performed _ .beginEpisode {} validate w issue result w') w := by
  rw [TaskClient.beginEpisode, Prog.wp_bind]
  apply Prog.wp_mono (exchange_issued .beginEpisode {} _ _ _ _ _ w)
  rintro (_ | ended) w' ⟨issue, issued⟩
  · exact ⟨issue, issued.performed_cut⟩
  have outcome : issue.outcome = some ended.1 := issued.outcome
  have response : issue.response = ended.2 := (issued.returned ended rfl).1
  have active : issue.outcome = some .applied →
      (w'.client.active = true ↔ ended.2.reply.phase = .episodeRunning) := by
    intro applied
    simp [TaskClient.active, issued.advanced applied, response, TaskRpc.reply]
  simp only [Prog.andThen_some, Prog.wp_bind, Prog.wp_get]
  have performed {w'' : World τ}
      (kept : w''.commands = w'.commands ∧ w''.sent = w'.sent ∧ w''.task = w'.task ∧
        w''.client.options = w'.client.options ∧ w''.client.error = w'.client.error)
      (cursor : w''.client.cursor = { w'.client.cursor with
        episodeId := issue.after.episodeId }) :
      @Performed _ .beginEpisode {} validate w issue (some ended) w'' := by
    refine issued.performed ?_ (by simp [TaskRpc.cleanup?]) (fun _ => rfl)
      ⟨kept.1, kept.2.1, kept.2.2.1, kept.2.2.2.1⟩ cursor ?_
    · simp [TaskRpc.admits]
    · rintro _ -
      exact kept.2.2.2.2
  split
  case isTrue begun =>
    have applied : issue.outcome = some .applied := outcome.trans (congrArg some begun.1)
    have running := (active applied).mp begun.2
    simp only [setEpisode, Prog.wp_modify, Prog.wp_bind, Prog.andThen_some, Prog.wp_pure]
    refine ⟨issue, performed ⟨rfl, rfl, rfl, rfl, rfl⟩ ?_⟩
    simp [Issue.after_episodeId, applied, TaskRpc.episodeAfter, response, running]
  case isFalse idle =>
    rw [Prog.wp_pure]
    refine ⟨issue, performed ⟨rfl, rfl, rfl, rfl, rfl⟩ ?_⟩
    have episode : issue.after.episodeId = w'.client.cursor.episodeId := by
      rw [issue.after_episodeId, issued.episodeId]
      by_cases applied : issue.outcome = some .applied
      · have succeeded : ended.1 = .applied := by simpa [outcome] using applied
        have phase : ended.2.reply.phase ≠ .episodeRunning :=
          fun running => idle ⟨succeeded, (active applied).mpr running⟩
        simp [TaskRpc.episodeAfter, response, phase]
      · rw [if_neg applied]
    rw [episode]

theorem endEpisode_performed (validate : EndEpisodeReq → EndEpisodeRsp → Bool) :
    (TaskClient.endEpisode outside fuel validate).wp
      (fun result w' => ∃ issue, @Performed _ .endEpisode {} validate w issue result w') w := by
  rw [TaskClient.endEpisode, Prog.wp_bind]
  apply Prog.wp_mono (exchange_issued .endEpisode {} _ _ _ _ _ w)
  rintro (_ | ended) w' ⟨issue, issued⟩
  · exact ⟨issue, issued.performed_cut⟩
  have outcome : issue.outcome = some ended.1 := issued.outcome
  have admitted : ∀ (req : EndEpisodeReq) (rsp : EndEpisodeRsp),
      (decide (rsp.reply.phase = .ready) && validate req rsp) = true →
        @TaskRpc.admits .endEpisode rsp = true ∧ validate req rsp = true := by
    simp [TaskRpc.admits]
  rw [Prog.andThen_some]
  split
  case isTrue succeeded =>
    simp only [setEpisode, Prog.wp_modify, Prog.wp_bind, Prog.andThen_some, Prog.wp_pure]
    refine ⟨issue, issued.performed admitted (by simp [TaskRpc.cleanup?]) (fun _ => rfl)
      ⟨rfl, rfl, rfl, rfl⟩ ?_ (fun _ _ => rfl)⟩
    simp [Issue.after_episodeId, outcome, succeeded, TaskRpc.episodeAfter]
  case isFalse failed =>
    rw [Prog.wp_pure]
    refine ⟨issue, issued.performed admitted (by simp [TaskRpc.cleanup?]) (fun _ => rfl)
      ⟨rfl, rfl, rfl, rfl⟩ ?_ (fun _ _ => rfl)⟩
    rw [issue.after_episodeId, if_neg (by simpa [outcome] using failed), ← issued.episodeId]

theorem wp_preserveFailure (rpc : TaskRpc) {original cleanup : String} (outcome : CommandOutcome)
    (name : rpc.cleanup? = some cleanup) (post : Option Unit → World τ → Prop) :
    (TaskClient.preserveFailure original cleanup outcome).wp post w =
      post (some ()) { w with
        client.error := rpc.errorAfter original w.client.error outcome } := by
  rw [TaskClient.preserveFailure, Prog.wp_bind, Prog.wp_get, Prog.andThen_some]
  by_cases empty : original = ""
  · simp [empty, TaskRpc.errorAfter, name]
  · simp [empty, TaskRpc.errorAfter, name]

theorem abortEpisode_performed (payload : AbortEpisodeReq) :
    (TaskClient.abortEpisode outside fuel payload).wp
      (fun result w' => ∃ issue,
        @Performed _ .abortEpisode payload (fun _ _ => true) w issue result w') w := by
  rw [TaskClient.abortEpisode, Prog.wp_bind, Prog.wp_get, Prog.andThen_some, Prog.wp_bind]
  apply Prog.wp_mono (exchange_issued .abortEpisode payload _ _ _ _ _ w)
  rintro (_ | ended) w' ⟨issue, issued⟩
  · exact ⟨issue, issued.performed_cut⟩
  have outcome : issue.outcome = some ended.1 := issued.outcome
  have performed {w'' : World τ}
      (kept : w''.commands = w'.commands ∧ w''.sent = w'.sent ∧ w''.task = w'.task ∧
        w''.client.options = w'.client.options)
      (cursor : w''.client.cursor = { w'.client.cursor with
        episodeId := issue.after.episodeId })
      (error : w''.client.error =
        TaskRpc.abortEpisode.errorAfter w.client.error w'.client.error ended.1) :
      @Performed _ .abortEpisode payload (fun _ _ => true) w issue (some ended) w'' := by
    refine issued.performed ?_ (fun _ => rfl) (by simp) kept cursor ?_
    · simp [TaskRpc.admits]
    · rintro _ ⟨⟩
      exact error
  rw [Prog.andThen_some]
  split
  case isTrue succeeded =>
    simp only [setEpisode, Prog.wp_modify, Prog.wp_bind, Prog.andThen_some, Prog.wp_pure,
      wp_preserveFailure _ .abortEpisode ended.1 rfl]
    refine ⟨issue, performed ⟨rfl, rfl, rfl, rfl⟩ ?_ rfl⟩
    simp [Issue.after_episodeId, outcome, succeeded, TaskRpc.episodeAfter]
  case isFalse failed =>
    simp only [Prog.wp_bind, Prog.andThen_some, Prog.wp_pure,
      wp_preserveFailure _ .abortEpisode ended.1 rfl]
    refine ⟨issue, performed ⟨rfl, rfl, rfl, rfl⟩ ?_ rfl⟩
    rw [issue.after_episodeId, if_neg (by simpa [outcome] using failed), ← issued.episodeId]

theorem closeSession_performed :
    (TaskClient.closeSession outside fuel).wp
      (fun result w' => ∃ issue,
        @Performed _ .closeSession {} (fun _ _ => true) w issue result w') w := by
  rw [TaskClient.closeSession, Prog.wp_bind, Prog.wp_get, Prog.andThen_some, Prog.wp_bind]
  apply Prog.wp_mono (exchange_issued .closeSession {} _ _ _ _ _ w)
  rintro (_ | ended) w' ⟨issue, issued⟩
  · exact ⟨issue, issued.performed_cut⟩
  simp only [Prog.wp_bind, Prog.andThen_some, Prog.wp_pure,
    wp_preserveFailure _ .closeSession ended.1 rfl]
  refine ⟨issue, issued.performed ?_ (fun _ => rfl) (fun _ => rfl)
    ⟨rfl, rfl, rfl, rfl⟩ ?_ ?_⟩
  · simp [TaskRpc.admits]
  · have episode : issue.after.episodeId = w'.client.cursor.episodeId := by
      rw [issue.after_episodeId, issued.episodeId]
      exact ite_self _
    rw [episode]
  · rintro _ ⟨⟩
    rfl

end Operations

structure SessionOpened (validate : OpenSessionReq → OpenSessionRsp → Bool) (w : World τ)
    (issue : Issue τ .openSession) (ended : CommandOutcome × OpenSessionRsp) (w' : World τ) :
    Prop where
  commands : w'.commands = ⟨.openSession, issue⟩ :: w.commands
  sent : w'.sent = Command.attempts ⟨.openSession, issue⟩ ++ w.sent
  task : w'.task = w.task
  options : w'.client.options = w.client.options
  issuedAt : issue.cursor = w.client.cursor
  snapshot : issue.task = w.task
  outcome : issue.outcome = some ended.1
  applied : ended.1 = .applied →
    issue.response = ended.2 ∧ commandAccepted ended.2.reply = true ∧
    ended.2.reply.appliedSequence = 0 ∧ ended.2.reply.phase = .opened ∧
    ended.2.sessionId ≠ "" ∧ ended.2.sessionEpoch ≠ 0 ∧
    validate issue.request ended.2 = true ∧ 0 < issue.sends ∧
    w'.client.cursor =
      bindCursor w.client.cursor ended.2.sessionId ended.2.sessionEpoch ended.2.reply
  kept : ended.1 ≠ .applied → w'.client.cursor = w.client.cursor
  unstopped : ended.1 ≠ .stopped ∧ ended.1 ≠ .waitExpired

theorem openSession_opened (validate : OpenSessionReq → OpenSessionRsp → Bool)
    (response : OpenSessionRsp) (w : World τ) :
    (TaskClient.openSession outside validate response).wp
      (fun result w' => ∃ ended issue, result = some ended ∧
        SessionOpened validate w issue ended w') w := by
  unfold TaskClient.openSession recorded
  simp only [Prog.wp_bind, wp_setError, Prog.wp_get, Prog.andThen_some, Prog.wp_modify]
  apply Prog.wp_mono (invoke_underway outside .openSession _ _)
  rintro _ w' ⟨answer, count, rfl, underway, sent⟩
  have record := underway.resent
  simp only [resendHead, Command.resent] at record
  have logged := underway.sent
  rw [← Nat.zero_add count] at logged
  rw [Prog.andThen_some]
  cases answer with
  | none =>
      simp only [Prog.wp_pure, Prog.andThen_some, Prog.wp_bind, Prog.wp_modify, record]
      exact ⟨_, _, rfl, rfl, logged, underway.task, underway.options, rfl, rfl, rfl, by simp,
        fun _ => underway.cursor, by simp⟩
  | some answer =>
      simp only
      split
      case isTrue refused =>
        simp only [Prog.wp_pure, Prog.andThen_some, Prog.wp_bind, Prog.wp_modify, wp_setError,
          record]
        exact ⟨_, _, rfl, rfl, logged, underway.task, underway.options, rfl, rfl, rfl, by simp,
          fun _ => underway.cursor, by simp⟩
      case isFalse taken =>
        split
        case isTrue invalid =>
          simp only [Prog.wp_pure, Prog.andThen_some, Prog.wp_bind, Prog.wp_modify, wp_setError,
            record]
          exact ⟨_, _, rfl, rfl, logged, underway.task, underway.options, rfl, rfl, rfl, by simp,
            fun _ => underway.cursor, by simp⟩
        case isFalse valid =>
          simp only [Prog.wp_pure, Prog.andThen_some, Prog.wp_bind, Prog.wp_modify, record]
          refine ⟨_, _, rfl, rfl, logged, underway.task, underway.options, rfl, rfl, rfl, fun _ => ?_,
            by simp, by simp⟩
          have made := sent rfl
          have bound := underway.cursor
          simp_all

end MazeClient
