import MazeClient.Client.Exchange

set_option autoImplicit false

namespace MazeClient

open Program

variable {τ : Type} {outside : Outside} {fuel : Nat}

def SameAnswers (rpc : SessionRpc) (request : rpc.Request) (first second : Outside) : Prop :=
  (∀ tick, second.attempt tick rpc request = first.attempt tick rpc request) ∧
    second.now = first.now

theorem invokeFrom_same {rpc : SessionRpc} {request : rpc.Request} {outside' : Outside}
    (same : SameAnswers rpc request outside outside') (attempt remaining : Nat) :
    (invokeFrom outside' rpc request attempt remaining : Prog (World τ) _) =
      invokeFrom outside rpc request attempt remaining := by
  have sent : (send outside' rpc request : Prog (World τ) _) = send outside rpc request := by
    simp only [send, same.1]
  induction remaining generalizing attempt with
  | zero => rfl
  | succ remaining ih => simp only [invokeFrom, sent, ih]

theorem exchangeRound_same {rpc : TaskRpc} {request : rpc.Request} {outside' : Outside}
    (same : SameAnswers (.task rpc) request outside outside')
    {validate validate' : rpc.Request → rpc.Response → Bool} {wait : rpc.Response → Int}
    (agrees : ∀ response, wait response = 0 →
      validate' request response = validate request response)
    (stopped : Nat → Bool) (budget start : Int) :
    (exchangeRound outside' rpc request validate' wait stopped budget start :
        rpc.Response → Prog (World τ) _) =
      exchangeRound outside rpc request validate wait stopped budget start := by
  have invoked : (invoke outside' (.task rpc) request : Prog (World τ) _) =
      invoke outside (.task rpc) request := by
    simp only [invoke, invokeUnary, invokeFrom_same same]
  have validated (response : rpc.Response) :
      (if wait response = 0 then some (validate' request response) else none) =
        if wait response = 0 then some (validate request response) else none := by
    split
    case isTrue plain => rw [agrees response plain]
    case isFalse => rfl
  funext response
  simp only [exchangeRound, invoked, validated, same.2]

theorem sessionExchange_same {rpc : TaskRpc} {request : rpc.Request} {outside' : Outside}
    (same : SameAnswers (.task rpc) request outside outside')
    {validate validate' : rpc.Request → rpc.Response → Bool} {wait : rpc.Response → Int}
    (agrees : ∀ response, wait response = 0 →
      validate' request response = validate request response)
    (response : rpc.Response) (stopped : Nat → Bool) (budget : Int) :
    (sessionExchange outside' fuel rpc request response validate' wait stopped budget :
        Prog (World τ) _) =
      sessionExchange outside fuel rpc request response validate wait stopped budget := by
  simp only [sessionExchange, same.2, exchangeRound_same same agrees]

def LastReply (outside : Outside) (rpc : TaskRpc) (request : rpc.Request)
    (response : rpc.Response) (w : World τ) : Prop :=
  ∃ tick, w.tick = tick + 1 ∧ (outside.attempt tick (.task rpc) request).1.code = .ok ∧
    (outside.attempt tick (.task rpc) request).2 = response

/-- What one Session::Exchange owes its caller, who gets a verdict on the last reply. -/
structure AllOrNothing (outside : Outside) (rpc : TaskRpc) (request : rpc.Request)
    (validate : rpc.Request → rpc.Response → Bool) (wait : rpc.Response → Int)
    (cursor : LifecycleCursor) (ended : Exchanged rpc.Response) (w' : World τ) : Prop where
  applied : ended.outcome = .applied →
    LastReply outside rpc request ended.response w' ∧
    ((TaskRpc.reply ended.response).result = .applied ∨
      (TaskRpc.reply ended.response).result = .alreadyApplied) ∧
    (TaskRpc.reply ended.response).errorCode = .unspecified ∧
    hasConcretePhase (TaskRpc.reply ended.response) = true ∧
    (∃ command, TaskRpc.command? request = some command ∧
      (TaskRpc.reply ended.response).appliedSequence = command.sequence) ∧
    wait ended.response = 0 ∧ validate request ended.response = true ∧
    w'.client.cursor = { cursor with
      phase := (TaskRpc.reply ended.response).phase
      nextSequence := increment cursor.nextSequence }
  unapplied : ended.outcome ≠ .applied → w'.client.cursor = cursor
  rejected : ended.outcome = .rejected →
    LastReply outside rpc request ended.response w' ∧
    (TaskRpc.reply ended.response).result = .rejected ∧
    (TaskRpc.reply ended.response).errorCode ≠ .unspecified ∧
    (TaskRpc.reply ended.response).appliedSequence + 1 = cursor.nextSequence ∧
    (TaskRpc.reply ended.response).phase = cursor.phase

theorem invokeFrom_last (rpc : TaskRpc) (request : rpc.Request) (attempt remaining : Nat)
    (w : World τ) :
    (invokeFrom outside (.task rpc) request attempt remaining).wp (fun result w' =>
      ∀ response, result = some (some response) →
        LastReply outside rpc request response w') w := by
  induction remaining generalizing attempt w with
  | zero => simp [invokeFrom]
  | succ remaining ih =>
      rw [invokeFrom, send]
      simp only [Prog.wp_bind, Prog.wp_modify, wp_observe, Prog.andThen_some]
      split
      case isTrue fine =>
        rintro response ⟨⟩
        exact ⟨_, rfl, fine, rfl⟩
      case isFalse =>
        rw [Prog.wp_bind, wp_setTransport, Prog.andThen_some]
        split
        · simp
        · exact ih _ _

theorem invoke_last (rpc : TaskRpc) (request : rpc.Request) (w : World τ) :
    (invoke outside (.task rpc) request).wp (fun result w' =>
      ∀ response, result = some (some response) →
        LastReply outside rpc request response w') w := by
  rw [invoke, invokeUnary]
  simp only [Prog.wp_bind, wp_setTransport, Prog.andThen_some, Prog.wp_get]
  split
  · simp
  · apply Prog.wp_mono (invokeFrom_last rpc request 1 2 _)
    rintro (_ | _ | response) w' last
    · simp
    · simp
    · rintro _ ⟨⟩
      exact last response rfl

theorem exchangeRound_last (rpc : TaskRpc) (request : rpc.Request)
    (validate : rpc.Request → rpc.Response → Bool) (wait : rpc.Response → Int)
    (stopped : Nat → Bool) (budget start : Int) (response : rpc.Response) (w : World τ) :
    (exchangeRound outside rpc request validate wait stopped budget start response).wp
      (fun result w' => match result with
        | some (.inr ended) => ended.outcome = .applied ∨ ended.outcome = .rejected →
            LastReply outside rpc request ended.response w'
        | _ => True) w := by
  unfold exchangeRound
  simp only [Prog.wp_bind, wp_observe, Prog.andThen_some]
  split
  · simp
  simp only [Prog.wp_bind, wp_observe, Prog.andThen_some]
  split
  · simp
  rw [Prog.wp_bind]
  apply Prog.wp_mono (invoke_last rpc request _)
  rintro (_ | _ | answer) invoked last
  · trivial
  · simp
  · simp only [Prog.andThen_some, Prog.wp_bind, Prog.wp_get]
    split
    · trivial
    · intro _
      exact last answer rfl

theorem sessionExchange_last (rpc : TaskRpc) (request : rpc.Request) (response : rpc.Response)
    (validate : rpc.Request → rpc.Response → Bool) (wait : rpc.Response → Int)
    (stopped : Nat → Bool) (budget : Int) (w : World τ) :
    (sessionExchange outside fuel rpc request response validate wait stopped budget).wp
      (fun result w' => ∀ ended, result = some ended →
        ended.outcome = .applied ∨ ended.outcome = .rejected →
          LastReply outside rpc request ended.response w') w := by
  rw [sessionExchange, Prog.wp_bind, wp_observe, Prog.andThen_some]
  refine Prog.wp_iterate (fun _ _ => True) ?_ (by simp) fuel trivial
  intro response w' _
  apply Prog.wp_mono
    (exchangeRound_last rpc request validate wait stopped budget _ response w')
  rintro (_ | _ | ended) w'' last
  · simp
  · trivial
  · rintro _ ⟨⟩
    exact last

theorem isConclusiveRejected_iff {cursor : LifecycleCursor} {reply : CommandReply} :
    isConclusiveRejected cursor reply = true ↔ reply.result = .rejected ∧
      reply.errorCode ≠ .unspecified ∧ reply.appliedSequence + 1 = cursor.nextSequence ∧
        hasConcretePhase reply = true ∧ reply.phase = cursor.phase := by
  simp only [isConclusiveRejected, Bool.and_eq_true, decide_eq_true_eq, ne_eq, decide_not,
    Bool.not_eq_true', decide_eq_false_iff_not]
  constructor
  · rintro ⟨⟨⟨⟨⟨some_, rejected⟩, error⟩, sequence⟩, concrete⟩, phase⟩
    exact ⟨rejected, error, by omega, concrete, phase⟩
  · rintro ⟨rejected, error, sequence, concrete, phase⟩
    exact ⟨⟨⟨⟨⟨by omega, rejected⟩, error⟩, by omega⟩, concrete⟩, phase⟩

theorem Ended.sent {rpc : TaskRpc} {request : rpc.Request}
    {validate : rpc.Request → rpc.Response → Bool} {wait : rpc.Response → Int}
    {stopped : Nat → Bool} {budget : Int} {w w' : World τ} {ended : Exchanged rpc.Response}
    (left : Ended rpc request validate wait stopped budget w ended w') :
    ∃ attempts, w'.sent = List.replicate attempts ⟨.task rpc, request⟩ ++ w.sent := by
  obtain ⟨attempts, before, underway, moved, -⟩ := left.progress
  exact ⟨attempts, (congrArg World.sent moved).trans underway.sent⟩

/-- Session::Exchange is all-or-nothing against any server: it sends nothing but its request, and the
answers to that are all it depends on; of the validator it depends on what that says about its
request and replies without wait control. -/
theorem sessionExchange_all_or_nothing (outside : Outside) (fuel : Nat) (rpc : TaskRpc)
    (payload : rpc.Request) (response : rpc.Response)
    (validate : rpc.Request → rpc.Response → Bool) (wait : rpc.Response → Int)
    (stopped : Nat → Bool) (budget : Int) (w : World τ) :
    let request := TaskRpc.withCommand payload (fillCommand w.client.cursor)
    let run := sessionExchange outside fuel rpc request response validate wait stopped budget w
    (∃ attempts, run.2.sent = List.replicate attempts ⟨.task rpc, request⟩ ++ w.sent) ∧
    (∀ outside' validate', SameAnswers (.task rpc) request outside outside' →
      (∀ response, wait response = 0 →
        validate' request response = validate request response) →
      sessionExchange outside' fuel rpc request response validate' wait stopped budget w = run) ∧
    (match run.1 with
      | some ended =>
          AllOrNothing outside rpc request validate wait w.client.cursor ended run.2
      | none => run.2.client.cursor = w.client.cursor) ∧
    ∀ control, TaskClient.waitDelay control = 0 ↔ control = none := by
  intro request run
  have ending := @sessionExchange_ended τ outside fuel rpc request response validate wait
    stopped budget w
  change match run.1 with
    | some ended => Ended rpc request validate wait stopped budget w ended run.2
    | none => ∃ count, Underway ⟨.task rpc, request⟩ count w run.2 at ending
  refine ⟨?_, fun outside' validate' same agrees => ?_, ?_, fun control => ?_⟩
  · generalize run = ran at ending ⊢
    obtain ⟨_ | ended, w'⟩ := ran
    · obtain ⟨attempts, underway⟩ := ending
      exact ⟨attempts, underway.sent⟩
    · exact Ended.sent ending
  · exact congrFun (sessionExchange_same same agrees response stopped budget) w
  · have last := @sessionExchange_last τ outside fuel rpc request response validate wait stopped
      budget w
    change ∀ ended, run.1 = some ended → _ → LastReply outside rpc request ended.response run.2
      at last
    generalize run = ran at ending last ⊢
    obtain ⟨result, w'⟩ := ran
    cases result with
    | none =>
        obtain ⟨count, underway⟩ := ending
        exact underway.cursor
    | some ended =>
        refine ⟨fun applied => ?_, ending.kept, fun rejected => ?_⟩
        · obtain ⟨plain, valid, accepted, sequence, concrete, cursor⟩ := ending.applied applied
          obtain ⟨result, error⟩ := commandAccepted_result accepted
          exact ⟨last ended rfl (.inl applied), result, error, concrete,
            ⟨_, TaskRpc.command?_withCommand _ _, sequence⟩, plain, valid, cursor⟩
        · obtain ⟨result, error, sequence, -, phase⟩ :=
            isConclusiveRejected_iff.mp (ending.rejected rejected)
          exact ⟨last ended rfl (.inr rejected), result, error, sequence, phase⟩
  · cases control with
    | none => simp [TaskClient.waitDelay]
    | some control =>
        simp only [TaskClient.waitDelay, reduceCtorEq, iff_false]
        split <;> omega

theorem sessionExchange_wraps :
    let outside : Outside :=
      { attempt := fun _ rpc _ => match rpc with
          | .task .closeSession => ({}, { reply := {
              result := .applied, appliedSequence := maxSequence, phase := .closed } })
          | rpc => ({ code := .internal }, rpc.cleared)
        stopped := fun _ => false
        now := fun _ => 0 }
    let w : World Unit :=
      { client := {
          cursor := { nextSequence := maxSequence, phase := .ready }
          transport := { connected := true } }
        task := () }
    let run := sessionExchange outside 1 .closeSession
      (TaskRpc.withCommand {} (fillCommand w.client.cursor)) {} (fun _ _ => true) (fun _ => 0)
      outside.stopped noBudget w
    run.1.map Exchanged.outcome = some .applied ∧ run.2.client.cursor.nextSequence = 0 ∧
      run.2.client.cursor.nextSequence ≠ w.client.cursor.nextSequence + 1 := by
  decide +kernel

end MazeClient
