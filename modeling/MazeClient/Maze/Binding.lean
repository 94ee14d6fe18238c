import MazeClient.Client.Order
import MazeClient.Maze.Adapter

set_option autoImplicit false

namespace MazeClient

open Program Wire

variable {outside : MazeOutside} {fuel : Nat}

namespace Adapter

@[simp] theorem wp_setTask (update : Adapter → Adapter)
    (post : Option Unit → World Adapter → Prop) (w : World Adapter) :
    (setTask update).wp post w = post (some ()) { w with task := update w.task } := rfl

theorem wp_returned {Response : Type} (command : Prog (World Adapter) (CommandOutcome × Response))
    (post : Option CommandOutcome → World Adapter → Prop) (w : World Adapter) :
    command.wp (Prog.andThen (fun ended => pure ended.1) post) w =
      post ((command w).1.map Prod.fst) (command w).2 := by
  rw [Prog.wp]
  cases (command w).1 <;> rfl

theorem openSession_spec (w : World Adapter) : (openSession outside).wp (fun result w' =>
    let called := TaskClient.openSession outside.toOutside (fun _ rsp => validEnvironment rsp)
      w.task.openResponse w
    Quiet called.2 w' ∧ w'.task.chainFailed = called.2.task.chainFailed ∧
      (result = called.1.map Prod.fst ∨ result = some .unknown) ∧
      (result = some .applied → w'.task.config.run.agentNum < 2147483648)) w := by
  simp only [openSession, Prog.wp_bind, Prog.wp_get, Prog.andThen_some]
  rw [Prog.wp]
  cases TaskClient.openSession outside.toOutside (fun _ rsp => validEnvironment rsp)
    w.task.openResponse w with
  | mk opened after =>
    cases opened with
    | none => exact ⟨.refl _, rfl, .inl rfl, by simp⟩
    | some opened =>
        simp only [Prog.andThen_some, Prog.wp_bind, wp_setTask]
        split
        case isTrue failed =>
          exact ⟨⟨rfl, rfl, rfl⟩, rfl, .inl rfl, fun applied => absurd (Option.some.inj applied) failed⟩
        case isFalse applied =>
          have succeeded : opened.1 = .applied := by simpa using applied
          split
          case isTrue unnamed => exact ⟨⟨rfl, rfl, rfl⟩, rfl, .inr rfl, fun applied => by cases applied⟩
          case isFalse named =>
            exact ⟨⟨rfl, rfl, rfl⟩, rfl, .inl (congrArg some succeeded.symm), fun _ => toInt32_lt _⟩

def Loading (w before : World Adapter) : Prop :=
  Quiet w before ∧ before.task.chainFailed = w.task.chainFailed

theorem initialise_spec (w : World Adapter) : (initialise outside fuel).wp (fun result w' =>
    ∃ before, Loading w before ∧ ((result = some .rejected ∧ w' = before) ∨
      (ClientOperation outside.toOutside fuel .init before result w' ∧
        (w.task.config.run.agentNum < 2147483648 → before.task.environment.Crewed)))) w := by
  have refused (before : World Adapter) (loading : Loading w before) :
      (pure .rejected : Prog (World Adapter) CommandOutcome).wp (fun result w' =>
        ∃ before, Loading w before ∧ ((result = some .rejected ∧ w' = before) ∨
          (ClientOperation outside.toOutside fuel .init before result w' ∧
            (w.task.config.run.agentNum < 2147483648 →
              before.task.environment.Crewed)))) before :=
    ⟨before, loading, .inl ⟨rfl, rfl⟩⟩
  simp only [initialise, Prog.wp_bind, Prog.wp_get, wp_observe, Prog.andThen_some]
  split
  case isTrue => exact refused _ ⟨⟨rfl, rfl, rfl⟩, rfl⟩
  simp only [Prog.wp_bind, Prog.wp_get, wp_observe, wp_setTask, Prog.andThen_some]
  generalize ran : MazeEnv.init _ _ _ = initialised
  split
  case isTrue => exact refused _ ⟨⟨rfl, rfl, rfl⟩, rfl⟩
  case isFalse taken =>
    rw [Prog.wp_bind, wp_returned]
    have initialised : initialised.1 = true := by
      by_contra failed
      exact taken (.inl (by simpa using failed))
    refine ⟨_, ?_, .inr ⟨.init _ _ _, fun few => ?_⟩⟩
    · exact ⟨⟨rfl, rfl, rfl⟩, rfl⟩
    · rw [← ran] at initialised ⊢
      exact MazeEnv.init_crewed few initialised

def Begun (called : World Adapter) (after : Adapter) (result : Option CommandOutcome) : Prop :=
  (result = some .applied ∧ called.client.complete = true ∧ after = called.task) ∨
  (∃ issue : Issue Adapter (.task .beginEpisode),
    called.commands.head? = some ⟨.task .beginEpisode, issue⟩ ∧
    (result = some .applied ∨ result = some .rejected) ∧ called.client.complete = false ∧
    called.task.acceptsAssignment called.client.cursor.phase issue.response.assignment = true ∧
    after = begun issue.response.assignment called.task) ∨
  ((result = some .rejected ∨ result = some .unknown) ∧ after = called.task)

theorem beginEpisode_spec (w : World Adapter) : (beginEpisode outside fuel).wp (fun result w' =>
    ∃ called after, ClientOperation outside.toOutside fuel .beginEpisode w called after ∧
      Quiet after w' ∧
      ((called ≠ some .applied ∧ result = called ∧ w'.task = after.task) ∨
        (called = some .applied ∧ Begun after w'.task result))) w := by
  have call := @ClientOperation.beginEpisode _ outside.toOutside fuel (fun _ _ => true)
    outside.stopped w
  have performed := @beginEpisode_performed _ outside.toOutside fuel w (fun _ _ => true)
    outside.stopped
  simp only [beginEpisode, Prog.wp_bind]
  rw [Prog.wp] at performed ⊢
  generalize TaskClient.beginEpisode outside.toOutside fuel (fun _ _ => true) outside.stopped w =
    ran at call performed ⊢
  obtain ⟨_ | ended, after⟩ := ran
  · exact ⟨_, after, call, .refl _, .inl ⟨by simp, rfl, rfl⟩⟩
  simp only [Prog.andThen_some]
  split
  case isTrue failed =>
    exact ⟨_, after, call, .refl _, .inl ⟨by simpa using failed, rfl, rfl⟩⟩
  case isFalse succeeded =>
  obtain ⟨outcome, response⟩ := ended
  obtain rfl : outcome = .applied := by simpa using succeeded
  obtain ⟨issue, performed⟩ := performed
  have applied : issue.outcome = some .applied := performed.outcome
  have admits := (performed.applied applied).1
  have answered : issue.response = response := (performed.returned _ rfl).1
  have phase : after.client.cursor.phase = response.reply.phase := by
    rw [performed.cursor, issue.after_phase, if_pos applied, answered]
    rfl
  rw [answered] at admits
  split
  case isTrue complete =>
    refine ⟨_, after, call, .refl _, .inr ⟨rfl, .inl ⟨rfl, ?_, rfl⟩⟩⟩
    have succeeded : response.reply.phase = .taskComplete := by
      cases outcome : response.outcome <;>
        simp_all [TaskRpc.admits, BeginEpisodeRsp.hasTaskComplete, BeginEpisodeRsp.hasAssignment]
    simp [TaskClient.complete, phase, succeeded]
  case isFalse incomplete =>
  have running : response.reply.phase = .episodeRunning := by
    simp [TaskRpc.admits, incomplete] at admits
    exact admits.1.1
  have going : after.client.complete = false := by simp [TaskClient.complete, phase, running]
  have newest : after.commands.head? = some ⟨.task .beginEpisode, issue⟩ := by
    rw [performed.commands]
    rfl
  split
  case isTrue => exact ⟨_, after, call, .refl _, .inr ⟨rfl, .inr (.inr ⟨.inr rfl, rfl⟩)⟩⟩
  simp only [Prog.wp_bind, Prog.wp_get, Prog.andThen_some]
  split
  case isTrue => exact ⟨_, after, call, .refl _, .inr ⟨rfl, .inr (.inr ⟨.inl rfl, rfl⟩)⟩⟩
  case isFalse accepted =>
  have begin_ {w' : World Adapter} {result : Option CommandOutcome}
      (succeeded : result = some .applied ∨ result = some .rejected)
      (task : w'.task = begun response.assignment after.task) : Begun after w'.task result := by
    refine .inr (.inl ⟨issue, newest, succeeded, going, ?_, ?_⟩)
    · rw [answered]
      simpa using accepted
    · rw [answered, task]
  simp only [Prog.wp_bind, Prog.wp_get, wp_setTask, Prog.andThen_some]
  split
  case isFalse => exact ⟨_, after, call, ⟨rfl, rfl, rfl⟩, .inr ⟨rfl, begin_ (.inl rfl) rfl⟩⟩
  simp only [Prog.wp_bind, wp_observe, Prog.andThen_some]
  split
  case isTrue => exact ⟨_, after, call, ⟨rfl, rfl, rfl⟩, .inr ⟨rfl, begin_ (.inr rfl) rfl⟩⟩
  case isFalse => exact ⟨_, after, call, ⟨rfl, rfl, rfl⟩, .inr ⟨rfl, begin_ (.inl rfl) rfl⟩⟩

-- What the second callback of RunEpisode makes of the end of its Update.
def afterUpdate (request : UpdateReq) (adapter : Adapter) :
    Option (CommandOutcome × UpdateRsp) → Adapter
  | none => adapter
  | some (outcome, response) =>
      let adapter := { adapter with updateResponse := response }
      if outcome = .applied then adapter.acceptUpdate request response
      else if outcome ≠ .stopped then { adapter with chainFailed := true }
      else adapter

structure UpdateCalled (outside : MazeOutside) (fuel : Nat) (request : UpdateReq)
    (w : World Adapter) (issue : Issue Adapter (.task .update))
    (ended : Option (CommandOutcome × UpdateRsp)) (after w' : World Adapter) : Prop where
  called : ClientOperation outside.toOutside fuel .update w (ended.map Prod.fst) after
  performed : @Performed _ .update request (fun req rsp =>
    (prepareAppliedAgentUpdate req rsp w.task.agentExecution).isSome) w issue ended after
  settled : Quiet after w'
  task : w'.task = afterUpdate request w.task ended

theorem exchangeUpdate_spec (request : UpdateReq) (w : World Adapter) :
    (exchangeUpdate outside fuel request).wp (fun result w' =>
      (w.task.chainFailed = true ∧ result = some .rejected ∧ w' = w) ∨
      (w.task.chainFailed = false ∧ ∃ issue ended after,
        UpdateCalled outside fuel request w issue ended after w' ∧
          result = ended.map Prod.fst)) w := by
  simp only [exchangeUpdate, Prog.wp_bind, Prog.wp_get, Prog.andThen_some]
  split
  case isTrue failed => exact .inl ⟨failed, rfl, rfl⟩
  case isFalse sound =>
  have sound : w.task.chainFailed = false := by simpa using sound
  have call := @ClientOperation.update _ outside.toOutside fuel request w.task.updateResponse
    (fun req rsp => (prepareAppliedAgentUpdate req rsp w.task.agentExecution).isSome)
    outside.stopped w
  have performed := @update_performed _ outside.toOutside fuel w request w.task.updateResponse
    (fun req rsp => (prepareAppliedAgentUpdate req rsp w.task.agentExecution).isSome)
    outside.stopped
  simp only [Prog.wp_bind]
  rw [Prog.wp] at performed ⊢
  generalize TaskClient.update outside.toOutside fuel request w.task.updateResponse _
    outside.stopped w = ran at call performed ⊢
  obtain ⟨ended, after⟩ := ran
  obtain ⟨issue, performed⟩ := performed
  have same : after.task = w.task := performed.task
  cases ended with
  | none => exact .inr ⟨sound, issue, none, after, ⟨call, performed, .refl _, same⟩, rfl⟩
  | some ended =>
    obtain ⟨outcome, response⟩ := ended
    simp only [Prog.andThen_some, Prog.wp_bind, wp_setTask]
    split
    case isTrue applied =>
      simp only [Prog.wp_bind, wp_setTask, Prog.andThen_some, Prog.wp_pure]
      exact .inr ⟨sound, issue, _, after, ⟨call, performed, ⟨rfl, rfl, rfl⟩,
        by simp [afterUpdate, applied, same]⟩, rfl⟩
    split
    case isTrue failed unstopped =>
      simp only [Prog.wp_bind, wp_setTask, Prog.andThen_some, Prog.wp_pure]
      exact .inr ⟨sound, issue, _, after, ⟨call, performed, ⟨rfl, rfl, rfl⟩,
        by simp [afterUpdate, failed, unstopped, same]⟩, rfl⟩
    case isFalse failed stopped =>
      simp only [Prog.wp_pure]
      exact .inr ⟨sound, issue, _, after, ⟨call, performed, ⟨rfl, rfl, rfl⟩,
        by simp [afterUpdate, failed, stopped, same]⟩, rfl⟩

inductive Round (outside : MazeOutside) (fuel : Nat) (w : World Adapter) :
    Option (Unit ⊕ CommandOutcome) → World Adapter → Prop
  | stopped {w' : World Adapter} (quiet : Quiet w w') (task : w'.task = w.task)
      (halted : outside.stopped w.tick = true) :
      Round outside fuel w (some (.inr .stopped)) w'
  | refused {w' : World Adapter} (quiet : Quiet w w')
      (failed : w'.task = w.task.observeUpdate.2 ∧ w'.task.chainFailed = true) :
      Round outside fuel w (some (.inr .rejected)) w'
  | sent {before after w' : World Adapter} {issue : Issue Adapter (.task .update)}
      {ended : Option (CommandOutcome × UpdateRsp)} (quiet : Quiet w before)
      (observed : before.task = w.task.observeUpdate.2 ∧ before.task.chainFailed = false)
      (update : UpdateCalled outside fuel w.task.observeUpdate.1 before issue ended after w')
      (left : ended.map Prod.fst ≠ some .applied ∨ w.task.environment.allDone = true) :
      Round outside fuel w (ended.map fun ended => .inr ended.1) w'
  | applied {before after applied w' : World Adapter} {issue : Issue Adapter (.task .update)}
      {ended : Option (CommandOutcome × UpdateRsp)} (quiet : Quiet w before)
      (observed : before.task = w.task.observeUpdate.2 ∧ before.task.chainFailed = false)
      (update : UpdateCalled outside fuel w.task.observeUpdate.1 before issue ended after applied)
      (outcome : ended.map Prod.fst = some .applied)
      (going : w.task.environment.allDone = false)
      (settled : Quiet applied w') (task : w'.task = applied.task.applyActions.2) :
      Round outside fuel w
        (some (if applied.task.applyActions.1 then .inl () else .inr .rejected)) w'

theorem episodeRound_spec (w : World Adapter) :
    (episodeRound observation (exchangeUpdate outside fuel) terminal application
      (observe outside.stopped)).wp (Round outside fuel w) w := by
  simp only [episodeRound, Prog.wp_bind, wp_observe, Prog.andThen_some]
  split
  case isTrue halted => exact .stopped ⟨rfl, rfl, rfl⟩ rfl halted
  simp only [terminal, observation, Prog.wp_bind, Prog.wp_get, wp_setTask, Prog.andThen_some,
    Prog.wp_pure]
  have quiet : Quiet w { w with task := w.task.observeUpdate.2, tick := w.tick + 1 } := ⟨rfl, rfl, rfl⟩
  apply Prog.wp_mono (exchangeUpdate_spec _ _)
  rintro result after (⟨failed, rfl, rfl⟩ | ⟨sound, issue, ended, called, update, rfl⟩)
  · rw [Prog.andThen_some, if_pos (by simp)]
    exact .refused quiet ⟨rfl, failed⟩
  have sent (left : ended.map Prod.fst ≠ some .applied ∨ w.task.environment.allDone = true) :
      Round outside fuel w (ended.map fun ended => .inr ended.1) after :=
    .sent quiet ⟨rfl, sound⟩ update left
  have applied (outcome : ended.map Prod.fst = some .applied)
      (going : w.task.environment.allDone = false) {w' : World Adapter} (settled : Quiet after w')
      (task : w'.task = after.task.applyActions.2) : Round outside fuel w
        (some (if after.task.applyActions.1 then .inl () else .inr .rejected)) w' :=
    .applied quiet ⟨rfl, sound⟩ update outcome going settled task
  cases ended with
  | none => exact sent (.inl (by simp))
  | some ended =>
    rw [Option.map_some, Prog.andThen_some]
    split
    case isTrue failed => exact sent (.inl (by simpa using failed))
    case isFalse succeeded =>
    have succeeded : ended.1 = .applied := by simpa using succeeded
    split
    case isTrue final =>
      rw [Prog.wp_pure, ← succeeded]
      exact sent (.inr final)
    case isFalse going =>
    have round {w' : World Adapter} (settled : Quiet after w')
        (task : w'.task = after.task.applyActions.2) :=
      applied (congrArg some succeeded) (by simpa using going) settled task
    simp only [application, Prog.wp_bind, Prog.wp_get, wp_setTask, Prog.andThen_some,
      Prog.wp_pure]
    split
    case isTrue refused =>
      have refused : after.task.applyActions.1 = false := by simpa using refused
      simpa [refused] using @round { after with task := after.task.applyActions.2 } ⟨rfl, rfl, rfl⟩ rfl
    case isFalse made =>
      have made : after.task.applyActions.1 = true := by simpa using made
      simpa [made] using @round { after with task := after.task.applyActions.2 } ⟨rfl, rfl, rfl⟩ rfl

theorem reportAgents_done {adapter : Adapter} {indices : List Nat} {state : AgentState}
    (member : state ∈ (adapter.reportAgents indices).1) :
    ∃ index ∈ indices, state.isDone = (adapter.agentAt index).done := by
  induction indices with
  | nil => simp [reportAgents] at member
  | cons index rest ih =>
      have later (older : state ∈ (adapter.reportAgents rest).1) :
          ∃ other ∈ index :: rest, state.isDone = (adapter.agentAt other).done := by
        obtain ⟨other, within, done⟩ := ih older
        exact ⟨other, List.mem_cons_of_mem _ within, done⟩
      unfold reportAgents at member
      simp only at member
      split at member
      · exact later member
      split at member
      case h_1 =>
        obtain rfl := List.mem_singleton.mp member
        exact ⟨index, List.mem_cons_self, rfl⟩
      case h_2 attached attach =>
        rcases List.mem_cons.mp member with rfl | older
        · refine ⟨index, List.mem_cons_self, ?_⟩
          obtain ⟨-, attach⟩ := attachExecutedActionReceipt_iff.mp attach
          split at attach
          · rw [attach.2]
            rfl
          · obtain ⟨actionId, -, -, rfl⟩ := attach
            rfl
        · exact later older

def FinalReport : Command Adapter → Prop
  | ⟨.task .update, issue⟩ => issue.task.environment.allDone = true ∧
      ∀ state ∈ issue.request.agents, state.isDone = true
  | _ => False

theorem observeUpdate_done {adapter : Adapter} (done : adapter.environment.allDone = true) :
    ∀ state ∈ adapter.observeUpdate.1.agents, state.isDone = true := by
  intro state member
  obtain ⟨index, within, same⟩ := reportAgents_done member
  have bound : index < adapter.environment.agents.length := List.mem_range.mp within
  have agent := List.all_eq_true.mp done _ (List.getElem_mem bound)
  rw [same, agentAt, List.getD_eq_getElem?_getD, List.getElem?_eq_getElem bound]
  exact agent

end Adapter

theorem Quiet.trans {τ : Type} {w w' w'' : World τ} (first : Quiet w w')
    (second : Quiet w' w'') : Quiet w w'' :=
  ⟨second.client.trans first.client, second.commands.trans first.commands,
    second.sent.trans first.sent⟩

theorem Reports.after_quiet {τ : Type} {outside : Outside} {final : Command τ → Prop}
    {w before w' : World τ} {result : Option CommandOutcome} (quiet : Quiet w before)
    (reports : Reports outside fuel final before result w') :
    Reports outside fuel final w result w' := by
  cases reports with
  | left settled refusal => exact .left (quiet.trans settled) refusal
  | last quiet' called reported settled => exact .last (quiet.trans quiet') called reported settled
  | next quiet' called rest => exact .next (quiet.trans quiet') called rest

theorem Reports.before_quiet {τ : Type} {outside : Outside} {final : Command τ → Prop}
    {w after w' : World τ} {result : Option CommandOutcome}
    (reports : Reports outside fuel final w result after) (quiet : Quiet after w') :
    Reports outside fuel final w result w' := by
  induction reports with
  | left settled refusal => exact .left (settled.trans quiet) refusal
  | last before called reported settled =>
      exact .last before called reported (settled.trans quiet)
  | next before called rest ih => exact .next before called (ih quiet)

namespace Adapter

-- The induction is on the rounds that are left.
theorem runEpisode_reports (w : World Adapter) : (runEpisode outside fuel).wp
    (Reports outside.toOutside fuel FinalReport w) w := by
  have rounds (remaining : Nat) (w : World Adapter) :
      (Prog.iterate (fun _ => episodeRound observation (exchangeUpdate outside fuel) terminal
        application (observe outside.stopped)) remaining ()).wp
        (Reports outside.toOutside fuel FinalReport w) w := by
    induction remaining generalizing w with
    | zero => exact .left (.refl w) fun applied => by cases applied
    | succ remaining ih =>
        rw [Prog.iterate, Prog.wp_bind]
        apply Prog.wp_mono (episodeRound_spec w)
        intro result w' round
        cases round with
        | stopped quiet => exact .left quiet fun applied => by cases applied
        | refused quiet => exact .left quiet fun applied => by cases applied
        | @sent before after _ issue ended quiet observed update left =>
            have last : Reports outside.toOutside fuel FinalReport w (ended.map Prod.fst) w' := by
              refine .last quiet update.called (fun applied command newest => ?_) update.settled
              rw [update.performed.commands] at newest
              obtain rfl := Option.some.inj newest
              have done := left.resolve_left (fun failed => failed applied)
              refine ⟨?_, ?_⟩
              · rw [update.performed.snapshot, observed.1]
                exact done
              · rw [update.performed.request]
                exact observeUpdate_done done
            cases ended with
            | none => exact last
            | some ended => exact last
        | @applied before after made _ issue ended quiet observed update outcome going settled =>
            have called := update.called
            rw [outcome] at called
            split
            · exact .next quiet called ((ih w').after_quiet (update.settled.trans settled))
            · exact .next quiet called (.left (update.settled.trans settled)
                fun applied => by cases applied)
  have quiet : Quiet w { w with task.updateResponse := {} } := ⟨rfl, rfl, rfl⟩
  simp only [runEpisode, MazeClient.runEpisode, Prog.wp_bind, wp_setTask, Prog.andThen_some]
  apply Prog.wp_mono (rounds fuel _)
  rintro (_ | result) w' reports
  · exact reports.after_quiet quiet
  · have reports := reports.after_quiet quiet
    simp only [Prog.andThen_some]
    split
    · exact reports.before_quiet ⟨rfl, rfl, rfl⟩
    · exact reports

theorem endEpisode_spec (w : World Adapter) : (endEpisode outside fuel).wp (fun result w' =>
    ∃ after, ClientOperation outside.toOutside fuel .endEpisode w result after ∧ Quiet after w' ∧
      w'.task.environment = after.task.environment ∧
      w'.task.chainFailed = after.task.chainFailed) w := by
  have call := @ClientOperation.endEpisode _ outside.toOutside fuel (fun _ rsp =>
    renderEpisodeOutcome rsp w.client.cursor.episodeId w.task.environment.agents.length) w
  simp only [endEpisode, Prog.wp_bind, Prog.wp_get, Prog.andThen_some]
  rw [Prog.wp]
  generalize TaskClient.endEpisode outside.toOutside fuel _ w = ran at call ⊢
  obtain ⟨_ | ended, after⟩ := ran
  · exact ⟨after, call, .refl _, rfl, rfl⟩
  simp only [Prog.andThen_some]
  split
  · exact ⟨after, call, .refl _, rfl, rfl⟩
  · exact ⟨after, call, ⟨rfl, rfl, rfl⟩, rfl, rfl⟩

theorem abortEpisode_spec (w : World Adapter) : (abortEpisode outside fuel).wp (fun result w' =>
    ∃ before, Quiet w before ∧ before.task = w.task ∧
      ClientOperation outside.toOutside fuel .abortEpisode before result w') w := by
  simp only [abortEpisode, Prog.wp_bind, wp_observe, Prog.andThen_some]
  rw [wp_outcomeOf]
  refine ⟨_, ?_, ?_, .abortEpisode _ _⟩
  · exact ⟨rfl, rfl, rfl⟩
  · rfl

theorem closeSession_spec (w : World Adapter) : (closeSession outside fuel).wp
    (ClientOperation outside.toOutside fuel .closeSession w) w := by
  rw [closeSession, wp_outcomeOf]
  exact .closeSession w

end Adapter

theorem mazeClientAdapter_drives (outside : MazeOutside) (fuel : Nat) :
    DrivesClient outside.toOutside fuel Adapter.FinalReport (mazeClientAdapter outside fuel) where
  openSession w := Prog.wp_mono (Adapter.openSession_spec w)
    fun _ _ ⟨quiet, _, result, _⟩ => ⟨_, _, w, .refl w, quiet, result⟩
  initializeTask w := by
    apply Prog.wp_mono (Adapter.initialise_spec w)
    rintro result w' ⟨before, ⟨quiet, -⟩, ⟨rfl, rfl⟩ | ⟨called, -⟩⟩
    · exact .refused quiet nofun
    · exact .passed quiet called (.refl _)
  beginEpisode w := by
    apply Prog.wp_mono (Adapter.beginEpisode_spec w)
    rintro result w' ⟨called, after, call, settled, ⟨-, rfl, -⟩ | ⟨rfl, begun⟩⟩
    · exact .passed (.refl w) call settled
    by_cases applied : result = some .applied
    · rw [applied]
      exact .passed (.refl w) call settled
    · have refused : ∃ outcome, result = some outcome := by
        rcases begun with ⟨same, -⟩ | ⟨-, -, same | same, -⟩ | ⟨same | same, -⟩ <;> exact ⟨_, same⟩
      obtain ⟨outcome, rfl⟩ := refused
      exact .withdrawn (.refl w) call settled fun same => applied (congrArg some same)
  runEpisode w := Adapter.runEpisode_reports w
  endEpisode w := Prog.wp_mono (Adapter.endEpisode_spec w)
    fun _ _ ⟨_, called, settled, _⟩ => .passed (.refl w) called settled
  abortEpisode w := Prog.wp_mono (Adapter.abortEpisode_spec w)
    fun _ w' ⟨before, quiet, _, called⟩ => ⟨before, w', quiet, called, .refl w'⟩
  closeSession w := Prog.wp_mono (Adapter.closeSession_spec w)
    fun _ w' called => ⟨w, w', .refl w, called, .refl w'⟩
  active := rfl
  complete := rfl
  canClose := rfl
  stopped w := ⟨rfl, rfl, rfl, rfl⟩

/-- All a run of the Maze adapter sends is one command after the other, each with its retries, and
they follow the order of the lifecycle: nothing follows one whose outcome is Unknown. -/
theorem mazeClientAdapter_order (outside : MazeOutside) (fuel : Nat) (options : ClientOptions)
    (connected : Bool) (adapter : Adapter) :
    let run := (runSession fuel (mazeClientAdapter outside fuel)
      (World.start options connected adapter)).2
    CommandOrder Adapter.FinalReport (sentCommands run.commands) ∧
      run.sent = (sentCommands run.commands).flatMap Command.attempts :=
  runSession_order (mazeClientAdapter_drives outside fuel) options connected adapter

end MazeClient
