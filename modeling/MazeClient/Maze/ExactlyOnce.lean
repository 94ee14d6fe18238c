import Mathlib.Data.List.Chain
import MazeClient.Maze.LocalFailures

set_option autoImplicit false

namespace MazeClient

def episodeUpdates : List (Command Adapter) → List (Issue Adapter (.task .update))
  | [] => []
  | ⟨.task .update, issue⟩ :: earlier => episodeUpdates earlier ++ [issue]
  | ⟨.task .beginEpisode, _⟩ :: _ => []
  | _ :: earlier => episodeUpdates earlier

def Issue.reportedIds (issue : Issue Adapter (.task .update)) : List Nat :=
  issue.request.agents.map AgentState.agentId

structure Describes (agent : AgentInfo) (state : AgentState) : Prop where
  position : state.position = some { x := .ofInt agent.gridX, y := .ofInt agent.gridY }
  isDone : state.isDone = agent.done
  lastMoveBlocked : state.lastMoveBlocked = agent.lastMoveBlocked
  terminationReason : state.terminationReason = toProtoTerminationReason agent.terminationReason

structure Follows (earlier later : Issue Adapter (.task .update)) : Prop where
  applied : earlier.outcome = some .applied
  agents : later.task.environment.agents.length = earlier.task.environment.agents.length
  executed : ∃ environment,
    earlier.task.environment.stepAll earlier.response.actions = .ok environment ∧
      later.task.environment = environment.advanceFrame
  distinct : (earlier.response.actions.map AgentAction.agentId).Nodup
  receipts : ∀ state ∈ later.request.agents, state.agentId ∈ earlier.reportedIds ∧
    ∃ action ∈ earlier.response.actions, action.agentId = state.agentId ∧
      state.executedActionId = some action.actionId ∧
      later.task.agentAt state.agentId = earlier.task.environment.stepAgent
        (earlier.task.agentAt state.agentId) action.actionId

/-- The Updates of one episode. Only the last may fail to be Applied. -/
structure ExactlyOnce (reports : List (Issue Adapter (.task .update))) : Prop where
  frames : reports.map (fun report => report.request.frameId) = List.range reports.length
  described : ∀ report ∈ reports, ∀ state ∈ report.request.agents,
    Describes (report.task.agentAt state.agentId) state
  distinct : ∀ report ∈ reports, report.reportedIds.Nodup
  reported : ∀ earlier report later, reports = earlier ++ report :: later → ∀ agentId,
    agentId ∈ report.reportedIds ↔ agentId < report.task.environment.agents.length ∧
      ∀ previous ∈ earlier, (previous.task.agentAt agentId).done = false
  first : ∀ report ∈ reports.head?, ∀ state ∈ report.request.agents,
    state.executedActionId = none
  next : reports.IsChain Follows

theorem Made.reportedIds {issue : Issue Adapter (.task .update)} (made : Made issue) :
    issue.reportedIds = issue.task.liveAgents := by
  rw [Issue.reportedIds, made.request, made.synced.observed]
  exact made.synced.ids

theorem Made.frame {issue : Issue Adapter (.task .update)} (made : Made issue) :
    issue.request.frameId = issue.task.environment.frameId := by
  rw [made.request, made.synced.observed]

theorem Made.state {issue : Issue Adapter (.task .update)} (made : Made issue)
    {state : AgentState} (member : state ∈ issue.request.agents) :
    state.agentId ∈ issue.task.liveAgents ∧ state = issue.task.report state.agentId := by
  rw [made.request, made.synced.observed] at member
  obtain ⟨index, live, rfl⟩ := List.mem_map.mp member
  rw [made.synced.named live]
  exact ⟨live, rfl⟩

theorem Made.describes {issue : Issue Adapter (.task .update)} (made : Made issue)
    {state : AgentState} (member : state ∈ issue.request.agents) :
    Describes (issue.task.agentAt state.agentId) state := by
  obtain ⟨-, same⟩ := made.state member
  rw [same, made.synced.named (made.state member).1]
  exact ⟨rfl, rfl, rfl, rfl⟩

theorem Made.nextFrame {issue : Issue Adapter (.task .update)} (made : Made issue)
    (applied : issue.outcome = some .applied)
    (going : issue.task.environment.allDone = false) :
    issue.task.NextFrame issue.response.actions issue.settled := by
  obtain ⟨next, ran, frame⟩ := made.synced.apply (made.prepared applied)
  rw [Issue.settled, if_pos ⟨applied, going⟩, ran]
  exact frame

theorem Launched.follows {previous previous' : Option (Command Adapter)}
    {before issue : Issue Adapter (.task .update)} (launched : Launched previous before)
    (launched' : Launched previous' issue) (applied : before.outcome = some .applied)
    (frame : before.task.NextFrame before.response.actions issue.task) :
    Follows before issue := by
  refine ⟨applied, frame.agents, frame.stepped, frame.once, fun state member => ?_⟩
  obtain ⟨live, same⟩ := launched'.state member
  obtain ⟨within, live⟩ := Adapter.mem_liveAgents.mp live
  have within : state.agentId < before.task.environment.agents.length := frame.agents ▸ within
  have running : (before.task.agentAt state.agentId).done = false := by
    by_contra done
    simp [(frame.waited _ within (by simpa using done)).2] at live
  refine ⟨?_, ?_⟩
  · rw [launched.reportedIds, Adapter.mem_liveAgents]
    refine ⟨within, ?_⟩
    by_contra retired
    simp [((launched.synced.accounted _ within).retired (by simpa using retired)).1] at running
  · obtain ⟨action, assigned, named⟩ :=
      List.mem_map.mp ((frame.covered _).mpr ⟨within, running⟩)
    obtain ⟨agent, held⟩ := frame.acted action assigned
    rw [named] at agent held
    refine ⟨action, assigned, named, ?_, agent⟩
    rw [same]
    simp [Adapter.report, held]

theorem ExactlyOnce.extend {reports : List (Issue Adapter (.task .update))}
    {previous : Option (Command Adapter)} {issue : Issue Adapter (.task .update)}
    (before : ExactlyOnce reports) (launched : Launched previous issue)
    (frame : issue.task.environment.frameId = reports.length)
    (first : reports = [] → ∀ index, issue.task.cursorAt index = {})
    (follows : ∀ last ∈ reports.getLast?, Follows last issue)
    (reported : ∀ agentId, agentId ∈ issue.reportedIds ↔
      agentId < issue.task.environment.agents.length ∧
        ∀ previous ∈ reports, (previous.task.agentAt agentId).done = false) :
    ExactlyOnce (reports ++ [issue]) where
  frames := by
    simp [before.frames, List.range_succ, launched.frame, frame]
  described := by
    intro report member
    rcases List.mem_append.mp member with older | newest
    · exact before.described report older
    · obtain rfl := List.mem_singleton.mp newest
      exact fun state reported => launched.describes reported
  distinct := by
    intro report member
    rcases List.mem_append.mp member with older | newest
    · exact before.distinct report older
    · obtain rfl := List.mem_singleton.mp newest
      rw [launched.reportedIds]
      exact List.nodup_range.filter _
  reported := by
    intro earlier report later split agentId
    rcases List.eq_nil_or_concat later with rfl | ⟨rest, last, rfl⟩
    · obtain ⟨rfl, same⟩ := List.append_inj' split rfl
      obtain rfl : issue = report := List.singleton_inj.mp same
      exact reported agentId
    · have split : reports ++ [issue] = (earlier ++ report :: rest) ++ [last] := by
        rw [split]
        simp
      exact before.reported earlier report rest (List.append_inj' split rfl).1 agentId
  first := by
    intro report newest state member
    cases reports with
    | nil =>
        obtain rfl : issue = report := Option.some.inj newest
        rw [(launched.state member).2]
        simp [Adapter.report, first rfl]
    | cons head rest => exact before.first report newest state member
  next := by
    refine List.isChain_append.mpr ⟨before.next, .singleton _, ?_⟩
    intro last newest later same
    obtain rfl : issue = later := Option.some.inj same
    exact follows last newest

theorem Tracked.newest {issue : Issue Adapter (.task .update)} {earlier : List (Command Adapter)}
    (tracked : Tracked (⟨.task .update, issue⟩ :: earlier)) :
    Tracked earlier ∧ Launched earlier.head? issue := by
  cases tracked with
  | other tracked named linked => exact absurd rfl named
  | update tracked launched => exact ⟨tracked, launched⟩

theorem ExactlyOnce.nil : ExactlyOnce [] where
  frames := rfl
  described := by simp
  distinct := by simp
  reported := by simp
  first := by simp
  next := .nil

theorem Launched.opens {previous : Option (Command Adapter)}
    {issue : Issue Adapter (.task .update)} (launched : Launched previous issue)
    (fresh : issue.task.Fresh) : ExactlyOnce [issue] := by
  apply ExactlyOnce.nil.extend launched fresh.frame (fun _ => fresh.empty) (by simp)
  intro agentId
  simp [launched.reportedIds, Adapter.mem_liveAgents, fresh.empty]

theorem Launched.continues {reports : List (Issue Adapter (.task .update))}
    {previous previous' : Option (Command Adapter)} {before issue : Issue Adapter (.task .update)}
    (once : ExactlyOnce (reports ++ [before])) (launched : Launched previous before)
    (launched' : Launched previous' issue) (applied : before.outcome = some .applied)
    (frame : before.task.NextFrame before.response.actions issue.task) :
    ExactlyOnce (reports ++ [before] ++ [issue]) := by
  apply once.extend launched'
  case frame =>
    have frames := once.frames
    simp only [List.map_append, List.map_cons, List.map_nil, List.length_append, List.length_cons,
      List.length_nil, Nat.zero_add, List.range_succ] at frames
    have last : before.request.frameId = reports.length :=
      List.singleton_inj.mp (List.append_inj' frames rfl).2
    rw [frame.frame, ← launched.frame, last]
    simp
  case first => simp
  case follows =>
    intro last newest
    obtain rfl : before = last := by simpa using newest
    exact launched.follows launched' applied frame
  case reported =>
    intro agentId
    have before_ := once.reported reports before [] rfl agentId
    rw [launched.reportedIds, Adapter.mem_liveAgents] at before_
    rw [launched'.reportedIds, Adapter.mem_liveAgents, frame.agents]
    constructor
    · rintro ⟨within, live⟩
      have running : (before.task.agentAt agentId).done = false := by
        by_contra done
        simp [(frame.waited _ within (by simpa using done)).2] at live
      have unretired : (before.task.cursorAt agentId).retired = false := by
        by_contra retired
        have done := (launched.synced.accounted _ within).retired (by simpa using retired)
        simp [running] at done
      refine ⟨within, List.forall_mem_append.mpr ⟨(before_.mp ⟨within, unretired⟩).2, ?_⟩⟩
      exact List.forall_mem_singleton.mpr running
    · rintro ⟨within, running⟩
      have running := running before (by simp)
      obtain ⟨action, assigned, rfl⟩ := List.mem_map.mp ((frame.covered _).mpr ⟨within, running⟩)
      exact ⟨within, by rw [(frame.acted action assigned).2]⟩

theorem Tracked.exactlyOnce {commands : List (Command Adapter)} (tracked : Tracked commands) :
    ExactlyOnce (episodeUpdates commands) := by
  induction tracked with
  | nil => exact .nil
  | @other command earlier tracked named linked ih =>
      unfold episodeUpdates
      split
      case h_1 => exact .nil
      case h_2 same =>
        cases same
        exact absurd rfl named
      case h_3 => exact .nil
      case h_4 same =>
        cases same
        exact ih
  | @update issue earlier tracked launched ih =>
      have positioned := launched.positioned
      rw [episodeUpdates]
      unfold Positioned at positioned
      split at positioned
      case h_1 newest =>
        obtain ⟨older, rfl⟩ := List.head?_eq_some_iff.mp newest
        exact launched.opens positioned.fresh
      case h_2 before newest =>
        obtain ⟨older, rfl⟩ := List.head?_eq_some_iff.mp newest
        obtain ⟨applied, going, task⟩ := positioned
        have prior := tracked.newest.2
        exact prior.continues ih launched applied (task ▸ prior.nextFrame applied going)
      case h_3 => cases positioned

theorem Tracked.suffix {commands earlier : List (Command Adapter)} (tracked : Tracked commands)
    (older : earlier <:+ commands) : Tracked earlier := by
  induction tracked with
  | nil => exact List.suffix_nil.mp older ▸ .nil
  | other tracked named linked ih =>
      rcases List.suffix_cons_iff.mp older with rfl | older
      · exact .other tracked named linked
      · exact ih older
  | update tracked launched ih =>
      rcases List.suffix_cons_iff.mp older with rfl | older
      · exact .update tracked launched
      · exact ih older

theorem Tracked.linked {command : Command Adapter} {earlier : List (Command Adapter)}
    (tracked : Tracked (command :: earlier)) :
    Linked earlier.head? command.issue.task.environment := by
  cases tracked with
  | other tracked named linked => exact linked
  | update tracked launched => exact launched.positioned.linked

theorem Adapter.NextFrame.silent {adapter next : Adapter} {actions : List AgentAction}
    (frame : adapter.NextFrame actions next) (done : adapter.environment.allDone = true) :
    actions = [] := by
  cases actions with
  | nil => rfl
  | cons action rest =>
      obtain ⟨within, running⟩ := (frame.covered action.agentId).mp (by simp)
      have member : adapter.environment.agents[action.agentId] ∈ adapter.environment.agents :=
        List.getElem_mem within
      have ended := List.all_eq_true.mp done _ member
      simp [Adapter.agentAt, List.getD_eq_getElem?_getD, within, ended] at running

structure Executes (issue : Issue Adapter (.task .update)) (next : MazeEnv) : Prop where
  applied : issue.outcome = some .applied →
    (issue.response.actions.map AgentAction.agentId).Nodup ∧
      ∃ environment, issue.task.environment.stepAll issue.response.actions = .ok environment ∧
        next = if issue.task.environment.allDone then environment else environment.advanceFrame
  unapplied : issue.outcome ≠ some .applied → next = issue.task.environment

theorem Launched.executes {previous : Option (Command Adapter)}
    {issue : Issue Adapter (.task .update)} (launched : Launched previous issue) :
    Executes issue issue.settled.environment where
  applied := by
    intro applied
    obtain ⟨next, -, frame⟩ := launched.synced.apply (launched.prepared applied)
    refine ⟨frame.once, ?_⟩
    cases going : issue.task.environment.allDone with
    | false =>
        obtain ⟨environment, stepped, same⟩ := (launched.nextFrame applied going).stepped
        exact ⟨environment, stepped, by simpa using same⟩
    | true =>
        rw [frame.silent going]
        exact ⟨_, rfl, by simp [Issue.settled, going]⟩
  unapplied failed := by simp [Issue.settled, failed]

/-- Within an episode the reports tell exactly of the actions executed, and whatever comes after
an Update finds its batch executed once if it was Applied, and nothing executed otherwise. -/
theorem updates_exactly_once (outside : MazeOutside) (fuel : Nat) (options : ClientOptions)
    (connected : Bool) (config : ClientConfig) (environment : MazeEnv) :
    let run := (runSession fuel (mazeClientAdapter outside fuel)
      (World.start options connected (Adapter.start config environment))).2
    (∀ commands, commands <:+ run.commands → ExactlyOnce (episodeUpdates commands)) ∧
      ∀ newer issue earlier, run.commands = newer ++ ⟨.task .update, issue⟩ :: earlier →
        Executes issue
          ((newer.getLast?.map fun command => command.issue.task).getD run.task).environment := by
  have left := mazeClientAdapter_left outside fuel options connected config environment
  refine ⟨fun commands older => (left.tracked.suffix older).exactlyOnce, ?_⟩
  intro newer issue earlier record
  have tracked := left.tracked
  have linked := left.linked
  rw [record] at tracked linked
  have launched := (tracked.suffix (List.suffix_append newer _)).newest.2
  rcases List.eq_nil_or_concat newer with rfl | ⟨newer, next, rfl⟩
  · have same : _ = issue.settled.environment := linked
    exact same ▸ launched.executes
  · rw [List.concat_eq_append, List.append_assoc] at tracked
    have same : _ = issue.settled.environment :=
      (tracked.suffix (List.suffix_append newer _)).linked
    rw [List.concat_eq_append, List.getLast?_concat]
    exact same ▸ launched.executes

end MazeClient
