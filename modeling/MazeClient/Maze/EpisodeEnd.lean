import MazeClient.Maze.StepLimit
import Mathlib.Data.Finset.Lattice.Fold
import Mathlib.Order.Lattice.Nat

set_option autoImplicit false

namespace MazeClient

open Program Wire

theorem MazeEnv.Crewed.call {environment : MazeEnv} (crewed : environment.Crewed)
    (made : EnvCall) : (environment.call made).Crewed := by
  cases made with
  | advanceFrame => exact ⟨crewed.populated, crewed.addressable, crewed.numbered⟩
  | reset => exact crewed.reset
  | setMaxSteps maxSteps =>
      change (environment.setMaxSteps maxSteps).Crewed
      unfold setMaxSteps
      split
      · exact ⟨crewed.populated, crewed.addressable, crewed.numbered⟩
      · exact crewed
  | step agentId actionId =>
      unfold MazeEnv.call
      cases ran : environment.step agentId actionId with
      | error _ => simpa [ran] using crewed
      | ok next =>
          obtain ⟨assigned, -, -, rfl⟩ := step_stepped ran
          simp only [ran]
          refine ⟨by simpa using crewed.populated, by simpa using crewed.addressable,
            fun index within => ?_⟩
          have within : index < environment.agents.length := by simpa using within
          rw [Adapter.getD_set]
          split
          case isTrue same =>
            rw [stepAgent_id, ← same.1]
            exact crewed.numbered index within
          case isFalse => exact crewed.numbered index within

theorem MazeEnv.Crewed.run {environment : MazeEnv} (crewed : environment.Crewed)
    (calls : List EnvCall) : (calls.foldl MazeEnv.call environment).Crewed := by
  induction calls generalizing environment with
  | nil => exact crewed
  | cons made calls ih => exact ih (crewed.call made)

theorem Adapter.allDone_iff {adapter : Adapter} : adapter.environment.allDone = true ↔
    ∀ index < adapter.environment.agents.length, (adapter.agentAt index).done = true := by
  rw [MazeEnv.allDone, List.all_eq_true]
  constructor
  · intro done index within
    rw [agentAt, List.getD_eq_getElem _ _ within]
    exact done _ (List.getElem_mem within)
  · intro done agent member
    obtain ⟨index, within, rfl⟩ := List.getElem_of_mem member
    have ended := done index within
    rwa [agentAt, List.getD_eq_getElem _ _ within] at ended

theorem Adapter.exists_live {adapter : Adapter} (going : adapter.environment.allDone = false) :
    ∃ index < adapter.environment.agents.length, (adapter.agentAt index).done = false := by
  by_contra none_
  push Not at none_
  have done := allDone_iff.mpr fun index within => by simpa using none_ index within
  simp [going] at done

inductive Finishes : Adapter → List (Issue Adapter (.task .update)) → MazeEnv → Prop
  | last {issue : Issue Adapter (.task .update)} (made : Made issue)
      (applied : issue.outcome = some .applied) (done : issue.task.environment.allDone = true) :
      Finishes issue.task [issue] issue.task.environment
  | next {issue : Issue Adapter (.task .update)} {reports : List (Issue Adapter (.task .update))}
      {final : MazeEnv} (made : Made issue) (applied : issue.outcome = some .applied)
      (going : issue.task.environment.allDone = false)
      (rest : Finishes issue.settled reports final) : Finishes issue.task (issue :: reports) final

def Issue.command (issue : Issue Adapter (.task .update)) : Command Adapter :=
  ⟨.task .update, issue⟩

def Ends (start : World Adapter) (adapter : Adapter) (result : Option CommandOutcome)
    (w : World Adapter) : Prop :=
  ∃ newer, w.commands = newer ++ start.commands ∧
    ((∃ command ∈ newer, command.issue.outcome ≠ some .applied) ∨
      (result = some .applied ∧ ∃ reports, newer = reports.reverse.map Issue.command ∧
        Finishes adapter reports w.task.environment))

variable {outside : MazeOutside} {fuel : Nat}

-- The induction is on the rounds left, more than the frames left under the limit.
theorem Adapter.Timed.rounds {limit : Int} (steady : ∀ tick, outside.stopped tick = false)
    {remaining : Nat} {w : World Adapter} (synced : w.task.Synced) (timed : w.task.Timed limit)
    (enough : limit - w.task.environment.frameId < remaining) (some_ : 0 < remaining) :
    (Prog.iterate (fun _ => episodeRound Adapter.observation (Adapter.exchangeUpdate outside fuel)
      Adapter.terminal Adapter.application (observe outside.stopped)) remaining ()).wp
      (Ends w w.task) w := by
  induction remaining generalizing w with
  | zero => omega
  | succ remaining ih =>
      rw [Prog.iterate, Prog.wp_bind]
      apply Prog.wp_mono (Adapter.episodeRound_spec w)
      intro result w' round
      cases round with
      | stopped _ _ halted => simp [steady] at halted
      | refused quiet failed =>
          obtain ⟨same, failed⟩ := failed
          simp [same, synced.observed, synced.sound] at failed
      | @sent before after _ issue ended quiet observed update last =>
          have recorded := synced.recorded quiet observed.1 update
          have newest : w'.commands = [issue.command] ++ w.commands := recorded.commands
          by_cases applied : issue.outcome = some .applied
          · obtain ⟨⟨outcome, response⟩, rfl, rfl⟩ :=
              Option.map_eq_some_iff.mp (recorded.outcome.symm.trans applied)
            have done : w.task.environment.allDone = true := by simpa using last
            rw [← recorded.snapshot] at done
            refine ⟨_, newest, .inr ⟨rfl, [issue], rfl, ?_⟩⟩
            change Finishes w.task [issue] w'.task.environment
            rw [recorded.task, afterUpdate_environment, ← recorded.snapshot]
            exact .last recorded.made applied done
          · have failed : Ends w w.task (ended.map Prod.fst) w' :=
              ⟨_, newest, .inl ⟨issue.command, by simp, applied⟩⟩
            cases ended <;> exact failed
      | @applied before after made _ issue ended quiet observed update outcome going settled task =>
          obtain ⟨ran, advanced⟩ :=
            synced.advanced quiet observed.1 update outcome going settled task
          have newest : w'.commands = issue.command :: w.commands := advanced.commands
          obtain ⟨index, within, live⟩ := exists_live going
          have early := timed.early index within live
          have frame := advanced.frame
          have rest := ih frame.synced (timed.next frame) (by rw [frame.frame]; omega) (by omega)
          rw [if_pos ran, Prog.andThen_some]
          apply Prog.wp_mono rest
          rintro result w'' ⟨newer, commands, ends⟩
          refine ⟨newer ++ [issue.command], by simp [commands, newest], ?_⟩
          rcases ends with ⟨command, member, failed⟩ | ⟨rfl, reports, rfl, finishes⟩
          · exact .inl ⟨command, List.mem_append_left _ member, failed⟩
          · refine .inr ⟨rfl, issue :: reports, by simp, ?_⟩
            rw [← advanced.snapshot] at going ⊢
            exact .next advanced.made advanced.applied going (advanced.settled ▸ finishes)

def terminalFrame (reports : List (Issue Adapter (.task .update))) (agentId : Nat) : Nat :=
  reports.findIdx fun report => (report.task.agentAt agentId).done

def lastTerminalFrame (reports : List (Issue Adapter (.task .update))) (agents : Nat) : Nat :=
  (Finset.range agents).sup (terminalFrame reports)

structure Completed (maxSteps agents : Nat) (reports : List (Issue Adapter (.task .update)))
    (final : MazeEnv) : Prop where
  count : reports.length = lastTerminalFrame reports agents + 1
  within : 1 ≤ lastTerminalFrame reports agents ∧ lastTerminalFrame reports agents ≤ maxSteps
  frames : reports.map (fun report => report.request.frameId) = List.range reports.length
  applied : ∀ report ∈ reports, report.outcome = some .applied
  done : ∀ report ∈ reports, (report.task.environment.allDone = true ↔
    report.request.frameId = lastTerminalFrame reports agents)
  reported : ∀ report ∈ reports,
    report.request.agents.all AgentState.isDone = report.task.environment.allDone
  silent : ∀ report ∈ reports, report.task.environment.allDone = true →
    report.response.actions = [] ∧ final = report.task.environment

section

variable {adapter : Adapter} {reports : List (Issue Adapter (.task .update))} {final : MazeEnv}

theorem Finishes.all (finishes : Finishes adapter reports final) :
    ∀ report ∈ reports, Made report ∧ report.outcome = some .applied := by
  induction finishes with
  | last made applied done => simp [made, applied]
  | next made applied going rest ih => exact List.forall_mem_cons.mpr ⟨⟨made, applied⟩, ih⟩

theorem Finishes.frames (finishes : Finishes adapter reports final) :
    reports.map (fun report => report.request.frameId) =
      List.range' adapter.environment.frameId reports.length := by
  induction finishes with
  | last made applied done => simp [made.frame]
  | next made applied going rest ih =>
      have frame := made.nextFrame applied going
      rw [List.map_cons, ih, frame.frame, made.frame, List.length_cons, List.range'_succ]

theorem Finishes.stays (finishes : Finishes adapter reports final) {index : Nat}
    (within : index < adapter.environment.agents.length)
    (done : (adapter.agentAt index).done = true) :
    ∀ report ∈ reports, (report.task.agentAt index).done = true := by
  induction finishes with
  | last made applied all => simpa using done
  | next made applied going rest ih =>
      have frame := made.nextFrame applied going
      refine List.forall_mem_cons.mpr ⟨done, ih (frame.agents ▸ within) ?_⟩
      rw [(frame.waited index within done).1]
      exact done

theorem Finishes.ending (finishes : Finishes adapter reports final) :
    ∃ earlier last, reports = earlier ++ [last] ∧ last.task.environment.allDone = true ∧
      final = last.task.environment ∧
      ∀ report ∈ earlier, report.task.environment.allDone = false := by
  induction finishes with
  | @last issue made applied done => exact ⟨[], issue, rfl, done, rfl, by simp⟩
  | @next issue reports final made applied going rest ih =>
      obtain ⟨earlier, last, rfl, done, same, before⟩ := ih
      exact ⟨issue :: earlier, last, rfl, done, same, List.forall_mem_cons.mpr ⟨going, before⟩⟩

theorem Finishes.terminalFrame_lt (finishes : Finishes adapter reports final) {index : Nat}
    (within : index < adapter.environment.agents.length) :
    terminalFrame reports index < reports.length := by
  induction finishes with
  | @last issue made applied done =>
      have ended := Adapter.allDone_iff.mp done index within
      simp [terminalFrame, List.findIdx_cons, ended]
  | @next issue reports final made applied going rest ih =>
      have frame := made.nextFrame applied going
      have later := ih (frame.agents ▸ within)
      rw [terminalFrame, List.findIdx_cons, List.length_cons]
      cases (issue.task.agentAt index).done
      · exact Nat.succ_lt_succ later
      · exact Nat.succ_pos _

theorem Finishes.exists_terminalFrame (finishes : Finishes adapter reports final)
    (populated : 0 < adapter.environment.agents.length) :
    ∃ index < adapter.environment.agents.length,
      terminalFrame reports index + 1 = reports.length := by
  induction finishes with
  | @last issue made applied done =>
      have ended := Adapter.allDone_iff.mp done 0 populated
      exact ⟨0, populated, by simp [terminalFrame, List.findIdx_cons, ended]⟩
  | @next issue reports final made applied going rest ih =>
      have frame := made.nextFrame applied going
      have onward (index : Nat) (live : (issue.task.agentAt index).done = false)
          (last : terminalFrame reports index + 1 = reports.length) :
          terminalFrame (issue :: reports) index + 1 = (issue :: reports).length := by
        rw [terminalFrame, List.findIdx_cons, live, List.length_cons, ← last]
        rfl
      obtain ⟨index, within, last⟩ := ih (frame.agents ▸ populated)
      cases live : (issue.task.agentAt index).done with
      | false => exact ⟨index, frame.agents ▸ within, onward index live last⟩
      | true =>
          -- Nobody goes on after this frame, so whoever is left ends with it.
          obtain ⟨other, inside, running⟩ := Adapter.exists_live going
          have stays : (issue.settled.agentAt index).done = true := by
            rw [(frame.waited index (frame.agents ▸ within) live).1]
            exact live
          have ended := rest.stays within stays
          have least : terminalFrame reports index = 0 := by
            cases reports with
            | nil => rfl
            | cons report reports =>
                rw [terminalFrame, List.findIdx_cons, ended report List.mem_cons_self]
                rfl
          have bound := rest.terminalFrame_lt (frame.agents.symm ▸ inside)
          exact ⟨other, inside, onward other running (by omega)⟩

theorem Finishes.lastTerminalFrame (finishes : Finishes adapter reports final)
    (populated : 0 < adapter.environment.agents.length) :
    reports.length = MazeClient.lastTerminalFrame reports adapter.environment.agents.length + 1 := by
  obtain ⟨index, within, last⟩ := finishes.exists_terminalFrame populated
  have low : terminalFrame reports index ≤
      MazeClient.lastTerminalFrame reports adapter.environment.agents.length := by
    unfold MazeClient.lastTerminalFrame
    exact Finset.le_sup (Finset.mem_range.mpr within)
  have high : MazeClient.lastTerminalFrame reports adapter.environment.agents.length ≤
      terminalFrame reports index := by
    refine Finset.sup_le fun other member => ?_
    have bound := finishes.terminalFrame_lt (Finset.mem_range.mp member)
    omega
  omega

theorem Finishes.within {limit : Int} (finishes : Finishes adapter reports final)
    (timed : adapter.Timed limit) (start : adapter.environment.frameId ≤ limit) :
    adapter.environment.frameId + reports.length ≤ limit + 1 := by
  induction finishes with
  | last made applied done => simpa using start
  | next made applied going rest ih =>
      have frame := made.nextFrame applied going
      obtain ⟨index, within, live⟩ := Adapter.exists_live going
      have early := timed.early index within live
      have later := ih (timed.next frame) (by rw [frame.frame]; omega)
      rw [frame.frame] at later
      rw [List.length_cons]
      omega

theorem Made.reported {report : Issue Adapter (.task .update)} (made : Made report) :
    report.request.agents.all AgentState.isDone = report.task.environment.allDone := by
  rw [made.request, made.synced.observed, Bool.eq_iff_iff, List.all_eq_true, Adapter.allDone_iff]
  constructor
  · intro ended index within
    by_contra live
    have live : (report.task.agentAt index).done = false := by simpa using live
    have unretired : (report.task.cursorAt index).retired = false := by
      by_contra retired
      simp [((made.synced.accounted _ within).retired (by simpa using retired)).1] at live
    have shown := ended _ (List.mem_map_of_mem (Adapter.mem_liveAgents.mpr ⟨within, unretired⟩))
    simp [Adapter.report, Adapter.observedState, live] at shown
  · rintro ended state member
    obtain ⟨index, listed, rfl⟩ := List.mem_map.mp member
    exact ended index (Adapter.mem_liveAgents.mp listed).1

theorem Finishes.completed {maxSteps : Nat} (finishes : Finishes adapter reports final)
    (timed : adapter.Timed maxSteps) (fresh : adapter.Fresh)
    (populated : 0 < adapter.environment.agents.length) :
    Completed maxSteps adapter.environment.agents.length reports final := by
  have count := finishes.lastTerminalFrame populated
  have frames := finishes.frames
  rw [fresh.frame, ← List.range_eq_range'] at frames
  have all := finishes.all
  have limit := finishes.within timed (by rw [fresh.frame]; exact Int.natCast_nonneg _)
  rw [fresh.frame] at limit
  obtain ⟨earlier, last, rfl, done, same, before⟩ := finishes.ending
  have first : earlier ≠ [] := by
    rintro rfl
    cases finishes with
    | last made applied done =>
        have ended := Adapter.allDone_iff.mp done 0 populated
        simp [fresh.running] at ended
    | next made applied going rest =>
        obtain ⟨_, _, none_, -⟩ := rest.ending
        simp at none_
  have some_ := List.length_pos_of_ne_nil first
  simp only [List.map_append, List.map_cons, List.map_nil, List.length_append, List.length_cons,
    List.length_nil, Nat.zero_add, List.range_succ] at frames count limit
  obtain ⟨numbers, number⟩ := List.append_inj' frames rfl
  refine ⟨by simpa using count, by omega, by simpa [List.range_succ] using frames,
    fun report member => (all report member).2, ?_, fun report member => ?_, ?_⟩
  · refine List.forall_mem_append.mpr ⟨fun report member => ?_, fun report member => ?_⟩
    · have number : report.request.frameId ∈ List.range earlier.length :=
        numbers ▸ List.mem_map_of_mem member
      have below := List.mem_range.mp number
      simp only [before report member, Bool.false_eq_true, false_iff]
      omega
    · obtain rfl := List.mem_singleton.mp member
      have number := List.singleton_inj.mp number
      simp only [done, true_iff]
      omega
  · exact (all report member).1.reported
  · refine List.forall_mem_append.mpr ⟨fun report member done => ?_, fun report member _ => ?_⟩
    · simp [before report member] at done
    · obtain rfl := List.mem_singleton.mp member
      obtain ⟨made, applied⟩ := all report (by simp)
      obtain ⟨next, -, frame⟩ := made.synced.apply (made.prepared applied)
      exact ⟨frame.silent done, same⟩

end

/-- If every Update of an episode is Applied and nobody asks to stop, the episode ends by itself:
within its limit, with one report of all agents done, and no action after it. -/
theorem runEpisode_completes {load : String → GridMap → Bool × GridMap} {config : ClientConfig}
    {environment : MazeEnv} {calls : List MazeEnv.EnvCall} {assignment : EpisodeAssignment}
    {adapter : Adapter} {w : World Adapter}
    (initialised : (environment.init load config).1 = true)
    (few : config.run.agentNum < 2147483648)
    (built : adapter.environment = calls.foldl MazeEnv.call (environment.init load config).2)
    (sound : adapter.chainFailed = false) (begun : w.task = Adapter.begun assignment adapter)
    (positive : 0 < assignment.maxSteps) (short : assignment.maxSteps < 2147483648)
    (steady : ∀ tick, outside.stopped tick = false) (enough : assignment.maxSteps < fuel)
    (applied : ∀ newer, (Adapter.runEpisode outside fuel w).2.commands = newer ++ w.commands →
      ∀ command ∈ newer, command.issue.outcome = some .applied) :
    let run := Adapter.runEpisode outside fuel w
    run.1 = some .applied ∧ ∃ reports,
      run.2.commands = reports.reverse.map Issue.command ++ w.commands ∧
        Completed assignment.maxSteps w.task.environment.agents.length reports
          run.2.task.environment := by
  intro run
  have crewed : adapter.environment.Crewed :=
    built ▸ (MazeEnv.init_crewed few initialised).run calls
  have limit : toInt32 assignment.maxSteps = assignment.maxSteps := by
    unfold toInt32
    split <;> omega
  let start : World Adapter := { w with task.updateResponse := {} }
  have synced : start.task.Synced := by
    obtain ⟨crewed, aligned, sound, accounted⟩ := Adapter.begun_synced assignment crewed sound
    rw [← begun] at crewed aligned sound accounted
    exact ⟨crewed, aligned, sound, accounted⟩
  have fresh : start.task.Fresh := by
    obtain ⟨frame, running, active, unblocked, empty⟩ := @Adapter.begun_fresh adapter assignment
    rw [← begun] at frame running active unblocked empty
    exact ⟨frame, running, active, unblocked, empty⟩
  have timed : start.task.Timed assignment.maxSteps := by
    refine ⟨?_, fun index _ _ => fresh.active index, fun index _ _ => ?_⟩
    · change w.task.environment.maxSteps = _
      rw [begun, Adapter.begun, MazeEnv.reset, MazeEnv.setMaxSteps, if_pos (by omega), limit]
    · rw [fresh.frame]
      exact Int.natCast_pos.mpr positive
  have ends : Ends start start.task run.1 run.2 := by
    have rounds := @Adapter.Timed.rounds outside fuel assignment.maxSteps steady fuel start synced
      timed (by rw [fresh.frame]; omega) (by omega)
    have whole : (Adapter.runEpisode outside fuel).wp (Ends start start.task) w := by
      simp only [Adapter.runEpisode, MazeClient.runEpisode, Prog.wp_bind, Adapter.wp_setTask,
        Prog.andThen_some]
      apply Prog.wp_mono rounds
      rintro (_ | outcome) w' ends
      · exact ends
      · rw [Prog.andThen_some]
        split
        · exact ends
        · exact ends
    exact whole
  obtain ⟨newer, commands, ⟨command, member, failed⟩ | ⟨result, reports, rfl, finishes⟩⟩ := ends
  · exact absurd (applied newer commands command member) failed
  · exact ⟨result, reports, commands, finishes.completed timed fresh synced.crewed.populated⟩

theorem runEpisode_completes_two :
    let load := (idleServer 2).loadMapFromFile 0
    let config : ClientConfig := { run.agentNum := 1, env.mapFile := "pair.json" }
    let adapter : Adapter := { config, environment := (MazeEnv.init load config {}).2 }
    let assignment : EpisodeAssignment :=
      { episodeId := "episode", mode := .training, maxSteps := 2 }
    let w : World Adapter :=
      { client :=
          { transport.connected := true
            cursor :=
              { sessionId := "session", sessionEpoch := 1, nextSequence := 3
                phase := .episodeRunning, episodeId := "episode" } }
        task := Adapter.begun assignment adapter }
    (Adapter.runEpisode (idleServer 2) 4 w).1 = some .applied ∧
      ∃ reports, (Adapter.runEpisode (idleServer 2) 4 w).2.commands =
        reports.reverse.map Issue.command ∧ reports.length = 3 ∧
        Completed 2 1 reports (Adapter.runEpisode (idleServer 2) 4 w).2.task.environment := by
  intro load config adapter assignment w
  have initialised : (MazeEnv.init load config {}).1 = true := by decide +kernel
  have applied : ∀ command ∈ (Adapter.runEpisode (idleServer 2) 4 w).2.commands,
      command.issue.outcome = some .applied := by decide +kernel
  have count : (Adapter.runEpisode (idleServer 2) 4 w).2.commands.length = 3 := by decide +kernel
  have agents : w.task.environment.agents.length = 1 := by decide +kernel
  obtain ⟨result, reports, commands, completed⟩ := @runEpisode_completes (idleServer 2) 4 load config
    {} [] assignment adapter w initialised (by decide) rfl rfl rfl (by decide) (by decide) (fun _ => rfl) (by decide)
    fun newer same command member => applied command (by
      rw [same]
      exact List.mem_append_left _ member)
  have commands : (Adapter.runEpisode (idleServer 2) 4 w).2.commands =
      reports.reverse.map Issue.command := commands.trans (List.append_nil _)
  refine ⟨result, reports, commands, ?_, agents ▸ completed⟩
  rw [commands] at count
  simpa using count

end MazeClient
