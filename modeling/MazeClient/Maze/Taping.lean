import MazeClient.Maze.Tapes

set_option autoImplicit false

namespace MazeClient

open Program Wire

variable {outside : MazeOutside} {system : RecorderOutside} {viz : RecorderConfig} {fuel : Nat}

namespace Taped

theorem beginEpisode_erases :
    (beginEpisode outside system fuel).Erases (Adapter.beginEpisode outside fuel) := by
  refine (Prog.erases_alongside _).bind fun ended => .ite (Prog.erases_pure _) ?_
  refine .ite (Prog.erases_pure _) (.ite (Prog.erases_pure _) ?_)
  refine (Prog.erases_alongside _).bind fun w => .ite (Prog.erases_pure _) ?_
  refine (Prog.erases_alongside _).bind fun _ => (Prog.erases_alongside _).bind fun w => ?_
  refine .ite ((Prog.erases_alongside _).bind fun started => ?_) (Prog.erases_pure _)
  exact .after (.ite (Prog.erases_pure _) (Prog.erases_pure _))

theorem application_erases : (application system viz).Erases Adapter.application := by
  refine (Prog.erases_alongside _).before fun applied => ?_
  cases applied
  · exact Prog.erases_pure _
  · exact .after (Prog.erases_pure _)

def round (outside : MazeOutside) (system : RecorderOutside) (viz : RecorderConfig) (fuel : Nat) :
    Prog (World Adapter × Recording) (Unit ⊕ CommandOutcome) :=
  episodeRound (Prog.alongside Adapter.observation)
    (fun request => Prog.alongside (Adapter.exchangeUpdate outside fuel request))
    (Prog.alongside Adapter.terminal) (application system viz)
    (Prog.alongside (observe outside.stopped))

theorem round_erases (outside : MazeOutside) (system : RecorderOutside) (viz : RecorderConfig)
    (fuel : Nat) : (round outside system viz fuel).Erases
    (episodeRound Adapter.observation (Adapter.exchangeUpdate outside fuel) Adapter.terminal
      Adapter.application (observe outside.stopped)) :=
  erases_episodeRound (Prog.erases_alongside _) (fun _ => Prog.erases_alongside _)
    (Prog.erases_alongside _) application_erases (Prog.erases_alongside _)

theorem runEpisode_erases :
    (runEpisode outside system viz fuel).Erases (Adapter.runEpisode outside fuel) := by
  refine (Prog.erases_alongside _).bind fun _ => ?_
  refine (Prog.erases_iterate (fun _ => round_erases _ _ _ _) fuel ()).bind fun result => .ite ?_ ?_
  · exact (Prog.erases_alongside _).bind fun _ => .after (Prog.erases_pure _)
  · exact .after (Prog.erases_pure _)

theorem abortEpisode_erases :
    (abortEpisode outside fuel).Erases (Adapter.abortEpisode outside fuel) :=
  .after (Prog.erases_alongside _)

end Taped

theorem recordingAdapter_erases (outside : MazeOutside) (system : RecorderOutside)
    (viz : RecorderConfig) (fuel : Nat) :
    (recordingAdapter outside system viz fuel).Erases (mazeClientAdapter outside fuel) where
  openSession := Prog.erases_alongside _
  initializeTask := Prog.erases_alongside _
  beginEpisode := Taped.beginEpisode_erases
  runEpisode := Taped.runEpisode_erases
  endEpisode := Prog.erases_alongside _
  abortEpisode := Taped.abortEpisode_erases
  closeSession := Prog.erases_alongside _
  active := Prog.erases_alongside _
  complete := Prog.erases_alongside _
  canClose := Prog.erases_alongside _
  stopped := Prog.erases_alongside _

/-- Of its recorder a run learns no more than whether each Begin could start: with the same answers
to these, two recorders make no difference to what it sends, nor to the client it leaves. -/
theorem recordingAdapter_transparent (outside : MazeOutside) (system system' : RecorderOutside)
    (viz viz' : RecorderConfig) (fuel : Nat) (w : World Adapter) (recording recording' : Recording) :
    let run := runSession fuel (recordingAdapter outside system viz fuel) (w, recording)
    let run' := runSession fuel (recordingAdapter outside system' viz' fuel) (w, recording')
    run.1 = run'.1 ∧ run.2.1 = run'.2.1 := by
  intro run run'
  have one := (recordingAdapter_erases outside system viz fuel).runSession fuel (w, recording)
  have other := (recordingAdapter_erases outside system' viz' fuel).runSession fuel (w, recording')
  exact Prod.mk.inj (one.trans other.symm)

inductive BeginTape (system : RecorderOutside) (recording : Recording) (w' : World Adapter)
    (result : Option CommandOutcome) (after : Recording) : Prop
  | untouched (same : after = recording) (unopened : result = some .applied →
      w'.client.complete = true ∨ w'.task.config.viz.recordingEnabled = false)
  | asked (started : Bool) (enabled : w'.task.config.viz.recordingEnabled = true)
      (going : w'.client.complete = false)
      (begun : after = recording.beginRecord system started w'.task.config.viz.outputDir
        w'.task.episodeNumber w'.task.environment.map.mapId w'.task.environment.loadedMapPath)
      (answer : result = some (if started then .applied else .rejected))

theorem beginEpisode_complete (w : World Adapter) :
    (TaskClient.beginEpisode outside.toOutside fuel (fun _ _ => true) outside.stopped).wp
      (fun ended after => ∀ response, ended = some (.applied, response) →
        response.hasTaskComplete = true → after.client.complete = true) w := by
  have performed := @beginEpisode_performed _ outside.toOutside fuel w (fun _ _ => true)
    outside.stopped
  rw [Prog.wp] at performed ⊢
  rintro response ended complete
  obtain ⟨issue, performed⟩ := performed
  have applied : issue.outcome = some .applied := by rw [performed.outcome, ended]; rfl
  have answered : issue.response = response := (performed.returned _ ended).1
  have admits := (performed.applied applied).1
  rw [answered] at admits
  have succeeded : response.reply.phase = .taskComplete := by
    cases outcome : response.outcome <;>
      simp_all [TaskRpc.admits, BeginEpisodeRsp.hasTaskComplete, BeginEpisodeRsp.hasAssignment]
  have phase : (TaskClient.beginEpisode outside.toOutside fuel (fun _ _ => true)
      outside.stopped w).2.client.cursor.phase = response.reply.phase := by
    rw [performed.cursor, issue.after_phase, if_pos applied, answered]
    rfl
  simp [TaskClient.complete, phase, succeeded]

theorem Taped.beginEpisode_spec (s : World Adapter × Recording) :
    (Taped.beginEpisode outside system fuel).wp
      (fun result s' => BeginTape system s.2 s'.1 result s'.2) s := by
  have failed {w' : World Adapter} {outcome : CommandOutcome} (unapplied : outcome ≠ .applied) :
      BeginTape system s.2 w' (some outcome) s.2 :=
    .untouched rfl fun applied => absurd (Option.some.inj applied) unapplied
  simp only [Taped.beginEpisode, Prog.wp_bind, Prog.wp_alongside]
  apply Prog.wp_mono (beginEpisode_complete s.1)
  rintro (_ | ⟨outcome, response⟩) after complete
  · exact .untouched rfl nofun
  simp only [Prog.andThen_some]
  split
  case isTrue unapplied => exact failed unapplied
  case isFalse applied =>
  obtain rfl : outcome = .applied := by simpa using applied
  split
  case isTrue done => exact .untouched rfl fun _ => .inl (complete response rfl done)
  split
  case isTrue => exact failed nofun
  simp only [Taped.current, Prog.wp_bind, Prog.wp_alongside, Prog.wp_get, Prog.andThen_some]
  split
  case isTrue => exact failed nofun
  case isFalse accepted =>
  have going : after.client.complete = false := by
    have accepted := by simpa using accepted
    simp only [Adapter.acceptsAssignment, Bool.and_eq_true, decide_eq_true_eq] at accepted
    simp [TaskClient.complete, accepted]
  simp only [Prog.wp_bind, Prog.wp_alongside, Adapter.wp_setTask, Prog.wp_get, Prog.andThen_some]
  split
  case isFalse disabled => exact .untouched rfl fun _ => .inr (Bool.eq_false_of_not_eq_true disabled)
  case isTrue enabled =>
  simp only [Prog.wp_bind, Prog.wp_alongside, wp_observe, Prog.wp_beside, Prog.andThen_some]
  generalize outside.recorderBegin _ _ _ _ _ = started
  cases started
  · exact .asked false enabled going rfl rfl
  · exact .asked true enabled going rfl rfl

theorem Taped.round_spec (s : World Adapter × Recording) :
    (round outside system viz fuel).wp (fun result s' =>
        (result = some (.inl ()) ∧ s'.2 = recordAdvanced system viz s'.1.task s.2) ∨
        (result ≠ some (.inl ()) ∧ s'.2 = s.2)) s := by
  have left {result : Option (Unit ⊕ CommandOutcome)} {w' : World Adapter}
      (ended : result ≠ some (.inl ())) :
      (result = some (.inl ()) ∧ s.2 = recordAdvanced system viz w'.task s.2) ∨
        (result ≠ some (.inl ()) ∧ s.2 = s.2) := .inr ⟨ended, rfl⟩
  simp only [round, episodeRound, application, Prog.wp_bind, Prog.wp_alongside]
  rw [Prog.wp]
  rcases (observe outside.stopped s.1 : Option Bool × World Adapter) with ⟨_ | halted, w⟩
  · exact left fun same => by cases same
  rw [Prog.andThen_some]
  split
  · exact left fun same => by cases same
  simp only [Prog.wp_bind, Prog.wp_alongside]
  rw [Prog.wp]
  rcases Adapter.terminal w with ⟨_ | finalResult, w⟩
  · exact left fun same => by cases same
  simp only [Prog.andThen_some, Prog.wp_bind, Prog.wp_alongside]
  rw [Prog.wp]
  rcases Adapter.observation w with ⟨_ | request, w⟩
  · exact left fun same => by cases same
  simp only [Prog.andThen_some, Prog.wp_bind, Prog.wp_alongside]
  rw [Prog.wp]
  rcases Adapter.exchangeUpdate outside fuel request w with ⟨_ | outcome, w⟩
  · exact left fun same => by cases same
  rw [Prog.andThen_some]
  split
  · exact left fun same => by cases same
  split
  · exact left fun same => by cases same
  simp only [Prog.wp_bind, Prog.wp_alongside]
  rw [Prog.wp]
  rcases Adapter.application w with ⟨_ | applied, w⟩
  · exact left fun same => by cases same
  rw [Prog.andThen_some]
  cases applied
  · exact left fun same => by cases same
  · exact .inl ⟨rfl, rfl⟩

structure Adapter.SameSettings (adapter next : Adapter) : Prop where
  config : next.config = adapter.config
  number : next.episodeNumber = adapter.episodeNumber
  openResponse : next.openResponse = adapter.openResponse

namespace Adapter

theorem SameSettings.refl (adapter : Adapter) : adapter.SameSettings adapter := ⟨rfl, rfl, rfl⟩

theorem SameSettings.trans {first second third : Adapter} (before : first.SameSettings second)
    (after : second.SameSettings third) : first.SameSettings third :=
  ⟨after.config.trans before.config, after.number.trans before.number,
    after.openResponse.trans before.openResponse⟩

theorem executeActions_settings (actions : List AgentAction) (adapter : Adapter) :
    adapter.SameSettings (executeActions actions adapter).2 := by
  induction actions generalizing adapter with
  | nil => exact .refl adapter
  | cons action rest ih =>
      unfold executeActions
      dsimp only
      split
      · exact ⟨rfl, rfl, rfl⟩
      · exact ⟨(ih _).config, (ih _).number, (ih _).openResponse⟩

theorem applyActions_settings (adapter : Adapter) :
    adapter.SameSettings adapter.applyActions.2 := by
  unfold applyActions
  dsimp only
  split
  · exact executeActions_settings _ adapter
  · exact .trans (executeActions_settings _ adapter) ⟨rfl, rfl, rfl⟩

theorem afterUpdate_settings (request : UpdateReq) (adapter : Adapter)
    (ended : Option (CommandOutcome × UpdateRsp)) :
    adapter.SameSettings (afterUpdate request adapter ended) := by
  unfold afterUpdate
  repeat' split
  all_goals exact ⟨rfl, rfl, rfl⟩

end Adapter

inductive RoundRecord (w : World Adapter) :
    Option (Unit ⊕ CommandOutcome) → World Adapter → Prop
  | idle {result : Option (Unit ⊕ CommandOutcome)} {w' : World Adapter}
      (ended : result ≠ some (.inl ())) (commands : w'.commands = w.commands) :
      RoundRecord w result w'
  | last {result : Option (Unit ⊕ CommandOutcome)} {w' : World Adapter}
      {issue : Issue Adapter (.task .update)} (ended : result ≠ some (.inl ()))
      (commands : w'.commands = ⟨.task .update, issue⟩ :: w.commands)
      (snapshot : issue.task = w.task)
      (silent : ¬ (issue.outcome = some .applied ∧ issue.task.environment.allDone = false)) :
      RoundRecord w result w'
  | frame {w' : World Adapter} {issue : Issue Adapter (.task .update)}
      (commands : w'.commands = ⟨.task .update, issue⟩ :: w.commands)
      (snapshot : issue.task = w.task)
      (led : issue.outcome = some .applied ∧ issue.task.environment.allDone = false)
      (settled : issue.settled = w'.task) : RoundRecord w (some (.inl ())) w'

theorem Running.roundRecord {w : World Adapter} (running : Running w) :
    (episodeRound Adapter.observation (Adapter.exchangeUpdate outside fuel) Adapter.terminal
      Adapter.application (observe outside.stopped)).wp (fun result w' =>
        w.task.SameSettings w'.task ∧ RoundRecord w result w') w := by
  apply Prog.wp_mono (Adapter.episodeRound_spec w)
  intro result w' round
  cases round with
  | stopped quiet task => exact ⟨task ▸ .refl _, .idle nofun quiet.2⟩
  | refused quiet failed =>
      refine ⟨?_, .idle nofun quiet.2⟩
      rw [failed.1, running.synced.observed]
      exact .refl _
  | @sent before after _ issue ended quiet observed update last =>
      have recorded := running.synced.recorded quiet observed.1 update
      refine ⟨recorded.task ▸ Adapter.afterUpdate_settings _ _ _, .last ?_ recorded.commands
        recorded.snapshot ?_⟩
      · cases ended <;> nofun
      · rw [recorded.outcome, recorded.snapshot]
        rintro ⟨applied, going⟩
        simp [going, applied] at last
  | @applied before after made _ issue ended quiet observed update outcome going settled task =>
      have recorded := running.synced.recorded quiet observed.1 update
      obtain ⟨ran, advanced⟩ :=
        running.synced.advanced quiet observed.1 update outcome going settled task
      rw [ran]
      refine ⟨?_, .frame advanced.commands advanced.snapshot
        ⟨advanced.applied, advanced.snapshot ▸ going⟩ advanced.settled⟩
      rw [task]
      have first : w.task.SameSettings made.task :=
        recorded.task ▸ Adapter.afterUpdate_settings _ _ _
      exact first.trans (Adapter.applyActions_settings _)

end MazeClient
