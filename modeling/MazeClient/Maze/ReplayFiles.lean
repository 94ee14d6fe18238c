import MazeClient.Maze.StepLimit
import MazeClient.Maze.TapedSession
import MazeClient.Shared.Maintains

set_option autoImplicit false

namespace MazeClient

open Program Wire

variable {outside : MazeOutside} {system : RecorderOutside} {viz : RecorderConfig} {fuel : Nat}

def Closed (s : World Adapter × Recording) : Prop := s.2.recorder.file = none

theorem alongside_closed {α : Type} (p : Prog (World Adapter) α) :
    Prog.Maintains Closed (Prog.alongside p) := fun _ closed _ => closed

theorem runEpisode_closes (s : World Adapter × Recording) :
    (Taped.runEpisode outside system viz fuel).wp
      (fun result s' => result.isSome = true → Closed s') s := by
  have ended (outcome : CommandOutcome) (s : World Adapter × Recording) :
      ((do
        Taped.endRecord
        return outcome) : Prog (World Adapter × Recording) CommandOutcome).wp
        (fun result s' => result.isSome = true → Closed s') s := fun _ => rfl
  simp only [Taped.runEpisode, Prog.wp_bind, Prog.wp_alongside, Adapter.wp_setTask,
    Prog.andThen_some]
  rw [Prog.wp]
  generalize MazeClient.runEpisode fuel _ _ _ _ _ _ = ran
  obtain ⟨_ | outcome, s⟩ := ran
  · exact fun returned => by cases returned
  rw [Prog.andThen_some]
  split
  · rw [Prog.wp_bind, Prog.wp_alongside, Adapter.wp_setTask, Prog.andThen_some]
    exact ended outcome _
  · exact ended outcome s

theorem sessionRound_closed :
    Prog.Maintains Closed (sessionRound (recordingAdapter outside system viz fuel)) := by
  refine (alongside_closed _).bind fun halted => .ite (Prog.maintains_pure _) ?_
  intro s closed
  rw [Prog.wp_bind]
  apply Prog.wp_mono (Taped.beginEpisode_spec s)
  rintro (_ | outcome) ⟨w, after⟩ tape
  · exact nofun
  have closedUnless : outcome ≠ .applied ∨ w.client.complete = true → Closed (w, after) := by
    intro out
    cases tape with
    | untouched same => exact (congrArg (fun held : Recording => held.recorder.file) same).trans closed
    | asked started enabled going begun answer =>
        cases started with
        | false => exact congrArg (fun held : Recording => held.recorder.file) begun
        | true =>
            rcases out with failed | complete
            · exact absurd (Option.some.inj answer) failed
            · rw [show w.client.complete = false from going] at complete
              cases complete
  rw [Prog.andThen_some]
  split
  case isTrue failed => exact fun _ => closedUnless (.inl failed)
  case isFalse =>
  rw [Prog.wp_bind]
  change (Prog.alongside (readClient TaskClient.complete)).wp _ _
  rw [Prog.wp_alongside, wp_readClient, Prog.andThen_some]
  split
  case isTrue complete => exact fun _ => closedUnless (.inr complete)
  case isFalse =>
  rw [Prog.wp_bind]
  apply Prog.wp_mono (runEpisode_closes (w, after))
  rintro (_ | outcome) s' closed
  · exact nofun
  rw [Prog.andThen_some]
  split
  · exact closed
  · exact ((alongside_closed _).bind fun result =>
      .ite (Prog.maintains_pure _) (Prog.maintains_pure _)) s' (closed rfl)

theorem finish_closed (outcome : CommandOutcome) :
    Prog.Maintains Closed (finish (recordingAdapter outside system viz fuel) outcome) := by
  have aborts : Prog.Maintains Closed (Taped.abortEpisode outside fuel) := fun _ _ _ => rfl
  have closing : Prog.Maintains Closed (do
      if ← (recordingAdapter outside system viz fuel).canClose then
        let closed ← (recordingAdapter outside system viz fuel).closeSession
        if closed ≠ .applied then
          return if outcome = .rejected || outcome = .waitExpired then outcome else closed
      return outcome) := by
    refine (alongside_closed _).bind fun closes => .ite ?_ (Prog.maintains_pure _)
    exact (alongside_closed _).bind fun closed =>
      .ite (Prog.maintains_pure _) (Prog.maintains_pure _)
  refine .ite (Prog.maintains_pure _) ((alongside_closed _).bind fun active => .ite ?_ closing)
  exact aborts.bind fun aborted => .ite (Prog.maintains_pure _) closing

theorem runSession_closed :
    Prog.Maintains Closed (runSession fuel (recordingAdapter outside system viz fuel)) := by
  refine (alongside_closed _).bind fun result => .ite (Prog.maintains_pure _) ?_
  refine .bind ?_ fun outcome => finish_closed outcome
  refine (alongside_closed _).bind fun result => .ite (Prog.maintains_pure _) ?_
  exact Prog.maintains_iterate (fun _ => sessionRound_closed) fuel ()

def recordedRun (outside : MazeOutside) (system : RecorderOutside) (viz : RecorderConfig)
    (fuel : Nat) (options : ClientOptions) (connected : Bool) (config : ClientConfig)
    (environment : MazeEnv) (files : Bytes → Option Bytes) :
    Option CommandOutcome × World Adapter × Recording :=
  runSession fuel (recordingAdapter outside system viz fuel)
    (World.start options connected (Adapter.start config environment), { files })

/-- What a run leaves in the file system: for each episode of an evaluation that got as far as an
Update a file of its own, which holds the lines of its recorded frames in order and nothing else,
whatever stood in a file of that name. No other file is changed, nor is one new but copies of
maps. -/
structure ReplaysKept (viz : RecorderConfig) (system : RecorderOutside) (outputDir : String)
    (before after : Bytes → Option Bytes) (episodes : List EpisodeRecord) : Prop where
  sound : ∀ episode ∈ episodes, episode.Sound
  files : ∃ tapes, List.Forall₂ (Filed viz system outputDir after) episodes tapes ∧
    tapes.reduceOption.Nodup ∧
    ∀ path, some path ∉ tapes → after path = before path ∨
      (before path = none ∧ ∃ mapId, path = Recording.mapCopy outputDir mapId)

theorem Stocked.kept {outputDir : String} {before : Bytes → Option Bytes}
    {s : World Adapter × Recording} (stocked : Stocked viz system outputDir before s) :
    ReplaysKept viz system outputDir before s.2.written (episodeRecords s.1.commands) := by
  obtain ⟨sound, tapes, shelf⟩ := stocked
  exact ⟨sound, tapes, shelf.filed, shelf.distinct, shelf.others⟩

theorem recordedRun_stocked {options : ClientOptions} {connected : Bool} {config : ClientConfig}
    {environment : MazeEnv} {files : Bytes → Option Bytes}
    (short : Recording.ShortDir config.viz.outputDir)
    (clock : ∀ tick, (system.localtime tick).Fits) :
    let ended := recordedRun outside system viz fuel options connected config environment files
    Few ended.2.1 → Stocked viz system config.viz.outputDir files ended.2 := by
  let start : World Adapter × Recording :=
    (World.start options connected (Adapter.start config environment), { files })
  have blank : Shelf viz system config.viz.outputDir files [] { files } [] :=
    ⟨⟨nofun, fun _ => rfl⟩, .nil, by simp, fun _ _ => .inl rfl⟩
  have opens : (recordingAdapter outside system viz fuel).openSession.wp (fun result s' =>
      (result = some .applied → Opened s'.1 ∧
        Between viz system config.viz.outputDir files s'.1.task.episodeNumber s') ∧
      (result ≠ some .applied → Left s'.1 ∧
        (Few s'.1 → Stocked viz system config.viz.outputDir files s'))) start := by
    change (Prog.alongside (Adapter.openSession outside)).wp _ _
    rw [Prog.wp_alongside]
    apply Prog.wp_mono (Prog.wp_and (openSession_start rfl rfl) (Adapter.openSession_viz start.1))
    rintro result w ⟨⟨onward, leaving⟩, records, outputDir, number, evaluated⟩
    have none_ : episodeRecords w.commands = [] := records
    have stocked : Stocked viz system config.viz.outputDir files (w, { files }) :=
      ⟨by simp [none_], [], none_ ▸ blank⟩
    exact ⟨fun applied => ⟨onward applied, stocked, ⟨outputDir, evaluated applied⟩,
        by simp [none_], rfl⟩,
      fun failed => ⟨leaving failed, fun _ => stocked⟩⟩
  exact ((recordingAdapter_rule short clock).runSession fuel opens).2

-- The idle server again, with an evaluation to run.
def filmedServer (maxSteps : Nat) : MazeOutside :=
  { idleServer maxSteps with
    attempt := fun tick rpc request =>
      match rpc, (idleServer maxSteps).attempt tick rpc request with
      | .openSession, (status, response) =>
          (status, { response with workloadMode := .evaluation })
      | .task .beginEpisode, (status, response) =>
          (status, { response with
            outcome := .assignment { episodeId := "episode", mode := .evaluation, maxSteps } })
      | .task .init, answer => answer
      | .task .update, answer => answer
      | .task .endEpisode, answer => answer
      | .task .abortEpisode, answer => answer
      | .task .closeSession, answer => answer }

-- A clock that stands still, and a stdio that passes on ten bytes at a time.
def stoppedClock : Stamp := { year := 2026, month := 1, day := 2, hour := 3, minute := 4, second := 5 }

def plainRecorder : RecorderOutside where
  localtime _ := stoppedClock
  opens _ _ := true
  spills _ := 10

def everyFrame : RecorderConfig := { interval := 1 }

abbrev filmedRun : Option CommandOutcome × World Adapter × Recording :=
  recordedRun (filmedServer 2) plainRecorder everyFrame 4 {} true {} {} fun _ => none

end MazeClient
