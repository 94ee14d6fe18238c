import MazeClient.Maze.Taping

set_option autoImplicit false

namespace MazeClient

open Program Wire

variable {outside : MazeOutside} {fuel : Nat}

structure Adapter.SameViz (adapter next : Adapter) : Prop where
  viz : next.config.viz = adapter.config.viz
  openResponse : next.openResponse = adapter.openResponse

theorem Adapter.SameViz.refl (adapter : Adapter) : adapter.SameViz adapter := ⟨rfl, rfl⟩

theorem Adapter.SameSettings.sameViz {adapter next : Adapter}
    (settings : adapter.SameSettings next) : adapter.SameViz next :=
  ⟨by rw [settings.config], settings.openResponse⟩

-- An operation that neither begins an episode nor reports a frame.
structure Uneventful (w w' : World Adapter) : Prop where
  episodes : episodeRecords w'.commands = episodeRecords w.commands
  same : w.task.SameViz w'.task

theorem episodeRecords_other {command : Command Adapter} (commands : List (Command Adapter))
    (begins : command.rpc ≠ .task .beginEpisode) (updates : command.rpc ≠ .task .update) :
    episodeRecords (command :: commands) = episodeRecords commands := by
  obtain ⟨rpc, issue⟩ := command
  cases rpc with
  | openSession => rfl
  | task rpc =>
      cases rpc with
      | beginEpisode => exact absurd rfl begins
      | update => exact absurd rfl updates
      | _ => rfl

theorem ClientOperation.uneventful {rpc : TaskRpc} {w w' : World Adapter}
    {result : Option CommandOutcome}
    (called : ClientOperation outside.toOutside fuel rpc w result w')
    (begins : rpc ≠ .beginEpisode) (updates : rpc ≠ .update) :
    episodeRecords w'.commands = episodeRecords w.commands ∧ w'.task = w.task := by
  obtain ⟨payload, validate, issue, ended, performed, rfl⟩ := called.performed
  refine ⟨?_, performed.task⟩
  rw [performed.commands]
  exact episodeRecords_other _ (by simpa using begins) (by simpa using updates)

namespace Adapter

theorem initialise_uneventful (w : World Adapter) :
    (initialise outside fuel).wp (fun _ w' =>
      Uneventful w w' ∧ w'.task.episodeNumber = w.task.episodeNumber) w := by
  have passed {before w' : World Adapter} {result : Option CommandOutcome}
      (called : ClientOperation outside.toOutside fuel .init before result w')
      (commands : before.commands = w.commands) (same : w.task.SameViz before.task)
      (number : before.task.episodeNumber = w.task.episodeNumber) :
      Uneventful w w' ∧ w'.task.episodeNumber = w.task.episodeNumber := by
    obtain ⟨episodes, task⟩ := called.uneventful (by simp) (by simp)
    rw [commands] at episodes
    exact ⟨⟨episodes, task ▸ same⟩, task ▸ number⟩
  simp only [initialise, Prog.wp_bind, Prog.wp_get, wp_observe, Prog.andThen_some]
  split
  case isTrue => exact ⟨⟨rfl, rfl, rfl⟩, rfl⟩
  simp only [Prog.wp_bind, Prog.wp_get, wp_observe, wp_setTask, Prog.andThen_some]
  generalize MazeEnv.init _ _ _ = initialised
  split
  case isTrue => exact ⟨⟨rfl, rfl, rfl⟩, rfl⟩
  case isFalse =>
    rw [Prog.wp_bind, wp_returned]
    exact passed (.init _ _ _) rfl ⟨rfl, rfl⟩ rfl

theorem endEpisode_uneventful (w : World Adapter) :
    (endEpisode outside fuel).wp (fun result w' => Uneventful w w' ∧
      w'.task.episodeNumber =
        if result = some .applied then w.task.episodeNumber + 1 else w.task.episodeNumber) w := by
  have call := @ClientOperation.endEpisode _ outside.toOutside fuel (fun _ rsp =>
    renderEpisodeOutcome rsp w.client.cursor.episodeId w.task.environment.agents.length) w
  simp only [endEpisode, Prog.wp_bind, Prog.wp_get, Prog.andThen_some]
  rw [Prog.wp]
  generalize TaskClient.endEpisode outside.toOutside fuel _ w = ran at call ⊢
  obtain ⟨_ | ended, after⟩ := ran
  · obtain ⟨episodes, task⟩ := call.uneventful (by simp) (by simp)
    exact ⟨⟨episodes, task ▸ .refl _⟩, congrArg Adapter.episodeNumber task⟩
  obtain ⟨episodes, task⟩ := call.uneventful (by simp) (by simp)
  have task : after.task = w.task := task
  simp only [Prog.andThen_some]
  split
  case isTrue failed =>
    rw [Prog.wp_pure, if_neg fun same => failed (Option.some.inj same)]
    exact ⟨⟨episodes, task ▸ .refl _⟩, congrArg Adapter.episodeNumber task⟩
  case isFalse applied =>
    have applied : ended.1 = .applied := by simpa using applied
    simp only [Prog.wp_bind, wp_setTask, Prog.andThen_some, Prog.wp_pure, applied, if_true]
    exact ⟨⟨episodes, task ▸ ⟨rfl, rfl⟩⟩, task ▸ rfl⟩

theorem abortEpisode_uneventful (w : World Adapter) : (abortEpisode outside fuel).wp
    (fun _ w' => Uneventful w w' ∧ w'.task.episodeNumber = w.task.episodeNumber) w := by
  apply Prog.wp_mono (abortEpisode_spec w)
  rintro result w' ⟨before, quiet, task, called⟩
  obtain ⟨episodes, same⟩ := called.uneventful (by simp) (by simp)
  rw [quiet.2] at episodes
  have same : w'.task = w.task := same.trans task
  exact ⟨⟨episodes, same ▸ .refl _⟩, congrArg Adapter.episodeNumber same⟩

theorem closeSession_uneventful (w : World Adapter) : (closeSession outside fuel).wp
    (fun _ w' => Uneventful w w' ∧ w'.task.episodeNumber = w.task.episodeNumber) w := by
  apply Prog.wp_mono (closeSession_spec w)
  intro result w' called
  obtain ⟨episodes, same⟩ := called.uneventful (by simp) (by simp)
  exact ⟨⟨episodes, same ▸ .refl _⟩, congrArg Adapter.episodeNumber same⟩

theorem openSession_viz (w : World Adapter) : (openSession outside).wp (fun result w' =>
    episodeRecords w'.commands = episodeRecords w.commands ∧
      w'.task.config.viz.outputDir = w.task.config.viz.outputDir ∧
      w'.task.episodeNumber = w.task.episodeNumber ∧
      (result = some .applied → w'.task.config.viz.recordingEnabled =
        decide (w'.task.openResponse.workloadMode = .evaluation))) w := by
  obtain ⟨ended, issue, -, opened⟩ := @openSession_opened _ outside.toOutside
    (fun _ rsp => validEnvironment rsp) w.task.openResponse w
  have episodes : episodeRecords (TaskClient.openSession outside.toOutside
      (fun _ rsp => validEnvironment rsp) w.task.openResponse w).2.commands =
      episodeRecords w.commands := by
    rw [opened.commands]
    exact episodeRecords_other _ (by simp) (by simp)
  have task := opened.task
  simp only [openSession, Prog.wp_bind, Prog.wp_get, Prog.andThen_some]
  rw [Prog.wp]
  generalize TaskClient.openSession outside.toOutside (fun _ rsp => validEnvironment rsp)
    w.task.openResponse w = ran at episodes task ⊢
  obtain ⟨ended, after⟩ := ran
  have outputDir : after.task.config.viz.outputDir = w.task.config.viz.outputDir :=
    congrArg (fun adapter : Adapter => adapter.config.viz.outputDir) task
  have number : after.task.episodeNumber = w.task.episodeNumber := congrArg episodeNumber task
  cases ended with
  | none => exact ⟨episodes, outputDir, number, fun same => by cases same⟩
  | some ended =>
    simp only [Prog.andThen_some, Prog.wp_bind, wp_setTask]
    split
    case isTrue failed =>
      exact ⟨episodes, outputDir, number, fun same => absurd (Option.some.inj same) failed⟩
    split
    case isTrue => exact ⟨episodes, outputDir, number, fun same => by cases same⟩
    case isFalse => exact ⟨episodes, outputDir, number, fun _ => rfl⟩

theorem beginEpisode_record (w : World Adapter) :
    (beginEpisode outside fuel).wp (fun _ w' => ∃ issue : Issue Adapter (.task .beginEpisode),
      episodeRecords w'.commands = { begun := issue } :: episodeRecords w.commands ∧
        issue.task = w.task ∧ w.task.SameViz w'.task ∧
        w'.task.episodeNumber = w.task.episodeNumber) w := by
  apply Prog.wp_mono (beginEpisode_spec w)
  rintro result w' ⟨called, after, call, quiet, ended⟩
  obtain ⟨payload, validate, issue, answer, performed, -⟩ := call.performed
  have task := performed.task
  have kept (same : w'.task = after.task) :
      w.task.SameViz w'.task ∧ w'.task.episodeNumber = w.task.episodeNumber := by
    rw [same, task]
    exact ⟨.refl _, rfl⟩
  refine ⟨issue, ?_, performed.snapshot, ?_⟩
  · rw [quiet.2, performed.commands]
    rfl
  · rcases ended with ⟨-, -, same⟩ | ⟨-, ⟨-, -, same⟩ | ⟨issue, -, -, -, -, same⟩ | ⟨-, same⟩⟩
    · exact kept same
    · exact kept same
    · rw [same, ← task]
      exact ⟨⟨rfl, rfl⟩, rfl⟩
    · exact kept same

end Adapter

structure EpisodeRecord.Sound (episode : EpisodeRecord) : Prop where
  evaluated : episode.isRecorded =
    decide (episode.begun.task.openResponse.workloadMode = .evaluation)
  numbered : ∀ issue ∈ episode.updates, issue.task.episodeNumber = episode.number

structure Configured (outputDir : String) (w : World Adapter) : Prop where
  outputDir : w.task.config.viz.outputDir = outputDir
  evaluated : w.task.config.viz.recordingEnabled =
    decide (w.task.openResponse.workloadMode = .evaluation)

theorem Configured.uneventful {outputDir : String} {w w' : World Adapter}
    (configured : Configured outputDir w) (same : w.task.SameViz w'.task) :
    Configured outputDir w' where
  outputDir := by rw [same.viz, configured.outputDir]
  evaluated := by rw [same.viz, same.openResponse, configured.evaluated]

section Phases

variable (viz : RecorderConfig) (system : RecorderOutside) (outputDir : String)
  (before : Bytes → Option Bytes)

structure Stocked (s : World Adapter × Recording) : Prop where
  episodes : ∀ episode ∈ episodeRecords s.1.commands, episode.Sound
  shelf : ∃ tapes, Shelf viz system outputDir before (episodeRecords s.1.commands) s.2 tapes

structure Between (limit : Nat) (s : World Adapter × Recording) : Prop
    extends Stocked viz system outputDir before s where
  configured : Configured outputDir s.1
  numbers : ∀ episode ∈ episodeRecords s.1.commands, episode.number < limit
  closed : s.2.recorder.file = none

-- In an episode, which the open file belongs to.
structure Rolling (s : World Adapter × Recording) : Prop where
  configured : Configured outputDir s.1
  episodes : ∀ episode ∈ episodeRecords s.1.commands, episode.Sound
  numbers : ∀ episode ∈ episodeRecords s.1.commands, episode.number < s.1.task.episodeNumber + 1
  enabled : s.1.task.config.viz.recordingEnabled = s.2.recorder.file.isSome
  newest : ∃ episode earlier tapes, episodeRecords s.1.commands = episode :: earlier ∧
    episode.isRecorded = s.2.recorder.file.isSome ∧
    episode.number = s.1.task.episodeNumber ∧
    Shelf viz system outputDir before (episode :: earlier) s.2 (s.2.recorder.file :: tapes)

end Phases

variable {viz : RecorderConfig} {system : RecorderOutside} {outputDir : String}
  {before : Bytes → Option Bytes} {w w' : World Adapter} {recording : Recording}

theorem Rolling.stocked {s : World Adapter × Recording}
    (rolling : Rolling viz system outputDir before s) :
    Stocked viz system outputDir before s := by
  obtain ⟨episode, earlier, tapes, records, -, -, shelf⟩ := rolling.newest
  exact ⟨rolling.episodes, _, records ▸ shelf⟩

theorem Between.uneventful {limit : Nat}
    (between : Between viz system outputDir before limit (w, recording))
    (uneventful : Uneventful w w') :
    Between viz system outputDir before limit (w', recording) := by
  obtain ⟨episodes, same⟩ := uneventful
  obtain ⟨⟨sound, shelf⟩, configured, numbers, closed⟩ := between
  refine ⟨⟨?_, ?_⟩, configured.uneventful same, ?_, closed⟩
  · exact episodes ▸ sound
  · exact episodes ▸ shelf
  · exact episodes ▸ numbers

theorem Stocked.uneventful (stocked : Stocked viz system outputDir before (w, recording))
    (uneventful : Uneventful w w') : Stocked viz system outputDir before (w', recording) := by
  obtain ⟨episodes, -⟩ := uneventful
  exact ⟨episodes ▸ stocked.episodes, episodes ▸ stocked.shelf⟩

theorem Stocked.endRecord (stocked : Stocked viz system outputDir before (w, recording)) :
    Stocked viz system outputDir before (w, recording.endRecord) := by
  obtain ⟨episodes, tapes, shelf⟩ := stocked
  exact ⟨episodes, tapes, shelf.endRecord⟩

theorem Rolling.endRecord (rolling : Rolling viz system outputDir before (w, recording)) :
    Between viz system outputDir before (w.task.episodeNumber + 1) (w, recording.endRecord) where
  toStocked := rolling.stocked.endRecord
  configured := rolling.configured
  numbers := rolling.numbers
  closed := rfl

theorem Rolling.report {issue : Issue Adapter (.task .update)} {after : Recording}
    (rolling : Rolling viz system outputDir before (w, recording))
    (commands : w'.commands = ⟨.task .update, issue⟩ :: w.commands)
    (snapshot : issue.task = w.task) (settings : w.task.SameSettings w'.task)
    (sound : after.Sound)
    (file : after.recorder.file = recording.recorder.file)
    (own : ∀ path, recording.recorder.file = some path → after.written path =
      (recording.written path).map (· ++ ((issue.line viz).map Recording.entry).getD []))
    (others : ∀ path, recording.recorder.file ≠ some path →
      after.written path = recording.written path) :
    Rolling viz system outputDir before (w', after) := by
  obtain ⟨configured, episodes, numbers, enabled, episode, earlier, tapes, records, recorded,
    number, shelf⟩ := rolling
  dsimp only at configured episodes numbers enabled records recorded number shelf
  have records' : episodeRecords w'.commands = reportTo issue (episode :: earlier) := by
    rw [commands, episodeRecords, records]
  rw [records] at episodes numbers
  obtain ⟨newest, older⟩ := List.forall_mem_cons.mp episodes
  obtain ⟨last, lower⟩ := List.forall_mem_cons.mp numbers
  refine ⟨configured.uneventful settings.sameViz, ?_, ?_, ?_, _, earlier, tapes, records', ?_, ?_, ?_⟩
  · dsimp only
    rw [records']
    refine List.forall_mem_cons.mpr ⟨⟨newest.evaluated, ?_⟩, older⟩
    refine List.forall_mem_append.mpr ⟨newest.numbered, List.forall_mem_singleton.mpr ?_⟩
    rw [snapshot]
    exact number.symm
  · dsimp only
    rw [records', settings.number]
    exact List.forall_mem_cons.mpr ⟨last, lower⟩
  · dsimp only
    rw [settings.config, file, enabled]
  · dsimp only
    rw [file]
    exact recorded
  · exact number.trans settings.number.symm
  · dsimp only
    rw [file]
    refine shelf.report issue sound own others fun none_ => ?_
    rw [recorded, none_]
    rfl

theorem Issue.line_silent {issue : Issue Adapter (.task .update)}
    (silent : ¬ (issue.outcome = some .applied ∧ issue.task.environment.allDone = false)) :
    issue.line viz = none := by
  rw [Issue.line, if_neg]
  rintro ⟨applied, going, -⟩
  exact silent ⟨applied, going⟩

theorem map_append_nil (bytes : Option Bytes) : bytes.map (· ++ []) = bytes := by
  cases bytes <;> simp

theorem Rolling.round {result : Option (Unit ⊕ CommandOutcome)} {after : Recording}
    (rolling : Rolling viz system outputDir before (w, recording))
    (settings : w.task.SameSettings w'.task) (record : RoundRecord w result w')
    (recorded : (result = some (.inl ()) ∧
        after = Taped.recordAdvanced system viz w'.task recording) ∨
      (result ≠ some (.inl ()) ∧ after = recording)) :
    Rolling viz system outputDir before (w', after) := by
  obtain ⟨_, _, _, _, shelf⟩ := rolling.newest
  have sound : recording.Sound := shelf.2.2.sound
  cases record with
  | idle ended commands =>
      obtain ⟨-, rfl⟩ := recorded.resolve_left fun going => ended going.1
      obtain ⟨configured, episodes, numbers, enabled, newest⟩ := rolling
      dsimp only at configured episodes numbers enabled newest
      refine ⟨configured.uneventful settings.sameViz, ?_, ?_, ?_, ?_⟩
      · exact commands ▸ episodes
      · dsimp only
        rw [commands, settings.number]
        exact numbers
      · dsimp only
        rw [settings.config, enabled]
      · dsimp only
        rw [commands, settings.number]
        exact newest
  | last ended commands snapshot silent =>
      obtain ⟨-, rfl⟩ := recorded.resolve_left fun going => ended going.1
      refine rolling.report commands snapshot settings sound rfl (fun path file => ?_)
        fun _ _ => rfl
      rw [Issue.line_silent silent]
      exact (map_append_nil _).symm
  | @frame _ issue commands snapshot led settled =>
      obtain ⟨-, rfl⟩ := recorded.resolve_right fun ended => ended.1 rfl
      have enabled : w'.task.config.viz.recordingEnabled = recording.recorder.file.isSome := by
        rw [settings.config]
        exact rolling.enabled
      have line : issue.line viz = if w'.task.environment.frameId % viz.interval = 0 then
          some (Taped.frameLine w'.task) else none := by
        simp [Issue.line, led, settled]
      unfold Taped.recordAdvanced
      rw [enabled]
      cases file : recording.recorder.file with
      | none =>
          rw [if_neg (by simp)]
          exact rolling.report commands snapshot settings sound rfl
            (fun path opened => by rw [file] at opened; cases opened) fun _ _ => rfl
      | some path =>
          by_cases due : w'.task.environment.frameId % viz.interval = 0
          · have adds : Recording.Adds recording path (Taped.frameLine w'.task)
                (recording.recordFrame system (Taped.frameLine w'.task)) :=
              sound.recordFrame file _
            rw [if_pos ⟨rfl, due⟩]
            refine rolling.report commands snapshot settings adds.sound
              (adds.file.trans file.symm) (fun other opened => ?_) fun other apart => ?_
            · obtain rfl : path = other := Option.some.inj (file.symm.trans opened)
              rw [adds.written, Function.update_self, line, if_pos due]
              rfl
            · have apart : other ≠ path := fun same => apart (same ▸ file)
              rw [adds.written, Function.update_of_ne apart]
          · rw [if_neg (by simp [due])]
            refine rolling.report commands snapshot settings sound rfl
              (fun other opened => ?_) fun _ _ => rfl
            rw [line, if_neg due]
            exact (map_append_nil _).symm

theorem Shelf.named {episodes : List EpisodeRecord} {tapes : List (Option Bytes)} {path : Bytes}
    (shelf : Shelf viz system outputDir before episodes recording tapes)
    (member : some path ∈ tapes) : ∃ episode ∈ episodes, ∃ tick,
      path = Recording.fileName outputDir episode.number (system.localtime tick) := by
  have filed := shelf.filed
  clear shelf
  induction filed with
  | nil => cases member
  | @cons episode _ _ _ first rest ih =>
      rcases List.mem_cons.mp member with rfl | later
      · cases first with
        | recorded enabled named whole => exact ⟨episode, List.mem_cons_self, named.2⟩
      · obtain ⟨episode, inside, named⟩ := ih later
        exact ⟨episode, List.mem_cons_of_mem _ inside, named⟩

def Few (w : World Adapter) : Prop := w.task.episodeNumber < 2147483648

theorem Few.earlier (few : Few w') (number : w.task.episodeNumber ≤ w'.task.episodeNumber) :
    Few w := lt_of_le_of_lt number few

variable (short : Recording.ShortDir outputDir) (clock : ∀ tick, (system.localtime tick).Fits)
include short clock

theorem Between.beginEpisode {result : Option CommandOutcome} {after : Recording}
    {issue : Issue Adapter (.task .beginEpisode)}
    (between : Between viz system outputDir before w.task.episodeNumber (w, recording))
    (few : Few w)
    (records : episodeRecords w'.commands = { begun := issue } :: episodeRecords w.commands)
    (snapshot : issue.task = w.task) (same : w.task.SameViz w'.task)
    (number : w'.task.episodeNumber = w.task.episodeNumber)
    (tape : BeginTape system recording w' result after) :
    Stocked viz system outputDir before (w', after) ∧
      (result = some .applied → w'.client.complete = false →
        Rolling viz system outputDir before (w', after)) := by
  obtain ⟨⟨episodes, tapes, shelf⟩, configured, numbers, closed⟩ := between
  dsimp only at episodes shelf configured numbers closed
  have sound : EpisodeRecord.Sound { begun := issue } :=
    ⟨by rw [EpisodeRecord.isRecorded, snapshot]; exact configured.evaluated, by simp⟩
  have enabled : EpisodeRecord.isRecorded { begun := issue } =
      w'.task.config.viz.recordingEnabled := by
    rw [EpisodeRecord.isRecorded, snapshot, same.viz]
  have own : EpisodeRecord.number { begun := issue } = w'.task.episodeNumber := by
    rw [EpisodeRecord.number, snapshot, number]
  have episodes' : ∀ episode ∈ episodeRecords w'.commands, episode.Sound := by
    rw [records]
    exact List.forall_mem_cons.mpr ⟨sound, episodes⟩
  have numbers' : ∀ episode ∈ episodeRecords w'.commands,
      episode.number < w'.task.episodeNumber + 1 := by
    rw [records, number]
    refine List.forall_mem_cons.mpr ⟨by omega, fun episode member => ?_⟩
    exact (numbers episode member).trans (Nat.lt_succ_self _)
  have stocked {tape : Option Bytes} (shelf : Shelf viz system outputDir before
      ({ begun := issue } :: episodeRecords w.commands) after (tape :: tapes)) :
      Stocked viz system outputDir before (w', after) := ⟨episodes', _, records ▸ shelf⟩
  have rolling (file : after.recorder.file.isSome = w'.task.config.viz.recordingEnabled)
      (shelf : Shelf viz system outputDir before ({ begun := issue } :: episodeRecords w.commands)
        after (after.recorder.file :: tapes)) :
      Rolling viz system outputDir before (w', after) :=
    ⟨configured.uneventful same, episodes', numbers', file.symm,
      _, _, tapes, records, enabled.trans file.symm, own, shelf⟩
  cases tape with
  | untouched unchanged unopened =>
      subst unchanged
      have skipped := shelf.skip { begun := issue } fun _ => rfl
      refine ⟨stocked skipped, fun applied going => rolling ?_ ?_⟩
      · rcases unopened applied with complete | disabled
        · rw [going] at complete
          cases complete
        · rw [closed, disabled]
          rfl
      · rw [closed]
        exact skipped
  | asked started recorded going begun answer =>
      rw [same.viz, configured.outputDir] at begun
      cases started with
      | false =>
          obtain ⟨-, written, failed⟩ := shelf.sound.beginRecord_failed outputDir
            w'.task.episodeNumber w'.task.environment.map.mapId w'.task.environment.loadedMapPath
          refine ⟨stocked ((shelf.congr ?_ ?_).skip { begun := issue } fun _ => rfl), ?_⟩
          · rw [begun]
            exact failed
          · rw [begun]
            exact written
          · rw [answer]
            intro applied
            cases applied
      | true =>
          obtain ⟨tick, opens⟩ := @Recording.Sound.beginRecord system _ shelf.sound outputDir
            w'.task.episodeNumber w'.task.environment.map.mapId w'.task.environment.loadedMapPath
          rw [← begun] at opens
          have fresh : some (Recording.fileName outputDir w'.task.episodeNumber
              (system.localtime tick)) ∉ tapes := by
            intro member
            obtain ⟨episode, inside, tick', named⟩ := shelf.named member
            have lower := numbers episode inside
            have few : w.task.episodeNumber < 2147483648 := few
            have equal := Recording.fileName_injective short (number ▸ few) (lower.trans few)
              (clock tick) (clock tick') named
            omega
          have opened := shelf.open_ { begun := issue } (enabled.trans recorded) rfl
            ⟨by rw [own, number]; exact few, tick, by rw [own]⟩ opens fresh
          refine ⟨stocked opened, fun _ _ => rolling ?_ ?_⟩
          · rw [opens.file, recorded]
            rfl
          · rw [opens.file]
            exact opened

omit short clock

theorem Rolling.quiet (rolling : Rolling viz system outputDir before (w, recording))
    (settings : w.task.SameSettings w'.task) (commands : w'.commands = w.commands) :
    Rolling viz system outputDir before (w', recording) := by
  have ended : (none : Option (Unit ⊕ CommandOutcome)) ≠ some (.inl ()) := nofun
  exact rolling.round settings (.idle ended commands) (.inr ⟨ended, rfl⟩)

theorem Rolling.roundTaped {s : World Adapter × Recording} (running : Running s.1)
    (rolling : Few s.1 → Rolling viz system outputDir before s) :
    (Taped.round outside system viz fuel).wp (fun result s' =>
      (result = some (.inl ()) → Running s'.1) ∧
        (Few s'.1 → Rolling viz system outputDir before s')) s := by
  have erases := Taped.round_erases outside system viz fuel
  have plain := erases.wp (Prog.wp_and running.round running.roundRecord)
  apply Prog.wp_mono (Prog.wp_and plain (Taped.round_spec s))
  rintro result s' ⟨⟨kept, settings, record⟩, recorded⟩
  refine ⟨?_, fun few => ?_⟩
  · rintro rfl
    exact kept
  · have few : Few s.1 := by
      rw [Few, settings.number] at few
      exact few
    exact (rolling few).round settings record recorded

theorem Rolling.runEpisode {s : World Adapter × Recording} (running : Running s.1)
    (begun : ∃ command ∈ s.1.commands.head?, command.rpc = .task .beginEpisode)
    (rolling : Few s.1 → Rolling viz system outputDir before s) :
    (Taped.runEpisode outside system viz fuel).wp (fun result s' =>
      (result = some .applied → Few s'.1 →
        Between viz system outputDir before (s'.1.task.episodeNumber + 1) s') ∧
      (Few s'.1 → Stocked viz system outputDir before s')) s := by
  obtain ⟨w, recording⟩ := s
  have loop := @Prog.wp_iterate _ _ _ (fun _ : Unit => Taped.round outside system viz fuel)
    (fun _ s' => Few s'.1 → Rolling viz system outputDir before s')
    (fun _ s => Running s.1 ∧ (Few s.1 → Rolling viz system outputDir before s))
    (fun _ s going => Prog.wp_mono (Rolling.roundTaped going.1 going.2)
      fun result s' after => by
        rcases result with _ | _ | _
        · exact after.2
        · exact ⟨after.1 rfl, after.2⟩
        · exact after.2)
    (fun _ s going => going.2) fuel () ({ w with task.updateResponse := {} }, recording)
    ⟨running.fresh begun, fun few => (rolling few).quiet ⟨rfl, rfl, rfl⟩ rfl⟩
  have ended {s : World Adapter × Recording} (outcome : CommandOutcome)
      (rolling : Few s.1 → Rolling viz system outputDir before s) :
      ((do
        Taped.endRecord
        return outcome) : Prog (World Adapter × Recording) CommandOutcome).wp (fun result s' =>
      (result = some .applied → Few s'.1 →
        Between viz system outputDir before (s'.1.task.episodeNumber + 1) s') ∧
      (Few s'.1 → Stocked viz system outputDir before s')) s :=
    ⟨fun _ few => (rolling few).endRecord, fun few => (rolling few).stocked.endRecord⟩
  simp only [Taped.runEpisode, MazeClient.runEpisode, Prog.wp_bind, Prog.wp_alongside,
    Adapter.wp_setTask, Prog.andThen_some]
  apply Prog.wp_mono loop
  rintro (_ | outcome) ⟨w, recording⟩ rolling
  · exact ⟨(fun same => by cases same), fun few => (rolling few).stocked⟩
  · rw [Prog.andThen_some]
    split
    case isTrue =>
      rw [Prog.wp_bind, Prog.wp_alongside, Adapter.wp_setTask, Prog.andThen_some]
      exact ended outcome fun few => (rolling few).quiet ⟨rfl, rfl, rfl⟩ rfl
    case isFalse => exact ended outcome rolling

include short clock

theorem recordingAdapter_rule :
    SessionRule (recordingAdapter outside system viz fuel)
      (fun s => Opened s.1 ∧
        Between viz system outputDir before s.1.task.episodeNumber s)
      (fun s => Ready s.1 ∧
        (Few s.1 → Between viz system outputDir before s.1.task.episodeNumber s))
      (fun s => Assigned s.1 ∧ (Few s.1 → Stocked viz system outputDir before s) ∧
        (s.1.client.complete = false → Few s.1 → Rolling viz system outputDir before s))
      (fun s => (Running s.1 ∧ ∃ command ∈ s.1.commands.head?, command.rpc = .task .beginEpisode) ∧
        (Few s.1 → Rolling viz system outputDir before s))
      (fun s => Ready s.1 ∧
        (Few s.1 → Between viz system outputDir before (s.1.task.episodeNumber + 1) s))
      (fun s => Left s.1 ∧ (Few s.1 → Stocked viz system outputDir before s)) := by
  have rule := mazeClientAdapter_rule outside fuel
  have erases := recordingAdapter_erases outside system viz fuel
  refine ⟨?idle, ?initializeTask, ?halt, ?beginEpisode, ?complete, ?runEpisode, ?endEpisode,
    ?active, ?abortEpisode, ?canClose, ?closeSession⟩
  case idle => exact fun s ready => ⟨rule.idle s.1 ready.1, fun few => (ready.2 few).toStocked⟩
  case initializeTask =>
    rintro ⟨w, recording⟩ ⟨opened, between⟩
    change (Prog.alongside (Adapter.initialise outside fuel)).wp _ _
    rw [Prog.wp_alongside]
    apply Prog.wp_mono (Prog.wp_and (rule.initializeTask w opened) (Adapter.initialise_uneventful w))
    rintro result w' ⟨⟨onward, leaving⟩, uneventful, number⟩
    have between := between.uneventful uneventful
    exact ⟨fun applied => ⟨onward applied, fun _ => number ▸ between⟩,
      fun failed => ⟨leaving failed, fun _ => between.toStocked⟩⟩
  case halt =>
    rintro ⟨w, recording⟩ ⟨ready, between⟩
    change (Prog.alongside (observe outside.stopped)).wp _ _
    rw [Prog.wp_alongside]
    have plain := rule.halt w ready
    have kept (few : Few w) : Between viz system outputDir before w.task.episodeNumber
        ({ w with tick := w.tick + 1 }, recording) :=
      (between few).uneventful ⟨rfl, .refl _⟩
    exact ⟨fun going => ⟨plain.1 going, kept⟩,
      fun halted => ⟨plain.2 halted, fun few => (kept few).toStocked⟩⟩
  case beginEpisode =>
    rintro ⟨w, recording⟩ ⟨ready, between⟩
    have plain := @Prog.Erases.wp _ _ _ _ _ erases.beginEpisode _ (w, recording)
      (Prog.wp_and (rule.beginEpisode w ready) (Adapter.beginEpisode_record w))
    apply Prog.wp_mono (Prog.wp_and plain (Taped.beginEpisode_spec (w, recording)))
    rintro result ⟨w', after⟩ ⟨⟨⟨onward, leaving⟩, issue, records, snapshot, same, number⟩, tape⟩
    have begun (few : Few w') :=
      (between (few.earlier number.ge)).beginEpisode short clock (few.earlier number.ge) records
        snapshot same number tape
    exact ⟨fun applied => ⟨onward applied, fun few => (begun few).1,
        fun going few => (begun few).2 applied going⟩,
      fun failed => ⟨leaving failed, fun few => (begun few).1⟩⟩
  case complete =>
    rintro ⟨w, recording⟩ ⟨assigned, stocked, rolling⟩
    change (Prog.alongside (readClient TaskClient.complete)).wp _ _
    rw [Prog.wp_alongside]
    have plain := rule.complete w assigned
    exact ⟨fun going => ⟨plain.1 going, rolling (Option.some.inj going)⟩,
      fun done => ⟨plain.2 done, stocked⟩⟩
  case runEpisode =>
    rintro ⟨w, recording⟩ ⟨⟨running, begun⟩, rolling⟩
    have plain := @Prog.Erases.wp _ _ _ _ _ erases.runEpisode _ (w, recording)
      (rule.runEpisode w ⟨running, begun⟩)
    apply Prog.wp_mono (Prog.wp_and plain (Rolling.runEpisode running begun rolling))
    rintro result s' ⟨⟨onward, leaving⟩, reported, stocked⟩
    exact ⟨fun applied => ⟨onward applied, reported applied⟩,
      fun failed => ⟨leaving failed, stocked⟩⟩
  case endEpisode =>
    rintro ⟨w, recording⟩ ⟨ready, between⟩
    change (Prog.alongside (Adapter.endEpisode outside fuel)).wp _ _
    rw [Prog.wp_alongside]
    apply Prog.wp_mono (Prog.wp_and (rule.endEpisode w ready) (Adapter.endEpisode_uneventful w))
    rintro result w' ⟨⟨onward, leaving⟩, uneventful, number⟩
    refine ⟨fun applied => ⟨onward applied, fun few => ?_⟩,
      fun failed => ⟨leaving failed, fun few => ?_⟩⟩
    · rw [if_pos applied] at number
      have few : Few w := few.earlier ((Nat.le_succ _).trans number.ge)
      exact number ▸ (between few).uneventful uneventful
    · rw [if_neg failed] at number
      exact ((between (few.earlier number.ge)).uneventful uneventful).toStocked
  case active => exact fun s left => left
  case abortEpisode =>
    rintro ⟨w, recording⟩ ⟨left, stocked⟩
    change (Taped.abortEpisode outside fuel).wp _ _
    rw [Taped.abortEpisode, Taped.endRecord, Prog.wp_bind, Prog.wp_beside, Prog.andThen_some,
      Prog.wp_alongside]
    apply Prog.wp_mono (Prog.wp_and (rule.abortEpisode w left) (Adapter.abortEpisode_uneventful w))
    rintro result w' ⟨left, uneventful, number⟩
    exact ⟨left, fun few => (stocked (few.earlier number.ge)).endRecord.uneventful uneventful⟩
  case canClose => exact fun s left => left
  case closeSession =>
    rintro ⟨w, recording⟩ ⟨left, stocked⟩
    change (Prog.alongside (Adapter.closeSession outside fuel)).wp _ _
    rw [Prog.wp_alongside]
    apply Prog.wp_mono (Prog.wp_and (rule.closeSession w left) (Adapter.closeSession_uneventful w))
    rintro result w' ⟨left, uneventful, number⟩
    exact ⟨left, fun few => (stocked (few.earlier number.ge)).uneventful uneventful⟩

end MazeClient
