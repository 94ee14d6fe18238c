import MazeClient.Maze.EpisodeFrames
import MazeClient.Maze.ReplayFiles

set_option autoImplicit false

namespace MazeClient

open JsonReader Program Wire

namespace EpisodeRecord

variable (viz : RecorderConfig) (episode : EpisodeRecord)

def texts : List (Text × JsonValue) :=
  (episode.taped viz).map fun issue => (Taped.frameLine issue.settled, issue.frame)

def PlainMaps : Prop :=
  ∀ issue ∈ episode.updates, Plain issue.settled.environment.map.mapId.toList

def AsciiMaps : Prop :=
  ∀ issue ∈ episode.updates, Ascii issue.settled.environment.map.mapId.toList

variable {viz episode}

theorem PlainMaps.framed (plain : episode.PlainMaps) :
    ∀ line ∈ episode.texts viz, FrameText line.1 line.2 := by
  intro line member
  obtain ⟨issue, taped, rfl⟩ := List.mem_map.mp member
  have listed := (List.mem_filter.mp taped).1
  exact buildVizJson_frameText _ _ _ _ (plain issue listed)

theorem AsciiMaps.ascii (ascii : episode.AsciiMaps) : ∀ line ∈ episode.texts viz, Ascii line.1 := by
  intro line member
  obtain ⟨issue, taped, rfl⟩ := List.mem_map.mp member
  exact buildVizJson_ascii _ _ _ _ (ascii issue (List.mem_filter.mp taped).1)

theorem PlainMaps.tape (plain : episode.PlainMaps) :
    episode.tape viz = lineBytes (episode.texts viz) [] := by
  have framed : ∀ line ∈ episode.texts viz, FrameText line.1 line.2 := plain.framed
  have entries : (episode.texts viz).map (fun line => Recording.entry line.1) =
      (episode.texts viz).map fun line => FrameText.bytes line.1 ++ [newline] := by
    refine List.map_congr_left fun line member => ?_
    have whole : line.1.takeWhile (· ≠ Char.ofNat 0) = line.1 := by
      refine List.takeWhile_eq_self_iff.mpr fun c inside => decide_eq_true ?_
      rintro rfl
      exact absurd ((framed line member).printable _ inside) (by decide)
    rw [Recording.entry, cString, whole]
    rfl
  have lines : episode.lines viz = (episode.texts viz).map Prod.fst := by
    rw [EpisodeRecord.lines_eq, texts, List.map_map]
    rfl
  rw [EpisodeRecord.tape, lines, List.flatMap_def, List.map_map]
  change ((episode.texts viz).map fun line => Recording.entry line.1).flatten = _
  rw [entries, lineBytes, Lines.pieces, List.map_map]
  simp [Function.comp_def]

theorem frames_texts : (episode.texts viz).map Prod.snd = episode.frames viz := by
  rw [texts, List.map_map]
  rfl

end EpisodeRecord

/-- The frames an episode's file is to hold: every multiple of the interval up to where the episode
got, in order, under the number of the episode. -/
structure FramesNumbered (viz : RecorderConfig) (episode : EpisodeRecord) : Prop where
  count : (episode.frames viz).length = episode.advanced / viz.interval
  frames : ∀ (k : Nat) (frame : JsonValue), (episode.frames viz)[k]? = some frame →
    frame.member? "frame_id".toList = some (.number ((k + 1) * viz.interval : Nat)) ∧
      frame.member? "episode_id".toList = some (.number episode.number)

theorem Tracked.numbered {commands : List (Command Adapter)} (tracked : Tracked commands)
    (viz : RecorderConfig) {episode : EpisodeRecord} (member : episode ∈ episodeRecords commands)
    (sound : episode.Sound) : FramesNumbered viz episode := by
  obtain ⟨older, part, updates⟩ := (episodeRecords_updates commands).2 episode member
  obtain ⟨count, each⟩ := (tracked.suffix part).taped viz
  rw [← updates] at count each
  refine ⟨?_, fun k frame found => ?_⟩
  · rw [EpisodeRecord.frames, List.length_map]
    exact count
  · obtain ⟨issue, taped, rfl⟩ := Option.map_eq_some_iff.mp (List.getElem?_map ▸ found)
    have listed := (List.mem_filter.mp (List.mem_of_getElem? taped)).1
    have number := issue.settled_settings.number.trans (sound.numbered issue listed)
    rw [← each k issue taped, ← number]
    exact ⟨frameValue_frameId .., frameValue_episodeId ..⟩

section

variable (outside : MazeOutside) (system : RecorderOutside) (viz : RecorderConfig) (fuel : Nat)
  (options : ClientOptions) (connected : Bool) (config : ClientConfig) (environment : MazeEnv)
  (files : Bytes → Option Bytes)

theorem recordedRun_tracked : Tracked (recordedRun outside system viz fuel options connected config
    environment files).2.1.commands := by
  have erased := (recordingAdapter_erases outside system viz fuel).runSession fuel
    (World.start options connected (Adapter.start config environment), { files })
  have world := congrArg Prod.snd erased
  have left := mazeClientAdapter_left outside fuel options connected config environment
  rw [← world] at left
  exact left.tracked

end

-- The directory of the replays at a server that comes upon each file with a new index.
def replayDirectory (outputDir : String) (raises : Nat → Bool) (files : Bytes → Option Bytes)
    (filename : String) : Option (ReplayFile JsonValue) :=
  (files (cString outputDir.toList ++ ofString (String.ofList ('/' :: filename.toList)))).map
    (scannedFile raises)

theorem validateFilename_replay {outputDir : String} {raises : Nat → Bool}
    {files : Bytes → Option Bytes} {number : Nat} {stamp : Stamp} {bytes : Bytes}
    (short : Recording.ShortDir outputDir) (few : number < 2147483648) (fits : stamp.Fits)
    (held : files (Recording.fileName outputDir number stamp) = some bytes) :
    validateFilename (replayDirectory outputDir raises files)
      (String.ofList (Recording.replayName number stamp)) = .ok (scannedFile raises bytes) := by
  have apart (c : Char) (digit : c.isDigit = false) (other : c ∉ "ep_.jsonl".toList) :
      c ∉ Recording.replayName number stamp := by
    intro member
    rcases Recording.replayName_chars member with listed | isDigit
    · exact other listed
    · simp [digit] at isDigit
  have points : ¬ "..".toList <:+: Recording.replayName number stamp := by
    intro two
    have some_ : 2 ≤ (Recording.replayName number stamp).count '.' := two.sublist.count_le '.'
    have none_ (width value : Nat) : (padded width value).count '.' = 0 :=
      List.count_eq_zero.mpr fun member => by simpa using padded_isDigit member
    simp only [Recording.replayName, Stamp.text, List.count_append, List.count_cons, none_] at some_
    revert some_
    decide
  rw [Recording.fileName_whole short few fits] at held
  simp only [validateFilename, String.toList_ofList]
  rw [if_neg]
  · simp only [replayDirectory, String.toList_ofList, held, Option.map_some]
  · rintro (dots | slash | backslash)
    · exact points dots
    · exact apart '/' (by decide) (by decide) slash
    · exact apart _ (by decide) (by decide) backslash

/-- An episode at the server: its file, whatever part of it has got there, and what /api/frames
answers about it, the first of its frames. -/
structure Shown (viz : RecorderConfig) (system : RecorderOutside) (outputDir : String)
    (files : Bytes → Option Bytes) (returned : Bool) (episode : EpisodeRecord) : Prop where
  numbered : FramesNumbered viz episode
  file : ∃ tick bytes,
    files (Recording.fileName outputDir episode.number (system.localtime tick)) = some bytes ∧
      ∀ raises, Decodes raises bytes → ∃ count ≤ (episode.frames viz).length,
        FramesAnswered (replayDirectory outputDir raises files)
          (String.ofList (Recording.replayName episode.number (system.localtime tick)))
          ((episode.frames viz).take count) ∧
        (returned = true → count = (episode.frames viz).length)

theorem Filed.shown {viz : RecorderConfig} {system : RecorderOutside} {outputDir : String}
    {recording : Recording} {episode : EpisodeRecord} {tape : Option Bytes} {returned : Bool}
    (short : Recording.ShortDir outputDir) (clock : ∀ tick, (system.localtime tick).Fits)
    (filed : Filed viz system outputDir recording.written episode tape)
    (enabled : episode.isRecorded = true) (some_ : episode.updates ≠ [])
    (numbered : FramesNumbered viz episode) (plain : episode.PlainMaps)
    (ascii : returned = true ∨ episode.AsciiMaps)
    (passed : returned = true → recording.files = recording.written) :
    Shown viz system outputDir recording.files returned episode := by
  cases filed with
  | unrecorded idle => exact absurd (idle enabled) some_
  | @recorded path enabled named whole =>
      obtain ⟨few, tick, rfl⟩ := named
      have held := @Recording.written_isSome recording
        (Recording.fileName outputDir episode.number (system.localtime tick))
      rw [whole, Option.isSome_some] at held
      obtain ⟨bytes, file⟩ := Option.isSome_iff_exists.mp held.symm
      obtain ⟨rest, front⟩ := Recording.files_prefix _ _ file
      rw [whole, Option.some.injEq, plain.tape] at front
      have complete : returned = true → bytes = lineBytes (episode.texts viz) [] := by
        intro done
        rw [passed done, whole, plain.tape] at file
        exact (Option.some.inj file).symm
      refine ⟨numbered, tick, bytes, file, fun raises decodes => ?_⟩
      have known : bytes = lineBytes (episode.texts viz) [] ∨
          ∀ line ∈ episode.texts viz, Ascii line.1 :=
        ascii.imp complete EpisodeRecord.AsciiMaps.ascii
      obtain ⟨count, within, serves, all⟩ :=
        lineBytes_serves plain.framed ⟨rest, front.symm⟩ known decodes
      have length : (episode.texts viz).length = (episode.frames viz).length := by
        rw [← EpisodeRecord.frames_texts, List.length_map]
      rw [List.map_take, EpisodeRecord.frames_texts] at serves
      refine ⟨count, length ▸ within, ?_, fun done => length ▸ all (complete done)⟩
      refine serves.answered ?_ (validateFilename_replay short few (clock tick) file)
      simp [Recording.replayName]

/-- From the run of the client to the pages of the server: while an episode is being recorded the
server shows its first frames and no others, and once the run has ended all of them. -/
theorem replays_served (outside : MazeOutside) (system : RecorderOutside) (viz : RecorderConfig)
    (fuel : Nat) (options : ClientOptions) (connected : Bool) (config : ClientConfig)
    (environment : MazeEnv) (files : Bytes → Option Bytes)
    (short : Recording.ShortDir config.viz.outputDir)
    (clock : ∀ tick, (system.localtime tick).Fits) (few : Few (recordedRun outside system viz fuel
      options connected config environment files).2.1)
    (plain : ∀ episode ∈ episodeRecords (recordedRun outside system viz fuel options connected
      config environment files).2.1.commands, episode.PlainMaps)
    (ascii : (recordedRun outside system viz fuel options connected config environment
        files).1.isSome = true ∨
      ∀ episode ∈ episodeRecords (recordedRun outside system viz fuel options connected config
        environment files).2.1.commands, episode.AsciiMaps) :
    let ended := recordedRun outside system viz fuel options connected config environment files
    ∀ episode ∈ episodeRecords ended.2.1.commands, episode.isRecorded = true →
      episode.updates ≠ [] →
      Shown viz system config.viz.outputDir ended.2.2.files ended.1.isSome episode := by
  intro ended episode member enabled some_
  obtain ⟨sound, tapes, filed, -, -⟩ := (recordedRun_stocked short clock few).kept
  have tracked := recordedRun_tracked outside system viz fuel options connected config environment
    files
  have passed : ended.1.isSome = true → ended.2.2.files = ended.2.2.written := fun returned =>
    (Recording.written_closed (@runSession_closed outside system viz fuel
      (World.start options connected (Adapter.start config environment), { files }) rfl
      returned)).symm
  obtain ⟨index, inside, rfl⟩ := List.getElem_of_mem member
  have within : index < tapes.length := filed.length_eq ▸ inside
  exact Filed.shown short clock (filed.get inside within) enabled some_
    (tracked.numbered viz member (sound _ member)) (plain _ member) (ascii.imp_right fun all => all _ member) passed

theorem replays_served_filmed :
    ∃ episode ∈ episodeRecords filmedRun.2.1.commands,
      (episode.frames everyFrame).length = 2 ∧ episode.isRecorded = true ∧
        Shown everyFrame plainRecorder "log/viz" filmedRun.2.2.files filmedRun.1.isSome episode := by
  have served := replays_served (filmedServer 2) plainRecorder everyFrame 4 {} true {} {}
    (fun _ => none) (by unfold Recording.ShortDir; decide +kernel)
    (fun _ => show stoppedClock.Fits from
      ⟨by decide, by decide, by decide, by decide, by decide, by decide⟩)
    (by unfold Few; decide +kernel) (by unfold EpisodeRecord.PlainMaps; decide +kernel)
    (.inl (by decide +kernel))
  have facts : ∃ episode ∈ episodeRecords filmedRun.2.1.commands,
      (episode.frames everyFrame).length = 2 ∧ episode.isRecorded = true ∧
        episode.updates.length = 3 := by decide +kernel
  obtain ⟨episode, member, count, enabled, updates⟩ := facts
  refine ⟨episode, member, count, enabled, served episode member enabled ?_⟩
  intro none_
  simp [none_] at updates

end MazeClient
