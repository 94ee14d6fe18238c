import Mathlib.Data.List.ReduceOption
import MazeClient.Client.SessionErasure
import MazeClient.Maze.Recording
import MazeClient.Maze.Tracking

set_option autoImplicit false

namespace MazeClient

open Program Wire

/-- An episode in a record of commands: the BeginEpisode it came from, and its Updates in order. -/
structure EpisodeRecord where
  begun : Issue Adapter (.task .beginEpisode)
  updates : List (Issue Adapter (.task .update)) := []

def reportTo (issue : Issue Adapter (.task .update)) : List EpisodeRecord → List EpisodeRecord
  | [] => []
  | episode :: earlier => { episode with updates := episode.updates ++ [issue] } :: earlier

def episodeRecords : List (Command Adapter) → List EpisodeRecord
  | [] => []
  | ⟨.task .beginEpisode, issue⟩ :: earlier => { begun := issue } :: episodeRecords earlier
  | ⟨.task .update, issue⟩ :: earlier => reportTo issue (episodeRecords earlier)
  | _ :: earlier => episodeRecords earlier

def Issue.line (viz : RecorderConfig) (issue : Issue Adapter (.task .update)) : Option Text :=
  if issue.outcome = some .applied ∧ issue.task.environment.allDone = false ∧
      issue.settled.environment.frameId % viz.interval = 0 then
    some (Taped.frameLine issue.settled)
  else none

namespace EpisodeRecord

def lines (viz : RecorderConfig) (episode : EpisodeRecord) : List Text :=
  episode.updates.filterMap (Issue.line viz)

def tape (viz : RecorderConfig) (episode : EpisodeRecord) : Bytes :=
  (episode.lines viz).flatMap Recording.entry

def isRecorded (episode : EpisodeRecord) : Bool := episode.begun.task.config.viz.recordingEnabled

def number (episode : EpisodeRecord) : Nat := episode.begun.task.episodeNumber

end EpisodeRecord

inductive Filed (viz : RecorderConfig) (system : RecorderOutside) (outputDir : String)
    (written : Bytes → Option Bytes) (episode : EpisodeRecord) : Option Bytes → Prop
  | unrecorded (idle : episode.isRecorded = true → episode.updates = []) :
      Filed viz system outputDir written episode none
  | recorded {path : Bytes} (enabled : episode.isRecorded = true)
      (named : episode.number < 2147483648 ∧ ∃ tick, path =
        Recording.fileName outputDir episode.number (system.localtime tick))
      (whole : written path = some (episode.tape viz)) :
      Filed viz system outputDir written episode (some path)

section

variable {viz : RecorderConfig} {system : RecorderOutside} {outputDir : String}
  {episode : EpisodeRecord} {issue : Issue Adapter (.task .update)}

theorem tape_report (viz : RecorderConfig) (episode : EpisodeRecord)
    (issue : Issue Adapter (.task .update)) :
    EpisodeRecord.tape viz { episode with updates := episode.updates ++ [issue] } =
      episode.tape viz ++ ((issue.line viz).map Recording.entry).getD [] := by
  unfold EpisodeRecord.tape EpisodeRecord.lines
  cases line : issue.line viz <;> simp [line]

theorem Filed.congr {before after : Bytes → Option Bytes} {tape : Option Bytes}
    (filed : Filed viz system outputDir before episode tape)
    (same : ∀ path, tape = some path → after path = before path) :
    Filed viz system outputDir after episode tape := by
  cases filed with
  | unrecorded idle => exact .unrecorded idle
  | recorded enabled named whole => exact .recorded enabled named ((same _ rfl).trans whole)

end

structure Shelf (viz : RecorderConfig) (system : RecorderOutside) (outputDir : String)
    (before : Bytes → Option Bytes) (episodes : List EpisodeRecord) (recording : Recording)
    (tapes : List (Option Bytes)) : Prop where
  sound : recording.Sound
  filed : List.Forall₂ (Filed viz system outputDir recording.written) episodes tapes
  distinct : tapes.reduceOption.Nodup
  others : ∀ path, some path ∉ tapes → recording.written path = before path ∨
    (before path = none ∧ ∃ mapId, path = Recording.mapCopy outputDir mapId)

section

variable {viz : RecorderConfig} {system : RecorderOutside} {outputDir : String}
  {before : Bytes → Option Bytes} {episodes : List EpisodeRecord} {recording after : Recording}
  {tapes : List (Option Bytes)}

theorem mem_tapes {path : Bytes} : path ∈ tapes.reduceOption ↔ some path ∈ tapes :=
  List.reduceOption_mem_iff

theorem Shelf.congr (shelf : Shelf viz system outputDir before episodes recording tapes)
    (sound : after.Sound) (same : after.written = recording.written) :
    Shelf viz system outputDir before episodes after tapes :=
  ⟨sound, same ▸ shelf.filed, shelf.distinct, same ▸ shelf.others⟩

theorem Shelf.endRecord (shelf : Shelf viz system outputDir before episodes recording tapes) :
    Shelf viz system outputDir before episodes recording.endRecord tapes :=
  shelf.congr shelf.sound.endRecord.2.2 shelf.sound.endRecord_written

theorem Shelf.skip (shelf : Shelf viz system outputDir before episodes recording tapes)
    (episode : EpisodeRecord) (idle : episode.isRecorded = true → episode.updates = []) :
    Shelf viz system outputDir before (episode :: episodes) recording (none :: tapes) where
  sound := shelf.sound
  filed := .cons (.unrecorded idle) shelf.filed
  distinct := by simpa using shelf.distinct
  others path fresh := shelf.others path fun member => fresh (List.mem_cons_of_mem _ member)

theorem Shelf.open_ (shelf : Shelf viz system outputDir before episodes recording tapes)
    (episode : EpisodeRecord) (enabled : episode.isRecorded = true) (silent : episode.updates = [])
    {path : Bytes} (named : episode.number < 2147483648 ∧ ∃ tick, path =
      Recording.fileName outputDir episode.number (system.localtime tick))
    {mapId : String} (opens : Recording.Opens recording path after
      (· = Recording.mapCopy outputDir mapId)) (fresh : some path ∉ tapes) :
    Shelf viz system outputDir before (episode :: episodes) after (some path :: tapes) where
  sound := opens.sound
  filed := by
    refine .cons (.recorded enabled named ?_) ?_
    · simp [opens.empty, EpisodeRecord.tape, EpisodeRecord.lines, silent]
    · have kept (tape : Option Bytes) (member : tape ∈ tapes) (episode : EpisodeRecord)
          (filed : Filed viz system outputDir recording.written episode tape) :
          Filed viz system outputDir after.written episode tape := by
        cases filed with
        | unrecorded idle => exact .unrecorded idle
        | @recorded other enabled named whole =>
            have apart : other ≠ path := fun same => fresh (same ▸ member)
            refine .recorded enabled named ?_
            rcases opens.others other apart with same | ⟨absent, -⟩
            · rw [same, whole]
            · rw [whole] at absent
              cases absent
      have filed := shelf.filed
      clear shelf fresh
      induction filed with
      | nil => exact .nil
      | cons first rest ih =>
          exact .cons (kept _ List.mem_cons_self _ first)
            (ih fun tape member => kept tape (List.mem_cons_of_mem _ member))
  distinct := by
    simpa using ⟨fun member => fresh (mem_tapes.mp member), shelf.distinct⟩
  others other absent := by
    simp only [List.mem_cons, Option.some.injEq, not_or] at absent
    rcases opens.others other absent.1 with same | ⟨gone, copy⟩
    · rw [same]
      exact shelf.others other absent.2
    · rcases shelf.others other absent.2 with same | copied
      · exact .inr ⟨same ▸ gone, _, copy⟩
      · exact .inr copied

theorem Shelf.report {episode : EpisodeRecord} {tape : Option Bytes}
    (shelf : Shelf viz system outputDir before (episode :: episodes) recording (tape :: tapes))
    (issue : Issue Adapter (.task .update)) (sound : after.Sound)
    (own : ∀ path, tape = some path → after.written path =
      (recording.written path).map (· ++ ((issue.line viz).map Recording.entry).getD []))
    (others : ∀ path, tape ≠ some path → after.written path = recording.written path)
    (counted : tape = none → episode.isRecorded = false) :
    Shelf viz system outputDir before (reportTo issue (episode :: episodes)) after
      (tape :: tapes) where
  sound := sound
  filed := by
    obtain ⟨newest, older⟩ := List.forall₂_cons.mp shelf.filed
    refine .cons ?_ ?_
    · cases newest with
      | unrecorded idle =>
          refine .unrecorded fun enabled => ?_
          rw [show episode.isRecorded = true from enabled] at counted
          cases counted rfl
      | @recorded path enabled named whole =>
          refine .recorded enabled named ?_
          rw [own path rfl, whole, tape_report]
          rfl
    · have apart (path : Bytes) (member : some path ∈ tapes) : tape ≠ some path := by
        rintro rfl
        have distinct := shelf.distinct
        simp only [List.reduceOption_cons_of_some, List.nodup_cons] at distinct
        exact distinct.1 (mem_tapes.mpr member)
      clear shelf newest
      induction older with
      | nil => exact .nil
      | cons first rest ih =>
          refine .cons (first.congr fun path same => ?_)
            (ih fun path member => apart path (List.mem_cons_of_mem _ member))
          exact others path (apart path (same ▸ List.mem_cons_self))
  distinct := shelf.distinct
  others path absent := by
    have apart : tape ≠ some path := fun same => absent (same ▸ List.mem_cons_self)
    rw [others path apart]
    exact shelf.others path absent

end

end MazeClient
