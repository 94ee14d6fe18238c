import MazeClient.Maze.VizRecorder
import MazeClient.Shared.Utf8

set_option autoImplicit false

namespace MazeClient

open Wire

structure Stamp.Fits (stamp : Stamp) : Prop where
  year : stamp.year < 10 ^ 10
  month : stamp.month < 10 ^ 2
  day : stamp.day < 10 ^ 2
  hour : stamp.hour < 10 ^ 2
  minute : stamp.minute < 10 ^ 2
  second : stamp.second < 10 ^ 2

theorem Stamp.Fits.length {stamp : Stamp} (fits : stamp.Fits) : stamp.text.length ≤ 21 := by
  have year := length_padded (by decide) (by decide : 4 ≤ 10) fits.year
  have month := length_padded (by decide) (le_refl 2) fits.month
  have day := length_padded (by decide) (le_refl 2) fits.day
  have hour := length_padded (by decide) (le_refl 2) fits.hour
  have minute := length_padded (by decide) (le_refl 2) fits.minute
  have second := length_padded (by decide) (le_refl 2) fits.second
  simp only [Stamp.text, List.length_append, List.length_cons]
  omega

namespace Recording

variable {system : RecorderOutside} {recording : Recording}

structure Sound (recording : Recording) : Prop where
  exists_ : ∀ path, recording.recorder.file = some path → (recording.files path).isSome = true
  idle : recording.recorder.file = none → recording.pending = []

def written (recording : Recording) : Bytes → Option Bytes :=
  match recording.recorder.file with
  | none => recording.files
  | some path => Function.update recording.files path
      ((recording.files path).map (· ++ recording.pending))

theorem written_closed (closed : recording.recorder.file = none) :
    recording.written = recording.files := by
  simp [written, closed]

theorem written_other {path : Bytes} (other : recording.recorder.file ≠ some path) :
    recording.written path = recording.files path := by
  cases file : recording.recorder.file with
  | none => rw [written_closed file]
  | some opened =>
      have apart : path ≠ opened := fun same => other (same ▸ file)
      simp [written, file, Function.update_of_ne apart]

theorem written_open {path : Bytes} (file : recording.recorder.file = some path) :
    recording.written path = (recording.files path).map (· ++ recording.pending) := by
  simp [written, file]

theorem files_prefix (path : Bytes) (bytes : Bytes) (held : recording.files path = some bytes) :
    ∃ rest, recording.written path = some (bytes ++ rest) := by
  by_cases file : recording.recorder.file = some path
  · exact ⟨recording.pending, by rw [written_open file, held]; rfl⟩
  · exact ⟨[], by rw [written_other file, held, List.append_nil]⟩

theorem written_isSome (path : Bytes) :
    (recording.written path).isSome = (recording.files path).isSome := by
  by_cases file : recording.recorder.file = some path
  · rw [written_open file, Option.isSome_map]
  · rw [written_other file]

structure Passes (recording after : Recording) : Prop where
  file : after.recorder.file = recording.recorder.file
  written : after.written = recording.written
  sound : after.Sound

theorem Sound.flush (sound : recording.Sound) : Passes recording recording.flush := by
  unfold Recording.flush
  split
  case h_1 => exact ⟨rfl, rfl, sound⟩
  case h_2 path file =>
    obtain ⟨bytes, held⟩ := Option.isSome_iff_exists.mp (sound.exists_ path file)
    refine ⟨rfl, ?_, ?_, fun closed => ?_⟩
    · simp [Recording.written, file, write, create, held]
    · intro other same
      simp_all [write, create]
    · simp [write, create, file] at closed

theorem flush_pending (sound : recording.Sound) : recording.flush.pending = [] := by
  unfold flush
  split
  case h_1 closed => exact sound.idle closed
  case h_2 => rfl

theorem Sound.endRecord (sound : recording.Sound) :
    recording.endRecord.recorder.file = none ∧
      recording.endRecord.files = recording.written ∧ recording.endRecord.Sound := by
  have passes := sound.flush
  have empty := flush_pending sound
  have files : recording.flush.files = recording.written := by
    rw [← passes.written]
    funext path
    by_cases file : recording.flush.recorder.file = some path
    · simp [written_open file, empty]
    · rw [written_other file]
  exact ⟨rfl, files, nofun, fun _ => empty⟩

theorem Sound.endRecord_written (sound : recording.Sound) :
    recording.endRecord.written = recording.written := by
  obtain ⟨closed, files, -⟩ := sound.endRecord
  rw [written_closed closed, files]

def entry (line : Text) : Bytes := cString line ++ [10]

structure Adds (recording : Recording) (path : Bytes) (line : Text) (after : Recording) :
    Prop where
  file : after.recorder.file = some path
  written : after.written =
    Function.update recording.written path ((recording.written path).map (· ++ entry line))
  sound : after.Sound

theorem Sound.printLine (sound : recording.Sound) {path : Bytes}
    (file : recording.recorder.file = some path) (line : Text) :
    Adds recording path line (recording.printLine system path line) := by
  obtain ⟨bytes, held⟩ := Option.isSome_iff_exists.mp (sound.exists_ path file)
  refine ⟨file, ?_, fun other same => ?_, fun closed => ?_⟩
  · simp [written, file, Recording.printLine, write, create, held, entry]
  · obtain rfl : path = other := Option.some.inj (file.symm.trans same)
    simp [Recording.printLine, write, create]
  · rw [show recording.recorder.file = none from closed] at file
    cases file

theorem Sound.recordFrame (sound : recording.Sound) {path : Bytes}
    (file : recording.recorder.file = some path) (line : Text) :
    Adds recording path line (recording.recordFrame system line) := by
  have printed : Adds recording path line (recording.printLine system path line) :=
    sound.printLine file line
  unfold Recording.recordFrame
  rw [file]
  dsimp only
  have counted : Adds recording path line
      { recording.printLine system path line with
        recorder.frameCount := (recording.printLine system path line).recorder.frameCount + 1 } :=
    ⟨printed.file, printed.written, printed.sound.exists_, printed.sound.idle⟩
  split
  · have passes := counted.sound.flush
    exact ⟨passes.file.trans counted.file, passes.written.trans counted.written, passes.sound⟩
  · exact counted

def Retains (recording after : Recording) (fresh : Bytes → Prop) : Prop :=
  ∀ path, after.written path = recording.written path ∨
    (recording.written path = none ∧ fresh path)

theorem Sound.copyMapFile (sound : recording.Sound) (mapId sourcePath : String) :
    let after := recording.copyMapFile system mapId sourcePath
    after.recorder = recording.recorder ∧ after.Sound ∧
      Retains recording after (· = mapCopy recording.recorder.outputDir mapId) := by
  unfold Recording.copyMapFile
  dsimp only
  split
  case isTrue => exact ⟨rfl, sound, fun _ => .inl rfl⟩
  case isFalse absent =>
  have absent : recording.files (mapCopy recording.recorder.outputDir mapId) = none := by
    simpa using absent
  split
  case h_1 => exact ⟨rfl, sound, fun _ => .inl rfl⟩
  case h_2 bytes held =>
  split
  case isFalse => exact ⟨rfl, ⟨sound.exists_, sound.idle⟩, fun _ => .inl rfl⟩
  case isTrue =>
  refine ⟨rfl, ⟨fun path file => ?_, sound.idle⟩, fun path => ?_⟩
  · have there := sound.exists_ path file
    by_cases same : path = mapCopy recording.recorder.outputDir mapId <;>
      simp [create, same] at there ⊢
    exact there
  · by_cases same : path = mapCopy recording.recorder.outputDir mapId
    · refine .inr ⟨?_, same⟩
      have unwritten : (recording.written path).isSome = (recording.files path).isSome :=
        written_isSome path
      rw [same, absent] at unwritten
      simpa [same] using unwritten
    · refine .inl ?_
      by_cases file : recording.recorder.file = some path
      · rw [written_open file, written_open (by exact file)]
        simp [create, Function.update_of_ne same]
      · rw [written_other file, written_other (by exact file)]
        simp [create, Function.update_of_ne same]

structure Opens (recording : Recording) (path : Bytes) (after : Recording) (fresh : Bytes → Prop) :
    Prop where
  file : after.recorder.file = some path
  empty : after.written path = some []
  others : ∀ other, other ≠ path → after.written other = recording.written other ∨
    (recording.written other = none ∧ fresh other)
  sound : after.Sound

theorem Sound.beginRecord (sound : recording.Sound) (outputDir : String) (episodeId : Nat)
    (mapId sourcePath : String) : ∃ tick,
      Opens recording (fileName outputDir episodeId (system.localtime tick))
        (recording.beginRecord system true outputDir episodeId mapId sourcePath)
        (· = mapCopy outputDir mapId) := by
  obtain ⟨closed, files, ended⟩ := sound.endRecord
  refine ⟨recording.endRecord.reading, ?_⟩
  generalize named : fileName outputDir episodeId
    (system.localtime recording.endRecord.reading) = path
  let opened : Recording :=
    { recording.endRecord.create path [] with
      recorder.file := some path
      recorder.outputDir := outputDir
      reading := recording.endRecord.reading + 1 }
  have opens : Opens recording path opened (· = mapCopy outputDir mapId) := by
    refine ⟨rfl, ?_, fun other apart => .inl ?_, fun other same => ?_, nofun⟩
    · simp [opened, written, create, ended.idle closed]
    · have unopened : opened.recorder.file ≠ some other := fun same =>
        apart (Option.some.inj same).symm
      rw [written_other unopened, ← files]
      simp [opened, create, Function.update_of_ne apart]
    · obtain rfl : path = other := Option.some.inj same
      simp [opened, create]
  have begun : recording.beginRecord system true outputDir episodeId mapId sourcePath =
      if mapId ≠ "" ∧ sourcePath ≠ "" then opened.copyMapFile system mapId sourcePath
      else opened := by
    subst named
    rfl
  rw [begun]
  split
  case isFalse => exact opens
  case isTrue =>
  obtain ⟨recorder, copied, retains⟩ :=
    @Sound.copyMapFile system _ opens.sound mapId sourcePath
  refine ⟨by rw [recorder], ?_, fun other apart => ?_, copied⟩
  · rcases retains path with same | ⟨absent, -⟩
    · rw [same, opens.empty]
    · rw [opens.empty] at absent
      cases absent
  · rcases retains other with same | ⟨absent, copy⟩
    · rw [same]
      exact opens.others other apart
    · rcases opens.others other apart with same | fresh
      · exact .inr ⟨same ▸ absent, copy⟩
      · exact .inr fresh

-- Begin that could not open its file has closed the one before all the same.
theorem Sound.beginRecord_failed (sound : recording.Sound) (outputDir : String) (episodeId : Nat)
    (mapId sourcePath : String) :
    let after := recording.beginRecord system false outputDir episodeId mapId sourcePath
    after.recorder.file = none ∧ after.written = recording.written ∧ after.Sound := by
  obtain ⟨closed, files, ended⟩ := sound.endRecord
  refine ⟨closed, ?_, ended.exists_, ended.idle⟩
  exact (written_closed closed).trans files

def replayName (episodeId : Nat) (stamp : Stamp) : Text :=
  "ep_".toList ++ padded 3 episodeId ++ '_' :: stamp.text ++ ".jsonl".toList

theorem isDigit_ascii {c : Char} (digit : c.isDigit = true) :
    c.toNat < 128 ∧ c ≠ Char.ofNat 0 := by
  simp only [Char.isDigit, Bool.and_eq_true, decide_eq_true_eq] at digit
  have low := UInt32.le_iff_toNat_le.mp digit.1
  have high := UInt32.le_iff_toNat_le.mp digit.2
  refine ⟨lt_of_le_of_lt high (by decide), ?_⟩
  rintro rfl
  exact absurd low (by decide)

theorem replayName_chars {episodeId : Nat} {stamp : Stamp} {c : Char}
    (member : c ∈ replayName episodeId stamp) : c ∈ "ep_.jsonl".toList ∨ c.isDigit = true := by
  have starts : "ep_".toList <+: "ep_.jsonl".toList := by decide
  have ends : ".jsonl".toList <:+ "ep_.jsonl".toList := by decide
  simp only [replayName, Stamp.text, List.mem_append, List.mem_cons] at member
  rcases member with ((front | number) | rfl | ((year | month) | day) | rfl | (hour | minute) |
    second) | back
  · exact .inl (starts.subset front)
  · exact .inr (padded_isDigit number)
  · exact .inl (by decide)
  · exact .inr (padded_isDigit year)
  · exact .inr (padded_isDigit month)
  · exact .inr (padded_isDigit day)
  · exact .inl (by decide)
  · exact .inr (padded_isDigit hour)
  · exact .inr (padded_isDigit minute)
  · exact .inr (padded_isDigit second)
  · exact .inl (ends.subset back)

theorem replayName_ascii {episodeId : Nat} {stamp : Stamp} {c : Char}
    (member : c ∈ '/' :: replayName episodeId stamp) : c.toNat < 128 ∧ c ≠ Char.ofNat 0 := by
  rcases List.mem_cons.mp member with rfl | member
  · decide
  rcases replayName_chars member with listed | digit
  · have all : ("ep_.jsonl".toList.all fun c => decide (c.toNat < 128 ∧ c ≠ Char.ofNat 0)) = true :=
      by decide
    exact of_decide_eq_true (List.all_eq_true.mp all c listed)
  · exact isDigit_ascii digit

-- The directory leaves room for every name of an episode.
def ShortDir (outputDir : String) : Prop := (cString outputDir.toList).length ≤ 400

theorem fileName_whole {outputDir : String} {episodeId : Nat} {stamp : Stamp}
    (short : ShortDir outputDir) (few : episodeId < 2147483648) (fits : stamp.Fits) :
    fileName outputDir episodeId stamp =
      cString outputDir.toList ++ ofString (String.ofList ('/' :: replayName episodeId stamp)) := by
  have whole : cString ('/' :: replayName episodeId stamp) =
      ofString (String.ofList ('/' :: replayName episodeId stamp)) := by
    rw [cString, List.takeWhile_eq_self_iff.mpr fun c member => by
      simpa using (replayName_ascii member).2]
  have number := length_padded (by decide) (by decide : 3 ≤ 10) (few.trans (by decide))
  have clock := fits.length
  have length : ('/' :: replayName episodeId stamp).length ≤ 42 := by
    simp only [replayName, List.length_append, List.length_cons]
    have front : "ep_".toList.length = 3 := by decide
    have back : ".jsonl".toList.length = 6 := by decide
    omega
  have short : (cString outputDir.toList).length ≤ 400 := short
  change (cString outputDir.toList ++ cString ('/' :: replayName episodeId stamp)).take 511 = _
  rw [whole, List.take_of_length_le]
  rw [List.length_append, length_ascii fun c member => (replayName_ascii member).1]
  omega

theorem replayName_number (episodeId : Nat) (stamp : Stamp) :
    ((replayName episodeId stamp).drop 3).takeWhile Char.isDigit = padded 3 episodeId := by
  have dropped : (replayName episodeId stamp).drop 3 =
      padded 3 episodeId ++ '_' :: (stamp.text ++ ".jsonl".toList) := by
    simp [replayName]
  rw [dropped, List.takeWhile_append_of_pos fun c => padded_isDigit,
    List.takeWhile_cons_of_neg (by decide), List.append_nil]

theorem fileName_injective {outputDir : String} {m n : Nat} {stamp stamp' : Stamp}
    (short : ShortDir outputDir) (few : m < 2147483648) (few' : n < 2147483648)
    (fits : stamp.Fits) (fits' : stamp'.Fits)
    (same : fileName outputDir m stamp = fileName outputDir n stamp') : m = n := by
  rw [fileName_whole short few fits, fileName_whole short few' fits'] at same
  have names := List.tail_eq_of_cons_eq (ofList_injective (List.append_cancel_left same))
  have numbers := congrArg (fun name => (name.drop 3).takeWhile Char.isDigit) names
  simp only [replayName_number] at numbers
  rw [← padded_value 3 m, numbers, padded_value]

end Recording

end MazeClient
