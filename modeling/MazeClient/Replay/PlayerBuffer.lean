import MazeClient.Replay.Player
import MazeClient.Shared.Window

set_option autoImplicit false

namespace MazeClient

open Window

section

variable {Frame : Type} {buffer next : FrameBuffer Frame} {offset : Int} {newFrames : List Frame}
  {sequence sequence' : Int → Frame}

namespace FrameBuffer

theorem getFrameFromBuffer_eq_some {globalIndex : Int} {frame : Frame} :
    buffer.getFrameFromBuffer globalIndex = some frame ↔
      ∃ index : Nat, globalIndex = buffer.bufferOffset + index ∧
        buffer.frames[index]? = some frame := by
  simp only [getFrameFromBuffer]
  constructor
  · intro found
    split at found
    case isTrue inside => exact ⟨_, by omega, found⟩
    case isFalse => cases found
  · intro ⟨index, position, found⟩
    have inside : index < buffer.frames.length := (List.getElem?_eq_some_iff.mp found).choose
    have local_ : (globalIndex - buffer.bufferOffset).toNat = index := by omega
    rw [if_pos (by omega), local_, found]

def Shows (buffer : FrameBuffer Frame) (sequence : Int → Frame) : Prop :=
  ∀ globalIndex frame, buffer.getFrameFromBuffer globalIndex = some frame →
    frame = sequence globalIndex

theorem shows_iff : buffer.Shows sequence ↔
    Holds sequence buffer.bufferOffset buffer.frames := by
  constructor
  · intro shows_ index frame found
    exact shows_ _ frame (getFrameFromBuffer_eq_some.mpr ⟨index, rfl, found⟩)
  · intro held globalIndex frame shown
    obtain ⟨index, rfl, found⟩ := getFrameFromBuffer_eq_some.mp shown
    exact held index frame found

/-- What new frames make of a buffer: they follow what was there, or nothing, and what is cut off
in front leaves some of them. -/
structure Received (buffer : FrameBuffer Frame) (offset : Int) (newFrames : List Frame)
    (next : FrameBuffer Frame) (earlier : List Frame) (trim : Nat) : Prop where
  before : earlier = [] ∨ earlier = buffer.frames ∧ offset = buffer.bufferOffset + earlier.length
  frames : next.frames = (earlier ++ newFrames).drop trim
  offset : next.bufferOffset = offset - earlier.length + trim
  rest : trim = 0 ∨ trim < (earlier ++ newFrames).length

-- Trimming keeps the last frames.
theorem trimFront_eq (buffer : FrameBuffer Frame) : ∃ trim : Nat,
    buffer.trimFront = ⟨buffer.frames.drop trim, buffer.bufferOffset + trim⟩ ∧
      (trim = 0 ∨ trim < buffer.frames.length) := by
  have kept : 0 < bufferSize := by decide
  unfold trimFront
  dsimp only
  split
  case isTrue large => exact ⟨_, rfl, .inr (by omega)⟩
  case isFalse => exact ⟨0, by simp, .inl rfl⟩

theorem load_received (buffer : FrameBuffer Frame) (append : Bool) (offset : Int)
    (newFrames : List Frame) :
    ∃ earlier trim, buffer.Received offset newFrames (buffer.load append offset newFrames)
      earlier trim := by
  unfold load
  split
  case isFalse => exact ⟨[], 0, .inl rfl, by simp, by simp, .inl rfl⟩
  case isTrue follows =>
    obtain ⟨-, follows⟩ := follows
    obtain ⟨trim, trimmed, rest⟩ := (buffer.concat newFrames).trimFront_eq
    rw [trimmed]
    exact ⟨buffer.frames, trim, .inr ⟨rfl, follows⟩, rfl, by simp [follows, concat], rest⟩

theorem poll_received (buffer : FrameBuffer Frame) (offset : Int) (some_ : newFrames ≠ []) :
    ∃ earlier trim, buffer.Received offset newFrames (buffer.poll offset newFrames)
      earlier trim := by
  simp only [poll, concat, if_neg some_]
  split
  case isTrue follows =>
    exact ⟨buffer.frames, 0, .inr ⟨rfl, follows⟩, rfl, by simp [follows], .inl rfl⟩
  case isFalse => exact ⟨[], 0, .inl rfl, by simp, by simp, .inl rfl⟩

variable {earlier : List Frame} {trim : Nat}

theorem Received.congr (received : buffer.Received offset newFrames next earlier trim)
    {next' : FrameBuffer Frame} (same : next' = next) :
    buffer.Received offset newFrames next' earlier trim := by
  rw [same]
  exact received

theorem Received.shows (received : buffer.Received offset newFrames next earlier trim)
    (shows_ : buffer.Shows sequence) (arrived : Holds sequence offset newFrames) :
    next.Shows sequence := by
  rw [shows_iff] at shows_ ⊢
  have before : Holds sequence (offset - earlier.length) earlier := by
    rcases received.before with rfl | ⟨rfl, follows⟩
    · exact holds_nil
    · rwa [follows, Int.add_sub_cancel]
  have whole : Holds sequence (offset - earlier.length) (earlier ++ newFrames) :=
    before.append (by rwa [Int.sub_add_cancel])
  rw [received.frames, received.offset]
  exact whole.drop trim

theorem Received.meets (received : buffer.Received offset newFrames next earlier trim)
    (some_ : newFrames ≠ []) (arrived : Holds sequence offset newFrames)
    (shows_ : next.Shows sequence') : ∃ position, sequence position = sequence' position := by
  rw [shows_iff, received.frames, received.offset] at shows_
  have positive : 0 < newFrames.length := List.length_pos_of_ne_nil some_
  have rest := received.rest
  rw [List.length_append] at rest
  by_cases whole : trim ≤ earlier.length
  · rw [List.drop_append_of_le_length whole] at shows_
    have shown := shows_.of_append
    rw [List.length_drop, show offset - earlier.length + trim + (earlier.length - trim : Nat) =
      offset by omega] at shown
    exact arrived.meet shown some_
  · have cut : (earlier ++ newFrames).drop trim = newFrames.drop (trim - earlier.length) := by
      rw [List.drop_append, List.drop_of_length_le (by omega), List.nil_append]
    rw [cut, show offset - earlier.length + trim = offset + (trim - earlier.length : Nat) by omega]
      at shows_
    refine (arrived.drop (trim - earlier.length)).meet shows_ fun none_ => ?_
    have length := congrArg List.length none_
    rw [List.length_drop, List.length_nil] at length
    omega

end FrameBuffer

end

namespace Player

variable {Frame Map : Type} {player player' : Player Frame Map}

def view (player : Player Frame Map) : FrameBuffer Frame × String :=
  (player.toFrameBuffer, player.currentFile)

section

variable (player)

theorem view_loadFrameRange {offset : Int} {limit : Nat} {append : Bool} {after : AfterLoad}
    {refused : Player Frame Map → Player Frame Map} (same : (refused player).view = player.view) :
    (player.loadFrameRange offset limit append after refused).view = player.view := by
  unfold loadFrameRange
  split
  · exact same
  · rfl

theorem view_showFrame (index : Int) : (player.showFrame index).view = player.view := by
  unfold showFrame
  split
  · rfl
  split
  · rfl
  unfold checkPrefetch
  dsimp only
  split
  · exact player.view_loadFrameRange rfl
  · rfl

theorem view_ensureFrameAndShow (index : Int) :
    (player.ensureFrameAndShow index).view = player.view := by
  unfold ensureFrameAndShow
  split
  · exact player.view_showFrame index
  · exact player.view_loadFrameRange (player.view_showFrame index)

theorem view_startPlay : player.startPlay.view = player.view := by
  unfold startPlay
  split <;> rfl

theorem view_playStep : player.playStep.view = player.view := by
  unfold playStep
  split
  · rfl
  split
  · dsimp only
    split
    · exact view_loadFrameRange _ rfl
    · exact view_showFrame _ _
  split <;> rfl

theorem view_startLiveMode : player.startLiveMode.view = player.view := by
  unfold startLiveMode
  dsimp only
  split
  · exact view_ensureFrameAndShow _ _
  · rfl

theorem view_togglePlay : player.togglePlay.view = player.view := by
  unfold togglePlay
  split
  · rfl
  · exact player.view_startPlay

theorem view_stepNext : player.stepNext.view = player.view := by
  unfold stepNext
  dsimp only
  split
  · exact view_ensureFrameAndShow _ _
  · rfl

theorem view_stepPrev : player.stepPrev.view = player.view := by
  unfold stepPrev
  dsimp only
  split
  · exact view_ensureFrameAndShow _ _
  · rfl

theorem view_resetPlay : player.resetPlay.view = player.view := by
  unfold resetPlay
  dsimp only
  split
  · exact view_loadFrameRange _ (view_showFrame _ 0)
  · exact view_showFrame _ 0

theorem view_changeSpeed : player.changeSpeed.view = player.view := by
  unfold changeSpeed
  split
  · exact view_startPlay _
  · rfl

theorem view_toggleLiveMode : player.toggleLiveMode.view = player.view := by
  unfold toggleLiveMode
  split
  · rfl
  · exact player.view_startLiveMode

theorem view_livePoll : player.livePoll.view = player.view := by
  unfold livePoll
  split <;> rfl

theorem view_onFileSelected (userInitiated : Bool) :
    (player.onFileSelected userInitiated).view =
      (player.toFrameBuffer,
        if player.fileSelect = "" then player.currentFile else player.fileSelect) := by
  unfold onFileSelected
  dsimp only
  split
  · rfl
  · cases userInitiated <;> rfl

theorem view_afterFailure (after : AfterLoad) : (player.afterFailure after).view = player.view := by
  cases after with
  | frame index => exact player.view_showFrame index
  | nothing => rfl
  | play => rfl
  | opened isGrowing => rfl

theorem view_afterSuccess (after : AfterLoad) : (player.afterSuccess after).view = player.view := by
  cases after with
  | nothing => rfl
  | play => exact (view_startPlay _).trans (player.view_showFrame _)
  | frame index => exact player.view_showFrame index
  | opened isGrowing =>
    unfold afterSuccess
    dsimp only
    split
    · rfl
    split
    · exact (view_startLiveMode _).trans ((player.goTo 0).view_showFrame 0)
    · exact (view_startPlay _).trans ((player.goTo 0).view_showFrame 0)

theorem view_finishLoad (ownMap : Option Map) (after : AfterLoad) :
    (player.finishLoad ownMap after).view = player.view :=
  view_afterSuccess _ after

theorem view_finishPoll (totalLines : Nat) (isGrowing : Bool) :
    (player.finishPoll totalLines isGrowing).view = player.view := by
  unfold finishPoll
  dsimp only
  split <;> split
  · exact view_showFrame _ _
  · rfl
  · exact view_showFrame _ _
  · rfl

theorem view_receiveFrames (format : FrameFormat Frame Map) (request : FrameRequest)
    (append : Bool) (after : AfterLoad) (newFrames : List Frame) (totalFrames : Nat) :
    (player.receiveFrames format request append after newFrames totalFrames).view =
      (player.toFrameBuffer.load append request.offset newFrames, player.currentFile) := by
  unfold receiveFrames
  dsimp only
  split
  · rfl
  · exact view_finishLoad _ _ _

theorem view_receiveStatus (totalLines : Nat) (isGrowing : Bool) :
    (player.receiveStatus totalLines isGrowing).view = player.view := by
  unfold receiveStatus
  split
  · rfl
  · cases isGrowing <;> rfl

theorem view_openFile (totalLines : Nat) (isGrowing : Bool) :
    (player.openFile totalLines isGrowing).view = player.view := by
  unfold openFile
  dsimp only
  split
  · rfl
  · exact view_loadFrameRange _ rfl

theorem followed_ne {names : List String} {name : String}
    (follows : player.followed names = some name) : name ≠ "" := by
  unfold followed at follows
  dsimp only at follows
  split at follows
  case isTrue named =>
    cases follows
    exact named.1
  case isFalse => cases follows

theorem view_listFiles (names : List String) :
    (player.listFiles names).view =
      (player.toFrameBuffer, (player.followed names).getD player.currentFile) := by
  unfold listFiles
  dsimp only
  split
  case h_1 name follows =>
    have follows : player.followed names = some name := follows
    rw [view_onFileSelected, follows]
    simp only [if_neg (player.followed_ne follows), Option.getD_some]
  case h_2 stays =>
    have stays : player.followed names = none := stays
    rw [stays]
    rfl

theorem view_resume {format : FrameFormat Frame Map} {task : PendingFetch Map}
    {answer : FetchAnswer Frame Map}
    (unlisted : task = .fileList → ∀ names, answer = .files names → player.followed names = none)
    (unframed : ∀ request, task.request? = some request →
      ∀ newFrames totalFrames, answer ≠ .frames newFrames totalFrames) :
    (player.resume format task answer).view = player.view := by
  cases task with
  | fileList =>
    cases answer with
    | files names => exact (view_listFiles _ names).trans (by rw [unlisted rfl names rfl]; rfl)
    | _ => rfl
  | fileStatus =>
    cases answer with
    | status totalLines isGrowing => exact view_openFile _ totalLines isGrowing
    | _ => rfl
  | frames request append after =>
    cases answer with
    | frames newFrames totalFrames => exact absurd rfl (unframed request rfl newFrames totalFrames)
    | _ => exact view_afterFailure _ after
  | map mapId ownMap after =>
    cases answer with
    | _ => exact view_finishLoad _ ownMap after
  | pollStatus =>
    cases answer with
    | status totalLines isGrowing => exact view_receiveStatus _ totalLines isGrowing
    | _ => rfl
  | pollFrames request totalLines isGrowing =>
    cases answer with
    | frames newFrames totalFrames => exact absurd rfl (unframed request rfl newFrames totalFrames)
    | refused => exact view_finishPoll _ totalLines isGrowing
    | _ => rfl

end

def chosenFile (player : Player Frame Map) : PlayerEvent Frame Map → Option String
  | .selectFile name => if name = "" then none else some name
  | .arrive index (.files names) =>
      match player.pending[index]? with
      | some .fileList => player.followed names
      | _ => none
  | _ => none

def arrivedFrames (player : Player Frame Map) :
    PlayerEvent Frame Map → Option (FrameRequest × List Frame)
  | .arrive index (.frames newFrames _) =>
      ((player.pending[index]?).bind PendingFetch.request?).map fun request => (request, newFrames)
  | _ => none

section

variable {format : FrameFormat Frame Map} {event : PlayerEvent Frame Map}

theorem step_chosen {file : String} (chosen : player.chosenFile event = some file) :
    (player.step format event).view = (player.toFrameBuffer, file) := by
  unfold chosenFile at chosen
  split at chosen
  case h_1 name =>
    split at chosen
    · cases chosen
    · next named =>
      cases chosen
      exact (view_onFileSelected _ true).trans (by rw [if_neg named])
  case h_2 index names =>
    split at chosen
    case h_1 task =>
      simp only [step, arrive, task]
      refine (view_listFiles _ names).trans ?_
      have follows : followed names
        { player with pending := player.pending.eraseIdx index } = some file := chosen
      rw [follows]
      rfl
    case h_2 => cases chosen
  case h_3 => cases chosen

theorem step_arrived {request : FrameRequest} {newFrames : List Frame}
    (arrived : player.arrivedFrames event = some (request, newFrames)) :
    (player.step format event).currentFile = player.currentFile ∧
      ((newFrames = [] ∧ (player.step format event).toFrameBuffer = player.toFrameBuffer) ∨
        ∃ earlier trim, player.toFrameBuffer.Received request.offset newFrames
          (player.step format event).toFrameBuffer earlier trim) := by
  unfold arrivedFrames at arrived
  split at arrived
  case h_1 index newFrames' totalFrames =>
    simp only [Option.map_eq_some_iff, Option.bind_eq_some_iff, Prod.mk.injEq] at arrived
    obtain ⟨request, ⟨task, waiting, asked⟩, rfl, rfl⟩ := arrived
    simp only [step, arrive, waiting]
    cases task with
    | frames own append after =>
      obtain rfl : own = request := Option.some.inj asked
      have view := view_receiveFrames { player with pending := player.pending.eraseIdx index }
        format own append after newFrames' totalFrames
      have buffer := congrArg Prod.fst view
      refine ⟨congrArg Prod.snd view, .inr ?_⟩
      obtain ⟨earlier, trim, received⟩ :=
        player.toFrameBuffer.load_received append own.offset newFrames'
      exact ⟨earlier, trim, received.congr buffer⟩
    | pollFrames own totalLines isGrowing =>
      obtain rfl : own = request := Option.some.inj asked
      have view := view_finishPoll
        { player with
          pending := player.pending.eraseIdx index
          toFrameBuffer := player.toFrameBuffer.poll own.offset newFrames'
          totalFrameCount := totalFrames } totalLines isGrowing
      have buffer := congrArg Prod.fst view
      refine ⟨congrArg Prod.snd view, ?_⟩
      by_cases none_ : newFrames' = []
      · subst none_
        exact .inl ⟨rfl, buffer⟩
      · obtain ⟨earlier, trim, received⟩ :=
          player.toFrameBuffer.poll_received own.offset none_
        exact .inr ⟨earlier, trim, received.congr buffer⟩
    | fileList => cases asked
    | fileStatus => cases asked
    | map mapId ownMap after => cases asked
    | pollStatus => cases asked
  case h_2 => cases arrived

theorem step_quiet (unchosen : player.chosenFile event = none)
    (unarrived : player.arrivedFrames event = none) :
    (player.step format event).view = player.view := by
  cases event with
  | refreshFileList => rfl
  | selectFile name =>
    refine (view_onFileSelected _ true).trans ?_
    simp only [chosenFile, ite_eq_left_iff, reduceCtorEq, imp_false, not_not] at unchosen
    rw [if_pos unchosen]
    rfl
  | togglePlay => exact player.view_togglePlay
  | stepNext => exact player.view_stepNext
  | stepPrev => exact player.view_stepPrev
  | resetPlay => exact player.view_resetPlay
  | seekFrame index => exact view_ensureFrameAndShow _ index
  | changeSpeed => exact player.view_changeSpeed
  | toggleLiveMode => exact player.view_toggleLiveMode
  | drag dragging => rfl
  | playTimer => exact player.view_playStep
  | liveTimer => exact player.view_livePoll
  | arrive index answer =>
    simp only [step, arrive]
    split
    case h_1 => rfl
    case h_2 task waiting =>
      refine (view_resume _ ?_ ?_).trans rfl
      · rintro rfl names rfl
        simp only [chosenFile, waiting] at unchosen
        exact unchosen
      · rintro request asked newFrames totalFrames rfl
        simp [arrivedFrames, waiting, asked] at unarrived

end

def Served (content : String → Int → Frame) (player : Player Frame Map)
    (event : PlayerEvent Frame Map) : Prop :=
  ∀ arrived ∈ player.arrivedFrames event, ∃ count ≤ arrived.1.limit,
    arrived.2 = page (content arrived.1.file) arrived.1.offset count

def ShowsCurrentFile (content : String → Int → Frame) (player : Player Frame Map) : Prop :=
  player.toFrameBuffer.Shows (content player.currentFile)

/-- Another file is selected while the buffer is empty, and frames come for the file that is
selected then. -/
structure InTime (player : Player Frame Map) (event : PlayerEvent Frame Map) : Prop where
  chosen : ∀ file ∈ player.chosenFile event, file = player.currentFile ∨ player.frames = []
  arrived : ∀ arrived ∈ player.arrivedFrames event,
    arrived.1.file = player.currentFile ∨ arrived.2 = []

section

variable {format : FrameFormat Frame Map} {content : String → Int → Frame}
  {event : PlayerEvent Frame Map}

theorem shows_of_view {file : String} (view : player'.view = (player.toFrameBuffer, file)) :
    player'.ShowsCurrentFile content ↔ player.toFrameBuffer.Shows (content file) := by
  obtain ⟨buffer, current⟩ := Prod.mk.injEq .. ▸ view
  rw [ShowsCurrentFile, buffer, current]

theorem Served.holds (served : player.Served content event) {request : FrameRequest}
    {newFrames : List Frame} (arrived : player.arrivedFrames event = some (request, newFrames)) :
    Holds (content request.file) request.offset newFrames := by
  obtain ⟨count, -, page⟩ := served _ arrived
  have page : newFrames = Window.page (content request.file) request.offset count := page
  rw [page]
  exact holds_page count

theorem ShowsCurrentFile.step (shows_ : player.ShowsCurrentFile content)
    (served : player.Served content event) (inTime : player.InTime event) :
    (player.step format event).ShowsCurrentFile content := by
  cases chosen : player.chosenFile event with
  | some file =>
    rw [shows_of_view (step_chosen chosen)]
    rcases inTime.chosen file chosen with rfl | empty
    · exact shows_
    · rw [FrameBuffer.shows_iff, empty]
      exact holds_nil
  | none =>
    cases arrived : player.arrivedFrames event with
    | none => exact (shows_of_view (step_quiet chosen arrived)).mpr shows_
    | some got =>
      obtain ⟨request, newFrames⟩ := got
      obtain ⟨file, ⟨-, buffer⟩ | ⟨earlier, trim, received⟩⟩ := @step_arrived _ _ _ format _ _ _ arrived
      · rw [ShowsCurrentFile, file, buffer]
        exact shows_
      · rw [ShowsCurrentFile, file]
        refine received.shows shows_ ?_
        have held := served.holds arrived
        rcases inTime.arrived _ arrived with same | empty
        · rwa [same] at held
        · have empty : newFrames = [] := empty
          rw [empty]
          exact holds_nil

theorem ShowsCurrentFile.inTime
    (apart : ∀ file other position, content file position = content other position → file = other)
    (shows_ : player.ShowsCurrentFile content) (served : player.Served content event)
    (after : (player.step format event).ShowsCurrentFile content) : player.InTime event := by
  constructor
  · intro file chosen
    by_contra late
    rw [not_or] at late
    rw [shows_of_view (step_chosen chosen)] at after
    obtain ⟨position, meet⟩ := (FrameBuffer.shows_iff.mp after).meet
      (FrameBuffer.shows_iff.mp shows_) late.2
    exact late.1 (apart _ _ position meet)
  · intro ⟨request, newFrames⟩ arrived
    by_contra late
    rw [not_or] at late
    obtain ⟨file, ⟨empty, -⟩ | ⟨earlier, trim, received⟩⟩ := @step_arrived _ _ _ format _ _ _ arrived
    · exact late.2 empty
    · rw [ShowsCurrentFile, file] at after
      obtain ⟨position, meet⟩ := received.meets late.2 (served.holds arrived) after
      exact late.1 (apart _ _ position meet)

end

section

variable (format : FrameFormat Frame Map)

def EveryStep (property : Player Frame Map → PlayerEvent Frame Map → Prop) :
    List (PlayerEvent Frame Map) → Player Frame Map → Prop
  | [], _ => True
  | event :: events, player =>
      property player event ∧ EveryStep property events (player.step format event)

def EveryState (property : Player Frame Map → Prop) :
    List (PlayerEvent Frame Map) → Player Frame Map → Prop
  | [], player => property player
  | event :: events, player =>
      property player ∧ EveryState property events (player.step format event)

variable {format} {content : String → Int → Frame} {events : List (PlayerEvent Frame Map)}

theorem EveryState.head {property : Player Frame Map → Prop}
    (every : EveryState format property events player) : property player := by
  cases events with
  | nil => exact every
  | cons event events => exact every.1

theorem ShowsCurrentFile.run (shows_ : player.ShowsCurrentFile content)
    (served : EveryStep format (Served content) events player)
    (inTime : EveryStep format InTime events player) :
    EveryState format (ShowsCurrentFile content) events player := by
  induction events generalizing player with
  | nil => exact shows_
  | cons event events ih => exact ⟨shows_, ih (shows_.step served.1 inTime.1) served.2 inTime.2⟩

theorem ShowsCurrentFile.run_inTime
    (apart : ∀ file other position, content file position = content other position → file = other)
    (served : EveryStep format (Served content) events player)
    (shows_ : EveryState format (ShowsCurrentFile content) events player) :
    EveryStep format InTime events player := by
  induction events generalizing player with
  | nil => trivial
  | cons event events ih =>
    exact ⟨shows_.1.inTime apart served.1 shows_.2.head, ih served.2 shows_.2⟩

end

end Player

def Player.start {Frame Map : Type} : Player Frame Map := {}

/-- In a run whose steps are all in time the buffer only ever shows frames of the selected file,
under their own numbers; and where frames tell their file, in no other run. -/
theorem frame_buffer_shows_current_file {Frame Map : Type} (format : FrameFormat Frame Map)
    (content : String → Int → Frame) (events : List (PlayerEvent Frame Map))
    (served : Player.EveryStep format (Player.Served content) events .start) :
    (Player.EveryStep format Player.InTime events .start →
      Player.EveryState format (Player.ShowsCurrentFile content) events .start) ∧
    ((∀ file other position, content file position = content other position → file = other) →
      Player.EveryState format (Player.ShowsCurrentFile content) events .start →
        Player.EveryStep format Player.InTime events .start) := by
  have empty : Player.ShowsCurrentFile content (.start : Player Frame Map) :=
    FrameBuffer.shows_iff.mpr holds_nil
  constructor
  · intro inTime
    exact empty.run served inTime
  · intro apart shows_
    exact Player.ShowsCurrentFile.run_inTime apart served shows_

section

def testFormat : FrameFormat (String × Int) Unit := ⟨fun _ => "", fun _ => none⟩

def testContent (file : String) (position : Int) : String × Int := (file, position)

def openRun : List (PlayerEvent (String × Int) Unit) :=
  [.selectFile "a.jsonl", .arrive 0 (.status 3 false),
    .arrive 0 (.frames (page (testContent "a.jsonl") 0 3) 3)]

def reopenRun : List (PlayerEvent (String × Int) Unit) := openRun ++ [.selectFile "b.jsonl"]

theorem testContent_apart (file other : String) (position : Int)
    (same : testContent file position = testContent other position) : file = other :=
  congrArg Prod.fst same

theorem reopenRun_served :
    Player.EveryStep testFormat (Player.Served testContent) reopenRun .start := by
  refine ⟨?_, ?_, ?_, ?_, trivial⟩
  · intro arrived member
    cases member
  · intro arrived member
    cases member
  · intro arrived member
    cases member
    exact ⟨3, by decide, rfl⟩
  · intro arrived member
    cases member

theorem frame_buffer_shows_opened_file :
    Player.EveryState testFormat (Player.ShowsCurrentFile testContent) openRun .start ∧
      Player.EveryStep testFormat Player.InTime openRun .start := by
  have served : Player.EveryStep testFormat (Player.Served testContent) openRun .start :=
    ⟨reopenRun_served.1, reopenRun_served.2.1, reopenRun_served.2.2.1, trivial⟩
  obtain ⟨shows_, inTime⟩ := frame_buffer_shows_current_file testFormat testContent openRun served
  have every : Player.EveryState testFormat (Player.ShowsCurrentFile testContent) openRun
      .start := by
    refine shows_ ⟨⟨?_, ?_⟩, ⟨?_, ?_⟩, ⟨?_, ?_⟩, trivial⟩
    · exact fun _ _ => .inr rfl
    · intro arrived member
      cases member
    · intro file member
      cases member
    · intro arrived member
      cases member
    · intro file member
      cases member
    · intro arrived member
      cases member
      exact .inl rfl
  exact ⟨every, inTime testContent_apart every⟩

/-- The next file is selected, and the buffer shows a frame of the one before. -/
theorem frame_buffer_shows_old_file :
    Player.EveryStep testFormat (Player.Served testContent) reopenRun .start ∧
      ¬ Player.EveryState testFormat (Player.ShowsCurrentFile testContent) reopenRun .start := by
  refine ⟨reopenRun_served, fun shows_ => ?_⟩
  have last := shows_.2.2.2.2
  have same : ("a.jsonl", (0 : Int)) = testContent "b.jsonl" 0 := last 0 ("a.jsonl", 0) rfl
  exact absurd (congrArg Prod.fst same) (by decide)

end

end MazeClient
