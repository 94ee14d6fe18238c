import Mathlib.Data.List.Basic

set_option autoImplicit false

namespace MazeClient

def prefetchThreshold : Nat := 100
def pageSize : Nat := 400
def bufferSize : Nat := 400

structure FrameFormat (Frame Map : Type) where
  mapId : Frame → String
  ownMap : Frame → Option Map

structure FrameBuffer (Frame : Type) where
  frames : List Frame := []
  bufferOffset : Int := 0

structure FrameRequest where
  file : String
  offset : Int
  limit : Nat
  deriving DecidableEq

-- What a caller of loadFrameRange does once it has loaded.
inductive AfterLoad where
  | nothing
  | play
  | frame (index : Int)
  | opened (isGrowing : Bool)
  deriving DecidableEq

inductive PendingFetch (Map : Type) where
  | fileList
  | fileStatus
  | frames (request : FrameRequest) (append : Bool) (after : AfterLoad)
  | map (mapId : String) (ownMap : Option Map) (after : AfterLoad)
  | pollStatus
  | pollFrames (request : FrameRequest) (totalLines : Nat) (isGrowing : Bool)

inductive FetchAnswer (Frame Map : Type) where
  | files (names : List String)
  | status (totalLines : Nat) (isGrowing : Bool)
  | frames (frames : List Frame) (totalFrames : Nat)
  | map (map : Map)
  | refused
  | lost

def PendingFetch.request? {Map : Type} : PendingFetch Map → Option FrameRequest
  | .frames request _ _ | .pollFrames request _ _ => some request
  | _ => none

structure Player (Frame Map : Type) extends FrameBuffer Frame where
  totalFrameCount : Nat := 0
  currentIndex : Int := 0
  isPlaying : Bool := false
  currentFile : String := ""
  latestFile : String := ""
  autoFollowLatest : Bool := true
  cachedMap : Option Map := none
  currentMapId : String := ""
  isLoading : Bool := false
  liveMode : Bool := false
  lastKnownLines : Nat := 0
  userDragging : Bool := false
  fileSelect : String := ""
  pending : List (PendingFetch Map) := []

-- The user's doings, the timers, which may be set more than once, and the answers.
inductive PlayerEvent (Frame Map : Type) where
  | refreshFileList
  | selectFile (name : String)
  | togglePlay
  | stepNext
  | stepPrev
  | resetPlay
  | seekFrame (index : Int)
  | changeSpeed
  | toggleLiveMode
  | drag (dragging : Bool)
  | playTimer
  | liveTimer
  | arrive (index : Nat) (answer : FetchAnswer Frame Map)

namespace FrameBuffer

variable {Frame : Type}

def getFrameFromBuffer (buffer : FrameBuffer Frame) (globalIndex : Int) : Option Frame :=
  let localIndex := globalIndex - buffer.bufferOffset
  if 0 ≤ localIndex ∧ localIndex < buffer.frames.length then buffer.frames[localIndex.toNat]?
  else none

def concat (buffer : FrameBuffer Frame) (newFrames : List Frame) : FrameBuffer Frame :=
  { buffer with frames := buffer.frames ++ newFrames }

def trimFront (buffer : FrameBuffer Frame) : FrameBuffer Frame :=
  let maxBuffer := bufferSize * 2
  if maxBuffer < buffer.frames.length then
    let trim := buffer.frames.length - maxBuffer
    ⟨buffer.frames.drop trim, buffer.bufferOffset + trim⟩
  else buffer

def load (buffer : FrameBuffer Frame) (append : Bool) (offset : Int) (newFrames : List Frame) :
    FrameBuffer Frame :=
  if append ∧ offset = buffer.bufferOffset + buffer.frames.length then
    (buffer.concat newFrames).trimFront
  else ⟨newFrames, offset⟩

def poll (buffer : FrameBuffer Frame) (newOffset : Int) (newFrames : List Frame) :
    FrameBuffer Frame :=
  if newFrames = [] then buffer
  else if newOffset = buffer.bufferOffset + buffer.frames.length then buffer.concat newFrames
  else ⟨newFrames, newOffset⟩

end FrameBuffer

namespace Player

variable {Frame Map : Type}

def await (task : PendingFetch Map) (player : Player Frame Map) : Player Frame Map :=
  { player with pending := player.pending ++ [task] }

-- `refused` is what the caller does with the false it gets while another load is on.
def loadFrameRange (offset : Int) (limit : Nat) (append : Bool) (after : AfterLoad)
    (refused : Player Frame Map → Player Frame Map) (player : Player Frame Map) :
    Player Frame Map :=
  if player.isLoading then refused player
  else
    { player with isLoading := true }.await
      (.frames ⟨player.currentFile, offset, limit⟩ append after)

def checkPrefetch (globalIndex : Int) (player : Player Frame Map) : Player Frame Map :=
  let localIndex := globalIndex - player.bufferOffset
  let distToEnd := player.frames.length - localIndex
  if distToEnd < prefetchThreshold ∧
      player.bufferOffset + player.frames.length < player.totalFrameCount then
    let newOffset := player.bufferOffset + player.frames.length
    player.loadFrameRange newOffset pageSize true .nothing id
  else player

-- Drawing aside, showing a frame of the buffer only looks ahead.
def showFrame (index : Int) (player : Player Frame Map) : Player Frame Map :=
  if index < 0 ∨ player.totalFrameCount ≤ index then player
  else
    match player.getFrameFromBuffer index with
    | none => player
    | some _ => player.checkPrefetch index

def ensureFrameAndShow (globalIndex : Int) (player : Player Frame Map) : Player Frame Map :=
  match player.getFrameFromBuffer globalIndex with
  | some _ => player.showFrame globalIndex
  | none =>
      let loadOffset := max 0 (globalIndex - pageSize / 4)
      player.loadFrameRange loadOffset pageSize false (.frame globalIndex) (showFrame globalIndex)

def pausePlay (player : Player Frame Map) : Player Frame Map := { player with isPlaying := false }

def startPlay (player : Player Frame Map) : Player Frame Map :=
  if player.totalFrameCount = 0 then player else { player with isPlaying := true }

def stopLiveMode (player : Player Frame Map) : Player Frame Map := { player with liveMode := false }

def goTo (index : Int) (player : Player Frame Map) : Player Frame Map :=
  { player with currentIndex := index }

def startLiveMode (player : Player Frame Map) : Player Frame Map :=
  let player := { player with liveMode := true }
  if 0 < player.totalFrameCount then
    let last : Int := player.totalFrameCount - 1
    (player.goTo last).ensureFrameAndShow last
  else player

def togglePlay (player : Player Frame Map) : Player Frame Map :=
  if player.isPlaying then player.pausePlay else player.startPlay

def playStep (player : Player Frame Map) : Player Frame Map :=
  if !player.isPlaying then player
  else if player.currentIndex < player.totalFrameCount - 1 then
    let player := player.goTo (player.currentIndex + 1)
    match player.getFrameFromBuffer player.currentIndex with
    | none => player.pausePlay.loadFrameRange player.currentIndex pageSize false .play id
    | some _ => player.showFrame player.currentIndex
  else if player.liveMode then player
  else player.pausePlay

def stepNext (player : Player Frame Map) : Player Frame Map :=
  let player := player.pausePlay
  if player.currentIndex < player.totalFrameCount - 1 then
    (player.goTo (player.currentIndex + 1)).ensureFrameAndShow (player.currentIndex + 1)
  else player

def stepPrev (player : Player Frame Map) : Player Frame Map :=
  let player := player.pausePlay
  if 0 < player.currentIndex then
    (player.goTo (player.currentIndex - 1)).ensureFrameAndShow (player.currentIndex - 1)
  else player

def resetPlay (player : Player Frame Map) : Player Frame Map :=
  let player := player.pausePlay.stopLiveMode.goTo 0
  if player.bufferOffset ≠ 0 then
    player.loadFrameRange 0 pageSize false (.frame 0) (showFrame 0)
  else player.showFrame 0

def seekFrame (index : Int) (player : Player Frame Map) : Player Frame Map :=
  (player.pausePlay.goTo index).ensureFrameAndShow index

def changeSpeed (player : Player Frame Map) : Player Frame Map :=
  if player.isPlaying then player.pausePlay.startPlay else player

def toggleLiveMode (player : Player Frame Map) : Player Frame Map :=
  if player.liveMode then player.stopLiveMode else player.startLiveMode

def onFileSelected (userInitiated : Bool) (player : Player Frame Map) : Player Frame Map :=
  let filename := player.fileSelect
  if filename = "" then player
  else
    let player :=
      if userInitiated then
        { player with autoFollowLatest := filename = player.latestFile }
      else player
    { player.pausePlay.stopLiveMode with
      currentFile := filename, cachedMap := none, currentMapId := "" }.await .fileStatus

def livePoll (player : Player Frame Map) : Player Frame Map :=
  if player.currentFile = "" then player else player.await .pollStatus

def afterFailure : AfterLoad → Player Frame Map → Player Frame Map
  | .frame index => showFrame index
  | _ => id

def afterSuccess (after : AfterLoad) (player : Player Frame Map) : Player Frame Map :=
  match after with
  | .nothing => player
  | .play => (player.showFrame player.currentIndex).startPlay
  | .frame index => player.showFrame index
  | .opened isGrowing =>
      if player.frames = [] then player
      else if isGrowing then ((player.goTo 0).showFrame 0).startLiveMode
      else ((player.goTo 0).showFrame 0).startPlay

def followed (names : List String) (player : Player Frame Map) : Option String :=
  let latestFile := names.headD ""
  if latestFile ≠ "" ∧ (player.currentFile = "" ∨
      player.autoFollowLatest ∧ player.currentFile ≠ latestFile) then some latestFile
  else none

def listFiles (names : List String) (player : Player Frame Map) : Player Frame Map :=
  let player :=
    { player with
      latestFile := names.headD ""
      fileSelect := if player.fileSelect ∈ names then player.fileSelect else "" }
  match player.followed names with
  | some name => { player with fileSelect := name }.onFileSelected false
  | none => player

def openFile (totalLines : Nat) (isGrowing : Bool) (player : Player Frame Map) :
    Player Frame Map :=
  let player := { player with totalFrameCount := totalLines, lastKnownLines := totalLines }
  if totalLines = 0 then player
  else player.loadFrameRange 0 pageSize false (.opened isGrowing) id

-- The end of loadFrameRange. A map that is still missing may come with the first frame.
def finishLoad (ownMap : Option Map) (after : AfterLoad) (player : Player Frame Map) :
    Player Frame Map :=
  { player with cachedMap := player.cachedMap.or ownMap, isLoading := false }.afterSuccess after

def receiveFrames (format : FrameFormat Frame Map) (request : FrameRequest) (append : Bool)
    (after : AfterLoad) (newFrames : List Frame) (totalFrames : Nat) (player : Player Frame Map) :
    Player Frame Map :=
  let player :=
    { player with
      totalFrameCount := totalFrames
      toFrameBuffer := player.toFrameBuffer.load append request.offset newFrames }
  let ownMap := if request.offset = 0 then newFrames.head?.bind format.ownMap else none
  let mapId := (newFrames.head?.map format.mapId).getD ""
  if mapId ≠ "" ∧ player.cachedMap.isNone then player.await (.map mapId ownMap after)
  else player.finishLoad ownMap after

def receiveStatus (totalLines : Nat) (isGrowing : Bool) (player : Player Frame Map) :
    Player Frame Map :=
  if player.lastKnownLines < totalLines then
    let newCount := totalLines - player.lastKnownLines
    player.await
      (.pollFrames ⟨player.currentFile, player.lastKnownLines, newCount⟩ totalLines isGrowing)
  else if isGrowing then player
  else player.stopLiveMode

def finishPoll (totalLines : Nat) (isGrowing : Bool) (player : Player Frame Map) :
    Player Frame Map :=
  let player := { player with lastKnownLines := totalLines }
  let last : Int := player.totalFrameCount - 1
  let player :=
    if player.liveMode ∧ !player.userDragging ∧ !player.isPlaying then
      (player.goTo last).showFrame last
    else player
  if isGrowing then player else player.stopLiveMode

def resume (format : FrameFormat Frame Map) (task : PendingFetch Map) (answer : FetchAnswer Frame Map)
    (player : Player Frame Map) : Player Frame Map :=
  match task, answer with
  | .fileList, .files names => player.listFiles names
  | .fileStatus, .status totalLines isGrowing => player.openFile totalLines isGrowing
  | .frames request append after, .frames newFrames totalFrames =>
      player.receiveFrames format request append after newFrames totalFrames
  | .frames _ _ after, _ => { player with isLoading := false }.afterFailure after
  | .map mapId ownMap after, .map map =>
      { player with cachedMap := some map, currentMapId := mapId }.finishLoad ownMap after
  | .map _ ownMap after, _ => player.finishLoad ownMap after
  | .pollStatus, .status totalLines isGrowing => player.receiveStatus totalLines isGrowing
  | .pollFrames request totalLines isGrowing, .frames newFrames totalFrames =>
      { player with
        toFrameBuffer := player.toFrameBuffer.poll request.offset newFrames
        totalFrameCount := totalFrames }.finishPoll totalLines isGrowing
  | .pollFrames _ totalLines isGrowing, .refused => player.finishPoll totalLines isGrowing
  | _, _ => player

def arrive (format : FrameFormat Frame Map) (index : Nat) (answer : FetchAnswer Frame Map)
    (player : Player Frame Map) : Player Frame Map :=
  match player.pending[index]? with
  | none => player
  | some task => { player with pending := player.pending.eraseIdx index }.resume format task answer

def step (format : FrameFormat Frame Map) (player : Player Frame Map) :
    PlayerEvent Frame Map → Player Frame Map
  | .refreshFileList => player.await .fileList
  | .selectFile name => { player with fileSelect := name }.onFileSelected true
  | .togglePlay => player.togglePlay
  | .stepNext => player.stepNext
  | .stepPrev => player.stepPrev
  | .resetPlay => player.resetPlay
  | .seekFrame index => player.seekFrame index
  | .changeSpeed => player.changeSpeed
  | .toggleLiveMode => player.toggleLiveMode
  | .drag dragging => { player with userDragging := dragging }
  | .playTimer => player.playStep
  | .liveTimer => player.livePoll
  | .arrive index answer => player.arrive format index answer

end Player

end MazeClient
