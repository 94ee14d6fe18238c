import MazeClient.Config.ReplayConfig
import MazeClient.Replay.LineIndex
import MazeClient.Shared.Packed
import Mathlib.Data.Int.Range
import Mathlib.Data.List.Infix

set_option autoImplicit false

namespace MazeClient

open Packed

inductive LineRead (Frame : Type) where
  | frame (frame : Frame)
  | skipped
  | raised

def LineRead.frame? {Frame : Type} : LineRead Frame → Option Frame
  | .frame value => some value
  | _ => none

structure ReplayFile (Frame : Type) where
  bytes : List UInt8
  lineOffsets : List Nat
  loads : Text → LineRead Frame
  raisesBehind : Nat → Bool

structure FramePage (Frame : Type) where
  file : String
  totalFrames : Nat
  offset : Int
  limit : Int
  frames : List Frame

-- What do_GET makes of the two numbers of a query; `none` is a text that int() refuses.
def admitted (offset limit : Option Int) : Int × Int :=
  match offset, limit with
  | some offset, some limit => (offset, min limit 2000)
  | _, _ => (0, 200)

namespace ReplayFile

variable {Frame : Type} (file : ReplayFile Frame)

def total : Nat := file.lineOffsets.length

-- A line of the text layer, which ends at a CR as well, without what ends it.
def readline (position : Nat) : Option Text :=
  let line := (file.bytes.drop position).takeWhile fun byte => byte ≠ 10 && byte ≠ 13
  if file.raisesBehind position then none
  else (String.fromUTF8? ⟨line.toArray⟩).map String.toList

def readFrame (position : Nat) : LineRead Frame :=
  match file.readline position with
  | none => .raised
  | some text =>
      let line := strip ReplayService.isSpace text
      if line = [] then .skipped else file.loads line

-- `line_offsets[i]`: a negative index counts from the end, and one that is too far off raises.
def offsetAt (i : Int) : Option Nat :=
  if 0 ≤ i then file.lineOffsets[i.toNat]?
  else if -file.total ≤ i then file.lineOffsets[(file.total + i).toNat]?
  else none

def readIndex (i : Int) : LineRead Frame :=
  match file.offsetAt i with
  | none => .raised
  | some position => file.readFrame position

def readFrames : List Int → Option (List Frame)
  | [] => some []
  | i :: rest =>
      match file.readIndex i with
      | .raised => none
      | .skipped => readFrames rest
      | .frame frame => (readFrames rest).map (frame :: ·)

def pageLines (offset limit : Int) : List Int :=
  if file.total ≤ offset then [] else Int.range offset (min (offset + limit) file.total)

def loadFramesPaged (offset limit : Int) : Except String (List Frame × Nat) :=
  match file.readFrames (file.pageLines offset limit) with
  | some frames => .ok (frames, file.total)
  | none => .error "读取文件失败"

def requestPage (offset limit : Option Int) : Except String (List Frame × Nat) :=
  file.loadFramesPaged (admitted offset limit).1 (admitted offset limit).2

-- The pages of a size, one query after another, each frame under the number that its page and its
-- position give it.
def readPages (size : Nat) : List Nat → Except String (List (Frame × Nat))
  | [] => .ok []
  | page :: rest => do
      let (frames, _) ← file.requestPage (some (page * size : Nat)) (some size)
      let later ← readPages size rest
      return frames.zipIdx (page * size) ++ later

def lineFrame (line : Nat) : Option Frame :=
  (file.lineOffsets[line]?).bind fun position => (file.readFrame position).frame?

end ReplayFile

section

variable {Frame : Type} (files : String → Option (ReplayFile Frame))

def validateFilename (filename : String) : Except String (ReplayFile Frame) :=
  let name := filename.toList
  if "..".toList <:+: name ∨ '/' ∈ name ∨ Char.ofNat 92 ∈ name then .error "非法文件名"
  else
    match files filename with
    | none => .error ("文件不存在: " ++ filename)
    | some file => .ok file

def apiFrames (filename : Option String) (offset limit : Option Int) :
    Except (Nat × String) (FramePage Frame) :=
  let name := filename.getD ""
  if name = "" then .error (400, "缺少 file 参数")
  else
    match validateFilename files name with
    | .error error => .error (404, error)
    | .ok file =>
        match file.requestPage offset limit with
        | .error error => .error (404, error)
        | .ok (frames, total) =>
            .ok ⟨name, total, (admitted offset limit).1, (admitted offset limit).2, frames⟩

end

namespace ReplayFile

variable {Frame : Type} {file : ReplayFile Frame} {offset limit : Int} {lines : List Int}

def Aligned (file : ReplayFile Frame) (offset limit : Int) (frames : List Frame) : Prop :=
  ∀ (k : Nat) (frame : Frame), frames[k]? = some frame →
    offset + k < offset + limit ∧ ∃ line : Nat, offset + k = line ∧ file.lineFrame line = some frame

def framesAt (file : ReplayFile Frame) (lines : List Int) : List (Option Frame) :=
  lines.map fun i => (file.readIndex i).frame?

-- An exception leaves no frames. Else the page does not start before the file, unless it holds no
-- frame, and no line of it that parses is behind one that does not.
def InStep (file : ReplayFile Frame) (offset limit : Int) : Prop :=
  let lines := file.pageLines offset limit
  (∃ i ∈ lines, file.readIndex i = .raised) ∨
    (0 ≤ offset ∨ ∀ i ∈ lines, file.readIndex i = .skipped) ∧ Dense (file.framesAt lines)

theorem readFrames_eq_none : file.readFrames lines = none ↔
    ∃ i ∈ lines, file.readIndex i = .raised := by
  induction lines with
  | nil => simp [readFrames]
  | cons i rest ih =>
    rw [readFrames, List.exists_mem_cons_iff]
    cases read : file.readIndex i with
    | raised => simp
    | skipped => simpa using ih
    | frame frame => simpa using ih

theorem readFrames_eq_some {frames : List Frame} (read : file.readFrames lines = some frames) :
    frames = (file.framesAt lines).reduceOption := by
  induction lines generalizing frames with
  | nil => exact (Option.some.inj read).symm
  | cons i rest ih =>
    rw [readFrames] at read
    rw [framesAt, List.map_cons]
    cases found : file.readIndex i with
    | raised => simp [found] at read
    | skipped =>
      rw [found] at read
      exact ih read
    | frame frame =>
      simp only [found, Option.map_eq_some_iff] at read
      obtain ⟨later, read, rfl⟩ := read
      exact congrArg (frame :: ·) (ih read)

theorem frame?_readIndex (line : Nat) :
    (file.readIndex line).frame? = file.lineFrame line := by
  have natural : 0 ≤ (line : Int) := by omega
  simp only [readIndex, offsetAt, if_pos natural, Int.toNat_natCast, lineFrame]
  cases listed : file.lineOffsets[line]? with
  | none => rfl
  | some position => rfl

theorem lineFrame_beyond {line : Nat} (beyond : file.total ≤ line) : file.lineFrame line = none := by
  rw [lineFrame, List.getElem?_eq_none beyond]
  rfl

theorem framesAt_getElem? {k start : Nat} {frame : Frame} :
    (file.framesAt (file.pageLines start limit))[k]? = some (some frame) ↔
      (start + k : Int) < start + limit ∧ file.lineFrame (start + k) = some frame := by
  simp only [framesAt, pageLines]
  split
  case isTrue beyond =>
    rw [lineFrame_beyond (by omega)]
    simp
  case isFalse inside =>
    have cast (r : Nat) : (start : Int) + r = (start + r : Nat) := by omega
    simp only [Int.range, List.map_map, List.getElem?_map, Option.map_eq_some_iff,
      Function.comp_apply, cast, frame?_readIndex]
    constructor
    · intro ⟨r, listed, parsed⟩
      obtain ⟨within, rfl⟩ := List.getElem?_eq_some_iff.mp listed
      rw [List.length_range] at within
      rw [List.getElem_range] at parsed
      exact ⟨by omega, parsed⟩
    · intro ⟨within, parsed⟩
      have listed : start + k < file.total := by
        by_contra beyond
        rw [lineFrame_beyond (by omega)] at parsed
        cases parsed
      refine ⟨k, ?_, parsed⟩
      rw [List.getElem?_range (by omega)]

theorem aligned_iff_dense {start : Nat} :
    file.Aligned start limit (file.framesAt (file.pageLines start limit)).reduceOption ↔
      Dense (file.framesAt (file.pageLines start limit)) := by
  rw [← aligned_iff, Aligned]
  refine forall₃_congr fun k frame found => ?_
  rw [framesAt_getElem?]
  constructor
  · intro ⟨within, line, number, parsed⟩
    obtain rfl : start + k = line := by omega
    exact ⟨within, parsed⟩
  · intro ⟨within, parsed⟩
    exact ⟨within, start + k, by omega, parsed⟩

theorem aligned_iff_nil {frames : List Frame} (before : offset < 0) :
    file.Aligned offset limit frames ↔ frames = [] := by
  constructor
  · intro aligned
    by_contra some_
    obtain ⟨frame, rest, rfl⟩ := List.exists_cons_of_ne_nil some_
    obtain ⟨-, line, number, -⟩ := aligned 0 frame rfl
    omega
  · rintro rfl k frame found
    cases found

theorem reduceOption_framesAt_nil (read : file.readFrames lines ≠ none) :
    (file.framesAt lines).reduceOption = [] ↔ ∀ i ∈ lines, file.readIndex i = .skipped := by
  have quiet : ∀ i ∈ lines, file.readIndex i ≠ .raised := fun i member raised =>
    read (readFrames_eq_none.mpr ⟨i, member, raised⟩)
  simp only [List.reduceOption, framesAt, List.filterMap_eq_nil_iff, id_eq, List.forall_mem_map]
  refine forall₂_congr fun i member => ?_
  have quiet := quiet i member
  cases found : file.readIndex i with
  | frame frame => simp [LineRead.frame?]
  | skipped => simp [LineRead.frame?]
  | raised => exact absurd found quiet

theorem loadFramesPaged_aligned_iff :
    (∀ frames total, file.loadFramesPaged offset limit = .ok (frames, total) →
      file.Aligned offset limit frames) ↔ file.InStep offset limit := by
  unfold loadFramesPaged InStep
  dsimp only
  cases read : file.readFrames (file.pageLines offset limit) with
  | none => simp [readFrames_eq_none.mp read]
  | some frames =>
    have quiet : ¬ ∃ i ∈ file.pageLines offset limit, file.readIndex i = .raised := by
      rw [← readFrames_eq_none, read]
      simp
    have answered : (∀ frames' total, (.ok (frames, file.total) : Except String _) =
        .ok (frames', total) → file.Aligned offset limit frames') ↔
          file.Aligned offset limit frames := by
      constructor
      · intro every
        exact every _ _ rfl
      · intro aligned frames' total same
        cases same
        exact aligned
    obtain rfl := readFrames_eq_some read
    simp only [answered, quiet, false_or]
    by_cases before : offset < 0
    · rw [aligned_iff_nil before, reduceOption_framesAt_nil (by simp [read])]
      constructor
      · intro skipped
        refine ⟨.inr skipped, List.pairwise_map.mpr (List.pairwise_of_forall_mem_list ?_)⟩
        intro earlier _ later member some_
        simp [skipped later member, LineRead.frame?] at some_
      · intro ⟨start, _⟩
        exact start.resolve_left (by omega)
    · obtain ⟨start, rfl⟩ := Int.eq_ofNat_of_zero_le (Int.not_lt.mp before)
      rw [aligned_iff_dense]
      simp

def numberedFrames (file : ReplayFile Frame) : List (Frame × Nat) :=
  (List.range file.total).filterMap fun line =>
    (file.lineFrame line).map fun frame => (frame, line)

def lineFrames (file : ReplayFile Frame) : List (Option Frame) :=
  (List.range file.total).map file.lineFrame

variable {size count : Nat}

theorem pageLines_natCast (start size : Nat) : file.pageLines start size =
    (((List.range file.total).drop start).take size).map fun line : Nat => (line : Int) := by
  unfold pageLines
  split
  case isTrue beyond =>
    have past : (List.range file.total).drop start = [] :=
      List.drop_eq_nil_of_le (by rw [List.length_range]; omega)
    rw [past, List.take_nil]
    rfl
  case isFalse inside =>
    apply List.ext_getElem
    · simp only [Int.range, List.length_map, List.length_range, List.length_take,
        List.length_drop]
      omega
    · intro k _ _
      simp only [Int.range, List.getElem_map, List.getElem_range, List.getElem_take,
        List.getElem_drop]
      omega

theorem framesAt_chunk (page : Nat) :
    file.framesAt (file.pageLines (page * size : Nat) size) =
      chunk size page file.lineFrames := by
  simp only [framesAt, pageLines_natCast, chunk, lineFrames, List.map_map, List.map_take,
    List.map_drop]
  congr 2
  refine List.map_congr_left fun line _ => ?_
  exact frame?_readIndex line

theorem requestPage_eq (small : size ≤ 2000) (page : Nat) :
    file.requestPage (some (page * size : Nat)) (some size) =
      file.loadFramesPaged (page * size : Nat) size := by
  have limit : min (size : Int) 2000 = size := by omega
  simp only [requestPage, admitted, limit]

theorem readPages_eq (small : size ≤ 2000)
    (quiet : ∀ line < file.total, file.readIndex line ≠ .raised) (pages : List Nat) :
    file.readPages size pages =
      .ok (pages.flatMap fun page => packed (page * size) (chunk size page file.lineFrames)) := by
  induction pages with
  | nil => rfl
  | cons page rest ih =>
    have answer : file.loadFramesPaged (page * size : Nat) size =
        .ok ((chunk size page file.lineFrames).reduceOption, file.total) := by
      rw [loadFramesPaged]
      cases read : file.readFrames (file.pageLines (page * size : Nat) size) with
      | some frames => rw [readFrames_eq_some read, framesAt_chunk]
      | none =>
        obtain ⟨i, member, raised⟩ := readFrames_eq_none.mp read
        rw [pageLines_natCast] at member
        obtain ⟨line, listed, rfl⟩ := List.mem_map.mp member
        have inside := List.mem_range.mp (List.mem_of_mem_drop (List.mem_of_mem_take listed))
        exact absurd raised (quiet line inside)
    rw [readPages, requestPage_eq small, answer, ih]
    rfl

theorem readPages_raised (positive : 0 < size) (small : size ≤ 2000) {line : Nat}
    (inside : line < file.total) (raised : file.readIndex line = .raised) {pages : List Nat}
    (asked : line / size ∈ pages) :
    file.readPages size pages = .error "读取文件失败" := by
  have failed : file.loadFramesPaged (line / size * size : Nat) size = .error "读取文件失败" := by
    have member : (line : Int) ∈ file.pageLines (line / size * size : Nat) size := by
      rw [pageLines, if_neg, Int.mem_range_iff]
      · have below := Nat.div_mul_le_self line size
        have above := Nat.lt_div_mul_add positive (a := line)
        omega
      · have below := Nat.div_mul_le_self line size
        omega
    rw [loadFramesPaged, readFrames_eq_none.mpr ⟨line, member, raised⟩]
  induction pages with
  | nil => cases asked
  | cons page rest ih =>
    rw [readPages, requestPage_eq small]
    by_cases here : page = line / size
    · rw [here, failed]
      rfl
    · have later := ih (List.mem_of_ne_of_mem (Ne.symm here) asked)
      rw [later, loadFramesPaged]
      cases file.readFrames (file.pageLines (page * size : Nat) size) with
      | some frames => rfl
      | none => rfl

theorem numberedFrames_eq (enough : file.total ≤ count * size) :
    file.numberedFrames =
      (List.range count).flatMap fun page =>
        numbered (page * size) (chunk size page file.lineFrames) := by
  have length : file.lineFrames.length = file.total := by simp [lineFrames]
  have indexed : (List.range file.total).zipIdx = (List.range file.total).map fun line =>
      (line, line) := List.ext_getElem (by simp) (by simp)
  rw [numbered_chunks, List.take_of_length_le (by omega), numbered, lineFrames, List.zipIdx_map,
    indexed, List.map_map, List.filterMap_map]
  rfl

theorem readPages_eq_iff (positive : 0 < size) (small : size ≤ 2000)
    (enough : file.total ≤ count * size) :
    file.readPages size (List.range count) = .ok file.numberedFrames ↔
      (∀ line < file.total, file.readIndex line ≠ .raised) ∧
        ∀ page < count, Dense (chunk size page file.lineFrames) := by
  by_cases quiet : ∀ line < file.total, file.readIndex line ≠ .raised
  · rw [readPages_eq small quiet, numberedFrames_eq enough, Except.ok.injEq,
      flatMap_eq_iff fun page _ => length_numbered.symm]
    simp only [List.mem_range, packed_eq_numbered_iff, and_iff_right quiet]
  · simp only [quiet, false_and, iff_false]
    intro read
    simp only [not_forall, not_not] at quiet
    obtain ⟨line, inside, raised⟩ := quiet
    have asked : line / size < count := by
      rw [Nat.div_lt_iff_lt_mul positive]
      omega
    rw [readPages_raised positive small inside raised (List.mem_range.mpr asked)] at read
    cases read

end ReplayFile

/-- The pages of /api/frames stay aligned with the numbers of the lines exactly when they are in
step: one page for any offset and limit, and all the pages of one size. -/
theorem frame_pages_aligned_iff {Frame : Type} (file : ReplayFile Frame) :
    (∀ offset limit : Option Int,
      (∀ frames total, file.requestPage offset limit = .ok (frames, total) →
        file.Aligned (admitted offset limit).1 (admitted offset limit).2 frames) ↔
      file.InStep (admitted offset limit).1 (admitted offset limit).2) ∧
    ∀ size count : Nat, 0 < size → size ≤ 2000 → file.total ≤ count * size →
      (file.readPages size (List.range count) = .ok file.numberedFrames ↔
        (∀ line < file.total, file.readIndex line ≠ .raised) ∧
          ∀ page < count, Dense (chunk size page file.lineFrames)) := by
  constructor
  · intro offset limit
    exact ReplayFile.loadFramesPaged_aligned_iff
  · intro size count positive small enough
    exact ReplayFile.readPages_eq_iff positive small enough

section

def loadsDigit : Text → LineRead Nat
  | [c] => if c.isDigit then .frame (c.toNat - 48) else .skipped
  | _ => .skipped

def digitReplay (bytes : List UInt8) : ReplayFile Nat where
  bytes := bytes
  lineOffsets := Lines.starts newline isSpace bytes
  loads := loadsDigit
  raisesBehind := fun _ => false

theorem frame_pages_aligned_pair :
    (digitReplay [49, 10, 50, 10]).Aligned 0 200 [1, 2] ∧
      (digitReplay [49, 10, 50, 10]).readPages 1 [0, 1] = .ok [(1, 0), (2, 1)] := by
  obtain ⟨pages, sizes⟩ := frame_pages_aligned_iff (digitReplay [49, 10, 50, 10])
  constructor
  · refine (pages none none).mpr (.inr ⟨.inl (by decide), ?_⟩) [1, 2] 2 (by rfl)
    show List.Pairwise _ [some 1, some 2]
    decide
  · refine (sizes 1 2 (by decide) (by decide) (by decide)).mpr ⟨?_, ?_⟩
    · intro line inside
      have inside : line < 2 := inside
      obtain rfl | rfl : line = 0 ∨ line = 1 := by omega
      · exact fun raised => by cases raised
      · exact fun raised => by cases raised
    · intro page inside
      obtain rfl | rfl : page = 0 ∨ page = 1 := by omega
      · exact List.pairwise_singleton _ _
      · exact List.pairwise_singleton _ _

/-- The lines 1, x and 2: the 2 is the second frame of the page, as line 1 would be, which is no
JSON. -/
theorem frame_pages_shifted :
    ¬ ∀ frames total, (digitReplay [49, 10, 120, 10, 50, 10]).requestPage (some 0) (some 200) =
      .ok (frames, total) → (digitReplay [49, 10, 120, 10, 50, 10]).Aligned 0 200 frames := by
  intro aligned
  obtain ⟨-, line, number, parsed⟩ := aligned [1, 2] 3 (by rfl) 1 2 rfl
  obtain rfl : line = 1 := by omega
  cases parsed

end

end MazeClient
