import MazeClient.Replay.FramePages
import MazeClient.Shared.JsonPrefix
import MazeClient.Shared.Utf8

set_option autoImplicit false

namespace MazeClient

open JsonReader Wire

structure FrameText (text : Text) (frame : JsonValue) : Prop where
  reads : Reads text frame
  object : text.head? = some '{'
  closed : text.getLast? = some '}'
  printable : ∀ c ∈ text, 32 ≤ c.toNat

-- json.loads, as the server calls it.
def loadsLine (text : Text) : LineRead JsonValue :=
  match loads text with
  | some frame => .frame frame
  | none => .skipped

def scannedFile (raisesBehind : Nat → Bool) (bytes : List UInt8) : ReplayFile JsonValue where
  bytes := bytes
  lineOffsets := Lines.starts newline isSpace bytes
  loads := loadsLine
  raisesBehind := raisesBehind

-- The decoder raises for nothing but bytes that are no UTF-8.
def Decodes (raisesBehind : Nat → Bool) (bytes : List UInt8) : Prop :=
  ∀ position, (toString? (bytes.drop position)).isSome = true → raisesBehind position = false

namespace FrameText

variable {text : Text} {frame : JsonValue}

def bytes (text : Text) : List UInt8 := ofString (String.ofList text)

-- The bytes of a frame do not end a line.
theorem no_end (frameText : FrameText text frame) {byte : UInt8} (low : byte < 32) :
    byte ∉ bytes text := by
  intro member
  have small : byte.toNat < 32 := UInt8.lt_iff_toNat_lt.mp low
  have inside := mem_ofString (UInt8.lt_trans low (by decide)) member
  have printed := frameText.printable _ inside
  have control : ∀ n < 32, (Char.ofNat n).toNat < 32 := by decide
  exact absurd printed (Nat.not_le_of_lt (control _ small))

theorem starts (frameText : FrameText text frame) : ∃ rest, text = '{' :: rest := by
  have object := frameText.object
  cases text with
  | nil => cases object
  | cons c rest =>
      obtain rfl : c = '{' := Option.some.inj object
      exact ⟨rest, rfl⟩

theorem bytes_append (front back : Text) : bytes (front ++ back) = bytes front ++ bytes back :=
  ofString_append front back

theorem bytes_cons (rest : Text) : bytes ('{' :: rest) = 123 :: bytes rest :=
  bytes_append ['{'] rest

theorem visible (frameText : FrameText text frame) {cut : List UInt8} (some_ : cut ≠ [])
    (part : cut <+: bytes text) (tail : List UInt8) : (cut ++ tail).all isSpace = false := by
  obtain ⟨rest, rfl⟩ := frameText.starts
  obtain ⟨byte, cut, rfl⟩ := List.exists_cons_of_ne_nil some_
  rw [bytes_cons, List.cons_prefix_cons] at part
  obtain ⟨rfl, -⟩ := part
  rfl

theorem strip_eq (frameText : FrameText text frame) : strip ReplayService.isSpace text = text := by
  have closed := frameText.closed
  obtain ⟨rest, rfl⟩ := frameText.starts
  rw [strip, List.dropWhile_cons_of_neg (by decide), List.rdropWhile_eq_self_iff]
  intro some_
  rw [List.getLast?_eq_getLast_of_ne_nil some_] at closed
  rw [Option.some.inj closed]
  decide

theorem readline_part (file : ReplayFile JsonValue) {part : Text}
    (printable : ∀ c ∈ part, 32 ≤ c.toNat) {position : Nat} {rest : List UInt8}
    (behind : file.bytes.drop position = bytes part ++ rest)
    (ends : ∀ byte ∈ rest.head?, byte = 10) (quiet : file.raisesBehind position = false) :
    file.readline position = some part := by
  have inside : ∀ byte ∈ bytes part, (byte ≠ 10 && byte ≠ 13) = true := by
    intro byte member
    have text (c : Char) (same : Char.ofNat byte.toNat = c) (low : c.toNat < 32)
        (ascii : byte < 128) : False := by
      have printed := printable c (same ▸ mem_ofString ascii member)
      omega
    simp only [ne_eq, Bool.and_eq_true, decide_eq_true_eq]
    constructor
    · rintro rfl
      exact text _ rfl (by decide) (by decide)
    · rintro rfl
      exact text _ rfl (by decide) (by decide)
  have line : (bytes part ++ rest).takeWhile (fun byte => byte ≠ 10 && byte ≠ 13) = bytes part := by
    rw [List.takeWhile_append_of_pos inside]
    cases rest with
    | nil => simp
    | cons byte rest => simp [ends byte rfl]
  have decoded := toString?_ofString (String.ofList part)
  unfold toString? at decoded
  simp only [ReplayFile.readline, behind, line, quiet]
  rw [if_neg (by decide), bytes, decoded]
  simp

theorem readFrame_whole (frameText : FrameText text frame) {raises : Nat → Bool}
    {all rest : List UInt8} {position : Nat} (behind : all.drop position = bytes text ++ rest)
    (ends : ∀ byte ∈ rest.head?, byte = 10) (quiet : raises position = false) :
    (scannedFile raises all).readFrame position = .frame frame := by
  have line := readline_part (scannedFile raises all) frameText.printable behind ends quiet
  have some_ : text ≠ [] := by
    obtain ⟨rest, rfl⟩ := frameText.starts
    simp
  simp only [ReplayFile.readFrame, line, frameText.strip_eq, if_neg some_]
  change loadsLine text = .frame frame
  rw [loadsLine, loads_reads frameText.reads]

-- A line that is not all there is skipped, or only its end is missing.
theorem readFrame_cut (frameText : FrameText text frame) (ascii : Ascii text)
    {raises : Nat → Bool} {all cut : List UInt8} {position : Nat} (some_ : cut ≠ [])
    (behind : all.drop position = cut) (part : cut <+: bytes text)
    (quiet : raises position = false) :
    (scannedFile raises all).readFrame position = .frame frame ∨
      (scannedFile raises all).readFrame position = .skipped := by
  obtain ⟨count, rfl⟩ : ∃ count, cut = bytes (text.take count) := by
    refine ⟨cut.length, ?_⟩
    rw [bytes, ← take_ascii ascii]
    exact List.prefix_iff_eq_take.mp part
  have printable : ∀ c ∈ text.take count, 32 ≤ c.toNat := fun c inside =>
    frameText.printable c (List.mem_of_mem_take inside)
  have alone : (scannedFile raises all).bytes.drop position = bytes (text.take count) ++ [] := by
    rw [List.append_nil]
    exact behind
  have line := readline_part _ printable alone nofun quiet
  have object := frameText.object
  have front : (text.take count).head? = some '{' := by
    cases count with
    | zero => exact absurd rfl some_
    | succ count => rw [List.head?_take, if_neg (Nat.succ_ne_zero _), object]
  have stripped : strip ReplayService.isSpace (text.take count) <+: text := by
    refine (List.rdropWhile_prefix _ _).trans (List.IsPrefix.trans ?_ (List.take_prefix count text))
    cases shown : text.take count with
    | nil => exact List.prefix_refl _
    | cons c rest =>
        rw [shown] at front
        rw [Option.some.inj front, List.dropWhile_cons_of_neg (by decide)]
  simp only [ReplayFile.readFrame, line]
  split
  · exact .inr rfl
  · by_cases whole : strip ReplayService.isSpace (text.take count) = text
    · left
      change loadsLine _ = _
      rw [whole, loadsLine, loads_reads frameText.reads]
    · right
      change loadsLine _ = _
      rw [loadsLine, loads_cut frameText.reads object stripped whole]

end FrameText

/-- What a file answers with that holds these frames: every page of them as it was asked for. Its
last line may be one that is still being written. -/
structure Serves (file : ReplayFile JsonValue) (frames : List JsonValue) : Prop where
  page : ∀ start limit : Nat, file.requestPage (some start) (some limit) =
    .ok ((frames.drop start).take (min limit 2000), file.total)
  total : frames.length ≤ file.total ∧ file.total ≤ frames.length + 1

def FramesAnswered (directory : String → Option (ReplayFile JsonValue)) (filename : String)
    (frames : List JsonValue) : Prop :=
  ∃ total, frames.length ≤ total ∧ total ≤ frames.length + 1 ∧ ∀ start limit : Nat,
    apiFrames directory (some filename) (some start) (some limit) =
      .ok { file := filename
            totalFrames := total
            offset := start
            limit := min limit 2000
            frames := (frames.drop start).take (min limit 2000) }

theorem Serves.answered {directory : String → Option (ReplayFile JsonValue)} {filename : String}
    {file : ReplayFile JsonValue} {frames : List JsonValue} (serves : Serves file frames)
    (named : filename ≠ "") (valid : validateFilename directory filename = .ok file) :
    FramesAnswered directory filename frames := by
  refine ⟨file.total, serves.total.1, serves.total.2, fun start limit => ?_⟩
  simp only [apiFrames, Option.getD_some, if_neg named, valid, serves.page, admitted]

namespace ReplayFile

variable {file : ReplayFile JsonValue} {frames : List JsonValue}

theorem framesAt_page (start size : Nat) :
    file.framesAt (file.pageLines start size) = (file.lineFrames.drop start).take size := by
  simp only [framesAt, pageLines_natCast, lineFrames, List.map_map, List.map_take, List.map_drop]
  congr 2
  exact List.map_congr_left fun line _ => frame?_readIndex line

theorem serves (last : List (Option JsonValue)) (parsed : file.lineFrames = frames.map some ++ last)
    (torn : last = [] ∨ last = [none])
    (quiet : ∀ line < file.total, file.readIndex line ≠ .raised) : Serves file frames where
  page start limit := by
    have capped : min (limit : Int) 2000 = (min limit 2000 : Nat) := by omega
    simp only [requestPage, admitted, capped, loadFramesPaged]
    cases read : file.readFrames (file.pageLines start (min limit 2000 : Nat)) with
    | none =>
        obtain ⟨i, member, raised⟩ := readFrames_eq_none.mp read
        rw [pageLines_natCast] at member
        obtain ⟨line, listed, rfl⟩ := List.mem_map.mp member
        have inside := List.mem_range.mp (List.mem_of_mem_drop (List.mem_of_mem_take listed))
        exact absurd raised (quiet line inside)
    | some found =>
        have nothing (count size : Nat) : ((last.drop count).take size).reduceOption = [] := by
          rw [List.reduceOption, List.filterMap_eq_nil_iff]
          intro frame member
          have inside := List.mem_of_mem_drop (List.mem_of_mem_take member)
          rcases torn with rfl | rfl
          · cases inside
          · exact List.mem_singleton.mp inside
        rw [readFrames_eq_some read, framesAt_page, parsed, List.drop_append, List.take_append,
          List.reduceOption_append, nothing, List.append_nil, ← List.map_drop, ← List.map_take,
          List.reduceOption, List.filterMap_map]
        exact congrArg (fun frames => Except.ok (frames, file.total)) List.filterMap_some
  total := by
    have length := congrArg List.length parsed
    simp only [lineFrames, List.length_map, List.length_range, List.length_append] at length
    rcases torn with rfl | rfl
    · rw [List.length_nil] at length
      omega
    · rw [List.length_singleton] at length
      omega

end ReplayFile

section

variable {lines : List (Text × JsonValue)} {cut : List UInt8} {raises : Nat → Bool}

def lineBytes (lines : List (Text × JsonValue)) (cut : List UInt8) : List UInt8 :=
  (Lines.pieces newline (lines.map fun line => FrameText.bytes line.1) cut).flatten

-- What there may be of a line that is being written.
inductive Torn : List UInt8 → Prop
  | whole : Torn []
  | part {text : Text} {frame : JsonValue} {cut : List UInt8} (frameText : FrameText text frame)
      (ascii : Ascii text) (some_ : cut ≠ []) (part : cut <+: FrameText.bytes text) : Torn cut

theorem Torn.decoded (torn : Torn cut) : ∃ text, cut = FrameText.bytes text := by
  cases torn with
  | whole => exact ⟨[], rfl⟩
  | @part text frame cut frameText ascii some_ part =>
      refine ⟨text.take cut.length, ?_⟩
      rw [FrameText.bytes, ← take_ascii ascii]
      exact List.prefix_iff_eq_take.mp part

theorem lineBytes_decoded (torn : Torn cut) (lines : List (Text × JsonValue)) :
    ∃ text, lineBytes lines cut = FrameText.bytes text := by
  induction lines with
  | nil =>
      obtain ⟨text, same⟩ := torn.decoded
      refine ⟨text, ?_⟩
      rw [← same]
      by_cases none_ : cut = [] <;> simp [lineBytes, Lines.pieces, none_]
  | cons line lines ih =>
      obtain ⟨text, same⟩ := ih
      refine ⟨line.1 ++ '\n' :: text, ?_⟩
      have ended : FrameText.bytes ('\n' :: text) = newline :: FrameText.bytes text :=
        FrameText.bytes_append ['\n'] text
      rw [FrameText.bytes_append, ended, ← same, lineBytes, List.map_cons, Lines.pieces_cons,
        List.flatten_cons, List.append_assoc]
      rfl

theorem lineBytes_quiet (torn : Torn cut) {all : List UInt8} (decodes : Decodes raises all)
    {position : Nat} (behind : all.drop position = lineBytes lines cut) :
    raises position = false := by
  obtain ⟨text, same⟩ := lineBytes_decoded torn lines
  refine decodes position ?_
  rw [behind, same, FrameText.bytes, toString?_ofString]
  rfl

theorem Torn.visible (torn : Torn cut) (some_ : cut ≠ []) : cut.all isSpace = false := by
  cases torn with
  | whole => contradiction
  | part frameText ascii some_ part => simpa using frameText.visible some_ part []

theorem Torn.no_end (torn : Torn cut) : newline ∉ cut := by
  cases torn with
  | whole => simp
  | part frameText ascii some_ part =>
      exact fun member => frameText.no_end (by decide) (part.subset member)

theorem scannedFile_lines (raises : Nat → Bool)
    (framed : ∀ line ∈ lines, FrameText line.1 line.2) (torn : Torn cut) :
    (scannedFile raises (lineBytes lines cut)).total =
        lines.length + (if cut = [] then 0 else 1) ∧
      ∀ k < (scannedFile raises (lineBytes lines cut)).total, ∃ position,
        (scannedFile raises (lineBytes lines cut)).readIndex k =
          (scannedFile raises (lineBytes lines cut)).readFrame position ∧
        (lineBytes lines cut).drop position =
          ((Lines.pieces newline (lines.map fun line => FrameText.bytes line.1) cut).drop k).flatten := by
  set parts := Lines.pieces newline (lines.map fun line => FrameText.bytes line.1) cut with isParts
  have offsets : (scannedFile raises (lineBytes lines cut)).lineOffsets =
      (List.range parts.length).map fun k => (parts.take k).flatten.length := by
    refine Lines.starts_pieces ?_ torn.no_end ?_
    · intro bytes member
      obtain ⟨line, inside, rfl⟩ := List.mem_map.mp member
      exact (framed line inside).no_end (by decide)
    · intro part member
      rcases List.mem_append.mp member with whole | open_
      · obtain ⟨bytes, listed, rfl⟩ := List.mem_map.mp whole
        obtain ⟨line, inside, rfl⟩ := List.mem_map.mp listed
        have frameText := framed line inside
        refine frameText.visible ?_ (List.prefix_refl _) _
        obtain ⟨rest, text⟩ := frameText.starts
        rw [text, FrameText.bytes_cons]
        exact List.cons_ne_nil _ _
      · split at open_
        · cases open_
        · case isFalse some_ =>
            rw [List.mem_singleton.mp open_]
            exact torn.visible some_
  have length : parts.length = lines.length + (if cut = [] then 0 else 1) := by
    rw [isParts, Lines.pieces, List.length_append, List.length_map, List.length_map]
    split <;> rfl
  refine ⟨by rw [ReplayFile.total, offsets, List.length_map, List.length_range, length], ?_⟩
  intro k inside
  rw [ReplayFile.total, offsets, List.length_map, List.length_range] at inside
  refine ⟨(parts.take k).flatten.length, ?_, ?_⟩
  · have at_ : (scannedFile raises (lineBytes lines cut)).offsetAt k =
        some (parts.take k).flatten.length := by
      rw [ReplayFile.offsetAt, if_pos (Int.natCast_nonneg k), Int.toNat_natCast, offsets,
        List.getElem?_map, List.getElem?_range inside]
      rfl
    rw [ReplayFile.readIndex, at_]
  · have whole : lineBytes lines cut = (parts.take k).flatten ++ (parts.drop k).flatten := by
      rw [← List.flatten_append, List.take_append_drop]
      rfl
    rw [whole, List.drop_left]

theorem readIndex_whole (framed : ∀ line ∈ lines, FrameText line.1 line.2) (torn : Torn cut)
    (decodes : Decodes raises (lineBytes lines cut)) {k : Nat} (inside : k < lines.length) :
    (scannedFile raises (lineBytes lines cut)).readIndex k = .frame lines[k].2 := by
  obtain ⟨total, at_⟩ := scannedFile_lines raises framed torn
  obtain ⟨position, read, behind⟩ := at_ k (by omega)
  have listed : k < (lines.map fun line => FrameText.bytes line.1).length := by
    rwa [List.length_map]
  rw [Lines.drop_pieces k listed.le] at behind
  have tail : (lineBytes lines cut).drop position = lineBytes (lines.drop k) cut := by
    rw [behind, lineBytes, List.map_drop]
  have quiet := lineBytes_quiet torn decodes tail
  rw [List.drop_eq_getElem_cons listed, Lines.pieces_cons, List.flatten_cons, List.append_assoc,
    List.getElem_map] at behind
  rw [read]
  exact (framed _ (List.getElem_mem inside)).readFrame_whole behind
    (fun byte first => (Option.some.inj first).symm) quiet

theorem lineFrames_eq (framed : ∀ line ∈ lines, FrameText line.1 line.2) (torn : Torn cut)
    (decodes : Decodes raises (lineBytes lines cut)) :
    (scannedFile raises (lineBytes lines cut)).lineFrames =
      (lines.map Prod.snd).map some ++ (if cut = [] then [] else
        [((scannedFile raises (lineBytes lines cut)).readIndex lines.length).frame?]) := by
  have total := (scannedFile_lines raises framed torn).1
  have whole : (List.range lines.length).map
      (scannedFile raises (lineBytes lines cut)).lineFrame = (lines.map Prod.snd).map some := by
    apply List.ext_getElem
    · simp
    · intro k inside _
      rw [List.length_map, List.length_range] at inside
      simp only [List.getElem_map, List.getElem_range, ← ReplayFile.frame?_readIndex,
        readIndex_whole framed torn decodes inside, LineRead.frame?]
  rw [ReplayFile.lineFrames, total]
  split
  · rw [Nat.add_zero, whole, List.append_nil]
  · rw [List.range_succ, List.map_append, whole, List.map_singleton, ReplayFile.frame?_readIndex]

theorem lineBytes_whole (framed : ∀ line ∈ lines, FrameText line.1 line.2)
    (decodes : Decodes raises (lineBytes lines [])) :
    Serves (scannedFile raises (lineBytes lines [])) (lines.map Prod.snd) := by
  refine ReplayFile.serves [] (lineFrames_eq framed .whole decodes) (.inl rfl) fun line inside => ?_
  rw [(scannedFile_lines raises framed .whole).1] at inside
  rw [readIndex_whole framed .whole decodes inside]
  exact nofun

theorem lineBytes_cut (framed : ∀ line ∈ lines, FrameText line.1 line.2) {text : Text}
    {frame : JsonValue} (frameText : FrameText text frame) (ascii : Ascii text) (some_ : cut ≠ [])
    (part : cut <+: FrameText.bytes text) (decodes : Decodes raises (lineBytes lines cut)) :
    Serves (scannedFile raises (lineBytes lines cut)) (lines.map Prod.snd) ∨
      Serves (scannedFile raises (lineBytes lines cut)) (lines.map Prod.snd ++ [frame]) := by
  have torn : Torn cut := .part frameText ascii some_ part
  obtain ⟨total, at_⟩ := scannedFile_lines raises framed torn
  rw [if_neg some_] at total
  obtain ⟨position, read, behind⟩ := at_ lines.length (by omega)
  have last : lines.length = (lines.map fun line => FrameText.bytes line.1).length := by
    rw [List.length_map]
  have rest : (lines.map fun line => FrameText.bytes line.1).drop lines.length = [] := by
    rw [last, List.drop_length]
  rw [Lines.drop_pieces _ last.le, rest] at behind
  have tail : (lineBytes lines cut).drop position = lineBytes [] cut := behind
  have quiet := lineBytes_quiet torn decodes tail
  have missing : (lineBytes lines cut).drop position = cut := by
    rw [behind, Lines.pieces, if_neg some_]
    simp
  have parsed := lineFrames_eq framed torn decodes
  rw [if_neg some_] at parsed
  have outcome := frameText.readFrame_cut ascii some_ missing part quiet
  rw [← read] at outcome
  have calm : ∀ line < (scannedFile raises (lineBytes lines cut)).total,
      (scannedFile raises (lineBytes lines cut)).readIndex line ≠ .raised := by
    intro line inside
    by_cases earlier : line < lines.length
    · rw [readIndex_whole framed torn decodes earlier]
      exact fun same => by cases same
    · obtain rfl : line = lines.length := by omega
      rcases outcome with whole | skipped
      · rw [whole]
        exact fun same => by cases same
      · rw [skipped]
        exact fun same => by cases same
  rcases outcome with whole | skipped
  · right
    rw [whole] at parsed
    refine ReplayFile.serves [] ?_ (.inl rfl) calm
    rw [parsed, List.map_append, List.append_nil]
    rfl
  · left
    rw [skipped] at parsed
    exact ReplayFile.serves [none] parsed (.inr rfl) calm

theorem lineBytes_serves {bytes : List UInt8} (framed : ∀ line ∈ lines, FrameText line.1 line.2)
    (front : bytes <+: lineBytes lines [])
    (ascii : bytes = lineBytes lines [] ∨ ∀ line ∈ lines, Ascii line.1)
    (decodes : Decodes raises bytes) :
    ∃ count ≤ lines.length, Serves (scannedFile raises bytes) ((lines.take count).map Prod.snd) ∧
      (bytes = lineBytes lines [] → count = lines.length) := by
  by_cases whole : bytes = lineBytes lines []
  · subst whole
    exact ⟨lines.length, le_rfl, by simpa using lineBytes_whole framed decodes, fun _ => rfl⟩
  have printed := ascii.resolve_left whole
  obtain ⟨count, cut, within, same, torn⟩ := Lines.pieces_of_prefix front
  rw [List.length_map] at within
  have same : bytes = lineBytes (lines.take count) cut := by rw [same, lineBytes, List.map_take]
  have taken : ∀ line ∈ lines.take count, FrameText line.1 line.2 := fun line member =>
    framed line (List.mem_of_mem_take member)
  subst same
  rcases torn with rfl | ⟨next, listed, part⟩
  · exact ⟨count, within, lineBytes_whole taken decodes, fun same => absurd same whole⟩
  by_cases some_ : cut = []
  · subst some_
    exact ⟨count, within, lineBytes_whole taken decodes, fun same => absurd same whole⟩
  rw [List.getElem?_map, Option.map_eq_some_iff] at listed
  obtain ⟨line, found, rfl⟩ := listed
  have member := List.mem_of_getElem? found
  obtain ⟨inside, -⟩ := List.getElem?_eq_some_iff.mp found
  rcases lineBytes_cut taken (framed line member) (printed line member) some_ part decodes with
    served | served
  · exact ⟨count, within, served, fun same => absurd same whole⟩
  · refine ⟨count + 1, inside, ?_, fun same => absurd same whole⟩
    rwa [List.take_add_one, found, List.map_append]

end

end MazeClient
