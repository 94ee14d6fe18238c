import MazeClient.Shared.Lines
import Mathlib.Logic.Function.Basic

set_option autoImplicit false

namespace MazeClient

def isSpace (byte : UInt8) : Bool := byte = 32 || (9 ≤ byte && byte ≤ 13)

abbrev newline : UInt8 := 10

structure FileStat where
  mtime : Nat
  size : Nat
  deriving DecidableEq

structure LineIndex extends FileStat where
  lineOffsets : List Nat
  deriving DecidableEq

def buildLineIndex (bytes : List UInt8) (cached : Option LineIndex) (current : FileStat) :
    LineIndex :=
  match cached with
  | none => { current with lineOffsets := Lines.scanFrom newline isSpace bytes 0 }
  | some cached =>
      if cached.toFileStat = current then cached
      else if cached.size ≤ current.size then
        { current with
          lineOffsets := cached.lineOffsets ++ Lines.scanFrom newline isSpace bytes cached.size }
      else { current with lineOffsets := Lines.scanFrom newline isSpace bytes 0 }

structure Replay where
  bytes : List UInt8
  mtime : Nat
  cache : Option LineIndex := none
  mtimes : Nat → Option Nat := fun _ => none
  sizes : Nat → Option Nat := fun _ => none

inductive ReplayEvent where
  | append (chunk : List UInt8) (mtime : Nat)
  | getmtime (handler : Nat)
  | getsize (handler : Nat)
  | index (handler : Nat)

namespace Replay

def stat (replay : Replay) (handler : Nat) : Option FileStat := do
  return { mtime := ← replay.mtimes handler, size := ← replay.sizes handler }

-- What the call of a handler returns that takes the lock now.
def answer (replay : Replay) (handler : Nat) : Option LineIndex :=
  (replay.stat handler).map (buildLineIndex replay.bytes replay.cache)

def step (replay : Replay) : ReplayEvent → Replay
  | .append chunk mtime => { replay with bytes := replay.bytes ++ chunk, mtime }
  | .getmtime handler =>
      { replay with mtimes := Function.update replay.mtimes handler (some replay.mtime) }
  | .getsize handler =>
      { replay with sizes := Function.update replay.sizes handler (some replay.bytes.length) }
  | .index handler =>
      match replay.answer handler with
      | none => replay
      | some index =>
          { replay with
            cache := some index
            mtimes := Function.update replay.mtimes handler none
            sizes := Function.update replay.sizes handler none }

def run (replay : Replay) (events : List ReplayEvent) : Replay := events.foldl step replay

def frames (replay : Replay) : List Nat := Lines.starts newline isSpace replay.bytes

/-- Every cached index is that of a part of the file, which is no shorter than its size. -/
structure Indexed (replay : Replay) : Prop where
  cache : ∀ cached ∈ replay.cache, ∃ scanned rest, replay.bytes = scanned ++ rest ∧
    cached.size ≤ scanned.length ∧ cached.lineOffsets = Lines.starts newline isSpace scanned
  sizes : ∀ handler, ∀ size ∈ replay.sizes handler, size ≤ replay.bytes.length

/-- A cached index that may be extended: no frame beyond its size, and no visible part of a line
cut off by it. -/
def Extensible (bytes : List UInt8) (cached : LineIndex) : Prop :=
  (∀ offset ∈ cached.lineOffsets, offset < cached.size) ∧
    (Lines.atStart newline bytes cached.size = true ∨
      Lines.shows newline isSpace bytes cached.size = false)

def ExtendsSafely (replay : Replay) (handler : Nat) : Prop :=
  ∀ cached ∈ replay.cache, ∀ current ∈ replay.stat handler,
    cached.toFileStat ≠ current → cached.size ≤ current.size → Extensible replay.bytes cached

def AnswersInOrder (replay : Replay) (handler : Nat) : Prop :=
  ∀ index ∈ replay.answer handler, index.lineOffsets.Pairwise (· < ·) ∧
    ∀ offset ∈ index.lineOffsets, Lines.atStart newline replay.bytes offset = true

theorem blank_newline : isSpace newline = true := rfl

variable {replay : Replay} {handler : Nat}

theorem starts_inOrder {scanned rest : List UInt8} :
    (Lines.starts newline isSpace scanned).Pairwise (· < ·) ∧
      ∀ offset ∈ Lines.starts newline isSpace scanned,
        Lines.atStart newline (scanned ++ rest) offset = true := by
  refine ⟨Lines.pairwise_scanFrom blank_newline, fun offset member => ?_⟩
  obtain ⟨first, seen⟩ := (Lines.mem_starts blank_newline).mp member
  rw [Lines.atStart_append (Lines.lt_of_shows seen).le]
  exact first

theorem Indexed.extend (indexed : replay.Indexed) {cached : LineIndex}
    (held : cached ∈ replay.cache) (safe : Extensible replay.bytes cached) :
    cached.lineOffsets ++ Lines.scanFrom newline isSpace replay.bytes cached.size =
      replay.frames := by
  obtain ⟨scanned, rest, same, within, offsets⟩ := indexed.cache cached held
  obtain ⟨below, whole⟩ := safe
  rw [offsets] at below ⊢
  rw [same] at whole
  rw [frames, same]
  exact Lines.starts_append_scanFrom blank_newline within below whole

theorem Indexed.extend_inOrder (indexed : replay.Indexed) {cached : LineIndex}
    (held : cached ∈ replay.cache)
    (ordered : (cached.lineOffsets ++
      Lines.scanFrom newline isSpace replay.bytes cached.size).Pairwise (· < ·))
    (starts : ∀ offset ∈ cached.lineOffsets ++
      Lines.scanFrom newline isSpace replay.bytes cached.size,
        Lines.atStart newline replay.bytes offset = true) :
    Extensible replay.bytes cached := by
  obtain ⟨scanned, rest, same, within, offsets⟩ := indexed.cache cached held
  constructor
  · intro offset member
    by_contra beyond
    -- An offset beyond the size is found a second time.
    have old := member
    rw [offsets, Lines.mem_starts blank_newline] at old
    have again : offset ∈ Lines.scanFrom newline isSpace replay.bytes cached.size := by
      refine (Lines.mem_scanFrom blank_newline).mpr ⟨Nat.le_of_not_lt beyond, .inr ?_, ?_⟩
      · exact starts offset (List.mem_append_left _ member)
      · rw [same]
        exact Lines.shows_of_append (Lines.lt_of_shows old.2).le old.2
    exact lt_irrefl _ ((List.pairwise_append.mp ordered).2.2 offset member offset again)
  · by_cases seen : Lines.shows newline isSpace replay.bytes cached.size = true
    · have found : cached.size ∈ Lines.scanFrom newline isSpace replay.bytes cached.size :=
        (Lines.mem_scanFrom blank_newline).mpr ⟨le_rfl, .inl rfl, seen⟩
      exact .inl (starts _ (List.mem_append_right _ found))
    · exact .inr (by simpa using seen)

theorem stat_size {current : FileStat} (read : replay.stat handler = some current) :
    replay.sizes handler = some current.size := by
  simp only [stat, Option.pure_def, Option.bind_eq_bind, Option.bind_eq_some_iff,
    Option.some.injEq] at read
  obtain ⟨mtime, -, size, sized, rfl⟩ := read
  exact sized

structure Answered (replay : Replay) (current : FileStat) (index : LineIndex) : Prop where
  stat : index.toFileStat = current
  part : ∃ scanned rest, replay.bytes = scanned ++ rest ∧ index.size ≤ scanned.length ∧
    index.lineOffsets = Lines.starts newline isSpace scanned

theorem Answered.whole {current : FileStat} {index : LineIndex}
    (answered : Answered replay current index) (settled : current.size = replay.bytes.length) :
    index.lineOffsets = replay.frames := by
  obtain ⟨stat, scanned, rest, same, within, offsets⟩ := answered
  have size : index.size = replay.bytes.length := by rw [← settled, ← stat]
  have length := congrArg List.length same
  rw [List.length_append] at length
  obtain rfl : rest = [] := List.eq_nil_of_length_eq_zero (by omega)
  rw [offsets, frames, same, List.append_nil]

theorem Indexed.answered (indexed : replay.Indexed) (safe : replay.ExtendsSafely handler)
    {current : FileStat} (read : replay.stat handler = some current) :
    Answered replay current (buildLineIndex replay.bytes replay.cache current) := by
  have size : current.size ≤ replay.bytes.length := indexed.sizes handler _ (stat_size read)
  have rescan : Answered replay current
      { current with lineOffsets := Lines.scanFrom newline isSpace replay.bytes 0 } :=
    ⟨rfl, replay.bytes, [], by simp, size, rfl⟩
  unfold buildLineIndex
  cases held : replay.cache with
  | none => exact rescan
  | some cached =>
      dsimp only
      split
      case isTrue same => exact ⟨same, indexed.cache cached held⟩
      case isFalse changed =>
        split
        case isTrue grown =>
          refine ⟨rfl, replay.bytes, [], by simp, size, ?_⟩
          exact indexed.extend held (safe cached held current read changed grown)
        case isFalse => exact rescan

theorem Indexed.call_iff (indexed : replay.Indexed) :
    replay.AnswersInOrder handler ↔ replay.ExtendsSafely handler := by
  constructor
  · intro inOrder cached held current read changed grown
    have answer : replay.answer handler =
        some (buildLineIndex replay.bytes replay.cache current) := by rw [answer, read]; rfl
    obtain ⟨ordered, starts⟩ := inOrder _ answer
    rw [Option.mem_def.mp held] at ordered starts
    simp only [buildLineIndex, if_neg changed, if_pos grown] at ordered starts
    exact indexed.extend_inOrder held ordered starts
  · intro safe index answer
    obtain ⟨current, read, rfl⟩ := Option.map_eq_some_iff.mp answer
    obtain ⟨-, scanned, rest, same, -, offsets⟩ := indexed.answered safe read
    rw [offsets, same]
    exact starts_inOrder

def eventSafe (replay : Replay) : ReplayEvent → Prop
  | .index handler => replay.ExtendsSafely handler
  | _ => True

theorem Indexed.step (indexed : replay.Indexed) {event : ReplayEvent}
    (safe : replay.eventSafe event) : (replay.step event).Indexed := by
  obtain ⟨cache, sizes⟩ := id indexed
  cases event with
  | append chunk mtime =>
      refine ⟨fun cached held => ?_, fun handler size read => ?_⟩
      · obtain ⟨scanned, rest, same, within, offsets⟩ := cache cached held
        exact ⟨scanned, rest ++ chunk, by simp [Replay.step, same], within, offsets⟩
      · have bound := sizes handler size read
        simp only [Replay.step, List.length_append]
        omega
  | getmtime handler => exact ⟨cache, sizes⟩
  | getsize handler =>
      refine ⟨cache, fun other size read => ?_⟩
      by_cases same : other = handler
      · subst same
        simp only [Replay.step, Function.update_self, Option.mem_some] at read
        exact read ▸ le_rfl
      · simp only [Replay.step, Function.update_of_ne same] at read
        exact sizes other size read
  | index handler =>
      unfold Replay.step
      cases answer : replay.answer handler with
      | none => simpa [answer] using indexed
      | some index =>
          obtain ⟨current, read, rfl⟩ := Option.map_eq_some_iff.mp answer
          have answered := indexed.answered safe read
          simp only [answer]
          refine ⟨fun cached held => ?_, fun other size read => ?_⟩
          · obtain rfl := Option.mem_some.mp held
            exact answered.part
          · by_cases same : other = handler
            · subst same
              simp at read
            · simp only [Function.update_of_ne same] at read
              exact sizes other size read

def EveryCall (property : Replay → Nat → Prop) : List ReplayEvent → Replay → Prop
  | [], _ => True
  | .index handler :: events, replay =>
      property replay handler ∧ EveryCall property events (replay.step (.index handler))
  | event :: events, replay => EveryCall property events (replay.step event)

theorem Indexed.everyCall_iff (indexed : replay.Indexed) (events : List ReplayEvent) :
    EveryCall AnswersInOrder events replay ↔ EveryCall ExtendsSafely events replay := by
  induction events generalizing replay with
  | nil => exact Iff.rfl
  | cons event events ih =>
      cases event with
      | append chunk mtime => exact ih (indexed.step trivial)
      | getmtime handler => exact ih (indexed.step trivial)
      | getsize handler => exact ih (indexed.step trivial)
      | index handler =>
          simp only [EveryCall, indexed.call_iff]
          exact and_congr_right fun safe => ih (indexed.step safe)

theorem Indexed.run (indexed : replay.Indexed) {events : List ReplayEvent}
    (safe : EveryCall ExtendsSafely events replay) : (replay.run events).Indexed := by
  induction events generalizing replay with
  | nil => exact indexed
  | cons event events ih =>
      cases event with
      | append chunk mtime => exact ih (indexed.step trivial) safe
      | getmtime handler => exact ih (indexed.step trivial) safe
      | getsize handler => exact ih (indexed.step trivial) safe
      | index handler => exact ih (indexed.step safe.1) safe.2

theorem EveryCall.append {property : Replay → Nat → Prop} {first second : List ReplayEvent} :
    EveryCall property (first ++ second) replay ↔
      EveryCall property first replay ∧ EveryCall property second (replay.run first) := by
  induction first generalizing replay with
  | nil => simp [EveryCall, Replay.run]
  | cons event events ih =>
      cases event <;> simp only [List.cons_append, EveryCall, ih, and_assoc] <;> rfl

-- While nothing is appended, what a handler has read of the size stays true.
theorem run_settled {events : List ReplayEvent}
    (quiet : ∀ chunk mtime, ReplayEvent.append chunk mtime ∉ events)
    (read : ∀ size ∈ replay.sizes handler, size = replay.bytes.length) :
    ∀ size ∈ (replay.run events).sizes handler, size = (replay.run events).bytes.length := by
  induction events generalizing replay with
  | nil => exact read
  | cons event events ih =>
      refine ih (fun chunk mtime member => quiet chunk mtime (List.mem_cons_of_mem _ member)) ?_
      cases event with
      | append chunk mtime => exact absurd List.mem_cons_self (quiet chunk mtime)
      | getmtime other => exact read
      | getsize other =>
          intro size held
          by_cases same : handler = other
          · subst same
            simpa [Replay.step, eq_comm] using held
          · simp only [Replay.step, Function.update_of_ne same] at held
            exact read size held
      | index other =>
          unfold Replay.step
          cases answer : replay.answer other with
          | none => simpa [answer] using read
          | some index =>
              intro size held
              by_cases same : handler = other
              · subst same
                simp [answer] at held
              · simp only [answer, Function.update_of_ne same] at held ⊢
                exact read size held

def SettledCallsExact (events : List ReplayEvent) (start : Replay) : Prop :=
  ∀ before middle after handler,
    events = before ++ .getsize handler :: (middle ++ .index handler :: after) →
    (∀ chunk mtime, ReplayEvent.append chunk mtime ∉ middle) →
    let replay := start.run (before ++ .getsize handler :: middle)
    ∀ index ∈ replay.answer handler, index.lineOffsets = replay.frames

theorem Indexed.settledCallsExact (indexed : replay.Indexed) {events : List ReplayEvent}
    (safe : EveryCall ExtendsSafely events replay) : SettledCallsExact events replay := by
  rintro before middle after handler rfl quiet current index answer
  have split : before ++ ReplayEvent.getsize handler :: (middle ++ .index handler :: after) =
      (before ++ .getsize handler :: middle) ++ .index handler :: after := by simp
  rw [split, EveryCall.append] at safe
  obtain ⟨earlier, call, -⟩ := safe
  have there : current.Indexed := indexed.run earlier
  obtain ⟨stat, read, rfl⟩ := Option.map_eq_some_iff.mp answer
  have settled : ∀ size ∈ current.sizes handler, size = current.bytes.length := by
    have same : current = ((replay.run before).step (.getsize handler)).run middle := by
      simp [current, Replay.run]
    rw [same]
    exact run_settled quiet (by simp [Replay.step])
  exact (there.answered call read).whole (settled _ (stat_size read))

/-- The live index is exact in a run exactly when no call of the run extends an index it may
not extend. -/
theorem live_index_iff (bytes : List UInt8) (mtime : Nat) (events : List ReplayEvent) :
    let start : Replay := { bytes, mtime }
    EveryCall AnswersInOrder events start ∧ SettledCallsExact events start ↔
      EveryCall ExtendsSafely events start := by
  intro start
  have indexed : start.Indexed := ⟨by simp [start], by simp [start]⟩
  constructor
  · rintro ⟨inOrder, -⟩
    exact (indexed.everyCall_iff events).mp inOrder
  · intro safe
    exact ⟨(indexed.everyCall_iff events).mpr safe, indexed.settledCallsExact safe⟩

/-- A poll between two chunks of one line: the index gets a second offset inside it. -/
theorem live_index_splits_line :
    let call : List ReplayEvent := [.getmtime 0, .getsize 0, .index 0]
    let events := ReplayEvent.append [123, 34] 1 :: call ++ .append [125, 10] 2 :: call
    let start : Replay := { bytes := [], mtime := 0 }
    (start.run events).cache.map LineIndex.lineOffsets = some [0, 2] ∧
      (start.run events).frames = [0] ∧ ¬ EveryCall AnswersInOrder events start := by
  intro call events start
  refine ⟨by decide, by decide, ?_⟩
  rintro ⟨-, answers, -⟩
  obtain ⟨-, starts⟩ := answers { mtime := 2, size := 4, lineOffsets := [0, 2] } (by decide)
  exact absurd (starts 2 (by decide)) (by decide)

end Replay

end MazeClient
