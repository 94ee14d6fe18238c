import Mathlib.Data.List.Induction
import MazeClient.Session.Network

set_option autoImplicit false

namespace MazeClient

open Wire

variable {S : Service}

def Commit.Serves (commit : Commit S) {rpc : S.Rpc} (request : S.Request rpc)
    (response : S.Response rpc) : Prop :=
  commit.payload = S.serialize request ∧
    (commit = ⟨rpc, request, response⟩ ∨
      ∃ stored, (S.responseCodec rpc).decode commit.storedResponse = some stored ∧
        response = replayedResponse stored)

def Backed (log : ServerLog S) {rpc : S.Rpc} (request : S.Request rpc)
    (response : S.Response rpc) : Prop :=
  ∃ commit, 0 < (S.command request).sequence ∧
    log.commits[(S.command request).sequence - 1]? = some commit ∧
    commit.Serves request response

theorem Backed.grow {log log' : ServerLog S} {rpc : S.Rpc} {request : S.Request rpc}
    {response : S.Response rpc} (backed : Backed log request response)
    {later : List (Commit S)} (grown : log'.commits = log.commits ++ later) :
    Backed log' request response := by
  obtain ⟨commit, positive, place, serves⟩ := backed
  refine ⟨commit, positive, ?_, serves⟩
  rw [grown, List.getElem?_append_left (List.getElem?_eq_some_iff.mp place).1]
  exact place

section Handle

variable (log : ServerLog S) {rpc : S.Rpc} (request : S.Request rpc)
  (handling : Handling S rpc)

theorem handle_cases (consistent : log.Consistent)
    (small : (handle log request handling).1.commits.length ≤ maxSequence) :
    ((∃ commitment, (handle log request handling).1 = log.commit request commitment ∧
        (S.command request).sequence = log.commits.length + 1) ∨
      (handle log request handling).1 = log) ∧
    (commandAccepted (S.reply (handle log request handling).2) = true →
      Backed (handle log request handling).1 request (handle log request handling).2) := by
  rcases checkCommand_cases log.session (S.command request) request handling.response with
    ⟨answer, sequence, -⟩ | ⟨stored, answer, present, sequence, payload, parsed⟩ |
      ⟨code, message, nonzero, answer⟩
  · cases decision : handling.decision with
    | commit commitment =>
        have handled : handle log request handling = (log.commit request commitment,
            (commitCommand { log.session with phase := commitment.phase } (S.command request)
              request commitment.response commitment.message).2) := by
          simp [handle, answer, decision]
        have grown : (log.commit request commitment).commits.length = log.commits.length + 1 := by
          simp [ServerLog.commit]
        rw [handled, grown] at small
        rw [consistent.last, increment_of_lt small] at sequence
        rw [handled]
        refine ⟨.inl ⟨commitment, rfl, sequence⟩, fun _ => ⟨_, by omega, ?_, rfl, .inl rfl⟩⟩
        simp [ServerLog.commit, sequence]
    | reject code nonzero message =>
        simp [handle, answer, decision, rejectCommand, fillReply, commandAccepted]
    | wait message => simp [handle, answer, decision, fillReply, commandAccepted]
  · have handled : handle log request handling = (log, replayedResponse stored) := by
      simp [handle, answer]
    rw [handled]
    refine ⟨.inr rfl, fun _ => ?_⟩
    obtain ⟨commit, last, window⟩ := consistent.last_commit present
    rw [window] at payload sequence parsed
    have place := consistent.getLast_sequence last
    have nonempty : 0 < log.commits.length := by
      apply List.length_pos_iff.mpr
      rintro empty
      simp [empty] at last
    have index : (S.command request).sequence = log.commits.length :=
      sequence.trans (place.trans consistent.last)
    refine ⟨commit, by omega, ?_, payload.symm, .inr ⟨stored, parsed, rfl⟩⟩
    rw [index, ← List.getLast?_eq_getElem?]
    exact last
  · simp [handle, answer, rejectCommand, fillReply, commandAccepted]

end Handle

def System.Calling (s : System S) : Prop :=
  match s.call with
  | .idle | .halted => True
  | .round _ request => (S.command request).sequence = s.applied.length + 1
  | .awaiting rpc request _ attempt =>
      (S.command request).sequence = s.applied.length + 1 ∧
        s.attempts[attempt]? = some ⟨rpc, request⟩

structure Agreed (s : System S) : Prop where
  log : s.log.Consistent
  next : s.cursor.nextSequence = s.applied.length + 1
  ahead : s.log.commits.length ≤ s.applied.length + 1
  sent : ∀ attempt ∈ s.attempts, (S.command attempt.request).sequence ≤ s.applied.length + 1
  answered : ∀ answer ∈ s.answers, ∃ request,
    s.attempts[answer.attempt]? = some ⟨answer.rpc, request⟩ ∧
      (commandAccepted (S.reply answer.response) = true → Backed s.log request answer.response)
  calling : s.Calling
  receipts : ∀ n receipt, s.applied[n]? = some receipt →
    (S.command receipt.request).sequence = n + 1 ∧
      Backed s.log receipt.request receipt.response

def System.Small (s : System S) : Prop :=
  s.applied.length < maxSequence ∧ s.log.commits.length ≤ maxSequence

theorem Agreed.behind {s : System S} (agreed : Agreed s) :
    s.applied.length ≤ s.log.commits.length := by
  cases size : s.applied.length with
  | zero => exact Nat.zero_le _
  | succ n =>
      have inside : n < s.applied.length := by omega
      obtain ⟨sequence, commit, -, place, -⟩ :=
        agreed.receipts n _ (List.getElem?_eq_getElem inside)
      rw [sequence] at place
      exact (List.getElem?_eq_some_iff.mp place).1

theorem agreed_opened (sessionId : String) (sessionEpoch : Nat) (phase : SessionPhase) :
    Agreed (System.opened sessionId sessionEpoch phase : System S) where
  log := consistent_fresh sessionId sessionEpoch phase
  next := rfl
  ahead := by simp [System.opened]
  sent := by simp [System.opened]
  answered := by simp [System.opened]
  calling := trivial
  receipts := by simp [System.opened]

theorem Agreed.sendAttempt {s : System S} (agreed : Agreed s) {rpc : S.Rpc}
    {request : S.Request rpc} (tries : Nat)
    (current : (S.command request).sequence = s.applied.length + 1) :
    Agreed (s.sendAttempt rpc request tries) where
  log := agreed.log
  next := agreed.next
  ahead := agreed.ahead
  sent := by
    intro attempt member
    rcases List.mem_append.mp member with old | new
    · exact agreed.sent attempt old
    · obtain rfl := List.mem_singleton.mp new
      exact Nat.le_of_eq current
  answered := by
    intro answer member
    obtain ⟨request, place, backed⟩ := agreed.answered answer member
    refine ⟨request, ?_, backed⟩
    rw [System.sendAttempt, List.getElem?_append_left (List.getElem?_eq_some_iff.mp place).1]
    exact place
  calling := ⟨current, by simp [System.sendAttempt]⟩
  receipts := agreed.receipts

theorem Agreed.takeReply {s : System S} (agreed : Agreed s) {rpc : S.Rpc}
    {request : S.Request rpc} {response : S.Response rpc}
    (current : (S.command request).sequence = s.applied.length + 1)
    (backed : commandAccepted (S.reply response) = true → Backed s.log request response)
    (delay : Int) (valid : Bool)
    (small : (s.takeReply rpc request response delay valid).Small) :
    Agreed (s.takeReply rpc request response delay valid) := by
  unfold System.takeReply at small ⊢
  split
  · exact ⟨agreed.log, agreed.next, agreed.ahead, agreed.sent, agreed.answered, current,
      agreed.receipts⟩
  · rename_i proceeds
    rw [if_neg proceeds] at small
    rcases settle_cases s.cursor (delay = 0 && valid) (S.reply response) with
      ⟨settled, -, accepted, sequence, -⟩ | ⟨settled, -⟩ | settled <;>
      rw [settled] at small ⊢
    · have room := small.1
      simp only [List.length_append, List.length_singleton] at room
      have next := agreed.next
      refine ⟨agreed.log, ?_, ?_, ?_, agreed.answered, trivial, ?_⟩
      · simp only [List.length_append, List.length_singleton]
        rw [next, increment_of_lt (by omega)]
      · have ahead := agreed.ahead
        simp only [List.length_append, List.length_singleton]
        omega
      · intro attempt member
        have sent := agreed.sent attempt member
        simp only [List.length_append, List.length_singleton]
        omega
      · intro n receipt place
        rcases Nat.lt_or_ge n s.applied.length with old | new
        · rw [List.getElem?_append_left old] at place
          exact agreed.receipts n receipt place
        · rw [List.getElem?_append_right new] at place
          obtain ⟨index, rfl⟩ : n = s.applied.length ∧
              receipt = (⟨rpc, request, response⟩ : Receipt S) := by
            have inside := (List.getElem?_eq_some_iff.mp place).1
            simp only [List.length_singleton] at inside
            have index : n - s.applied.length = 0 := by omega
            simp only [index, List.getElem?_cons_zero, Option.some.injEq] at place
            exact ⟨by omega, place.symm⟩
          exact ⟨by rw [current, index], backed accepted⟩
    all_goals exact ⟨agreed.log, agreed.next, agreed.ahead, agreed.sent, agreed.answered,
      trivial, agreed.receipts⟩

theorem Agreed.deliver {s : System S} (agreed : Agreed s) {index : Nat} {attempt : Attempt S}
    (place : s.attempts[index]? = some attempt) (handling : Handling S attempt.rpc)
    (small : (handle s.log attempt.request handling).1.commits.length ≤ maxSequence) :
    Agreed { s with
      log := (handle s.log attempt.request handling).1
      answers := s.answers ++ [⟨index, attempt.rpc, (handle s.log attempt.request handling).2⟩] } := by
  obtain ⟨effect, accepting⟩ := handle_cases s.log attempt.request handling agreed.log small
  have sent := agreed.sent attempt (List.mem_of_getElem? place)
  have grown : ∃ later, (handle s.log attempt.request handling).1.commits =
      s.log.commits ++ later := by
    rcases effect with ⟨commitment, committed, -⟩ | same
    · exact ⟨_, by rw [committed]; rfl⟩
    · exact ⟨[], by rw [same, List.append_nil]⟩
  obtain ⟨later, grown⟩ := grown
  refine ⟨?_, agreed.next, ?_, agreed.sent, ?_, agreed.calling, ?_⟩
  · rcases effect with ⟨commitment, committed, sequence⟩ | same
    · rw [committed]
      exact agreed.log.commit attempt.request commitment sequence
    · rw [same]
      exact agreed.log
  · rcases effect with ⟨commitment, committed, sequence⟩ | same
    · have size : (s.log.commit attempt.request commitment).commits.length =
          s.log.commits.length + 1 := by simp [ServerLog.commit]
      simp only [committed, size]
      omega
    · simp only [same]
      exact agreed.ahead
  · intro answer member
    rcases List.mem_append.mp member with old | new
    · obtain ⟨request, sentAs, backed⟩ := agreed.answered answer old
      exact ⟨request, sentAs, fun accepted => (backed accepted).grow grown⟩
    · obtain rfl := List.mem_singleton.mp new
      exact ⟨attempt.request, place, accepting⟩
  · intro n receipt member
    obtain ⟨sequence, backed⟩ := agreed.receipts n receipt member
    exact ⟨sequence, backed.grow grown⟩

variable [DecidableEq S.Rpc]

theorem step_grows (s : System S) (action : Action S) :
    s.applied.length ≤ (step s action).applied.length ∧
      s.log.commits.length ≤ (step s action).log.commits.length := by
  cases action with
  | receive index delay valid =>
      simp only [step]
      split
      · split
        · unfold System.takeReply
          split
          · simp
          · split <;> simp
        · simp
      · simp
  | deliver index handling =>
      simp only [step]
      split
      · rename_i attempt _
        refine ⟨le_rfl, ?_⟩
        simp only [handle]
        split
        · split <;> simp [ServerLog.commit]
        · simp
      · simp
  | fail code =>
      simp only [step]
      split
      · split
        · simp
        · split <;> simp [System.sendAttempt]
      · simp
  | command | setEpisode | stop | expire | send | movePhase =>
      simp only [step]
      first | (split <;> simp [System.sendAttempt]) | simp

omit [DecidableEq S.Rpc] in
theorem Agreed.turn {s : System S} (agreed : Agreed s) {call : Call S}
    (calling : System.Calling { s with call }) : Agreed { s with call } :=
  ⟨agreed.log, agreed.next, agreed.ahead, agreed.sent, agreed.answered, calling, agreed.receipts⟩

theorem Agreed.step {s : System S} (agreed : Agreed s) (action : Action S)
    (small : (step s action).Small) : Agreed (step s action) := by
  have calling := agreed.calling
  unfold System.Calling at calling
  cases action with
  | command rpc request =>
      simp only [MazeClient.step]
      split
      · exact agreed.turn (by simp [System.Calling, fillCommand, agreed.next])
      · exact agreed
  | setEpisode episodeId =>
      simp only [MazeClient.step]
      split
      · rename_i idle
        exact ⟨agreed.log, agreed.next, agreed.ahead, agreed.sent, agreed.answered,
          by simp [System.Calling, idle], agreed.receipts⟩
      · exact agreed
  | stop | expire =>
      simp only [MazeClient.step]
      split
      · exact agreed.turn trivial
      · exact agreed
  | send =>
      simp only [MazeClient.step]
      split
      · rename_i round
        rw [round] at calling
        exact agreed.sendAttempt 1 calling
      · exact agreed
  | fail code =>
      simp only [MazeClient.step]
      split
      · rename_i waiting
        rw [waiting] at calling
        split
        · exact agreed
        · split
          · exact agreed.turn trivial
          · exact agreed.sendAttempt _ calling.1
      · exact agreed
  | receive index delay valid =>
      simp only [MazeClient.step] at small ⊢
      split
      · rename_i rpc request tries attempt answer waiting found
        rw [waiting] at calling
        split
        · rename_i mine
          obtain ⟨replied, own, response⟩ := answer
          obtain ⟨rfl, rfl⟩ := mine
          obtain ⟨sentAs, place, backed⟩ := agreed.answered _ (List.mem_of_getElem? found)
          have same : sentAs = request := by
            have identical := place.symm.trans calling.2
            simpa using identical
          subst same
          rw [waiting, found] at small
          simp only [and_self, dif_pos] at small
          exact agreed.takeReply calling.1 backed delay valid small
        · exact agreed
      · exact agreed
  | deliver index handling =>
      simp only [MazeClient.step] at small ⊢
      split
      · rename_i attempt place
        rw [place] at small
        exact agreed.deliver place (handling attempt.rpc) small.2
      · exact agreed
  | movePhase phase =>
      exact ⟨⟨agreed.log.sequences, agreed.log.last, agreed.log.window, agreed.log.replies⟩,
        agreed.next, agreed.ahead, agreed.sent, agreed.answered, agreed.calling, agreed.receipts⟩

theorem agreed_run {s : System S} (agreed : Agreed s) (actions : List (Action S))
    (small : (run s actions).Small) : Agreed (run s actions) := by
  induction actions using List.reverseRecOn with
  | nil => exact agreed
  | append_singleton actions action ih =>
      have split : run s (actions ++ [action]) = step (run s actions) action := by
        simp [run, List.foldl_append]
      rw [split] at small ⊢
      have grows := step_grows (run s actions) action
      have earlier : (run s actions).Small := by
        obtain ⟨applied, commits⟩ := small
        exact ⟨by omega, by omega⟩
      exact (ih earlier).step action small

theorem exactly_once (sessionId : String) (sessionEpoch : Nat) (phase : SessionPhase)
    (actions : List (Action S)) :
    let s := run (System.opened sessionId sessionEpoch phase) actions
    s.Small →
    s.log.commits.map Commit.sequence = List.range' 1 s.log.commits.length ∧
    (s.cursor.nextSequence - 1 ≤ s.log.commits.length ∧
      s.log.commits.length ≤ s.cursor.nextSequence) ∧
    ∀ n receipt, s.applied[n]? = some receipt →
      (S.command receipt.request).sequence = n + 1 ∧
        ∃ commit, s.log.commits[n]? = some commit ∧
          commit.Serves receipt.request receipt.response := by
  intro s small
  have agreed : Agreed s := agreed_run (agreed_opened sessionId sessionEpoch phase) actions small
  have behind := agreed.behind
  have ahead := agreed.ahead
  refine ⟨agreed.log.sequences, ?_, ?_⟩
  · rw [agreed.next]
    omega
  · intro n receipt place
    obtain ⟨sequence, commit, -, found, serves⟩ := agreed.receipts n receipt place
    rw [sequence] at found
    exact ⟨sequence, commit, found, serves⟩

def sampleRetry : List (Action (mazeService wireResponses)) :=
  let commit (rpc : TaskRpc) : Handling (mazeService wireResponses) rpc :=
    { response := {}
      decision := .commit { phase := .episodeRunning, response := {}, message := "begun" } }
  [.command .beginEpisode {}, .send, .deliver 0 commit, .fail .unavailable, .deliver 1 commit,
    .receive 1 0 true]

theorem exactly_once_retry :
    let s := run (System.opened "session" 1 .ready) sampleRetry
    s.applied.length = 1 ∧ s.attempts.length = 2 ∧
      s.log.commits.map Commit.sequence = List.range' 1 s.log.commits.length :=
  ⟨by decide, by decide,
    (exactly_once "session" 1 .ready sampleRetry ⟨by decide, by decide⟩).1⟩

end MazeClient
