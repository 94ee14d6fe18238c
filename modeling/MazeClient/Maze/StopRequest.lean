import MazeClient.Client.Stopping
import MazeClient.Maze.StepLimit

set_option autoImplicit false

namespace MazeClient

open Program

variable {outside : MazeOutside} {fuel deadline extra request span : Nat} {budget : Int}
variable {w : World Adapter}

namespace Adapter

theorem lasts_setTask (update : Adapter → Adapter) (kept : HasBudget budget w) :
    Lasts budget deadline 0 (setTask update) w :=
  Prog.returnsBy_modify kept rfl

theorem lasts_openSession (kept : HasBudget budget w) :
    Lasts budget deadline 2 (openSession outside) w := by
  refine .get (.bind (MazeClient.lasts_openSession kept) (Nat.le_refl _) fun opened w kept => ?_)
  refine .bind (lasts_setTask _ kept) (Nat.zero_le _) fun _ w kept => ?_
  split
  · exact Prog.returnsBy_pure _ kept
  split
  · exact Prog.returnsBy_pure _ kept
  · exact .bind (lasts_setTask _ kept) (Nat.zero_le _) fun _ w kept => Prog.returnsBy_pure _ kept

theorem lasts_initialise (enough : 0 < fuel) (kept : HasBudget budget w) :
    Lasts budget deadline 11 (initialise outside fuel) w := by
  refine .get (.bind (lasts_observe _ kept) (by omega) fun mapFile w kept => ?_)
  split
  · exact Prog.returnsBy_pure _ kept
  refine .bind (lasts_setTask _ kept) (Nat.zero_le _) fun _ w kept => ?_
  refine .bind (lasts_observe _ kept) (by omega) fun load w kept => .get ?_
  refine .bind (lasts_setTask _ kept) (Nat.zero_le _) fun _ w kept => ?_
  split
  · exact Prog.returnsBy_pure _ kept
  · exact .bind (lasts_prompt enough kept) (by omega) fun _ _ kept => Prog.returnsBy_pure _ kept

theorem lasts_beginEpisode (halts : Halts outside.toOutside budget request span)
    (enough : request < fuel) (kept : HasBudget budget w) :
    Lasts budget request 10 (beginEpisode outside fuel) w := by
  refine .bind (halts.lasts_beginEpisode enough kept) (by omega) fun ended w kept => ?_
  split
  · exact Prog.returnsBy_pure _ kept
  split
  · exact Prog.returnsBy_pure _ kept
  split
  · exact Prog.returnsBy_pure _ kept
  refine .get ?_
  split
  · exact Prog.returnsBy_pure _ kept
  refine .bind (lasts_setTask _ kept) (Nat.zero_le _) fun _ w kept => .get ?_
  split
  · refine .bind (lasts_observe _ kept) (by omega) fun started w kept => ?_
    split
    · exact Prog.returnsBy_pure _ kept
    · exact Prog.returnsBy_pure _ kept
  · exact Prog.returnsBy_pure _ kept

theorem lasts_exchangeUpdate (halts : Halts outside.toOutside budget request span)
    (enough : request < fuel) {payload : UpdateReq} (kept : HasBudget budget w) :
    Lasts budget request 9 (exchangeUpdate outside fuel payload) w := by
  refine .get ?_
  split
  · exact Prog.returnsBy_pure _ kept
  refine .bind (halts.lasts_heeding enough kept) (Nat.le_refl _) fun ended w kept => ?_
  refine .bind (lasts_setTask _ kept) (Nat.zero_le _) fun _ w kept => ?_
  split
  · exact .bind (lasts_setTask _ kept) (Nat.zero_le _) fun _ _ kept => Prog.returnsBy_pure _ kept
  split
  · exact .bind (lasts_setTask _ kept) (Nat.zero_le _) fun _ _ kept => Prog.returnsBy_pure _ kept
  · exact Prog.returnsBy_pure _ kept

theorem lasts_observation (kept : HasBudget budget w) : Lasts budget deadline 0 observation w :=
  .get (.bind (lasts_setTask _ kept) (Nat.zero_le _) fun _ _ kept => Prog.returnsBy_pure _ kept)

theorem lasts_application (kept : HasBudget budget w) : Lasts budget deadline 0 application w :=
  .get (.bind (lasts_setTask _ kept) (Nat.zero_le _) fun _ _ kept => Prog.returnsBy_pure _ kept)

theorem lasts_runEpisode (halts : Halts outside.toOutside budget request span)
    (enough : request < fuel) (kept : HasBudget budget w) :
    Lasts budget request 20 (runEpisode outside fuel) w := by
  have rounds (w : World Adapter) (kept : HasBudget budget w) :
      Lasts budget request (9 + 1 + (9 + 1)) (MazeClient.runEpisode fuel observation (exchangeUpdate outside fuel)
        terminal application (observe outside.stopped)) w := by
    simp only [MazeClient.runEpisode, episodeRound]
    refine Prog.returnsBy_guarded (fun w kept => halts.watches kept) (fun _ => rfl)
      (fun _ w kept => ?_) kept (by omega)
    refine .bind (Prog.returnsBy_pure _ kept) (Nat.zero_le _) fun finalResult w kept => ?_
    refine .bind (lasts_observation kept) (Nat.zero_le _) fun payload w kept => ?_
    refine .bind (lasts_exchangeUpdate halts enough kept) (Nat.le_refl _) fun result w kept => ?_
    split
    · exact Prog.returnsBy_pure _ kept
    split
    · exact Prog.returnsBy_pure _ kept
    refine .bind (lasts_application kept) (Nat.zero_le _) fun applied w kept => ?_
    split
    · exact Prog.returnsBy_pure _ kept
    · exact Prog.returnsBy_pure _ kept
  refine .bind (lasts_setTask _ kept) (Nat.zero_le _) fun _ w kept => ?_
  refine .bind (rounds w kept) (Nat.le_refl _) fun result w kept => ?_
  split
  · exact .bind (lasts_setTask _ kept) (Nat.zero_le _) fun _ _ kept => Prog.returnsBy_pure _ kept
  · exact Prog.returnsBy_pure _ kept

theorem lasts_endEpisode (enough : 0 < fuel) (kept : HasBudget budget w) :
    Lasts budget deadline 9 (endEpisode outside fuel) w := by
  refine .get (.bind (MazeClient.lasts_endEpisode enough kept) (Nat.le_refl _) fun ended w kept => ?_)
  split
  · exact Prog.returnsBy_pure _ kept
  · exact .bind (lasts_setTask _ kept) (Nat.zero_le _) fun _ _ kept => Prog.returnsBy_pure _ kept

theorem lasts_abortEpisode (halts : Halts outside.toOutside budget request span)
    (enough : span < fuel) (kept : HasBudget budget w) :
    Lasts budget deadline (span + 11) (abortEpisode outside fuel) w := by
  refine .bind (lasts_observe _ kept) (by omega) fun halted w kept => ?_
  refine .bind (lasts_observe _ kept) (by omega) fun halted w kept => ?_
  refine .bind (halts.lasts_abortEpisode enough kept) (by omega) fun ended w kept => ?_
  exact Prog.returnsBy_pure _ kept

theorem lasts_closeSession (enough : 0 < fuel) (kept : HasBudget budget w) :
    Lasts budget deadline 9 (closeSession outside fuel) w :=
  .bind (MazeClient.lasts_closeSession enough kept) (Nat.le_refl _) fun _ _ kept =>
    Prog.returnsBy_pure _ kept

end Adapter

theorem mazeClientAdapter_heeds (halts : Halts outside.toOutside budget request span)
    (early : request < fuel) (enough : span < fuel) :
    HeedsStop budget outside.toOutside request 20 (span + 11) (mazeClientAdapter outside fuel) where
  openSession _ kept := (Adapter.lasts_openSession kept).mono (Nat.le_refl _) (by omega)
  initializeTask _ kept :=
    (Adapter.lasts_initialise (by omega) kept).mono (Nat.le_refl _) (by omega)
  beginEpisode _ kept :=
    (Adapter.lasts_beginEpisode halts early kept).mono (Nat.le_refl _) (by omega)
  runEpisode _ kept := Adapter.lasts_runEpisode halts early kept
  endEpisode _ kept := (Adapter.lasts_endEpisode (by omega) kept).mono (Nat.le_refl _) (by omega)
  abortEpisode _ kept := Adapter.lasts_abortEpisode halts enough kept
  closeSession _ kept :=
    (Adapter.lasts_closeSession (by omega) kept).mono (Nat.le_refl _) (by omega)
  active := rfl
  complete := rfl
  canClose := rfl
  stopped := rfl

/-- A wish to stop ends the session whatever the server answers: RunSession returns, and looks
outside (at an attempt of a command, the clock, the flag or a file) no more than a fixed number of
times beyond what an AbortEpisode may wait. -/
theorem runSession_stops {options : ClientOptions} (connected : Bool) (adapter : Adapter)
    (halts : Halts outside.toOutside options.abortWaitBudget request span)
    (early : request < fuel) (enough : span < fuel) :
    let run := runSession fuel (mazeClientAdapter outside fuel)
      (World.start options connected adapter)
    run.1.isSome = true ∧ run.2.tick ≤ request + span + 193 := by
  have heeds := mazeClientAdapter_heeds halts early enough
  have kept : HasBudget options.abortWaitBudget (World.start options connected adapter) := rfl
  obtain ⟨outcome, w, ran, -, -, bound⟩ := heeds.runSession halts early kept
  simp only [World.start] at bound
  rw [ran]
  exact ⟨rfl, by simp only; omega⟩

def waitReply (phase : SessionPhase) (sequence : Nat) : CommandReply :=
  { result := .wait, appliedSequence := sequence - 1, phase }

def waitingServer : MazeOutside :=
  { idleServer 2 with
    attempt := fun tick rpc request =>
      match rpc, request with
      | .task .update, request => ({},
          { reply := waitReply .episodeRunning ((@TaskRpc.command? .update request).getD {}).sequence
            control := .wait { retryAfterMs := 100 } })
      | .task .abortEpisode, request => ({},
          { reply := waitReply .episodeRunning
              ((@TaskRpc.command? .abortEpisode request).getD {}).sequence
            wait := some { retryAfterMs := 100 } })
      | rpc, request => (idleServer 2).attempt tick rpc request
    stopped := fun tick => decide (20 ≤ tick)
    now := fun tick => tick * 100000000 }

theorem runSession_stops_waiting :
    let run := runSession 21 (mazeClientAdapter waitingServer 21)
      (World.start { abortWaitBudget := 500 } true (Adapter.start {} {}))
    run.1 = some .waitExpired ∧ run.2.tick ≤ 20 + 5 + 193 := by
  have halts : Halts waitingServer.toOutside 500 20 5 :=
    { stops := fun tick late => decide_eq_true late
      bounded := by decide
      elapses := fun start tick late => by
        change (500 : Int) * 1000000 ≤ tick * 100000000 - start * 100000000
        omega }
  refine ⟨by decide +kernel, ?_⟩
  exact (@runSession_stops waitingServer 21 20 5 { abortWaitBudget := 500 } true
    (Adapter.start {} {}) halts (by decide) (by decide)).2

end MazeClient
