import MazeClient.Client.SessionRule
import MazeClient.Shared.Erasure

set_option autoImplicit false

namespace MazeClient

open Program

variable {σ ρ : Type}

theorem erases_episodeRound {Request : Type} {observe : Prog (σ × ρ) Request}
    {exchange : Request → Prog (σ × ρ) CommandOutcome} {terminal apply stopped : Prog (σ × ρ) Bool}
    {observe' : Prog σ Request} {exchange' : Request → Prog σ CommandOutcome}
    {terminal' apply' stopped' : Prog σ Bool} (observes : observe.Erases observe')
    (exchanges : ∀ request, (exchange request).Erases (exchange' request))
    (terminates : terminal.Erases terminal') (applies : apply.Erases apply')
    (stops : stopped.Erases stopped') :
    (episodeRound observe exchange terminal apply stopped).Erases
      (episodeRound observe' exchange' terminal' apply' stopped') := by
  refine stops.bind fun halted => .ite (Prog.erases_pure _) ?_
  refine terminates.bind fun finalResult => observes.bind fun request => ?_
  refine (exchanges request).bind fun result => .ite (Prog.erases_pure _) ?_
  refine .ite (Prog.erases_pure _) (applies.bind fun applied => ?_)
  exact .ite (Prog.erases_pure _) (Prog.erases_pure _)

structure Binding.Erases (binding : Binding (σ × ρ)) (plain : Binding σ) : Prop where
  openSession : binding.openSession.Erases plain.openSession
  initializeTask : binding.initializeTask.Erases plain.initializeTask
  beginEpisode : binding.beginEpisode.Erases plain.beginEpisode
  runEpisode : binding.runEpisode.Erases plain.runEpisode
  endEpisode : binding.endEpisode.Erases plain.endEpisode
  abortEpisode : binding.abortEpisode.Erases plain.abortEpisode
  closeSession : binding.closeSession.Erases plain.closeSession
  active : binding.active.Erases plain.active
  complete : binding.complete.Erases plain.complete
  canClose : binding.canClose.Erases plain.canClose
  stopped : binding.stopped.Erases plain.stopped

variable {binding : Binding (σ × ρ)} {plain : Binding σ}

theorem Binding.Erases.sessionRound (erases : binding.Erases plain) :
    (sessionRound binding).Erases (sessionRound plain) := by
  refine erases.stopped.bind fun halted => .ite (Prog.erases_pure _) ?_
  refine erases.beginEpisode.bind fun result => .ite (Prog.erases_pure _) ?_
  refine erases.complete.bind fun done => .ite (Prog.erases_pure _) ?_
  refine erases.runEpisode.bind fun result => .ite (Prog.erases_pure _) ?_
  refine erases.endEpisode.bind fun result => ?_
  exact .ite (Prog.erases_pure _) (Prog.erases_pure _)

theorem Binding.Erases.finish (erases : binding.Erases plain) (outcome : CommandOutcome) :
    (finish binding outcome).Erases (finish plain outcome) := by
  refine .ite (Prog.erases_pure _) (erases.active.bind fun active => ?_)
  have closing : (do
      if ← binding.canClose then
        let closed ← binding.closeSession
        if closed ≠ .applied then
          return if outcome = .rejected || outcome = .waitExpired then outcome else closed
      return outcome : Prog (σ × ρ) CommandOutcome).Erases (do
      if ← plain.canClose then
        let closed ← plain.closeSession
        if closed ≠ .applied then
          return if outcome = .rejected || outcome = .waitExpired then outcome else closed
      return outcome) := by
    refine erases.canClose.bind fun closes => .ite ?_ (Prog.erases_pure _)
    exact erases.closeSession.bind fun closed => .ite (Prog.erases_pure _) (Prog.erases_pure _)
  refine .ite (erases.abortEpisode.bind fun aborted => ?_) closing
  exact .ite (Prog.erases_pure _) closing

theorem Binding.Erases.runSession (erases : binding.Erases plain) (fuel : Nat) :
    (runSession fuel binding).Erases (runSession fuel plain) := by
  refine erases.openSession.bind fun result => .ite (Prog.erases_pure _) ?_
  refine .bind ?_ fun outcome => erases.finish outcome
  refine erases.initializeTask.bind fun result => .ite (Prog.erases_pure _) ?_
  exact Prog.erases_iterate (fun _ => erases.sessionRound) fuel ()

end MazeClient
