import MazeClient.Client.TaskClient

set_option autoImplicit false

namespace MazeClient

open Program

def episodeRound {σ Request : Type} (observe : Prog σ Request)
    (exchange : Request → Prog σ CommandOutcome) (terminal apply stopped : Prog σ Bool) :
    Prog σ (Unit ⊕ CommandOutcome) := do
  if ← stopped then return .inr .stopped
  let finalResult ← terminal
  let request ← observe
  let result ← exchange request
  if result ≠ .applied then return .inr result
  if finalResult then return .inr .applied
  if !(← apply) then return .inr .rejected
  return .inl ()

def runEpisode {σ Request : Type} (fuel : Nat) (observe : Prog σ Request)
    (exchange : Request → Prog σ CommandOutcome) (terminal apply stopped : Prog σ Bool) :
    Prog σ CommandOutcome :=
  Prog.iterate (fun _ => episodeRound observe exchange terminal apply stopped) fuel ()

-- The operations RunSession calls on a binding. `open`, `begin` and `end` are Lean's own words.
structure Binding (σ : Type) where
  openSession : Prog σ CommandOutcome
  initializeTask : Prog σ CommandOutcome
  beginEpisode : Prog σ CommandOutcome
  runEpisode : Prog σ CommandOutcome
  endEpisode : Prog σ CommandOutcome
  abortEpisode : Prog σ CommandOutcome
  closeSession : Prog σ CommandOutcome
  active : Prog σ Bool
  complete : Prog σ Bool
  canClose : Prog σ Bool
  stopped : Prog σ Bool

variable {σ : Type}

def finish (binding : Binding σ) (outcome : CommandOutcome) : Prog σ CommandOutcome := do
  if outcome = .unknown then return outcome
  let failed := outcome = .rejected || outcome = .waitExpired
  if ← binding.active then
    let aborted ← binding.abortEpisode
    if aborted ≠ .applied then return if failed then outcome else aborted
  if ← binding.canClose then
    let closed ← binding.closeSession
    if closed ≠ .applied then return if failed then outcome else closed
  return outcome

def sessionRound (binding : Binding σ) : Prog σ (Unit ⊕ CommandOutcome) := do
  if ← binding.stopped then return .inr .stopped
  let result ← binding.beginEpisode
  if result ≠ .applied then return .inr result
  if ← binding.complete then return .inr .applied
  let result ← binding.runEpisode
  if result ≠ .applied then return .inr result
  let result ← binding.endEpisode
  if result ≠ .applied then return .inr result
  return .inl ()

-- RunSession between OpenSession and its `finish`: every way out hands one outcome to it.
def conduct (fuel : Nat) (binding : Binding σ) : Prog σ CommandOutcome := do
  let result ← binding.initializeTask
  if result ≠ .applied then return result
  Prog.iterate (fun _ => sessionRound binding) fuel ()

def runSession (fuel : Nat) (binding : Binding σ) : Prog σ CommandOutcome := do
  let result ← binding.openSession
  if result ≠ .applied then return result
  let outcome ← conduct fuel binding
  finish binding outcome

variable {τ : Type}

-- Work of a binding that leaves the client and what it has sent alone.
structure Quiet (w w' : World τ) : Prop where
  client : w'.client = w.client
  commands : w'.commands = w.commands
  sent : w'.sent = w.sent

inductive ClientOperation (outside : Outside) (fuel : Nat) :
    TaskRpc → World τ → Option CommandOutcome → World τ → Prop
  | init (request : InitReq) (validate : InitReq → InitRsp → Bool) (w : World τ) :
      ClientOperation outside fuel .init w
        ((TaskClient.init outside fuel request validate w).1.map Prod.fst)
        (TaskClient.init outside fuel request validate w).2
  | beginEpisode (validate : BeginEpisodeReq → BeginEpisodeRsp → Bool) (stopped : Nat → Bool)
      (w : World τ) :
      ClientOperation outside fuel .beginEpisode w
        ((TaskClient.beginEpisode outside fuel validate stopped w).1.map Prod.fst)
        (TaskClient.beginEpisode outside fuel validate stopped w).2
  | update (request : UpdateReq) (response : UpdateRsp)
      (validate : UpdateReq → UpdateRsp → Bool) (stopped : Nat → Bool) (w : World τ) :
      ClientOperation outside fuel .update w
        ((TaskClient.update outside fuel request response validate stopped w).1.map Prod.fst)
        (TaskClient.update outside fuel request response validate stopped w).2
  | endEpisode (validate : EndEpisodeReq → EndEpisodeRsp → Bool) (w : World τ) :
      ClientOperation outside fuel .endEpisode w
        ((TaskClient.endEpisode outside fuel validate w).1.map Prod.fst)
        (TaskClient.endEpisode outside fuel validate w).2
  | abortEpisode (request : AbortEpisodeReq) (w : World τ) :
      ClientOperation outside fuel .abortEpisode w
        ((TaskClient.abortEpisode outside fuel request w).1.map Prod.fst)
        (TaskClient.abortEpisode outside fuel request w).2
  | closeSession (w : World τ) :
      ClientOperation outside fuel .closeSession w
        ((TaskClient.closeSession outside fuel w).1.map Prod.fst)
        (TaskClient.closeSession outside fuel w).2

-- A binding operation around one TaskClient operation. It may refuse before the call or after
-- an Applied one; otherwise it passes the outcome on.
inductive Around (outside : Outside) (fuel : Nat) (rpc : TaskRpc) :
    World τ → Option CommandOutcome → World τ → Prop
  | refused {w w' : World τ} {outcome : CommandOutcome} (quiet : Quiet w w')
      (refusal : outcome ≠ .applied) : Around outside fuel rpc w (some outcome) w'
  | passed {w before after w' : World τ} {result : Option CommandOutcome}
      (quiet : Quiet w before) (called : ClientOperation outside fuel rpc before result after)
      (settled : Quiet after w') : Around outside fuel rpc w result w'
  | withdrawn {w before after w' : World τ} {outcome : CommandOutcome} (quiet : Quiet w before)
      (called : ClientOperation outside fuel rpc before (some .applied) after)
      (settled : Quiet after w') (refusal : outcome ≠ .applied) :
      Around outside fuel rpc w (some outcome) w'

-- A series of Updates. Only the last may fail to be Applied, and the series counts as Applied
-- only when its last Update was a final report.
inductive Reports (outside : Outside) (fuel : Nat) (final : Command τ → Prop) :
    World τ → Option CommandOutcome → World τ → Prop
  | left {w w' : World τ} {result : Option CommandOutcome} (quiet : Quiet w w')
      (refusal : result ≠ some .applied) : Reports outside fuel final w result w'
  | last {w before after w' : World τ} {result : Option CommandOutcome} (quiet : Quiet w before)
      (called : ClientOperation outside fuel .update before result after)
      (reported : result = some .applied → ∀ command ∈ after.commands.head?, final command)
      (settled : Quiet after w') : Reports outside fuel final w result w'
  | next {w before after w' : World τ} {result : Option CommandOutcome} (quiet : Quiet w before)
      (called : ClientOperation outside fuel .update before (some .applied) after)
      (rest : Reports outside fuel final after result w') : Reports outside fuel final w result w'

def readClient (reading : TaskClient → Bool) : Prog (World τ) Bool := do
  let w ← Prog.get
  pure (reading w.client)

structure DrivesClient (outside : Outside) (fuel : Nat) (final : Command τ → Prop)
    (binding : Binding (World τ)) : Prop where
  openSession (w : World τ) : binding.openSession.wp (fun result w' =>
    ∃ validate response before, Quiet w before ∧
      Quiet (TaskClient.openSession outside validate response before).2 w' ∧
      (result = (TaskClient.openSession outside validate response before).1.map Prod.fst ∨
        result = some .unknown)) w
  initializeTask (w : World τ) : binding.initializeTask.wp (Around outside fuel .init w) w
  beginEpisode (w : World τ) : binding.beginEpisode.wp (Around outside fuel .beginEpisode w) w
  runEpisode (w : World τ) : binding.runEpisode.wp (Reports outside fuel final w) w
  endEpisode (w : World τ) : binding.endEpisode.wp (Around outside fuel .endEpisode w) w
  abortEpisode (w : World τ) : binding.abortEpisode.wp (fun result w' => ∃ before after,
    Quiet w before ∧ ClientOperation outside fuel .abortEpisode before result after ∧
      Quiet after w') w
  closeSession (w : World τ) : binding.closeSession.wp (fun result w' => ∃ before after,
    Quiet w before ∧ ClientOperation outside fuel .closeSession before result after ∧
      Quiet after w') w
  active : binding.active = readClient TaskClient.active
  complete : binding.complete = readClient TaskClient.complete
  canClose : binding.canClose = readClient TaskClient.canClose
  stopped (w : World τ) : binding.stopped.wp (fun result w' =>
    result.isSome = true ∧ Quiet w w') w

def outcomeOf {Response : Type} (command : Prog (World τ) (CommandOutcome × Response)) :
    Prog (World τ) CommandOutcome := do
  let ended ← command
  pure ended.1

theorem wp_outcomeOf {Response : Type} (command : Prog (World τ) (CommandOutcome × Response))
    (post : Option CommandOutcome → World τ → Prop) (w : World τ) :
    (outcomeOf command).wp post w = post ((command w).1.map Prod.fst) (command w).2 := by
  rw [outcomeOf, Prog.wp_bind, Prog.wp]
  cases (command w).1 <;> rfl

-- The binding of the repository's own error propagation test: one empty Update an episode.
def failureBinding (outside : Outside) (fuel : Nat) : Binding (World τ) where
  openSession := outcomeOf (TaskClient.openSession outside (fun _ _ => true) {})
  initializeTask := outcomeOf (TaskClient.init outside fuel {} fun _ _ => true)
  beginEpisode := outcomeOf (TaskClient.beginEpisode outside fuel (fun _ _ => true)
    TaskClient.never)
  runEpisode := outcomeOf (TaskClient.update outside fuel {} {} (fun _ _ => true)
    TaskClient.never)
  endEpisode := outcomeOf (TaskClient.endEpisode outside fuel fun _ _ => true)
  abortEpisode := outcomeOf (TaskClient.abortEpisode outside fuel {})
  closeSession := outcomeOf (TaskClient.closeSession outside fuel)
  active := readClient TaskClient.active
  complete := readClient TaskClient.complete
  canClose := readClient TaskClient.canClose
  stopped := pure false

theorem Quiet.refl (w : World τ) : Quiet w w := ⟨rfl, rfl, rfl⟩

theorem failureBinding_drives (outside : Outside) (fuel : Nat) :
    DrivesClient outside fuel (fun _ : Command τ => True) (failureBinding outside fuel) where
  openSession w := by
    rw [failureBinding, wp_outcomeOf]
    exact ⟨_, _, w, .refl w, .refl _, .inl rfl⟩
  initializeTask w := by
    rw [failureBinding, wp_outcomeOf]
    exact .passed (.refl w) (.init _ _ w) (.refl _)
  beginEpisode w := by
    rw [failureBinding, wp_outcomeOf]
    exact .passed (.refl w) (.beginEpisode _ _ w) (.refl _)
  runEpisode w := by
    rw [failureBinding, wp_outcomeOf]
    exact .last (.refl w) (.update _ _ _ _ w) (fun _ _ _ => trivial) (.refl _)
  endEpisode w := by
    rw [failureBinding, wp_outcomeOf]
    exact .passed (.refl w) (.endEpisode _ w) (.refl _)
  abortEpisode w := by
    rw [failureBinding, wp_outcomeOf]
    exact ⟨w, _, .refl w, .abortEpisode _ w, .refl _⟩
  closeSession w := by
    rw [failureBinding, wp_outcomeOf]
    exact ⟨w, _, .refl w, .closeSession w, .refl _⟩
  active := rfl
  complete := rfl
  canClose := rfl
  stopped w := ⟨rfl, .refl w⟩

end MazeClient
