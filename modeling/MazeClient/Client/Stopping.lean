import MazeClient.Client.RunSession
import MazeClient.Shared.Deadline

set_option autoImplicit false

namespace MazeClient

open Program

variable {τ : Type} {outside : Outside} {fuel deadline extra : Nat} {budget : Int}

def HasBudget (budget : Int) (w : World τ) : Prop := w.client.options.abortWaitBudget = budget

def Lasts (budget : Int) (deadline extra : Nat) {α : Type} (p : Prog (World τ) α) (w : World τ) :
    Prop :=
  p.ReturnsBy World.tick (HasBudget budget) deadline extra w

theorem Lasts.of_deadline {α : Type} {p : Prog (World τ) α} {w : World τ}
    (lasts : Lasts budget 0 extra p w) : Lasts budget deadline extra p w :=
  lasts.mono (Nat.zero_le _) (Nat.le_refl _)

theorem lasts_observe {α : Type} (reading : Nat → α) {w : World τ} (kept : HasBudget budget w) :
    Lasts budget deadline 1 (observe reading) w :=
  ⟨reading w.tick, { w with tick := w.tick + 1 }, rfl, kept, Nat.le_succ _, by
    change w.tick + 1 ≤ _
    omega⟩

theorem lasts_setError (error : String) {w : World τ} (kept : HasBudget budget w) :
    Lasts budget deadline 0 (setError error) w :=
  Prog.returnsBy_modify kept rfl

theorem lasts_setTransport (outcomeUnknown : Bool) (error : String) {w : World τ}
    (kept : HasBudget budget w) : Lasts budget deadline 0 (setTransport outcomeUnknown error) w :=
  Prog.returnsBy_modify kept rfl

theorem lasts_invokeFrom (rpc : SessionRpc) (request : rpc.Request) (attempt remaining : Nat)
    {w : World τ} (kept : HasBudget budget w) :
    Lasts budget deadline remaining (invokeFrom outside rpc request attempt remaining) w := by
  induction remaining generalizing attempt w with
  | zero => exact Prog.returnsBy_pure none kept
  | succ remaining ih =>
      have sent : Lasts budget deadline 1 (send outside rpc request) w :=
        .bind (Prog.returnsBy_modify kept rfl) (Nat.zero_le 1) fun _ _ kept => lasts_observe _ kept
      rw [invokeFrom]
      refine .bind sent (by omega) fun answer w kept => ?_
      split
      · exact .bind (lasts_setTransport _ _ kept) (Nat.zero_le _) fun _ _ kept =>
          Prog.returnsBy_pure _ kept
      · refine .bind (lasts_setTransport _ _ kept) (Nat.zero_le _) fun _ _ kept => ?_
        split
        · exact Prog.returnsBy_pure _ kept
        · exact ih _ kept

theorem lasts_invoke (rpc : SessionRpc) (request : rpc.Request) {w : World τ}
    (kept : HasBudget budget w) : Lasts budget deadline 2 (invoke outside rpc request) w := by
  have called : Lasts budget deadline 2 (invokeUnary outside rpc request) w := by
    refine .bind (lasts_setTransport _ _ kept) (Nat.zero_le 2) fun _ _ kept => .get ?_
    split
    · exact .bind (lasts_setTransport _ _ kept) (Nat.zero_le _) fun _ _ kept =>
        Prog.returnsBy_pure _ kept
    · exact lasts_invokeFrom rpc request 1 2 kept
  refine .bind called (Nat.le_refl 2) fun response w kept => ?_
  split
  · exact .get (.bind (lasts_setError _ kept) (Nat.zero_le _) fun _ _ kept =>
      Prog.returnsBy_pure _ kept)
  · exact Prog.returnsBy_pure _ kept

theorem lasts_recorded {rpc : SessionRpc} {request : rpc.Request}
    {command : Prog (World τ) (CommandOutcome × rpc.Response)} {w : World τ}
    (lasts : ∀ w : World τ, HasBudget budget w → Lasts budget deadline extra command w)
    (kept : HasBudget budget w) :
    Lasts budget deadline extra (recorded rpc request command) w := by
  refine .bind (Prog.returnsBy_modify ?_ rfl) (Nat.zero_le _) fun _ w' kept => ?_
  · exact kept
  refine .bind (lasts w' kept) (Nat.le_refl _) fun _ _ kept => ?_
  refine .bind (Prog.returnsBy_modify ?_ rfl) (Nat.zero_le _) fun _ _ kept =>
    Prog.returnsBy_pure _ kept
  exact kept

section Exchange

variable {rpc : TaskRpc} {request : rpc.Request} {response : rpc.Response}
variable {validate : rpc.Request → rpc.Response → Bool} {wait : rpc.Response → Int}
variable {stopped : Nat → Bool} {patience : Int}

theorem lasts_exchangeRound (start : Int) {w : World τ} (kept : HasBudget budget w) :
    Lasts budget deadline 4
      (exchangeRound outside rpc request validate wait stopped patience start response) w := by
  refine .bind (lasts_observe _ kept) (by omega) fun halted w kept => ?_
  split
  · exact Prog.returnsBy_pure _ kept
  refine .bind (lasts_observe _ kept) (by omega) fun now w kept => ?_
  split
  · exact Prog.returnsBy_pure _ kept
  refine .bind (lasts_invoke _ _ kept) (by omega) fun answer w kept => ?_
  cases answer with
  | none => exact Prog.returnsBy_pure _ kept
  | some response =>
      refine .get ?_
      split
      · exact Prog.returnsBy_pure _ kept
      · refine .bind (Prog.returnsBy_modify ?_ rfl) (Nat.zero_le _) fun _ _ kept =>
          Prog.returnsBy_pure _ kept
        exact kept

theorem exchangeRound_onward (start : Int) (w : World τ) :
    (exchangeRound outside rpc request validate wait stopped patience start response).wp
      (fun result w' => ∀ next, result = some (.inl next) →
        stopped w.tick = false ∧ 0 < wait next ∧
        (patience ≠ noBudget → outside.now (w.tick + 1) - start < patience * 1000000) ∧
        w.tick < w'.tick) w := by
  unfold exchangeRound
  simp only [Prog.wp_bind, wp_observe, Prog.andThen_some]
  split
  case isTrue => exact fun next same => by cases same
  case isFalse running =>
  simp only [Prog.wp_bind, wp_observe, Prog.andThen_some]
  split
  case isTrue => exact fun next same => by cases same
  case isFalse early =>
  obtain ⟨answer, after, ran, -, onward, -⟩ := @lasts_invoke _ outside 0 _ (.task rpc) request
    { w with tick := w.tick + 1 + 1 } rfl
  rw [Prog.wp_bind, Prog.wp, ran]
  cases answer with
  | none => exact fun next same => by cases same
  | some answer =>
      simp only [Prog.andThen_some, Prog.wp_bind, Prog.wp_get]
      split
      case isFalse => exact fun next same => by cases same
      case isTrue waits =>
          rintro next same
          cases same
          have later : w.tick + 1 + 1 ≤ after.tick := onward
          refine ⟨by simpa using running, ?_, fun bounded => ?_, Nat.lt_of_lt_of_le (by omega) later⟩
          · simp only [Bool.and_eq_true, decide_eq_true_eq] at waits
            exact waits.1
          · simp only [bounded, ne_eq, not_false_eq_true, decide_true, Bool.true_and,
              decide_eq_true_eq] at early
            omega

theorem lasts_sessionExchange (horizon : Nat → Nat) {w : World τ} (kept : HasBudget budget w)
    (ends : ∀ start tick, stopped tick = false →
      (patience ≠ noBudget → outside.now (tick + 1) - outside.now start < patience * 1000000) →
      (∃ response : rpc.Response, 0 < wait response) → tick < horizon start)
    (enough : ∀ start, horizon start - start < fuel) :
    Lasts budget (horizon w.tick) 9
      (sessionExchange outside fuel rpc request response validate wait stopped patience) w := by
  have rounds : Lasts budget (horizon w.tick) (4 + 4)
      (Prog.iterate (exchangeRound outside rpc request validate wait stopped patience
        (outside.now w.tick)) fuel response) { w with tick := w.tick + 1 } := by
    refine Prog.returnsBy_iterate (fun response w kept => lasts_exchangeRound _ kept)
      (fun response w' _ => ?_) kept ?_
    · apply Prog.wp_mono (exchangeRound_onward _ w')
      rintro result after round next goes
      obtain ⟨running, waits, early, onward⟩ := round next goes
      exact ⟨ends w.tick w'.tick running early ⟨next, waits⟩, onward⟩
    · have bound := enough w.tick
      simp only
      omega
  obtain ⟨value, after, ran, kept, onward, bound⟩ := rounds
  simp only at onward bound
  exact ⟨value, after, ran, kept, by omega, by omega⟩

theorem lasts_exchange
    (lasts : ∀ request (w : World τ), HasBudget budget w → Lasts budget deadline extra
      (sessionExchange outside fuel rpc request response validate wait stopped patience) w)
    {w : World τ} (kept : HasBudget budget w) : Lasts budget deadline extra
      (TaskClient.exchange outside fuel rpc request response validate wait stopped patience) w := by
  refine .bind (lasts_setError "" kept) (Nat.zero_le _) fun _ w kept => .get ?_
  refine lasts_recorded (fun w kept => ?_) kept
  refine .bind (lasts _ w kept) (Nat.le_refl _) fun ended w kept => .get ?_
  split
  · exact .bind (lasts_setError _ kept) (Nat.zero_le _) fun _ _ kept => Prog.returnsBy_pure _ kept
  · exact Prog.returnsBy_pure _ kept

end Exchange

structure Halts (outside : Outside) (budget : Int) (request span : Nat) : Prop where
  stops : ∀ tick, request ≤ tick → outside.stopped tick = true
  bounded : budget ≠ noBudget
  elapses : ∀ start tick, start + span ≤ tick →
    budget * 1000000 ≤ outside.now tick - outside.now start

theorem lasts_setEpisode (episodeId : String) {w : World τ} (kept : HasBudget budget w) :
    Lasts budget deadline 0 (setEpisode episodeId) w :=
  Prog.returnsBy_modify kept rfl

theorem lasts_preserveFailure (original cleanup : String) (outcome : CommandOutcome) {w : World τ}
    (kept : HasBudget budget w) :
    Lasts budget deadline 0 (TaskClient.preserveFailure original cleanup outcome) w := by
  refine .get ?_
  split
  · exact lasts_setError _ kept
  · exact Prog.returnsBy_pure _ kept

theorem Halts.watches {request span : Nat} (halts : Halts outside budget request span)
    {w : World τ} (kept : HasBudget budget w) :
    Prog.Watches World.tick (HasBudget budget) request (observe outside.stopped) w :=
  ⟨outside.stopped w.tick, { w with tick := w.tick + 1 }, rfl, kept, rfl, halts.stops w.tick⟩

section Operations

variable {request span : Nat} {w : World τ}

theorem lasts_prompt {rpc : TaskRpc} {request : rpc.Request} {response : rpc.Response}
    {validate : rpc.Request → rpc.Response → Bool} {stopped : Nat → Bool} {patience : Int}
    (enough : 0 < fuel) (kept : HasBudget budget w) : Lasts budget deadline 9
      (TaskClient.exchange outside fuel rpc request response validate (fun _ => 0) stopped patience)
      w := by
  refine lasts_exchange (fun _ w kept => ?_) kept
  refine .of_deadline (lasts_sessionExchange (fun _ => 0) kept ?_ fun _ => by omega)
  rintro start tick - - ⟨response, waits⟩
  omega

theorem Halts.lasts_heeding (halts : Halts outside budget request span) {rpc : TaskRpc}
    {payload : rpc.Request} {response : rpc.Response}
    {validate : rpc.Request → rpc.Response → Bool} {wait : rpc.Response → Int} {patience : Int}
    (enough : request < fuel) (kept : HasBudget budget w) : Lasts budget request 9
      (TaskClient.exchange outside fuel rpc payload response validate wait outside.stopped patience)
      w := by
  refine lasts_exchange (fun _ w kept => ?_) kept
  refine lasts_sessionExchange (fun _ => request) kept ?_ fun _ => by omega
  rintro start tick running - -
  by_contra late
  simp [halts.stops tick (by omega)] at running

theorem Halts.lasts_abortEpisode (halts : Halts outside budget request span)
    {payload : AbortEpisodeReq} (enough : span < fuel) (kept : HasBudget budget w) :
    Lasts budget deadline (span + 9) (TaskClient.abortEpisode outside fuel payload) w := by
  have limit : w.client.options.abortWaitBudget = budget := kept
  unfold TaskClient.abortEpisode
  refine .get ?_
  rw [limit]
  refine .bind (lasts_exchange (fun _ w kept => ?_) kept) (Nat.le_refl _) fun ended w kept => ?_
  · refine Prog.ReturnsBy.relative (lasts_sessionExchange (fun start => start + span) kept ?_
      fun _ => by omega)
    rintro start tick - early -
    by_contra late
    have elapsed := halts.elapses start (tick + 1) (by omega)
    have before := early halts.bounded
    omega
  have settled (original : String) (w : World τ) (kept : HasBudget budget w) :
      Lasts budget deadline 0 (do
        TaskClient.preserveFailure original "AbortEpisode" ended.1
        return ended : Prog (World τ) (CommandOutcome × AbortEpisodeRsp)) w :=
    .bind (lasts_preserveFailure _ _ _ kept) (Nat.zero_le _) fun _ _ kept =>
      Prog.returnsBy_pure _ kept
  split
  · exact .bind (lasts_setEpisode _ kept) (Nat.zero_le _) fun _ w kept =>
      (settled _ w kept).mono (Nat.le_refl _) (Nat.zero_le _)
  · exact (settled _ w kept).mono (Nat.le_refl _) (Nat.zero_le _)

theorem lasts_closeSession (enough : 0 < fuel) (kept : HasBudget budget w) :
    Lasts budget deadline 9 (TaskClient.closeSession outside fuel) w := by
  refine .get (.bind (lasts_prompt enough kept) (Nat.le_refl _) fun ended w kept => ?_)
  exact .bind (lasts_preserveFailure _ _ _ kept) (Nat.zero_le _) fun _ _ kept =>
    Prog.returnsBy_pure _ kept

theorem lasts_openSession {validate : OpenSessionReq → OpenSessionRsp → Bool}
    {response : OpenSessionRsp} (kept : HasBudget budget w) :
    Lasts budget deadline 2 (TaskClient.openSession outside validate response) w := by
  refine .bind (lasts_setError _ kept) (Nat.zero_le _) fun _ w kept => .get ?_
  refine lasts_recorded (fun w kept => ?_) kept
  refine .bind (lasts_invoke _ _ kept) (Nat.le_refl _) fun answer w kept => ?_
  cases answer with
  | none => exact Prog.returnsBy_pure _ kept
  | some answer =>
      have refused (error : String) (result : CommandOutcome × OpenSessionRsp) (w : World τ)
          (kept : HasBudget budget w) : Lasts budget deadline 0 (do
            setError error
            return result : Prog (World τ) (CommandOutcome × OpenSessionRsp)) w :=
        .bind (lasts_setError _ kept) (Nat.zero_le _) fun _ _ kept => Prog.returnsBy_pure _ kept
      simp only
      split
      · exact refused _ _ _ kept
      split
      · exact refused _ _ _ kept
      · refine .bind (Prog.returnsBy_modify ?_ rfl) (Nat.zero_le _) fun _ _ kept =>
          Prog.returnsBy_pure _ kept
        exact kept

theorem lasts_endEpisode {validate : EndEpisodeReq → EndEpisodeRsp → Bool} (enough : 0 < fuel)
    (kept : HasBudget budget w) :
    Lasts budget deadline 9 (TaskClient.endEpisode outside fuel validate) w := by
  refine .bind (lasts_prompt enough kept) (Nat.le_refl _) fun ended w kept => ?_
  split
  · exact .bind (lasts_setEpisode _ kept) (Nat.zero_le _) fun _ _ kept =>
      Prog.returnsBy_pure _ kept
  · exact Prog.returnsBy_pure _ kept

theorem Halts.lasts_beginEpisode (halts : Halts outside budget request span)
    {validate : BeginEpisodeReq → BeginEpisodeRsp → Bool} (enough : request < fuel)
    (kept : HasBudget budget w) : Lasts budget request 9
      (TaskClient.beginEpisode outside fuel validate outside.stopped) w := by
  refine .bind (halts.lasts_heeding enough kept) (Nat.le_refl _) fun ended w kept => .get ?_
  split
  · exact .bind (lasts_setEpisode _ kept) (Nat.zero_le _) fun _ _ kept =>
      Prog.returnsBy_pure _ kept
  · exact Prog.returnsBy_pure _ kept

end Operations

structure HeedsStop (budget : Int) (outside : Outside) (request extra aborting : Nat)
    (binding : Binding (World τ)) : Prop where
  openSession (w : World τ) (kept : HasBudget budget w) :
    Lasts budget request extra binding.openSession w
  initializeTask (w : World τ) (kept : HasBudget budget w) :
    Lasts budget request extra binding.initializeTask w
  beginEpisode (w : World τ) (kept : HasBudget budget w) :
    Lasts budget request extra binding.beginEpisode w
  runEpisode (w : World τ) (kept : HasBudget budget w) :
    Lasts budget request extra binding.runEpisode w
  endEpisode (w : World τ) (kept : HasBudget budget w) :
    Lasts budget request extra binding.endEpisode w
  abortEpisode (w : World τ) (kept : HasBudget budget w) :
    Lasts budget request aborting binding.abortEpisode w
  closeSession (w : World τ) (kept : HasBudget budget w) :
    Lasts budget request extra binding.closeSession w
  active : binding.active = readClient TaskClient.active
  complete : binding.complete = readClient TaskClient.complete
  canClose : binding.canClose = readClient TaskClient.canClose
  stopped : binding.stopped = observe outside.stopped

theorem lasts_readClient (reading : TaskClient → Bool) {w : World τ} (kept : HasBudget budget w) :
    Lasts budget deadline 0 (readClient reading) w :=
  Prog.returnsBy_pure _ kept

section Sessions

variable {request aborting span : Nat} {binding : Binding (World τ)} {w : World τ}

theorem HeedsStop.sessionRounds (heeds : HeedsStop budget outside request extra aborting binding)
    (halts : Halts outside budget request span) (enough : request < fuel)
    (kept : HasBudget budget w) :
    Lasts budget request (3 * extra + 1 + (3 * extra + 1))
      (Prog.iterate (fun _ => sessionRound binding) fuel ()) w := by
  simp only [MazeClient.sessionRound, heeds.stopped]
  refine Prog.returnsBy_guarded (fun w kept => halts.watches kept) (fun _ => rfl)
    (fun _ w kept => ?_) kept (by omega)
  refine .bind (heeds.beginEpisode w kept) (by omega) fun result w kept => ?_
  split
  · exact Prog.returnsBy_pure _ kept
  rw [heeds.complete]
  refine .bind (lasts_readClient _ kept) (Nat.zero_le _) fun done w kept => ?_
  split
  · exact Prog.returnsBy_pure _ kept
  refine .bind (heeds.runEpisode w kept) (by omega) fun result w kept => ?_
  split
  · exact Prog.returnsBy_pure _ kept
  refine .bind (heeds.endEpisode w kept) (by omega) fun result w kept => ?_
  split
  · exact Prog.returnsBy_pure _ kept
  · exact Prog.returnsBy_pure _ kept

theorem HeedsStop.finish (heeds : HeedsStop budget outside request extra aborting binding)
    (outcome : CommandOutcome) (kept : HasBudget budget w) :
    Lasts budget request (aborting + extra) (finish binding outcome) w := by
  have closing (w : World τ) (kept : HasBudget budget w) : Lasts budget request extra (do
      if ← binding.canClose then
        let closed ← binding.closeSession
        if closed ≠ .applied then
          return if outcome = .rejected || outcome = .waitExpired then outcome else closed
      return outcome : Prog (World τ) CommandOutcome) w := by
    rw [heeds.canClose]
    refine .bind (lasts_readClient _ kept) (Nat.zero_le _) fun closes w kept => ?_
    split
    · refine .bind (heeds.closeSession w kept) (Nat.le_refl _) fun closed w kept => ?_
      split
      · exact Prog.returnsBy_pure _ kept
      · exact Prog.returnsBy_pure _ kept
    · exact Prog.returnsBy_pure _ kept
  unfold MazeClient.finish
  split
  · exact Prog.returnsBy_pure _ kept
  rw [heeds.active]
  refine .bind (lasts_readClient _ kept) (Nat.zero_le _) fun active w kept => ?_
  dsimp only
  split
  · refine .bind (heeds.abortEpisode w kept) (by omega) fun aborted w kept => ?_
    split
    · exact Prog.returnsBy_pure _ kept
    · exact (closing w kept).mono (Nat.le_refl _) (by omega)
  · exact (closing w kept).mono (Nat.le_refl _) (by omega)

theorem HeedsStop.conduct (heeds : HeedsStop budget outside request extra aborting binding)
    (halts : Halts outside budget request span) (enough : request < fuel)
    (kept : HasBudget budget w) :
    Lasts budget request (7 * extra + 2) (conduct fuel binding) w := by
  refine .bind (heeds.initializeTask w kept) (by omega) fun result w kept => ?_
  split
  · exact Prog.returnsBy_pure _ kept
  · exact (heeds.sessionRounds halts enough kept).mono (Nat.le_refl _) (by omega)

/-- RunSession returns soon after the caller wants to stop, whatever the server does. -/
theorem HeedsStop.runSession (heeds : HeedsStop budget outside request extra aborting binding)
    (halts : Halts outside budget request span) (enough : request < fuel)
    (kept : HasBudget budget w) :
    Lasts budget request (9 * extra + 2 + aborting) (runSession fuel binding) w := by
  refine .bind (heeds.openSession w kept) (by omega) fun result w kept => ?_
  split
  · exact Prog.returnsBy_pure _ kept
  refine .bind (heeds.conduct halts enough kept) (by omega) fun outcome w kept => ?_
  exact (heeds.finish outcome kept).mono (Nat.le_refl _) (by omega)

end Sessions

end MazeClient
