import MazeClient.Replay.Service

set_option autoImplicit false

namespace MazeClient

namespace ReplayService

open Fallible Fallible.Op

section Laws

variable {paths : Paths}

def Vacant (world : World) : Prop :=
  ∀ pid launch, world.processes pid ≠ some (.server launch)

def Named (pid : Int) (instanceId : String) (world : World) : Prop :=
  ∃ state, world.stateFile = .object state ∧ state.pid = some pid ∧
    state.instanceId = some instanceId

def Gone (pid : Int) (world : World) : Prop :=
  ∀ launch, world.processes pid ≠ some (.server launch)

def Own (paths : Paths) (pid : Int) (launch : Launch) : Prop :=
  0 < pid ∧ launch.paths = paths ∧ launch.instanceId ≠ ""

/-- Every Replay server that lives is the one service.json names. -/
def Lawful (paths : Paths) (world : World) : Prop :=
  ∀ pid launch, world.processes pid = some (.server launch) →
    Own paths pid launch ∧ Named pid launch.instanceId world

def AtMostOne (world : World) : Prop :=
  ∀ pid launch pid' launch', world.processes pid = some (.server launch) →
    world.processes pid' = some (.server launch') → pid = pid' ∧ launch = launch'

def Recorded (paths : Paths) (state : State) (world : World) : Prop :=
  Lawful paths world ∧ world.stateFile = .object state

-- The only server that may live is the one just launched.
def Sole (paths : Paths) (pid : Int) (launch : Launch) (world : World) : Prop :=
  Own paths pid launch ∧
  ∀ pid' launch', world.processes pid' = some (.server launch') → pid' = pid ∧ launch' = launch

def Held (paths : Paths) (pid : Int) (launch : Launch) (world : World) : Prop :=
  Sole paths pid launch world ∧ Named pid launch.instanceId world

-- Time alone does not break it.
def Lasting (holds : World → Prop) : Prop :=
  ∀ (outside : Outside) step world, holds world → holds (outside.pass step world)

theorem Vacant.lawful {world : World} (vacant : Vacant world) : Lawful paths world :=
  fun pid launch lives => (vacant pid launch lives).elim

theorem Held.lawful {pid : Int} {launch : Launch} {world : World}
    (held : Held paths pid launch world) : Lawful paths world := by
  intro pid' launch' lives
  obtain ⟨rfl, rfl⟩ := held.1.2 pid' launch' lives
  exact ⟨held.1.1, held.2⟩

theorem Lawful.atMostOne {world : World} (lawful : Lawful paths world) : AtMostOne world := by
  intro pid launch pid' launch' lives lives'
  obtain ⟨-, state, file, named, -⟩ := lawful pid launch lives
  obtain ⟨-, state', file', named', -⟩ := lawful pid' launch' lives'
  cases file.symm.trans file'
  cases named.symm.trans named'
  cases lives.symm.trans lives'
  exact ⟨rfl, rfl⟩

theorem Lawful.vacant_absent {world : World} (lawful : Lawful paths world)
    (absent : world.stateFile = .absent) : Vacant world := by
  intro pid launch lives
  obtain ⟨-, state, file, -⟩ := lawful pid launch lives
  cases absent.symm.trans file

theorem Recorded.lawful {state : State} (world : World) (recorded : Recorded paths state world) :
    Lawful paths world := recorded.1

theorem Recorded.vacant {state : State} {pid : Int} {world : World}
    (recorded : Recorded paths state world) (named : state.pid = some pid)
    (gone : Gone pid world) : Vacant world := by
  intro pid' launch lives
  obtain ⟨-, state', file, named', -⟩ := recorded.1 pid' launch lives
  cases recorded.2.symm.trans file
  cases named.symm.trans named'
  exact gone launch lives

theorem Sole.vacant {pid : Int} {launch : Launch} {world : World}
    (sole : Sole paths pid launch world)
    (gone : world.processes pid ≠ some (.server launch)) : Vacant world := by
  intro pid' launch' lives
  obtain ⟨rfl, rfl⟩ := sole.2 pid' launch' lives
  exact gone lives

theorem Outside.pass_server {outside : Outside} {step : Step} {world : World} {pid : Int}
    {launch : Launch} (lives : (outside.pass step world).processes pid = some (.server launch)) :
    world.processes pid = some (.server launch) := by
  unfold Outside.pass at lives
  cases held : world.processes pid with
  | none => simp [held] at lives
  | some process =>
      simp only [held] at lives
      split at lives
      · cases lives
      · exact lives

theorem lasting_vacant : Lasting Vacant :=
  fun _ _ _ vacant pid launch lives => vacant pid launch (Outside.pass_server lives)

theorem lasting_lawful : Lasting (Lawful paths) :=
  fun _ _ _ lawful pid launch lives => lawful pid launch (Outside.pass_server lives)

theorem lasting_recorded (paths : Paths) (state : State) : Lasting (Recorded paths state) :=
  fun outside step world recorded => ⟨lasting_lawful outside step world recorded.1, recorded.2⟩

theorem lasting_sole (paths : Paths) (pid : Int) (launch : Launch) :
    Lasting (Sole paths pid launch) :=
  fun _ _ _ sole =>
    ⟨sole.1, fun pid' launch' lives => sole.2 pid' launch' (Outside.pass_server lives)⟩

theorem lasting_held (paths : Paths) (pid : Int) (launch : Launch) :
    Lasting (Held paths pid launch) :=
  fun outside step world held => ⟨lasting_sole paths pid launch outside step world held.1, held.2⟩

end Laws

section Steps

-- From the launch of a server to the replacement of its first state.
def firstSteps : List Step := [.closeLog true, .write .starting, .replace .starting]

-- Of the calls made so far none of these has raised an error.
def FirstStateWritten (outside : Outside) (world : World) : Prop :=
  ∀ time step, (time, step) ∈ world.steps → step ∈ firstSteps → outside.raises time step = false

-- Lawful unless a first state was not written.
def LawfulOnceWritten (outside : Outside) (paths : Paths) (world : World) : Prop :=
  FirstStateWritten outside world → Lawful paths world

variable {outside : Outside} {paths : Paths} {holds failed : World → Prop}

theorem triple_pass (step : Step) (lasting : Lasting holds) :
    Triple holds (modify (outside.pass step) : Service Unit) (fun _ => holds) failed :=
  triple_modify fun world started => lasting outside step world started

theorem triple_act (step : Step) (lasting : Lasting holds) : Keeps holds (act outside step) := by
  unfold act
  refine triple_bind (triple_pass step lasting) fun _ => triple_get_bind fun world => ?_
  exact (triple_raiseIf fun _ started => started.1).leaving fun _ _ ended => ended.1.1

theorem triple_act_first {step : Step} (lasting : Lasting holds) (first : step ∈ firstSteps) :
    Triple holds (act outside step) (fun _ => holds)
      (fun world => ¬FirstStateWritten outside world) := by
  unfold act
  have passed : Triple holds (modify (outside.pass step) : Service Unit)
      (fun _ world => holds world ∧ (world.time, step) ∈ world.steps)
      (fun world => ¬FirstStateWritten outside world) :=
    triple_modify fun world started => ⟨lasting outside step world started, List.mem_cons_self⟩
  refine triple_bind passed fun _ => triple_get_bind fun world => ?_
  unfold raiseIf
  split
  case isTrue raised =>
    refine triple_throw ?_
    rintro s ⟨⟨-, made⟩, rfl⟩ written
    exact absurd raised (by simp [written _ _ made first])
  case isFalse => exact triple_pure fun _ started => started.1.1

theorem triple_processIsLive {pid : Int} (lasting : Lasting holds) (positive : 0 < pid) :
    Triple holds (processIsLive outside pid)
      (fun live world => holds world ∧ (live = false → Gone pid world)) holds := by
  unfold processIsLive
  rw [if_neg (by omega)]
  refine triple_bind (triple_act .inspect lasting) fun _ => ?_
  refine triple_get_bind fun world => triple_pure ?_
  rintro s ⟨started, rfl⟩
  refine ⟨started, fun none_ launch lives => ?_⟩
  simp [lives] at none_

theorem triple_processCommand {pid : Int} (lasting : Lasting holds) :
    Triple holds (processCommand outside pid)
      (fun command world => holds world ∧ (command = [] → Gone pid world)) holds := by
  unfold processCommand
  refine triple_bind (triple_act .readCommand lasting) fun _ => triple_get_bind fun world => ?_
  cases held : world.processes pid with
  | none =>
      refine triple_pure ?_
      rintro s ⟨started, rfl⟩
      exact ⟨started, fun _ launch lives => by cases held.symm.trans lives⟩
  | some process =>
      refine triple_pure ?_
      rintro s ⟨started, rfl⟩
      refine ⟨started, fun empty launch lives => ?_⟩
      cases held.symm.trans lives
      simp [Process.command, Launch.command] at empty

theorem triple_awaitExit {pid : Int} (lasting : Lasting holds) (positive : 0 < pid)
    (rounds : Nat) : Keeps holds (awaitExit outside pid rounds) := by
  induction rounds with
  | zero =>
      refine triple_bind (triple_processIsLive lasting positive) fun _ => ?_
      exact triple_pure fun _ ended => ended.1
  | succ rounds ih =>
      refine triple_bind (triple_processIsLive lasting positive) fun live => ?_
      cases live
      · exact triple_pure fun _ ended => ended.1
      · refine Triple.entering ?_ fun _ started => started.1
        exact triple_bind (triple_act .sleep lasting) fun _ => ih

-- What a state that _owned_replay_pid read says of the world.
def Answered (paths : Paths) (state : State) : Option Int → World → Prop
  | none, world => Recorded paths state world ∧ Vacant world
  | some pid, world => Recorded paths state world ∧ state.pid = some pid ∧ 0 < pid

theorem triple_ownedReplayPid (state : State) :
    Triple (Recorded paths state) (ownedReplayPid outside paths state) (Answered paths state)
      (Lawful paths) := by
  have lasting := lasting_recorded paths state
  have recorded_lawful := @Recorded.lawful paths state
  unfold ownedReplayPid
  cases named : state.pid with
  | none => exact triple_throw recorded_lawful
  | some pid =>
      cases state.instanceId with
      | none => exact triple_throw recorded_lawful
      | some instanceId =>
          refine triple_bind (triple_raiseIf recorded_lawful) fun _ => ?_
          by_cases positive : 0 < pid
          case neg =>
            intro s started
            exact absurd started.2 (by simp; omega)
          refine triple_bind (((triple_processIsLive lasting positive).entering
            fun _ started => started.1).raising recorded_lawful) fun live => ?_
          cases live
          · exact triple_pure fun _ ended => ⟨ended.1, ended.1.vacant named (ended.2 rfl)⟩
          refine triple_bind (((triple_processCommand lasting).entering
            fun _ started => started.1).raising recorded_lawful) fun command => ?_
          by_cases empty : command = []
          · rw [if_pos empty]
            exact triple_pure fun _ ended => ⟨ended.1, ended.1.vacant named (ended.2 empty)⟩
          · rw [if_neg empty]
            refine triple_bind (triple_raiseIf fun _ ended => ended.1.1) fun _ => ?_
            exact triple_pure fun _ ended => ⟨ended.1.1, named, positive⟩

theorem triple_cleanupState (state : State) : Keeps Vacant (cleanupState outside state) := by
  have ready : Keeps Vacant (unlinkReady outside state) := by
    unfold unlinkReady
    split
    · exact triple_act .unlinkReady lasting_vacant
    · exact triple_pure fun _ vacant => vacant
  refine triple_bind ready fun _ => ?_
  refine triple_bind (triple_act .unlinkState lasting_vacant) fun _ => ?_
  exact triple_modify fun _ vacant => vacant

theorem triple_sendKill (state : State) (pid : Int) :
    Keeps (Recorded paths state) (sendKill outside pid) := by
  refine triple_bind (triple_act .kill (lasting_recorded paths state)) fun _ => ?_
  refine triple_get_bind fun world => ?_
  refine triple_bind (triple_raiseIf fun _ started => started.1) fun _ => ?_
  refine triple_modify fun s started => ⟨fun pid' launch lives => ?_, started.1.1.2⟩
  refine started.1.1.1 pid' launch ?_
  simp only at lives
  split at lives
  · cases lives
  · exact lives

theorem triple_loadState :
    Triple (Lawful paths) (loadState outside paths)
      (fun found world => match found with
        | none => Vacant world
        | some state => Recorded paths state world) (Lawful paths) := by
  refine triple_bind (triple_act .load lasting_lawful) fun _ => triple_get_bind fun world => ?_
  cases file : world.stateFile with
  | absent =>
      refine triple_pure ?_
      rintro s ⟨lawful, rfl⟩
      exact lawful.vacant_absent file
  | notJson text => exact triple_throw fun _ started => started.1
  | notObject text => exact triple_throw fun _ started => started.1
  | object state =>
      refine triple_pure ?_
      rintro s ⟨lawful, rfl⟩
      exact ⟨lawful, file⟩

theorem triple_stateLock {α : Type} {body : Service α} (lasting : Lasting failed)
    (lawful : ∀ world, Lawful paths world → failed world)
    (triple : Triple (Lawful paths) body (fun _ => Lawful paths) failed) :
    Triple (Lawful paths) (stateLock outside body) (fun _ => Lawful paths) failed :=
  triple_bind ((triple_act .lock lasting_lawful).raising lawful) fun _ =>
    triple_ensure triple (fun _ => (triple_act .unlock lasting_lawful).raising lawful)
      (triple_act .unlock lasting)

theorem triple_endProcess {state : State} {pid : Int} (named : state.pid = some pid)
    (positive : 0 < pid) :
    Triple (Recorded paths state) (endProcess outside paths state pid) (fun _ => Vacant)
      (Lawful paths) := by
  have lasting := lasting_recorded paths state
  have recorded_lawful := @Recorded.lawful paths state
  have exits (rounds : Nat) : Triple (Recorded paths state) (awaitExit outside pid rounds)
      (fun _ => Recorded paths state) (Lawful paths) :=
    (triple_awaitExit lasting positive rounds).raising recorded_lawful
  have lives : Triple (Recorded paths state) (processIsLive outside pid)
      (fun live world => Recorded paths state world ∧ (live = false → Vacant world))
      (Lawful paths) :=
    (triple_processIsLive lasting positive).weaken (fun _ started => started)
      (fun _ _ ended => ⟨ended.1, fun gone => ended.1.vacant named (ended.2 gone)⟩) recorded_lawful
  refine triple_bind ((triple_act .terminate lasting).raising recorded_lawful) fun _ =>
    triple_get_bind fun world => ?_
  refine triple_bind ((exits _).entering fun _ started => started.1) fun _ => ?_
  refine triple_bind lives fun live => ?_
  cases live
  · exact triple_pure fun _ ended => ended.2 rfl
  have asked : Triple (fun world => Recorded paths state world ∧ (true = false → Vacant world))
      (ownedReplayPid outside paths state) (fun _ => Recorded paths state) (Lawful paths) :=
    ((triple_ownedReplayPid state).entering fun _ started => started.1).leaving
      fun answer _ answered => by cases answer <;> exact answered.1
  refine triple_bind asked fun _ => ?_
  refine triple_bind ((triple_sendKill state pid).raising recorded_lawful) fun _ =>
    triple_get_bind fun world => ?_
  refine triple_bind ((exits _).entering fun _ started => started.1) fun _ => ?_
  refine triple_bind lives fun live => ?_
  refine (triple_raiseIf fun _ ended => ended.1.1).leaving fun _ _ ended => ?_
  exact ended.1.2 (by simpa using ended.2)

theorem triple_stopReplay : Keeps (Lawful paths) (stopReplay outside paths) := by
  have printed {holds : World → Prop} (lasting : Lasting holds)
      (lawful : ∀ world, holds world → Lawful paths world) : Triple holds
      (do act outside .print; return 0 : Service Nat) (fun _ => Lawful paths) (Lawful paths) :=
    triple_bind ((triple_act .print lasting).raising lawful) fun _ => triple_pure lawful
  have cleaned (state : State) : Triple Vacant
      (do cleanupState outside state; act outside .print; return 0 : Service Nat)
      (fun _ => Lawful paths) (Lawful paths) :=
    triple_bind ((triple_cleanupState state).raising fun _ vacant => vacant.lawful) fun _ =>
      printed lasting_vacant fun _ vacant => vacant.lawful
  refine triple_bind (triple_act .makeDirectories lasting_lawful) fun _ =>
    triple_stateLock lasting_lawful (fun _ lawful => lawful) ?_
  refine triple_bind triple_loadState fun found => ?_
  cases found with
  | none => exact printed lasting_vacant fun _ vacant => vacant.lawful
  | some state =>
      refine triple_bind (triple_ownedReplayPid state) fun answer => ?_
      cases answer with
      | none =>
          exact (cleaned state).entering fun _ answered => answered.2
      | some pid =>
          intro s answered
          exact triple_bind (triple_endProcess answered.2.1 answered.2.2)
            (fun _ => cleaned state) s answered.1

theorem tokenHex_nonempty (digits : Fin 32 → Fin 16) : tokenHex digits ≠ "" := by
  intro empty
  have length := congrArg (fun text => text.toList.length) empty
  simp [tokenHex] at length

theorem triple_popen {launch : Launch} (own : launch.paths = paths ∧ launch.instanceId ≠ "") :
    Triple Vacant (popen outside launch) (fun pid => Sole paths pid launch) Vacant := by
  refine triple_bind (triple_act .popen lasting_vacant) fun _ => triple_get_bind fun world => ?_
  refine triple_bind (triple_raiseIf fun _ started => started.1) fun _ => ?_
  have forked {pid : Int} (positive : 0 < pid) : Triple Vacant (modify fun world => { world with
      processes := fun other => if other = pid then some (.server launch) else world.processes other }
      : Service Unit) (fun _ => Sole paths pid launch) Vacant := by
    refine triple_modify fun s vacant => ⟨⟨positive, own⟩, fun pid' launch' lives => ?_⟩
    simp only at lives
    split at lives
    case isTrue same =>
      cases lives
      exact ⟨same, rfl⟩
    case isFalse => exact (vacant pid' launch' lives).elim
  by_cases positive : 0 < outside.fork world.time
  · refine triple_bind ((forked positive).entering fun _ started => started.1.1) fun _ => ?_
    exact triple_pure fun _ sole => sole
  · intro s started
    exact absurd started.2 (by simp; omega)

theorem Sole.held {pid : Int} {launch : Launch} {world : World} (sole : Sole paths pid launch world)
    (status : Status) : Held paths pid launch { world with
      stateFile := .object { startedState launch pid with status := some status } } :=
  ⟨sole, _, rfl, rfl, rfl⟩

theorem unwritten (world : World) (broken : ¬FirstStateWritten outside world) :
    LawfulOnceWritten outside paths world := fun written => absurd written broken

-- The log only grows, so what was not written stays so.
theorem lasting_lawfulOnceWritten : Lasting (LawfulOnceWritten outside paths) :=
  fun outside' step world lawful written => lasting_lawful outside' step world
    (lawful fun time made listed => written time made (List.mem_cons_of_mem _ listed))

-- The first state is written before anything else can fail.
theorem triple_firstState (pid : Int) (launch : Launch) :
    Triple (Sole paths pid launch) (atomicWriteJson outside (startedState launch pid) .starting)
      (fun _ => Held paths pid launch) (LawfulOnceWritten outside paths) := by
  have lasting := lasting_sole paths pid launch
  have lawful (world : World) (held : Held paths pid launch world) :
      LawfulOnceWritten outside paths world := fun _ => held.lawful
  refine triple_ensure ?_
    (fun _ => (triple_act _ (lasting_held paths pid launch)).raising lawful)
    (triple_act _ lasting_lawfulOnceWritten)
  refine triple_bind ((triple_act_first lasting (by decide)).raising unwritten) fun _ => ?_
  refine triple_bind ((triple_act_first lasting (by decide)).raising unwritten) fun _ => ?_
  exact triple_modify fun _ sole => sole.held .starting

theorem triple_runningState (pid : Int) (launch : Launch) :
    Keeps (Held paths pid launch) (atomicWriteJson outside (startedState launch pid) .running) := by
  have lasting := lasting_held paths pid launch
  refine triple_ensure ?_ (fun _ => triple_act (.discard .running) lasting)
    (triple_act (.discard .running) lasting)
  refine triple_bind (triple_act (.write .running) lasting) fun _ => ?_
  refine triple_bind (triple_act (.replace .running) lasting) fun _ => ?_
  exact triple_modify fun _ held => held.1.held .running

theorem triple_stillRuns {pid : Int} {launch : Launch} :
    Triple (Held paths pid launch) (stillRuns outside launch pid)
      (fun runs world => Held paths pid launch world ∧ (runs = false → Vacant world))
      (Held paths pid launch) := by
  refine triple_bind (triple_act .poll (lasting_held paths pid launch)) fun _ =>
    triple_get_bind fun world => triple_pure ?_
  rintro s ⟨held, rfl⟩
  exact ⟨held, fun ended => held.1.vacant (of_decide_eq_false ended)⟩

theorem triple_awaitReady {pid : Int} {launch : Launch} (rounds : Nat) :
    Keeps (Held paths pid launch) (awaitReady outside launch pid (startedState launch pid) rounds) := by
  have lasting := lasting_held paths pid launch
  have validated : Keeps (Held paths pid launch) (validateReadyReceipt outside launch pid) := by
    refine triple_bind (triple_act .readReceipt lasting) fun _ => triple_get_bind fun world => ?_
    cases outside.receipt world.time <;> exact triple_pure fun _ started => started.1
  induction rounds with
  | zero => exact triple_throw fun _ held => held
  | succ rounds ih =>
      refine triple_bind validated fun ready => ?_
      cases ready
      · refine triple_bind triple_stillRuns fun runs => triple_get_bind fun world => ?_
        refine triple_bind (triple_raiseIf fun _ started => started.1.1) fun _ => ?_
        refine Triple.entering ?_ fun _ started => started.1.1.1
        exact triple_bind (triple_act .sleep lasting) fun _ => ih
      · refine triple_bind (triple_runningState pid launch) fun _ => ?_
        exact triple_bind (triple_act .print lasting) fun _ => triple_pure fun _ held => held

theorem triple_processWait {pid : Int} {launch : Launch} :
    Triple (Held paths pid launch) (processWait outside launch pid) (fun _ => Vacant)
      (Held paths pid launch) := by
  refine triple_bind (triple_act .wait (lasting_held paths pid launch)) fun _ =>
    triple_get_bind fun world => ?_
  refine (triple_raiseIf fun _ started => started.1).leaving ?_
  rintro _ s ⟨⟨held, rfl⟩, ended⟩
  exact held.1.vacant ended

theorem triple_processKill {pid : Int} {launch : Launch} :
    Keeps (Held paths pid launch) (processKill outside launch pid) := by
  refine triple_bind (triple_act .kill (lasting_held paths pid launch)) fun _ => triple_modify ?_
  refine fun s held => ⟨⟨held.1.1, fun pid' launch' lives => held.1.2 pid' launch' ?_⟩, held.2⟩
  simp only at lives
  split at lives
  · cases lives
  · exact lives

-- The error handler forgets the server only once it has ended.
theorem triple_abandon {pid : Int} {launch : Launch} (state : State) :
    Triple (Held paths pid launch) (abandon outside launch pid state) (fun _ => Lawful paths)
      (Lawful paths) := by
  have ended : Triple (Held paths pid launch) (endChild outside launch pid) (fun _ => Vacant)
      (Held paths pid launch) := by
    refine triple_bind triple_stillRuns fun runs => ?_
    cases runs
    · exact triple_pure fun _ polled => polled.2 rfl
    refine Triple.entering ?_ fun _ polled => polled.1
    refine triple_bind (triple_act .terminate (lasting_held paths pid launch)) fun _ => ?_
    refine triple_tryCatch triple_processWait fun error => ?_
    split
    · exact triple_bind triple_processKill fun _ => triple_processWait
    · exact triple_throw fun _ held => held
  refine triple_bind (ended.raising fun _ held => held.lawful) fun _ => ?_
  exact ((triple_cleanupState state).leaving fun _ _ vacant => vacant.lawful).raising
    fun _ vacant => vacant.lawful

theorem triple_launchServer (arguments : Arguments) :
    Triple Vacant (launchServer outside paths arguments) (fun _ => Lawful paths)
      (LawfulOnceWritten outside paths) := by
  refine triple_get_bind fun world => Triple.entering ?_ fun _ started => started.1
  have own : (Launch.mk paths arguments (tokenHex (outside.random world.time))).paths = paths ∧
      (Launch.mk paths arguments (tokenHex (outside.random world.time))).instanceId ≠ "" :=
    ⟨rfl, tokenHex_nonempty _⟩
  generalize Launch.mk paths arguments (tokenHex (outside.random world.time)) = launch at own ⊢
  refine triple_bind ((triple_act .openLog lasting_vacant).raising
    fun _ vacant _ => vacant.lawful) fun _ => ?_
  have launched : Triple Vacant (tryCatch (popen outside launch) fun error => do
      act outside (.closeLog false)
      throw error) (fun pid => Sole paths pid launch) (LawfulOnceWritten outside paths) :=
    (triple_tryCatch (triple_popen own) fun _ =>
      triple_bind (triple_act _ lasting_vacant) fun _ => triple_throw fun _ vacant => vacant).raising
        fun _ vacant _ => vacant.lawful
  refine triple_bind launched fun pid => ?_
  refine triple_bind ((triple_act_first (lasting_sole paths pid launch) (by decide)).raising
    unwritten) fun _ => ?_
  refine triple_bind (triple_firstState pid launch) fun _ => ?_
  have readied : Triple (Held paths pid launch)
      (do awaitReady outside launch pid (startedState launch pid) (outside.rounds (← Op.get).time))
      (fun _ => Lawful paths) (Held paths pid launch) :=
    triple_get_bind fun _ => ((triple_awaitReady _).entering fun _ started => started.1).leaving
      fun _ _ held => held.lawful
  have abandoned (error : Error) : Triple (Held paths pid launch)
      (do
        abandon outside launch pid (startedState launch pid)
        throw error : Service Nat) (fun _ => Lawful paths) (Lawful paths) :=
    triple_bind (triple_abandon _) fun _ => triple_throw fun _ lawful => lawful
  exact (triple_tryCatch readied abandoned).raising fun _ lawful _ => lawful

theorem triple_alreadyRunning (arguments : Arguments) (existing : State) :
    Keeps (Lawful paths) (alreadyRunning outside arguments existing) := by
  unfold alreadyRunning
  cases existing.host with
  | none => exact triple_throw fun _ lawful => lawful
  | some host =>
      cases existing.port with
      | none => exact triple_throw fun _ lawful => lawful
      | some port =>
          refine triple_bind (triple_raiseIf fun _ lawful => lawful) fun _ => ?_
          refine Triple.entering ?_ fun _ started => started.1
          exact triple_bind (triple_act .print lasting_lawful) fun _ =>
            triple_pure fun _ lawful => lawful

theorem triple_startReplay (arguments : Arguments) :
    Triple (Lawful paths) (startReplay outside paths arguments) (fun _ => Lawful paths)
      (LawfulOnceWritten outside paths) := by
  have lawful (world : World) (lawful : Lawful paths world) :
      LawfulOnceWritten outside paths world := fun _ => lawful
  refine triple_bind ((triple_act .resolve lasting_lawful).raising lawful) fun _ => ?_
  refine triple_bind (triple_raiseIf lawful) fun _ => ?_
  refine triple_bind (triple_raiseIf fun _ started => lawful _ started.1) fun _ => ?_
  refine Triple.entering ?_ fun _ started => started.1.1
  refine triple_bind ((triple_act .makeDirectories lasting_lawful).raising lawful) fun _ =>
    triple_stateLock lasting_lawfulOnceWritten lawful ?_
  refine triple_bind (triple_loadState.raising lawful) fun found => ?_
  cases found with
  | none => exact triple_launchServer arguments
  | some existing =>
      refine triple_bind ((triple_ownedReplayPid existing).raising lawful) fun answer => ?_
      cases answer with
      | some pid =>
          exact ((triple_alreadyRunning arguments existing).entering
            fun _ answered => answered.1.1).raising lawful
      | none =>
          refine Triple.entering ?_ fun _ answered => answered.2
          refine triple_bind ((triple_cleanupState existing).raising
            fun _ vacant _ => vacant.lawful) fun _ => ?_
          exact triple_launchServer arguments

theorem triple_invoke (invocation : Invocation) :
    Triple (Lawful paths) (invoke outside paths invocation)
      (fun _ => LawfulOnceWritten outside paths) (LawfulOnceWritten outside paths) := by
  cases invocation with
  | start arguments => exact (triple_startReplay arguments).leaving fun _ _ lawful _ => lawful
  | stop =>
      exact triple_stopReplay.weaken (fun _ started => started) (fun _ _ lawful _ => lawful)
        fun _ lawful _ => lawful

theorem invokeAll_lawful {invocations : List Invocation} {world : World}
    (lawful : Lawful paths world)
    (written : ∀ made, made <+: invocations →
      FirstStateWritten outside (invokeAll outside paths made world)) :
    Lawful paths (invokeAll outside paths invocations world) := by
  induction invocations generalizing world with
  | nil => exact lawful
  | cons invocation invocations ih =>
      have first : FirstStateWritten outside (invoke outside paths invocation world).2 :=
        written [invocation] (List.prefix_cons_iff.mpr (.inr ⟨[], rfl, List.nil_prefix⟩))
      refine ih ((triple_invoke invocation).final lawful first) fun made front => ?_
      exact written (invocation :: made) (List.prefix_cons_inj invocation |>.mpr front)

end Steps

-- Nothing fails and nothing ends on its own.
structure Calm (outside : Outside) : Prop where
  raises : ∀ time step, outside.raises time step = false
  dies : ∀ time pid, outside.dies time pid = false

def Findable (paths : Paths) (world : World) : Prop :=
  ∀ pid launch, world.processes pid = some (.server launch) →
    ∃ state, world.stateFile = .object state ∧
      ∀ outside, Calm outside → (ownedReplayPid outside paths state world).1 = .ok (some pid)

theorem act_calm {outside : Outside} (calm : Calm outside) (step : Step) (world : World) :
    act outside step world = (.ok (), outside.pass step world) :=
  raiseIf_neg (by simp [calm.raises]) _ (outside.pass step world)

theorem pass_calm {outside : Outside} (calm : Calm outside) (step : Step) {world : World}
    {pid : Int} {process : Process} (lives : world.processes pid = some process) :
    (outside.pass step world).processes pid = some process := by
  simp [Outside.pass, lives, calm.dies]

theorem isServerCommand_launch {launch : Launch} (identified : launch.instanceId ≠ "") :
    isServerCommand launch.paths.serverScript launch.instanceId
      (launch.command.filter (· ≠ "")) = true := by
  have script : launch.paths.serverScript ≠ "" := by simp [Paths.serverScript]
  have shown {word : String} (nonempty : word ≠ "") (member : word ∈ launch.command) :
      word ∈ launch.command.filter (· ≠ "") := List.mem_filter.mpr ⟨member, by simpa using nonempty⟩
  have first := shown (by decide) (show "-u" ∈ launch.command by simp [Launch.command])
  have second := shown (by decide) (show "--dir" ∈ launch.command by simp [Launch.command])
  unfold isServerCommand
  split
  case h_1 line single =>
    simp only [single, List.mem_singleton] at first second
    exact absurd (first.trans second.symm) (by decide)
  case h_2 =>
    simp only [Bool.and_eq_true, List.contains_iff_mem]
    exact ⟨shown script (by simp [Launch.command]), shown identified (by simp [Launch.command])⟩

theorem Lawful.findable {paths : Paths} {world : World} (lawful : Lawful paths world) :
    Findable paths world := by
  intro pid launch lives
  obtain ⟨⟨positive, rfl, identified⟩, state, file, named, instanceId⟩ := lawful pid launch lives
  refine ⟨state, file, fun outside calm => ?_⟩
  have inspected := pass_calm calm .inspect lives
  have read := pass_calm calm .readCommand inspected
  have live : processIsLive outside pid world = (.ok true, outside.pass .inspect world) := by
    unfold processIsLive
    rw [if_neg (by omega), bind_ok (act_calm calm .inspect world), get_bind, inspected]
    rfl
  have shown : processCommand outside pid (outside.pass .inspect world) =
      (.ok (launch.command.filter (· ≠ "")),
        outside.pass .readCommand (outside.pass .inspect world)) := by
    unfold processCommand
    rw [bind_ok (act_calm calm .readCommand _), get_bind]
    simp only [read]
    rfl
  unfold ownedReplayPid
  rw [named, instanceId]
  simp only
  rw [bind_ok (raiseIf_neg (by simp [identified]; omega) _ world), bind_ok live]
  simp only [Bool.not_true, Bool.false_eq_true, if_false]
  rw [bind_ok shown, if_neg (by simp [Launch.command]),
    bind_ok (raiseIf_neg (by rw [isServerCommand_launch identified]; decide) _ _)]
  rfl

end ReplayService

open ReplayService

/-- Whatever fails, as long as a start that has launched a server writes its first state: whenever
the lock is free the server that lives is the one service.json names, and a stop finds it. -/
theorem no_orphaned_server (outside : Outside) (paths : Paths)
    (invocations : List Invocation) (world : World) (vacant : Vacant world)
    (written : ∀ made, made <+: invocations →
      FirstStateWritten outside (invokeAll outside paths made world)) :
    let world' := invokeAll outside paths invocations world
    (∀ pid launch, world'.processes pid = some (.server launch) →
      Named pid launch.instanceId world') ∧
    AtMostOne world' ∧ Findable paths world' := by
  intro world'
  have lawful : Lawful paths world' := invokeAll_lawful vacant.lawful written
  exact ⟨fun pid launch lives => (lawful pid launch lives).2, lawful.atMostOne, lawful.findable⟩

-- An outside that gives every fork a pid of its own; only the steps of `raised` fail.
def plainOutside (raised : Step → Bool) : Outside where
  raises _ step := raised step
  dies _ _ := false
  born _ _ := none
  exitCode _ := 0
  fork time := 4000 + time
  random time digit := ⟨(time + digit.val) % 16, by omega⟩
  receipt _ := none
  rounds _ := 2

def samplePaths : Paths where
  executable := "/usr/bin/python3"
  repoDir := "/srv/maze-client"
  stateDir := "/tmp/maze-client-replay"
  logFile := "/srv/maze-client/log/replay-server.log"

def sampleArguments : Arguments where
  configPath := "/srv/maze-client/configs/client_config.yaml"
  replayDir := "/srv/maze-client/replay"
  replayPort := 8080
  host := "0.0.0.0"
  validationId := "local-validation"

def emptyWorld : World where
  stateFile := .absent
  processes _ := none
  time := 0

theorem no_orphaned_server_unready :
    let world' := invokeAll (plainOutside fun step => decide (step = .terminate)) samplePaths
      [.start sampleArguments, .stop] emptyWorld
    (∀ pid launch, world'.processes pid = some (.server launch) →
      Named pid launch.instanceId world') ∧
    AtMostOne world' ∧ Findable samplePaths world' :=
  no_orphaned_server _ samplePaths _ emptyWorld nofun fun _ _ _ _ _ first =>
    decide_eq_false (ne_of_mem_of_not_mem first (by decide))

def orphan : Launch where
  paths := samplePaths
  arguments := sampleArguments
  instanceId := "456789abcdef0123456789abcdef0123"

theorem server_orphaned : ¬ ∀ (outside : Outside) (paths : Paths) (invocations : List Invocation)
    (world : World), Vacant world → ∀ pid launch,
      (invokeAll outside paths invocations world).processes pid = some (.server launch) →
      Named pid launch.instanceId (invokeAll outside paths invocations world) := by
  intro always
  have left : (invokeAll (plainOutside fun step => decide (step = .write .starting)) samplePaths
      [.start sampleArguments] emptyWorld).processes 4006 = some (.server orphan) := by
    decide +kernel
  have absent : (invokeAll (plainOutside fun step => decide (step = .write .starting)) samplePaths
      [.start sampleArguments] emptyWorld).stateFile = .absent := by
    decide +kernel
  obtain ⟨state, file, -⟩ := always _ _ _ emptyWorld nofun 4006 orphan left
  cases absent.symm.trans file

end MazeClient
