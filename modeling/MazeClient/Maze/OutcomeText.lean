import MazeClient.Maze.Adapter
import Mathlib.Data.List.Nodup
import Mathlib.Data.List.Range

set_option autoImplicit false

namespace List

theorem length_nodup_lt_iff {ids : List Nat} {count : Nat} :
    (ids.length = count ∧ ids.Nodup ∧ ∀ id ∈ ids, id < count) ↔
      (∀ id, id < count → ids.count id = 1) ∧ ∀ id ∈ ids, id < count := by
  constructor
  · intro ⟨length, distinct, below⟩
    have subset : ids ⊆ List.range count := fun id member => List.mem_range.mpr (below id member)
    have perm : ids.Perm (List.range count) :=
      (List.subperm_of_subset distinct subset).perm_of_length_le (by simp [length])
    refine ⟨fun id small => ?_, below⟩
    rw [perm.count_eq]
    exact List.count_eq_one_of_mem List.nodup_range (List.mem_range.mpr small)
  · intro ⟨once, below⟩
    have perm : ids.Perm (List.range count) := by
      rw [List.perm_iff_count]
      intro id
      by_cases small : id < count
      · rw [once id small,
          List.count_eq_one_of_mem List.nodup_range (List.mem_range.mpr small)]
      · rw [List.count_eq_zero.mpr fun member => small (below id member),
          List.count_eq_zero.mpr fun member => small (List.mem_range.mp member)]
    exact ⟨perm.length_eq.trans List.length_range, perm.nodup_iff.mpr List.nodup_range, below⟩

end List

namespace MazeClient

open Wire

def outcomeStateName : MazeTerminationReason → String
  | .goalReached => "goal_reached"
  | .timeLimit => "time_limit"
  | .clientAbort => "client_abort"
  | .chainFailure => "chain_failure"
  | .active => "active"
  | _ => "unspecified"

structure OutcomeReport where
  answer : Bool
  rendered : String
  error : String
  deriving DecidableEq

section

variable (floatText : Binary32 → String)

-- `floatText` stands for operator<< of a stream on a float.
def agentOutcomeText (agent : AgentEpisodeOutcome) : String :=
  let position := agent.finalPosition.getD {}
  "agent_id=" ++ toString agent.agentId ++
    " state=" ++ outcomeStateName agent.terminationReason ++
    " terminal_frame_id=" ++ toString agent.terminalFrameId ++
    " final=(" ++ floatText position.x ++ "," ++ floatText position.y ++ ")" ++
    match agent.goalRankGroup with
    | some group => " goal_rank_group=" ++ toString group
    | none => ""

def sortByAgentId (agents : List AgentEpisodeOutcome) : List AgentEpisodeOutcome :=
  agents.mergeSort fun left right => left.agentId ≤ right.agentId

def outcomeText (episodeId : String) (agents : List AgentEpisodeOutcome) : String :=
  "episode=" ++ episodeId ++ " agents=[" ++
    String.intercalate " | " ((sortByAgentId agents).map (agentOutcomeText floatText)) ++ "]"

def reportEpisodeOutcome (response : EndEpisodeRsp) (episodeId : String)
    (expectedAgentCount : Nat) (rendered : String) : OutcomeReport :=
  let identified := response.outcome.any fun outcome =>
    outcome.episodeId = episodeId && outcome.agents.length = expectedAgentCount
  let agents := (response.outcome.getD {}).agents
  if !identified then
    ⟨false, rendered, "EndEpisode outcome identity or Agent count is invalid"⟩
  else if !outcomeAgentsValid expectedAgentCount agents [] then
    ⟨false, rendered, "EndEpisode outcome contains an invalid Agent result"⟩
  else ⟨true, outcomeText floatText episodeId agents, ""⟩

theorem reportEpisodeOutcome_answer (response : EndEpisodeRsp) (episodeId : String)
    (expectedAgentCount : Nat) (rendered : String) :
    (reportEpisodeOutcome floatText response episodeId expectedAgentCount rendered).answer =
      renderEpisodeOutcome response episodeId expectedAgentCount := by
  simp only [reportEpisodeOutcome, renderEpisodeOutcome]
  cases response.outcome with
  | none => rfl
  | some outcome =>
    simp only [Option.any_some, Option.getD_some]
    generalize (decide (outcome.episodeId = episodeId) &&
      decide (outcome.agents.length = expectedAgentCount)) = identified
    cases identified with
    | false => rfl
    | true => cases outcomeAgentsValid expectedAgentCount outcome.agents [] <;> rfl

end

structure SettledOutcome (agent : AgentEpisodeOutcome) : Prop where
  position : agent.finalPosition.isSome
  specified : agent.terminationReason ≠ .unspecified
  inactive : agent.terminationReason ≠ .active
  ranked : agent.goalRankGroup.isSome ↔ agent.terminationReason = .goalReached

structure CompleteOutcome (outcome : EpisodeOutcome) (episodeId : String)
    (agentCount : Nat) : Prop where
  episode : outcome.episodeId = episodeId
  once : ∀ agentId, agentId < agentCount →
    (outcome.agents.map AgentEpisodeOutcome.agentId).count agentId = 1
  others : ∀ agent ∈ outcome.agents, agent.agentId < agentCount
  settled : ∀ agent ∈ outcome.agents, SettledOutcome agent

section

variable {expectedAgentCount : Nat}

theorem settledOutcome_iff (agent : AgentEpisodeOutcome) :
    SettledOutcome agent ↔ ¬ (agent.finalPosition.isNone ∨ agent.terminationReason = .unspecified ∨
      agent.terminationReason = .active ∨
      (agent.terminationReason = .goalReached) ≠ agent.goalRankGroup.isSome) := by
  simp only [not_or, ne_eq, not_not, Option.isNone_iff_eq_none, eq_iff_iff]
  rw [← ne_eq, ← Option.isSome_iff_ne_none]
  constructor
  · intro ⟨position, specified, inactive, ranked⟩
    exact ⟨position, specified, inactive, ranked.symm⟩
  · intro ⟨position, specified, inactive, ranked⟩
    exact ⟨position, specified, inactive, ranked.symm⟩

theorem outcomeAgentsValid_iff (agents : List AgentEpisodeOutcome) (seen : List Nat) :
    outcomeAgentsValid expectedAgentCount agents seen = true ↔
      (agents.map AgentEpisodeOutcome.agentId).Nodup ∧
        (∀ agent ∈ agents, agent.agentId ∉ seen) ∧
        (∀ agent ∈ agents, agent.agentId < expectedAgentCount) ∧
        ∀ agent ∈ agents, SettledOutcome agent := by
  induction agents generalizing seen with
  | nil => simp [outcomeAgentsValid]
  | cons agent rest ih =>
    have settled := settledOutcome_iff agent
    simp only [outcomeAgentsValid]
    split
    case isTrue refused =>
      simp only [Bool.false_eq_true, false_iff]
      intro ⟨_, fresh, below, each⟩
      have head : agent ∈ agent :: rest := List.mem_cons_self
      rcases refused with big | repeated | wrong
      · exact absurd (below agent head) (by omega)
      · exact fresh agent head repeated
      · exact settled.mp (each agent head) wrong
    case isFalse passed =>
      simp only [not_or] at passed settled
      rw [ih]
      simp only [List.map_cons, List.nodup_cons, List.forall_mem_cons]
      simp only [List.mem_cons, not_or, List.mem_map, not_exists, not_and]
      constructor
      · intro ⟨distinct, fresh, below, each⟩
        exact ⟨⟨fun other member => (fresh other member).1, distinct⟩,
          ⟨passed.2.1, fun other member => (fresh other member).2⟩,
          ⟨by omega, below⟩, settled.mpr passed.2.2, each⟩
      · intro ⟨⟨apart, distinct⟩, ⟨_, fresh⟩, ⟨_, below⟩, _, each⟩
        exact ⟨distinct, fun other member => ⟨apart other member, fresh other member⟩, below, each⟩

theorem outcomeAgentsValid_perm {agents agents' : List AgentEpisodeOutcome}
    (perm : agents.Perm agents') : outcomeAgentsValid expectedAgentCount agents [] =
      outcomeAgentsValid expectedAgentCount agents' [] := by
  have ids := perm.map AgentEpisodeOutcome.agentId
  rw [Bool.eq_iff_iff, outcomeAgentsValid_iff, outcomeAgentsValid_iff, ids.nodup_iff]
  simp only [perm.mem_iff]

theorem renderEpisodeOutcome_iff (response : EndEpisodeRsp) (episodeId : String) :
    renderEpisodeOutcome response episodeId expectedAgentCount = true ↔
      ∃ outcome, response.outcome = some outcome ∧
        CompleteOutcome outcome episodeId expectedAgentCount := by
  simp only [renderEpisodeOutcome]
  cases response.outcome with
  | none => simp
  | some outcome =>
    have counted := @List.length_nodup_lt_iff
      (outcome.agents.map AgentEpisodeOutcome.agentId) expectedAgentCount
    simp only [List.length_map, List.forall_mem_map] at counted
    simp only [Bool.and_eq_true, decide_eq_true_eq, outcomeAgentsValid_iff, Option.some.injEq,
      exists_eq_left']
    constructor
    · intro ⟨⟨episode, length⟩, distinct, _, below, settled⟩
      obtain ⟨once, others⟩ := counted.mp ⟨length, distinct, below⟩
      exact ⟨episode, once, others, settled⟩
    · intro ⟨episode, once, others, settled⟩
      obtain ⟨length, distinct, below⟩ := counted.mpr ⟨once, others⟩
      exact ⟨⟨episode, length⟩, distinct, fun _ _ => List.not_mem_nil, below, settled⟩

theorem sortByAgentId_perm {agents agents' : List AgentEpisodeOutcome} (perm : agents.Perm agents')
    (distinct : (agents.map AgentEpisodeOutcome.agentId).Nodup) :
    sortByAgentId agents = sortByAgentId agents' := by
  have sorted (entries : List AgentEpisodeOutcome) :
      (sortByAgentId entries).Pairwise fun left right => left.agentId ≤ right.agentId := by
    have transitive (first second third : AgentEpisodeOutcome) :
        decide (first.agentId ≤ second.agentId) → decide (second.agentId ≤ third.agentId) →
          decide (first.agentId ≤ third.agentId) := by
      simp only [decide_eq_true_eq]
      exact Nat.le_trans
    have total (first second : AgentEpisodeOutcome) :
        (decide (first.agentId ≤ second.agentId) || decide (second.agentId ≤ first.agentId)) := by
      simp only [Bool.or_eq_true, decide_eq_true_eq]
      exact Nat.le_total ..
    exact (List.pairwise_mergeSort transitive total entries).imp of_decide_eq_true
  have same : (sortByAgentId agents).Perm (sortByAgentId agents') :=
    (agents.mergeSort_perm _).trans (perm.trans (agents'.mergeSort_perm _).symm)
  refine same.eq_of_pairwise (fun left right member member' ascending descending => ?_)
    (sorted agents) (sorted agents')
  exact List.inj_on_of_nodup_map distinct (List.mem_mergeSort.mp member)
    (perm.mem_iff.mpr (List.mem_mergeSort.mp member')) (Nat.le_antisymm ascending descending)

theorem reportEpisodeOutcome_perm (floatText : Binary32 → String) {response : EndEpisodeRsp}
    {outcome : EpisodeOutcome} (present : response.outcome = some outcome)
    {agents : List AgentEpisodeOutcome} (perm : outcome.agents.Perm agents) (episodeId : String)
    (rendered : String) :
    reportEpisodeOutcome floatText response episodeId expectedAgentCount rendered =
      reportEpisodeOutcome floatText
        { response with outcome := some { outcome with agents } } episodeId expectedAgentCount
        rendered := by
  simp only [reportEpisodeOutcome, present, Option.any_some, Option.getD_some, perm.length_eq,
    outcomeAgentsValid_perm perm]
  congr 1
  split
  · rfl
  · next valid =>
    have valid : outcomeAgentsValid expectedAgentCount outcome.agents [] = true := by
      rw [outcomeAgentsValid_perm perm]
      simpa using valid
    rw [outcomeText, outcomeText,
      sortByAgentId_perm perm ((outcomeAgentsValid_iff _ _).mp valid).1]

end

/-- RenderEpisodeOutcome accepts the complete outcomes of its episode and no others, and what it
decides and renders does not depend on the order of the entries. -/
theorem episode_outcome_complete_iff (floatText : Binary32 → String) (response : EndEpisodeRsp)
    (episodeId : String) (agentCount : Nat) (rendered : String) :
    ((reportEpisodeOutcome floatText response episodeId agentCount rendered).answer = true ↔
      ∃ outcome, response.outcome = some outcome ∧
        CompleteOutcome outcome episodeId agentCount) ∧
    ∀ outcome agents, response.outcome = some outcome → outcome.agents.Perm agents →
      reportEpisodeOutcome floatText response episodeId agentCount rendered =
        reportEpisodeOutcome floatText
          { response with outcome := some { outcome with agents } } episodeId agentCount
          rendered := by
  constructor
  · rw [reportEpisodeOutcome_answer]
    exact renderEpisodeOutcome_iff response episodeId
  · intro outcome agents present perm
    exact reportEpisodeOutcome_perm floatText present perm episodeId rendered

def goalOutcome (agentId : Nat) : AgentEpisodeOutcome where
  agentId := agentId
  terminationReason := .goalReached
  terminalFrameId := 3
  finalPosition := some {}
  goalRankGroup := some 1

def pairOutcome (agents : List AgentEpisodeOutcome) : EndEpisodeRsp :=
  { outcome := some { episodeId := "e1", agents } }

theorem episode_outcome_complete_pair :
    (reportEpisodeOutcome (fun _ => "0") (pairOutcome [goalOutcome 1, goalOutcome 0]) "e1" 2
      "").answer = true ∧
    reportEpisodeOutcome (fun _ => "0") (pairOutcome [goalOutcome 1, goalOutcome 0]) "e1" 2 "" =
      reportEpisodeOutcome (fun _ => "0") (pairOutcome [goalOutcome 0, goalOutcome 1]) "e1" 2
        "" := by
  obtain ⟨accepted, ordered⟩ := episode_outcome_complete_iff (fun _ => "0")
    (pairOutcome [goalOutcome 1, goalOutcome 0]) "e1" 2 ""
  constructor
  · refine accepted.mpr ⟨_, rfl, rfl, by decide, by decide, fun agent member => ?_⟩
    simp only [List.mem_cons, List.not_mem_nil, or_false] at member
    rcases member with rfl | rfl <;> exact ⟨by decide, by decide, by decide, by decide⟩
  · exact ordered _ _ rfl (List.Perm.swap ..)

end MazeClient
