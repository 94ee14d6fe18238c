import MazeClient.Maze.ExactlyOnce
import MazeClient.Maze.FrameReading
import MazeClient.Maze.Taping
import Mathlib.Data.Nat.ModEq

set_option autoImplicit false

namespace MazeClient

section

variable {α : Type}

theorem filter_multiples {f : α → Nat} {n : Nat} {items : List α}
    (numbered : ∀ k item, items[k]? = some item → f item = k + 1) :
    (items.filter fun item => f item % n = 0).length = items.length / n ∧
      ∀ j item, (items.filter fun item => f item % n = 0)[j]? = some item →
        f item = (j + 1) * n := by
  induction items using List.reverseRecOn with
  | nil => simp
  | append_singleton items last ih =>
      obtain ⟨count, listed⟩ := ih fun k item found =>
        numbered k item (List.getElem?_append_left (List.getElem?_eq_some_iff.mp found).1 ▸ found)
      have newest : f last = items.length + 1 := numbered items.length last (by simp)
      rw [List.filter_append, List.length_append, List.length_append, List.length_singleton,
        Nat.succ_div, count]
      by_cases multiple : n ∣ items.length + 1
      · have kept : f last % n = 0 := newest ▸ Nat.mod_eq_zero_of_dvd multiple
        have single : [last].filter (fun item => f item % n = 0) = [last] := by simp [kept]
        rw [single, if_pos multiple]
        refine ⟨rfl, fun j item found => ?_⟩
        by_cases early : j < items.length / n
        · rw [List.getElem?_append_left (count ▸ early)] at found
          exact listed j item found
        · rw [List.getElem?_append_right (by omega)] at found
          obtain ⟨here, same⟩ := List.getElem?_eq_some_iff.mp found
          rw [List.length_singleton] at here
          obtain rfl : j = items.length / n := by omega
          obtain rfl : last = item := by simpa using same
          have quotient : (items.length + 1) / n = items.length / n + 1 := by
            rw [Nat.succ_div, if_pos multiple]
          rw [newest, ← quotient, Nat.div_mul_cancel multiple]
      · have dropped : f last % n ≠ 0 := newest ▸ fun zero => multiple (Nat.dvd_of_mod_eq_zero zero)
        have none_ : [last].filter (fun item => f item % n = 0) = [] := by simp [dropped]
        rw [none_, if_neg multiple, List.append_nil]
        exact ⟨rfl, listed⟩

theorem filter_chain {p : α → Bool} {items : List α} (chain : items.IsChain fun item _ => p item) :
    items.filter p = items.take (items.countP p) := by
  induction items with
  | nil => rfl
  | cons item rest ih =>
      cases rest with
      | nil => cases kind : p item <;> simp [kind]
      | cons next others =>
          obtain ⟨kind, later⟩ := List.isChain_cons_cons.mp chain
          rw [List.filter_cons_of_pos kind, List.countP_cons_of_pos kind, List.take_succ_cons, ih later]

end

def Issue.leads (issue : Issue Adapter (.task .update)) : Bool :=
  issue.outcome = some .applied && !issue.task.environment.allDone

def Issue.isTaped (viz : RecorderConfig) (issue : Issue Adapter (.task .update)) : Bool :=
  issue.leads && issue.settled.environment.frameId % viz.interval = 0

def Issue.frame (issue : Issue Adapter (.task .update)) : JsonValue :=
  frameValue issue.settled.environment issue.settled.environment.frameId
    issue.settled.episodeNumber issue.settled.lastActions

namespace EpisodeRecord

variable (viz : RecorderConfig) (episode : EpisodeRecord)

def taped : List (Issue Adapter (.task .update)) := episode.updates.filter (Issue.isTaped viz)

def frames : List JsonValue := (episode.taped viz).map Issue.frame

def advanced : Nat := episode.updates.countP Issue.leads

theorem lines_eq : episode.lines viz =
    (episode.taped viz).map fun issue => Taped.frameLine issue.settled := by
  unfold lines taped
  induction episode.updates with
  | nil => rfl
  | cons issue later ih =>
      cases kind : issue.isTaped viz with
      | false =>
          have silent : issue.line viz = none := by
            unfold Issue.line
            rw [if_neg]
            intro ⟨applied, going, multiple⟩
            simp [Issue.isTaped, Issue.leads, applied, going, multiple] at kind
          rw [List.filterMap_cons_none silent, List.filter_cons_of_neg (by simp [kind]), ih]
      | true =>
          have line : issue.line viz = some (Taped.frameLine issue.settled) := by
            unfold Issue.line
            rw [if_pos]
            simpa [Issue.isTaped, Issue.leads, and_assoc] using kind
          rw [List.filterMap_cons_some line, List.filter_cons_of_pos kind, ih, List.map_cons]

end EpisodeRecord

def Continues (earlier later : Issue Adapter (.task .update)) : Prop :=
  earlier.leads = true ∧ later.task = earlier.settled

theorem Tracked.continues {commands : List (Command Adapter)} (tracked : Tracked commands) :
    (episodeUpdates commands).IsChain Continues ∧
      ∀ issue ∈ episodeUpdates commands, Made issue := by
  induction tracked with
  | nil => exact ⟨.nil, by simp [episodeUpdates]⟩
  | @other command earlier tracked named linked ih =>
      unfold episodeUpdates
      split
      case h_1 => exact ⟨.nil, by simp⟩
      case h_2 same =>
        cases same
        exact absurd rfl named
      case h_3 => exact ⟨.nil, by simp⟩
      case h_4 same =>
        cases same
        exact ih
  | @update issue earlier tracked launched ih =>
      have positioned := launched.positioned
      obtain ⟨chain, made⟩ := ih
      rw [episodeUpdates]
      refine ⟨?_, List.forall_mem_append.mpr ⟨made, by simpa using launched.toMade⟩⟩
      refine List.isChain_append.mpr ⟨chain, .singleton _, ?_⟩
      intro last newest next same
      obtain rfl : issue = next := Option.some.inj same
      unfold Positioned at positioned
      split at positioned
      case h_1 begun =>
        obtain ⟨older, rfl⟩ := List.head?_eq_some_iff.mp begun
        simp [episodeUpdates] at newest
      case h_2 before begun =>
        obtain ⟨older, rfl⟩ := List.head?_eq_some_iff.mp begun
        obtain rfl : before = last := by simpa [episodeUpdates] using newest
        obtain ⟨applied, going, task⟩ := positioned
        exact ⟨by simp [Issue.leads, applied, going], task⟩
      case h_3 => cases positioned

theorem Tracked.taped {commands : List (Command Adapter)} (tracked : Tracked commands)
    (viz : RecorderConfig) :
    ((episodeUpdates commands).filter (Issue.isTaped viz)).length =
        (episodeUpdates commands).countP Issue.leads / viz.interval ∧
      ∀ j issue, ((episodeUpdates commands).filter (Issue.isTaped viz))[j]? = some issue →
        issue.settled.environment.frameId = (j + 1) * viz.interval := by
  obtain ⟨chain, made⟩ := tracked.continues
  have frames := tracked.exactlyOnce.frames
  set updates := episodeUpdates commands
  have going := filter_chain (chain.imp fun _ _ continues => continues.1)
  have numbered : ∀ k issue, (updates.filter Issue.leads)[k]? = some issue →
      issue.settled.environment.frameId = k + 1 := by
    intro k issue found
    obtain ⟨member, leads⟩ := List.mem_filter.mp (List.mem_of_getElem? found)
    have made := made issue member
    simp only [Issue.leads, Bool.and_eq_true, decide_eq_true_eq, Bool.not_eq_true'] at leads
    rw [going, List.getElem?_take] at found
    split at found
    case isFalse => cases found
    have listed := congrArg (fun ids : List Nat => ids[k]?) frames
    obtain ⟨inside, -⟩ := List.getElem?_eq_some_iff.mp found
    simp only [List.getElem?_map, found, Option.map_some, List.getElem?_range inside] at listed
    rw [(made.nextFrame leads.1 leads.2).frame, ← made.frame, Option.some.inj listed]
  obtain ⟨count, each⟩ := @filter_multiples _ _ viz.interval _ numbered
  have same : updates.filter (Issue.isTaped viz) = (updates.filter Issue.leads).filter
      fun issue => issue.settled.environment.frameId % viz.interval = 0 := by
    rw [List.filter_filter]
    congr 1
    funext issue
    rw [Issue.isTaped, Bool.and_comm]
  rw [same]
  exact ⟨count.trans (by rw [List.countP_eq_length_filter]), each⟩

theorem Issue.settled_settings (issue : Issue Adapter (.task .update)) :
    issue.task.SameSettings issue.settled := by
  unfold Issue.settled
  split
  · have accepted : issue.task.SameSettings (issue.task.accepted issue.response) := ⟨rfl, rfl, rfl⟩
    exact accepted.trans (Adapter.applyActions_settings _)
  · exact .refl _

theorem frameValue_frameId (environment : MazeEnv) (frameId number : Nat)
    (actions : List Int) : (frameValue environment frameId number actions).member?
      "frame_id".toList = some (.number frameId) := rfl

theorem frameValue_episodeId (environment : MazeEnv) (frameId number : Nat)
    (actions : List Int) : (frameValue environment frameId number actions).member?
      "episode_id".toList = some (.number number) := rfl

theorem episodeRecords_updates (commands : List (Command Adapter)) :
    (∀ episode ∈ (episodeRecords commands).head?, episode.updates = episodeUpdates commands) ∧
      ∀ episode ∈ episodeRecords commands, ∃ older, older <:+ commands ∧
        episode.updates = episodeUpdates older := by
  have further {command : Command Adapter} {earlier : List (Command Adapter)}
      {episode : EpisodeRecord} (held : ∃ older, older <:+ earlier ∧
        episode.updates = episodeUpdates older) :
      ∃ older, older <:+ command :: earlier ∧ episode.updates = episodeUpdates older := by
    obtain ⟨older, part, same⟩ := held
    exact ⟨older, part.trans (List.suffix_cons _ _), same⟩
  induction commands with
  | nil => simp [episodeRecords]
  | cons command earlier ih =>
      obtain ⟨newest, all⟩ := ih
      obtain ⟨rpc, issue⟩ := command
      have other (same : episodeRecords (⟨rpc, issue⟩ :: earlier) = episodeRecords earlier)
          (quiet : episodeUpdates (⟨rpc, issue⟩ :: earlier) = episodeUpdates earlier) :
          (∀ episode ∈ (episodeRecords (⟨rpc, issue⟩ :: earlier)).head?,
              episode.updates = episodeUpdates (⟨rpc, issue⟩ :: earlier)) ∧
            ∀ episode ∈ episodeRecords (⟨rpc, issue⟩ :: earlier),
              ∃ older, older <:+ ⟨rpc, issue⟩ :: earlier ∧
                episode.updates = episodeUpdates older := by
        rw [same, quiet]
        exact ⟨newest, fun episode member => further (all episode member)⟩
      cases rpc with
      | openSession => exact other rfl rfl
      | task rpc =>
          cases rpc with
          | init => exact other rfl rfl
          | endEpisode => exact other rfl rfl
          | abortEpisode => exact other rfl rfl
          | closeSession => exact other rfl rfl
          | beginEpisode =>
              refine ⟨fun episode first => ?_, List.forall_mem_cons.mpr ⟨?_, fun episode member =>
                further (all episode member)⟩⟩
              · obtain rfl := Option.some.inj first
                rfl
              · exact ⟨_, List.suffix_refl _, rfl⟩
          | update =>
              rw [episodeRecords, episodeUpdates]
              cases records : episodeRecords earlier with
              | nil => simp [reportTo]
              | cons episode others =>
                  rw [records] at newest all
                  have updates := newest episode rfl
                  rw [reportTo]
                  refine ⟨fun report first => ?_, List.forall_mem_cons.mpr ⟨?_, fun report member =>
                    further (all report (List.mem_cons_of_mem _ member))⟩⟩
                  · obtain rfl := Option.some.inj first
                    exact congrArg (· ++ [issue]) updates
                  · exact ⟨_, List.suffix_refl _, congrArg (· ++ [issue]) updates⟩

end MazeClient
