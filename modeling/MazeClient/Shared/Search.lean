import Mathlib.Data.Finset.Card
import Mathlib.Logic.Function.Basic
import Mathlib.Logic.Relation

set_option autoImplicit false

namespace Search

variable {α : Type}

inductive Walk (edge : α → α → Prop) (start : α) : Nat → α → Prop
  | here : Walk edge start 0 start
  | step {steps : Nat} {a b : α} (walk : Walk edge start steps a) (next : edge a b) :
      Walk edge start (steps + 1) b

theorem Walk.of_reflTransGen {edge : α → α → Prop} {start goal : α}
    (path : Relation.ReflTransGen edge start goal) : ∃ steps, Walk edge start steps goal := by
  induction path with
  | refl => exact ⟨0, .here⟩
  | tail _ next ih =>
      obtain ⟨steps, walk⟩ := ih
      exact ⟨steps + 1, walk.step next⟩

/-- The answer a shortest-path search owes. -/
def Shortest (edge : α → α → Prop) (start goal : α) : Option Nat → Prop
  | some steps => Walk edge start steps goal ∧
      ∀ others, Walk edge start others goal → steps ≤ others
  | none => ∀ steps, ¬ Walk edge start steps goal

theorem Shortest.unique {edge : α → α → Prop} {start goal : α} {answer other : Option Nat}
    (first : Shortest edge start goal answer) (second : Shortest edge start goal other) :
    answer = other := by
  cases answer with
  | none =>
      cases other with
      | none => rfl
      | some steps => exact absurd second.1 (first steps)
  | some steps =>
      cases other with
      | none => exact absurd first.1 (second steps)
      | some others =>
          exact congrArg some (Nat.le_antisymm (first.2 others second.1) (second.2 steps first.1))

variable [DecidableEq α]

-- The queue of a breadth-first search, and the depth of every node it has seen.
structure Frontier (α : Type) where
  queue : List α
  distance : α → Option Nat

def discover (depth : Nat) (frontier : Frontier α) (neighbour : α) : Frontier α :=
  if (frontier.distance neighbour).isSome then frontier
  else
    { queue := frontier.queue ++ [neighbour]
      distance := Function.update frontier.distance neighbour (some (depth + 1)) }

def search (next : α → List α) (goal : α) : Nat → Frontier α → Option Nat
  | 0, _ => none
  | _ + 1, ⟨[], _⟩ => none
  | fuel + 1, ⟨current :: queue, distance⟩ =>
      if current = goal then distance current
      else search next goal fuel
        ((next current).foldl (discover ((distance current).getD 0)) ⟨queue, distance⟩)

def bfs (next : α → List α) (goal : α) (fuel : Nat) (start : α) : Option Nat :=
  search next goal fuel ⟨[start], Function.update (fun _ => none) start (some 0)⟩

-- What the neighbours of a node at `depth` add to the frontier.
structure Expanded (depth : Nat) (neighbours : List α) (before after : Frontier α)
    (fresh : List α) : Prop where
  queue : after.queue = before.queue ++ fresh
  distance : ∀ a, after.distance a = if a ∈ fresh then some (depth + 1) else before.distance a
  new : ∀ a ∈ fresh, a ∈ neighbours ∧ before.distance a = none
  distinct : fresh.Nodup
  seen : ∀ a ∈ neighbours, a ∈ fresh ∨ (before.distance a).isSome

theorem expanded (depth : Nat) (neighbours : List α) (before : Frontier α) :
    ∃ fresh, Expanded depth neighbours before (neighbours.foldl (discover depth) before) fresh := by
  induction neighbours generalizing before with
  | nil => exact ⟨[], by simp, by simp, by simp, by simp, by simp⟩
  | cons neighbour neighbours ih =>
      rw [List.foldl_cons]
      obtain ⟨fresh, rest⟩ := ih (discover depth before neighbour)
      by_cases known : (before.distance neighbour).isSome
      · have same : discover depth before neighbour = before := if_pos known
        rw [same] at rest ⊢
        refine ⟨fresh, rest.queue, rest.distance, fun a member => ?_, rest.distinct, ?_⟩
        · exact ⟨List.mem_cons_of_mem _ (rest.new a member).1, (rest.new a member).2⟩
        · exact List.forall_mem_cons.mpr ⟨.inr known, rest.seen⟩
      · have made : discover depth before neighbour = _ := if_neg known
        rw [made] at rest ⊢
        have unseen : before.distance neighbour = none := by simpa using known
        have apart (a : α) (member : a ∈ fresh) : a ≠ neighbour := by
          rintro rfl
          simpa using (rest.new _ member).2
        refine ⟨neighbour :: fresh, ?_, fun a => ?_, ?_, ?_, ?_⟩
        · simpa using rest.queue
        · rw [rest.distance]
          by_cases same : a = neighbour
          · subst same
            simp
          · simp [same]
        · refine List.forall_mem_cons.mpr ⟨⟨by simp, unseen⟩, fun a member => ?_⟩
          have new := rest.new a member
          simp only [Function.update_of_ne (apart a member)] at new
          exact ⟨List.mem_cons_of_mem _ new.1, new.2⟩
        · exact List.nodup_cons.mpr ⟨fun member => apart _ member rfl, rest.distinct⟩
        · refine List.forall_mem_cons.mpr ⟨.inl (by simp), fun a member => ?_⟩
          rcases rest.seen a member with found | found
          · exact .inl (List.mem_cons_of_mem _ found)
          · by_cases same : a = neighbour
            · exact .inl (same ▸ by simp)
            · simp only [Function.update_of_ne same] at found
              exact .inr found

section Expansion

variable {depth : Nat} {neighbours fresh : List α} {before after : Frontier α} {a : α} {steps : Nat}

theorem Expanded.added (expanded : Expanded depth neighbours before after fresh)
    (member : a ∈ fresh) : after.distance a = some (depth + 1) := by
  rw [expanded.distance, if_pos member]

theorem Expanded.kept (expanded : Expanded depth neighbours before after fresh)
    (found : before.distance a = some steps) : after.distance a = some steps := by
  have missing : a ∉ fresh := by
    intro member
    have unseen := (expanded.new a member).2
    simp [found] at unseen
  rw [expanded.distance, if_neg missing]
  exact found

theorem Expanded.found_cases (expanded : Expanded depth neighbours before after fresh)
    (found : after.distance a = some steps) :
    (a ∈ fresh ∧ steps = depth + 1) ∨ before.distance a = some steps := by
  rw [expanded.distance] at found
  split at found
  case isTrue member => exact .inl ⟨member, (Option.some.inj found).symm⟩
  case isFalse => exact .inr found

end Expansion

def Frontier.depth (frontier : Frontier α) (a : α) : Nat := (frontier.distance a).getD 0

/-- The invariant of the search: depths are those of walks, the queue holds nodes of one depth
and then of the next, and every node out of the queue has all its neighbours seen. -/
structure Searching (next : α → List α) (start goal : α) (frontier : Frontier α) : Prop where
  origin : frontier.distance start = some 0
  walked : ∀ a depth, frontier.distance a = some depth → Walk (fun a b => b ∈ next a) start depth a
  queued : ∀ a ∈ frontier.queue, (frontier.distance a).isSome
  ordered : frontier.queue.Pairwise fun a b => frontier.depth a ≤ frontier.depth b
  banded : ∀ a ∈ frontier.queue.head?, ∀ b depth, frontier.distance b = some depth →
    depth ≤ frontier.depth a + 1
  closed : ∀ a depth, frontier.distance a = some depth → a ∉ frontier.queue → ∀ b ∈ next a,
    ∃ below, frontier.distance b = some below ∧ below ≤ depth + 1
  awaited : ∀ depth, frontier.distance goal = some depth → goal ∈ frontier.queue

theorem Searching.initial (next : α → List α) (start goal : α) :
    Searching next start goal ⟨[start], Function.update (fun _ => none) start (some 0)⟩ where
  origin := by simp
  walked a depth found := by
    by_cases same : a = start
    · subst same
      obtain rfl : 0 = depth := by simpa using found
      exact .here
    · simp [same] at found
  queued := by simp
  ordered := by simp
  banded a head b depth found := by
    by_cases same : b = start
    · subst same
      obtain rfl : 0 = depth := by simpa using found
      exact Nat.zero_le _
    · simp [same] at found
  closed a depth found apart := by
    have same : a ≠ start := by simpa using apart
    simp [same] at found
  awaited depth found := by
    by_contra apart
    have same : goal ≠ start := by simpa using apart
    simp [same] at found

theorem Searching.seen {next : α → List α} {start goal : α} {frontier : Frontier α}
    (searching : Searching next start goal frontier) {steps : Nat} {a : α}
    (walk : Walk (fun a b => b ∈ next a) start steps a) :
    (∃ depth, frontier.distance a = some depth ∧ depth ≤ steps) ∨
      ∃ b ∈ frontier.queue, frontier.depth b < steps := by
  induction walk with
  | here => exact .inl ⟨0, searching.origin, le_rfl⟩
  | @step steps a b walk edge ih =>
      rcases ih with ⟨depth, found, within⟩ | ⟨b, waiting, below⟩
      · by_cases waiting : a ∈ frontier.queue
        · exact .inr ⟨a, waiting, by simp [Frontier.depth, found]; omega⟩
        · obtain ⟨below, seen, bound⟩ := searching.closed a depth found waiting b edge
          exact .inl ⟨below, seen, by omega⟩
      · exact .inr ⟨b, waiting, by omega⟩

section Expand

variable {next : α → List α} {start goal current : α} {queue fresh : List α}
  {distance : α → Option Nat} {after : Frontier α} {depth : Nat}

omit [DecidableEq α] in
theorem Searching.head_band (searching : Searching next start goal ⟨current :: queue, distance⟩)
    (here : distance current = some depth) :
    (∀ a steps, distance a = some steps → steps ≤ depth + 1) ∧
      ∀ a ∈ queue, ∃ steps, distance a = some steps ∧ depth ≤ steps := by
  constructor
  · intro a steps found
    simpa [Frontier.depth, here] using searching.banded current rfl a steps found
  · intro a member
    obtain ⟨steps, (found : distance a = some steps)⟩ :=
      Option.isSome_iff_exists.mp (searching.queued a (List.mem_cons_of_mem _ member))
    have low := (List.pairwise_cons.mp searching.ordered).1 a member
    exact ⟨steps, found, by simpa [Frontier.depth, here, found] using low⟩

theorem Searching.expand (searching : Searching next start goal ⟨current :: queue, distance⟩)
    (apart : current ≠ goal)
    (expanded : Expanded ((distance current).getD 0) (next current) ⟨queue, distance⟩ after
      fresh) : Searching next start goal after := by
  obtain ⟨depth, (here : distance current = some depth)⟩ :=
    Option.isSome_iff_exists.mp (searching.queued current (by simp))
  rw [here, Option.getD_some] at expanded
  obtain ⟨high, older⟩ := searching.head_band here
  have oldDepth (a : α) (member : a ∈ queue) : after.depth a = (distance a).getD 0 := by
    obtain ⟨steps, found, -⟩ := older a member
    simp [Frontier.depth, expanded.kept found, found]
  have newDepth (a : α) (member : a ∈ fresh) : after.depth a = depth + 1 := by
    simp [Frontier.depth, expanded.added member]
  exact
    { origin := expanded.kept searching.origin
      walked := by
        intro a steps found
        rcases expanded.found_cases found with ⟨member, rfl⟩ | old
        · exact (searching.walked current depth here).step (expanded.new a member).1
        · exact searching.walked a steps old
      queued := by
        rw [expanded.queue]
        refine List.forall_mem_append.mpr ⟨fun a member => ?_, fun a member => ?_⟩
        · obtain ⟨steps, found, -⟩ := older a member
          simp [expanded.kept found]
        · simp [expanded.added member]
      ordered := by
        rw [expanded.queue, List.pairwise_append]
        refine ⟨?_, ?_, fun a old b new => ?_⟩
        · have ordered := (List.pairwise_cons.mp searching.ordered).2
          refine ordered.imp_of_mem fun {a b} first second => ?_
          rw [oldDepth a first, oldDepth b second]
          exact id
        · refine List.pairwise_of_forall_mem_list fun a first b second => ?_
          rw [newDepth a first, newDepth b second]
        · obtain ⟨steps, found, -⟩ := older a old
          simpa [newDepth b new, oldDepth a old, found] using high a steps found
      banded := by
        rw [expanded.queue]
        intro a head b steps found
        have low : depth ≤ after.depth a := by
          rcases List.mem_append.mp (List.mem_of_mem_head? head) with old | new
          · obtain ⟨steps, found, bound⟩ := older a old
            simpa [oldDepth a old, found] using bound
          · rw [newDepth a new]
            omega
        rcases expanded.found_cases found with ⟨-, rfl⟩ | old
        · omega
        · have bound := high b steps old
          omega
      closed := by
        intro a steps found out b edge
        rw [expanded.queue, List.mem_append, not_or] at out
        have old := (expanded.found_cases found).resolve_left fun new => out.2 new.1
        by_cases same : a = current
        · subst same
          obtain rfl : depth = steps := Option.some.inj (here.symm.trans old)
          rcases expanded.seen b edge with new | seen
          · exact ⟨_, expanded.added new, le_rfl⟩
          · obtain ⟨below, seen⟩ := Option.isSome_iff_exists.mp seen
            exact ⟨below, expanded.kept seen, high b below seen⟩
        · obtain ⟨below, seen, bound⟩ :=
            searching.closed a steps old (by simp [same, out.1]) b edge
          exact ⟨below, expanded.kept seen, bound⟩
      awaited := by
        intro steps found
        rw [expanded.queue, List.mem_append]
        rcases expanded.found_cases found with ⟨member, -⟩ | old
        · exact .inr member
        · have waiting := searching.awaited steps old
          exact .inl ((List.mem_cons.mp waiting).resolve_left (Ne.symm apart)) }

end Expand

-- Every turn of the search takes a node of the queue; every node enters it once.
def Frontier.work (nodes : Finset α) (frontier : Frontier α) : Nat :=
  frontier.queue.length + (nodes.filter fun a => frontier.distance a = none).card

theorem Expanded.work {depth : Nat} {neighbours : List α} {before after : Frontier α}
    {fresh : List α} {nodes : Finset α}
    (expanded : Expanded depth neighbours before after fresh)
    (inside : ∀ a ∈ neighbours, a ∈ nodes) : after.work nodes = before.work nodes := by
  have unseen : (nodes.filter fun a => before.distance a = none) =
      (nodes.filter fun a => after.distance a = none) ∪ fresh.toFinset := by
    ext a
    have new := expanded.new a
    simp only [Finset.mem_filter, Finset.mem_union, List.mem_toFinset, expanded.distance]
    by_cases member : a ∈ fresh
    · simp [member, new, inside]
    · simp [member]
  have apart : Disjoint (nodes.filter fun a => after.distance a = none) fresh.toFinset := by
    refine Finset.disjoint_left.mpr fun a old new => ?_
    simp [expanded.distance, List.mem_toFinset.mp new] at old
  rw [Frontier.work, Frontier.work, unseen, Finset.card_union_of_disjoint apart,
    List.toFinset_card_of_nodup expanded.distinct, expanded.queue, List.length_append]
  omega

inductive Turn (next : α → List α) (goal : α) : Frontier α → Frontier α → Prop
  | take {current : α} {queue : List α} {distance : α → Option Nat} (apart : current ≠ goal) :
      Turn next goal ⟨current :: queue, distance⟩
        ((next current).foldl (discover ((distance current).getD 0)) ⟨queue, distance⟩)

theorem Turn.within {next : α → List α} {goal : α} {nodes : Finset α} {before after : Frontier α}
    (turn : Turn next goal before after) (inside : ∀ a ∈ nodes, ∀ b ∈ next a, b ∈ nodes)
    (queued : ∀ a ∈ before.queue, a ∈ nodes) :
    (∀ a ∈ after.queue, a ∈ nodes) ∧ after.work nodes + 1 = before.work nodes := by
  cases turn with
  | @take current queue distance apart =>
      obtain ⟨fresh, made⟩ := expanded ((distance current).getD 0) (next current) ⟨queue, distance⟩
      have around : ∀ a ∈ next current, a ∈ nodes := inside current (queued current (by simp))
      constructor
      · rw [made.queue]
        refine List.forall_mem_append.mpr ⟨fun a member => ?_, fun a member => ?_⟩
        · exact queued a (List.mem_cons_of_mem _ member)
        · exact around a (made.new a member).1
      · rw [made.work around]
        simp only [Frontier.work, List.length_cons]
        omega

theorem Searching.search {next : α → List α} {start goal : α} {nodes : Finset α}
    (inside : ∀ a ∈ nodes, ∀ b ∈ next a, b ∈ nodes) {fuel : Nat} {frontier : Frontier α}
    (searching : Searching next start goal frontier) (queued : ∀ a ∈ frontier.queue, a ∈ nodes)
    (enough : frontier.work nodes < fuel) :
    Shortest (fun a b => b ∈ next a) start goal (Search.search next goal fuel frontier) := by
  induction fuel generalizing frontier with
  | zero => omega
  | succ fuel ih =>
      obtain ⟨queue, distance⟩ := frontier
      cases queue with
      | nil =>
          intro steps walk
          rcases searching.seen walk with ⟨depth, found, -⟩ | ⟨_, waiting, -⟩
          · simpa using searching.awaited depth found
          · simp at waiting
      | cons current queue =>
          rw [Search.search]
          split
          case isTrue same =>
            subst same
            obtain ⟨depth, (found : distance current = some depth)⟩ :=
              Option.isSome_iff_exists.mp (searching.queued current (by simp))
            rw [found]
            refine ⟨searching.walked current depth found, fun others walk => ?_⟩
            rcases searching.seen walk with ⟨steps, same, within⟩ | ⟨b, waiting, below⟩
            · obtain rfl : depth = steps := Option.some.inj (found.symm.trans same)
              exact within
            · have low : depth ≤ Frontier.depth ⟨current :: queue, distance⟩ b := by
                rcases List.mem_cons.mp waiting with rfl | waiting
                · simp [Frontier.depth, found]
                · simpa [Frontier.depth, found] using
                    (List.pairwise_cons.mp searching.ordered).1 b waiting
              omega
          case isFalse apart =>
            obtain ⟨fresh, made⟩ := expanded ((distance current).getD 0) (next current)
              ⟨queue, distance⟩
            obtain ⟨kept, fewer⟩ := Turn.within (.take apart) inside queued
            exact ih (searching.expand apart made) kept (by omega)

-- The frontier of a search that has only seen where it starts.
def Frontier.initial (start : α) : Frontier α :=
  ⟨[start], Function.update (fun _ => none) start (some 0)⟩

theorem Frontier.work_initial {nodes : Finset α} {start : α} (member : start ∈ nodes) :
    (Frontier.initial start).work nodes ≤ nodes.card := by
  have seen : (nodes.filter fun a => (Frontier.initial start).distance a = none) ⊆
      nodes.erase start := by
    intro a unseen
    obtain ⟨held, unseen⟩ := Finset.mem_filter.mp unseen
    refine Finset.mem_erase.mpr ⟨?_, held⟩
    rintro rfl
    simp [Frontier.initial] at unseen
  have fewer := Finset.card_le_card seen
  rw [Finset.card_erase_of_mem member] at fewer
  have some_ : 0 < nodes.card := Finset.card_pos.mpr ⟨start, member⟩
  rw [Frontier.work]
  have single : (Frontier.initial start).queue.length = 1 := rfl
  omega

theorem turns_within {next : α → List α} {start goal : α} {nodes : Finset α}
    (inside : ∀ a ∈ nodes, ∀ b ∈ next a, b ∈ nodes) (member : start ∈ nodes) {turns : Nat}
    {frontier : Frontier α}
    (taken : Walk (Turn next goal) (Frontier.initial start) turns frontier) :
    (∀ a ∈ frontier.queue, a ∈ nodes) ∧ turns + frontier.work nodes ≤ nodes.card := by
  induction taken with
  | here => exact ⟨by simpa [Frontier.initial] using member, by
      simpa using Frontier.work_initial member⟩
  | step taken turn ih =>
      obtain ⟨queued, fewer⟩ := turn.within inside ih.1
      exact ⟨queued, by omega⟩

theorem bfs_shortest {next : α → List α} {start goal : α} {nodes : Finset α}
    (inside : ∀ a ∈ nodes, ∀ b ∈ next a, b ∈ nodes) (member : start ∈ nodes) {fuel : Nat}
    (enough : nodes.card < fuel) :
    Shortest (fun a b => b ∈ next a) start goal (bfs next goal fuel start) := by
  apply (Searching.initial next start goal).search inside (by simpa using member)
  exact lt_of_le_of_lt (Frontier.work_initial member) enough

end Search
