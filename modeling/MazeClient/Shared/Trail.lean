import MazeClient.Shared.Search
import Mathlib.Data.List.Chain

set_option autoImplicit false

namespace Search

variable {α κ : Type}

structure Route (edge : α → α → Prop) (start goal : α) (path : List α) : Prop where
  starts : path.head? = some start
  ends : path.getLast? = some goal
  chain : path.IsChain edge

def ShortestRoute (edge : α → α → Prop) (start goal : α) : Option (List α) → Prop
  | some path => Route edge start goal path ∧
      ∀ other, Route edge start goal other → path.length ≤ other.length
  | none => ∀ path, ¬ Route edge start goal path

section Routes

variable {edge other : α → α → Prop} {start a b : α} {path : List α}

theorem ShortestRoute.congr {goal : α} {answer : Option (List α)}
    (same : ∀ path, Route edge start goal path ↔ Route other start goal path) :
    ShortestRoute edge start goal answer ↔ ShortestRoute other start goal answer := by
  cases answer with
  | none => exact forall_congr' fun path => not_congr (same path)
  | some path => exact and_congr (same path) (forall_congr' fun _ => imp_congr (same _) Iff.rfl)

theorem Route.single (edge : α → α → Prop) (start : α) : Route edge start start [start] :=
  ⟨rfl, rfl, .singleton start⟩

theorem Route.concat (route : Route edge start a path) (next : edge a b) :
    Route edge start b (path ++ [b]) := by
  obtain ⟨starts, ends, chain⟩ := route
  refine ⟨by simp [starts], by simp, ?_⟩
  rw [List.isChain_append]
  refine ⟨chain, .singleton b, fun last final first head => ?_⟩
  obtain rfl := Option.some.inj (ends.symm.trans final)
  obtain rfl := Option.some.inj head
  exact next

theorem Route.last_cases {last : α} (route : Route edge start a (path ++ [last])) :
    last = a ∧ ((path = [] ∧ a = start) ∨ ∃ before, Route edge start before path ∧ edge before a) := by
  obtain ⟨starts, ends, chain⟩ := route
  obtain rfl : last = a := by simpa using ends
  rw [List.isChain_append] at chain
  refine ⟨rfl, ?_⟩
  cases ended : path.getLast? with
  | none =>
      obtain rfl := List.getLast?_eq_none_iff.mp ended
      exact .inl ⟨rfl, by simpa using starts⟩
  | some before =>
      have some_ : path ≠ [] := by
        rintro rfl
        cases ended
      rw [List.head?_append_of_ne_nil _ some_] at starts
      exact .inr ⟨before, ⟨starts, ended, chain.1⟩, chain.2.2 _ ended _ rfl⟩

theorem Route.length_pos (route : Route edge start a path) : 0 < path.length := by
  apply List.length_pos_of_ne_nil
  rintro rfl
  exact nomatch route.starts

theorem Route.walk (route : Route edge start a path) : Walk edge start (path.length - 1) a := by
  induction path using List.reverseRecOn generalizing a with
  | nil => exact nomatch route.starts
  | append_singleton path last ih =>
      obtain ⟨rfl, ⟨rfl, rfl⟩ | ⟨before, route, next⟩⟩ := route.last_cases
      · exact .here
      · have step := (ih route).step next
        rwa [List.length_append, List.length_singleton, Nat.add_sub_cancel,
          ← Nat.sub_add_cancel route.length_pos]

-- A way that keeps to nodes where two relations agree.
theorem Route.along (holds : α → Prop) (origin : holds start)
    (agree : ∀ a b, holds a → edge a b → other a b ∧ holds b) (route : Route edge start a path) :
    Route other start a path ∧ holds a := by
  induction path using List.reverseRecOn generalizing a with
  | nil => exact nomatch route.starts
  | append_singleton path last ih =>
      obtain ⟨rfl, ⟨rfl, rfl⟩ | ⟨before, route, next⟩⟩ := route.last_cases
      · exact ⟨.single other last, origin⟩
      · obtain ⟨route, held⟩ := ih route
        obtain ⟨step, held⟩ := agree before last held next
        exact ⟨route.concat step, held⟩

theorem Walk.route {steps : Nat} (walk : Walk edge start steps a) :
    ∃ path, Route edge start a path ∧ path.length = steps + 1 := by
  induction walk with
  | here => exact ⟨[start], .single edge start, rfl⟩
  | step walk next ih =>
      obtain ⟨path, route, length⟩ := ih
      exact ⟨path ++ [_], route.concat next, by simp [length]⟩

end Routes

variable [DecidableEq α]

/-- A breadth-first search that marks the nodes it has seen, and keeps for each the code of the
node it was found from. -/
structure Trail (α κ : Type) where
  queue : List α
  seen : α → Bool
  parent : α → κ

namespace Trail

variable (pack : α → κ) (unpack : κ → α)

def enter (current : α) (trail : Trail α κ) (a : α) : Trail α κ :=
  if trail.seen a then trail
  else
    { queue := trail.queue ++ [a]
      seen := Function.update trail.seen a true
      parent := Function.update trail.parent a (pack current) }

-- From a node back to the start, before the nodes that follow it.
def traceBack (parent : α → κ) (start : α) : Nat → α → List α → Option (List α)
  | 0, _, _ => none
  | fuel + 1, a, path =>
      if a = start then some (start :: path)
      else traceBack parent start fuel (unpack (parent a)) (a :: path)

-- Out of fuel there is no answer; the answer is a path, or that there is none.
def search (next : α → List α) (start goal : α) (tracing : Nat) :
    Nat → Trail α κ → Option (Option (List α))
  | 0, _ => none
  | _ + 1, ⟨[], _, _⟩ => some none
  | fuel + 1, ⟨current :: queue, seen, parent⟩ =>
      if current = goal then (traceBack unpack parent start tracing goal []).map some
      else search next start goal tracing fuel
        ((next current).foldl (enter pack current) ⟨queue, seen, parent⟩)

def initial (blank : κ) (start : α) : Trail α κ :=
  ⟨[start], Function.update (fun _ => false) start true, fun _ => blank⟩

/-- A trail and the frontier that counts where it marks: every node but the start was found from
one a step nearer. -/
structure Follows (next : α → List α) (start : α) (trail : Trail α κ) (frontier : Frontier α) :
    Prop where
  queue : trail.queue = frontier.queue
  seen : ∀ a, trail.seen a = (frontier.distance a).isSome
  origin : ∀ a, frontier.distance a = some 0 → a = start
  parent : ∀ a steps, frontier.distance a = some (steps + 1) →
    frontier.distance (unpack (trail.parent a)) = some steps ∧ a ∈ next (unpack (trail.parent a))

variable {pack unpack} {next : α → List α} {start goal : α} {trail : Trail α κ}
variable {frontier : Frontier α}

theorem follows_initial (blank : κ) (start : α) :
    Follows unpack next start (initial blank start) (Frontier.initial start) where
  queue := rfl
  seen a := by
    by_cases same : a = start
    · simp [initial, Frontier.initial, same]
    · simp [initial, Frontier.initial, same]
  origin a found := by
    by_contra apart
    simp [Frontier.initial, apart] at found
  parent a steps found := by
    by_cases same : a = start
    · simp [Frontier.initial, same] at found
    · simp [Frontier.initial, same] at found

theorem Follows.enter (follows : Follows unpack next start trail frontier) {current a : α}
    {depth : Nat} (packed : unpack (pack current) = current)
    (here : frontier.distance current = some depth) (edge : a ∈ next current) :
    Follows unpack next start (trail.enter pack current a) (discover depth frontier a) := by
  unfold Trail.enter discover
  rw [follows.seen]
  split
  case isTrue => exact follows
  case isFalse unseen =>
    have fresh : frontier.distance a = none := by simpa using unseen
    have apart {b : α} {steps : Nat} (found : frontier.distance b = some steps) : b ≠ a := by
      rintro rfl
      simp [fresh] at found
    refine ⟨by simp [follows.queue], fun b => ?_, fun b found => ?_, fun b steps found => ?_⟩
    · by_cases same : b = a
      · simp [same]
      · simp [same, follows.seen]
    · by_cases same : b = a
      · simp [same] at found
      · simp only [ne_eq, same, not_false_eq_true, Function.update_of_ne] at found
        exact follows.origin b found
    · by_cases same : b = a
      · subst same
        obtain rfl : depth = steps := by simpa using found
        simpa [packed, apart here] using ⟨here, edge⟩
      · simp only [ne_eq, same, not_false_eq_true, Function.update_of_ne] at found ⊢
        obtain ⟨nearer, step⟩ := follows.parent b steps found
        exact ⟨by simpa [apart nearer] using nearer, step⟩

theorem Follows.expand {current : α} {depth : Nat} {neighbours : List α}
    (packed : unpack (pack current) = current) (edges : ∀ a ∈ neighbours, a ∈ next current)
    (follows : Follows unpack next start trail frontier)
    (here : frontier.distance current = some depth) :
    Follows unpack next start (neighbours.foldl (Trail.enter pack current) trail)
      (neighbours.foldl (discover depth) frontier) := by
  induction neighbours generalizing trail frontier with
  | nil => exact follows
  | cons a neighbours ih =>
      obtain ⟨edge, edges⟩ := List.forall_mem_cons.mp edges
      refine ih edges (follows.enter packed here edge) ?_
      unfold discover
      split
      · exact here
      case isFalse unseen =>
        have apart : current ≠ a := by
          rintro rfl
          simp [here] at unseen
        simpa [apart] using here

-- The way back takes a step for every step of the distance.
theorem Follows.traceBack (follows : Follows unpack next start trail frontier)
    (origin : frontier.distance start = some 0) {steps fuel : Nat} {a : α} (path : List α)
    (found : frontier.distance a = some steps) (enough : steps < fuel) :
    ∃ way, traceBack unpack trail.parent start fuel a path = some (way ++ path) ∧
      Route (fun a b => b ∈ next a) start a way ∧ way.length = steps + 1 := by
  induction steps generalizing fuel a path with
  | zero =>
      obtain rfl := follows.origin a found
      obtain ⟨fuel, rfl⟩ := Nat.exists_eq_add_of_lt enough
      refine ⟨[a], ?_, .single _ a, rfl⟩
      rw [Nat.zero_add, Trail.traceBack, if_pos rfl]
      rfl
  | succ steps ih =>
      obtain ⟨nearer, edge⟩ := follows.parent a steps found
      have apart : a ≠ start := by
        rintro rfl
        simp [origin] at found
      obtain ⟨fuel, rfl⟩ : ∃ more, fuel = more + 1 := ⟨fuel - 1, by omega⟩
      obtain ⟨way, traced, route, length⟩ := ih (a :: path) nearer (by omega : steps < fuel)
      refine ⟨way ++ [a], ?_, route.concat edge, by simp [length]⟩
      rw [Trail.traceBack, if_neg apart, traced, List.append_assoc]
      rfl

theorem Follows.search {nodes : Finset α} (packed : ∀ a ∈ nodes, unpack (pack a) = a)
    (inside : ∀ a ∈ nodes, ∀ b ∈ next a, b ∈ nodes) {tracing fuel : Nat}
    (follows : Follows unpack next start trail frontier)
    (searching : Searching next start goal frontier) (queued : ∀ a ∈ frontier.queue, a ∈ nodes)
    (shallow : ∀ a steps, frontier.distance a = some steps → steps + fuel ≤ tracing)
    (enough : frontier.work nodes < fuel) :
    ∃ answer, search pack unpack next start goal tracing fuel trail = some answer ∧
      Search.search next goal fuel frontier = answer.map (fun path => path.length - 1) ∧
      ∀ path ∈ answer, Route (fun a b => b ∈ next a) start goal path := by
  induction fuel generalizing trail frontier with
  | zero => omega
  | succ fuel ih =>
      obtain ⟨queue, seen, parent⟩ := trail
      obtain ⟨waiting, distance⟩ := frontier
      obtain rfl : queue = waiting := follows.queue
      cases queue with
      | nil => exact ⟨none, rfl, rfl, nofun⟩
      | cons current queue =>
          obtain ⟨depth, (found : distance current = some depth)⟩ :=
            Option.isSome_iff_exists.mp (searching.queued current (by simp))
          rw [Trail.search, Search.search]
          split
          case isTrue same =>
            subst same
            obtain ⟨way, traced, route, length⟩ := follows.traceBack searching.origin [] found
              (by have := shallow current depth found; omega : depth < tracing)
            refine ⟨some way, ?_, ?_, fun path member => ?_⟩
            · rw [traced, List.append_nil]
              rfl
            · simp [found, length]
            · obtain rfl := Option.some.inj member
              exact route
          case isFalse apart =>
            have here : current ∈ nodes := queued current (by simp)
            obtain ⟨fresh, made⟩ := expanded ((distance current).getD 0) (next current)
              ⟨queue, distance⟩
            obtain ⟨kept, fewer⟩ := Turn.within (.take apart) inside queued
            have rest : Follows unpack next start ⟨queue, seen, parent⟩ ⟨queue, distance⟩ :=
              ⟨rfl, follows.seen, follows.origin, follows.parent⟩
            have after := rest.expand (packed current here) (fun a edge => edge) found
            rw [found, Option.getD_some] at made kept fewer ⊢
            have onward : Searching next start goal
                ((next current).foldl (discover depth) ⟨queue, distance⟩) :=
              searching.expand apart (by rw [found, Option.getD_some]; exact made)
            refine ih after onward kept (fun a steps reached => ?_) (by omega)
            rcases made.found_cases reached with ⟨-, rfl⟩ | older
            · have low := shallow current depth found
              omega
            · have low := shallow a steps older
              omega

theorem search_shortest {nodes : Finset α} (packed : ∀ a ∈ nodes, unpack (pack a) = a)
    (inside : ∀ a ∈ nodes, ∀ b ∈ next a, b ∈ nodes) (member : start ∈ nodes) {fuel : Nat}
    (enough : nodes.card < fuel) (blank : κ) :
    ∃ answer, search pack unpack next start goal fuel fuel (initial blank start) = some answer ∧
      ShortestRoute (fun a b => b ∈ next a) start goal answer := by
  have shallow (a : α) (steps : Nat) (found : (Frontier.initial start).distance a = some steps) :
      steps + fuel ≤ fuel := by
    by_cases same : a = start
    · obtain rfl : 0 = steps := by simpa [Frontier.initial, same] using found
      omega
    · simp [Frontier.initial, same] at found
  obtain ⟨answer, ran, counted, routes⟩ := (follows_initial blank start).search packed inside
    (Searching.initial next start goal) (List.forall_mem_singleton.mpr member) shallow
    (lt_of_le_of_lt (Frontier.work_initial member) enough)
  refine ⟨answer, ran, ?_⟩
  have shortest := @bfs_shortest _ _ next start goal nodes inside member fuel enough
  have same : bfs next goal fuel start = answer.map (fun path => path.length - 1) := counted
  rw [same] at shortest
  cases answer with
  | none => exact fun path route => shortest _ route.walk
  | some path =>
      refine ⟨routes path rfl, fun other route => ?_⟩
      have least : path.length - 1 ≤ other.length - 1 := shortest.2 _ route.walk
      have positive := route.length_pos
      omega

end Trail

end Search
