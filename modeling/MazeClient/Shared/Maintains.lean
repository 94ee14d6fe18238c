import MazeClient.Shared.Program

set_option autoImplicit false

namespace Program

namespace Prog

variable {σ α β γ : Type} {holds : σ → Prop}

def Maintains (holds : σ → Prop) (p : Prog σ α) : Prop :=
  ∀ s, holds s → p.wp (fun result s' => result.isSome = true → holds s') s

theorem maintains_pure (value : α) : Maintains holds (pure value) := fun _ held _ => held

theorem Maintains.bind {p : Prog σ α} {f : α → Prog σ β} (first : Maintains holds p)
    (rest : ∀ value, Maintains holds (f value)) : Maintains holds (p >>= f) := by
  intro s held
  rw [wp_bind]
  apply wp_mono (first s held)
  rintro (_ | value) s' kept
  · exact nofun
  · exact rest value s' (kept rfl)

theorem Maintains.ite {condition : Prop} [Decidable condition] {p q : Prog σ α}
    (yes : Maintains holds p) (no : Maintains holds q) :
    Maintains holds (if condition then p else q) := by
  split
  · exact yes
  · exact no

theorem maintains_iterate {body : β → Prog σ (β ⊕ γ)}
    (round : ∀ state, Maintains holds (body state)) (fuel : Nat) (state : β) :
    Maintains holds (iterate body fuel state) := by
  intro s held
  refine wp_iterate (fun _ => holds) (fun state s held => ?_) (fun _ _ _ => nofun) fuel held
  apply wp_mono (round state s held)
  rintro (_ | next | result) s' kept
  · exact nofun
  · exact kept rfl
  · exact fun _ => kept rfl

end Prog

end Program
