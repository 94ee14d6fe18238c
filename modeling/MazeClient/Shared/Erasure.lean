import MazeClient.Shared.Program

set_option autoImplicit false

namespace Program

namespace Prog

variable {σ ρ α β γ : Type}

-- A program over the first part of a state; the second is not touched.
def alongside (p : Prog σ α) : Prog (σ × ρ) α := fun s => ((p s.1).1, ((p s.1).2, s.2))

def beside (effect : σ → ρ → ρ) : Prog (σ × ρ) Unit := modify fun s => (s.1, effect s.1 s.2)

theorem wp_and {p : Prog σ α} {first second : Option α → σ → Prop} {s : σ} (one : p.wp first s)
    (other : p.wp second s) : p.wp (fun result s' => first result s' ∧ second result s') s :=
  ⟨one, other⟩

def Erases (p : Prog (σ × ρ) α) (q : Prog σ α) : Prop :=
  ∀ s, ((p s).1, (p s).2.1) = q s.1

@[simp] theorem wp_alongside (p : Prog σ α) (post : Option α → σ × ρ → Prop) (s : σ × ρ) :
    (alongside p).wp post s = p.wp (fun result s' => post result (s', s.2)) s.1 := rfl

@[simp] theorem wp_beside (effect : σ → ρ → ρ) (post : Option Unit → σ × ρ → Prop) (s : σ × ρ) :
    (beside effect).wp post s = post (some ()) (s.1, effect s.1 s.2) := rfl

theorem erases_alongside (p : Prog σ α) : Erases (alongside p : Prog (σ × ρ) α) p := fun _ => rfl

theorem erases_pure (value : α) : Erases (pure value : Prog (σ × ρ) α) (pure value) := fun _ => rfl

theorem Erases.bind {p : Prog (σ × ρ) α} {q : Prog σ α} {f : α → Prog (σ × ρ) β}
    {g : α → Prog σ β} (first : Erases p q) (rest : ∀ value, Erases (f value) (g value)) :
    Erases (p >>= f) (q >>= g) := by
  intro s
  have same := first s
  rcases ran : p s with ⟨_ | value, s'⟩
  · rw [ran] at same
    rw [bind_none ran, bind_none same.symm]
  · rw [ran] at same
    rw [bind_some ran, bind_some same.symm]
    exact rest value s'

theorem Erases.after {effect : σ → ρ → ρ} {p : Unit → Prog (σ × ρ) α} {q : Prog σ α}
    (rest : Erases (p ()) q) : Erases (beside effect >>= p) q := fun s =>
  rest (s.1, effect s.1 s.2)

theorem Erases.before {p : Prog (σ × ρ) α} {q : Prog σ α} {f : α → Prog (σ × ρ) α}
    (first : Erases p q) (rest : ∀ value, Erases (f value) (pure value)) :
    Erases (p >>= f) q := by
  have same : q >>= pure = q := by
    funext s
    rcases ran : q s with ⟨_ | value, s'⟩
    · rw [bind_none ran]
    · rw [bind_some ran]
      rfl
  rw [← same]
  exact first.bind rest

theorem Erases.ite {condition : Prop} [Decidable condition] {p p' : Prog (σ × ρ) α}
    {q q' : Prog σ α} (yes : Erases p q) (no : Erases p' q') :
    Erases (if condition then p else p') (if condition then q else q') := by
  split
  · exact yes
  · exact no

-- The induction is on the fuel, which both loops spend alike.
theorem erases_iterate {body : β → Prog (σ × ρ) (β ⊕ γ)} {plain : β → Prog σ (β ⊕ γ)}
    (round : ∀ state, Erases (body state) (plain state)) (fuel : Nat) (state : β) :
    Erases (iterate body fuel state) (iterate plain fuel state) := by
  induction fuel generalizing state with
  | zero => exact fun _ => rfl
  | succ fuel ih =>
      refine (round state).bind fun ended => ?_
      cases ended with
      | inl next => exact ih next
      | inr result => exact erases_pure result

theorem Erases.wp {p : Prog (σ × ρ) α} {q : Prog σ α} (erases : Erases p q)
    {post : Option α → σ → Prop} {s : σ × ρ} (holds : q.wp post s.1) :
    p.wp (fun result s' => post result s'.1) s := by
  have same := erases s
  unfold Prog.wp at holds ⊢
  rwa [← same] at holds

end Prog

end Program
