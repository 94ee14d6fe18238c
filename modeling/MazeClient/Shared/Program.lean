import Mathlib.Logic.Basic

set_option autoImplicit false

namespace Program

-- A run returns a value or runs out of fuel inside a loop. The state survives both, so a run
-- that never returns is still seen through all the states it passes.
def Prog (σ α : Type) : Type := σ → Option α × σ

namespace Prog

variable {σ α β γ : Type}

instance : Monad (Prog σ) where
  pure value := fun s => (some value, s)
  bind p f := fun s =>
    match p s with
    | (some value, s') => f value s'
    | (none, s') => (none, s')

def get : Prog σ σ := fun s => (some s, s)

def modify (f : σ → σ) : Prog σ Unit := fun s => (some (), f s)

def exhausted : Prog σ α := fun s => (none, s)

-- `while (true)` around `body`, which answers with the next loop state or the result.
def iterate (body : β → Prog σ (β ⊕ γ)) : Nat → β → Prog σ γ
  | 0, _ => exhausted
  | fuel + 1, state => do
      match ← body state with
      | .inl next => iterate body fuel next
      | .inr result => pure result

/-- Every way `p` can end from `s`, out of fuel included, satisfies `post`. -/
def wp (p : Prog σ α) (post : Option α → σ → Prop) (s : σ) : Prop := post (p s).1 (p s).2

def andThen (f : α → Prog σ β) (post : Option β → σ → Prop) : Option α → σ → Prop
  | some value, s => wp (f value) post s
  | none, s => post none s

@[simp] theorem andThen_some (f : α → Prog σ β) (post : Option β → σ → Prop) (value : α) (s : σ) :
    andThen f post (some value) s = wp (f value) post s := rfl

@[simp] theorem andThen_none (f : α → Prog σ β) (post : Option β → σ → Prop) (s : σ) :
    andThen f post none s = post none s := rfl

@[simp] theorem wp_pure (value : α) (post : Option α → σ → Prop) (s : σ) :
    wp (pure value) post s = post (some value) s := rfl

@[simp] theorem wp_get (post : Option σ → σ → Prop) (s : σ) :
    wp get post s = post (some s) s := rfl

@[simp] theorem wp_modify (f : σ → σ) (post : Option Unit → σ → Prop) (s : σ) :
    wp (modify f) post s = post (some ()) (f s) := rfl

@[simp] theorem wp_bind (p : Prog σ α) (f : α → Prog σ β) (post : Option β → σ → Prop) (s : σ) :
    wp (p >>= f) post s = wp p (andThen f post) s := by
  change post ((p >>= f) s).1 ((p >>= f) s).2 = andThen f post (p s).1 (p s).2
  cases ran : p s with
  | mk result s' => cases result <;> simp [bind, ran, wp]

theorem wp_mono {p : Prog σ α} {strong weak : Option α → σ → Prop} {s : σ}
    (holds : wp p strong s) (weaker : ∀ result s', strong result s' → weak result s') :
    wp p weak s := weaker _ _ holds

-- One round keeps the invariant or ends in `post`; the induction is on the fuel.
theorem wp_iterate {body : β → Prog σ (β ⊕ γ)} {post : Option γ → σ → Prop}
    (invariant : β → σ → Prop)
    (round : ∀ state s, invariant state s → wp (body state) (fun result s' =>
      match result with
      | some (.inl next) => invariant next s'
      | some (.inr result) => post (some result) s'
      | none => post none s') s)
    (cut : ∀ state s, invariant state s → post none s)
    (fuel : Nat) {state : β} {s : σ} (holds : invariant state s) :
    wp (iterate body fuel state) post s := by
  induction fuel generalizing state s with
  | zero => exact cut state s holds
  | succ fuel ih =>
      rw [iterate, wp_bind]
      apply wp_mono (round state s holds)
      rintro (_ | next | result) s' after
      · exact after
      · exact ih after
      · exact after

theorem bind_some {p : Prog σ α} {s s' : σ} {value : α} (ran : p s = (some value, s'))
    (f : α → Prog σ β) : (p >>= f) s = f value s' := by
  simp [bind, ran]

theorem bind_none {p : Prog σ α} {s s' : σ} (ran : p s = (none, s')) (f : α → Prog σ β) :
    (p >>= f) s = (none, s') := by
  simp [bind, ran]

end Prog

end Program
