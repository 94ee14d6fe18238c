import MazeClient.Shared.Program

set_option autoImplicit false

namespace Program

namespace Prog

variable {σ α β γ : Type} {clock : σ → Nat} {holds : σ → Prop}
variable {deadline later extra more : Nat} {s : σ}

def ReturnsBy (clock : σ → Nat) (holds : σ → Prop) (deadline extra : Nat) (p : Prog σ α) (s : σ) :
    Prop :=
  ∃ value s', p s = (some value, s') ∧ holds s' ∧ clock s ≤ clock s' ∧
    clock s' ≤ max (clock s) deadline + extra

theorem ReturnsBy.mono {p : Prog σ α} (returns : ReturnsBy clock holds deadline extra p s)
    (postponed : deadline ≤ later) (slower : extra ≤ more) :
    ReturnsBy clock holds later more p s := by
  obtain ⟨value, s', ran, held, onward, bound⟩ := returns
  exact ⟨value, s', ran, held, onward, by omega⟩

theorem ReturnsBy.relative {p : Prog σ α} {span : Nat}
    (returns : ReturnsBy clock holds (clock s + span) extra p s) :
    ReturnsBy clock holds deadline (span + extra) p s := by
  obtain ⟨value, s', ran, held, onward, bound⟩ := returns
  exact ⟨value, s', ran, held, onward, by omega⟩

theorem returnsBy_pure (value : α) (held : holds s) :
    ReturnsBy clock holds deadline extra (pure value : Prog σ α) s :=
  ⟨value, s, rfl, held, Nat.le_refl _, by omega⟩

theorem returnsBy_modify {f : σ → σ} (held : holds (f s)) (same : clock (f s) = clock s) :
    ReturnsBy clock holds deadline 0 (modify f) s :=
  ⟨(), f s, rfl, held, by omega, by omega⟩

-- What the first part leaves of the time is the rest's.
theorem ReturnsBy.bind {p : Prog σ α} {f : α → Prog σ β}
    (first : ReturnsBy clock holds deadline extra p s) (within : extra ≤ more)
    (rest : ∀ value s', holds s' →
      ReturnsBy clock holds deadline (more - extra) (f value) s') :
    ReturnsBy clock holds deadline more (p >>= f) s := by
  obtain ⟨value, s', ran, held, onward, bound⟩ := first
  obtain ⟨result, s'', ran', held', onward', bound'⟩ := rest value s' held
  exact ⟨result, s'', (bind_some ran f).trans ran', held', by omega, by omega⟩

theorem ReturnsBy.get {f : σ → Prog σ β} (rest : ReturnsBy clock holds deadline extra (f s) s) :
    ReturnsBy clock holds deadline extra (Prog.get >>= f) s := rest

theorem returnsBy_iterate {body : β → Prog σ (β ⊕ γ)}
    (round : ∀ state s, holds s → ReturnsBy clock holds deadline extra (body state) s)
    (onward : ∀ state s, holds s → (body state).wp (fun result s' =>
      ∀ next, result = some (.inl next) → clock s < deadline ∧ clock s < clock s') s)
    {fuel : Nat} {state : β} (held : holds s) (enough : deadline - clock s < fuel) :
    ReturnsBy clock holds deadline (extra + extra) (iterate body fuel state) s := by
  have ends : ∃ value s', iterate body fuel state s = (some value, s') ∧ holds s' ∧
      clock s ≤ clock s' ∧ clock s' ≤ max (clock s) (deadline + extra) + extra := by
    induction fuel generalizing state s with
    | zero => omega
    | succ fuel ih =>
        obtain ⟨result, s', ran, held', after, bound⟩ := round state s held
        cases result with
        | inr result => exact ⟨result, s', bind_some ran _, held', after, by omega⟩
        | inl next =>
            obtain ⟨early, advanced⟩ : clock s < deadline ∧ clock s < clock s' := by
              have goes := onward state s held
              rw [wp, ran] at goes
              exact goes next rfl
            obtain ⟨value, s'', ended, held'', after', bound'⟩ :=
              @ih s' next held' (by omega)
            exact ⟨value, s'', (bind_some ran _).trans ended, held'', by omega, by omega⟩
  obtain ⟨value, s', ran, held', after, bound⟩ := ends
  exact ⟨value, s', ran, held', after, by omega⟩

structure Watches (clock : σ → Nat) (holds : σ → Prop) (deadline : Nat) (guard : Prog σ Bool)
    (s : σ) : Prop where
  reads : ∃ halted s', guard s = (some halted, s') ∧ holds s' ∧ clock s' = clock s + 1 ∧
    (deadline ≤ clock s → halted = true)

theorem returnsBy_guarded {guard : Prog σ Bool} {rest : β → Bool → Prog σ (β ⊕ γ)} {last : γ}
    (watches : ∀ s, holds s → Watches clock holds deadline guard s)
    (ends : ∀ state, rest state true = pure (.inr last))
    (lasts : ∀ state s, holds s → ReturnsBy clock holds deadline extra (rest state false) s)
    {fuel : Nat} {state : β} (held : holds s) (enough : deadline - clock s < fuel) :
    ReturnsBy clock holds deadline (extra + 1 + (extra + 1))
      (iterate (fun state => guard >>= rest state) fuel state) s := by
  refine returnsBy_iterate (fun state s held => ?_) (fun state s held => ?_) held enough
  all_goals
    obtain ⟨halted, s', ran, held', tick, raised⟩ := (watches s held).reads
  · cases halted with
    | true =>
        refine ⟨.inr last, s', ?_, held', by omega, by omega⟩
        rw [bind_some ran, ends]
        rfl
    | false =>
        obtain ⟨value, s'', ran', held'', onward, bound⟩ := lasts state s' held'
        refine ⟨value, s'', ?_, held'', by omega, by omega⟩
        rw [bind_some ran, ran']
  · rw [wp, bind_some ran]
    cases halted with
    | true => rw [ends]; exact fun next same => by cases same
    | false =>
        obtain ⟨value, s'', ran', held'', onward, bound⟩ := lasts state s' held'
        rw [ran']
        intro next same
        have early : ¬ deadline ≤ clock s := fun late => absurd (raised late) Bool.false_ne_true
        have after : clock s < clock s'' := by omega
        exact ⟨by omega, after⟩

end Prog

end Program
