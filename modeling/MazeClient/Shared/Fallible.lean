import Mathlib.Logic.Basic

set_option autoImplicit false

namespace Fallible

-- A run that raises an error keeps the state it has reached.
def Op (σ ε α : Type) : Type := σ → Except ε α × σ

namespace Op

variable {σ ε α β : Type}

instance : Monad (Op σ ε) where
  pure value := fun s => (.ok value, s)
  bind op f := fun s =>
    match op s with
    | (.ok value, s') => f value s'
    | (.error error, s') => (.error error, s')

instance : MonadExcept ε (Op σ ε) where
  throw error := fun s => (.error error, s)
  tryCatch op handler := fun s =>
    match op s with
    | (.ok value, s') => (.ok value, s')
    | (.error error, s') => handler error s'

def get : Op σ ε σ := fun s => (.ok s, s)

def modify (f : σ → σ) : Op σ ε Unit := fun s => (.ok (), f s)

def raiseIf (refused : Prop) [Decidable refused] (error : ε) : Op σ ε Unit :=
  if refused then throw error else pure ()

-- `last` runs on both exits, and an error of it replaces the outcome.
def ensure (op : Op σ ε α) (last : Op σ ε Unit) : Op σ ε α := do
  let value ← tryCatch op fun error => do
    last
    throw error
  last
  return value

theorem bind_ok {op : Op σ ε α} {s s' : σ} {value : α} (ran : op s = (.ok value, s'))
    (f : α → Op σ ε β) : (op >>= f) s = f value s' := by
  simp [bind, ran]

theorem get_bind (f : σ → Op σ ε β) (s : σ) : (get >>= f) s = f s s := rfl

theorem raiseIf_neg {refused : Prop} [Decidable refused] (accepted : ¬refused) (error : ε) (s : σ) :
    (raiseIf refused error : Op σ ε Unit) s = (.ok (), s) := by
  rw [raiseIf, if_neg accepted]
  rfl

-- From `before`, a return satisfies `after` and a raised error leaves a state in `failed`.
def Triple (before : σ → Prop) (op : Op σ ε α) (after : α → σ → Prop) (failed : σ → Prop) : Prop :=
  ∀ s, before s →
    match op s with
    | (.ok value, s') => after value s'
    | (.error _, s') => failed s'

abbrev Keeps (holds : σ → Prop) (op : Op σ ε α) : Prop := Triple holds op (fun _ => holds) holds

section Rules

variable {before between : σ → Prop} {failed failed' : σ → Prop}
  {after : α → σ → Prop} {then_ : β → σ → Prop}

theorem triple_pure {value : α} (holds : ∀ s, before s → after value s) :
    Triple before (pure value : Op σ ε α) after failed := holds

theorem triple_throw {error : ε} (holds : ∀ s, before s → failed s) :
    Triple before (throw error : Op σ ε α) after failed := holds

theorem triple_modify {f : σ → σ} {after : Unit → σ → Prop} (holds : ∀ s, before s → after () (f s)) :
    Triple before (modify f : Op σ ε Unit) after failed := holds

theorem triple_raiseIf {refused : Prop} [Decidable refused] {error : ε}
    (holds : ∀ s, before s → failed s) :
    Triple before (raiseIf refused error : Op σ ε Unit) (fun _ s => before s ∧ ¬refused) failed := by
  unfold raiseIf
  by_cases raised : refused
  · rw [if_pos raised]
    exact triple_throw holds
  · rw [if_neg raised]
    exact triple_pure fun _ started => ⟨started, raised⟩

theorem triple_bind {op : Op σ ε α} {f : α → Op σ ε β} (first : Triple before op after failed)
    (rest : ∀ value, Triple (after value) (f value) then_ failed) :
    Triple before (op >>= f) then_ failed := by
  intro s holds
  have reached := first s holds
  cases ran : op s with
  | mk outcome s' =>
      rw [ran] at reached
      cases outcome with
      | ok value => simpa [bind, ran] using rest value s' reached
      | error error => simpa [bind, ran] using reached

theorem triple_get_bind {f : σ → Op σ ε β}
    (rest : ∀ s, Triple (fun s' => before s' ∧ s' = s) (f s) then_ failed) :
    Triple before (get >>= f) then_ failed :=
  fun s holds => rest s s ⟨holds, rfl⟩

theorem triple_tryCatch {op : Op σ ε α} {handler : ε → Op σ ε α}
    (body : Triple before op after failed)
    (handled : ∀ error, Triple failed (handler error) after failed') :
    Triple before (tryCatch op handler) after failed' := by
  intro s holds
  have reached := body s holds
  cases ran : op s with
  | mk outcome s' =>
      rw [ran] at reached
      cases outcome with
      | ok value => simpa [tryCatch, tryCatchThe, MonadExcept.tryCatch, ran] using reached
      | error error =>
          simpa [tryCatch, tryCatchThe, MonadExcept.tryCatch, ran] using handled error s' reached

theorem Triple.weaken {op : Op σ ε α} {before' : σ → Prop} {after' : α → σ → Prop}
    (triple : Triple before op after failed) (entry : ∀ s, before' s → before s)
    (exit : ∀ value s, after value s → after' value s) (raised : ∀ s, failed s → failed' s) :
    Triple before' op after' failed' := by
  intro s holds
  have reached := triple s (entry s holds)
  cases ran : op s with
  | mk outcome s' =>
      rw [ran] at reached
      cases outcome with
      | ok value => exact exit value s' reached
      | error error => exact raised s' reached

theorem Triple.entering {op : Op σ ε α} {before' : σ → Prop} (triple : Triple before op after failed)
    (entry : ∀ s, before' s → before s) : Triple before' op after failed :=
  triple.weaken entry (fun _ _ ended => ended) fun _ raised => raised

theorem Triple.leaving {op : Op σ ε α} {after' : α → σ → Prop}
    (triple : Triple before op after failed) (exit : ∀ value s, after value s → after' value s) :
    Triple before op after' failed :=
  triple.weaken (fun _ started => started) exit fun _ raised => raised

theorem Triple.raising {op : Op σ ε α} (triple : Triple before op after failed)
    (raised : ∀ s, failed s → failed' s) : Triple before op after failed' :=
  triple.weaken (fun _ started => started) (fun _ _ ended => ended) raised

theorem Triple.final {op : Op σ ε α} {left : σ → Prop}
    (triple : Triple before op (fun _ => left) left) {s : σ} (holds : before s) : left (op s).2 := by
  have reached := triple s holds
  cases ran : op s with
  | mk outcome s' =>
      rw [ran] at reached
      cases outcome <;> exact reached

theorem triple_ensure {op : Op σ ε α} {last : Op σ ε Unit}
    (body : Triple before op after failed)
    (returned : ∀ value, Triple (after value) last (fun _ => after value) failed')
    (raised : Triple failed last (fun _ => failed') failed') :
    Triple before (ensure op last) after failed' := by
  unfold ensure
  have caught : Triple before (tryCatch op fun error => do
      last
      throw error) after failed' :=
    triple_tryCatch body fun _ => triple_bind raised fun _ => triple_throw fun _ holds => holds
  refine triple_bind caught fun value => ?_
  exact triple_bind (returned value) fun _ => triple_pure fun _ holds => holds

end Rules

end Op

end Fallible
