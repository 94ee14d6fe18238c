import MazeClient.Client.RunSession

set_option autoImplicit false

namespace MazeClient

open Program

variable {σ : Type} {binding : Binding σ} {opened ready begun running reported left : σ → Prop}

structure SessionRule (binding : Binding σ) (opened ready begun running reported left : σ → Prop) :
    Prop where
  idle : ∀ s, ready s → left s
  initializeTask : ∀ s, opened s → binding.initializeTask.wp (fun result s' =>
    (result = some .applied → ready s') ∧ (result ≠ some .applied → left s')) s
  halt : ∀ s, ready s → binding.stopped.wp (fun result s' =>
    (result = some false → ready s') ∧ (result ≠ some false → left s')) s
  beginEpisode : ∀ s, ready s → binding.beginEpisode.wp (fun result s' =>
    (result = some .applied → begun s') ∧ (result ≠ some .applied → left s')) s
  complete : ∀ s, begun s → binding.complete.wp (fun result s' =>
    (result = some false → running s') ∧ (result ≠ some false → left s')) s
  runEpisode : ∀ s, running s → binding.runEpisode.wp (fun result s' =>
    (result = some .applied → reported s') ∧ (result ≠ some .applied → left s')) s
  endEpisode : ∀ s, reported s → binding.endEpisode.wp (fun result s' =>
    (result = some .applied → ready s') ∧ (result ≠ some .applied → left s')) s
  active : ∀ s, left s → binding.active.wp (fun _ s' => left s') s
  abortEpisode : ∀ s, left s → binding.abortEpisode.wp (fun _ s' => left s') s
  canClose : ∀ s, left s → binding.canClose.wp (fun _ s' => left s') s
  closeSession : ∀ s, left s → binding.closeSession.wp (fun _ s' => left s') s

theorem wp_onward {α β : Type} {p : Prog σ α} {f : α → Prog σ β} {good : α} {next : σ → Prop}
    {post : Option β → σ → Prop} {s : σ}
    (first : p.wp (fun result s' =>
      (result = some good → next s') ∧ (result ≠ some good → left s')) s)
    (cut : ∀ s', left s' → post none s')
    (bad : ∀ value s', value ≠ good → left s' → (f value).wp post s')
    (rest : ∀ s', next s' → (f good).wp post s') : (p >>= f).wp post s := by
  rw [Prog.wp_bind]
  apply Prog.wp_mono first
  rintro (_ | value) s' ⟨onward, leaving⟩
  · exact cut s' (leaving nofun)
  · by_cases same : value = good
    · exact same ▸ rest s' (onward (congrArg some same))
    · exact bad value s' same (leaving fun other => same (Option.some.inj other))

variable (rule : SessionRule binding opened ready begun running reported left)
include rule

theorem SessionRule.sessionRound {s : σ} (going : ready s) :
    (sessionRound binding).wp (fun result s' => match result with
      | some (.inl _) => ready s'
      | some (.inr _) => left s'
      | none => left s') s := by
  refine wp_onward (rule.halt s going) (fun _ gone => gone) ?_ ?_
  · rintro (_ | _) s' halted gone
    · exact absurd rfl halted
    · exact gone
  intro s going
  refine wp_onward (rule.beginEpisode s going) (fun _ gone => gone)
    (fun outcome s' failed gone => ?_) fun s begun => ?_
  · rw [if_pos failed]
    exact gone
  rw [if_neg (by simp)]
  refine wp_onward (rule.complete s begun) (fun _ gone => gone) ?_ ?_
  · rintro (_ | _) s' done gone
    · exact absurd rfl done
    · exact gone
  intro s running
  refine wp_onward (rule.runEpisode s running) (fun _ gone => gone)
    (fun outcome s' failed gone => ?_) fun s reported => ?_
  · rw [if_pos failed]
    exact gone
  rw [if_neg (by simp)]
  refine wp_onward (rule.endEpisode s reported) (fun _ gone => gone)
    (fun outcome s' failed gone => ?_) fun s going => ?_
  · rw [if_pos failed]
    exact gone
  rw [if_neg (by simp)]
  exact going

theorem SessionRule.conduct (fuel : Nat) {s : σ} (started : opened s) :
    (conduct fuel binding).wp (fun _ s' => left s') s := by
  refine wp_onward (rule.initializeTask s started) (fun _ gone => gone)
    (fun outcome s' failed gone => ?_) fun s going => ?_
  · rw [if_pos failed]
    exact gone
  rw [if_neg (by simp)]
  refine Prog.wp_iterate (fun _ => ready) (fun _ s going => ?_) (fun _ s => rule.idle s) fuel going
  apply Prog.wp_mono (rule.sessionRound going)
  rintro (_ | _ | _) s' after <;> exact after

theorem SessionRule.finish (outcome : CommandOutcome) {s : σ} (gone : left s) :
    (finish binding outcome).wp (fun _ s' => left s') s := by
  have closing (s : σ) (gone : left s) : (do
      if ← binding.canClose then
        let closed ← binding.closeSession
        if closed ≠ .applied then
          return if outcome = .rejected || outcome = .waitExpired then outcome else closed
      return outcome : Prog σ CommandOutcome).wp (fun _ s' => left s') s := by
    rw [Prog.wp_bind]
    apply Prog.wp_mono (rule.canClose s gone)
    rintro (_ | _ | _) s' gone
    · exact gone
    · exact gone
    · rw [Prog.andThen_some, if_pos rfl, Prog.wp_bind]
      apply Prog.wp_mono (rule.closeSession s' gone)
      rintro (_ | closed) s' gone
      · exact gone
      · rw [Prog.andThen_some]
        split <;> exact gone
  rw [MazeClient.finish]
  split
  · exact gone
  rw [Prog.wp_bind]
  apply Prog.wp_mono (rule.active s gone)
  rintro (_ | _ | _) s' gone
  · exact gone
  · exact closing s' gone
  · rw [Prog.andThen_some, if_pos rfl, Prog.wp_bind]
    apply Prog.wp_mono (rule.abortEpisode s' gone)
    rintro (_ | aborted) s' gone
    · exact gone
    · rw [Prog.andThen_some]
      split
      · exact gone
      · exact closing s' gone

theorem SessionRule.runSession (fuel : Nat) {s : σ}
    (first : binding.openSession.wp (fun result s' =>
      (result = some .applied → opened s') ∧ (result ≠ some .applied → left s')) s) :
    (runSession fuel binding).wp (fun _ s' => left s') s := by
  refine wp_onward first (fun _ gone => gone) (fun outcome s' failed gone => ?_)
    fun s started => ?_
  · rw [if_pos failed]
    exact gone
  rw [if_neg (by simp), Prog.wp_bind]
  apply Prog.wp_mono (rule.conduct fuel started)
  rintro (_ | outcome) s' gone
  · exact gone
  · exact rule.finish outcome gone

end MazeClient
