import NativeBuild.Proofs.Shared.Backwards
import NativeBuild.Proofs.Shared.Run

/-!
Refused calls leave no trace.  For every run of a shared pool there is one in which the refused
calls are not made, of programs that leave them out, and both runs go through the same states of the
pool.  The programs without the calls are found from the end of the run, where nothing is left to be
done.
-/

namespace NativeBuild

section

variable {σ : Type} {p : Pool σ} {i other : TaskId} {t : Task σ}
  {next : Except Failure Outcome → Work σ}

theorem Pool.step?_refused (ht : p.tasks[i]? = some t) (hs : t.stage = .working (.ask other next))
    (hnone : p.outcome? other = none) : p.step? i = some (p.setTask i
      { t with stage := .working (next (.error (.wouldBlock (p.label other)))) }) := by
  simp only [step?, ht, hs, workStep?, answerInside, hnone]

theorem SharedPool.returning_ask (ht : p.tasks[i]? = some t)
    (hs : t.stage = .working (.ask other next)) : returning p i = [] := by
  simp only [returning, ht, hs]

end

namespace SharedPool

variable {σ : Type}

/-- Who makes a step of a shared pool. -/
inductive Party where
  | task (i : TaskId)
  | thread (c : Nat)

/-- A step of a shared pool, with who makes it and what shows. -/
inductive Acts (s : SharedPool σ) : Party → Event σ → SharedPool σ → Prop where
  | task {i : TaskId} {q : Pool σ} (h : s.pool.step? i = some q) :
    Acts s (.task i) .quiet ⟨q, s.threads, s.returned ++ returning s.pool i⟩
  | thread {c : Nat} {t u : Thread σ} {q : Pool σ} {ids : List TaskId} {e : Event σ}
    (ht : s.threads[c]? = some t) (h : ThreadStep s t q u ids e) :
    Acts s (.thread c) e ⟨q, s.threads.set c u, s.returned ++ ids⟩

/-- The next step of a party is a call that is refused.  It is answered that it would block, and
nothing else is changed. -/
inductive Turned (s : SharedPool σ) : Party → SharedPool σ → Prop where
  | ask {i other : TaskId} {t : Task σ} {next : Except Failure Outcome → Work σ}
    (ht : s.pool.tasks[i]? = some t) (hs : t.stage = .working (.ask other next))
    (hnone : s.pool.outcome? other = none) :
    Turned s (.task i) ⟨s.pool.setTask i
      { t with stage := .working (next (.error (.wouldBlock (s.pool.label other)))) },
      s.threads, s.returned⟩
  | idle {c : Nat} {next : Except Failure Unit → Plan σ}
    (ht : s.threads[c]? = some (.free (.waitIdle .inside next))) :
    Turned s (.thread c)
      { s with threads := s.threads.set c (.free (next (.error (.wouldBlock "wait_idle")))) }
  | join {c : Nat} {next : Except Failure Report → Plan σ}
    (ht : s.threads[c]? = some (.free (.joinAll .inside next))) :
    Turned s (.thread c)
      { s with threads := s.threads.set c (.free (next (.error (.wouldBlock "wait_idle")))) }

/-- Whether the next step of a party is a call that is refused. -/
def Refused (s : SharedPool σ) (party : Party) : Prop :=
  ∃ s₁, s.Turned party s₁

/-- Two runs, from `s` to `n` and from `s'` to `n'`.  They make the same steps in the same order,
except that the second makes none of the refused calls that the first makes, nor any other; and at
all times the pools agree but for what is yet to be done. -/
inductive Spared : SharedPool σ → SharedPool σ → SharedPool σ → SharedPool σ → Prop where
  | done {s s' : SharedPool σ} (h : s.Like Work.Spares Plan.Spares s') : Spared s s' s s'
  | both {s s' s₁ s₁' n n' : SharedPool σ} {party : Party} {e e' : Event σ}
    (h : s.Like Work.Spares Plan.Spares s') (hr : ¬ s.Refused party) (hr' : ¬ s'.Refused party)
    (hstep : s.Acts party e s₁) (hstep' : s'.Acts party e' s₁') (he : e.Same e')
    (rest : Spared s₁ s₁' n n') : Spared s s' n n'
  | without {s s' s₁ n n' : SharedPool σ} {party : Party} (h : s.Like Work.Spares Plan.Spares s')
    (hturned : s.Turned party s₁) (rest : Spared s₁ s' n n') : Spared s s' n n'

theorem Step.exists_acts {s s' : SharedPool σ} (h : Step s s') : ∃ party e, s.Acts party e s' := by
  cases h with
  | task h => exact ⟨_, _, .task h⟩
  | thread ht h => exact ⟨_, _, .thread ht h⟩

theorem Acts.step {s s' : SharedPool σ} {party : Party} {e : Event σ} (h : s.Acts party e s') :
    Step s s' := by
  cases h with
  | task h => exact .task h
  | thread ht h => exact .thread ht h

namespace Turned

variable {s s₁ : SharedPool σ} {party : Party}

/-- A refused call returns, whatever goes on. -/
theorem acts (h : s.Turned party s₁) : s.Acts party .quiet s₁ := by
  cases h with
  | ask ht hs hnone =>
    have hacts := Acts.task (Pool.step?_refused ht hs hnone)
    rwa [returning_ask ht hs, List.append_nil] at hacts
  | idle ht =>
    have hacts := Acts.thread ht (.refuseIdle rfl)
    rwa [List.append_nil] at hacts
  | join ht =>
    have hacts := Acts.thread ht (.refuseJoin rfl)
    rwa [List.append_nil] at hacts

/-- A refused call has no other answer. -/
theorem only (h : s.Turned party s₁) {e : Event σ} {s' : SharedPool σ} (hacts : s.Acts party e s') :
    e = .quiet ∧ s' = s₁ := by
  cases h with
  | ask ht hs hnone =>
    cases hacts with
    | task hstep =>
      obtain rfl := Option.some.inj ((Pool.step?_refused ht hs hnone).symm.trans hstep)
      exact ⟨rfl, by rw [returning_ask ht hs, List.append_nil]⟩
  | idle ht =>
    cases hacts with
    | thread ht' hstep =>
      obtain rfl := Option.some.inj (ht.symm.trans ht')
      cases hstep with
      | refuseIdle he =>
        cases he
        exact ⟨rfl, by rw [List.append_nil]⟩
      | beginIdle he => exact nomatch he
  | join ht =>
    cases hacts with
    | thread ht' hstep =>
      obtain rfl := Option.some.inj (ht.symm.trans ht')
      cases hstep with
      | refuseJoin he =>
        cases he
        exact ⟨rfl, by rw [List.append_nil]⟩
      | beginJoin he => exact nomatch he

/-- What agrees with the shared pool after a refused call agrees with it before. -/
theorem like {d : SharedPool σ} (h : s.Turned party s₁) (hd : s₁.Like Work.Spares Plan.Spares d) :
    s.Like Work.Spares Plan.Spares d := by
  cases h with
  | @ask i other t next ht hs hnone =>
    refine ⟨⟨hd.pool.config, hd.pool.here, hd.pool.free, hd.pool.world, hd.pool.running, ?_⟩,
      hd.threads, hd.returned⟩
    refine forall₂_of_set hd.pool.tasks ht fun u hu => ⟨hu.spec, hu.state, hu.calls, ?_, ?_⟩
    · have hstage := hu.stage
      rw [hs]
      generalize u.stage = stage at hstage ⊢
      cases hstage with
      | working h => exact .working (.leave h)
    · intro hearly
      rw [hs] at hearly
      exact hearly.elim
  | idle ht =>
    refine ⟨hd.pool, forall₂_of_set hd.threads ht fun u hu => ?_, hd.returned⟩
    cases hu with
    | free h => exact .free (.leaveIdle h)
  | join ht =>
    refine ⟨hd.pool, forall₂_of_set hd.threads ht fun u hu => ?_, hd.returned⟩
    cases hu with
    | free h => exact .free (.leaveJoin h)

end Turned

namespace Spared

variable {s s' n n' : SharedPool σ}

theorem runs_right (h : Spared s s' n n') : Runs s' n' := by
  induction h with
  | done _ => exact .refl
  | both _ _ _ _ hstep _ _ ih => exact .head hstep.step ih
  | without _ _ _ ih => exact ih

/-- In the end the pools agree. -/
theorem like_end (h : Spared s s' n n') : n.Like Work.Spares Plan.Spares n' := by
  induction h with
  | done h => exact h
  | both _ _ _ _ _ _ _ ih | without _ _ _ ih => exact ih

end Spared

variable {s s₁ d n : SharedPool σ} {party : Party} {e : Event σ}

/-- A step that is no refused call can be made before any step with the same end. -/
theorem Acts.back (hl : s.Listing) (hstep : s.Acts party e s₁) (hr : ¬ s.Refused party)
    (hd : s₁.Like Work.Spares Plan.Spares d) :
    ∃ d', s.Like Work.Spares Plan.Spares d' ∧ ∀ s', d'.Like Eq Eq s' →
      ∃ s₁' e', ¬ s'.Refused party ∧ s'.Acts party e' s₁' ∧ e.Same e' ∧ d.Like Eq Eq s₁' := by
  cases hstep with
  | @task i q h =>
    obtain ⟨t, ht, htask⟩ := Pool.taskStep_of_step? h
    have hfree : ¬ s.pool.Refuses i := fun ⟨_, _, _, ht, hs, hnone⟩ => hr ⟨_, .ask ht hs hnone⟩
    obtain ⟨p, hp, hback⟩ := htask.back ht hfree hd.pool
    refine ⟨⟨p, d.threads, s.returned⟩, ⟨hp, hd.threads, rfl⟩, fun s' hs' => ?_⟩
    obtain ⟨q', hstep', hfree', hlike⟩ := hback s'.pool hs'.pool
    refine ⟨_, _, ?_, .task hstep', .quiet, hlike, hs'.threads, ?_⟩
    · rintro ⟨_, hturned⟩
      cases hturned with
      | ask ht hs hnone => exact hfree' ⟨_, _, _, ht, hs, hnone⟩
    · rw [hs'.returned, hd.returned, (hp.trans_eq hs'.pool).returning_eq i]
  | @thread c t u q ids e ht h =>
    have hfree : ¬ t.IsRefused := by
      rintro (next | next)
      · exact hr ⟨_, .idle ht⟩
      · exact hr ⟨_, .join ht⟩
    obtain ⟨d', hlike, hback⟩ := h.back hl ht hfree hd
    refine ⟨d', hlike, fun s' hs' => ?_⟩
    obtain ⟨t', q', u', e', ht', hfree', hstep', he, hlike'⟩ := hback s' hs'
    refine ⟨_, e', ?_, .thread ht' hstep', he, hlike'⟩
    rintro ⟨_, hturned⟩
    cases hturned with
    | idle ht =>
      obtain rfl := Option.some.inj (ht'.symm.trans ht)
      exact hfree' (.idle _)
    | join ht =>
      obtain rfl := Option.some.inj (ht'.symm.trans ht)
      exact hfree' (.join _)

/-! ### Refused calls, left out -/

/-- For every run there are programs that leave its refused calls out and run the same way. -/
theorem exists_spared (h : Runs s n) (hl : s.Listing) :
    ∃ d, s.Like Work.Spares Plan.Spares d ∧ ∀ s', d.Like Eq Eq s' → ∃ n', Spared s s' n n' := by
  -- From the end of the run: where nothing is left to be made, the programs are those that are there.
  induction h using Relation.ReflTransGen.head_induction_on with
  | refl =>
    have hlike : n.Like Work.Spares Plan.Spares n := .refl .refl .refl n
    exact ⟨n, hlike, fun s' hs' => ⟨s', .done (hlike.trans_eq hs')⟩⟩
  | @head s s₁ hstep _ ih =>
    obtain ⟨d₁, hd₁, hruns⟩ := ih (hl.step hstep)
    obtain ⟨party, e, hacts⟩ := hstep.exists_acts
    by_cases hr : s.Refused party
    · obtain ⟨s₁, hturned⟩ := hr
      obtain ⟨-, rfl⟩ := hturned.only hacts
      have hlike := hturned.like hd₁
      refine ⟨d₁, hlike, fun s' hs' => ?_⟩
      obtain ⟨n', hrest⟩ := hruns s' hs'
      exact ⟨n', .without (hlike.trans_eq hs') hturned hrest⟩
    · obtain ⟨d, hlike, hback⟩ := hacts.back hl hr hd₁
      refine ⟨d, hlike, fun s' hs' => ?_⟩
      obtain ⟨s₁', e', hr', hacts', he, hlike₁⟩ := hback s' hs'
      obtain ⟨n', hrest⟩ := hruns s₁' hlike₁
      exact ⟨n', .both (hlike.trans_eq hs') hr hr' hacts hacts' he hrest⟩

/-- Threads that agree with threads at their start are at their start. -/
theorem exists_plans_of_like {plans : List (Plan σ)} {threads : List (Thread σ)}
    (h : List.Forall₂ (Thread.Like Plan.Spares) (plans.map .free) threads) :
    ∃ plans', threads = plans'.map .free ∧ List.Forall₂ Plan.Spares plans plans' := by
  rw [List.forall₂_map_left_iff] at h
  induction h with
  | nil => exact ⟨[], rfl, .nil⟩
  | cons hthread _ ih =>
    obtain ⟨plans', rfl, hplans⟩ := ih
    cases hthread with
    | @free _ plan h => exact ⟨plan :: plans', rfl, .cons h hplans⟩

/-- For every run from the start there are plans that leave its refused calls out and run the same
way. -/
theorem exists_spared_start {config : PoolConfig} {here : Path} {world : σ} {plans : List (Plan σ)}
    (h : Runs (start config here world plans) n) :
    ∃ plans' n', List.Forall₂ Plan.Spares plans plans' ∧
      Spared (start config here world plans) (start config here world plans') n n' := by
  obtain ⟨d, hlike, hruns⟩ := exists_spared h (Reachable.listing .start)
  obtain ⟨plans', hthreads, hplans⟩ := exists_plans_of_like hlike.threads
  have htasks : d.pool.tasks = [] := List.forall₂_nil_left_iff.1 hlike.pool.tasks
  have hstart : d.Like Eq Eq (start config here world plans') := by
    refine ⟨⟨hlike.pool.config.symm, hlike.pool.here.symm, hlike.pool.free.symm,
      hlike.pool.world.symm, hlike.pool.running.symm, ?_⟩, ?_, hlike.returned.symm⟩
    · rw [htasks]
      exact .nil
    · rw [hthreads]
      exact List.forall₂_same.2 fun t _ => .refl (fun _ => rfl) t
  obtain ⟨n', hspared⟩ := hruns _ hstart
  exact ⟨plans', n', hplans, hspared⟩

end SharedPool

end NativeBuild