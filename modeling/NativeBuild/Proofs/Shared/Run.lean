import Mathlib.Logic.Relation
import NativeBuild.Proofs.Pool.Step
import NativeBuild.Proofs.Shared.Basic

/-!
The calls of a pool that only one thread uses are runs of that thread: each of them is one order of
the thread's steps and the tasks' steps among all that there are.
-/

namespace NativeBuild

namespace SharedPool

variable {σ : Type} {p q : Pool σ}

/-- A pool in the hands of one thread. -/
def alone (p : Pool σ) (t : Thread σ) (returned : List TaskId) : SharedPool σ :=
  ⟨p, [t], returned⟩

/-- A run of steps. -/
def Runs : SharedPool σ → SharedPool σ → Prop :=
  Relation.ReflTransGen Step

theorem Runs.trans {s s' s'' : SharedPool σ} (h : Runs s s') (h' : Runs s' s'') : Runs s s'' :=
  Relation.ReflTransGen.trans h h'

theorem Reachable.runs {config : PoolConfig} {here : Path} {world : σ} {plans : List (Plan σ)}
    {s s' : SharedPool σ} (h : Reachable config here world plans s) (hr : Runs s s') :
    Reachable config here world plans s' := by
  induction hr with
  | refl => exact h
  | tail _ hstep ih => exact ih.step hstep

theorem runs_thread {t u : Thread σ} {returned ids : List TaskId} {e : Event σ}
    (h : ThreadStep (alone p t returned) t q u ids e) :
    Runs (alone p t returned) (alone q u (returned ++ ids)) :=
  .single (.thread (c := 0) rfl h)

theorem runs_quiet {t u : Thread σ} {returned : List TaskId}
    (h : ThreadStep (alone p t returned) t q u [] .quiet) :
    Runs (alone p t returned) (alone q u returned) := by
  have := runs_thread h
  rwa [List.append_nil] at this

/-- A pool that runs until it rests makes steps of tasks. -/
theorem runs_settle (p : Pool σ) (t : Thread σ) (returned : List TaskId) :
    ∃ returned', Runs (alone p t returned) (alone p.settle t returned') := by
  fun_induction Pool.settle p generalizing returned with
  | case1 p h => exact ⟨returned, .refl⟩
  | case2 p q h ih =>
    obtain ⟨i, hstep⟩ := Pool.step_of_advance? h
    obtain ⟨returned', hrun⟩ := ih (returned ++ returning p i)
    exact ⟨returned', .head (.task hstep) hrun⟩

/-- A submission that returns, from where its task is listed. -/
theorem runs_listed {caller : Caller} {spec : TaskSpec} {body : List Path → Work σ} {id : TaskId}
    (h : p.submit caller spec body = (q, id, .returned)) (next : TaskId → Plan σ)
    (returned : List TaskId) :
    ∃ returned', Runs (alone (p.enlist (Task.fresh spec body)).1
        (.listed caller p.tasks.length next) returned)
      (alone q (.free (next id)) returned') := by
  obtain ⟨rfl, ⟨hm, rfl⟩ | ⟨hm, rfl, rfl, he⟩⟩ := Pool.submit_returned h
  · have spawned : Runs (alone (p.enlist (Task.fresh spec body)).1
        (.listed caller p.tasks.length next) returned) _ := runs_quiet (.spawn (.inl hm))
    exact ⟨_, spawned.trans (runs_thread (.track ((Pool.spawn_config _ _).symm ▸ hm)))⟩
  · have spawned : Runs (alone (p.enlist (Task.fresh spec body)).1
        (.listed .outside p.tasks.length next) returned) _ := runs_quiet (.spawn (.inr rfl))
    obtain ⟨returned', settled⟩ := runs_settle
      ((p.enlist (Task.fresh spec body)).1.spawn p.tasks.length) (.spawned p.tasks.length next)
      returned
    have hm' : (alone ((p.enlist (Task.fresh spec body)).1.spawn p.tasks.length).settle
        (.spawned p.tasks.length next) returned').pool.config.mode = .inline := by
      show (Pool.settle _).config.mode = .inline
      rw [Pool.settle_config, Pool.spawn_config]
      exact hm
    exact ⟨_, (spawned.trans settled).trans (runs_thread (.conclude hm' he))⟩

/-- A submission that returns. -/
theorem runs_submit {caller : Caller} {spec : TaskSpec} {body : List Path → Work σ} {id : TaskId}
    (h : p.submit caller spec body = (q, id, .returned)) (next : TaskId → Plan σ)
    (returned : List TaskId) :
    ∃ returned', Runs (alone p (.free (.submit caller spec body next)) returned)
      (alone q (.free (next id)) returned') := by
  have listed : Runs (alone p (.free (.submit caller spec body next)) returned)
      (alone (p.enlist (Task.fresh spec body)).1 (.listed caller p.tasks.length next) returned) :=
    runs_quiet .enlist
  obtain ⟨returned', hrun⟩ := runs_listed h next returned
  exact ⟨returned', listed.trans hrun⟩

/-- A thread goes past the tasks that it waits for when they have all ended. -/
theorem runs_pass (due : List TaskId) {batch : List TaskId} (aim : Aim σ) (returned : List TaskId)
    (h : ∀ k ∈ batch, (p.ending? k).isSome = true) :
    Runs (alone p (.waiting due batch aim) returned) (alone p (.waiting due [] aim) returned) := by
  induction batch with
  | nil => exact .refl
  | cons k rest ih =>
    have hpass : Runs (alone p (.waiting due (k :: rest) aim) returned)
        (alone p (.waiting due rest aim) returned) :=
      runs_quiet (.pass (h k List.mem_cons_self))
    exact hpass.trans (ih fun j hj => h j (List.mem_cons_of_mem _ hj))

/-- A wait that comes to an end. -/
theorem runs_waitRounds (h : p.waitRounds = (q, true)) (due : List TaskId) (aim : Aim σ)
    (returned : List TaskId) :
    q.running = [] ∧ ∃ returned', Runs (alone p (.waiting due [] aim) returned)
      (alone q (.waiting due [] aim) returned') := by
  fun_induction Pool.waitRounds p generalizing returned with
  | case1 p hempty =>
    obtain ⟨rfl, -⟩ := h
    exact ⟨List.isEmpty_iff.1 hempty, returned, .refl⟩
  | case2 p hne hall ih =>
    have taken : Runs (alone p (.waiting due [] aim) returned)
        (alone { p with running := [] } (.waiting due p.running aim) returned) :=
      runs_quiet (.take fun he => hne (List.isEmpty_iff.2 he))
    obtain ⟨returned', settled⟩ :=
      runs_settle { p with running := [] } (.waiting due p.running aim) returned
    have passed := runs_pass due aim returned' (List.all_eq_true.1 hall)
    obtain ⟨hrunning, returned'', rest⟩ := ih h returned'
    exact ⟨hrunning, returned'', ((taken.trans settled).trans passed).trans rest⟩
  | case3 p hne hall => exact nomatch h

/-- A thread reads the tasks that it has not seen yet, one after another. -/
theorem runs_look (due late returned : List TaskId) (next : Except Failure Report → Plan σ)
    {n k : Nat} (hk : n + k = p.tasks.length) :
    Runs (alone p (.reading due late p.tasks.length (p.tasks.take n) next) returned)
      (alone p (.reading due late p.tasks.length p.tasks next) returned) := by
  induction k generalizing n with
  | zero =>
    rw [List.take_of_length_le (by omega)]
    exact .refl
  | succ k ih =>
    have hn : n < p.tasks.length := by omega
    have hlen : (p.tasks.take n).length = n := List.length_take_of_le (Nat.le_of_lt hn)
    have hlook : Runs (alone p (.reading due late p.tasks.length (p.tasks.take n) next) returned)
        (alone p (.reading due late p.tasks.length (p.tasks.take n ++ [p.tasks[n]]) next) returned) :=
      runs_quiet (.look (by rw [hlen]; exact hn) (by rw [hlen]; exact List.getElem?_eq_getElem hn))
    rw [List.take_append_getElem hn] at hlook
    exact hlook.trans (ih (by omega))

/-- A report that returns, from where the thread waits for no task in particular. -/
theorem runs_waiting (h : p.waitRounds = (q, true)) (due : List TaskId)
    (next : Except Failure Report → Plan σ) (returned : List TaskId) :
    ∃ late returned', Runs (alone p (.waiting due [] (.report next)) returned)
      (alone q (.reading due late q.tasks.length q.tasks next) returned') := by
  obtain ⟨hrunning, returned', waited⟩ := runs_waitRounds h due (.report next) returned
  have read : Runs (alone q (.waiting due [] (.report next)) returned')
      (alone q (.reading due ((alone q (.waiting due [] (.report next)) returned').late due)
        q.tasks.length [] next) returned') :=
    runs_quiet (.read hrunning)
  have looked := runs_look due
    ((alone q (.waiting due [] (.report next)) returned').late due) returned' next
    (Nat.zero_add q.tasks.length)
  exact ⟨_, returned', (waited.trans read).trans looked⟩

/-- A report that returns. -/
theorem runs_joinAll {answer : Except Failure Report} (h : p.joinAll .outside = (q, some answer))
    (next : Except Failure Report → Plan σ) (returned : List TaskId) :
    answer = q.verdict ∧ ∃ due late returned', Runs (alone p (.free (.joinAll .outside next)) returned)
      (alone q (.reading due late q.tasks.length q.tasks next) returned') := by
  cases hw : p.waitRounds with
  | mk r idle =>
    cases idle with
    | false => simp [Pool.joinAll, Pool.waitIdle, Pool.mayWait, hw] at h
    | true =>
      simp only [Pool.joinAll, Pool.waitIdle, Pool.mayWait, hw, if_true, Prod.mk.injEq,
        Option.some.injEq] at h
      obtain ⟨rfl, rfl⟩ := h
      have begun : Runs (alone p (.free (.joinAll .outside next)) returned)
          (alone p (.waiting returned [] (.report next)) returned) := runs_quiet (.beginJoin rfl)
      obtain ⟨late, returned', waited⟩ := runs_waiting hw returned next returned
      exact ⟨rfl, returned, late, returned', begun.trans waited⟩

end SharedPool

end NativeBuild
