import NativeBuild.Proofs.Shared.Alike
import NativeBuild.Proofs.Shared.Moves

/-!
Steps of a shared pool, backwards.  A step that is no refused call can be made before any shared
pool that agrees with the one after it; what the programs are to be before the step is found from
what is left of them after it.
-/

namespace NativeBuild


/-- Whether the task `i` is about to ask for an outcome that is not there yet. -/
def Pool.Refuses {σ : Type} (p : Pool σ) (i : TaskId) : Prop :=
  ∃ t other next, p.tasks[i]? = some t ∧ t.stage = .working (.ask other next) ∧
    p.outcome? other = none

/-- Whether a thread is about to wait for all tasks from inside the runtime. -/
inductive Thread.IsRefused {σ : Type} : Thread σ → Prop where
  | idle (next : Except Failure Unit → Plan σ) : IsRefused (.free (.waitIdle .inside next))
  | join (next : Except Failure Report → Plan σ) : IsRefused (.free (.joinAll .inside next))

/-- Events that tell the same: of the tasks that a report has read, what it says of them. -/
inductive Event.Same {σ : Type} : Event σ → Event σ → Prop where
  | quiet : Same .quiet .quiet
  | idled (due late : List TaskId) : Same (.idled due late) (.idled due late)
  | joined {due late : List TaskId} {seen seen' : List (Task σ)} {answer : Except Failure Report}
    (h : seen'.map Task.face = seen.map Task.face) :
    Same (.joined due late seen answer) (.joined due late seen' answer)

open Classical in
/-- Go on as `b` after the answer `a`, and otherwise as `f` says. -/
noncomputable def goingOn {α β : Type} (f : α → β) (a : α) (b : β) : α → β :=
  fun x => if x = a then b else f x

theorem goingOn_self {α β : Type} (f : α → β) (a : α) (b : β) : goingOn f a b a = b :=
  if_pos rfl

theorem goingOn_like {α β : Type} {R : β → β → Prop} (hR : ∀ b, R b b) {f : α → β} {a : α} {b : β}
    (h : R (f a) b) (x : α) : R (f x) (goingOn f a b x) := by
  unfold goingOn
  split
  · next hx =>
    rw [hx]
    exact h
  · exact hR (f x)

/-! ### A step of a task, backwards -/

namespace Pool

variable {σ : Type} {p q d : Pool σ} {i : TaskId} {t u : Task σ}

/-- Pools that agree but for their tasks. -/
structure Agrees (p p' : Pool σ) : Prop where
  config : p'.config = p.config
  here : p'.here = p.here
  free : p'.free = p.free
  world : p'.world = p.world
  running : p'.running = p.running

theorem Agrees.setTask {p' : Pool σ} (h : p.Agrees p') (i : TaskId) (t u : Task σ) :
    (p.setTask i t).Agrees (p'.setTask i u) :=
  ⟨h.config, h.here, h.free, h.world, h.running⟩

theorem Agrees.enlist {p' : Pool σ} (h : p.Agrees p') (t u : Task σ) :
    (p.enlist t).1.Agrees (p'.enlist u).1 :=
  ⟨h.config, h.here, h.free, h.world, h.running⟩

theorem Like.agrees {W : Work σ → Work σ → Prop} {p' : Pool σ} (h : p.Like W p') : p.Agrees p' :=
  ⟨h.config, h.here, h.free, h.world, h.running⟩

/-- Two pools that agree with a third one agree with each other. -/
theorem Agrees.like {W : Work σ → Work σ → Prop} {p' : Pool σ} (h : p.Agrees p') (hd : p.Like W d)
    (ht : List.Forall₂ (Task.Like Eq) d.tasks p'.tasks) : d.Like Eq p' where
  config := h.config.trans hd.config.symm
  here := h.here.trans hd.here.symm
  free := h.free.trans hd.free.symm
  world := h.world.trans hd.world.symm
  running := h.running.trans hd.running.symm
  tasks := ht

/-- Before `d` there is a pool which agrees with `p`, and from which the task `i` leads there by a
step that is no refused call. -/
def CanPrecede (p : Pool σ) (i : TaskId) (d : Pool σ) : Prop :=
  ∃ d', p.Like Work.Spares d' ∧ ∀ p', d'.Like Eq p' →
    ∃ q', p'.step? i = some q' ∧ ¬ p'.Refuses i ∧ d.Like Eq q'

/-- Where a step changes one task and lists others, what that task is to be before the step is found
from what it and the others are after it. -/
theorem Like.back {news : List (Task σ)} (ht : p.tasks[i]? = some t)
    (hq : q.tasks = p.tasks.set i u ++ news) (hd : q.Like Work.Spares d)
    (hcase : ∀ stage body news', u.stage.Like Work.Spares stage →
      (u.stage.IsEarly → ∀ inputs, (u.body inputs).Spares (body inputs)) →
      List.Forall₂ (Task.Like Work.Spares) news news' →
      ∃ stage' body', t.stage.Like Work.Spares stage' ∧
        (t.stage.IsEarly → ∀ inputs, (t.body inputs).Spares (body' inputs)) ∧
        (∀ other next, stage' = .working (.ask other next) → p.outcome? other ≠ none) ∧
        ∀ (p' : Pool σ) body'', p.Like Work.Spares p' →
          (t.stage.IsEarly → body'' = body') → ∃ q' u' news'',
          TaskStep p' i { t with stage := stage', body := body'' } q' ∧
          q'.tasks = p'.tasks.set i u' ++ news'' ∧
          Task.Like Eq { u with stage, body } u' ∧
          List.Forall₂ (Task.Like Eq) news' news'' ∧ q.Agrees q') :
    p.CanPrecede i d := by
  -- What the task and the new ones are after the step stands in `d`; all others are as they are there.
  have htasks := hd.tasks
  rw [hq] at htasks
  obtain ⟨first, news', hsplit, hfirst, hnews⟩ := forall₂_append_left htasks
  have hu : (p.tasks.set i u)[i]? = some u :=
    List.getElem?_set_self (List.getElem?_eq_some_iff.1 ht).1
  obtain ⟨after, hafter, hlike⟩ := exists_getElem?_of_forall₂ hfirst hu
  obtain ⟨stage', body', hstage, hbody, hask, hstep⟩ :=
    hcase after.stage after.body news' hlike.stage hlike.body hnews
  have hfields : after = { u with stage := after.stage, body := after.body } := by
    rw [← hlike.spec, ← hlike.state, ← hlike.calls]
  have hbefore : p.Like Work.Spares { p with
      tasks := first.set i { t with stage := stage', body := body' } } :=
    ⟨rfl, rfl, rfl, rfl, rfl, forall₂_set_back hfirst ht ⟨rfl, rfl, rfl, hstage, hbody⟩⟩
  refine ⟨_, hbefore, fun p' hp' => ?_⟩
  have hlt := (List.getElem?_eq_some_iff.1 hafter).1
  obtain ⟨t', ht', hlike'⟩ := exists_getElem?_of_forall₂ hp'.tasks (List.getElem?_set_self hlt)
  have ht'_eq : t' = { t with stage := stage', body := t'.body } := by
    have hspec := hlike'.spec
    have hstate := hlike'.state
    have hcalls := hlike'.calls
    have hstage' := hlike'.stage.eq
    cases t'
    cases hspec
    cases hstate
    cases hcalls
    cases hstage'
    rfl
  have hbody' : t.stage.IsEarly → t'.body = body' := fun hearly =>
    funext fun inputs =>
      (hlike'.body ((hstage.eq_of_isEarly hearly).symm ▸ hearly) inputs).symm
  obtain ⟨q', u', news'', htask, htasks', hu', hnews', hagrees⟩ :=
    hstep p' t'.body (hbefore.trans_eq hp') hbody'
  rw [← ht'_eq] at htask
  refine ⟨q', htask.step? ht', ?_, ?_⟩
  · rintro ⟨t₁, other, next, ht₁, hasking, hnone⟩
    obtain rfl := Option.some.inj (ht'.symm.trans ht₁)
    rw [ht'_eq] at hasking
    exact hask other next hasking ((hbefore.trans_eq hp').outcome?_eq other ▸ hnone)
  · rw [← hfields] at hu'
    refine hagrees.like hd ?_
    rw [hsplit, htasks']
    exact List.rel_append (forall₂_set_back hp'.tasks hafter hu') hnews'

/-- The same for a step that lists no task. -/
theorem Like.back_set (ht : p.tasks[i]? = some t) (hq : q.tasks = p.tasks.set i u)
    (hd : q.Like Work.Spares d)
    (hcase : ∀ stage body, u.stage.Like Work.Spares stage →
      (u.stage.IsEarly → ∀ inputs, (u.body inputs).Spares (body inputs)) →
      ∃ stage' body', t.stage.Like Work.Spares stage' ∧
        (t.stage.IsEarly → ∀ inputs, (t.body inputs).Spares (body' inputs)) ∧
        (∀ other next, stage' = .working (.ask other next) → p.outcome? other ≠ none) ∧
        ∀ (p' : Pool σ) body'', p.Like Work.Spares p' →
          (t.stage.IsEarly → body'' = body') → ∃ q' u',
          TaskStep p' i { t with stage := stage', body := body'' } q' ∧
          q'.tasks = p'.tasks.set i u' ∧
          Task.Like Eq { u with stage, body } u' ∧ q.Agrees q') :
    p.CanPrecede i d := by
  refine Like.back ht (hq.trans (List.append_nil _).symm) hd
    fun stage body news' hstage hbody hnews => ?_
  cases hnews
  obtain ⟨stage', body', hstage', hbody', hask, hstep⟩ := hcase stage body hstage hbody
  refine ⟨stage', body', hstage', hbody', hask, fun p' body'' hp' heq => ?_⟩
  obtain ⟨q', u', htask, htasks, hu', hagrees⟩ := hstep p' body'' hp' heq
  exact ⟨q', u', [], htask, htasks.trans (List.append_nil _).symm, hu', .nil, hagrees⟩

/-- A step that gathers inputs, or calls the work with them. -/
theorem TaskStep.back_early (ht : p.tasks[i]? = some t) (h : TaskStep p i t q)
    (hearly : t.stage.IsEarly) (hd : q.Like Work.Spares d) : p.CanPrecede i d := by
  have same : ∀ w : Work σ, w = w := fun _ => rfl
  obtain ⟨spec, called, state, stage, calls⟩ := t
  cases h with
  | start hs =>
    cases hs
    refine Like.back_set ht rfl hd fun stage body hstage hbody => ?_
    cases hstage
    refine ⟨.created, body, .created, hbody, nofun, fun p' body' hp' heq => ?_⟩
    obtain rfl := heq trivial
    exact ⟨_, _, .start rfl, rfl, .refl same _, hp'.agrees.setTask _ _ _⟩
  | @find found ref rest path hs h =>
    cases hs
    refine Like.back_set ht rfl hd fun stage body hstage hbody => ?_
    cases hstage
    refine ⟨.gathering found (ref :: rest), body, .gathering _ _, hbody, nofun,
      fun p' body' hp' heq => ?_⟩
    obtain rfl := heq trivial
    exact ⟨_, _, .find rfl ((hp'.pathNow?_eq ref).trans h), rfl, .refl same _,
      hp'.agrees.setTask _ _ _⟩
  | @refuse found ref rest e hs h =>
    cases hs
    refine Like.back_set ht rfl hd fun stage body hstage _ => ?_
    cases hstage
    refine ⟨.gathering found (ref :: rest), called, .gathering _ _, fun _ _ => .refl _, nofun,
      fun p' body' hp' _ => ?_⟩
    refine ⟨_, _, .refuse rfl ((hp'.pathNow?_eq ref).trans h), rfl, ?_, hp'.agrees.setTask _ _ _⟩
    exact ⟨rfl, rfl, rfl, .ended false, False.elim⟩
  | @call found hs h =>
    cases hs
    refine Like.back_set ht rfl hd fun stage body hstage _ => ?_
    cases hstage with
    | @working _ w hw =>
      refine ⟨.gathering found [], goingOn called found w, .gathering _ _,
        fun _ => goingOn_like .refl hw, nofun, fun p' body' hp' heq => ?_⟩
      obtain rfl := heq trivial
      refine ⟨_, _, .call rfl (hp'.free ▸ h), rfl, ?_, ?_⟩
      · exact ⟨rfl, rfl, rfl, .working (goingOn_self called found w).symm, False.elim⟩
      · exact ⟨hp'.config, hp'.here, congrArg (· - 1) hp'.free, hp'.world, hp'.running⟩
  | finish hs | unwind hs | act hs | await hs _ | ask hs | submit hs _ | abandon hs _ | track hs =>
    cases hs
    exact hearly.elim

/-- A step that the work makes, or for it. -/
theorem TaskStep.back_late (ht : p.tasks[i]? = some t) (h : TaskStep p i t q)
    (hlate : ¬ t.stage.IsEarly) (hr : ¬ p.Refuses i) (hd : q.Like Work.Spares d) :
    p.CanPrecede i d := by
  obtain ⟨spec, called, state, stage, calls⟩ := t
  cases h with
  | start hs | find hs _ | refuse hs _ | call hs _ =>
    cases hs
    exact absurd trivial hlate
  | @finish result hs =>
    cases hs
    refine Like.back_set ht rfl hd fun stage body hstage _ => ?_
    cases hstage
    refine ⟨.working (.done result), called, .working (.refl _), False.elim, nofun,
      fun p' body' hp' _ => ⟨_, _, .finish rfl, rfl, ?_, ?_⟩⟩
    · exact ⟨rfl, rfl, rfl, .ended false, False.elim⟩
    · exact ⟨hp'.config, hp'.here, congrArg (· + 1) hp'.free, hp'.world, hp'.running⟩
  | unwind hs =>
    cases hs
    refine Like.back_set ht rfl hd fun stage body hstage _ => ?_
    cases hstage
    refine ⟨.working .unwind, called, .working (.refl _), False.elim, nofun,
      fun p' body' hp' _ => ⟨_, _, .unwind rfl, rfl, ?_, ?_⟩⟩
    · exact ⟨rfl, rfl, rfl, .ended true, False.elim⟩
    · exact ⟨hp'.config, hp'.here, congrArg (· + 1) hp'.free, hp'.world, hp'.running⟩
  | @act effect next hs =>
    cases hs
    refine Like.back_set ht rfl hd fun stage body hstage _ => ?_
    cases hstage with
    | @working _ w hw =>
      refine ⟨.working (.act effect (goingOn next (effect p.world).2 w)), called,
        .working (.act (goingOn_like .refl hw)), False.elim, nofun,
        fun p' body' hp' _ => ⟨_, _, .act rfl, rfl, ?_, ?_⟩⟩
      · refine ⟨rfl, rfl, rfl, .working ?_, False.elim⟩
        rw [hp'.world]
        exact (goingOn_self next _ w).symm
      · refine ⟨hp'.config, hp'.here, hp'.free, ?_, hp'.running⟩
        exact congrArg (fun world => (effect world).1) hp'.world
  | @await ready next hs h =>
    cases hs
    refine Like.back_set ht rfl hd fun stage body hstage _ => ?_
    cases hstage with
    | @working _ w hw =>
      refine ⟨.working (.await ready w), called, .working (.await hw), False.elim, nofun,
        fun p' body' hp' _ => ⟨_, _, .await rfl (hp'.world ▸ h), rfl, ?_, hp'.agrees.setTask _ _ _⟩⟩
      exact ⟨rfl, rfl, rfl, .working rfl, False.elim⟩
  | @ask other next hs =>
    cases hs
    refine Like.back_set ht rfl hd fun stage body hstage _ => ?_
    cases hstage with
    | @working _ w hw =>
      -- The call is answered with an outcome, so the program must keep it, and go on as in `d` after
      -- this answer; after any other it may go on as before.
      have hanswered : p.outcome? other ≠ none := fun hnone => hr ⟨_, other, next, ht, rfl, hnone⟩
      refine ⟨.working (.ask other (goingOn next (p.answerInside other) w)), called,
        .working (.ask (goingOn_like .refl hw)), False.elim, ?_,
        fun p' body' hp' _ => ⟨_, _, .ask rfl, rfl, ?_, hp'.agrees.setTask _ _ _⟩⟩
      · rintro _ _ ⟨⟩
        exact hanswered
      · refine ⟨rfl, rfl, rfl, .working ?_, False.elim⟩
        rw [hp'.answerInside_eq]
        exact (goingOn_self next _ w).symm
  | @submit new body next hs hm =>
    cases hs
    refine Like.back ht rfl hd fun stage _ news' hstage _ hnews => ?_
    cases hstage with
    | @tracking _ _ w hw =>
      obtain ⟨listed, rfl, hlisted⟩ := forall₂_singleton hnews
      refine ⟨.working (.submit new listed.body (goingOn next p.tasks.length w)), called,
        .working (.submit (hlisted.body trivial) (goingOn_like .refl hw)), False.elim, nofun,
        fun p' body' hp' _ => ⟨_, _, _, .submit rfl (hp'.config ▸ hm), rfl, ?_, ?_, ?_⟩⟩
      · rw [hp'.length_eq]
        exact ⟨rfl, rfl, rfl, .tracking (goingOn_self next _ w).symm, False.elim⟩
      · exact .cons (hlisted.fresh trivial) .nil
      · exact ⟨hp'.config, hp'.here, hp'.free, hp'.world, hp'.running⟩
  | @abandon new body next hs hm =>
    cases hs
    refine Like.back ht rfl hd fun stage _ news' hstage _ hnews => ?_
    cases hstage
    obtain ⟨listed, rfl, hlisted⟩ := forall₂_singleton hnews
    refine ⟨.working (.submit new listed.body next), called,
      .working (.submit (hlisted.body trivial) fun _ => .refl _), False.elim, nofun,
      fun p' body' hp' _ => ⟨_, _, _, .abandon rfl (hp'.config ▸ hm), rfl, ?_, ?_, ?_⟩⟩
    · exact ⟨rfl, rfl, rfl, .ended true, False.elim⟩
    · exact .cons (hlisted.fresh trivial) .nil
    · exact ⟨hp'.config, hp'.here, congrArg (· + 1) hp'.free, hp'.world, hp'.running⟩
  | @track other work hs =>
    cases hs
    refine Like.back_set ht rfl hd fun stage body hstage _ => ?_
    cases hstage with
    | @working _ w hw =>
      refine ⟨.tracking other w, called, .tracking hw, False.elim, nofun,
        fun p' body' hp' _ => ⟨_, _, .track rfl, rfl, ?_, ?_⟩⟩
      · exact ⟨rfl, rfl, rfl, .working rfl, False.elim⟩
      · exact ⟨hp'.config, hp'.here, hp'.free, hp'.world, congrArg (· ++ [other]) hp'.running⟩

/-- A step of a task that is no refused call can be made before any step with the same end. -/
theorem TaskStep.back (ht : p.tasks[i]? = some t) (h : TaskStep p i t q) (hr : ¬ p.Refuses i)
    (hd : q.Like Work.Spares d) : p.CanPrecede i d := by
  by_cases hearly : t.stage.IsEarly
  · exact h.back_early ht hearly hd
  · exact h.back_late ht hearly hr hd

end Pool

/-! ### A step of a thread, backwards -/

namespace SharedPool

variable {σ : Type} {s d : SharedPool σ} {c : Nat} {t u : Thread σ} {q : Pool σ} {ids : List TaskId}
  {e : Event σ}

/-- Before `d` there is a shared pool which agrees with `s`, and from which the thread `c` leads
there by a step that is no refused call, with the same returns and an event that tells the same. -/
def CanPrecede (s : SharedPool σ) (c : Nat) (ids : List TaskId) (e : Event σ)
    (d : SharedPool σ) : Prop :=
  ∃ d', s.Like Work.Spares Plan.Spares d' ∧ ∀ s', d'.Like Eq Eq s' →
    ∃ t' q' u' e', s'.threads[c]? = some t' ∧ ¬ t'.IsRefused ∧ ThreadStep s' t' q' u' ids e' ∧
      e.Same e' ∧ d.Like Eq Eq ⟨q', s'.threads.set c u', s'.returned ++ ids⟩

/-- What a thread and the pool are to be before a step is found from what they are after it. -/
theorem Like.back (ht : s.threads[c]? = some t)
    (hd : Like Work.Spares Plan.Spares ⟨q, s.threads.set c u, s.returned ++ ids⟩ d)
    (hcase : ∀ after, u.Like Plan.Spares after →
      ∃ (before : Thread σ) (p : Pool σ), t.Like Plan.Spares before ∧ s.pool.Like Work.Spares p ∧
        ∀ (s' : SharedPool σ) t', s.Like Work.Spares Plan.Spares s' → p.Like Eq s'.pool →
          before.Like Eq t' → ∃ q' u' e', ¬ t'.IsRefused ∧ ThreadStep s' t' q' u' ids e' ∧
            e.Same e' ∧ d.pool.Like Eq q' ∧ after.Like Eq u') :
    s.CanPrecede c ids e d := by
  have hu : (s.threads.set c u)[c]? = some u :=
    List.getElem?_set_self (List.getElem?_eq_some_iff.1 ht).1
  obtain ⟨after, hafter, hlike⟩ := exists_getElem?_of_forall₂ hd.threads hu
  obtain ⟨before, p, hbefore, hp, hstep⟩ := hcase after hlike
  have hs : s.Like Work.Spares Plan.Spares ⟨p, d.threads.set c before, s.returned⟩ :=
    ⟨hp, forall₂_set_back hd.threads ht hbefore, rfl⟩
  refine ⟨_, hs, fun s' hs' => ?_⟩
  have hlt := (List.getElem?_eq_some_iff.1 hafter).1
  obtain ⟨t', ht', hlike'⟩ := exists_getElem?_of_forall₂ hs'.threads (List.getElem?_set_self hlt)
  obtain ⟨q', u', e', hr', hstep', he', hq', hu'⟩ := hstep s' t' (hs.trans_eq hs') hs'.pool hlike'
  refine ⟨t', q', u', e', ht', hr', hstep', he', hq', forall₂_set_back hs'.threads hafter hu', ?_⟩
  rw [hs'.returned, hd.returned]

/-- The same for a step that leaves the tasks as they are. -/
theorem Like.back_tasks (ht : s.threads[c]? = some t)
    (hd : Like Work.Spares Plan.Spares ⟨q, s.threads.set c u, s.returned ++ ids⟩ d)
    (hq : q.tasks = s.pool.tasks)
    (hcase : ∀ after, u.Like Plan.Spares after → ∃ before : Thread σ, t.Like Plan.Spares before ∧
      ∀ (s' : SharedPool σ) t', s.Like Work.Spares Plan.Spares s' → before.Like Eq t' →
        ∃ q' u' e', ¬ t'.IsRefused ∧ ThreadStep s' t' q' u' ids e' ∧ e.Same e' ∧
          q'.tasks = s'.pool.tasks ∧ q.Agrees q' ∧ after.Like Eq u') :
    s.CanPrecede c ids e d := by
  refine Like.back ht hd fun after hlike => ?_
  obtain ⟨before, hbefore, hstep⟩ := hcase after hlike
  have hp : s.pool.Like Work.Spares { s.pool with tasks := d.pool.tasks } :=
    ⟨rfl, rfl, rfl, rfl, rfl, hq ▸ hd.pool.tasks⟩
  refine ⟨before, _, hbefore, hp, fun s' t' hs' hpool hlike' => ?_⟩
  obtain ⟨q', u', e', hr', hstep', he', htasks', hagrees, hu'⟩ := hstep s' t' hs' hlike'
  exact ⟨q', u', e', hr', hstep', he', hagrees.like hd.pool (htasks' ▸ hpool.tasks), hu'⟩

theorem ThreadStep.back_listed {caller : Caller} {id : TaskId} {next : TaskId → Plan σ}
    (hl : s.Listing) (ht : s.threads[c]? = some (.listed caller id next))
    (h : ThreadStep s (.listed caller id next) q u ids e)
    (hd : Like Work.Spares Plan.Spares ⟨q, s.threads.set c u, s.returned ++ ids⟩ d) :
    s.CanPrecede c ids e d := by
  cases h with
  | @panic id next hm =>
    refine Like.back_tasks ht hd rfl fun after hlike => ?_
    cases hlike with
    | free hstop =>
      cases hstop
      refine ⟨.listed .inside id next, .refl .refl _, fun s' t' hs' hlike' => ?_⟩
      cases hlike' with
      | listed _ =>
        exact ⟨_, _, _, nofun, .panic (hs'.pool.config ▸ hm), .quiet, rfl, hs'.pool.agrees,
          .free rfl⟩
  | @spawn caller id next h =>
    obtain ⟨task, htask, hlisted⟩ := hl.listed c id _ ht rfl
    have hpool := hd.pool
    simp only [Pool.spawn_eq_setTask htask] at hpool
    obtain ⟨after, hafter, hlike⟩ := exists_getElem?_of_forall₂ hpool.tasks
      (List.getElem?_set_self (List.getElem?_eq_some_iff.1 htask).1)
    have hbefore : task.Like Work.Spares { task with body := after.body } :=
      ⟨rfl, rfl, rfl, .refl .refl _, fun _ => hlike.body trivial⟩
    refine Like.back ht hd fun after' hlike' => ?_
    cases hlike' with
    | @spawned _ _ next' hnext =>
      have hlisting : s.pool.Like Work.Spares
          { s.pool with tasks := d.pool.tasks.set id { task with body := after.body } } :=
        ⟨rfl, rfl, rfl, rfl, rfl, forall₂_set_back hpool.tasks htask hbefore⟩
      refine ⟨.listed caller id next', _, .listed hnext, hlisting, fun s' t' hs' hp hlike'' => ?_⟩
      cases hlike'' with
      | listed heq =>
        refine ⟨_, _, _, nofun, .spawn (hs'.pool.config ▸ h), .quiet, ?_, .spawned heq⟩
        obtain ⟨task', htask', hsame⟩ := exists_getElem?_of_forall₂ hp.tasks
          (List.getElem?_set_self (List.getElem?_eq_some_iff.1 hafter).1)
        rw [Pool.spawn_eq_setTask htask']
        refine (hs'.pool.agrees.setTask id _ _).like hpool (forall₂_set_back hp.tasks hafter ?_)
        refine ⟨hsame.spec.trans hlike.spec.symm, hsame.state.trans hlike.state.symm,
          hsame.calls.trans hlike.calls.symm, ?_, fun _ => hsame.body (hlisted ▸ trivial)⟩
        rw [hlike.stage.eq_of_isEarly trivial]
        exact .created

theorem ThreadStep.back_spawned {id : TaskId} {next : TaskId → Plan σ}
    (ht : s.threads[c]? = some (.spawned id next)) (h : ThreadStep s (.spawned id next) q u ids e)
    (hd : Like Work.Spares Plan.Spares ⟨q, s.threads.set c u, s.returned ++ ids⟩ d) :
    s.CanPrecede c ids e d := by
  cases h with
  | @track id next hm =>
    refine Like.back_tasks ht hd rfl fun after hlike => ?_
    cases hlike with
    | @free _ plan hplan =>
      refine ⟨.spawned id (goingOn next id plan), .spawned (goingOn_like .refl hplan),
        fun s' t' hs' hlike' => ?_⟩
      cases hlike' with
      | spawned heq =>
        refine ⟨_, _, _, nofun, .track (hs'.pool.config ▸ hm), .quiet, rfl, ?_, .free ?_⟩
        · exact ⟨hs'.pool.config, hs'.pool.here, hs'.pool.free, hs'.pool.world,
            congrArg (· ++ [id]) hs'.pool.running⟩
        · rw [← heq, goingOn_self]
  | @conclude id next hm he =>
    refine Like.back_tasks ht hd rfl fun after hlike => ?_
    cases hlike with
    | @free _ plan hplan =>
      refine ⟨.spawned id (goingOn next id plan), .spawned (goingOn_like .refl hplan),
        fun s' t' hs' hlike' => ?_⟩
      cases hlike' with
      | spawned heq =>
        refine ⟨_, _, _, nofun, .conclude (hs'.pool.config ▸ hm) ((hs'.pool.ending?_eq id).trans he),
          .quiet, rfl, hs'.pool.agrees, .free ?_⟩
        rw [← heq, goingOn_self]
  | @unwind id next hm he =>
    refine Like.back_tasks ht hd rfl fun after hlike => ?_
    cases hlike with
    | free hstop =>
      cases hstop
      refine ⟨.spawned id next, .refl .refl _, fun s' t' hs' hlike' => ?_⟩
      cases hlike' with
      | spawned _ =>
        exact ⟨_, _, _, nofun, .unwind (hs'.pool.config ▸ hm) ((hs'.pool.ending?_eq id).trans he),
          .quiet, rfl, hs'.pool.agrees, .free rfl⟩

theorem ThreadStep.back_free {plan : Plan σ} (ht : s.threads[c]? = some (.free plan))
    (h : ThreadStep s (.free plan) q u ids e) (hr : ¬ (Thread.free plan).IsRefused)
    (hd : Like Work.Spares Plan.Spares ⟨q, s.threads.set c u, s.returned ++ ids⟩ d) :
    s.CanPrecede c ids e d := by
  cases h with
  | @act effect next =>
    refine Like.back_tasks ht hd rfl fun after hlike => ?_
    cases hlike with
    | @free _ plan hplan =>
      refine ⟨.free (.act effect plan), .free (.act hplan), fun s' t' hs' hlike' => ?_⟩
      cases hlike' with
      | free heq =>
        subst heq
        refine ⟨_, _, _, nofun, .act, .quiet, rfl, ?_, .free rfl⟩
        exact ⟨hs'.pool.config, hs'.pool.here, hs'.pool.free, congrArg effect hs'.pool.world,
          hs'.pool.running⟩
  | @enlist caller spec body next =>
    -- The body that is submitted is the one that the listed task has in `d`.
    obtain ⟨first, rest, hsplit, hfirst, hrest⟩ := forall₂_append_left hd.pool.tasks
    obtain ⟨listed, rfl, hlisted⟩ := forall₂_singleton hrest
    refine Like.back ht hd fun after hlike => ?_
    cases hlike with
    | @listed _ _ _ next' hnext =>
      refine ⟨.free (.submit caller spec listed.body next'), { s.pool with tasks := first },
        .free (.submit (hlisted.body trivial) hnext), ⟨rfl, rfl, rfl, rfl, rfl, hfirst⟩,
        fun s' t' hs' hpool hlike' => ?_⟩
      cases hlike' with
      | free heq =>
        subst heq
        refine ⟨_, _, _, nofun, .enlist, .quiet, ?_, ?_⟩
        · refine Pool.Agrees.like (hs'.pool.agrees.enlist _ _) hd.pool ?_
          rw [hsplit]
          exact List.rel_append hpool.tasks (.cons (hlisted.fresh trivial) .nil)
        · rw [hs'.pool.length_eq]
          exact .refl (fun _ => rfl) _
  | @refuseIdle caller next e h =>
    cases caller with
    | outside => exact nomatch h
    | inside => exact absurd (.idle next) hr
  | @refuseJoin caller next e h =>
    cases caller with
    | outside => exact nomatch h
    | inside => exact absurd (.join next) hr
  | @beginIdle caller next h =>
    refine Like.back_tasks ht hd rfl fun after hlike => ?_
    cases hlike with
    | waiting haim =>
      cases haim with
      | @idle _ next' hnext =>
        refine ⟨.free (.waitIdle caller next'), .free (.waitIdle hnext), fun s' t' hs' hlike' => ?_⟩
        cases hlike' with
        | free heq =>
          subst heq
          refine ⟨_, _, _, ?_, .beginIdle h, .quiet, rfl, hs'.pool.agrees, ?_⟩
          · rintro ⟨⟩
            exact nomatch h
          · rw [hs'.returned]
            exact .refl (fun _ => rfl) _
  | @beginJoin caller next h =>
    refine Like.back_tasks ht hd rfl fun after hlike => ?_
    cases hlike with
    | waiting haim =>
      cases haim with
      | @report _ next' hnext =>
        refine ⟨.free (.joinAll caller next'), .free (.joinAll hnext), fun s' t' hs' hlike' => ?_⟩
        cases hlike' with
        | free heq =>
          subst heq
          refine ⟨_, _, _, ?_, .beginJoin h, .quiet, rfl, hs'.pool.agrees, ?_⟩
          · rintro ⟨⟩
            exact nomatch h
          · rw [hs'.returned]
            exact .refl (fun _ => rfl) _

theorem ThreadStep.back_waiting {due batch : List TaskId} {aim : Aim σ}
    (ht : s.threads[c]? = some (.waiting due batch aim))
    (h : ThreadStep s (.waiting due batch aim) q u ids e)
    (hd : Like Work.Spares Plan.Spares ⟨q, s.threads.set c u, s.returned ++ ids⟩ d) :
    s.CanPrecede c ids e d := by
  cases h with
  | @pass due rest id aim he =>
    refine Like.back_tasks ht hd rfl fun after hlike => ?_
    cases hlike with
    | @waiting _ _ _ aim' haim =>
      refine ⟨.waiting due (id :: rest) aim', .waiting haim, fun s' t' hs' hlike' => ?_⟩
      cases hlike' with
      | waiting heq =>
        exact ⟨_, _, _, nofun, .pass ((hs'.pool.ending?_eq id).symm ▸ he), .quiet, rfl,
          hs'.pool.agrees, .waiting heq⟩
  | @take due aim hrunning =>
    refine Like.back_tasks ht hd rfl fun after hlike => ?_
    cases hlike with
    | @waiting _ _ _ aim' haim =>
      refine ⟨.waiting due [] aim', .waiting haim, fun s' t' hs' hlike' => ?_⟩
      cases hlike' with
      | waiting heq =>
        refine ⟨_, _, _, nofun, .take (hs'.pool.running ▸ hrunning), .quiet, rfl, ?_, ?_⟩
        · exact ⟨hs'.pool.config, hs'.pool.here, hs'.pool.free, hs'.pool.world, rfl⟩
        · rw [hs'.pool.running]
          exact .waiting heq
  | @idle due next hrunning =>
    refine Like.back_tasks ht hd rfl fun after hlike => ?_
    cases hlike with
    | @free _ plan hplan =>
      refine ⟨.waiting due [] (.idle (goingOn next (.ok ()) plan)),
        .waiting (.idle (goingOn_like .refl hplan)), fun s' t' hs' hlike' => ?_⟩
      cases hlike' with
      | waiting haim =>
        cases haim with
        | idle heq =>
          refine ⟨_, _, _, nofun, .idle (hs'.pool.running ▸ hrunning), ?_, rfl, hs'.pool.agrees,
            .free ?_⟩
          · rw [hs'.late_eq]
            exact .idled _ _
          · rw [← heq, goingOn_self]
  | @read due next hrunning =>
    refine Like.back_tasks ht hd rfl fun after hlike => ?_
    cases hlike with
    | @reading _ _ _ _ seen' _ next' hseen hnext =>
      refine ⟨.waiting due [] (.report next'), .waiting (.report hnext), fun s' t' hs' hlike' => ?_⟩
      cases hlike' with
      | waiting haim =>
        cases haim with
        | report heq =>
          refine ⟨_, _, _, nofun, .read (hs'.pool.running ▸ hrunning), .quiet, rfl, hs'.pool.agrees,
            ?_⟩
          rw [hs'.late_eq, hs'.pool.length_eq]
          exact .reading hseen.symm heq

theorem ThreadStep.back_reading {due late : List TaskId} {count : Nat} {seen : List (Task σ)}
    {next : Except Failure Report → Plan σ}
    (ht : s.threads[c]? = some (.reading due late count seen next))
    (h : ThreadStep s (.reading due late count seen next) q u ids e)
    (hd : Like Work.Spares Plan.Spares ⟨q, s.threads.set c u, s.returned ++ ids⟩ d) :
    s.CanPrecede c ids e d := by
  cases h with
  | @look due late count seen task next hlt hread =>
    refine Like.back_tasks ht hd rfl fun after hlike => ?_
    cases hlike with
    | @reading _ _ _ _ seen' _ next' hseen hnext =>
      refine ⟨.reading due late count seen next', .reading rfl hnext, fun s' t' hs' hlike' => ?_⟩
      cases hlike' with
      | @reading _ _ _ _ seen'' _ next'' hseen' heq =>
        have hlen : seen''.length = seen.length := by simpa using congrArg List.length hseen'
        obtain ⟨task', htask', hface⟩ := exists_getElem?_of_forall₂ hs'.pool.tasks hread
        refine ⟨_, _, _, nofun, .look (hlen ▸ hlt) (hlen ▸ htask'), .quiet, rfl, hs'.pool.agrees,
          .reading ?_ heq⟩
        rw [hseen, List.map_append, List.map_append, hseen', List.map_singleton,
          List.map_singleton, hface.face_eq]
  | @join due late seen next =>
    refine Like.back_tasks ht hd rfl fun after hlike => ?_
    cases hlike with
    | @free _ plan hplan =>
      refine ⟨.reading due late seen.length seen (goingOn next _ plan),
        .reading rfl (goingOn_like .refl hplan), fun s' t' hs' hlike' => ?_⟩
      cases hlike' with
      | @reading _ _ _ _ seen'' _ next'' hseen' heq =>
        have hlen : seen.length = seen''.length := by
          simpa using (congrArg List.length hseen').symm
        have hverdict : Pool.verdict { s'.pool with tasks := seen'' } =
            Pool.verdict { s.pool with tasks := seen } :=
          Pool.verdict_eq_of_face hs'.pool.config hseen'
        rw [hlen]
        refine ⟨_, _, _, nofun, .join, ?_, rfl, hs'.pool.agrees, .free ?_⟩
        · rw [hverdict]
          exact .joined hseen'
        · rw [hverdict, ← heq, goingOn_self]

/-- A step of a thread that is no refused call can be made before any step with the same end. -/
theorem ThreadStep.back (hl : s.Listing) (ht : s.threads[c]? = some t)
    (h : ThreadStep s t q u ids e) (hr : ¬ t.IsRefused)
    (hd : Like Work.Spares Plan.Spares ⟨q, s.threads.set c u, s.returned ++ ids⟩ d) :
    s.CanPrecede c ids e d := by
  cases t with
  | free _ => exact h.back_free ht hr hd
  | listed _ _ _ => exact h.back_listed hl ht hd
  | spawned _ _ => exact h.back_spawned ht hd
  | waiting _ _ _ => exact h.back_waiting ht hd
  | reading _ _ _ _ _ => exact h.back_reading ht hd

end SharedPool

end NativeBuild
