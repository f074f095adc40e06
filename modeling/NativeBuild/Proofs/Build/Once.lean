import Mathlib.Data.List.Dedup
import NativeBuild.Proofs.Build.Desk

/-!
Every object is compiled at most once.  What is in the table, what the workers were handed and what
requests were answered say the same at all times, and keys are told apart by the components of their
paths.
-/

namespace NativeBuild

namespace ObjectKey

/-- What keys are compared by. -/
def shape (k : ObjectKey) : List Component × List String :=
  (k.source.components, k.flags)

theorem same_iff {a b : ObjectKey} : a.Same b ↔ a.shape = b.shape :=
  Prod.mk.injEq _ _ _ _ ▸ Iff.rfl

theorem Same.refl (k : ObjectKey) : k.Same k :=
  ⟨rfl, rfl⟩

theorem Same.symm {a b : ObjectKey} (h : a.Same b) : b.Same a :=
  ⟨h.1.symm, h.2.symm⟩

theorem Same.trans {a b c : ObjectKey} (h : a.Same b) (h' : b.Same c) : a.Same c :=
  ⟨h.1.trans h'.1, h.2.trans h'.2⟩

end ObjectKey

namespace ObjectTable

variable {t : ObjectTable} {key : ObjectKey} {object : PathRef}

theorem lookup?_eq_none : t.lookup? key = none ↔ ∀ e ∈ t.entries, ¬ e.1.Same key := by
  simp [lookup?]

theorem exists_of_lookup? (h : t.lookup? key = some object) :
    ∃ e ∈ t.entries, e.1.Same key ∧ e.2 = object := by
  obtain ⟨e, he, rfl⟩ := Option.map_eq_some_iff.1 h
  exact ⟨e, List.mem_of_find?_eq_some he, by simpa using List.find?_some he, rfl⟩

/-- A key that was found is found after a further entry too. -/
theorem lookup?_insert_of_some (h : t.lookup? key = some object) (key' : ObjectKey)
    (object' : PathRef) : (t.insert key' object').lookup? key = some object := by
  obtain ⟨e, he, rfl⟩ := Option.map_eq_some_iff.1 h
  rw [lookup?, insert, List.find?_append, he]
  rfl

theorem lookup?_insert_self (h : t.lookup? key = none) (object : PathRef) :
    (t.insert key object).lookup? key = some object := by
  have hnone : t.entries.find? (fun e => e.1.Same key) = none := by simpa [lookup?] using h
  rw [lookup?, insert, List.find?_append, hnone]
  simp [ObjectKey.Same.refl]

end ObjectTable

/-- In a list of different keys only one is the same as a given one. -/
theorem filter_same_eq {α : Type} {l : List (ObjectKey × α)}
    (h : l.Pairwise fun a b => ¬ a.1.Same b.1) {key : ObjectKey} {e : ObjectKey × α} (he : e ∈ l)
    (hsame : e.1.Same key) : l.filter (fun x => x.1.Same key) = [e] := by
  induction l with
  | nil => exact nomatch he
  | cons x l ih =>
    rw [List.pairwise_cons] at h
    rcases List.mem_cons.1 he with rfl | he
    · have hrest : l.filter (fun x => decide (x.1.Same key)) = [] := by
        refine List.filter_eq_nil_iff.2 fun y hy hsame' => ?_
        exact h.1 y hy (hsame.trans (of_decide_eq_true hsame').symm)
      rw [List.filter_cons_of_pos (by simpa using hsame), hrest]
    · have hx : ¬ x.1.Same key := fun hx => h.1 e he (hx.trans hsame.symm)
      rw [List.filter_cons_of_neg (by simpa using hx), ih h.2 he]

namespace Desk

variable {d d' : Desk} {run : Runner} {m : Machine} {layout : Layout} {toolchain : Toolchain}
  {config : PoolConfig}

/-! ### What becomes of the tasks that requests list -/

theorem idle_some {h : Holder} (hh : d.holder = some h) : d.idle = d.stranded ++ h.waiting := by
  rw [idle, hh]

theorem idle_none (hh : d.holder = none) : d.idle = d.stranded := by
  rw [idle, hh]
  exact List.append_nil _

/-- Every task that requests listed is with the workers or idle, and none is listed twice.  The idle ones
are as they were listed; the workers have tasks of the compilations; and only in inline mode are tasks
left behind. -/
structure Sure (d : Desk) : Prop where
  parts : d.listed.Perm (d.launched ++ d.idle)
  distinct : (d.listed.map Prod.snd).Nodup
  idle : ∀ l ∈ d.idle, d.build.pool.tasks[l.2]? = some (d.build.compileTask l.1)
  launched : ∀ key id, (key, id) ∈ d.launched → ∃ t, d.build.pool.tasks[id]? = some t ∧
    (d.build.compileTask key).Later t ∧ t.isSpawned = true
  stranded : ∀ l ∈ d.stranded, d.build.pool.config.mode = .inline

theorem Sure.listed (hs : d.Sure) {caller : Caller} {key : ObjectKey} {id : TaskId}
    (hh : d.holder = some (.listed caller key id)) :
    d.build.pool.tasks[id]? = some (d.build.compileTask key) := by
  refine hs.idle (key, id) ?_
  rw [idle_some hh]
  exact List.mem_append_right _ (List.mem_singleton.2 rfl)

/-- What was listed is there. -/
theorem Sure.exists_task (hs : d.Sure) {l : ObjectKey × TaskId} (hl : l ∈ d.listed) :
    ∃ t, d.build.pool.tasks[l.2]? = some t ∧ (d.build.compileTask l.1).Later t := by
  rcases List.mem_append.1 (hs.parts.subset hl) with hl | hl
  · obtain ⟨t, ht, hlater, -⟩ := hs.launched l.1 l.2 hl
    exact ⟨t, ht, hlater⟩
  · exact ⟨_, hs.idle l hl, .refl _⟩

theorem Sure.lt_length (hs : d.Sure) {l : ObjectKey × TaskId} (hl : l ∈ d.listed) :
    l.2 < d.build.pool.tasks.length := by
  obtain ⟨t, ht, -⟩ := hs.exists_task hl
  exact (List.getElem?_eq_some_iff.1 ht).1

theorem Step.compileTask_eq (h : Step d d') : d'.build.compileTask = d.build.compileTask := by
  cases h with
  | fail _ h | prepare _ h =>
    obtain ⟨m, rfl⟩ := Build.ensureDirectory_eq h
    rfl
  | hit _ _ _ _ | miss _ _ _ _ _ | enlist _ | panic _ _ | spawn _ _ | track _ _ | conclude _ _ _
  | unwind _ _ _ | insert _ | task _ | touch _ _ => rfl

/-- Every step moves the pool, or leaves it. -/
theorem Step.move (hs : d.Sure) (h : Step d d') : d.build.pool.Move d'.build.pool := by
  cases h with
  | fail _ h | prepare _ h =>
    obtain ⟨m, rfl⟩ := Build.ensureDirectory_eq h
    exact .touch (.world m)
  | enlist _ => exact .touch (.enlist _ _)
  | @spawn caller key id hh _ =>
    have hlisted := hs.listed hh
    refine .touch ?_
    show Pool.Touch _ (d.build.pool.spawn id)
    rw [Pool.spawn_eq_setTask hlisted]
    exact .spawn hlisted rfl
  | track _ _ => exact .touch (.track _)
  | task h => exact .step h
  | touch h _ => exact .touch h
  | hit _ _ _ _ | miss _ _ _ _ _ | panic _ _ | conclude _ _ _ | unwind _ _ _ | insert _ => exact .touch .pass

/-- What a step does with the tasks that requests list.  It lists one more, it hands one to the workers,
or it leaves them, and those that are idle stay as they are. -/
theorem Step.ledger (hs : d.Sure) (h : Step d d') :
    (∃ key, d'.listed = d.listed ++ [(key, d.build.pool.tasks.length)] ∧ d'.launched = d.launched ∧
      d'.idle = d.idle ++ [(key, d.build.pool.tasks.length)] ∧
      d'.build.pool = (d.build.pool.enlist (d.build.compileTask key)).1) ∨
    (∃ l, d'.listed = d.listed ∧ d'.launched = d.launched ++ [l] ∧ d.idle = d'.idle ++ [l] ∧
      d'.build.pool = d.build.pool.spawn l.2) ∨
    (d'.listed = d.listed ∧ d'.launched = d.launched ∧ d'.idle = d.idle ∧
      ∀ l ∈ d.idle, d'.build.pool.tasks[l.2]? = d.build.pool.tasks[l.2]?) := by
  cases h with
  | @enlist caller key hh =>
    refine .inl ⟨key, rfl, rfl, ?_, rfl⟩
    rw [idle_some hh]
    exact congrArg (· ++ _) (List.append_nil _).symm
  | @spawn caller key id hh _ =>
    refine .inr (.inl ⟨(key, id), rfl, rfl, ?_, rfl⟩)
    rw [idle_some hh]
    exact congrArg (· ++ _) (List.append_nil _).symm
  | hit _ _ _ _ => exact .inr (.inr ⟨rfl, rfl, rfl, fun _ _ => rfl⟩)
  | miss _ _ _ hh _ =>
    refine .inr (.inr ⟨rfl, rfl, ?_, fun _ _ => rfl⟩)
    rw [idle_none hh]
    exact List.append_nil _
  | fail hh h | prepare hh h =>
    obtain ⟨m, rfl⟩ := Build.ensureDirectory_eq h
    refine .inr (.inr ⟨rfl, rfl, ?_, fun _ _ => rfl⟩)
    rw [idle_some hh]
    rfl
  | panic hh _ =>
    refine .inr (.inr ⟨rfl, rfl, ?_, fun _ _ => rfl⟩)
    rw [idle_some hh]
    exact List.append_nil _
  | track hh _ | conclude hh _ _ | unwind hh _ _ | insert hh =>
    refine .inr (.inr ⟨rfl, rfl, ?_, fun _ _ => rfl⟩)
    rw [idle_some hh]
    rfl
  | @task i q h =>
    refine .inr (.inr ⟨rfl, rfl, rfl, fun l hl => ?_⟩)
    have hlisted := hs.idle l hl
    refine (Pool.getElem?_step? h ?_ hlisted).trans hlisted.symm
    rintro rfl
    rw [Pool.step?_listed hlisted rfl] at h
    exact nomatch h
  | touch _ hkeep => exact .inr (.inr ⟨rfl, rfl, rfl, hkeep⟩)

theorem Step.parts (hs : d.Sure) (h : Step d d') :
    d'.listed.Perm (d'.launched ++ d'.idle) ∧ (d'.listed.map Prod.snd).Nodup := by
  rcases h.ledger hs with ⟨key, hlisted, hlaunched, hidle, -⟩ | ⟨l, hlisted, hlaunched, hidle, -⟩ |
    ⟨hlisted, hlaunched, hidle, -⟩
  · rw [hlisted, hlaunched, hidle, ← List.append_assoc, List.map_append, List.nodup_append]
    refine ⟨hs.parts.append_right _, hs.distinct, List.nodup_singleton _, fun i hi j hj => ?_⟩
    obtain ⟨l, hl, rfl⟩ := List.mem_map.1 hi
    rw [List.mem_singleton.1 hj]
    exact Nat.ne_of_lt (hs.lt_length hl)
  · rw [hlisted, hlaunched, List.append_assoc]
    refine ⟨hs.parts.trans ?_, hs.distinct⟩
    rw [hidle]
    exact List.perm_append_comm.append_left _
  · rw [hlisted, hlaunched, hidle]
    exact ⟨hs.parts, hs.distinct⟩

theorem Step.idle_task (hs : d.Sure) (h : Step d d') {l : ObjectKey × TaskId} (hl : l ∈ d'.idle) :
    d'.build.pool.tasks[l.2]? = some (d'.build.compileTask l.1) := by
  rw [h.compileTask_eq]
  obtain ⟨hparts, hdistinct⟩ := h.parts hs
  rcases h.ledger hs with ⟨key, -, -, hidle, hpool⟩ | ⟨⟨key, id⟩, -, hlaunched, hidle, hpool⟩ |
    ⟨-, -, hidle, hkeep⟩
  · rw [hpool]
    rcases List.mem_append.1 (hidle ▸ hl) with hl | hl
    · exact Pool.getElem?_enlist (hs.idle l hl) _
    · rw [List.mem_singleton.1 hl]
      exact Pool.getElem?_enlist_new _ _
  · -- No task is listed twice, so that another one is handed over.
    have hne : id ≠ l.2 := by
      have hnodup := (hparts.map Prod.snd).nodup_iff.1 hdistinct
      rw [List.map_append, List.nodup_append] at hnodup
      refine hnodup.2.2 id ?_ l.2 (List.mem_map_of_mem hl)
      rw [hlaunched, List.map_append]
      exact List.mem_append_right _ (List.mem_singleton.2 rfl)
    have hspawned := hs.idle (key, id) (hidle ▸ List.mem_append_right _ (List.mem_singleton.2 rfl))
    rw [hpool, Pool.spawn_eq_setTask hspawned, Pool.setTask_tasks, List.getElem?_set_ne hne]
    exact hs.idle l (hidle ▸ List.mem_append_left _ hl)
  · rw [hidle] at hl
    rw [hkeep l hl]
    exact hs.idle l hl

theorem Step.launched_task (hs : d.Sure) (h : Step d d') {key : ObjectKey} {id : TaskId}
    (hmem : (key, id) ∈ d'.launched) : ∃ t, d'.build.pool.tasks[id]? = some t ∧
      (d'.build.compileTask key).Later t ∧ t.isSpawned = true := by
  rw [h.compileTask_eq]
  -- What was launched before is there in a later form.
  have hold (hmem : (key, id) ∈ d.launched) : ∃ t, d'.build.pool.tasks[id]? = some t ∧
      (d.build.compileTask key).Later t ∧ t.isSpawned = true := by
    obtain ⟨t, ht, hl, hspawned⟩ := hs.launched key id hmem
    obtain ⟨u, hu, hl'⟩ := (h.move hs).grows id t ht
    exact ⟨u, hu, hl.trans hl', hl'.spawned hspawned⟩
  rcases h.ledger hs with ⟨_, -, hlaunched, -, -⟩ | ⟨l, -, hlaunched, hidle, hpool⟩ |
    ⟨-, hlaunched, -, -⟩
  · exact hold (hlaunched ▸ hmem)
  · rcases List.mem_append.1 (hlaunched ▸ hmem) with hmem | hmem
    · exact hold hmem
    · obtain rfl := List.mem_singleton.1 hmem
      have hspawned := hs.idle (key, id) (hidle ▸ List.mem_append_right _ (List.mem_singleton.2 rfl))
      refine ⟨{ d.build.compileTask key with stage := .created }, ?_, ?_, rfl⟩
      · rw [hpool, Pool.spawn_eq_setTask hspawned]
        exact Pool.getElem?_setTask_self hspawned _
      · exact Task.Next.later (p := d.build.pool) (.spawn rfl)
  · exact hold (hlaunched ▸ hmem)

theorem Step.stranded_inline (hs : d.Sure) (h : Step d d') {l : ObjectKey × TaskId}
    (hl : l ∈ d'.stranded) : d'.build.pool.config.mode = .inline := by
  rw [(h.move hs).config_eq]
  cases h with
  | panic _ hm => exact hm
  | hit _ _ _ _ | miss _ _ _ _ _ | fail _ _ | prepare _ _ | enlist _ | spawn _ _ | track _ _
  | conclude _ _ _ | unwind _ _ _ | insert _ | task _ | touch _ _ => exact hs.stranded l hl

theorem Sure.step (hs : d.Sure) (h : Step d d') : d'.Sure where
  parts := (h.parts hs).1
  distinct := (h.parts hs).2
  idle _ hl := h.idle_task hs hl
  launched _ _ hmem := h.launched_task hs hmem
  stranded _ hl := h.stranded_inline hs hl

theorem Reachable.sure (h : Reachable run m layout toolchain config d) : d.Sure := by
  induction h with
  | start =>
    exact ⟨.nil, .nil, fun _ hl => (nomatch hl), fun _ _ hmem => (nomatch hmem),
      fun _ hl => (nomatch hl)⟩
  | step _ h ih => exact ih.step h

theorem Reachable.config_eq (h : Reachable run m layout toolchain config d) :
    d.build.pool.config = config := by
  induction h with
  | start => rfl
  | step hd h ih => exact (h.move hd.sure).config_eq.trans ih

theorem Reachable.placid (h : Reachable run m layout toolchain config d) :
    d.build.pool.Each fun _ t => t.Placid := by
  induction h with
  | start => exact .start _ _ _
  | step hd h ih =>
    exact (h.move hd.sure).each ih (fun i t _ ht hn => hn.placid (ih i t ht)) fun _ ht => ht.placid

/-- The task of a compilation does not unwind. -/
theorem Reachable.not_unwound (h : Reachable run m layout toolchain config d) {key : ObjectKey}
    {id : TaskId} (hmem : (key, id) ∈ d.launched) : d.build.pool.ending? id ≠ some true := by
  intro he
  obtain ⟨t, ht, hl, _⟩ := h.sure.launched key id hmem
  have hbody : ∀ inputs, (t.body inputs).Plain := by
    intro inputs
    rw [hl.body]
    exact d.build.plain_compileTask key inputs
  rw [Pool.ending?, ht] at he
  cases hs : t.stage with
  | ended unwound =>
    have hunwound := (h.placid id t ht).ended hbody hs
    simp [hs, hunwound] at he
  | listed | created | gathering _ _ | working _ | tracking _ _ => simp [hs] at he

/-! ### What the table says -/

/-- How an entry of the table names a task. -/
def entry (launched : ObjectKey × TaskId) : ObjectKey × PathRef :=
  (launched.1, .task launched.2)

/-- The table has an entry for every task that the workers were handed, but for the one of the
request that holds it; its keys are different; and it says what requests were answered. -/
structure Consistent (d : Desk) : Prop where
  missed : ∀ h, d.holder = some h → d.build.table.lookup? h.key = none
  launched : ∃ kept, d.launched = kept ++ d.pending ∧ d.build.table.entries = kept.map entry
  distinct : d.build.table.entries.Pairwise fun a b => ¬ a.1.Same b.1
  answered : ∀ key object, (key, .ok object) ∈ d.answers →
    d.build.table.lookup? key = some object
  asked : ∀ e ∈ d.build.table.entries, (e.1, .ok e.2) ∈ d.answers

theorem pending_some {h : Holder} (hh : d.holder = some h) : d.pending = h.pending := by
  rw [pending, hh]

theorem pending_none (hh : d.holder = none) : d.pending = [] := by
  rw [pending, hh]

/-- A step that leaves the table and what was launched. -/
theorem Consistent.of_table (hc : d.Consistent) (htable : d'.build.table = d.build.table)
    (hlaunched : d'.launched = d.launched) (hpending : d'.pending = d.pending)
    (hmissed : ∀ h, d'.holder = some h → d.build.table.lookup? h.key = none)
    (hold : d.answers ⊆ d'.answers)
    (hnew : ∀ key object, (key, .ok object) ∈ d'.answers →
      d.build.table.lookup? key = some object) : d'.Consistent where
  missed := by
    rw [htable]
    exact hmissed
  launched := by
    rw [htable, hlaunched, hpending]
    exact hc.launched
  distinct := by
    rw [htable]
    exact hc.distinct
  answered := by
    rw [htable]
    exact hnew
  asked := by
    rw [htable]
    exact fun e he => hold (hc.asked e he)

/-- The thread that holds the table goes on without a look at it. -/
theorem Consistent.goOn (hc : d.Consistent) {h h' : Holder} (hh : d.holder = some h)
    (hkey : h'.key = h.key) (hpending : h'.pending = h.pending) {b : Build}
    (hb : b.table = d.build.table) (listed : List (ObjectKey × TaskId)) :
    Consistent { d with build := b, holder := some h', listed } := by
  refine hc.of_table hb rfl ?_ ?_ (List.Subset.refl _) hc.answered
  · rw [pending_some hh, ← hpending]
    rfl
  · rintro _ ⟨⟩
    rw [hkey]
    exact hc.missed h hh

/-- The workers are handed the task of a request. -/
theorem Consistent.launch (hc : d.Consistent) {caller : Caller} {key : ObjectKey} {id : TaskId}
    (hh : d.holder = some (.listed caller key id)) (q : Pool Machine) :
    Consistent { d with
      build := d.build.setPool q
      holder := some (.spawned key id)
      launched := d.launched ++ [(key, id)] } where
  missed := by
    rintro _ ⟨⟩
    exact hc.missed (.listed caller key id) hh
  launched := by
    obtain ⟨kept, hlaunched, hentries⟩ := hc.launched
    rw [pending_some hh] at hlaunched
    refine ⟨kept, ?_, hentries⟩
    show d.launched ++ [(key, id)] = kept ++ [(key, id)]
    rw [hlaunched]
    simp [Holder.pending]
  distinct := hc.distinct
  answered := hc.answered
  asked := hc.asked

/-- The entry of a request is made. -/
theorem Consistent.insert (hc : d.Consistent) {key : ObjectKey} {id : TaskId}
    (hh : d.holder = some (.submitted key id)) :
    Consistent { d with
      build := { d.build with table := d.build.table.insert key (.task id) }
      holder := none
      answers := d.answers ++ [(key, .ok (.task id))] } where
  missed _ hh := nomatch hh
  launched := by
    obtain ⟨kept, hlaunched, hentries⟩ := hc.launched
    rw [pending_some hh] at hlaunched
    refine ⟨kept ++ [(key, id)], ?_, ?_⟩
    · show d.launched = kept ++ [(key, id)] ++ []
      rw [hlaunched, List.append_nil]
      rfl
    · show d.build.table.entries ++ [(key, .task id)] = _
      rw [hentries, List.map_append]
      rfl
  distinct := by
    refine List.pairwise_append.2 ⟨hc.distinct, List.pairwise_singleton _ _, fun e he e' he' => ?_⟩
    rw [List.mem_singleton.1 he']
    exact ObjectTable.lookup?_eq_none.1 (hc.missed _ hh) e he
  answered := by
    intro key' object hmem
    rcases List.mem_append.1 hmem with hmem | hmem
    · exact ObjectTable.lookup?_insert_of_some (hc.answered key' object hmem) _ _
    · cases List.mem_singleton.1 hmem
      exact ObjectTable.lookup?_insert_self (hc.missed _ hh) _
  asked := by
    intro e he
    rcases List.mem_append.1 he with he | he
    · exact List.mem_append_left _ (hc.asked e he)
    · rw [List.mem_singleton.1 he]
      exact List.mem_append_right _ (List.mem_singleton.2 rfl)

theorem Consistent.step (hd : Reachable run m layout toolchain config d) (hc : d.Consistent)
    (h : Step d d') : d'.Consistent := by
  -- Only `insert` writes the table, and it writes what the pending call has launched.
  cases h with
  | hit _ _ hh h =>
    refine hc.of_table rfl rfl rfl hc.missed (List.subset_append_left _ _) fun key object hmem => ?_
    rcases List.mem_append.1 hmem with hmem | hmem
    · exact hc.answered key object hmem
    · cases List.mem_singleton.1 hmem
      exact h
  | miss _ _ _ hh h =>
    refine hc.of_table rfl rfl ?_ ?_ (List.Subset.refl _) hc.answered
    · rw [pending_none hh]
      rfl
    · rintro _ ⟨⟩
      exact h
  | fail hh h =>
    obtain ⟨m, rfl⟩ := Build.ensureDirectory_eq h
    refine hc.of_table rfl rfl ?_ (fun _ hh => nomatch hh) (List.subset_append_left _ _)
      fun key object hmem => ?_
    · rw [pending_some hh]
      rfl
    · rcases List.mem_append.1 hmem with hmem | hmem
      · exact hc.answered key object hmem
      · cases List.mem_singleton.1 hmem
  | prepare hh h =>
    obtain ⟨m, rfl⟩ := Build.ensureDirectory_eq h
    refine hc.goOn hh ?_ ?_ ?_ _ <;> rfl
  | enlist hh | track hh _ | conclude hh _ _ => refine hc.goOn hh ?_ ?_ ?_ _ <;> rfl
  | panic hh _ =>
    refine hc.of_table rfl rfl ?_ (fun _ hh => nomatch hh) (List.Subset.refl _) hc.answered
    rw [pending_some hh]
    rfl
  | spawn hh _ => exact hc.launch hh _
  | @unwind key id hh _ he =>
    obtain ⟨kept, hlaunched, _⟩ := hc.launched
    have hmem : (key, id) ∈ d.launched := by
      rw [hlaunched, pending_some hh]
      exact List.mem_append_right _ (List.mem_singleton.2 rfl)
    exact absurd he (hd.not_unwound hmem)
  | insert hh => exact hc.insert hh
  | task _ | touch _ _ =>
    exact hc.of_table rfl rfl rfl hc.missed (List.Subset.refl _) hc.answered

theorem Reachable.consistent (h : Reachable run m layout toolchain config d) : d.Consistent := by
  induction h with
  | start =>
    exact ⟨fun _ hh => (nomatch hh), ⟨[], rfl, rfl⟩, .nil, fun _ _ hmem => (nomatch hmem),
      fun _ he => (nomatch he)⟩
  | step hd h ih => exact ih.step hd h

/-! ### Every object is compiled at most once -/

theorem Step.entries_prefix (h : Step d d') :
    d.build.table.entries <+: d'.build.table.entries := by
  cases h with
  | insert _ => exact List.prefix_append _ _
  | fail _ h | prepare _ h =>
    obtain ⟨m, rfl⟩ := Build.ensureDirectory_eq h
    exact List.prefix_rfl
  | hit _ _ _ _ | miss _ _ _ _ _ | enlist _ | panic _ _ | spawn _ _ | track _ _ | conclude _ _ _
  | unwind _ _ _ | task _ | touch _ _ => exact List.prefix_rfl

theorem Runs.entries_prefix (h : Runs d d') :
    d.build.table.entries <+: d'.build.table.entries := by
  induction h with
  | refl => exact List.prefix_rfl
  | tail _ hstep ih => exact ih.trans hstep.entries_prefix

/-- The keys of the requests that were answered with an object. -/
def granted (d : Desk) : List ObjectKey :=
  d.answers.filterMap fun answer =>
    match answer.2 with
    | .ok _ => some answer.1
    | .error _ => none

theorem mem_granted {key : ObjectKey} :
    key ∈ d.granted ↔ ∃ object, (key, .ok object) ∈ d.answers := by
  simp only [granted, List.mem_filterMap]
  constructor
  · rintro ⟨⟨key', answer⟩, hmem, h⟩
    cases answer with
    | ok object =>
      cases h
      exact ⟨object, hmem⟩
    | error e => exact nomatch h
  · rintro ⟨object, hmem⟩
    exact ⟨(key, .ok object), hmem, rfl⟩

/-- The table has as many entries as there are different keys that were answered with an object. -/
theorem Consistent.size_eq (hc : d.Consistent) :
    d.build.table.size = (d.granted.map ObjectKey.shape).dedup.length := by
  have hnodup : (d.build.table.entries.map fun e => e.1.shape).Nodup :=
    List.pairwise_map.2 (hc.distinct.imp fun h heq => h (ObjectKey.same_iff.2 heq))
  have hperm : (d.build.table.entries.map fun e => e.1.shape).Perm
      (d.granted.map ObjectKey.shape).dedup := by
    refine (List.perm_ext_iff_of_nodup hnodup (List.nodup_dedup _)).2 fun shape => ?_
    rw [List.mem_dedup, List.mem_map, List.mem_map]
    constructor
    · rintro ⟨e, he, rfl⟩
      exact ⟨e.1, mem_granted.2 ⟨e.2, hc.asked e he⟩, rfl⟩
    · rintro ⟨key, hkey, rfl⟩
      obtain ⟨object, hmem⟩ := mem_granted.1 hkey
      obtain ⟨e, he, hsame, _⟩ := ObjectTable.exists_of_lookup? (hc.answered key object hmem)
      exact ⟨e, he, ObjectKey.same_iff.1 hsame⟩
  have hlen := hperm.length_eq
  rwa [List.length_map] at hlen

/-- A request that holds the table asks for another key than those in it. -/
theorem Consistent.not_same (hc : d.Consistent) {h : Holder} (hh : d.holder = some h)
    {key : ObjectKey} {object : PathRef} (hlookup : d.build.table.lookup? key = some object) :
    ¬ h.key.Same key := by
  intro hsame
  obtain ⟨e, he, hkey, -⟩ := ObjectTable.exists_of_lookup? hlookup
  exact ObjectTable.lookup?_eq_none.1 (hc.missed h hh) e he (hkey.trans hsame.symm)

/-- The workers were handed exactly one task for a key that is in the table. -/
theorem Consistent.filter_launched (hc : d.Consistent) {key : ObjectKey} {object : PathRef}
    (h : d.build.table.lookup? key = some object) :
    ∃ k id, d.launched.filter (fun l => l.1.Same key) = [(k, id)] ∧ object = .task id := by
  obtain ⟨kept, hlaunched, hentries⟩ := hc.launched
  obtain ⟨e, he, hsame, rfl⟩ := ObjectTable.exists_of_lookup? h
  rw [hentries] at he
  obtain ⟨⟨k, id⟩, hmem, rfl⟩ := List.mem_map.1 he
  have hdistinct : kept.Pairwise fun a b => ¬ a.1.Same b.1 := by
    have := hc.distinct
    rwa [hentries, List.pairwise_map] at this
  have hpending : d.pending.filter (fun l => decide (l.1.Same key)) = [] := by
    refine List.filter_eq_nil_iff.2 fun l hl hsame' => ?_
    cases hh : d.holder with
    | none =>
      rw [pending_none hh] at hl
      exact nomatch hl
    | some holder =>
      have hkey : l.1 = holder.key := by
        rw [pending_some hh] at hl
        cases holder with
        | spawned key id | submitted key id => rw [List.mem_singleton.1 hl]; rfl
        | missed _ _ | prepared _ _ | listed _ _ _ => exact nomatch hl
      exact hc.not_same hh h (hkey ▸ of_decide_eq_true hsame')
  refine ⟨k, id, ?_, rfl⟩
  rw [hlaunched, List.filter_append, hpending, List.append_nil]
  exact filter_same_eq hdistinct hmem hsame

/-- An idle task was left behind, or it is for another key than those in the table. -/
theorem Consistent.idle_cases (hc : d.Consistent) {key : ObjectKey} {object : PathRef}
    (h : d.build.table.lookup? key = some object) {l : ObjectKey × TaskId} (hl : l ∈ d.idle) :
    l ∈ d.stranded ∨ ¬ l.1.Same key := by
  cases hh : d.holder with
  | none =>
    rw [idle_none hh] at hl
    exact .inl hl
  | some holder =>
    rw [idle_some hh] at hl
    refine (List.mem_append.1 hl).imp_right fun hl => ?_
    have hkey : l.1 = holder.key := by
      cases holder with
      | listed caller key id => rw [List.mem_singleton.1 hl]; rfl
      | missed _ _ | prepared _ _ | spawned _ _ | submitted _ _ => exact nomatch hl
    rw [hkey]
    exact hc.not_same hh h

/-- Of the tasks that requests listed for a key that is in the table, those that were not left behind are
those that the workers were handed. -/
theorem Sure.filter_listed (hs : d.Sure) (hc : d.Consistent) {key : ObjectKey} {object : PathRef}
    (h : d.build.table.lookup? key = some object) :
    (d.listed.filter fun l => l.1.Same key ∧ l ∉ d.stranded).Perm
      (d.launched.filter fun l => l.1.Same key) := by
  have hnodup := hs.parts.nodup_iff.1 (List.Nodup.of_map Prod.snd hs.distinct)
  have hstranded : d.stranded ⊆ d.idle := List.subset_append_left _ _
  have hlaunched : d.launched.filter (fun l => l.1.Same key ∧ l ∉ d.stranded) =
      d.launched.filter fun l => l.1.Same key := by
    refine List.filter_congr fun l hl => decide_eq_decide.2 ?_
    exact and_iff_left fun hleft => (List.nodup_append.1 hnodup).2.2 l hl l (hstranded hleft) rfl
  have hidle : d.idle.filter (fun l => l.1.Same key ∧ l ∉ d.stranded) = [] := by
    refine List.filter_eq_nil_iff.2 fun l hl hboth => ?_
    obtain ⟨hsame, hleft⟩ := of_decide_eq_true hboth
    rcases hc.idle_cases h hl with hl | hother
    · exact hleft hl
    · exact hother hsame
  have hperm := hs.parts.filter fun l => l.1.Same key ∧ l ∉ d.stranded
  rwa [List.filter_append, hlaunched, hidle, List.append_nil] at hperm

/-- Every object is compiled at most once.  Whatever the order in which requests, tasks and other
threads go on: no two entries of the table have the same key; entries stay; for every key that was
answered with an object requests listed exactly one task, which is its compilation, but for tasks that
were left behind, the workers were handed that task only, and the answer was that task, however far it
has come; every task is listed once, and is there; a task is left behind in inline mode only, and is as
it was listed; the table has as many entries as different keys were answered with an object; and a
request that nothing disturbs is served as a build alone serves it. -/
theorem Reachable.compiled_once (h : Reachable run m layout toolchain config d) :
    (d.build.table.entries.Pairwise fun a b => ¬ a.1.Same b.1) ∧
    (∀ d', Runs d d' → d.build.table.entries <+: d'.build.table.entries) ∧
    (∀ key object, (key, .ok object) ∈ d.answers → ∃ k id t,
      d.listed.filter (fun l => l.1.Same key ∧ l ∉ d.stranded) = [(k, id)] ∧
      d.launched.filter (fun l => l.1.Same key) = [(k, id)] ∧ object = .task id ∧
      d.build.table.lookup? key = some object ∧ d.build.pool.tasks[id]? = some t ∧
      t.spec = (d.build.compilation k).spec ∧
      t.body = fun _ => (d.build.compilation k).job d.build.run) ∧
    ((d.listed.map Prod.snd).Nodup ∧ ∀ l ∈ d.listed, ∃ t, d.build.pool.tasks[l.2]? = some t ∧
      t.spec = (d.build.compilation l.1).spec ∧
      t.body = fun _ => (d.build.compilation l.1).job d.build.run) ∧
    (∀ l ∈ d.stranded, d.build.pool.config.mode = .inline ∧
      d.build.pool.tasks[l.2]? = some (d.build.compileTask l.1)) ∧
    d.build.table.size = (d.granted.map ObjectKey.shape).dedup.length ∧ d.Serves := by
  have hc := h.consistent
  have hs := h.sure
  have htask {l : ObjectKey × TaskId} (hl : l ∈ d.listed) : ∃ t,
      d.build.pool.tasks[l.2]? = some t ∧ t.spec = (d.build.compilation l.1).spec ∧
        t.body = fun _ => (d.build.compilation l.1).job d.build.run := by
    obtain ⟨t, ht, hlater⟩ := hs.exists_task hl
    refine ⟨t, ht, ?_, ?_⟩
    · rw [hlater.spec, Build.compileTask_spec]
    · rw [hlater.body, Build.compileTask_body]
  refine ⟨hc.distinct, fun _ hruns => hruns.entries_prefix, fun key object hmem => ?_,
    ⟨hs.distinct, fun _ => htask⟩, fun l hl => ⟨hs.stranded l hl, ?_⟩, hc.size_eq, d.serves⟩
  · have hlookup := hc.answered key object hmem
    obtain ⟨k, id, hlaunched, hobject⟩ := hc.filter_launched hlookup
    have hlisted := hs.filter_listed hc hlookup
    rw [hlaunched, List.perm_singleton] at hlisted
    have hl : (k, id) ∈ d.listed := by
      refine List.mem_of_mem_filter (p := fun l => l.1.Same key ∧ l ∉ d.stranded) ?_
      rw [hlisted]
      exact List.mem_singleton.2 rfl
    obtain ⟨t, ht, hspec, hbody⟩ := htask hl
    exact ⟨k, id, t, hlisted, hlaunched, hobject, hlookup, ht, hspec, hbody⟩
  · exact hs.idle l (List.mem_append_left _ hl)

/-- A build with all its directories in one place, on a machine without files. -/
def emptyDesk : Desk :=
  .start (fun _ m => (m, .ok "")) ⟨⟨[], [], [], 0⟩, ⟨['/']⟩, []⟩
    ⟨⟨['/', 'o']⟩, ⟨['/', 'o']⟩, ⟨['/', 'o']⟩, ⟨['/', 'o']⟩, ⟨['/', 'o']⟩, ⟨['/', 'o']⟩, ⟨['/', 'o']⟩,
      ⟨['/', 'o']⟩⟩
    ⟨⟨['c', 'c']⟩, ⟨['c', 'c']⟩, .linux, []⟩ ⟨1, .pooled, .bestEffort⟩

/-- Two requests for one source, which the second one spells in another way. -/
theorem exists_two_requests : ∃ d, Runs emptyDesk d ∧
    d.granted = [⟨⟨['/', 'a']⟩, []⟩, ⟨⟨['/', 'a', '/']⟩, []⟩] := by
  have missed : Runs emptyDesk _ :=
    Relation.ReflTransGen.single (.miss .outside ⟨['/', 'a']⟩ [] rfl rfl)
  have prepared := missed.step (.prepare rfl rfl)
  have listed := prepared.step (.enlist rfl)
  have spawned := listed.step (.spawn rfl (.inl rfl))
  have submitted := spawned.step (.track rfl rfl)
  have inserted := submitted.step (.insert rfl)
  have found := inserted.step (.hit ⟨['/', 'a', '/']⟩ [] rfl rfl)
  exact ⟨_, found, rfl⟩

theorem compiled_once_two_requests : ∃ d, Runs emptyDesk d ∧
    d.granted = [⟨⟨['/', 'a']⟩, []⟩, ⟨⟨['/', 'a', '/']⟩, []⟩] ∧
    (∃ k id, d.listed.filter (fun l => l.1.Same ⟨⟨['/', 'a', '/']⟩, []⟩) = [(k, id)]) ∧
    d.build.table.size = 1 := by
  obtain ⟨d, hruns, hgranted⟩ := exists_two_requests
  obtain ⟨-, -, hone, -, hleft, hsize, -⟩ := (Reachable.start.runs hruns).compiled_once
  -- A pool with workers leaves no task behind.
  have hnone : d.stranded = [] := by
    refine List.eq_nil_iff_forall_not_mem.2 fun l hl => ?_
    have hmode := (hleft l hl).1
    rw [(Reachable.start.runs hruns).config_eq] at hmode
    exact nomatch hmode
  refine ⟨d, hruns, hgranted, ?_, ?_⟩
  · have hmem : (⟨⟨['/', 'a', '/']⟩, []⟩ : ObjectKey) ∈ d.granted := by simp [hgranted]
    obtain ⟨object, hmem⟩ := mem_granted.1 hmem
    obtain ⟨k, id, _, hfilter, _⟩ := hone _ object hmem
    simp only [hnone, List.not_mem_nil, not_false_eq_true, and_true] at hfilter
    exact ⟨k, id, hfilter⟩
  · rw [hsize, hgranted]
    rfl

/-- The same build in inline mode. -/
def inlineDesk : Desk :=
  .start emptyDesk.build.run emptyDesk.build.machine emptyDesk.build.layout emptyDesk.build.toolchain
    ⟨1, .inline, .bestEffort⟩

/-- A request from inside the runtime, which unwinds, and another one for the same source. -/
theorem exists_repeated_request : ∃ d, Runs inlineDesk d ∧
    d.answers = [(⟨⟨['/', 'a']⟩, []⟩, .ok (.task 1))] ∧
    d.listed = [(⟨⟨['/', 'a']⟩, []⟩, 0), (⟨⟨['/', 'a']⟩, []⟩, 1)] := by
  have missed : Runs inlineDesk _ :=
    Relation.ReflTransGen.single (.miss .inside ⟨['/', 'a']⟩ [] rfl rfl)
  have prepared := missed.step (.prepare rfl rfl)
  have listed := prepared.step (.enlist rfl)
  have unwound := listed.step (.panic rfl rfl)
  have missed := unwound.step (.miss .outside ⟨['/', 'a']⟩ [] rfl rfl)
  have prepared := missed.step (.prepare rfl rfl)
  have listed := prepared.step (.enlist rfl)
  have spawned := listed.step (.spawn rfl (.inr rfl))
  obtain ⟨t, ht, hl, -⟩ := (Reachable.start.runs spawned).sure.launched _ 1 List.mem_cons_self
  have hcreated : t.stage = .created := by
    cases ht
    rfl
  obtain ⟨q, compiled, hconfig, hended⟩ := spawned.compile ht hl hcreated Nat.one_pos
  have submitted := compiled.step (.conclude rfl (congrArg PoolConfig.mode hconfig) hended)
  exact ⟨_, submitted.step (.insert rfl), rfl, rfl⟩

/-- The first of the two requests has listed a task for the source, and the second one a second task.
-/
theorem exists_listed_twice : ∃ d t u, Runs inlineDesk d ∧
    d.answers = [(⟨⟨['/', 'a']⟩, []⟩, .ok (.task 1))] ∧
    d.build.pool.tasks[0]? = some t ∧ d.build.pool.tasks[1]? = some u ∧
    t.spec = (d.build.compilation ⟨⟨['/', 'a']⟩, []⟩).spec ∧
    u.spec = (d.build.compilation ⟨⟨['/', 'a']⟩, []⟩).spec := by
  obtain ⟨d, hruns, hanswers, hlisted⟩ := exists_repeated_request
  have hs := (Reachable.start.runs hruns).sure
  have htask (id : TaskId) (hl : (⟨⟨['/', 'a']⟩, []⟩, id) ∈ d.listed) : ∃ t,
      d.build.pool.tasks[id]? = some t ∧ t.spec = (d.build.compilation ⟨⟨['/', 'a']⟩, []⟩).spec := by
    obtain ⟨t, ht, hlater⟩ := hs.exists_task hl
    exact ⟨t, ht, hlater.spec.trans (d.build.compileTask_spec _)⟩
  obtain ⟨t, ht, hfirst⟩ := htask 0 (by simp [hlisted])
  obtain ⟨u, hu, hsecond⟩ := htask 1 (by simp [hlisted])
  exact ⟨d, t, u, hruns, hanswers, ht, hu, hfirst, hsecond⟩

end Desk

end NativeBuild
