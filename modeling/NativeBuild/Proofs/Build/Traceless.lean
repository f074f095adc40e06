import NativeBuild.Proofs.Build.Errand
import NativeBuild.Proofs.Build.ObjectName
import NativeBuild.Proofs.Pool.Drop

/-!
Declarations that fail.  A declaration fails when a directory cannot be made, and that is before it
submits its task and records it; so all that a failed one leaves behind is in the tree of files, and
what is asked for after it is asked for as if it had not been.
-/

namespace NativeBuild

namespace Build

variable {b b' c : Build} {source : Path} {flags : List String} {e : Failure} {sources : List Path}

/-! ### One thread -/

/-- Whether a build does with a request what it does when nothing was asked for before. -/
structure TakesAsFirst (c : Build) (source : Path) (flags : List String) : Prop where
  answer : (c.compile source flags).2 = (compile { c with table := ⟨[]⟩ } source flags).2
  pool : (c.compile source flags).1.pool = (compile { c with table := ⟨[]⟩ } source flags).1.pool
  table : (c.compile source flags).1.table.entries =
    c.table.entries ++ (compile { c with table := ⟨[]⟩ } source flags).1.table.entries

/-- A request that is not in the table is taken as the first. -/
theorem takesAsFirst (h : c.table.lookup? (.of c.pool.here source flags) = none) :
    c.TakesAsFirst source flags := by
  have hnone : ObjectTable.lookup? ⟨[]⟩ (.of c.pool.here source flags) = none := rfl
  cases hmade : ((Act.directory c.layout.objectDir).perform c.run c.pool.world).2 with
  | error e =>
    constructor <;>
      simp [compile, h, hnone, ensureDirectory_eq_perform, hmade, Except.map, setMachine]
  | ok _ =>
    constructor <;>
      simp [compile, h, hnone, ensureDirectory_eq_perform, hmade, Except.map, setMachine, submit,
        ObjectTable.insert]

theorem compile_error (h : b.compile source flags = (b', .error e)) :
    (∃ m, b' = b.setMachine m) ∧ b.table.lookup? (.of b.pool.here source flags) = none := by
  unfold compile at h
  dsimp only at h
  split at h
  · cases h
  · next hnone =>
    refine ⟨?_, hnone⟩
    split at h
    · next hmade =>
      cases h
      exact ensureDirectory_eq hmade
    · cases h

theorem target_error {kind : ArtifactKind} {output : Path} {inputs : LinkInputs}
    (h : b.target kind output inputs = (b', .error e)) : ∃ m, b' = b.setMachine m := by
  unfold target at h
  dsimp only at h
  split at h
  · next hmade =>
    cases h
    split at hmade
    · cases hmade
    · exact ensureDirectory_eq hmade
  · cases h

/-- The build when its objects were asked for one by one, whatever each request came to. -/
def compileEach (b : Build) (flags : List String) (sources : List Path) : Build :=
  sources.foldl (fun b source => (b.compile source flags).1) b

/-- A list of requests fails at one of them, and those before it are made. -/
theorem compileAll_error (h : b.compileAll flags sources = (b', .error e)) :
    ∃ before source after objects, sources = before ++ source :: after ∧
      b.compileAll flags before = (b.compileEach flags before, .ok objects) ∧
      (b.compileEach flags before).compile source flags = (b', .error e) := by
  induction sources generalizing b with
  | nil => cases h
  | cons source rest ih =>
    rw [compileAll] at h
    split at h
    · next hfirst =>
      cases h
      exact ⟨[], source, rest, [], rfl, rfl, hfirst⟩
    · next b₁ object hfirst =>
      split at h
      · next hrest =>
        cases h
        obtain ⟨before, failed, after, objects, rfl, hbefore, hfailed⟩ := ih hrest
        have heach : b.compileEach flags (source :: before) = b₁.compileEach flags before := by
          rw [compileEach, List.foldl_cons, hfirst]
          rfl
        refine ⟨source :: before, failed, after, object :: objects, rfl, ?_, heach ▸ hfailed⟩
        rw [compileAll, hfirst]
        dsimp only
        rw [hbefore, heach]
      · cases h

end Build

/-! ### One thread among others -/

namespace Errand

variable {α β : Type} {run : Runner} {p q r : Pool Machine} {specs : List TaskSpec} {a x : α}

/-- A run of an errand while other things become of its pool, which it leaves as `r`.  The errand
lists tasks with these specifications, and it comes to `a`. -/
inductive Amid (run : Runner) :
    Pool Machine → Errand α → List TaskSpec → Pool Machine → α → Prop where
  | done {p : Pool Machine} {a : α} : Amid run p (.done a) [] p a
  | deed {p r : Pool Machine} {d : Deed} {next : d.Answer → Errand α} {specs : List TaskSpec} {a : α}
    (h : Amid run { p with world := (d.perform run p.world).1 } (next (d.perform run p.world).2)
      specs r a) : Amid run p (.deed d next) specs r a
  | submit {p r : Pool Machine} {spec : TaskSpec} {body : List Path → Chore}
    {next : TaskId → Errand α} {specs : List TaskSpec} {a : α}
    (h : Amid run (p.enlist (Task.fresh spec fun inputs => (body inputs).job run)).1
      (next p.tasks.length) specs r a) : Amid run p (.submit spec body next) (spec :: specs) r a
  | other {p q r : Pool Machine} {e : Errand α} {specs : List TaskSpec} {a : α} (hq : p.Change q)
    (h : Amid run q e specs r a) : Amid run p e specs r a

/-- A run of an errand that begins with a step of its own. -/
def Own (run : Runner) (p : Pool Machine) :
    Errand α → List TaskSpec → Pool Machine → α → Prop
  | .done x, specs, r, a => specs = [] ∧ a = x ∧ p = r
  | .deed d next, specs, r, a =>
    Amid run { p with world := (d.perform run p.world).1 } (next (d.perform run p.world).2) specs r a
  | .submit spec body next, specs, r, a => ∃ specs', specs = spec :: specs' ∧
    Amid run (p.enlist (Task.fresh spec fun inputs => (body inputs).job run)).1
      (next p.tasks.length) specs' r a

namespace Amid

theorem before {e : Errand α} (h : Amid run q e specs r a) (hp : p.Becomes q) :
    Amid run p e specs r a := by
  induction hp using Relation.ReflTransGen.head_induction_on with
  | refl => exact h
  | head hchange _ ih => exact .other hchange ih

theorem after {e : Errand α} (h : Amid run p e specs q a) (hr : q.Becomes r) :
    Amid run p e specs r a := by
  induction h with
  | done => exact Amid.done.before hr
  | deed _ ih => exact .deed (ih hr)
  | submit _ ih => exact .submit (ih hr)
  | other hchange _ ih => exact .other hchange (ih hr)

/-- Other things become of the pool, and then the errand goes on by itself. -/
theorem own {e : Errand α} (h : Amid run p e specs r a) :
    ∃ q, p.Becomes q ∧ Own run q e specs r a := by
  induction h with
  | done => exact ⟨_, .refl, rfl, rfl, rfl⟩
  | deed h _ => exact ⟨_, .refl, h⟩
  | submit h _ => exact ⟨_, .refl, _, rfl, h⟩
  | other hchange _ ih =>
    obtain ⟨q, hq, hown⟩ := ih
    exact ⟨q, .head hchange hq, hown⟩

theorem of_done (h : Amid run p (.done x) specs r a) : specs = [] ∧ a = x ∧ p.Becomes r := by
  obtain ⟨q, hq, hspecs, ha, rfl⟩ := h.own
  exact ⟨hspecs, ha, hq⟩

theorem of_deed {d : Deed} {next : d.Answer → Errand α} (h : Amid run p (.deed d next) specs r a) :
    ∃ q, p.Becomes q ∧ Amid run { q with world := (d.perform run q.world).1 }
      (next (d.perform run q.world).2) specs r a :=
  h.own

theorem of_submit {spec : TaskSpec} {body : List Path → Chore} {next : TaskId → Errand α}
    (h : Amid run p (.submit spec body next) specs r a) :
    ∃ q, p.Becomes q ∧ ∃ specs', specs = spec :: specs' ∧
      Amid run (q.enlist (Task.fresh spec fun inputs => (body inputs).job run)).1
        (next q.tasks.length) specs' r a :=
  h.own

theorem bind {e : Errand α} {k : α → Errand β} {specs' : List TaskSpec} {b : β}
    (h : Amid run p e specs q a) (hk : Amid run q (k a) specs' r b) :
    Amid run p (e.bind k) (specs ++ specs') r b := by
  induction h with
  | done => exact hk
  | deed _ ih => exact .deed (ih hk)
  | submit _ ih => exact .submit (ih hk)
  | other hchange _ ih => exact .other hchange (ih hk)

/-- One errand after another is run in two parts. -/
theorem of_bind {e : Errand α} {k : α → Errand β} {b : β} (h : Amid run p (e.bind k) specs r b) :
    ∃ q first second a, specs = first ++ second ∧ Amid run p e first q a ∧
      Amid run q (k a) second r b := by
  induction e generalizing p specs with
  | done a => exact ⟨p, [], specs, a, rfl, .done, h⟩
  | deed d next ih =>
    obtain ⟨q, hq, h⟩ := h.of_deed
    obtain ⟨q', first, second, a, hspecs, hfirst, hsecond⟩ := ih _ h
    exact ⟨q', first, second, a, hspecs, (Amid.deed hfirst).before hq, hsecond⟩
  | submit spec body next ih =>
    obtain ⟨q, hq, _, rfl, hnext⟩ := h.of_submit
    obtain ⟨q', first, second, a, rfl, hfirst, hsecond⟩ := ih _ hnext
    exact ⟨q', spec :: first, second, a, rfl, (Amid.submit hfirst).before hq, hsecond⟩

/-- An errand that is run while nothing else goes on is such a run. -/
theorem follow (run : Runner) (p : Pool Machine) (e : Errand α) :
    ∃ specs, Amid run p e specs (p.follow run e).1 (p.follow run e).2 := by
  induction e generalizing p with
  | done a => exact ⟨[], .done⟩
  | deed d next ih =>
    obtain ⟨specs, h⟩ := ih _ _
    exact ⟨specs, .deed h⟩
  | submit spec body next ih =>
    obtain ⟨hid, hsubmit⟩ :=
      p.becomes_submit_of_enlist .outside spec fun inputs => (body inputs).job run
    obtain ⟨specs, h⟩ := ih _ _
    exact ⟨spec :: specs, .submit (hid ▸ h.before hsubmit)⟩

section

variable {layout : Layout} {toolchain : Toolchain} {here : Path} {table table' : ObjectTable}
  {source : Path} {flags : List String} {e : Failure}

theorem compile_error
    (h : Amid run p (compile layout toolchain here table source flags) specs r (table', .error e)) :
    specs = [] ∧ table' = table ∧ table.lookup? (.of here source flags) = none := by
  unfold compile at h
  dsimp only at h
  split at h
  · obtain ⟨-, ha, -⟩ := h.of_done
    cases ha
  · next hnone =>
    obtain ⟨q, -, h⟩ := h.of_deed
    cases hmade : (Deed.perform run (.act (.directory layout.objectDir)) q.world).2 with
    | error e' =>
      rw [hmade] at h
      obtain ⟨hspecs, ha, -⟩ := h.of_done
      cases ha
      exact ⟨hspecs, rfl, hnone⟩
    | ok _ =>
      rw [hmade] at h
      obtain ⟨_, -, _, -, h⟩ := h.of_submit
      obtain ⟨-, ha, -⟩ := h.of_done
      cases ha

theorem target_error {kind : ArtifactKind} {output : Path} {inputs : LinkInputs}
    (h : Amid run p (target layout toolchain here kind output inputs) specs r (.error e)) :
    specs = [] := by
  unfold target at h
  dsimp only at h
  split at h
  · obtain ⟨_, -, _, -, h⟩ := h.of_submit
    obtain ⟨-, ha, -⟩ := h.of_done
    cases ha
  · next dir _ =>
    obtain ⟨q, -, h⟩ := h.of_deed
    cases hmade : (Deed.perform run (.act (.directory dir)) q.world).2 with
    | error e' =>
      rw [hmade] at h
      exact h.of_done.1
    | ok _ =>
      rw [hmade] at h
      obtain ⟨_, -, _, -, h⟩ := h.of_submit
      obtain ⟨-, ha, -⟩ := h.of_done
      cases ha

/-- A list of requests fails at one of them, and those before it are made. -/
theorem compileAll_error {sources : List Path}
    (h : Amid run p (compileAll layout toolchain here flags table sources) specs r
      (table', .error e)) :
    ∃ before source after objects q, sources = before ++ source :: after ∧
      Amid run p (compileAll layout toolchain here flags table before) specs q
        (table', .ok objects) ∧
      Amid run q (compile layout toolchain here table' source flags) [] r (table', .error e) := by
  induction sources generalizing p r table specs with
  | nil =>
    obtain ⟨-, ha, -⟩ := h.of_done
    cases ha
  | cons source rest ih =>
    rw [compileAll] at h
    obtain ⟨q, first, second, ⟨table₁, made⟩, rfl, hfirst, h⟩ := h.of_bind
    cases made with
    | error e' =>
      -- The first request is the one that fails, and what became of the pool after it counts as its own.
      obtain ⟨rfl, ha, hr⟩ := h.of_done
      cases ha
      obtain ⟨rfl, rfl, -⟩ := hfirst.compile_error
      exact ⟨[], source, rest, [], p, rfl, .done, hfirst.after hr⟩
    | ok object =>
      obtain ⟨q', third, fourth, ⟨table₂, objects⟩, rfl, hrest, h⟩ := h.of_bind
      obtain ⟨rfl, ha, hr⟩ := h.of_done
      cases objects with
      | ok objects => cases ha
      | error e' =>
        cases ha
        obtain ⟨before, failed, after, objects, q'', rfl, hbefore, hfailed⟩ := ih hrest
        refine ⟨source :: before, failed, after, object :: objects, q'', rfl, ?_, hfailed.after hr⟩
        rw [compileAll]
        exact hfirst.bind (hbefore.bind .done)

end

end Amid

end Errand

/-! ### Many threads -/

namespace Desk

variable {d : Desk} {run : Runner} {m : Machine} {layout : Layout} {toolchain : Toolchain}
  {config : PoolConfig}

/-- What is in the table was answered, and nothing else of what was answered counts. -/
theorem Consistent.lookup?_eq_none_iff (h : d.Consistent) (key : ObjectKey) :
    d.build.table.lookup? key = none ↔
      ∀ k object, (k, .ok object) ∈ d.answers → ¬ k.Same key := by
  rw [ObjectTable.lookup?_eq_none]
  constructor
  · intro hnone k object hanswer hsame
    obtain ⟨e, he, hkey, -⟩ := ObjectTable.exists_of_lookup? (h.answered k object hanswer)
    exact hnone e he (hkey.trans hsame)
  · intro hanswers e he
    exact hanswers e.1 e.2 (h.asked e he)

/-- While no request holds the table, the workers have a task for each of its entries and no other
task for a request. -/
theorem Consistent.launched_eq (h : d.Consistent) (hh : d.holder = none) :
    d.build.table.entries = d.launched.map entry := by
  obtain ⟨kept, hlaunched, hentries⟩ := h.launched
  rw [hentries, hlaunched, pending_none hh, List.append_nil]

end Desk

namespace Build

/-- What a call makes of a build, as a run of an errand that nothing else goes on beside. -/
def Follows {α : Type} (b : Build) (e : Errand α) (q : Pool Machine) (a : α) : Prop :=
  ∃ specs, e.Amid b.run b.pool specs q a

theorem follows_compile (b : Build) (source : Path) (flags : List String) :
    b.Follows (.compile b.layout b.toolchain b.pool.here b.table source flags)
      (b.compile source flags).1.pool
      ((b.compile source flags).1.table, (b.compile source flags).2) := by
  rw [compile_eq]
  exact Errand.Amid.follow b.run b.pool _

theorem follows_target (b : Build) (kind : ArtifactKind) (output : Path) (inputs : LinkInputs) :
    b.Follows (.target b.layout b.toolchain b.pool.here kind output inputs)
      (b.target kind output inputs).1.pool (b.target kind output inputs).2 := by
  rw [target_eq]
  exact Errand.Amid.follow b.run b.pool _

theorem follows_compileAll (b : Build) (flags : List String) (sources : List Path) :
    b.Follows (.compileAll b.layout b.toolchain b.pool.here flags b.table sources)
      (b.compileAll flags sources).1.pool
      ((b.compileAll flags sources).1.table, (b.compileAll flags sources).2) := by
  rw [compileAll_eq]
  exact Errand.Amid.follow b.run b.pool _

/-- A declaration that fails leaves no trace but in the tree of files, in every state of a build.  A
request for an object that fails submits nothing and records nothing, so that the same request is
later taken as the first one, unless one for the same object was recorded meanwhile.  A target that
fails submits nothing.  A list of requests that fails leaves the build as its first requests leave
it, up to the one that fails, each made by itself.  All this is so amid whatever else becomes of the
pool, and the calls are such runs when nothing else goes on; and when many threads make requests,
only those that were answered with an object count: the table and the tasks that the workers were
handed are theirs. -/
theorem failures_traceless (b : Build) :
    (∀ source flags b' e, b.compile source flags = (b', .error e) →
      (∃ m, b' = b.setMachine m) ∧
      ∀ (c : Build) added, c.pool.here = b.pool.here →
        c.table.entries = b'.table.entries ++ added →
        (∀ x ∈ added, ¬ x.1.Same (.of b.pool.here source flags)) → c.TakesAsFirst source flags) ∧
    (∀ kind output inputs b' e, b.target kind output inputs = (b', .error e) →
      ∃ m, b' = b.setMachine m) ∧
    (∀ flags sources b' e, b.compileAll flags sources = (b', .error e) →
      ∃ before source after objects m, sources = before ++ source :: after ∧
        b.compileAll flags before = (b.compileEach flags before, .ok objects) ∧
        (b.compileEach flags before).compile source flags = (b', .error e) ∧
        b' = (b.compileEach flags before).setMachine m) ∧
    (∀ (run : Runner) (p r : Pool Machine) (specs : List TaskSpec) (e : Failure),
      (∀ source flags table', Errand.Amid run p
        (.compile b.layout b.toolchain b.pool.here b.table source flags) specs r (table', .error e) →
        specs = [] ∧ table' = b.table) ∧
      (∀ kind output inputs, Errand.Amid run p
        (.target b.layout b.toolchain b.pool.here kind output inputs) specs r (.error e) →
        specs = []) ∧
      ∀ flags sources table', Errand.Amid run p
        (.compileAll b.layout b.toolchain b.pool.here flags b.table sources) specs r
          (table', .error e) →
        ∃ before source after objects q, sources = before ++ source :: after ∧
          Errand.Amid run p
            (.compileAll b.layout b.toolchain b.pool.here flags b.table before) specs q
            (table', .ok objects) ∧
          Errand.Amid run q (.compile b.layout b.toolchain b.pool.here table' source flags) [] r
            (table', .error e)) ∧
    (∀ source flags, b.Follows (.compile b.layout b.toolchain b.pool.here b.table source flags)
      (b.compile source flags).1.pool
      ((b.compile source flags).1.table, (b.compile source flags).2)) ∧
    (∀ kind output inputs, b.Follows (.target b.layout b.toolchain b.pool.here kind output inputs)
      (b.target kind output inputs).1.pool (b.target kind output inputs).2) ∧
    (∀ flags sources,
      b.Follows (.compileAll b.layout b.toolchain b.pool.here flags b.table sources)
        (b.compileAll flags sources).1.pool
        ((b.compileAll flags sources).1.table, (b.compileAll flags sources).2)) ∧
    ∀ run m layout toolchain config d, Desk.Reachable run m layout toolchain config d →
      (∀ key, d.build.table.lookup? key = none ↔
        ∀ k object, (k, .ok object) ∈ d.answers → ¬ k.Same key) ∧
      (d.holder = none → d.build.table.entries = d.launched.map Desk.entry) := by
  refine ⟨?_, fun _ _ _ _ _ => target_error, ?_, ?_, b.follows_compile, b.follows_target,
    b.follows_compileAll, ?_⟩
  · intro source flags b' e h
    obtain ⟨⟨m, rfl⟩, hnone⟩ := compile_error h
    refine ⟨⟨m, rfl⟩, fun c added hhere hentries hadded => takesAsFirst ?_⟩
    rw [ObjectTable.lookup?_eq_none, hentries, hhere]
    intro x hx
    rcases List.mem_append.1 hx with hx | hx
    · exact ObjectTable.lookup?_eq_none.1 hnone x hx
    · exact hadded x hx
  · intro flags sources b' e h
    obtain ⟨before, source, after, objects, hsources, hbefore, hfailed⟩ := compileAll_error h
    obtain ⟨⟨m, hm⟩, -⟩ := compile_error hfailed
    exact ⟨before, source, after, objects, m, hsources, hbefore, hfailed, hm⟩
  · intro run p r specs e
    refine ⟨?_, fun _ _ _ => Errand.Amid.target_error, fun _ _ _ => Errand.Amid.compileAll_error⟩
    intro source flags table' h
    obtain ⟨hspecs, htable, -⟩ := h.compile_error
    exact ⟨hspecs, htable⟩
  · intro run m layout toolchain config d hd
    exact ⟨hd.consistent.lookup?_eq_none_iff, hd.consistent.launched_eq⟩

/-- A build on a machine that has a file where the objects are to go. -/
def blocked : Build where
  layout := ⟨⟨['/']⟩, ⟨[]⟩, ⟨[]⟩, ⟨['/', 'o']⟩, ⟨[]⟩, ⟨[]⟩, ⟨[]⟩, ⟨[]⟩⟩
  toolchain := ⟨⟨['c']⟩, ⟨['c']⟩, .linux, []⟩
  run := fun _ m => (m, .ok "")
  pool := .start ⟨1, .pooled, .strict⟩ ⟨['/']⟩ ⟨⟨[([['o']], .file [] false)], [], [], 0⟩, ⟨['/']⟩, []⟩
  table := ⟨[]⟩

/-- A build without worker threads whose compiler puts a file where the objects are to go. -/
def sabotaged : Build where
  layout := blocked.layout
  toolchain := blocked.toolchain
  run := fun _ m => ({ m with files := m.files.put [['o']] (.file [] false) }, .ok "")
  pool := .start ⟨1, .inline, .strict⟩ ⟨['/']⟩ ⟨⟨[], [], [], 0⟩, ⟨['/']⟩, []⟩
  table := ⟨[]⟩

/-- What the compilations there do. -/
def sabotage (c : Command) : Job :=
  .act (NativeBuild.ensureDirectory ⟨['/', 'o']⟩) fun
    | .ok _ => c.job sabotaged.run
    | .error e => .done (.error e)

/-- The machine when the directory of the objects has been made. -/
def made : Machine :=
  (sabotaged.machine.makeDirectories ⟨['/', 'o']⟩).1

/-- The build when its first object has been asked for and compiled. -/
def spoilt (c : Compilation) : Build :=
  { sabotaged with
    pool := ⟨⟨1, .inline, .strict⟩, ⟨['/']⟩, 1, (sabotaged.run c.command made).1,
      [⟨c.spec, fun _ => sabotage c.command, .finished (.completed (some c.object)), .ended false,
        [[]]⟩], []⟩
    table := ⟨[(c.key, .task 0)]⟩ }

/-- The first object that is asked for is compiled. -/
theorem compile_sabotaged {c : Compilation}
    (hc : .of sabotaged.toolchain ⟨['/', 'o']⟩ (.of ⟨['/']⟩ ⟨['/', 'a']⟩ []) = c) :
    sabotaged.compile ⟨['/', 'a']⟩ [] = (spoilt c, .ok (.task 0)) := by
  have hkey : ObjectKey.of ⟨['/']⟩ ⟨['/', 'a']⟩ [] = c.key := congrArg Compilation.key hc
  rw [hkey] at hc
  have hjob : c.job sabotaged.run = sabotage c.command := by
    have hobject : c.object = (⟨['/', 'o']⟩ : Path).child c.key.objectName :=
      (congrArg Compilation.object hc).symm
    have habove : c.object.above? = some ⟨['/', 'o']⟩ := by
      rw [hobject]
      exact ObjectKey.above?_child rfl rfl c.key
    rw [Compilation.job, habove]
    rfl
  have hsubmit : (sabotaged.setMachine made).pool.submit .outside c.spec
      (fun _ => sabotage c.command) = ((spoilt c).pool, 0, .returned) := by
    -- The name of the object is of no account, and is not to be computed.
    obtain ⟨key, object, command⟩ := c
    exact Pool.submit_eq_of_settle rfl (Pool.settle_eq_of_advances (n := 5) rfl rfl)
  have hlookup : sabotaged.table.lookup? c.key = none := rfl
  have hmade : sabotaged.ensureDirectory ⟨['/', 'o']⟩ = (sabotaged.setMachine made, .ok ()) := rfl
  have hrun : (sabotaged.setMachine made).run = sabotaged.run := rfl
  have hhere : sabotaged.pool.here = ⟨['/']⟩ := rfl
  have hlayout : sabotaged.layout.objectDir = ⟨['/', 'o']⟩ := rfl
  simp only [compile, hhere, hkey, hlookup, hlayout, hmade, hc, submit, hrun, hjob, hsubmit]
  rfl

/-- Nothing can be compiled when the file is there. -/
theorem compile_spoilt {c : Compilation} (hkey : c.key = .of ⟨['/']⟩ ⟨['/', 'a']⟩ []) :
    (spoilt c).compile ⟨['/', 'b']⟩ [] = (spoilt c, .error (.io .alreadyThere)) := by
  have hlookup : (spoilt c).table.lookup? (.of ⟨['/']⟩ ⟨['/', 'b']⟩ []) = none := by
    rw [spoilt, hkey]
    rfl
  have hmade : (spoilt c).ensureDirectory ⟨['/', 'o']⟩ =
    (spoilt c, .error (.io .alreadyThere)) := rfl
  have hhere : (spoilt c).pool.here = ⟨['/']⟩ := rfl
  have hlayout : (spoilt c).layout.objectDir = ⟨['/', 'o']⟩ := rfl
  simp only [compile, hhere, hlayout, hlookup, hmade]

/-- Of two objects that are asked for, the first one is compiled, and the second one is refused. -/
theorem compileAll_sabotaged : ∃ b₁ b' e,
    sabotaged.compile ⟨['/', 'a']⟩ [] = (b₁, .ok (.task 0)) ∧
      sabotaged.compileAll [] [⟨['/', 'a']⟩, ⟨['/', 'b']⟩] = (b', .error e) := by
  obtain ⟨c, hc⟩ : ∃ c, Compilation.of sabotaged.toolchain ⟨['/', 'o']⟩
    (.of ⟨['/']⟩ ⟨['/', 'a']⟩ []) = c := ⟨_, rfl⟩
  have hfirst := compile_sabotaged hc
  have hsecond := compile_spoilt (congrArg Compilation.key hc).symm
  refine ⟨spoilt c, spoilt c, .io .alreadyThere, hfirst, ?_⟩
  simp only [compileAll, hfirst, hsecond]

/-- Nothing can be compiled or linked on the blocked machine.  When the file is gone, the object is asked
for as if it had not been before.  Where the first of two compilations puts the file there, the build is
left as the first request leaves it. -/
theorem failures_traceless_blocked :
    (∃ e m, blocked.compile ⟨['/', 'a']⟩ [] = (blocked.setMachine m, .error e) ∧
      TakesAsFirst (blocked.setMachine ⟨⟨[], [], [], 0⟩, ⟨['/']⟩, []⟩) ⟨['/', 'a']⟩ []) ∧
    (∃ e m, blocked.target .executable ⟨['/', 'o', '/', 'p']⟩ ⟨[], [], []⟩ =
      (blocked.setMachine m, .error e)) ∧
    (∃ e before objects m,
      blocked.compileAll [] before = (blocked.compileEach [] before, .ok objects) ∧
      blocked.compileAll [] [⟨['/', 'a']⟩, ⟨['/', 'b']⟩] =
        ((blocked.compileEach [] before).setMachine m, .error e)) ∧
    ∃ e objects m,
      sabotaged.compileAll [] [⟨['/', 'a']⟩] =
        (sabotaged.compileEach [] [⟨['/', 'a']⟩], .ok objects) ∧
      sabotaged.compileAll [] [⟨['/', 'a']⟩, ⟨['/', 'b']⟩] =
        ((sabotaged.compileEach [] [⟨['/', 'a']⟩]).setMachine m, .error e) := by
  obtain ⟨compiles, links, compilesAll, -⟩ := failures_traceless blocked
  have hcompile : blocked.compile ⟨['/', 'a']⟩ [] = (_, .error _) := rfl
  have htarget : blocked.target .executable ⟨['/', 'o', '/', 'p']⟩ ⟨[], [], []⟩ = (_, .error _) := rfl
  have hall : blocked.compileAll [] [⟨['/', 'a']⟩, ⟨['/', 'b']⟩] = (_, .error _) := rfl
  refine ⟨?_, ?_, ?_, ?_⟩
  · obtain ⟨⟨m, hm⟩, hlater⟩ := compiles _ _ _ _ hcompile
    refine ⟨_, m, hm ▸ hcompile, hlater _ [] rfl rfl ?_⟩
    exact fun x hx => nomatch hx
  · obtain ⟨m, hm⟩ := links _ _ _ _ _ htarget
    exact ⟨_, m, hm ▸ htarget⟩
  · obtain ⟨before, source, after, objects, m, -, hbefore, -, hm⟩ := compilesAll _ _ _ _ hall
    exact ⟨_, before, objects, m, hbefore, hm ▸ hall⟩
  · obtain ⟨b₁, b', e, hfirst, hall⟩ := compileAll_sabotaged
    obtain ⟨before, source, after, objects, m, hsources, hbefore, hfailed, rfl⟩ :=
      (failures_traceless sabotaged).2.2.1 _ _ _ _ hall
    cases before with
    | nil =>
      -- The first request was not the one that failed.
      obtain ⟨rfl, -⟩ := List.cons.inj hsources
      exact nomatch (Prod.mk.inj (hfirst.symm.trans hfailed)).2
    | cons first before =>
      obtain ⟨rfl, hrest⟩ := List.cons.inj hsources
      cases before with
      | nil => exact ⟨e, objects, m, hbefore, hall⟩
      | cons second before =>
        have hlength := congrArg List.length hrest
        simp at hlength

end Build

end NativeBuild
