import NativeBuild.Proofs.Build.Desk
import NativeBuild.Proofs.Build.Execution
import NativeBuild.Proofs.Path.Normal

/-!
The path that an artifact's task gives.  It is the absolute form of the output that the task
declared, and that output is absolute when it is declared; so both are the same path.
-/

namespace NativeBuild

namespace Pool

variable {σ : Type} {p q : Pool σ} {caller : Caller} {ref : PathRef} {path : Path}

/-- A call that waits for a path is told one that is known in the end. -/
theorem pathNow?_of_resolvePath (h : p.resolvePath caller ref = (q, some (.ok path))) :
    p.Becomes q ∧ q.pathNow? ref = some (.ok path) := by
  cases ref with
  | literal l =>
    cases h
    exact ⟨.refl, rfl⟩
  | task k =>
    refine ⟨(resolvePath_answers h).1, ?_⟩
    unfold resolvePath resolve at h
    cases ho : p.outcome? k with
    | some o =>
      simp only [ho, Option.map_some, Except.bind, Prod.mk.injEq, Option.some.injEq] at h
      obtain ⟨rfl, hpath⟩ := h
      rw [pathNow?, ho, Option.map_some, hpath]
    | none =>
      cases hm : mayWait caller (p.label k) with
      | error e =>
        simp only [ho, hm] at h
        cases h
      | ok _ =>
        simp only [ho, hm, Prod.mk.injEq, Option.map_eq_some_iff] at h
        obtain ⟨rfl, _, ⟨o, ho, rfl⟩, hpath⟩ := h
        rw [pathNow?, ho, Option.map_some, ← hpath]
        rfl

theorem Gives.same {k : TaskId} {t : Task σ} {output : Path} (h : p.Gives (.task k) path)
    (ht : p.tasks[k]? = some t) (houtput : t.spec.output = some output)
    (hsame : (output.absolute p.here).Same output) : path.Same output := by
  cases h with
  | task ht' _ houtput' _ =>
    obtain rfl := Option.some.inj (ht.symm.trans ht')
    obtain rfl := Option.some.inj (houtput.symm.trans houtput')
    exact hsame

end Pool

namespace Build

variable {b b' : Build} {kind : ArtifactKind} {output : Path} {inputs : LinkInputs} {t : LinkTarget}

theorem setPool_machine (b : Build) (m : Machine) :
    b.pool.Becomes (b.setMachine m).pool :=
  .single (.move (.touch (.world m)))

/-- A declared artifact lies where its output is seen from the root of the project, and its task has
declared that place. -/
theorem target_output (h : b.target kind output inputs = (b', .ok t)) :
    b.pool.Becomes b'.pool ∧ t.output = output.resolveAgainst b.pool.here b.layout.root := by
  unfold target at h
  dsimp only at h
  split at h
  · cases h
  · next b₁ hmade =>
    have made : b.pool.Becomes b₁.pool := by
      split at hmade
      · cases hmade
        exact .refl
      · obtain ⟨m, rfl⟩ := ensureDirectory_eq hmade
        exact setPool_machine b m
    cases h
    exact ⟨made.trans (b₁.pool.becomes_submit _ _ _).1, rfl⟩

/-- Whatever path an artifact's task gives, then or later, is that of the declared output. -/
theorem same_of_gives {config : PoolConfig} {here : Path} {m : Machine} {q : Pool Machine}
    {path : Path} (hhere : here.IsClean) (hb : (Pool.start config here m).Becomes b.pool)
    (h : b.target kind output inputs = (b', .ok t)) (hq : b'.pool.Becomes q)
    (hgives : q.Gives t.artifact path) : path.Same t.output := by
  obtain ⟨htarget, houtput⟩ := target_output h
  obtain ⟨k, task, hk, htask, hspec⟩ := target_artifact h
  obtain ⟨later, hlater, hlives⟩ := hq.grows k task htask
  rw [hk] at hgives
  refine hgives.same hlater (hlives.spec ▸ hspec) ?_
  have hstart : (Pool.start config here m).Becomes q := (hb.trans htarget).trans hq
  rw [hstart.here_eq, houtput, hb.here_eq]
  exact Path.same_absolute_resolveAgainst output b.layout.root hhere

end Build

namespace Path

/-- The absolute form is a lexical normal form, for every clean current directory.  The empty path
is left as it is, and of any other the absolute form is the normal form; taking it once more changes
nothing; and a path that starts at the root is the same path as its absolute form.  So the path that
an artifact's task gives, to whom looks and to whom waits for it, is the output that was declared.
-/
theorem absolute_normalizes {here : Path} (hhere : here.IsClean) :
    (∀ p : Path, p.chars = [] → p.absolute here = p) ∧
    (∀ p : Path, p.chars ≠ [] → p.IsNormalForm here (p.absolute here)) ∧
    (∀ p : Path, (p.absolute here).absolute here = p.absolute here) ∧
    (∀ p : Path, p.isAbsolute = true → (p.absolute here).Same p) ∧
    ∀ (config : PoolConfig) (m : Machine) (b b' : Build) (kind : ArtifactKind) (output : Path)
      (inputs : LinkInputs) (t : LinkTarget), (Pool.start config here m).Becomes b.pool →
      b.target kind output inputs = (b', .ok t) →
      t.output = output.resolveAgainst here b.layout.root ∧
      ∀ q, b'.pool.Becomes q →
        (∀ path, q.pathNow? t.artifact = some (.ok path) → path.Same t.output) ∧
        ∀ caller r path, q.resolvePath caller t.artifact = (r, some (.ok path)) →
          path.Same t.output := by
  refine ⟨fun p => absolute_of_nil, fun p hp => isNormalForm_absolute hp hhere,
    fun p => absolute_absolute p hhere, fun p hp => same_absolute hp here, ?_⟩
  intro config m b b' kind output inputs t hb htarget
  obtain ⟨hlater, houtput⟩ := Build.target_output htarget
  have named : ∀ q, b'.pool.Becomes q → ∀ path, q.pathNow? t.artifact = some (.ok path) →
      path.Same t.output := by
    intro q hq path hpath
    have hstart : (Pool.start config here m).Becomes q := (hb.trans hlater).trans hq
    exact Build.same_of_gives hhere hb htarget hq
      (Pool.gives_of_pathNow? hstart.namesOutput hpath)
  have hplace : b.pool.here = here := hb.here_eq
  refine ⟨hplace ▸ houtput, fun q hq => ⟨named q hq, fun caller r path hanswer => ?_⟩⟩
  obtain ⟨hr, hpath⟩ := Pool.pathNow?_of_resolvePath hanswer
  exact named r (hq.trans hr) path hpath

/-- A build in the directory `/w`, of a project at the root. -/
def sideBuild : Build where
  layout := ⟨⟨['/']⟩, ⟨[]⟩, ⟨[]⟩, ⟨[]⟩, ⟨[]⟩, ⟨[]⟩, ⟨[]⟩, ⟨[]⟩⟩
  toolchain := ⟨⟨['c']⟩, ⟨['c']⟩, .linux, []⟩
  run := fun _ m => (m, .ok "")
  pool := .start ⟨1, .pooled, .bestEffort⟩ ⟨['/', 'w']⟩ Pool.bareMachine
  table := ⟨[]⟩

/-- The build when a program was declared whose place is written with a dot and a doubled slash. -/
def sideTarget : Build × Except Failure LinkTarget :=
  sideBuild.target .executable ⟨['/', '/', 'd', '/', '.', '/', 'x']⟩ ⟨[], [], []⟩

/-- The file that is declared with a dot and a doubled slash is given without them. -/
theorem absolute_normalizes_sideBuild :
    IsClean ⟨['/', 'w']⟩ ∧
    absolute ⟨['.', '.', '/', '/', 'a', '/']⟩ ⟨['/', 'w']⟩ =
      ⟨['/', 'w', '/', '.', '.', '/', 'a', '/']⟩ ∧
    IsNormalForm ⟨['.', '.', '/', '/', 'a', '/']⟩ ⟨['/', 'w']⟩
      ⟨['/', 'w', '/', '.', '.', '/', 'a', '/']⟩ ∧
    ∃ t q path, sideTarget.2 = .ok t ∧ sideTarget.1.pool.Becomes q ∧
      t.output = ⟨['/', '/', 'd', '/', '.', '/', 'x']⟩ ∧ path = ⟨['/', '/', 'd', '/', 'x']⟩ ∧
      q.pathNow? t.artifact = some (.ok path) ∧ path.Same t.output := by
  have hhere : IsClean ⟨['/', 'w']⟩ := by decide
  obtain ⟨-, hform, -, -, htarget⟩ := absolute_normalizes hhere
  have hstart : Pool.Becomes (.start ⟨1, .pooled, .bestEffort⟩ ⟨['/', 'w']⟩ Pool.bareMachine)
      sideBuild.pool := .refl
  have hdeclared : sideTarget = (sideTarget.1,
      .ok ⟨.executable, ⟨['/', '/', 'd', '/', '.', '/', 'x']⟩, .task 0⟩) := rfl
  obtain ⟨houtput, hgiven⟩ := htarget _ _ _ _ _ _ _ _ hstart hdeclared
  -- The task is given up when it has begun; as the pool is lenient, its output is given all the same.
  obtain ⟨q, hq, hpath⟩ : ∃ q, sideTarget.1.pool.Becomes q ∧
      q.pathNow? (.task 0) = some (.ok ⟨['/', '/', 'd', '/', 'x']⟩) :=
    ⟨_, .tail (.single (.move (.step (i := 0) rfl))) (.drop (i := 0) rfl rfl rfl), rfl⟩
  exact ⟨hhere, by decide, hform _ (by decide), _, q, _, rfl, hq, houtput, rfl, hpath,
    (hgiven q hq).1 _ hpath⟩

end Path

end NativeBuild
