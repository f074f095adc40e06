import NativeBuild.Proofs.Cli.Outcome
import NativeBuild.Proofs.Text.Numeral

/-!
How many tasks of a build run beside each other.  A positive number that is given as an option counts;
else the number that the environment holds, if it is positive and has at most 64 bits; else the default.
The pool has as many permits, from its start to the end of the command, or there is no room for them and
no pool is set up at all.
-/

namespace NativeBuild

open Text (Numeral)

/-- Whether `n` is the number of tasks beside each other for an option and a setting. -/
inductive Parallelism (jobs : Option Nat) (setting : Option String) : Nat → Prop where
  | option {n : Nat} (hjobs : jobs = some n) (hpos : 0 < n) : Parallelism jobs setting n
  | setting {n : Nat} {text : String} (hjobs : ∀ k, jobs = some k → k = 0)
    (hsetting : setting = some text) (hnumeral : Numeral text.toList n) (hpos : 0 < n)
    (hlt : n < 2 ^ 64) : Parallelism jobs setting n
  | usual (hjobs : ∀ k, jobs = some k → k = 0)
    (hsetting : ∀ text k, setting = some text → Numeral text.toList k → k = 0 ∨ 2 ^ 64 ≤ k) :
    Parallelism jobs setting 32

namespace Parallelism

variable {jobs : Option Nat} {setting : Option String} {n k : Nat}

theorem pos (h : Parallelism jobs setting n) : 0 < n := by
  cases h with
  | option _ hpos => exact hpos
  | setting _ _ _ hpos _ => exact hpos
  | usual _ _ => decide

theorem unique (h : Parallelism jobs setting n) (h' : Parallelism jobs setting k) : n = k := by
  have hzero {j : Nat} (hpos : 0 < j) (hjobs : ∀ k, jobs = some k → k = 0) (hj : jobs = some j) :
      False := by
    have := hjobs j hj
    omega
  -- Two rules never hold at once, and no rule gives two numbers.
  cases h with
  | option hjobs hpos =>
    cases h' with
    | option hjobs' _ => exact Option.some.inj (hjobs.symm.trans hjobs')
    | setting hjobs' _ _ _ _ => exact (hzero hpos hjobs' hjobs).elim
    | usual hjobs' _ => exact (hzero hpos hjobs' hjobs).elim
  | setting hjobs hsetting hnumeral hpos hlt =>
    cases h' with
    | option hjobs' hpos' => exact (hzero hpos' hjobs hjobs').elim
    | setting _ hsetting' hnumeral' _ _ =>
      obtain rfl := Option.some.inj (hsetting.symm.trans hsetting')
      exact hnumeral.unique hnumeral'
    | usual _ hnone =>
      have := hnone _ _ hsetting hnumeral
      omega
  | usual hjobs hnone =>
    cases h' with
    | option hjobs' hpos' => exact (hzero hpos' hjobs hjobs').elim
    | setting _ hsetting' hnumeral' hpos' hlt' =>
      have := hnone _ _ hsetting' hnumeral'
      omega
    | usual _ _ => rfl

/-- An option that asks for no task at all counts as none. -/
theorem of_none (h : Parallelism none setting n) (hjobs : ∀ k, jobs = some k → k = 0) :
    Parallelism jobs setting n := by
  cases h with
  | option hnone _ => exact nomatch hnone
  | setting _ hsetting hnumeral hpos hlt => exact .setting hjobs hsetting hnumeral hpos hlt
  | usual _ hsetting => exact .usual hjobs hsetting

end Parallelism

/-! ### The environment -/

theorem Settings.parallelism_spec (s : Settings) : Parallelism none s.jobs s.parallelism := by
  have hread {text : String} {k : Nat} (hnumeral : Numeral text.toList k) (hlt : k < 2 ^ 64) :
      Text.unsigned64? (Text.trim text.toList) = some k :=
    Text.unsigned64?_trim_eq_some_iff.2 ⟨hnumeral, hlt⟩
  unfold parallelism
  cases hjobs : s.jobs with
  | none => exact .usual nofun nofun
  | some text =>
    rw [Option.bind_some]
    split
    · next n hn =>
      obtain ⟨hnumeral, hlt⟩ := Text.unsigned64?_trim_eq_some_iff.1 hn
      split
      · next hpos => exact .setting nofun rfl hnumeral hpos hlt
      · next hzero =>
        refine .usual nofun ?_
        rintro _ k ⟨⟩ hk
        have := hnumeral.unique hk
        omega
    · next hnone =>
      refine .usual nofun ?_
      rintro _ k ⟨⟩ hk
      by_contra hk'
      exact nomatch hnone.symm.trans (hread hk (by omega))

namespace Cli

variable {run : Runner} {m : Machine} {options : BuildOptions} {manifest : Manifest} {n : Nat}

theorem BuildOptions.parallelism_spec (options : BuildOptions) (s : Settings) :
    Parallelism options.jobs s.jobs (options.poolConfig s).parallelism := by
  unfold poolConfig
  cases hjobs : options.jobs with
  | none => exact s.parallelism_spec
  | some j =>
    by_cases hpos : 0 < j
    · simp only [Option.filter_some, hpos, decide_true, if_true, Option.getD_some]
      exact .option rfl hpos
    · simp only [Option.filter_some, hpos, decide_false, Bool.false_eq_true, if_false,
        Option.getD_none]
      refine s.parallelism_spec.of_none ?_
      rintro _ ⟨⟩
      omega

/-- A pool has the permits that its options and settings ask for, and never has to make up for none. -/
theorem BuildOptions.permits_spec (options : BuildOptions) (s : Settings) :
    Parallelism options.jobs s.jobs (options.poolConfig s).permits := by
  have h := options.parallelism_spec s
  rwa [PoolConfig.permits, max_eq_right h.pos]

/-! ### The command -/

/-- Nothing that the command does changes its pool's configuration, or makes or loses a permit. -/
theorem Conduct.permits_of_runs {c : Conduct}
    (hc : Conduct.Runs run options.noRun (begin m options manifest) c) :
    c.site.pool.config.permits = (options.poolConfig (Settings.ofEnv m.env)).permits ∧
    c.site.pool.free + c.site.pool.held =
      (options.poolConfig (Settings.ofEnv m.env)).permits := by
  have hreached := ((Conduct.sound_start run options.noRun
    (options.poolConfig (Settings.ofEnv m.env)) m _ _ manifest).runs hc).site.orderly.reached
  exact ⟨by rw [hreached.config_eq], hreached.free_add_held⟩

/-- The calls of the command itself are one of its schedules. -/
theorem exists_runs_build (hload : Manifest.load m
      (options.manifest.getD ((projectRoot m options.root).child manifestName)) = .ok manifest) :
    ∃ c, Conduct.Runs run options.noRun (begin m options manifest) c ∧
      c.Ends (build run m options) := by
  obtain ⟨c, table, hruns, -, s, declared, b, joined, hran, hfinish, hends⟩ :=
    Conduct.exists_ends run options.noRun (options.poolConfig (Settings.ofEnv m.env)) m _ _ manifest
  refine ⟨c, hruns, ?_⟩
  rw [build_eq hload hran hfinish]
  exact hends

/-- Where there is no room for its permits, a command does nothing and ends with a panic. -/
theorem buildWithin_of_lt {limit : Nat} (hload : Manifest.load m
      (options.manifest.getD ((projectRoot m options.root).child manifestName)) = .ok manifest)
    (hlt : limit < (options.poolConfig (Settings.ofEnv m.env)).permits) :
    buildWithin limit run m options = overfilled m limit := by
  simp only [buildWithin, hload, Build.forProject?_eq_none_iff.2 hlt]

/-- The number of tasks of a build that run beside each other, for every environment and every option:
what the option says if it is positive; else what the environment says if that is a number, between
blanks and perhaps with a plus sign, that is positive and has at most 64 bits; else 32.  It is never
zero, and a number of more than 64 bits is not cut off to a smaller one.  If a semaphore has room for so
many permits, the pool that the command sets up has them, and so many are free or held at every moment of
every schedule, of which the command's own is one.  If it has not, no pool is set up, and the command ends
with a panic. -/
theorem parallelism_iff (limit : Nat) (run : Runner) (m : Machine) (options : BuildOptions)
    (manifest : Manifest) (n : Nat) :
    let setting := m.env.lookup "CFORGE_JOBS"
    let setUp := Build.forProject? limit run m (Settings.ofEnv m.env) (projectRoot m options.root)
      manifest (options.poolConfig (Settings.ofEnv m.env))
    (setUp = none ↔ ∃ k, Parallelism options.jobs setting k ∧ limit < k) ∧
    (∀ b, setUp = some b →
      (b.pool.config.permits = n ↔ Parallelism options.jobs setting n) ∧
      0 < b.pool.config.permits ∧
      (∀ text k, setting = some text → Numeral text.toList k → 2 ^ 64 ≤ k →
        (∀ j, options.jobs = some j → j = 0) → b.pool.config.permits = 32) ∧
      ∀ c, Conduct.Runs run options.noRun (begin m options manifest) c →
        c.site.pool.config.permits = b.pool.config.permits ∧
        c.site.pool.free + c.site.pool.held = b.pool.config.permits) ∧
    (Manifest.load m (options.manifest.getD ((projectRoot m options.root).child manifestName)) =
        .ok manifest →
      (setUp = none → buildWithin limit run m options = overfilled m limit) ∧
      ∀ b, setUp = some b →
        ∃ c, Conduct.Runs run options.noRun (begin m options manifest) c ∧
          c.Ends (buildWithin limit run m options)) := by
  intro setting setUp
  have hspec : Parallelism options.jobs setting (options.poolConfig (Settings.ofEnv m.env)).permits :=
    options.permits_spec (Settings.ofEnv m.env)
  refine ⟨?_, fun b hb => ?_, fun hload => ⟨fun hnone => ?_, fun b hb => ?_⟩⟩
  · rw [Build.forProject?_eq_none_iff]
    refine ⟨fun hlt => ⟨_, hspec, hlt⟩, fun ⟨k, hk, hlt⟩ => ?_⟩
    rwa [hspec.unique hk]
  · obtain ⟨-, rfl⟩ := Build.forProject?_eq_some_iff.1 hb
    refine ⟨⟨fun h => h ▸ hspec, hspec.unique⟩, hspec.pos, fun text k htext hk hlarge hjobs => ?_,
      fun c hc => Conduct.permits_of_runs hc⟩
    refine hspec.unique (.usual hjobs fun text' k' htext' hk' => .inr ?_)
    obtain rfl := Option.some.inj (htext.symm.trans htext')
    rwa [← hk.unique hk']
  · exact buildWithin_of_lt hload (Build.forProject?_eq_none_iff.1 hnone)
  · rw [buildWithin_eq (Build.forProject?_eq_some_iff.1 hb).1]
    exact exists_runs_build hload

/-! ### Environments with a number -/

namespace Numbered

/-- A machine whose environment says how many tasks run beside each other. -/
def machine (jobs : String) : Machine where
  files := { entries := [] }
  here := ⟨['/']⟩
  env := [("CFORGE_JOBS", jobs)]

def idle : Runner := fun _ m => (m, .ok "")

/-- A machine that has a manifest without targets besides. -/
def project (jobs : String) : Machine :=
  { machine jobs with
    files := { entries := [([manifestName.toList], .file (TwoTargets.bytes "\x7b\x7d") false)] } }

theorem numeral_seven : Numeral "\u3000+007\n".toList 7 :=
  Text.signed?_trim_eq_some_iff.1 (by decide)

theorem numeral_large : Numeral "18446744073709551617".toList 18446744073709551617 :=
  Text.signed?_trim_eq_some_iff.1 (by decide)

theorem numeral_overfull : Numeral "2305843009213693952".toList 2305843009213693952 :=
  Text.signed?_trim_eq_some_iff.1 (by decide)

theorem load_project (jobs : String) : Manifest.load (project jobs)
    ((projectRoot (project jobs) none).child manifestName) = .ok ⟨.none, []⟩ := by
  cbv

/-- The build that a command sets up on a machine with this number. -/
def setUp (jobs : String) (options : BuildOptions) : Option Build :=
  Build.forProject? semaphoreLimit idle (machine jobs) (Settings.ofEnv (machine jobs).env)
    (projectRoot (machine jobs) options.root) ⟨.none, []⟩
    (options.poolConfig (Settings.ofEnv (machine jobs).env))

end Numbered

/-- A number with blanks, a plus sign and zeros around it counts when the option asks for no task, and a
number of 65 bits does not. -/
theorem parallelism_iff_numbered :
    (∃ b, Numbered.setUp "\u3000+007\n" { jobs := some 0 } = some b ∧ b.pool.config.permits = 7) ∧
    ∃ b, Numbered.setUp "18446744073709551617" {} = some b ∧ b.pool.config.permits = 32 := by
  constructor
  · obtain ⟨-, hpool, -⟩ := parallelism_iff semaphoreLimit Numbered.idle
      (Numbered.machine "\u3000+007\n") { jobs := some 0 } ⟨.none, []⟩ 7
    have hsetUp : Numbered.setUp "\u3000+007\n" { jobs := some 0 } = some _ :=
      Build.forProject?_eq_some_iff.2 ⟨by decide, rfl⟩
    refine ⟨_, hsetUp, (hpool _ hsetUp).1.2 ?_⟩
    exact .setting (by rintro _ ⟨⟩; rfl) rfl Numbered.numeral_seven (by decide) (by decide)
  · obtain ⟨-, hpool, -⟩ := parallelism_iff semaphoreLimit Numbered.idle
      (Numbered.machine "18446744073709551617") {} ⟨.none, []⟩ 32
    have hsetUp : Numbered.setUp "18446744073709551617" {} = some _ :=
      Build.forProject?_eq_some_iff.2 ⟨by decide, rfl⟩
    exact ⟨_, hsetUp, (hpool _ hsetUp).2.2.1 _ _ rfl Numbered.numeral_large (by decide) nofun⟩

/-- A number of 62 bits is what the environment asks for, and the command that sets up such a build ends
with a panic. -/
theorem exists_overfilled :
    Parallelism none (some "2305843009213693952") 2305843009213693952 ∧
    Numbered.setUp "2305843009213693952" {} = none ∧
    (buildWithin semaphoreLimit Numbered.idle (Numbered.project "2305843009213693952") {}).code =
      panicCode := by
  have hasked : Parallelism none (some "2305843009213693952") 2305843009213693952 :=
    .setting nofun rfl Numbered.numeral_overfull (by decide) (by decide)
  have hlt (settings : Settings) (hjobs : settings.jobs = some "2305843009213693952") :
      semaphoreLimit < (BuildOptions.poolConfig {} settings).permits := by
    have hspec := BuildOptions.permits_spec {} settings
    rw [hjobs] at hspec
    rw [hspec.unique hasked]
    decide
  refine ⟨hasked, Build.forProject?_eq_none_iff.2 (hlt _ rfl), ?_⟩
  rw [buildWithin_of_lt (Numbered.load_project _) (hlt _ rfl)]
  rfl

end Cli

end NativeBuild
