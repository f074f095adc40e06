import NativeBuild.Proofs.Build.Ideal
import NativeBuild.Proofs.Build.Scope

/-!
A build in which no deeds race.  It is enough to know deeds that all commute, on machines that they do
not lead away from, and that whatever the declaration and the tasks do is among them.
-/

namespace NativeBuild

namespace Files

variable {files files' : Files} {here : Location}

/-- Whether two trees have the same entries, but for what is in their files. -/
def SameShape (files files' : Files) : Prop :=
  ∀ loc, files.at? loc = files'.at? loc ∨
    ∃ a a' x x', files.at? loc = some (.file a x) ∧ files'.at? loc = some (.file a' x')

/-- Whether a search has ended at an entry. -/
def reaches : Except IoError Spot → Bool
  | .ok (.entry _ _) => true
  | _ => false

theorem reaches_walk (h : SameShape files files') {follow : Bool}
    {jump jump' : Location → List Name → Except IoError Spot}
    (hjump : ∀ dir names, reaches (jump dir names) = reaches (jump' dir names)) (dir : Location)
    (names : List Name) :
    reaches (files.walk here follow jump dir names) =
      reaches (files'.walk here follow jump' dir names) := by
  induction names generalizing dir with
  | nil =>
    rw [walk, walk]
    rcases h dir with heq | ⟨a, a', x, x', ha, ha'⟩
    · rw [heq]
    · rw [ha, ha']
      rfl
  | cons name rest ih =>
    simp only [walk]
    split
    · exact ih dir
    · split
      · exact ih _
      · split
        · rfl
        · rcases h (dir ++ [name]) with heq | ⟨a, a', x, x', ha, ha'⟩
          · rw [heq]
            cases files'.at? (dir ++ [name]) with
            | none => rfl
            | some e =>
              cases e with
              | directory => exact ih _
              | link target =>
                simp only
                split
                · rfl
                · split
                  · rfl
                  · exact hjump _ _
              | here =>
                simp only
                split
                · rfl
                · exact hjump _ _
              | file _ _ | program _ | nothing | zeros | pipe | descriptor _ => rfl
          · rw [ha, ha']
            cases rest <;> rfl

theorem reaches_search (h : SameShape files files') {follow : Bool} (links : Nat) (dir : Location)
    (names : List Name) :
    reaches (files.search here follow links dir names) =
      reaches (files'.search here follow links dir names) := by
  induction links generalizing dir names with
  | zero => exact reaches_walk h (fun _ _ => rfl) dir names
  | succ links ih => exact reaches_walk h ih dir names

theorem has_eq_reaches (files : Files) (here : Location) (p : Path) :
    files.has here p = reaches (files.locate here true p) := by
  simp only [has, find]
  cases files.locate here true p with
  | error e => rfl
  | ok spot => cases spot <;> rfl

/-- Whether a path leads to something does not depend on what files hold. -/
theorem SameShape.has (h : SameShape files files') (p : Path) :
    files.has here p = files'.has here p := by
  rw [has_eq_reaches, has_eq_reaches]
  unfold locate
  split
  · rfl
  · split
    · rfl
    · split
      · rfl
      · exact reaches_search h _ _ _

end Files

section

variable (run : Runner) (K : Machine → Prop) (D : Deed → Prop)

/-- Whether a job, on machines in `K`, does no deeds but those in `D`. -/
inductive Chore.Uses : Chore → Prop where
  | done {result : Except Failure Unit} : Uses (.done result)
  | act {a : Act} {next : Except Failure String → Chore} (ha : D (.act a))
    (h : ∀ m, K m → Uses (next (a.perform run m).2)) : Uses (.act a next)

/-- Whether an errand and the tasks that it submits, on machines in `K`, do no deeds but those in `D`,
and the errand comes to what `P` says. -/
inductive Errand.Uses {α : Type} (P : α → Prop) : Errand α → Prop where
  | done {a : α} (h : P a) : Uses P (.done a)
  | deed {d : Deed} {next : d.Answer → Errand α} (hd : D d)
    (h : ∀ m, K m → Uses P (next (d.perform run m).2)) : Uses P (.deed d next)
  | submit {spec : TaskSpec} {body : List Path → Chore} {next : TaskId → Errand α}
    (hbody : ∀ inputs, inputs.length = spec.inputs.length → (body inputs).Uses run K D)
    (h : ∀ id, Uses P (next id)) : Uses P (.submit spec body next)

/-- Whether what is left of a task does, on machines in `K`, no deeds but those in `D`. -/
def Duty.Uses (u : Duty) : Prop :=
  match u.progress with
  | .waiting =>
    ∀ inputs, inputs.length = u.spec.inputs.length → (u.body inputs).Uses run K D
  | .busy chore => chore.Uses run K D
  | .ended _ => True

/-- Whether deeds in `D` commute on machines in `K`, and never lead away from them. -/
structure Deed.Independent : Prop where
  closed : ∀ d, D d → ∀ m, K m → K (d.perform run m).1
  commute : ∀ d e, D d → D e → ∀ m, K m → d.Commute run m e

/-- Whether a deed, on machines in `K`, changes nothing and is always answered the same. -/
def Deed.Idle (d : Deed) : Prop :=
  ∀ m, K m → (d.perform run m).1 = m ∧ ∀ m', K m' → (d.perform run m').2 = (d.perform run m).2

/-- Whether a build is on a machine in `K`, and all that is left of it does, on machines in `K`, no
deeds but those in `D`. -/
structure Ideal.Uses {α : Type} (x : Ideal α) : Prop where
  world : K x.world
  errand : x.sheet.errand.Uses run K D fun _ => True
  duties : ∀ u ∈ x.sheet.duties, u.Uses run K D

end

theorem Command.uses_chore {run : Runner} {K : Machine → Prop} {D : Deed → Prop} {c : Command}
    (h : D (.act (.command c))) : c.chore.Uses run K D :=
  .act h fun _ _ => .done

theorem Deed.Commute.of_eq {run : Runner} {m : Machine} {d e : Deed}
    (hl : (d.perform run (e.perform run m).1).2 = (d.perform run m).2)
    (hr : (e.perform run (d.perform run m).1).2 = (e.perform run m).2)
    (h : (e.perform run (d.perform run m).1).1 = (d.perform run (e.perform run m).1).1) :
    d.Commute run m e :=
  ⟨hl, hr, by rw [h]; exact .refl _⟩

/-- Deeds that change nothing and are always answered the same may be added to independent ones. -/
theorem Deed.Independent.or_idle {run : Runner} {K : Machine → Prop} {D : Deed → Prop}
    (h : Independent run K D) : Independent run K fun d => d.Idle run K ∨ D d where
  closed d hd m hm := by
    rcases hd with hd | hd
    · rw [(hd m hm).1]
      exact hm
    · exact h.closed d hd m hm
  commute d e hd he m hm := by
    have aside {d e : Deed} (hd : d.Idle run K) (hm' : K (e.perform run m).1) :
        (d.perform run (e.perform run m).1).2 = (d.perform run m).2 ∧
          (e.perform run (d.perform run m).1).2 = (e.perform run m).2 ∧
          (e.perform run (d.perform run m).1).1 = (d.perform run (e.perform run m).1).1 := by
      rw [(hd m hm).1, (hd _ hm').1]
      exact ⟨(hd m hm).2 _ hm', rfl, rfl⟩
    rcases hd with hd | hd
    · have hm' : K (e.perform run m).1 := by
        rcases he with he | he
        · rw [(he m hm).1]
          exact hm
        · exact h.closed e he m hm
      obtain ⟨hl, hr, heq⟩ := aside hd hm'
      exact .of_eq hl hr heq
    · rcases he with he | he
      · obtain ⟨hr, hl, heq⟩ := aside he (h.closed d hd m hm)
        exact .of_eq hl hr heq.symm
      · exact h.commute d e hd he m hm

namespace Errand

variable {α β : Type} {run : Runner} {K : Machine → Prop} {D : Deed → Prop}

theorem Uses.bind {P : α → Prop} {Q : β → Prop} {e : Errand α} {k : α → Errand β}
    (h : e.Uses run K D P) (hk : ∀ a, P a → (k a).Uses run K D Q) : (e.bind k).Uses run K D Q := by
  induction h with
  | done h => exact hk _ h
  | deed hd _ ih => exact .deed hd ih
  | submit hbody _ ih => exact .submit hbody ih

/-- What an errand comes to that reads what is always answered the same. -/
theorem Reads.uses {R : Deed → Prop} {e : Errand α} (h : e.Reads R)
    (hR : ∀ d, R d → d.Idle run K) (hD : ∀ d, R d → D d) {p : Pool Machine} (hp : K p.world) :
    e.Uses run K D (· = (p.follow run e).2) := by
  induction e generalizing p with
  | done a => exact .done rfl
  | deed d next ih =>
    have hidle := hR d h.1 p.world hp
    refine .deed (hD d h.1) fun m hm => ?_
    rw [hidle.2 m hm]
    refine ih _ (h.2 _) ?_
    show K (d.perform run p.world).1
    rw [hidle.1]
    exact hp
  | submit spec body next ih => exact h.elim

end Errand

/-- There are as many inputs as were asked for. -/
theorem Sheet.length_inputs? {α : Type} {here : Path} {policy : Policy} {s : Sheet α}
    {refs : List PathRef} {inputs : List Path}
    (h : s.inputs? here policy refs = some (.ok inputs)) : inputs.length = refs.length := by
  induction refs generalizing inputs with
  | nil =>
    obtain rfl : [] = inputs := by simpa [inputs?] using h
    rfl
  | cons ref rest ih =>
    rw [inputs?] at h
    split at h
    · cases h
    · cases h
    · next path _ =>
      obtain ⟨r, hr, hinputs⟩ := Option.map_eq_some_iff.1 h
      cases r with
      | error e => cases hinputs
      | ok more =>
        obtain rfl : path :: more = inputs := by simpa [Except.map] using hinputs
        rw [List.length_cons, List.length_cons, ih hr]

namespace Ideal

variable {α : Type} {run : Runner} {here : Path} {policy : Policy} {K : Machine → Prop}
  {D : Deed → Prop} {x y : Ideal α} {a : Actor}

/-- Somebody's next deed is one of those that are used. -/
theorem Uses.deed (h : x.Uses run K D) {d : Deed} {f : d.Answer → Sheet α → Sheet α}
    (ht : x.sheet.turn? here policy a = some (.deed d f)) : D d := by
  cases Sheet.takes_of_turn? ht with
  | deed he =>
    have herrand := h.errand
    rw [he] at herrand
    cases herrand with
    | deed hd _ => exact hd
  | act hu hp =>
    have hduty := h.duties _ (List.mem_of_getElem? hu)
    rw [Duty.Uses, hp] at hduty
    cases hduty with
    | act ha _ => exact ha

theorem Uses.setDuty (h : x.Uses run K D) {id : TaskId} {u : Duty} (hu : u.Uses run K D)
    {m : Machine} (hm : K m) : Ideal.Uses run K D ⟨m, x.sheet.setDuty id u⟩ where
  world := hm
  errand := h.errand
  duties v hv := by
    rcases List.mem_or_eq_of_mem_set hv with hv | rfl
    · exact h.duties v hv
    · exact hu

/-- A turn leaves less to do. -/
theorem Uses.step (hind : Deed.Independent run K D) (h : x.Uses run K D)
    (hs : Step run here policy x y) : y.Uses run K D := by
  obtain ⟨ht⟩ := hs
  cases Sheet.takes_of_turn? ht with
  | deed he =>
    have herrand := h.errand
    rw [he] at herrand
    cases herrand with
    | deed hd hnext => exact ⟨hind.closed _ hd _ h.world, hnext _ h.world, h.duties⟩
  | submit he =>
    have herrand := h.errand
    rw [he] at herrand
    cases herrand with
    | submit hbody hnext =>
      refine ⟨h.world, hnext _, fun u hu => ?_⟩
      rcases List.mem_append.1 hu with hu | hu
      · exact h.duties u hu
      · rw [List.mem_singleton.1 hu]
        exact hbody
  | @start _ u r hu hp hr =>
    have hduty := h.duties u (List.mem_of_getElem? hu)
    rw [Duty.Uses, hp] at hduty
    refine h.setDuty ?_ h.world
    cases r with
    | ok inputs => exact hduty inputs (Sheet.length_inputs? hr)
    | error e => trivial
  | act hu hp =>
    have hduty := h.duties _ (List.mem_of_getElem? hu)
    rw [Duty.Uses, hp] at hduty
    cases hduty with
    | act hd hnext =>
      refine h.setDuty ?_ (hind.closed _ hd _ h.world)
      exact hnext _ h.world
  | @finish _ _ result _ _ =>
    refine h.setDuty ?_ h.world
    cases result <;> trivial

theorem Uses.runs (hind : Deed.Independent run K D) (h : x.Uses run K D)
    (hr : Runs run here policy x y) : y.Uses run K D := by
  induction hr with
  | refl => exact h
  | tail _ hs ih => exact ih.step hind hs

/-- No deeds race in a build that uses only independent ones. -/
theorem Uses.raceFree (hind : Deed.Independent run K D) (h : x.Uses run K D) :
    x.RaceFree run here policy := by
  intro y hy a b d e f g _ ha hb
  have huses := h.runs hind hy
  exact hind.commute d e (huses.deed ha) (huses.deed hb) y.world huses.world

end Ideal

/-! ### What a declaration uses -/

/-- The artifacts of declared targets are as many as were named. -/
theorem Build.length_artifactsOf {declared : List DeclaredTarget} {target : String}
    {names : List String} {refs : List PathRef}
    (h : artifactsOf declared target names = .ok refs) : refs.length = names.length := by
  induction names generalizing refs with
  | nil =>
    cases h
    rfl
  | cons name rest ih =>
    rw [artifactsOf] at h
    cases hfound : declared.find? fun d => d.name == name with
    | none => rw [hfound] at h; cases h
    | some d =>
      cases hmore : artifactsOf declared target rest with
      | error e => rw [hfound, hmore] at h; cases h
      | ok more =>
        rw [hfound, hmore] at h
        cases h
        rw [List.length_cons, List.length_cons, ih hmore]

/-- Whether the declaration of a target and its tasks do nothing but deeds in `D`, on machines in `K`
among which is that of the pool `p`, on which nothing that the declaration looks at changes. -/
structure Manifest.Target.Uses (run : Runner) (K : Machine → Prop) (D : Deed → Prop)
    (layout : Layout) (toolchain : Toolchain) (here : Path) (p : Pool Machine)
    (t : Manifest.Target) : Prop where
  gather : ∀ dir ∈ t.sources.dirs, ∀ here found,
    (Deed.gather found (dir.resolveAgainst here layout.root)).Idle run K
  compile : ∀ source ∈ (p.follow run (Errand.sources layout t.sources)).2,
    (Compilation.of toolchain layout.objectDir (.of here source t.sources.flags)).chore.Uses run K D
  output : ∀ dir, (t.output.resolveAgainst here layout.root).above? = some dir →
    D (.act (.directory dir))
  link : ∀ inputs : LinkInputs,
    inputs.sources.length = (p.follow run (Errand.sources layout t.sources)).2.length →
    inputs.objects.length = t.link.length →
    (p.follow run (Errand.libraries layout.librarySearchPaths t)).2 = .ok inputs.libraries →
    ∀ paths, paths.length = (inputs.sources ++ inputs.objects).length →
      (Linking.chore ⟨toolchain, layout.libDir, t.kind, t.output.resolveAgainst here layout.root,
        inputs⟩ paths).Uses run K D

namespace Errand

section

variable {run : Runner} {K : Machine → Prop} {D : Deed → Prop} {layout : Layout}
  {toolchain : Toolchain} {here : Path} {p : Pool Machine} {t : Manifest.Target}
  (hobjects : D (.act (.directory layout.objectDir)))
include hobjects

theorem uses_compile {source : Path} {flags : List String}
    (h : (Compilation.of toolchain layout.objectDir (.of here source flags)).chore.Uses run K D)
    (table : ObjectTable) :
    (compile layout toolchain here table source flags).Uses run K D fun _ => True := by
  simp only [compile]
  split
  · exact .done trivial
  · refine .deed hobjects fun m hm => ?_
    generalize (Deed.perform run _ m).2 = made
    cases made with
    | error e => exact .done trivial
    | ok _ => exact .submit (fun _ _ => h) fun _ => .done trivial

theorem uses_compileAll {flags : List String} {files : List Path}
    (h : ∀ source ∈ files,
      (Compilation.of toolchain layout.objectDir (.of here source flags)).chore.Uses run K D)
    (table : ObjectTable) :
    (compileAll layout toolchain here flags table files).Uses run K D
      fun r => ∀ refs, r.2 = .ok refs → refs.length = files.length := by
  induction files generalizing table with
  | nil =>
    refine .done fun refs hrefs => ?_
    cases hrefs
    rfl
  | cons source rest ih =>
    refine (uses_compile hobjects (h source List.mem_cons_self) table).bind ?_
    rintro ⟨table', made⟩ -
    cases made with
    | error e => exact .done fun refs hrefs => nomatch hrefs
    | ok object =>
      refine (ih (fun s hs => h s (List.mem_cons_of_mem _ hs)) table').bind ?_
      rintro ⟨table'', objects⟩ hlen
      refine .done fun refs hrefs => ?_
      cases objects with
      | error e => exact nomatch hrefs
      | ok objects =>
        cases hrefs
        rw [List.length_cons, List.length_cons, hlen _ rfl]

variable (hidle : ∀ d : Deed, d.Idle run K → D d) (hhere : Deed.here.Idle run K)
  (hprobe : ∀ path, (Deed.probe path).Idle run K) (hp : K p.world)
include hidle hhere hprobe hp

theorem uses_linkInputs (h : t.Uses run K D layout toolchain here p) (table : ObjectTable)
    (declared : List DeclaredTarget) :
    (linkInputs layout toolchain here table declared t).Uses run K D fun r =>
      ∀ inputs, r.2 = .ok inputs →
        inputs.sources.length = (p.follow run (sources layout t.sources)).2.length ∧
          inputs.objects.length = t.link.length ∧
          (p.follow run (libraries layout.librarySearchPaths t)).2 = .ok inputs.libraries := by
  refine ((reads_sources hhere h.gather).uses (fun _ hd => hd) hidle hp).bind ?_
  rintro files rfl
  refine (uses_compileAll hobjects h.compile table).bind ?_
  rintro ⟨table', made⟩ hlen
  cases made with
  | error e => exact .done fun inputs hinputs => nomatch hinputs
  | ok sources =>
    cases hartifacts : Build.artifactsOf declared t.name t.link with
    | error e => exact .done fun inputs hinputs => nomatch hinputs
    | ok objects =>
      refine ((reads_libraries hhere hprobe _ t).uses (fun _ hd => hd) hidle hp).bind ?_
      rintro found rfl
      refine .done fun inputs hinputs => ?_
      cases hfound : (p.follow run (libraries layout.librarySearchPaths t)).2 with
      | error e => rw [hfound] at hinputs; exact nomatch hinputs
      | ok libraries =>
        rw [hfound] at hinputs
        cases hinputs
        exact ⟨hlen _ rfl, Build.length_artifactsOf hartifacts, rfl⟩

theorem uses_declareTarget (h : t.Uses run K D layout toolchain here p) (table : ObjectTable)
    (declared : List DeclaredTarget) :
    (declareTarget layout toolchain here table declared t).Uses run K D fun _ => True := by
  refine (uses_linkInputs hobjects hidle hhere hprobe hp h table declared).bind ?_
  rintro ⟨table', made⟩ hmade
  cases made with
  | error e => exact .done trivial
  | ok inputs =>
    obtain ⟨hsources, hlinked, hlibraries⟩ := hmade _ rfl
    have hlink := h.link inputs hsources hlinked hlibraries
    have htarget : (target layout toolchain here t.kind t.output inputs).Uses run K D
        fun _ => True := by
      simp only [target]
      split
      · exact .submit hlink fun _ => .done trivial
      · next dir hdir =>
        refine .deed (h.output dir hdir) fun m hm => ?_
        generalize (Deed.perform run _ m).2 = made
        cases made with
        | error e => exact .done trivial
        | ok _ => exact .submit hlink fun _ => .done trivial
    refine htarget.bind ?_
    rintro made -
    cases made <;> exact .done trivial

theorem uses_declareFrom {targets : List Manifest.Target}
    (h : ∀ t ∈ targets, t.Uses run K D layout toolchain here p) (table : ObjectTable)
    (declared : List DeclaredTarget) :
    (declareFrom layout toolchain here table declared targets).Uses run K D fun _ => True := by
  induction targets generalizing table declared with
  | nil => exact .done trivial
  | cons t rest ih =>
    refine (uses_declareTarget hobjects hidle hhere hprobe hp (h t List.mem_cons_self) table
      declared).bind ?_
    rintro ⟨table', made⟩ -
    cases made with
    | error e => exact .done trivial
    | ok d => exact ih (fun u hu => h u (List.mem_cons_of_mem _ hu)) table' _

/-- Declaring a manifest uses what its targets use. -/
theorem uses_declare {manifest : Manifest}
    (h : ∀ t ∈ manifest.targets, t.Uses run K D layout toolchain here p) (table : ObjectTable) :
    (declare layout toolchain here table manifest).Uses run K D fun _ => True := by
  unfold declare
  split
  · exact .done trivial
  · exact uses_declareFrom hobjects hidle hhere hprobe hp h table []

end

end Errand

end NativeBuild
