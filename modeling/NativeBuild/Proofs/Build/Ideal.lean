import Mathlib.Logic.Relation
import NativeBuild.Proofs.Build.Errand

/-!
A build with a worker for every task: nothing is left of the pool but what tasks wait for.  The errand
and the tasks take turns in any order.  If no two deeds race, every order leads to the same end, up to
what can be told of the machine.
-/

namespace NativeBuild

/-! ### What can be told of a machine -/

namespace Deed

/-- The answers to deeds that are done one after another. -/
def answers (run : Runner) : List Deed → Machine → List ((d : Deed) × d.Answer)
  | [], _ => []
  | d :: rest, m => ⟨d, (d.perform run m).2⟩ :: answers run rest (d.perform run m).1

end Deed

/-- Whether no deeds tell two machines apart. -/
def Machine.Alike (run : Runner) (m m' : Machine) : Prop :=
  ∀ ds, Deed.answers run ds m = Deed.answers run ds m'

/-- Whether it does not matter which of two deeds comes first: each is answered the same, and the
machines after both are alike. -/
structure Deed.Commute (run : Runner) (m : Machine) (d e : Deed) : Prop where
  left : (d.perform run (e.perform run m).1).2 = (d.perform run m).2
  right : (e.perform run (d.perform run m).1).2 = (e.perform run m).2
  after : Machine.Alike run (e.perform run (d.perform run m).1).1 (d.perform run (e.perform run m).1).1

namespace Machine

variable {run : Runner} {m m' m'' : Machine}

theorem Alike.refl (m : Machine) : Alike run m m :=
  fun _ => rfl

theorem Alike.symm (h : Alike run m m') : Alike run m' m :=
  fun ds => (h ds).symm

theorem Alike.trans (h : Alike run m m') (h' : Alike run m' m'') : Alike run m m'' :=
  fun ds => (h ds).trans (h' ds)

theorem Alike.answer (h : Alike run m m') (d : Deed) :
    (d.perform run m).2 = (d.perform run m').2 := by
  have hd := h [d]
  simp only [Deed.answers, List.cons.injEq, Sigma.mk.injEq, heq_eq_eq, true_and, and_true] at hd
  exact hd

theorem Alike.perform (h : Alike run m m') (d : Deed) :
    Alike run (d.perform run m).1 (d.perform run m').1 :=
  fun ds => (List.cons.inj (h (d :: ds))).2

end Machine

/-! ### Turns -/

/-- How far a task is: it waits for its inputs, it has something left to do, or it has come to an
outcome. -/
inductive Progress where
  | waiting
  | busy (chore : Chore)
  | ended (outcome : Outcome)

/-- A task with a worker of its own.  `calls` holds the paths that its body has been called with, and
`acts` what it has done so far. -/
structure Duty where
  spec : TaskSpec
  body : List Path → Chore
  calls : List (List Path)
  acts : List Act
  progress : Progress

namespace Duty

/-- A task that has just been submitted. -/
def fresh (spec : TaskSpec) (body : List Path → Chore) : Duty :=
  ⟨spec, body, [], [], .waiting⟩

/-- The outcome of a task, if it has come to one. -/
def outcome? (u : Duty) : Option Outcome :=
  match u.progress with
  | .ended o => some o
  | _ => none

/-- The task when its inputs are known: its body is called, or one of them is not to be had. -/
def start (u : Duty) : Except Failure (List Path) → Duty
  | .ok inputs => { u with calls := u.calls ++ [inputs], progress := .busy (u.body inputs) }
  | .error e =>
    { u with progress := .ended (.failed u.spec.output ("input unavailable: " ++ e.message)) }

/-- The task after an act. -/
def act (u : Duty) (a : Act) (rest : Chore) : Duty :=
  { u with acts := u.acts ++ [a], progress := .busy rest }

/-- The task when it is done. -/
def finish (u : Duty) : Except Failure Unit → Duty
  | .ok () => { u with progress := .ended (.completed u.spec.output) }
  | .error e => { u with progress := .ended (.failed u.spec.output e.message) }

theorem start_spec (u : Duty) (r : Except Failure (List Path)) : (u.start r).spec = u.spec := by
  cases r <;> rfl

theorem finish_spec (u : Duty) (r : Except Failure Unit) : (u.finish r).spec = u.spec := by
  cases r <;> rfl

end Duty

/-- What there is of a build beside its machine: what is left of the errand, and the tasks. -/
structure Sheet (α : Type) where
  errand : Errand α
  duties : List Duty

/-- Who takes a turn. -/
inductive Actor where
  | driver
  | task (id : TaskId)
  deriving DecidableEq

/-- What somebody does next: it changes the sheet alone, or it does a deed and changes the sheet by
the answer. -/
inductive Turn (α : Type) where
  | quiet (update : Sheet α → Sheet α)
  | deed (d : Deed) (update : d.Answer → Sheet α → Sheet α)

/-- Whether a turn may change the sheet in this way. -/
def Turn.Updates {α : Type} (f : Sheet α → Sheet α) : Turn α → Prop
  | .quiet update => f = update
  | .deed _ update => ∃ answer, f = update answer

namespace Sheet

variable {α : Type}

/-- Put a task at its place. -/
def setDuty (s : Sheet α) (id : TaskId) (u : Duty) : Sheet α :=
  { s with duties := s.duties.set id u }

/-- The sheet with one more task, which the errand has submitted. -/
def submit (spec : TaskSpec) (body : List Path → Chore) (next : TaskId → Errand α)
    (s : Sheet α) : Sheet α :=
  ⟨next s.duties.length, s.duties ++ [.fresh spec body]⟩

section

variable (here : Path) (policy : Policy)

/-- The path that is referred to, as soon as it is known. -/
def pathNow? (s : Sheet α) : PathRef → Option (Except Failure Path)
  | .literal path => some (.ok (path.absolute here))
  | .task id =>
    match s.duties[id]? with
    | some u => u.outcome?.map fun o => o.resolve here policy u.spec.label
    | none => none

/-- The inputs of a task, as soon as they are known, or the first of them that is not to be had. -/
def inputs? (s : Sheet α) : List PathRef → Option (Except Failure (List Path))
  | [] => some (.ok [])
  | ref :: rest =>
    match s.pathNow? here policy ref with
    | none => none
    | some (.error e) => some (.error e)
    | some (.ok path) => (s.inputs? rest).map fun r => r.map (path :: ·)

/-- What the errand, or a task, does next. -/
def turn? (s : Sheet α) : Actor → Option (Turn α)
  | .driver =>
    match s.errand with
    | .done _ => none
    | .deed d next => some (.deed d fun answer s => { s with errand := next answer })
    | .submit spec body next => some (.quiet (submit spec body next))
  | .task id =>
    match s.duties[id]? with
    | none => none
    | some u =>
      match u.progress with
      | .waiting =>
        (s.inputs? here policy u.spec.inputs).map fun r => .quiet fun s => s.setDuty id (u.start r)
      | .busy (.done result) => some (.quiet fun s => s.setDuty id (u.finish result))
      | .busy (.act a next) =>
        some (.deed (.act a) fun answer s => s.setDuty id (u.act a (next answer)))
      | .ended _ => none

end

end Sheet

/-- A build with a worker for every task. -/
structure Ideal (α : Type) where
  world : Machine
  sheet : Sheet α

namespace Ideal

variable {α : Type}

/-- A build that has not begun with its errand. -/
def start (m : Machine) (e : Errand α) : Ideal α :=
  ⟨m, e, []⟩

/-- The build after a turn. -/
def take (run : Runner) (x : Ideal α) : Turn α → Ideal α
  | .quiet update => ⟨x.world, update x.sheet⟩
  | .deed d update => ⟨(d.perform run x.world).1, update (d.perform run x.world).2 x.sheet⟩

section

variable (run : Runner) (here : Path) (policy : Policy)

/-- Somebody takes a turn. -/
inductive Step (x : Ideal α) : Ideal α → Prop where
  | take {a : Actor} {t : Turn α} (h : x.sheet.turn? here policy a = some t) :
    Step x (x.take run t)

/-- A run of turns. -/
def Runs : Ideal α → Ideal α → Prop :=
  Relation.ReflTransGen (Step run here policy)

/-- Whether no two deeds race: whatever turns have been taken, the deeds that two may do next do not
care which of them comes first. -/
def RaceFree (x : Ideal α) : Prop :=
  ∀ y, Runs run here policy x y → ∀ (a b : Actor) d e f g, a ≠ b →
    y.sheet.turn? here policy a = some (.deed d f) →
    y.sheet.turn? here policy b = some (.deed e g) → d.Commute run y.world e

/-- Whether nobody has a turn left. -/
def Final (x : Ideal α) : Prop :=
  ∀ a, x.sheet.turn? here policy a = none

end

/-- Whether the errand is done and every task has come to an outcome. -/
structure Over (x : Ideal α) : Prop where
  errand : ∃ r, x.sheet.errand = .done r
  duties : ∀ u ∈ x.sheet.duties, ∃ o, u.progress = .ended o

/-- Whether two builds are alike: their sheets are the same, and their machines cannot be told apart. -/
structure Alike (run : Runner) (x y : Ideal α) : Prop where
  world : Machine.Alike run x.world y.world
  sheet : x.sheet = y.sheet

end Ideal

/-! ### Turns of two that do not get into each other's way -/

namespace Sheet

variable {α : Type} {here : Path} {policy : Policy} {s : Sheet α} {a b : Actor} {t : Turn α}
  {f g : Sheet α → Sheet α}

/-- How a turn may change a sheet: the errand goes on, or submits a task; or a task without an outcome
goes on, and stays what it is called. -/
inductive Change (s : Sheet α) : Actor → (Sheet α → Sheet α) → Prop where
  | errand (e : Errand α) : Change s .driver fun s => { s with errand := e }
  | submit (spec : TaskSpec) (body : List Path → Chore) (next : TaskId → Errand α) :
    Change s .driver (submit spec body next)
  | task {id : TaskId} {u v : Duty} (hu : s.duties[id]? = some u) (ho : u.outcome? = none)
    (hs : v.spec = u.spec) : Change s (.task id) fun s => s.setDuty id v

/-- What somebody does next: the errand does its next deed or submits a task, or a task starts, does its
next act, or comes to its end. -/
inductive Takes (here : Path) (policy : Policy) (s : Sheet α) : Actor → Turn α → Prop where
  | deed {d : Deed} {next : d.Answer → Errand α} (he : s.errand = .deed d next) :
    Takes here policy s .driver (.deed d fun answer s => { s with errand := next answer })
  | submit {spec : TaskSpec} {body : List Path → Chore} {next : TaskId → Errand α}
    (he : s.errand = .submit spec body next) :
    Takes here policy s .driver (.quiet (submit spec body next))
  | start {id : TaskId} {u : Duty} {r : Except Failure (List Path)} (hu : s.duties[id]? = some u)
    (hp : u.progress = .waiting) (hr : s.inputs? here policy u.spec.inputs = some r) :
    Takes here policy s (.task id) (.quiet fun s => s.setDuty id (u.start r))
  | act {id : TaskId} {u : Duty} {a : Act} {next : Except Failure String → Chore}
    (hu : s.duties[id]? = some u) (hp : u.progress = .busy (.act a next)) :
    Takes here policy s (.task id)
      (.deed (.act a) fun answer s => s.setDuty id (u.act a (next answer)))
  | finish {id : TaskId} {u : Duty} {result : Except Failure Unit} (hu : s.duties[id]? = some u)
    (hp : u.progress = .busy (.done result)) :
    Takes here policy s (.task id) (.quiet fun s => s.setDuty id (u.finish result))

theorem takes_of_turn? (h : s.turn? here policy a = some t) : s.Takes here policy a t := by
  cases a with
  | driver =>
    simp only [turn?] at h
    split at h
    · exact nomatch h
    · next he =>
      cases h
      exact .deed he
    · next he =>
      cases h
      exact .submit he
  | task id =>
    simp only [turn?] at h
    split at h
    · exact nomatch h
    next u hu =>
    split at h
    · next hp =>
      obtain ⟨r, hr, rfl⟩ := Option.map_eq_some_iff.1 h
      exact .start hu hp hr
    · next hp =>
      cases h
      exact .finish hu hp
    · next hp =>
      cases h
      exact .act hu hp
    · exact nomatch h

theorem Takes.turn? (h : s.Takes here policy a t) : s.turn? here policy a = some t := by
  cases h with
  | deed he | submit he => simp only [Sheet.turn?, he]
  | start hu hp hr => simp only [Sheet.turn?, hu, hp, hr, Option.map_some]
  | act hu hp | finish hu hp => simp only [Sheet.turn?, hu, hp]

theorem change_of_turn? (h : s.turn? here policy a = some t) (hf : t.Updates f) : s.Change a f := by
  cases takes_of_turn? h with
  | deed _ =>
    obtain ⟨answer, rfl⟩ := hf
    exact .errand _
  | submit _ =>
    obtain rfl := hf
    exact .submit _ _ _
  | start hu hp _ =>
    obtain rfl := hf
    exact .task hu (by simp [Duty.outcome?, hp]) (Duty.start_spec _ _)
  | act hu hp =>
    obtain ⟨answer, rfl⟩ := hf
    exact .task hu (by simp [Duty.outcome?, hp]) rfl
  | finish hu hp =>
    obtain rfl := hf
    exact .task hu (by simp [Duty.outcome?, hp]) (Duty.finish_spec _ _)

/-- The changes of two do not depend on which of them comes first. -/
theorem Change.comm (hf : s.Change a f) (hg : s.Change b g) (hne : a ≠ b) : f (g s) = g (f s) := by
  cases hf with
  | errand e | submit spec body next =>
    cases hg with
    | errand _ | submit _ _ _ => exact absurd rfl hne
    | task hu _ _ =>
      have hlt := (List.getElem?_eq_some_iff.1 hu).1
      simp [Sheet.submit, setDuty, List.set_append_left _ _ hlt]
  | task hu _ _ =>
    have hlt := (List.getElem?_eq_some_iff.1 hu).1
    cases hg with
    | errand _ | submit _ _ _ => simp [Sheet.submit, setDuty, List.set_append_left _ _ hlt]
    | task _ _ _ =>
      have hids := fun heq => hne (congrArg Actor.task heq)
      simp only [setDuty, List.set_comm _ _ hids]

/-- A task stays as it is while others take their turns. -/
theorem Change.getElem? (h : s.Change b g) {id : TaskId} {u : Duty} (hu : s.duties[id]? = some u)
    (hne : b ≠ .task id) : (g s).duties[id]? = some u := by
  cases h with
  | errand e => exact hu
  | submit spec body next =>
    exact (List.getElem?_append_left (List.getElem?_eq_some_iff.1 hu).1).trans hu
  | task _ _ _ => exact (List.getElem?_set_ne fun heq => hne (congrArg Actor.task heq)).trans hu

/-- A path that is known stays what it is. -/
theorem Change.pathNow? (h : s.Change b g) {ref : PathRef} {r : Except Failure Path}
    (hr : s.pathNow? here policy ref = some r) : (g s).pathNow? here policy ref = some r := by
  cases ref with
  | literal path => exact hr
  | task k =>
    simp only [Sheet.pathNow?] at hr ⊢
    split at hr
    · next u hu =>
      have hne : b ≠ .task k := by
        rintro rfl
        cases h with
        | task hv ho _ =>
          obtain rfl := Option.some.inj (hu.symm.trans hv)
          rw [ho] at hr
          exact nomatch hr
      rw [h.getElem? hu hne]
      exact hr
    · exact nomatch hr

theorem Change.inputs? (h : s.Change b g) {refs : List PathRef}
    {r : Except Failure (List Path)} (hr : s.inputs? here policy refs = some r) :
    (g s).inputs? here policy refs = some r := by
  induction refs generalizing r with
  | nil => exact hr
  | cons ref rest ih =>
    simp only [Sheet.inputs?] at hr ⊢
    split at hr
    · exact nomatch hr
    · next hp => rw [h.pathNow? hp]; exact hr
    · next hp =>
      obtain ⟨r', hr', rfl⟩ := Option.map_eq_some_iff.1 hr
      rw [h.pathNow? hp, ih hr']
      rfl

/-- What somebody does next stays the same while others take their turns. -/
theorem Change.turn? (h : s.Change b g) (ht : s.turn? here policy a = some t) (hne : a ≠ b) :
    (g s).turn? here policy a = some t := by
  cases takes_of_turn? ht with
  | deed _ | submit _ =>
    cases h with
    | errand _ | submit _ _ _ => exact absurd rfl hne
    | task _ _ _ => exact ht
  | start hu hp hr => exact Takes.turn? (.start (h.getElem? hu hne.symm) hp (h.inputs? hr))
  | act hu hp => exact Takes.turn? (.act (h.getElem? hu hne.symm) hp)
  | finish hu hp => exact Takes.turn? (.finish (h.getElem? hu hne.symm) hp)

end Sheet

/-! ### The end does not depend on the order -/

namespace Ideal

variable {α : Type} {run : Runner} {here : Path} {policy : Policy} {x y z : Ideal α} {a b : Actor}
  {t t' : Turn α}

theorem Alike.refl (x : Ideal α) : Alike run x x :=
  ⟨.refl _, rfl⟩

theorem Alike.symm (h : Alike run x y) : Alike run y x :=
  ⟨h.world.symm, h.sheet.symm⟩

theorem Alike.trans (h : Alike run x y) (h' : Alike run y z) : Alike run x z :=
  ⟨h.world.trans h'.world, h.sheet.trans h'.sheet⟩

theorem Alike.take (h : Alike run x y) (t : Turn α) : Alike run (x.take run t) (y.take run t) := by
  cases t with
  | quiet update => exact ⟨h.world, congrArg update h.sheet⟩
  | deed d update => exact ⟨h.world.perform d, by rw [Ideal.take, Ideal.take, h.world.answer, h.sheet]⟩

/-- The way in which a turn changes the sheet. -/
theorem exists_updates (run : Runner) (x : Ideal α) (t : Turn α) :
    ∃ f, t.Updates f ∧ (x.take run t).sheet = f x.sheet := by
  cases t with
  | quiet update => exact ⟨update, rfl, rfl⟩
  | deed d update => exact ⟨_, ⟨_, rfl⟩, rfl⟩

/-- Two turns of different actors may be taken in either order, and what comes out is alike, unless
their deeds race. -/
theorem diamond (hrace : x.RaceFree run here policy) (ha : x.sheet.turn? here policy a = some t)
    (hb : x.sheet.turn? here policy b = some t') (hne : a ≠ b) :
    (x.take run t).sheet.turn? here policy b = some t' ∧
      (x.take run t').sheet.turn? here policy a = some t ∧
      Alike run ((x.take run t).take run t') ((x.take run t').take run t) := by
  obtain ⟨f, hf, hfs⟩ := exists_updates run x t
  obtain ⟨g, hg, hgs⟩ := exists_updates run x t'
  have hcomm {f g : Sheet α → Sheet α} (hf : t.Updates f) (hg : t'.Updates g) :
      g (f x.sheet) = f (g x.sheet) :=
    ((Sheet.change_of_turn? ha hf).comm (Sheet.change_of_turn? hb hg) hne).symm
  refine ⟨by rw [hfs]; exact (Sheet.change_of_turn? ha hf).turn? hb hne.symm,
    by rw [hgs]; exact (Sheet.change_of_turn? hb hg).turn? ha hne, ?_⟩
  cases t with
  | quiet update =>
    cases t' with
    | quiet update' => exact ⟨.refl _, hcomm rfl rfl⟩
    | deed e update' => exact ⟨.refl _, hcomm rfl ⟨_, rfl⟩⟩
  | deed d update =>
    cases t' with
    | quiet update' => exact ⟨.refl _, hcomm ⟨_, rfl⟩ rfl⟩
    | deed e update' =>
      have hcommute := hrace x .refl a b d e update update' hne ha hb
      refine ⟨hcommute.after, ?_⟩
      simp only [take, hcommute.left, hcommute.right]
      exact hcomm ⟨_, rfl⟩ ⟨_, rfl⟩

theorem RaceFree.runs (h : x.RaceFree run here policy) (hr : Runs run here policy x y) :
    y.RaceFree run here policy :=
  fun z hz => h z (hr.trans hz)

/-- What is alike goes on alike. -/
theorem Alike.step (h : Alike run x y) (hs : Step run here policy x z) :
    ∃ z', Step run here policy y z' ∧ Alike run z z' := by
  cases hs with
  | @take a t ha => exact ⟨y.take run t, .take (h.sheet ▸ ha), h.take t⟩

/-- Builds up to what can be told of their machines. -/
def alikeSetoid (run : Runner) (α : Type) : Setoid (Ideal α) :=
  ⟨Alike run, .refl, .symm, .trans⟩

/-- A turn of a build without races, up to what can be told of the machine. -/
def Turns (run : Runner) (here : Path) (policy : Policy)
    (q r : Quotient (alikeSetoid run α)) : Prop :=
  ∃ x y : Ideal α, x.RaceFree run here policy ∧ Step run here policy x y ∧
    Quotient.mk _ x = q ∧ Quotient.mk _ y = r

theorem turns_of_runs (h : x.RaceFree run here policy) (hr : Runs run here policy x y) :
    Relation.ReflTransGen (Turns run here policy) (Quotient.mk (alikeSetoid run α) x)
      (Quotient.mk _ y) := by
  induction hr with
  | refl => exact .refl
  | tail hr hs ih => exact ih.tail ⟨_, _, h.runs hr, hs, rfl, rfl⟩

theorem runs_of_turns {r : Quotient (alikeSetoid run α)}
    (h : Relation.ReflTransGen (Turns run here policy) (Quotient.mk _ x) r) :
    ∃ y, Runs run here policy x y ∧ Quotient.mk _ y = r := by
  induction h with
  | refl => exact ⟨x, .refl, rfl⟩
  | tail _ hs ih =>
    obtain ⟨y, hy, rfl⟩ := ih
    obtain ⟨y', z, _, hs, heq, rfl⟩ := hs
    obtain ⟨z', hs', hz⟩ := Alike.step (Quotient.exact heq) hs
    exact ⟨z', hy.tail hs', Quotient.sound hz.symm⟩

/-- Two turns lead to the same build, or to builds that one more turn each makes alike. -/
theorem turns_diamond {q r r' : Quotient (alikeSetoid run α)} (h : Turns run here policy q r)
    (h' : Turns run here policy q r') :
    ∃ s, Relation.ReflGen (Turns run here policy) r s ∧
      Relation.ReflTransGen (Turns run here policy) r' s := by
  obtain ⟨x, _, hrace, @⟨a, t, ha⟩, rfl, rfl⟩ := h
  obtain ⟨x', _, _, @⟨b, t', hb⟩, heq, rfl⟩ := h'
  have hx : Alike run x' x := Quotient.exact heq
  replace hb : x.sheet.turn? here policy b = some t' := hx.sheet ▸ hb
  rw [show Quotient.mk (alikeSetoid run α) (x'.take run t') = Quotient.mk _ (x.take run t') from
    Quotient.sound (hx.take t')]
  by_cases hab : a = b
  · subst hab
    obtain rfl := Option.some.inj (ha.symm.trans hb)
    exact ⟨_, .refl, .refl⟩
  · obtain ⟨hb', ha', halike⟩ := diamond hrace ha hb hab
    have hleft : Step run here policy x (x.take run t) := .take ha
    have hright : Step run here policy x (x.take run t') := .take hb
    refine ⟨Quotient.mk _ ((x.take run t).take run t'), .single ?_, .single ?_⟩
    · exact ⟨_, _, hrace.runs (.single hleft), .take hb', rfl, rfl⟩
    · exact ⟨_, _, hrace.runs (.single hright), .take ha', rfl, (Quotient.sound halike).symm⟩

/-- Two runs of a build without races can be continued to builds that are alike. -/
theorem RaceFree.join (h : x.RaceFree run here policy) (hy : Runs run here policy x y)
    (hz : Runs run here policy x z) :
    ∃ y' z', Runs run here policy y y' ∧ Runs run here policy z z' ∧ Alike run y' z' := by
  obtain ⟨q, hyq, hzq⟩ := Relation.church_rosser (fun _ _ _ => turns_diamond) (turns_of_runs h hy)
    (turns_of_runs h hz)
  obtain ⟨y', hy', rfl⟩ := runs_of_turns hyq
  obtain ⟨z', hz', heq⟩ := runs_of_turns hzq
  exact ⟨y', z', hy', hz', (Quotient.exact heq).symm⟩

theorem Over.final (h : x.Over) : x.Final here policy := by
  intro a
  cases a with
  | driver =>
    obtain ⟨r, hr⟩ := h.errand
    simp only [Sheet.turn?, hr]
  | task i =>
    cases hu : x.sheet.duties[i]? with
    | none => simp only [Sheet.turn?, hu]
    | some u =>
      obtain ⟨o, ho⟩ := h.duties u (List.mem_of_getElem? hu)
      simp only [Sheet.turn?, hu, ho]

theorem Final.eq_of_runs (h : x.Final here policy) (hr : Runs run here policy x y) : y = x := by
  induction hr with
  | refl => rfl
  | tail _ hs ih =>
    subst ih
    cases hs with
    | @take a _ ha => rw [h a] at ha; exact nomatch ha

/-- Whatever turns are taken in a build without races, it still may come to an end that is alike to any
other one. -/
theorem RaceFree.exists_runs_final (h : x.RaceFree run here policy) (hy : Runs run here policy x y)
    (hz : Runs run here policy x z) (hf : z.Final here policy) :
    ∃ y', Runs run here policy y y' ∧ Alike run z y' := by
  obtain ⟨y', z', hy', hz', halike⟩ := h.join hy hz
  obtain rfl := hf.eq_of_runs hz'
  exact ⟨y', hy', halike.symm⟩

/-- All ends of a build without races are alike. -/
theorem RaceFree.final_alike (h : x.RaceFree run here policy) (hy : Runs run here policy x y)
    (hz : Runs run here policy x z) (hfy : y.Final here policy) (hfz : z.Final here policy) :
    Alike run z y := by
  obtain ⟨y', hy', halike⟩ := h.exists_runs_final hy hz hfz
  obtain rfl := hfy.eq_of_runs hy'
  exact halike

end Ideal

end NativeBuild
