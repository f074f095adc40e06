import NativeBuild.Proofs.Build.Outline
import NativeBuild.Proofs.Build.Transparent

/-!
A manifest is refused before anything is done for it, or never.  The check and the declaration look
names and operating systems up in their own ways; that they agree is because the targets declared so
far have, in their order, the names of the targets that were checked so far.
-/

namespace NativeBuild

namespace Errand

variable {α β : Type} {P Q : α → Prop}

/-- Whether an errand comes to what `P` says, whatever its deeds are answered and whatever numbers its
tasks get. -/
def Ends (P : α → Prop) : Errand α → Prop
  | .done a => P a
  | .deed _ next => ∀ answer, (next answer).Ends P
  | .submit _ _ next => ∀ id, (next id).Ends P

theorem Ends.mono {e : Errand α} (h : e.Ends P) (hpq : ∀ a, P a → Q a) : e.Ends Q := by
  induction e with
  | done a => exact hpq a h
  | deed d next ih => exact fun answer => ih answer (h answer)
  | submit spec body next ih => exact fun id => ih id (h id)

theorem Ends.bind {R : β → Prop} {e : Errand α} {k : α → Errand β} (h : e.Ends P)
    (hk : ∀ a, P a → (k a).Ends R) : (e.bind k).Ends R := by
  induction e with
  | done a => exact hk a h
  | deed d next ih => exact fun answer => ih answer (h answer)
  | submit spec body next ih => exact fun id => ih id (h id)

theorem ends_true (e : Errand α) : e.Ends fun _ => True := by
  induction e with
  | done a => trivial
  | deed d next ih => exact ih
  | submit spec body next ih => exact ih

theorem Ends.follow {e : Errand α} (h : e.Ends P) (run : Runner) (p : Pool Machine) :
    P (p.follow run e).2 := by
  induction e generalizing p with
  | done a => exact h
  | deed d next ih => exact ih _ (h _) _
  | submit spec body next ih => exact ih _ (h _) _

end Errand

namespace Manifest

variable {seen : List String} {before after : List Target}

theorem checkFrom_append (h : checkFrom seen (before ++ after) = .ok ()) :
    checkFrom seen before = .ok () ∧
      checkFrom ((before.map Target.name).reverse ++ seen) after = .ok () := by
  induction before generalizing seen with
  | nil => exact ⟨rfl, h⟩
  | cons t rest ih =>
    obtain ⟨htarget, hrest⟩ := checkFrom_cons h
    obtain ⟨hbefore, hafter⟩ := ih hrest
    refine ⟨?_, by simpa using hafter⟩
    rw [checkFrom, htarget]
    exact hbefore

theorem check_append {manifest : Manifest} {t : Target} (h : manifest.check = .ok ())
    (ht : manifest.targets = before ++ t :: after) :
    checkFrom [] before = .ok () ∧ checkTarget (before.map Target.name).reverse t = .ok () := by
  rw [check, ht] at h
  obtain ⟨hbefore, hafter⟩ := checkFrom_append h
  refine ⟨hbefore, ?_⟩
  rw [← List.append_nil (before.map Target.name).reverse]
  exact (checkFrom_cons hafter).1

/-- The libraries of entries whose operating systems are known. -/
theorem exists_library {es : List LibraryEntry} (h : checkPlatforms es = .ok ()) :
    ∀ e ∈ es, ∀ (m : Machine) (dirs : List Path), ∃ l, e.toLibrary m dirs = .ok l := by
  induction es with
  | nil => exact fun e he => nomatch he
  | cons e rest ih =>
    obtain ⟨hos, hrest⟩ := checkPlatforms_cons h
    intro e' he' m dirs
    rcases List.mem_cons.1 he' with rfl | he'
    · cases e' with
      | prebuilt name => exact ⟨_, rfl⟩
      | linker name os =>
        cases os with
        | none => exact ⟨_, rfl⟩
        | some id =>
          obtain ⟨platform, hplatform⟩ := hos id rfl
          exact ⟨.linker name (some platform), by simp [LibraryEntry.toLibrary, hplatform]⟩
      | config command => exact ⟨_, rfl⟩
    · exact ih hrest e' he' m dirs

/-- What a declaration finds for a target when the targets in `before` are `declared`: for each name
that it links exactly one declared target, which comes before it, and for each library entry a
library, on every machine. -/
structure Target.Resolves (before : List Target) (declared : List DeclaredTarget) (t : Target) :
    Prop where
  linked : ∀ name ∈ t.link, ∃ (i : Nat) (s : Target) (d : DeclaredTarget), before[i]? = some s ∧
    s.name = name ∧ declared[i]? = some d ∧ declared.filter (fun d => d.name == name) = [d]
  artifacts : ∃ refs, Build.artifactsOf declared t.name t.link = .ok refs
  libraries : ∀ e ∈ t.libraries, ∀ (m : Machine) (dirs : List Path),
    ∃ l, e.toLibrary m dirs = .ok l

theorem filter_name_eq {declared : List DeclaredTarget}
    (h : (declared.map DeclaredTarget.name).Nodup) {i : Nat} {d : DeclaredTarget}
    (hd : declared[i]? = some d) : declared.filter (fun e => e.name == d.name) = [d] := by
  induction declared generalizing i with
  | nil => exact nomatch hd
  | cons e rest ih =>
    obtain ⟨hfresh, hrest⟩ := List.nodup_cons.1 h
    cases i with
    | zero =>
      obtain rfl : e = d := Option.some.inj hd
      have hnone : rest.filter (fun x => x.name == e.name) = [] := by
        refine List.filter_eq_nil_iff.2 fun x hx hname => hfresh ?_
        exact List.mem_map.2 ⟨x, hx, by simpa using hname⟩
      simp [hnone]
    | succ i =>
      have hne : ¬ e.name = d.name := fun heq =>
        hfresh (List.mem_map.2 ⟨d, List.mem_of_getElem? hd, heq.symm⟩)
      rw [List.filter_cons_of_neg (by simpa using hne)]
      exact ih hrest hd

/-- A target that was checked after those in `before` finds what it names among them. -/
theorem resolves_of_checkTarget {declared : List DeclaredTarget} {t : Target}
    (hnames : declared.map DeclaredTarget.name = before.map Target.name)
    (hnodup : (before.map Target.name).Nodup)
    (h : checkTarget (before.map Target.name).reverse t = .ok ()) : t.Resolves before declared := by
  obtain ⟨hlink, hplatforms, _⟩ := checkTarget_ok h
  have linked : ∀ name ∈ t.link, ∃ (i : Nat) (s : Target) (d : DeclaredTarget),
      before[i]? = some s ∧ s.name = name ∧ declared[i]? = some d ∧
        declared.filter (fun d => d.name == name) = [d] := by
    intro name hname
    obtain ⟨i, hi⟩ := List.mem_iff_getElem?.1 (List.mem_reverse.1 (hlink name hname))
    obtain ⟨s, hs, rfl⟩ : ∃ s, before[i]? = some s ∧ s.name = name := by
      simpa [List.getElem?_map] using hi
    obtain ⟨d, hd, hdname⟩ : ∃ d, declared[i]? = some d ∧ d.name = s.name := by
      have := congrArg (·[i]?) hnames
      simpa [List.getElem?_map, hs] using this
    exact ⟨i, s, d, hs, rfl, hd, hdname ▸ filter_name_eq (hnames ▸ hnodup) hd⟩
  refine ⟨linked, ?_, exists_library hplatforms⟩
  -- The declaration itself looks for the first target of the name, of which there is only one.
  have hdeclared : ∀ name ∈ t.link, ∃ d ∈ declared, d.name = name := by
    intro name hname
    obtain ⟨i, s, d, _, _, hd, hfilter⟩ := linked name hname
    have hmem : d ∈ declared.filter (fun d => d.name == name) := hfilter ▸ List.mem_singleton.2 rfl
    exact ⟨d, List.mem_of_getElem? hd, by simpa using (List.mem_filter.1 hmem).2⟩
  obtain ⟨refs, hrefs, _⟩ := exists_artifactsOf t.name hdeclared
  exact ⟨refs, hrefs⟩

end Manifest

namespace Errand

variable {α : Type} {layout : Layout} {toolchain : Toolchain} {here : Path} {table : ObjectTable}
  {declared : List DeclaredTarget} {t : Manifest.Target}

/-- Whether a declaration did not come to refuse the manifest. -/
def Unrefused (r : ObjectTable × Except DeclareError α) : Prop :=
  ∀ e, r.2 ≠ .error (.refused e)

theorem unrefused_ok (a : α) : Unrefused (table, .ok a) :=
  fun _ h => nomatch h

theorem unrefused_failed (e : Failure) :
    Unrefused (table, (.error (.failed e) : Except DeclareError α)) :=
  fun _ h => nomatch h

theorem Unrefused.error {β : Type} {table' : ObjectTable} {e : DeclareError}
    (h : Unrefused (table, (.error e : Except DeclareError α))) :
    Unrefused (table', (.error e : Except DeclareError β)) := by
  rintro refusal hr
  obtain rfl := Except.error.inj hr
  exact h refusal rfl

theorem ends_entries (dirs : List Path) {es : List Manifest.LibraryEntry}
    (h : Manifest.checkPlatforms es = .ok ()) : (entries dirs es).Ends fun r => ∃ ls, r = .ok ls := by
  induction es with
  | nil => exact ⟨[], rfl⟩
  | cons e rest ih =>
    obtain ⟨hos, hrest⟩ := Manifest.checkPlatforms_cons h
    have hentry : (entry dirs e).Ends fun r => ∃ l, r = .ok l := by
      cases e with
      | prebuilt name => exact (ends_true _).bind fun p _ => ⟨_, rfl⟩
      | linker name os =>
        cases os with
        | none => exact ⟨_, rfl⟩
        | some id =>
          obtain ⟨platform, hplatform⟩ := hos id rfl
          simp only [entry, hplatform]
          exact ⟨_, rfl⟩
      | config command => exact ⟨_, rfl⟩
    refine hentry.bind ?_
    rintro _ ⟨l, rfl⟩
    refine (ih hrest).bind ?_
    rintro _ ⟨ls, rfl⟩
    exact ⟨l :: ls, rfl⟩

theorem ends_linkInputs {before : List Manifest.Target} (h : t.Resolves before declared)
    (hplatforms : Manifest.checkPlatforms t.libraries = .ok ()) :
    (linkInputs layout toolchain here table declared t).Ends Unrefused := by
  refine (ends_true _).bind fun files _ => (ends_true _).bind fun made _ => ?_
  obtain ⟨table', made⟩ := made
  cases made with
  | error e => exact unrefused_failed e
  | ok sources =>
    obtain ⟨refs, hrefs⟩ := h.artifacts
    simp only [hrefs]
    have hlibraries : (libraries layout.librarySearchPaths t).Ends fun r => ∃ ls, r = .ok ls := by
      refine (ends_true _).bind fun found _ => (ends_entries _ hplatforms).bind ?_
      rintro _ ⟨ls, rfl⟩
      exact ⟨_, rfl⟩
    refine hlibraries.bind ?_
    rintro _ ⟨ls, rfl⟩
    exact unrefused_ok _

theorem ends_declareTarget {before : List Manifest.Target} (h : t.Resolves before declared)
    (hplatforms : Manifest.checkPlatforms t.libraries = .ok ()) :
    (declareTarget layout toolchain here table declared t).Ends fun r =>
      Unrefused r ∧ ∀ d, r.2 = .ok d → d.name = t.name := by
  refine (ends_linkInputs h hplatforms).bind ?_
  rintro ⟨table', made⟩ hmade
  cases made with
  | error e => exact ⟨hmade.error, fun d hd => nomatch hd⟩
  | ok inputs =>
    refine (ends_true _).bind fun linked _ => ?_
    cases linked with
    | error e => exact ⟨unrefused_failed e, fun d hd => nomatch hd⟩
    | ok target =>
      refine ⟨unrefused_ok _, fun d hd => ?_⟩
      obtain rfl := Except.ok.inj hd
      rfl

/-- Declaring targets that were checked, after those in `before`, refuses none of them, and gives
declared targets of their names. -/
theorem ends_declareFrom {before targets : List Manifest.Target}
    (hnames : declared.map DeclaredTarget.name = before.map Manifest.Target.name)
    (hnodup : (before.map Manifest.Target.name).Nodup)
    (h : Manifest.checkFrom (before.map Manifest.Target.name).reverse targets = .ok ()) :
    (declareFrom layout toolchain here table declared targets).Ends fun r =>
      Unrefused r ∧ ∀ all, r.2 = .ok all →
        all.map DeclaredTarget.name = (before ++ targets).map Manifest.Target.name := by
  -- The names of the declared targets are those that the check has seen, which `hnames` carries along.
  induction targets generalizing table declared before with
  | nil =>
    refine ⟨unrefused_ok _, fun all hall => ?_⟩
    obtain rfl := Except.ok.inj hall
    rw [List.append_nil, hnames]
  | cons t rest ih =>
    obtain ⟨htarget, hrest⟩ := Manifest.checkFrom_cons h
    have hresolves := Manifest.resolves_of_checkTarget hnames hnodup htarget
    obtain ⟨_, hplatforms, hfresh⟩ := Manifest.checkTarget_ok htarget
    refine (ends_declareTarget hresolves hplatforms).bind ?_
    rintro ⟨table', made⟩ ⟨hunrefused, hname⟩
    cases made with
    | error e => exact ⟨hunrefused.error, fun all hall => nomatch hall⟩
    | ok d =>
      have hnames' : (declared ++ [d]).map DeclaredTarget.name =
          (before ++ [t]).map Manifest.Target.name := by simp [hnames, hname d rfl]
      have hnodup' : ((before ++ [t]).map Manifest.Target.name).Nodup := by
        rw [List.map_append, List.nodup_append]
        refine ⟨hnodup, List.nodup_singleton _, fun name hmem other hother => ?_⟩
        rintro rfl
        simp only [List.map_cons, List.map_nil, List.mem_singleton] at hother
        exact hfresh (hother ▸ List.mem_reverse.2 hmem)
      refine (ih hnames' hnodup' (by simpa using hrest)).mono fun r hr => ⟨hr.1, fun all hall => ?_⟩
      simpa using hr.2 all hall

theorem ends_declareFrom_nil {targets : List Manifest.Target}
    (h : Manifest.checkFrom [] targets = .ok ()) :
    (declareFrom layout toolchain here table [] targets).Ends fun r =>
      Unrefused r ∧ ∀ all, r.2 = .ok all →
        all.map DeclaredTarget.name = targets.map Manifest.Target.name := by
  have hnames : ([] : List DeclaredTarget).map DeclaredTarget.name =
      ([] : List Manifest.Target).map Manifest.Target.name := rfl
  exact ends_declareFrom hnames .nil h

/-- A manifest that passes its check is never refused. -/
theorem ends_declare {manifest : Manifest} (h : manifest.check = .ok ()) :
    (declare layout toolchain here table manifest).Ends Unrefused := by
  simp only [declare, h]
  exact (ends_declareFrom_nil h).mono fun _ hr => hr.1

/-- When the targets before it have been declared, a target of a manifest that passes its check finds
what it names. -/
theorem ends_before {manifest : Manifest} (h : manifest.check = .ok ())
    {before after : List Manifest.Target} (ht : manifest.targets = before ++ t :: after) :
    (declareFrom layout toolchain here table [] before).Ends fun r =>
      ∀ declared, r.2 = .ok declared → t.Resolves before declared := by
  obtain ⟨hbefore, htarget⟩ := Manifest.check_append h ht
  refine (ends_declareFrom_nil hbefore).mono fun r hr declared hdeclared => ?_
  exact Manifest.resolves_of_checkTarget (hr.2 declared hdeclared)
    (Manifest.nodup_of_checkFrom hbefore).1 htarget

end Errand

/-- In every schedule, an errand that is over has come to what it comes to in any case. -/
theorem Site.Reached.ends {α : Type} {P : α → Prop} {run : Runner} {config : PoolConfig} {m : Machine}
    {e : Errand α} {s : Site α} (h : Site.Reached run config m e s) (he : e.Ends P) :
    s.errand.Ends P := by
  induction h with
  | refl => exact he
  | tail _ hstep ih =>
    cases hstep with
    | task _ | thread _ | report _ _ => exact ih
    | deed _ heq => exact (heq ▸ ih : Errand.Ends P (.deed _ _)) _
    | submit _ heq => exact (heq ▸ ih : Errand.Ends P (.submit _ _ _)) _

namespace Build

/-- A manifest is refused exactly if its check fails, with the same refusal, and then nothing has been
done: the build is as it was, and the errand of the declaration is over before its first deed.  That
holds in every schedule as well.  When the check succeeds, each target finds, after those before it
have been declared, exactly one of them for each name that it links and a library for each of its
entries, so that asking for its inputs does not refuse it. -/
theorem refusal (manifest : Manifest) :
    (∀ (b : Build) (e : Manifest.Refusal),
      ((b.declare manifest).2 = .error (.refused e) ↔ manifest.check = .error e) ∧
        (manifest.check = .error e → b.declare manifest = (b, .error (.refused e)))) ∧
    (∀ layout toolchain here table e, manifest.check = .error e →
      Errand.declare layout toolchain here table manifest = .done (table, .error (.refused e))) ∧
    (∀ run config m layout toolchain table s r e,
      Site.Reached run config m (Errand.declare layout toolchain m.here table manifest) s →
      s.errand = .done r → (r.2 = .error (.refused e) ↔ manifest.check = .error e)) ∧
    (manifest.check = .ok () →
      ∀ before t after, manifest.targets = before ++ t :: after →
        (∀ layout toolchain here table,
          (Errand.declareFrom layout toolchain here table [] before).Ends fun r =>
            ∀ declared, r.2 = .ok declared → t.Resolves before declared) ∧
        ∀ (b b' : Build) declared, b.declareFrom [] before = (b', .ok declared) →
          t.Resolves before declared ∧ ∀ e, (b'.linkInputs declared t).2 ≠ .error (.refused e)) := by
  have refused (layout toolchain here table e) (h : manifest.check = .error e) :
      Errand.declare layout toolchain here table manifest = .done (table, .error (.refused e)) := by
    simp only [Errand.declare, h]
  have kept (b : Build) (e) (h : manifest.check = .error e) :
      b.declare manifest = (b, .error (.refused e)) := by
    simp only [declare, h]
  -- What a declaration comes to is refused only if the check fails, and then with what it fails with.
  have ends (layout toolchain here table) :
      (Errand.declare layout toolchain here table manifest).Ends fun r =>
        ∀ e, r.2 = .error (.refused e) ↔ manifest.check = .error e := by
    cases hcheck : manifest.check with
    | error e =>
      rw [refused layout toolchain here table e hcheck]
      exact fun e' => ⟨fun h => by cases h; rfl, fun h => by cases h; rfl⟩
    | ok _ =>
      exact (Errand.ends_declare hcheck).mono fun r hr e =>
        ⟨fun h => absurd h (hr e), fun h => by cases h⟩
  refine ⟨fun b e => ⟨?_, kept b e⟩, refused, fun run config m layout toolchain table s r e hs hr => ?_,
    fun hcheck before t after ht => ⟨fun layout toolchain here table =>
      Errand.ends_before hcheck ht, fun b b' declared hdeclared => ?_⟩⟩
  · rw [declare_eq]
    exact (ends b.layout b.toolchain b.pool.here b.table).follow b.run b.pool e
  · have hends := hs.ends (ends layout toolchain m.here table)
    rw [hr] at hends
    exact hends e
  · have hresolves : t.Resolves before declared := by
      rw [declareFrom_eq] at hdeclared
      exact (Errand.ends_before hcheck ht).follow b.run b.pool declared
        (congrArg Prod.snd hdeclared)
    have hplatforms := (Manifest.checkTarget_ok (Manifest.check_append hcheck ht).2).2.1
    refine ⟨hresolves, ?_⟩
    rw [linkInputs_eq]
    exact (Errand.ends_linkInputs hresolves hplatforms).follow b'.run b'.pool

end Build

namespace TwoTargets

/-- The target `c` is a program that links the target `a`, and a library on one system. -/
def targetC : Manifest.Target :=
  ⟨"c", .executable, ⟨"build/c".toList⟩, .none, [], ["a"], [.linker "m" (some "linux")], []⟩

/-- The same, for a system that is not known. -/
def targetD : Manifest.Target :=
  { targetC with libraries := [.linker "m" (some "plan9")] }

/-- The system that is not known makes the manifest be refused with nothing done, and without it the
program finds the library that it links. -/
theorem refusal_unknownSystem :
    (Manifest.check ⟨.none, [targetA, targetD]⟩ = .error (.platform ⟨"plan9"⟩) ∧
      (build .pooled (tree []) [] []).declare ⟨.none, [targetA, targetD]⟩ =
        (build .pooled (tree []) [] [], .error (.refused (.platform ⟨"plan9"⟩)))) ∧
    Manifest.check ⟨.none, [targetA, targetC]⟩ = .ok () ∧ targetC.Resolves [targetA] [declaredA] := by
  have hfirst : (build .pooled (tree []) [] []).declareFrom [] [targetA] =
      (build .pooled (tree []) [created linkA] [0], .ok [declaredA]) := rfl
  have hbad : Manifest.check ⟨.none, [targetA, targetD]⟩ = .error (.platform ⟨"plan9"⟩) := rfl
  have hgood : Manifest.check ⟨.none, [targetA, targetC]⟩ = .ok () := rfl
  refine ⟨⟨hbad, ?_⟩, hgood, ?_⟩
  · exact ((Build.refusal ⟨.none, [targetA, targetD]⟩).1 _ _).2 hbad
  · exact ((((Build.refusal ⟨.none, [targetA, targetC]⟩).2.2.2 hgood [targetA] targetC [] rfl).2 _ _ _
      hfirst).1)

end TwoTargets

end NativeBuild
