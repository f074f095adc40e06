import Mathlib.Data.List.Forall2
import NativeBuild.Proofs.Build.Once
import NativeBuild.Proofs.Build.Scope

/-!
What the declaration of a manifest comes to.  On machines on which the directories of outputs can be
made it does not fail, and it submits one task for each key that sources are asked for with, the first
time, and one for each target.
-/

namespace NativeBuild

/-! ### The tasks of a build -/

/-- What was found out about a target: the files that it is compiled from, and what it is linked
from. -/
structure Finding where
  target : Manifest.Target
  files : List Path
  inputs : LinkInputs

/-- A task of a build: the compilation of a source, or the linking of a target. -/
inductive Part where
  | compile (key : ObjectKey)
  | link (f : Finding)

namespace Finding

/-- The keys that the sources of a target are asked for with. -/
def requests (here : Path) (f : Finding) : List ObjectKey :=
  f.files.map fun file => .of here file f.target.sources.flags

/-- Where the artifact of a target will be. -/
def output (layout : Layout) (here : Path) (f : Finding) : Path :=
  f.target.output.resolveAgainst here layout.root

/-- The linking of a target. -/
def linking (layout : Layout) (toolchain : Toolchain) (here : Path) (f : Finding) : Linking :=
  ⟨toolchain, layout.libDir, f.target.kind, f.output layout here, f.inputs⟩

end Finding

namespace Part

/-- The key of a compilation. -/
def key? : Part → Option ObjectKey
  | .compile key => some key
  | .link _ => none

/-- What was found out about the target of a linking. -/
def finding? : Part → Option Finding
  | .compile _ => none
  | .link f => some f

variable (layout : Layout) (toolchain : Toolchain) (here : Path)

/-- What the task is called, and what it needs. -/
def spec : Part → TaskSpec
  | .compile key => (Compilation.of toolchain layout.objectDir key).spec
  | .link f => (f.linking layout toolchain here).spec

/-- What the task does. -/
def chore : Part → List Path → Chore
  | .compile key => fun _ => (Compilation.of toolchain layout.objectDir key).chore
  | .link f => (f.linking layout toolchain here).chore

/-- Where the output of the task will be. -/
def output : Part → Path
  | .compile key => layout.objectDir.child key.objectName
  | .link f => f.output layout here

theorem spec_output (part : Part) :
    (part.spec layout toolchain here).output = some (part.output layout here) := by
  cases part <;> rfl

end Part

/-- The keys of the compilations among tasks. -/
def keysOf (parts : List Part) : List ObjectKey :=
  parts.filterMap Part.key?

/-- What was found out about the targets that are linked, in the order of the linkings. -/
def findingsOf (parts : List Part) : List Finding :=
  parts.filterMap Part.finding?

/-- Whether a path is the object of a compilation that `key` asks for. -/
def IsObject (parts : List Part) (key : ObjectKey) (ref : PathRef) : Prop :=
  ∃ i k, ref = .task i ∧ parts[i]? = some (.compile k) ∧ k.Same key

/-- Whether a path is the artifact of a target. -/
def IsArtifact (parts : List Part) (f : Finding) (ref : PathRef) : Prop :=
  ∃ i, ref = .task i ∧ parts[i]? = some (.link f)

section

variable {parts parts' : List Part} {key : ObjectKey} {f : Finding} {ref : PathRef}

theorem getElem?_mono {α : Type} {l l' : List α} (h : l <+: l') {i : Nat} {a : α}
    (ha : l[i]? = some a) : l'[i]? = some a := by
  obtain ⟨more, rfl⟩ := h
  exact (List.getElem?_append_left (List.getElem?_eq_some_iff.1 ha).1).trans ha

theorem IsObject.mono (h : IsObject parts key ref) (hp : parts <+: parts') :
    IsObject parts' key ref := by
  obtain ⟨i, k, hi, hk, hsame⟩ := h
  exact ⟨i, k, hi, getElem?_mono hp hk, hsame⟩

theorem IsArtifact.mono (h : IsArtifact parts f ref) (hp : parts <+: parts') :
    IsArtifact parts' f ref := by
  obtain ⟨i, hi, hf⟩ := h
  exact ⟨i, hi, getElem?_mono hp hf⟩

end

/-! ### What errands may come to -/

/-- Whether a directory can be made on every good machine. -/
def CanMake (good : Machine → Prop) (dir : Path) : Prop :=
  ∀ m, good m → (m.makeDirectories dir).2 = .ok ()

theorem CanMake.answer (run : Runner) {good : Machine → Prop} {dir : Path} (h : CanMake good dir)
    {m : Machine} (hm : good m) : ((Act.directory dir).perform run m).2 = .ok "" := by
  have hmade := h m hm
  rw [Act.perform, ensureDirectory]
  split
  · rfl
  · next heq =>
    rw [heq] at hmade
    cases hmade

/-- Whether a deed starts no command. -/
def Deed.IsQuiet (d : Deed) : Prop :=
  ∀ c, d ≠ .act (.command c)

namespace Errand

variable {α β : Type} {run : Runner} {good : Machine → Prop}

/-- What an errand that submits nothing may come to when each of its deeds is done on some machine
that is good. -/
inductive Comes (run : Runner) (good : Machine → Prop) : Errand α → α → Prop where
  | done (a : α) : Comes run good (.done a) a
  | deed {d : Deed} {next : d.Answer → Errand α} {m : Machine} {a : α} (hm : good m)
    (h : Comes run good (next (d.perform run m).2) a) : Comes run good (.deed d next) a

theorem Comes.of_bind {e : Errand α} {k : α → Errand β} {b : β} (h : (e.bind k).Comes run good b) :
    ∃ a, e.Comes run good a ∧ (k a).Comes run good b := by
  induction e with
  | done a => exact ⟨a, .done a, h⟩
  | deed d next ih =>
    cases h with
    | deed hm h =>
      obtain ⟨a, ha, hb⟩ := ih _ h
      exact ⟨a, .deed hm ha, hb⟩
  | submit spec body next ih => exact nomatch h

theorem Comes.eq_of_done {a b : α} (h : (Errand.done a).Comes run good b) : b = a := by
  cases h
  rfl

section

variable (run : Runner) (good : Machine → Prop) (layout : Layout) (toolchain : Toolchain)
  (here : Path)

/-- Whether an errand that comes when there are the tasks `parts` submits tasks of a build alone,
starts no command, and comes to what `P` says, when each of its deeds is done on some machine that is
good. -/
def Plans (P : List Part → α → Prop) : Errand α → List Part → Prop
  | .done a, parts => P parts a
  | .deed d next, parts => d.IsQuiet ∧ ∀ m, good m → (next (d.perform run m).2).Plans P parts
  | .submit spec body next, parts => ∃ part : Part,
    spec = part.spec layout toolchain here ∧ body = part.chore layout toolchain here ∧
      (next parts.length).Plans P (parts ++ [part])

end

variable {layout : Layout} {toolchain : Toolchain} {here : Path} {parts : List Part}

theorem Plans.bind {P : List Part → α → Prop} {Q : List Part → β → Prop} {e : Errand α}
    {k : α → Errand β} (h : e.Plans run good layout toolchain here P parts)
    (hk : ∀ parts a, P parts a → (k a).Plans run good layout toolchain here Q parts) :
    (e.bind k).Plans run good layout toolchain here Q parts := by
  induction e generalizing parts with
  | done a => exact hk parts a h
  | deed d next ih => exact ⟨h.1, fun m hm => ih _ (h.2 m hm)⟩
  | submit spec body next ih =>
    obtain ⟨part, hspec, hbody, h⟩ := h
    exact ⟨part, hspec, hbody, ih _ h⟩

/-- What only reads starts no command and submits nothing. -/
theorem Reads.plans {e : Errand α} (h : e.Reads Deed.IsQuiet) {k : α → Errand β}
    {Q : List Part → β → Prop}
    (hk : ∀ a, e.Comes run good a → (k a).Plans run good layout toolchain here Q parts) :
    (e.bind k).Plans run good layout toolchain here Q parts := by
  induction e with
  | done a => exact hk a (.done a)
  | deed d next ih =>
    exact ⟨h.1, fun m hm => ih _ (h.2 _) fun a ha => hk a (.deed hm ha)⟩
  | submit spec body next ih => exact h.elim

end Errand

/-! ### Compilations -/

/-- How a table, the tasks there are, and the keys that were asked for so far agree.  There is one
compilation for each key that was asked for, the first time. -/
structure Keyed (parts : List Part) (asked : List ObjectKey) (table : ObjectTable) : Prop where
  entries : ∀ e ∈ table.entries, ∃ i, e.2 = .task i ∧ parts[i]? = some (.compile e.1)
  keys : keysOf parts = table.entries.map Prod.fst
  first : (keysOf parts).Sublist asked
  distinct : (keysOf parts).Pairwise fun a b => ¬ a.Same b
  covered : ∀ key ∈ asked, ∃ k ∈ keysOf parts, k.Same key

/-- The tasks with compilations for more keys. -/
def withKeys (parts : List Part) (keys : List ObjectKey) : List Part :=
  parts ++ keys.map .compile

section

variable {parts parts' : List Part} {asked : List ObjectKey} {table : ObjectTable}
  {key : ObjectKey} {object ref : PathRef}

theorem keysOf_append (parts parts' : List Part) :
    keysOf (parts ++ parts') = keysOf parts ++ keysOf parts' :=
  List.filterMap_append

theorem findingsOf_append (parts parts' : List Part) :
    findingsOf (parts ++ parts') = findingsOf parts ++ findingsOf parts' :=
  List.filterMap_append

theorem findingsOf_withKeys (parts : List Part) (keys : List ObjectKey) :
    findingsOf (withKeys parts keys) = findingsOf parts := by
  have hnone : findingsOf (keys.map .compile) = [] :=
    List.filterMap_eq_nil_iff.2 fun part hpart => by
      obtain ⟨key, -, rfl⟩ := List.mem_map.1 hpart
      rfl
  rw [withKeys, findingsOf_append, hnone, List.append_nil]

theorem prefix_withKeys (parts : List Part) (keys : List ObjectKey) :
    parts <+: withKeys parts keys :=
  List.prefix_append _ _

theorem withKeys_withKeys (parts : List Part) (keys keys' : List ObjectKey) :
    withKeys (withKeys parts keys) keys' = withKeys parts (keys ++ keys') := by
  simp [withKeys]

theorem Keyed.isObject (h : Keyed parts asked table) (hl : table.lookup? key = some object) :
    IsObject parts key object := by
  obtain ⟨e, he, hsame, rfl⟩ := ObjectTable.exists_of_lookup? hl
  obtain ⟨i, hi, hpart⟩ := h.entries e he
  exact ⟨i, e.1, hi, hpart, hsame⟩

/-- A key is asked for that is in the table. -/
theorem Keyed.hit (h : Keyed parts asked table) (hl : table.lookup? key = some object) :
    Keyed parts (asked ++ [key]) table where
  entries := h.entries
  keys := h.keys
  first := h.first.trans (List.sublist_append_left _ _)
  distinct := h.distinct
  covered k hk := by
    rcases List.mem_append.1 hk with hk | hk
    · exact h.covered k hk
    · rw [List.mem_singleton.1 hk]
      obtain ⟨e, he, hsame, -⟩ := ObjectTable.exists_of_lookup? hl
      exact ⟨e.1, h.keys ▸ List.mem_map_of_mem he, hsame⟩

/-- A key is asked for that is not in the table. -/
theorem Keyed.miss (h : Keyed parts asked table) (hl : table.lookup? key = none) :
    Keyed (withKeys parts [key]) (asked ++ [key]) (table.insert key (.task parts.length)) := by
  have hkeys : keysOf (withKeys parts [key]) = keysOf parts ++ [key] := keysOf_append _ _
  refine ⟨fun e he => ?_, ?_, ?_, ?_, fun k hk => ?_⟩
  · rcases List.mem_append.1 he with he | he
    · obtain ⟨i, hi, hpart⟩ := h.entries e he
      exact ⟨i, hi, getElem?_mono (prefix_withKeys _ _) hpart⟩
    · rw [List.mem_singleton.1 he]
      exact ⟨parts.length, rfl, List.getElem?_concat_length⟩
  · rw [hkeys, h.keys, ObjectTable.insert, List.map_append]
    rfl
  · rw [hkeys]
    exact h.first.append (List.Sublist.refl _)
  · rw [hkeys]
    refine List.pairwise_append.2 ⟨h.distinct, List.pairwise_singleton _ _, fun k hk k' hk' => ?_⟩
    rw [List.mem_singleton.1 hk']
    rw [h.keys] at hk
    obtain ⟨e, he, rfl⟩ := List.mem_map.1 hk
    exact ObjectTable.lookup?_eq_none.1 hl e he
  · rw [hkeys]
    rcases List.mem_append.1 hk with hk | hk
    · obtain ⟨k', hk', hsame⟩ := h.covered k hk
      exact ⟨k', List.mem_append_left _ hk', hsame⟩
    · rw [List.mem_singleton.1 hk]
      exact ⟨key, List.mem_append_right _ (List.mem_singleton.2 rfl), .refl key⟩

end

namespace Errand

variable {run : Runner} {good : Machine → Prop} {layout : Layout} {toolchain : Toolchain}
  {here : Path} {parts : List Part} {asked : List ObjectKey} {table : ObjectTable}

/-- Whether there are just compilations for more keys, with what was asked for on the way as `P`
says. -/
def Compiled {α : Type} (parts : List Part) (asked : List ObjectKey) (P : List Part → α → Prop)
    (parts' : List Part) (r : ObjectTable × Except Failure α) : Prop :=
  ∃ keys a, parts' = withKeys parts keys ∧ Keyed parts' asked r.1 ∧ r.2 = .ok a ∧ P parts' a

theorem plans_compile (hmake : CanMake good layout.objectDir) (h : Keyed parts asked table)
    (source : Path) (flags : List String) :
    (compile layout toolchain here table source flags).Plans run good layout toolchain here
      (Compiled parts (asked ++ [.of here source flags])
        fun parts ref => IsObject parts (.of here source flags) ref) parts := by
  unfold compile
  dsimp only
  -- The keys that are new are none or just the one that is asked for.
  split
  · next object hl => exact ⟨[], object, (List.append_nil _).symm, h.hit hl, rfl, h.isObject hl⟩
  · next hl =>
    refine ⟨fun c hc => (nomatch hc), fun m hm => ?_⟩
    have hanswer : ((Deed.act (.directory layout.objectDir)).perform run m).2 = .ok "" :=
      hmake.answer run hm
    rw [hanswer]
    exact ⟨.compile (.of here source flags), rfl, rfl, [.of here source flags], _, rfl, h.miss hl,
      rfl, parts.length, _, rfl, List.getElem?_concat_length, .refl _⟩

theorem plans_compileAll (hmake : CanMake good layout.objectDir) (h : Keyed parts asked table)
    (flags : List String) (files : List Path) :
    (compileAll layout toolchain here flags table files).Plans run good layout toolchain here
      (Compiled parts (asked ++ files.map fun file => .of here file flags)
        fun parts refs => List.Forall₂ (fun file ref => IsObject parts (.of here file flags) ref)
          files refs) parts := by
  induction files generalizing parts asked table with
  | nil => exact ⟨[], [], (List.append_nil _).symm, by simpa using h, rfl, .nil⟩
  | cons source rest ih =>
    refine (plans_compile hmake h source flags).bind ?_
    rintro _ ⟨table', made⟩ ⟨keys, object, rfl, hkeyed, hmade, hobject⟩
    cases hmade
    refine (ih hkeyed).bind ?_
    rintro _ ⟨table'', objects⟩ ⟨keys', refs, rfl, hkeyed', hobjects, hrefs⟩
    cases hobjects
    refine ⟨keys ++ keys', object :: refs, withKeys_withKeys _ _ _, ?_, rfl,
      .cons (hobject.mono (prefix_withKeys _ _)) hrefs⟩
    simpa using hkeyed'

end Errand

/-! ### Manifests that pass their check -/

namespace Manifest

variable {t : Target} {seen : List String}

theorem checkPlatforms_cons {e : LibraryEntry} {rest : List LibraryEntry}
    (h : checkPlatforms (e :: rest) = .ok ()) :
    (∀ id, e.os? = some id → ∃ platform, Platform.ofHostId id = .ok platform) ∧
      checkPlatforms rest = .ok () := by
  unfold checkPlatforms at h
  cases hos : e.os? with
  | none =>
    rw [hos] at h
    exact ⟨fun id hid => (nomatch hid), h⟩
  | some id =>
    rw [hos] at h
    cases hplatform : Platform.ofHostId id with
    | error unknown =>
      simp only [hplatform] at h
      exact nomatch h
    | ok platform =>
      simp only [hplatform] at h
      exact ⟨fun id' hid => ⟨platform, Option.some.inj hid ▸ hplatform⟩, h⟩

/-- A target that passes links earlier targets, names operating systems that are known, and has a
name of its own. -/
theorem checkTarget_ok (h : checkTarget seen t = .ok ()) :
    (∀ name ∈ t.link, name ∈ seen) ∧ checkPlatforms t.libraries = .ok () ∧ t.name ∉ seen := by
  unfold checkTarget at h
  split at h
  · exact nomatch h
  · next hnone =>
    split at h
    · exact nomatch h
    · next hplatforms =>
      split at h
      · exact nomatch h
      · next hfresh =>
        refine ⟨fun name hname => ?_, hplatforms, by simpa using hfresh⟩
        simpa using List.find?_eq_none.1 hnone name hname

theorem checkFrom_cons {rest : List Target} (h : checkFrom seen (t :: rest) = .ok ()) :
    checkTarget seen t = .ok () ∧ checkFrom (t.name :: seen) rest = .ok () := by
  unfold checkFrom at h
  cases htarget : checkTarget seen t with
  | error e =>
    rw [htarget] at h
    exact nomatch h
  | ok _ =>
    rw [htarget] at h
    exact ⟨rfl, h⟩

theorem nodup_of_checkFrom {targets : List Target} (h : checkFrom seen targets = .ok ()) :
    (targets.map Target.name).Nodup ∧ ∀ t ∈ targets, t.name ∉ seen := by
  induction targets generalizing seen with
  | nil => exact ⟨.nil, fun t ht => nomatch ht⟩
  | cons t rest ih =>
    obtain ⟨htarget, hrest⟩ := checkFrom_cons h
    obtain ⟨hnodup, hfresh⟩ := ih hrest
    refine ⟨List.nodup_cons.2 ⟨fun hmem => ?_, hnodup⟩, fun u hu hmem => ?_⟩
    · obtain ⟨u, hu, hname⟩ := List.mem_map.1 hmem
      exact hfresh u hu (hname ▸ List.mem_cons_self)
    · rcases List.mem_cons.1 hu with rfl | hu
      · exact (checkTarget_ok htarget).2.2 hmem
      · exact hfresh u hu (List.mem_cons_of_mem _ hmem)

theorem nodup_of_check {manifest : Manifest} (h : manifest.check = .ok ()) :
    (manifest.targets.map Target.name).Nodup :=
  (nodup_of_checkFrom h).1

end Manifest

/-! ### Targets -/

/-- What is known of a target that is declared.  The files were found on good machines; the inputs
are the objects of the files, then the artifacts of the targets that are linked, all in their order;
and the libraries are those that were found for the names of objects, and then those that entries
stand for. -/
structure Finding.Sound (run : Runner) (good : Machine → Prop) (layout : Layout) (here : Path)
    (parts : List Part) (f : Finding) : Prop where
  files : (Errand.sources layout f.target.sources).Comes run good f.files
  sources : List.Forall₂
    (fun file ref => IsObject parts (.of here file f.target.sources.flags) ref)
    f.files f.inputs.sources
  objects : List.Forall₂
    (fun name ref => ∃ g : Finding, g.target.name = name ∧ IsArtifact parts g ref)
    f.target.link f.inputs.objects
  libraries : ∃ found entries, f.inputs.libraries = found ++ entries ∧
    List.Forall₂ (fun name l => ∃ p, l = .prebuilt p ∧
      (Errand.findLibrary layout.librarySearchPaths name).Comes run good p) f.target.objects found ∧
    List.Forall₂ (fun e l => (Errand.entry layout.librarySearchPaths e).Comes run good (.ok l))
      f.target.libraries entries

/-- Whether an entry of a declaration is that of a target. -/
structure Finding.Declares (layout : Layout) (here : Path) (parts : List Part) (f : Finding)
    (d : DeclaredTarget) : Prop where
  name : d.name = f.target.name
  kind : d.target.kind = f.target.kind
  output : d.target.output = f.output layout here
  artifact : IsArtifact parts f d.target.artifact
  runs : d.runs = f.target.run

section

variable {run : Runner} {good : Machine → Prop} {layout : Layout} {toolchain : Toolchain}
  {here : Path} {parts parts' : List Part} {asked : List ObjectKey} {table : ObjectTable}
  {f : Finding} {fs : List Finding} {d : DeclaredTarget} {declared : List DeclaredTarget}

theorem Finding.Sound.mono (h : f.Sound run good layout here parts) (hp : parts <+: parts') :
    f.Sound run good layout here parts' where
  files := h.files
  sources := h.sources.imp fun _ _ h => h.mono hp
  objects := h.objects.imp fun _ _ ⟨g, hg, h⟩ => ⟨g, hg, h.mono hp⟩
  libraries := h.libraries

theorem Finding.Declares.mono (h : f.Declares layout here parts d) (hp : parts <+: parts') :
    f.Declares layout here parts' d :=
  ⟨h.name, h.kind, h.output, h.artifact.mono hp, h.runs⟩

theorem Keyed.link (h : Keyed parts asked table) (f : Finding) :
    Keyed (parts ++ [.link f]) asked table := by
  have hkeys : keysOf (parts ++ [.link f]) = keysOf parts :=
    (keysOf_append _ _).trans (List.append_nil _)
  refine ⟨fun e he => ?_, hkeys ▸ h.keys, hkeys ▸ h.first, hkeys ▸ h.distinct, hkeys ▸ h.covered⟩
  obtain ⟨i, hi, hpart⟩ := h.entries e he
  exact ⟨i, hi, getElem?_mono (List.prefix_append _ _) hpart⟩

theorem exists_declares (h : List.Forall₂ (Finding.Declares layout here parts) fs declared)
    (hd : d ∈ declared) : ∃ f ∈ fs, f.Declares layout here parts d := by
  induction h with
  | nil => exact nomatch hd
  | cons hf _ ih =>
    rcases List.mem_cons.1 hd with rfl | hd
    · exact ⟨_, List.mem_cons_self, hf⟩
    · obtain ⟨f, hmem, hf⟩ := ih hd
      exact ⟨f, List.mem_cons_of_mem _ hmem, hf⟩

theorem exists_artifactsOf (target : String) {names : List String}
    (h : ∀ name ∈ names, ∃ d ∈ declared, d.name = name) : ∃ refs,
    Build.artifactsOf declared target names = .ok refs ∧
      List.Forall₂ (fun name ref => ∃ d ∈ declared, d.name = name ∧ ref = d.target.artifact) names
        refs := by
  induction names with
  | nil => exact ⟨[], rfl, .nil⟩
  | cons name rest ih =>
    obtain ⟨refs, hrefs, hall⟩ := ih fun n hn => h n (List.mem_cons_of_mem _ hn)
    obtain ⟨d, hd, hname⟩ := h name List.mem_cons_self
    cases hfound : declared.find? fun d => d.name == name with
    | none => exact absurd (List.find?_eq_none.1 hfound d hd) (by simp [hname])
    | some d' =>
      have hname' : d'.name = name := by simpa using List.find?_some hfound
      refine ⟨d'.target.artifact :: refs, by rw [Build.artifactsOf, hfound, hrefs]; rfl, .cons ?_ hall⟩
      exact ⟨d', List.mem_of_find?_eq_some hfound, hname', rfl⟩

end

namespace Errand

variable {run : Runner} {good : Machine → Prop} {layout : Layout} {toolchain : Toolchain}
  {here : Path} {parts : List Part} {asked : List ObjectKey} {table : ObjectTable}
  {declared : List DeclaredTarget} {t : Manifest.Target} {dirs : List Path}

theorem Comes.prebuilts {names : List String} {found : List Library}
    (h : (Errand.prebuilts dirs names).Comes run good found) :
    List.Forall₂ (fun name l => ∃ p, l = .prebuilt p ∧ (findLibrary dirs name).Comes run good p) names
      found := by
  induction names generalizing found with
  | nil =>
    cases h
    exact .nil
  | cons name rest ih =>
    obtain ⟨p, hp, h⟩ := Comes.of_bind h
    obtain ⟨more, hmore, h⟩ := Comes.of_bind h
    rw [h.eq_of_done]
    exact .cons ⟨p, rfl, hp⟩ (ih hmore)

/-- An entry whose operating system is known stands for a library. -/
theorem Comes.entry {e : Manifest.LibraryEntry} {r : Except Manifest.Refusal Library}
    (h : (Errand.entry dirs e).Comes run good r)
    (hos : ∀ id, e.os? = some id → ∃ platform, Platform.ofHostId id = .ok platform) :
    ∃ l, r = .ok l := by
  cases e with
  | prebuilt name =>
    obtain ⟨p, _, h⟩ := Comes.of_bind h
    exact ⟨_, h.eq_of_done⟩
  | linker name os =>
    cases os with
    | none => exact ⟨_, h.eq_of_done⟩
    | some id =>
      obtain ⟨platform, hplatform⟩ := hos id rfl
      simp only [Errand.entry, hplatform] at h
      exact ⟨_, h.eq_of_done⟩
  | config command => exact ⟨_, h.eq_of_done⟩

theorem Comes.entries {es : List Manifest.LibraryEntry}
    {r : Except Manifest.Refusal (List Library)} (h : (Errand.entries dirs es).Comes run good r)
    (hplatforms : Manifest.checkPlatforms es = .ok ()) : ∃ ls, r = .ok ls ∧
      List.Forall₂ (fun e l => (Errand.entry dirs e).Comes run good (.ok l)) es ls := by
  induction es generalizing r with
  | nil => exact ⟨[], h.eq_of_done, .nil⟩
  | cons e rest ih =>
    obtain ⟨hos, hrest⟩ := Manifest.checkPlatforms_cons hplatforms
    obtain ⟨made, hmade, h⟩ := Comes.of_bind h
    obtain ⟨l, rfl⟩ := hmade.entry hos
    obtain ⟨more, hmore, h⟩ := Comes.of_bind h
    obtain ⟨ls, rfl, hls⟩ := ih hmore hrest
    exact ⟨l :: ls, h.eq_of_done, .cons hmade hls⟩

theorem Comes.libraries {r : Except Manifest.Refusal (List Library)}
    (h : (Errand.libraries dirs t).Comes run good r)
    (hplatforms : Manifest.checkPlatforms t.libraries = .ok ()) :
    ∃ found entries, r = .ok (found ++ entries) ∧
      List.Forall₂ (fun name l => ∃ p, l = .prebuilt p ∧ (findLibrary dirs name).Comes run good p)
        t.objects found ∧
      List.Forall₂ (fun e l => (Errand.entry dirs e).Comes run good (.ok l)) t.libraries entries := by
  obtain ⟨found, hfound, h⟩ := Comes.of_bind h
  obtain ⟨more, hmore, h⟩ := Comes.of_bind h
  obtain ⟨ls, rfl, hls⟩ := hmore.entries hplatforms
  exact ⟨found, ls, h.eq_of_done, hfound.prebuilts, hls⟩

/-- What was found out about one more target. -/
def Found (run : Runner) (good : Machine → Prop) (layout : Layout) (here : Path) (parts : List Part)
    (asked : List ObjectKey) (t : Manifest.Target) (parts' : List Part)
    (r : ObjectTable × Except DeclareError LinkInputs) : Prop :=
  ∃ (f : Finding) (keys : List ObjectKey), f.target = t ∧ parts' = withKeys parts keys ∧
    Keyed parts' (asked ++ f.requests here) r.1 ∧ r.2 = .ok f.inputs ∧
    f.Sound run good layout here parts'

theorem plans_linkInputs
    (hmake : CanMake good layout.objectDir) (h : Keyed parts asked table)
    (hdeclared : List.Forall₂ (Finding.Declares layout here parts) (findingsOf parts) declared)
    (hlink : ∀ name ∈ t.link, ∃ d ∈ declared, d.name = name)
    (hplatforms : Manifest.checkPlatforms t.libraries = .ok ()) :
    (linkInputs layout toolchain here table declared t).Plans run good layout toolchain here
      (Found run good layout here parts asked t) parts := by
  have hquiet : (sources layout t.sources).Reads Deed.IsQuiet :=
    reads_sources (fun _ hc => (nomatch hc)) fun _ _ _ _ _ hc => nomatch hc
  refine hquiet.plans fun files hfiles => ?_
  refine (plans_compileAll hmake h t.sources.flags files).bind ?_
  rintro _ ⟨table', made⟩ ⟨keys, refs, rfl, hkeyed, hmade, hrefs⟩
  cases hmade
  obtain ⟨objects, hobjects, hnames⟩ := exists_artifactsOf t.name hlink
  dsimp only
  rw [hobjects]
  have hquiet : (libraries layout.librarySearchPaths t).Reads Deed.IsQuiet :=
    reads_libraries (fun _ hc => (nomatch hc)) (fun _ _ hc => nomatch hc) _ t
  refine hquiet.plans fun r hr => ?_
  obtain ⟨found, entries, rfl, hfound, hentries⟩ := hr.libraries hplatforms
  refine ⟨⟨t, files, ⟨refs, objects, found ++ entries⟩⟩, keys, rfl, rfl, hkeyed, rfl, hfiles, hrefs,
    hnames.imp ?_, found, entries, rfl, hfound, hentries⟩
  rintro name ref ⟨d, hd, rfl, rfl⟩
  obtain ⟨g, -, hg⟩ := exists_declares hdeclared hd
  exact ⟨g, hg.name.symm, hg.artifact.mono (prefix_withKeys _ _)⟩

/-- What was declared of one more target. -/
def Declared (run : Runner) (good : Machine → Prop) (layout : Layout) (here : Path)
    (parts : List Part) (asked : List ObjectKey) (t : Manifest.Target) (parts' : List Part)
    (r : ObjectTable × Except DeclareError DeclaredTarget) : Prop :=
  ∃ (f : Finding) (keys : List ObjectKey) (d : DeclaredTarget), f.target = t ∧
    parts' = withKeys parts keys ++ [.link f] ∧ Keyed parts' (asked ++ f.requests here) r.1 ∧
    r.2 = .ok d ∧ f.Sound run good layout here parts' ∧ f.Declares layout here parts' d

theorem plans_target (f : Finding)
    (hmake : ∀ dir, (f.output layout here).above? = some dir → CanMake good dir) :
    (target layout toolchain here f.target.kind f.target.output f.inputs).Plans run good layout
      toolchain here (fun parts' r => parts' = parts ++ [.link f] ∧
        r = .ok ⟨f.target.kind, f.output layout here, .task parts.length⟩) parts := by
  -- The same task is submitted whether or not there is a directory to make first.
  have hlink : (Errand.submit (f.linking layout toolchain here).spec
      (f.linking layout toolchain here).chore fun id =>
        .done (.ok ⟨f.target.kind, f.output layout here, .task id⟩)).Plans run good layout toolchain
      here (fun parts' (r : Except Failure LinkTarget) => parts' = parts ++ [.link f] ∧
        r = .ok ⟨f.target.kind, f.output layout here, .task parts.length⟩) parts :=
    ⟨.link f, rfl, rfl, rfl, rfl⟩
  unfold target
  dsimp only
  split
  · exact hlink
  · next dir hdir =>
    refine ⟨fun c hc => (nomatch hc), fun m hm => ?_⟩
    have hanswer : ((Deed.act (.directory dir)).perform run m).2 = .ok "" :=
      (hmake dir hdir).answer run hm
    rw [hanswer]
    exact hlink

theorem plans_declareTarget (hmake : CanMake good layout.objectDir)
    (hmake' : ∀ dir, (t.output.resolveAgainst here layout.root).above? = some dir →
      CanMake good dir)
    (h : Keyed parts asked table)
    (hdeclared : List.Forall₂ (Finding.Declares layout here parts) (findingsOf parts) declared)
    (hlink : ∀ name ∈ t.link, ∃ d ∈ declared, d.name = name)
    (hplatforms : Manifest.checkPlatforms t.libraries = .ok ()) :
    (declareTarget layout toolchain here table declared t).Plans run good layout toolchain here
      (Declared run good layout here parts asked t) parts := by
  refine (plans_linkInputs hmake h hdeclared hlink hplatforms).bind ?_
  rintro _ ⟨table', made⟩ ⟨f, keys, rfl, rfl, hkeyed, hmade, hsound⟩
  cases hmade
  refine (plans_target f hmake').bind ?_
  rintro _ r ⟨rfl, rfl⟩
  exact ⟨f, keys, _, rfl, rfl, hkeyed.link f, rfl, hsound.mono (List.prefix_append _ _), rfl, rfl,
    rfl, ⟨_, rfl, List.getElem?_concat_length⟩, rfl⟩

end Errand

/-- What the declaration of some targets has come to. -/
structure Outline (run : Runner) (good : Machine → Prop) (layout : Layout) (here : Path)
    (targets : List Manifest.Target) (parts : List Part) (table : ObjectTable)
    (declared : List DeclaredTarget) : Prop where
  targets : (findingsOf parts).map Finding.target = targets
  keyed : Keyed parts ((findingsOf parts).flatMap (Finding.requests here)) table
  sound : ∀ f ∈ findingsOf parts, f.Sound run good layout here parts
  declared : List.Forall₂ (Finding.Declares layout here parts) (findingsOf parts) declared

/-- The directories of outputs: those that objects go into, and those of artifacts. -/
inductive OutputDirectory (layout : Layout) (here : Path) (targets : List Manifest.Target) :
    Path → Prop where
  | objects : OutputDirectory layout here targets layout.objectDir
  | object {key : ObjectKey} {dir : Path}
    (h : (layout.objectDir.child key.objectName).above? = some dir) :
    OutputDirectory layout here targets dir
  | artifact {t : Manifest.Target} {dir : Path} (ht : t ∈ targets)
    (h : (t.output.resolveAgainst here layout.root).above? = some dir) :
    OutputDirectory layout here targets dir

section

variable {run : Runner} {good : Machine → Prop} {layout : Layout} {toolchain : Toolchain}
  {here : Path} {parts : List Part} {table : ObjectTable} {declared : List DeclaredTarget}
  {t : Manifest.Target} {targets done rest : List Manifest.Target} {seen : List String}

/-- There is an entry for each target, in their order. -/
theorem Outline.map_name (h : Outline run good layout here targets parts table declared) :
    declared.map DeclaredTarget.name = targets.map Manifest.Target.name := by
  rw [← h.targets, List.map_map]
  refine List.forall₂_eq_eq_eq ▸ List.forall₂_map_left_iff.2 (List.forall₂_map_right_iff.2 ?_)
  exact (h.declared.imp fun f d hd => hd.name).flip

/-- One more target is declared. -/
theorem Outline.declare (h : Outline run good layout here done parts table declared)
    {parts' : List Part} {table' : ObjectTable} {made : Except DeclareError DeclaredTarget}
    (hd : Errand.Declared run good layout here parts
      ((findingsOf parts).flatMap (Finding.requests here)) t parts' (table', made)) :
    ∃ d, made = .ok d ∧ d.name = t.name ∧
      Outline run good layout here (done ++ [t]) parts' table' (declared ++ [d]) := by
  obtain ⟨f, keys, d, rfl, rfl, hkeyed, rfl, hsound, hdeclares⟩ := hd
  have hprefix : parts <+: withKeys parts keys ++ [.link f] :=
    (prefix_withKeys parts keys).trans (List.prefix_append _ _)
  have hfindings : findingsOf (withKeys parts keys ++ [.link f]) = findingsOf parts ++ [f] := by
    rw [findingsOf_append, findingsOf_withKeys]
    rfl
  refine ⟨d, rfl, hdeclares.name, ?_, ?_, fun g hg => ?_, ?_⟩
  · rw [hfindings, List.map_append, h.targets]
    rfl
  · rw [hfindings, List.flatMap_append, List.flatMap_singleton]
    exact hkeyed
  · rw [hfindings] at hg
    rcases List.mem_append.1 hg with hg | hg
    · exact (h.sound g hg).mono hprefix
    · rw [List.mem_singleton.1 hg]
      exact hsound
  · rw [hfindings]
    exact List.rel_append (h.declared.imp fun _ _ h => h.mono hprefix) (.cons hdeclares .nil)

namespace Errand

theorem plans_declareFrom
    (hmake : ∀ dir, OutputDirectory layout here targets dir → CanMake good dir)
    (hsub : ∀ t ∈ rest, t ∈ targets) (h : Outline run good layout here done parts table declared)
    (hseen : ∀ name ∈ seen, ∃ d ∈ declared, d.name = name)
    (hcheck : Manifest.checkFrom seen rest = .ok ()) :
    (declareFrom layout toolchain here table declared rest).Plans run good layout toolchain here
      (fun parts r => ∃ declared, r.2 = .ok declared ∧
        Outline run good layout here (done ++ rest) parts r.1 declared) parts := by
  -- What carries the induction is the outline of the targets so far, whose names are those seen.
  induction rest generalizing done parts table declared seen with
  | nil => exact ⟨declared, rfl, (List.append_nil done).symm ▸ h⟩
  | cons t rest ih =>
    obtain ⟨htarget, hrest⟩ := Manifest.checkFrom_cons hcheck
    obtain ⟨hlink, hplatforms, -⟩ := Manifest.checkTarget_ok htarget
    refine (plans_declareTarget (hmake _ .objects)
      (fun dir hdir => hmake dir (.artifact (hsub t List.mem_cons_self) hdir)) h.keyed h.declared
      (fun name hname => hseen name (hlink name hname)) hplatforms).bind ?_
    rintro parts' ⟨table', made⟩ hd
    obtain ⟨d, rfl, hname, h'⟩ := h.declare hd
    rw [← List.singleton_append, ← List.append_assoc]
    refine ih (fun t ht => hsub t (List.mem_cons_of_mem _ ht)) h' ?_ hrest
    intro name hmem
    rcases List.mem_cons.1 hmem with rfl | hmem
    · exact ⟨d, List.mem_append_right _ (List.mem_singleton.2 rfl), hname⟩
    · obtain ⟨d', hd', hname'⟩ := hseen name hmem
      exact ⟨d', List.mem_append_left _ hd', hname'⟩

/-- Declaring a manifest that passes its check submits the compilations and linkings of its targets,
and it comes to an entry for each target, if the directories of outputs can be made. -/
theorem plans_declare {manifest : Manifest}
    (hmake : ∀ dir, OutputDirectory layout here manifest.targets dir → CanMake good dir)
    (hcheck : manifest.check = .ok ()) :
    (declare layout toolchain here ⟨[]⟩ manifest).Plans run good layout toolchain here
      (fun parts r => ∃ declared, r.2 = .ok declared ∧
        Outline run good layout here manifest.targets parts r.1 declared) [] := by
  have hempty : Outline run good layout here [] [] ⟨[]⟩ [] :=
    ⟨rfl, ⟨fun e he => (nomatch he), rfl, .slnil, .nil, fun k hk => (nomatch hk)⟩,
      fun f hf => (nomatch hf), .nil⟩
  have hfrom : Manifest.checkFrom [] manifest.targets = .ok () := hcheck
  unfold declare
  rw [hcheck]
  exact plans_declareFrom hmake (fun t ht => ht) hempty (by simp) hfrom

end Errand

end

end NativeBuild
