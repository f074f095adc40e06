import NativeBuild.Proofs.Build.ObjectName

/-!
Where the object of a request is.  A request for a key that was asked for before, in the same way of
writing or another, is answered with the place that the first such key names.
-/

namespace NativeBuild

namespace Desk

variable {d d' : Desk} {run : Runner} {m : Machine} {layout : Layout} {toolchain : Toolchain}
  {config : PoolConfig} {key : ObjectKey} {object : PathRef} {here : Path}

/-! ### Keys of requests -/

/-- Whether a key is that of a request made in the directory `here`. -/
def IsRequest (here : Path) (key : ObjectKey) : Prop :=
  ∃ source flags, key = .of here source flags

/-- The keys that are held and that were answered are those of requests. -/
structure Requested (here : Path) (d : Desk) : Prop where
  here_eq : d.build.pool.here = here
  held : ∀ h, d.holder = some h → IsRequest here h.key
  answered : ∀ a ∈ d.answers, IsRequest here a.1

theorem Requested.step (hs : d.Sure) (hd : d.Requested here) (h : Step d d') :
    d'.Requested here := by
  have hhere : d'.build.pool.here = here := (h.move hs).here_eq.trans hd.here_eq
  have more {key : ObjectKey} {r : Except Failure PathRef} (hkey : IsRequest here key) :
      ∀ a ∈ d.answers ++ [(key, r)], IsRequest here a.1 := by
    intro a ha
    rcases List.mem_append.1 ha with ha | ha
    · exact hd.answered a ha
    · rw [List.mem_singleton.1 ha]
      exact hkey
  -- A request that goes on holds the table with the key that it had.
  have goOn {h : Holder} (hh : d.holder = some h) {h' : Holder} (hkey : h'.key = h.key) :
      ∀ h₁, some h' = some h₁ → IsRequest here h₁.key := by
    rintro _ ⟨⟩
    rw [hkey]
    exact hd.held h hh
  cases h with
  | hit source flags _ _ => exact ⟨hhere, hd.held, more ⟨source, flags, by rw [← hd.here_eq]⟩⟩
  | miss _ source flags _ _ =>
    refine ⟨hhere, ?_, hd.answered⟩
    rintro _ ⟨⟩
    exact ⟨source, flags, by rw [← hd.here_eq]; rfl⟩
  | fail hh _ => exact ⟨hhere, fun _ hh => (nomatch hh), more (hd.held _ hh)⟩
  | insert hh => exact ⟨hhere, fun _ hh => (nomatch hh), more (hd.held _ hh)⟩
  | prepare hh _ | enlist hh | spawn hh _ | track hh _ | conclude hh _ _ =>
    exact ⟨hhere, goOn hh rfl, hd.answered⟩
  | panic _ _ | unwind _ _ _ => exact ⟨hhere, fun _ hh => (nomatch hh), hd.answered⟩
  | task _ | touch _ _ => exact ⟨hhere, hd.held, hd.answered⟩

theorem Reachable.requested (h : Reachable run m layout toolchain config d) :
    d.Requested m.here := by
  induction h with
  | start => exact ⟨rfl, fun _ hh => (nomatch hh), fun _ ha => (nomatch ha)⟩
  | step hd h ih => exact ih.step hd.sure h

/-! ### The first request for a key -/

/-- The first key among those granted that is the same as a given one. -/
def first? (d : Desk) (key : ObjectKey) : Option ObjectKey :=
  d.granted.find? fun k => k.Same key

/-- The key of the entry that a look into the table finds. -/
def entryKey? (d : Desk) (key : ObjectKey) : Option ObjectKey :=
  (d.build.table.entries.find? fun e => e.1.Same key).map Prod.fst

theorem entryKey?_eq_none : d.entryKey? key = none ↔ ∀ e ∈ d.build.table.entries, ¬ e.1.Same key := by
  simp [entryKey?]

theorem granted_ok (h : d'.answers = d.answers ++ [(key, .ok object)]) :
    d'.granted = d.granted ++ [key] := by
  rw [granted, h, List.filterMap_append]
  rfl

theorem granted_error {e : Failure} (h : d'.answers = d.answers ++ [(key, .error e)]) :
    d'.granted = d.granted := by
  rw [granted, h, List.filterMap_append]
  exact List.append_nil _

/-- A key that was granted last is the first one only if no other was. -/
theorem first?_append {last : ObjectKey} (h : d'.granted = d.granted ++ [last]) (key : ObjectKey) :
    d'.first? key = (d.first? key).or (if last.Same key then some last else none) := by
  rw [first?, h, List.find?_append, List.find?_singleton]
  simp [first?]

/-- An entry that was made last is found only if no other is. -/
theorem entryKey?_append {last : ObjectKey}
    (h : d'.build.table = d.build.table.insert last object) (key : ObjectKey) :
    d'.entryKey? key = (d.entryKey? key).or (if last.Same key then some last else none) := by
  rw [entryKey?, h, ObjectTable.insert, List.find?_append, List.find?_singleton, Option.map_or]
  congr 1
  split <;> simp_all

/-- The table has its entries under the keys that were granted first. -/
theorem Reachable.first?_eq (h : Reachable run m layout toolchain config d) (key : ObjectKey) :
    d.first? key = d.entryKey? key := by
  induction h with
  | start => rfl
  | @step d d' _ h ih =>
    cases h with
    | hit source flags _ hlookup =>
      rw [first?_append (granted_ok rfl), ih]
      cases hkey : entryKey? _ key with
      | some k => exact hkey.symm
      | none =>
        obtain ⟨e, he, hsame, -⟩ := ObjectTable.exists_of_lookup? hlookup
        rw [if_neg fun h => entryKey?_eq_none.1 hkey e he (hsame.trans h)]
        exact hkey.symm
    | insert _ =>
      rw [first?_append (granted_ok rfl), ih]
      exact (entryKey?_append rfl key).symm
    | fail _ h =>
      obtain ⟨m, rfl⟩ := Build.ensureDirectory_eq h
      rw [first?, granted_error rfl]
      exact ih
    | prepare _ h =>
      obtain ⟨m, rfl⟩ := Build.ensureDirectory_eq h
      exact ih
    | miss _ _ _ _ _ | enlist _ | panic _ _ | spawn _ _ | track _ _ | conclude _ _ _
    | unwind _ _ _ | task _ | touch _ _ => exact ih

/-- A request is answered with the task that puts the object where the first request for its key says.
-/
theorem Reachable.exists_first (h : Reachable run m layout toolchain config d)
    (hmem : (key, .ok object) ∈ d.answers) :
    ∃ first id t, d.first? key = some first ∧ object = .task id ∧
      d.build.pool.tasks[id]? = some t ∧
      t.spec.output = some (layout.objectDir.child first.objectName) := by
  obtain ⟨e, he, rfl⟩ := Option.map_eq_some_iff.1 (h.consistent.answered key object hmem)
  obtain ⟨id, t, hid, ht, houtput⟩ := h.exists_of_entry (List.mem_of_find?_eq_some he)
  refine ⟨e.1, id, t, ?_, hid, ht, houtput⟩
  rw [h.first?_eq, entryKey?, he]
  rfl

theorem same_of_first? {first : ObjectKey} (h : d.first? key = some first) : first.Same key := by
  simpa using List.find?_some h

theorem mem_granted_of_first? {first : ObjectKey} (h : d.first? key = some first) :
    first ∈ d.granted :=
  List.mem_of_find?_eq_some h

/-- Where the object of a request is.  The answer is the task that puts the object under the name of the
first key granted that is the same path with the same flags.  That is the key that was asked for, and
its place the one that a fresh table would name, exactly if the two are written with the same slashes
in front and at the end; and else the place is another one, unless two digests collide.  A request that
nothing disturbs is answered what a build alone answers. -/
theorem Reachable.located (hhere : m.here.IsClean)
    (h : Reachable run m layout toolchain config d) (hmem : (key, .ok object) ∈ d.answers) :
    (∃ first id t, d.first? key = some first ∧ object = .task id ∧
      d.build.pool.tasks[id]? = some t ∧
      t.spec.output = some (layout.objectDir.child first.objectName) ∧
      (first = key ↔ first.source.endsInSlash = key.source.endsInSlash ∧
        first.source.isDoubled = key.source.isDoubled) ∧
      (first ≠ key → ¬ first.Collide key →
        ¬ (layout.objectDir.child first.objectName).Same
          (layout.objectDir.child key.objectName))) ∧
    d.Serves := by
  obtain ⟨first, id, t, hfirst, hid, ht, houtput⟩ := h.exists_first hmem
  refine ⟨⟨first, id, t, hfirst, hid, ht, houtput, ?_, fun hne hcollide hsame => ?_⟩, d.serves⟩
  · obtain ⟨answer, hanswer⟩ := mem_granted.1 (mem_granted_of_first? hfirst)
    obtain ⟨source, flags, rfl⟩ := h.requested.answered _ hanswer
    obtain ⟨source', flags', rfl⟩ := h.requested.answered _ hmem
    obtain ⟨hsource, hflags⟩ := same_of_first? hfirst
    have hiff := Path.absolute_eq_iff hhere hsource
    constructor
    · intro heq
      exact hiff.1 (congrArg ObjectKey.source heq)
    · intro hslashes
      rw [ObjectKey.of, ObjectKey.of, hiff.2 hslashes]
      exact congrArg _ hflags
  · exact hne (ObjectKey.eq_of_objectName hcollide (ObjectKey.objectName_of_same_child hsame))

theorem located_two_requests : ∃ d id t, Runs emptyDesk d ∧ d.build.pool.tasks[id]? = some t ∧
    (⟨⟨['/', 'a', '/']⟩, []⟩, .ok (.task id)) ∈ d.answers ∧
    t.spec.output =
      some ((⟨['/', 'o']⟩ : Path).child (ObjectKey.objectName ⟨⟨['/', 'a']⟩, []⟩)) := by
  obtain ⟨d, hruns, hgranted⟩ := exists_two_requests
  have hmem : (⟨⟨['/', 'a', '/']⟩, []⟩ : ObjectKey) ∈ d.granted := by simp [hgranted]
  obtain ⟨object, hanswer⟩ := mem_granted.1 hmem
  obtain ⟨⟨first, id, t, hfirst, rfl, ht, houtput, -⟩, -⟩ :=
    (Reachable.start.runs hruns).located (by decide) hanswer
  obtain rfl : ⟨⟨['/', 'a']⟩, []⟩ = first := by
    rw [first?, hgranted] at hfirst
    exact Option.some.inj hfirst
  exact ⟨d, id, t, hruns, ht, hanswer, houtput⟩

/-- A request for a source, in a table in which it is the first one. -/
theorem exists_first_request : ∃ d, Runs emptyDesk d ∧ d.granted = [⟨⟨['/', 'a', '/']⟩, []⟩] := by
  have missed : Runs emptyDesk _ :=
    Relation.ReflTransGen.single (.miss .outside ⟨['/', 'a', '/']⟩ [] rfl rfl)
  have prepared := missed.step (.prepare rfl rfl)
  have listed := prepared.step (.enlist rfl)
  have spawned := listed.step (.spawn rfl (.inl rfl))
  have submitted := spawned.step (.track rfl rfl)
  have inserted := submitted.step (.insert rfl)
  exact ⟨_, inserted, rfl⟩

/-- The source `/a/` has its object at one place when it is asked for first, and at another when `/a`
was asked for before. -/
theorem exists_order_dependent : ∃ d d', Runs emptyDesk d ∧ Runs emptyDesk d' ∧
    d.granted = [⟨⟨['/', 'a']⟩, []⟩, ⟨⟨['/', 'a', '/']⟩, []⟩] ∧
    d'.granted = [⟨⟨['/', 'a', '/']⟩, []⟩] ∧
    ∃ i j t u p q, (⟨⟨['/', 'a', '/']⟩, []⟩, .ok (.task i)) ∈ d.answers ∧
      (⟨⟨['/', 'a', '/']⟩, []⟩, .ok (.task j)) ∈ d'.answers ∧
      d.build.pool.tasks[i]? = some t ∧ d'.build.pool.tasks[j]? = some u ∧
      t.spec.output = some p ∧ u.spec.output = some q ∧ ¬ p.Same q := by
  obtain ⟨d, hruns, hgranted⟩ := exists_two_requests
  obtain ⟨d', hruns', hgranted'⟩ := exists_first_request
  have hmem : (⟨⟨['/', 'a', '/']⟩, []⟩ : ObjectKey) ∈ d.granted := by simp [hgranted]
  have hmem' : (⟨⟨['/', 'a', '/']⟩, []⟩ : ObjectKey) ∈ d'.granted := by simp [hgranted']
  obtain ⟨object, hanswer⟩ := mem_granted.1 hmem
  obtain ⟨object', hanswer'⟩ := mem_granted.1 hmem'
  obtain ⟨first, i, t, hfirst, rfl, ht, hp⟩ := (Reachable.start.runs hruns).exists_first hanswer
  obtain ⟨first', j, u, hfirst', rfl, hu, hq⟩ := (Reachable.start.runs hruns').exists_first hanswer'
  refine ⟨d, d', hruns, hruns', hgranted, hgranted', i, j, t, u, _, _, hanswer, hanswer', ht, hu, hp,
    hq, fun hsame => ?_⟩
  obtain rfl : ⟨⟨['/', 'a']⟩, []⟩ = first := by
    rw [first?, hgranted] at hfirst
    exact Option.some.inj hfirst
  obtain rfl : ⟨⟨['/', 'a', '/']⟩, []⟩ = first' := by
    rw [first?, hgranted'] at hfirst'
    exact Option.some.inj hfirst'
  have hname : ObjectKey.objectName ⟨⟨['/', 'a']⟩, []⟩ ≠ ObjectKey.objectName ⟨⟨['/', 'a', '/']⟩, []⟩ := by
    decide +kernel
  exact hname (ObjectKey.objectName_of_same_child hsame)

end Desk

end NativeBuild
