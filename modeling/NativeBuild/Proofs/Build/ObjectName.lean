import NativeBuild.Proofs.Build.Once
import NativeBuild.Proofs.Json.Compact
import NativeBuild.Proofs.Path.Components

/-!
Where objects are put.  Different keys are digested as different texts, so different objects have
different places as long as no two digests collide.  Keys that are the same may still be written in
two ways, and then the place of their object is that of the first of them that was asked for.
-/

namespace NativeBuild

theorem Text.hexDigit_ne_slash : ∀ n < 16, Text.hexDigit n ≠ '/' := by
  decide

theorem Sha256.slash_not_mem_hex (message : List UInt8) : '/' ∉ Sha256.hex message := by
  intro h
  obtain ⟨w, -, hw⟩ := List.mem_flatMap.1 h
  obtain ⟨i, -, hi⟩ := List.mem_map.1 hw
  exact Text.hexDigit_ne_slash _ (Nat.mod_lt _ (by decide)) hi

namespace ObjectKey

variable {a b : ObjectKey}

/-- The text that is digested tells the source as it is written, each flag, and their order. -/
theorem text_injective : Function.Injective text := by
  intro a b h
  simp only [text, Json.compact, Json.compactFields, List.cons_append, List.append_assoc,
    List.cons.injEq, true_and] at h
  obtain ⟨-, hsource⟩ := Json.writeText_append_inj h
  obtain ⟨hpath, hflags⟩ := Json.writeText_append_inj (List.cons.inj hsource).2
  obtain ⟨-, hflags⟩ := Json.writeText_append_inj (List.cons.inj hflags).2
  obtain ⟨hflags, -⟩ := Json.texts_append_inj (List.cons.inj hflags).2
  have hchars : a.source.chars = b.source.chars := String.ofList_injective hpath
  obtain ⟨⟨source⟩, flags⟩ := a
  cases hchars
  cases hflags
  rfl

/-- Whether the digests of two different keys agree as far as they are used. -/
def Collide (a b : ObjectKey) : Prop :=
  Text.encode a.text ≠ Text.encode b.text ∧ a.hash = b.hash

theorem eq_of_objectName (hcollide : ¬ a.Collide b) (h : a.objectName = b.objectName) : a = b := by
  have hhash : a.hash = b.hash := by
    have := congrArg String.toList h
    simp only [objectName, String.toList_append] at this
    exact String.toList_injective (List.append_cancel_right this)
  by_contra hne
  exact hcollide ⟨fun htext => hne (text_injective (Text.encode_injective htext)), hhash⟩

theorem toList_objectName (k : ObjectKey) :
    k.objectName.toList = (Sha256.hex (Text.encode k.text)).take 32 ++ ['.', 'o'] := by
  rw [objectName, String.toList_append, hash, String.toList_ofList]
  rfl

theorem slash_not_mem_objectName (k : ObjectKey) : '/' ∉ k.objectName.toList := by
  rw [toList_objectName, List.mem_append, not_or]
  exact ⟨fun h => Sha256.slash_not_mem_hex _ (List.mem_of_mem_take h), by decide⟩

/-- The name of an object file is one step of a path. -/
theorem ofPiece?_objectName (k : ObjectKey) :
    Component.ofPiece? k.objectName.toList = some (.normal k.objectName.toList) := by
  have hlast : k.objectName.toList.getLast? = some 'o' := by
    rw [toList_objectName, List.getLast?_append]
    rfl
  unfold Component.ofPiece?
  split
  · next h => rw [h] at hlast; exact nomatch hlast
  · next h => rw [h] at hlast; exact absurd hlast (by decide)
  · next h => rw [h] at hlast; exact absurd hlast (by decide)
  · rfl

theorem child_objectName (dir : Path) (k : ObjectKey) :
    dir.child k.objectName = dir.append k.objectName.toList := by
  have hrelative : (Path.ofString k.objectName).isAbsolute = false := by
    refine beq_eq_false_iff_ne.2 fun h => ?_
    exact k.slash_not_mem_objectName (List.mem_of_mem_head? h)
  rw [Path.child, Path.join, if_neg (by simp [hrelative])]
  rfl

theorem components_child (dir : Path) (k : ObjectKey) :
    (dir.child k.objectName).components = dir.components ++ [.normal k.objectName.toList] := by
  rw [child_objectName]
  exact Path.components_append dir k.slash_not_mem_objectName k.ofPiece?_objectName

/-- Above an object lies its directory, if the path of the directory ends in the name of a step. -/
theorem above?_child {dir : Path} {last : List Char} {before : List (List Char)}
    (hdir : (Text.pieces '/' dir.chars).reverse = last :: before) (hlast : Path.isIdle last = false)
    (k : ObjectKey) : (dir.child k.objectName).above? = some dir := by
  have hname : Path.isIdle k.objectName.toList = false := by
    have hstep := k.ofPiece?_objectName
    simp only [Path.isIdle, Bool.or_eq_false_iff, List.isEmpty_eq_false_iff, beq_eq_false_iff_ne]
    constructor <;>
    · intro h
      rw [h] at hstep
      cases hstep
  have hpieces : Text.pieces '/' (dir.child k.objectName).chars =
      Text.pieces '/' dir.chars ++ [k.objectName.toList] := by
    have hdirne : dir.chars ≠ [] := by
      intro h
      rw [h] at hdir
      obtain ⟨rfl, -⟩ := List.cons.inj hdir
      cases hlast
    obtain ⟨kept, idle, -, hidle, hkept, happend⟩ :=
      Path.pieces_chars_append hdirne k.objectName.toList
    rw [child_objectName, happend, Text.pieces_of_not_mem k.slash_not_mem_objectName, hkept]
    rcases hidle with rfl | rfl
    · rw [List.append_nil]
    · -- An empty piece at the end would be idle.
      rw [hkept, List.reverse_append] at hdir
      obtain ⟨rfl, -⟩ := List.cons.inj hdir
      cases hlast
  have hkept (name : List Char) (hidle : Path.isIdle name = false) (rest : List (List Char)) :
      (name :: rest).dropWhile Path.isIdle = name :: rest :=
    List.dropWhile_cons_of_neg (by simp [hidle])
  rw [Path.above?, hpieces, List.reverse_append, List.reverse_singleton, List.singleton_append,
    hkept _ hname]
  dsimp only
  rw [hdir, hkept _ hlast]
  dsimp only
  rw [← hdir, List.reverse_reverse, Text.intercalate_pieces]

/-- Objects of different names are at different places. -/
theorem objectName_of_same_child {dir : Path}
    (h : (dir.child a.objectName).Same (dir.child b.objectName)) : a.objectName = b.objectName := by
  rw [Path.Same, components_child, components_child] at h
  have hname := List.append_cancel_left h
  exact String.toList_injective (Component.normal.inj (List.cons.inj hname).1)

end ObjectKey

namespace Desk

variable {d d' : Desk} {run : Runner} {m : Machine} {layout : Layout} {toolchain : Toolchain}
  {config : PoolConfig}

/-! ### Where the table puts objects -/

theorem Reachable.compileTask_eq (h : Reachable run m layout toolchain config d) :
    d.build.compileTask = (Desk.start run m layout toolchain config).build.compileTask := by
  induction h with
  | start => rfl
  | step _ h ih => exact h.compileTask_eq.trans ih

/-- An entry of the table names a task that puts the object where the entry's key says. -/
theorem Reachable.exists_of_entry (h : Reachable run m layout toolchain config d)
    {e : ObjectKey × PathRef} (he : e ∈ d.build.table.entries) :
    ∃ id t, e.2 = .task id ∧ d.build.pool.tasks[id]? = some t ∧
      t.spec.output = some (layout.objectDir.child e.1.objectName) := by
  obtain ⟨kept, hlaunched, hentries⟩ := h.consistent.launched
  rw [hentries] at he
  obtain ⟨⟨key, id⟩, hmem, rfl⟩ := List.mem_map.1 he
  obtain ⟨t, ht, hl, -⟩ :=
    h.sure.launched key id (hlaunched ▸ List.mem_append_left _ hmem)
  refine ⟨id, t, rfl, ht, ?_⟩
  rw [hl.spec, h.compileTask_eq, Build.compileTask_spec]
  rfl

/-- Different requests never share an object file.  The text that is digested tells the source as it is
written and the list of flags, and so do its bytes; if two digests do not collide, equal names of
objects mean equal keys; and any two entries of a table have tasks that compile to different paths. -/
theorem Reachable.objects_apart (h : Reachable run m layout toolchain config d) :
    (∀ a b : ObjectKey, Text.encode a.text = Text.encode b.text ↔
      a.source.text = b.source.text ∧ a.flags = b.flags) ∧
    (∀ a b : ObjectKey, ¬ a.Collide b → a.objectName = b.objectName → a = b) ∧
    (d.build.table.entries.Pairwise fun e e' => ¬ e.1.Collide e'.1 →
      ∃ i j t u p q, e.2 = .task i ∧ e'.2 = .task j ∧
        d.build.pool.tasks[i]? = some t ∧ d.build.pool.tasks[j]? = some u ∧
        t.spec.output = some p ∧ u.spec.output = some q ∧ ¬ p.Same q) ∧
    d.Serves := by
  refine ⟨fun a b => ⟨fun htext => ?_, fun ⟨hsource, hflags⟩ => ?_⟩,
    fun a b => ObjectKey.eq_of_objectName, ?_, d.serves⟩
  · rw [ObjectKey.text_injective (Text.encode_injective htext)]
    exact ⟨rfl, rfl⟩
  · rw [ObjectKey.text, ObjectKey.text, hsource, hflags]
  · refine h.consistent.distinct.imp_of_mem fun he he' hdistinct hcollide => ?_
    obtain ⟨i, t, hi, ht, hp⟩ := h.exists_of_entry he
    obtain ⟨j, u, hj, hu, hq⟩ := h.exists_of_entry he'
    refine ⟨i, j, t, u, _, _, hi, hj, ht, hu, hp, hq, fun hsame => hdistinct ?_⟩
    rw [ObjectKey.eq_of_objectName hcollide (ObjectKey.objectName_of_same_child hsame)]
    exact .refl _

/-- Requests for two sources. -/
theorem exists_two_objects : ∃ d, Runs emptyDesk d ∧
    d.build.table.entries = [(⟨⟨['/', 'a']⟩, []⟩, .task 0), (⟨⟨['/', 'b']⟩, []⟩, .task 1)] := by
  have missed : Runs emptyDesk _ :=
    Relation.ReflTransGen.single (.miss .outside ⟨['/', 'a']⟩ [] rfl rfl)
  have prepared := missed.step (.prepare rfl rfl)
  have listed := prepared.step (.enlist rfl)
  have spawned := listed.step (.spawn rfl (.inl rfl))
  have submitted := spawned.step (.track rfl rfl)
  have inserted := submitted.step (.insert rfl)
  have missed := inserted.step (.miss .outside ⟨['/', 'b']⟩ [] rfl rfl)
  have prepared := missed.step (.prepare rfl rfl)
  have listed := prepared.step (.enlist rfl)
  have spawned := listed.step (.spawn rfl (.inl rfl))
  have submitted := spawned.step (.track rfl rfl)
  exact ⟨_, submitted.step (.insert rfl), rfl⟩

theorem objects_apart_two_objects : ∃ d, Runs emptyDesk d ∧
    ∃ t u p q, d.build.pool.tasks[0]? = some t ∧ d.build.pool.tasks[1]? = some u ∧
      t.spec.output = some p ∧ u.spec.output = some q ∧ ¬ p.Same q := by
  obtain ⟨d, hruns, hentries⟩ := exists_two_objects
  obtain ⟨-, -, happart, -⟩ := (Reachable.start.runs hruns).objects_apart
  rw [hentries] at happart
  have hcollide : ¬ ObjectKey.Collide ⟨⟨['/', 'a']⟩, []⟩ ⟨⟨['/', 'b']⟩, []⟩ := by
    have hhash : ObjectKey.hash ⟨⟨['/', 'a']⟩, []⟩ ≠ ObjectKey.hash ⟨⟨['/', 'b']⟩, []⟩ := by
      decide +kernel
    exact fun h => hhash h.2
  obtain ⟨i, j, t, u, p, q, hi, hj, ht, hu, hp, hq, hsame⟩ :=
    (List.pairwise_cons.1 happart).1 _ List.mem_cons_self hcollide
  cases hi
  cases hj
  exact ⟨d, hruns, t, u, p, q, ht, hu, hp, hq, hsame⟩

end Desk

end NativeBuild
