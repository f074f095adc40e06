import NativeBuild.Proofs.Machine.Program
import NativeBuild.Proofs.Manifest.Tools
import NativeBuild.Proofs.Path.Normal

/-!
The compilers that a manifest names.  A bare name is looked up where programs are looked up, and a path
is seen from a directory that is absolute; so it does not matter from where a build is started.  One kind
of path is taken for a bare name: a single step that has nothing behind it but separators and dots.
-/

namespace NativeBuild

namespace Path

variable {p base : Path} {piece step rest : List Char}

/-! ### Paths of one step -/

/-- Whether a path is a single step that has separators behind it, and nothing else but dots. -/
def IsTrailed (p : Path) : Prop :=
  ∃ step rest, p.chars = step ++ '/' :: rest ∧ step ≠ [] ∧ '/' ∉ step ∧
    ∀ piece ∈ Text.pieces '/' rest, isIdle piece = true

theorem ofPiece?_eq_none_iff : Component.ofPiece? piece = none ↔ isIdle piece = true := by
  refine ⟨fun h => ?_, ofPiece?_of_isIdle⟩
  unfold Component.ofPiece? at h
  split at h
  · rfl
  · rfl
  · cases h
  · cases h

/-- A relative path with a separator has a step before the first one. -/
theorem exists_step (hrelative : p.isAbsolute = false) (hbare : ¬ p.IsBare) :
    ∃ step rest, p.chars = step ++ '/' :: rest ∧ step ≠ [] ∧ '/' ∉ step := by
  obtain ⟨step, rest, hchars, hslash⟩ :=
    List.eq_append_cons_of_mem (Decidable.not_not.1 hbare)
  refine ⟨step, rest, hchars, ?_, hslash⟩
  rintro rfl
  have habsolute : p.isAbsolute = true := by
    rw [isAbsolute, hchars]
    rfl
  exact Bool.false_ne_true (hrelative.symm.trans habsolute)

theorem isAbsolute_of_step (hchars : p.chars = step ++ '/' :: rest) (hstep : step ≠ [])
    (hslash : '/' ∉ step) : p.isAbsolute = false := by
  obtain ⟨first, others, rfl⟩ := List.exists_cons_of_ne_nil hstep
  rw [isAbsolute, hchars, beq_eq_false_iff_ne]
  exact fun h => hslash (Option.some.inj h ▸ List.mem_cons_self)

/-- The step before the first separator is one component, a dot too, for it stands in front. -/
theorem length_components_of_step (hchars : p.chars = step ++ '/' :: rest) (hstep : step ≠ [])
    (hslash : '/' ∉ step) : p.components.length =
      1 + ((Text.pieces '/' rest).filterMap Component.ofPiece?).length := by
  have hpieces : Text.pieces '/' p.chars = step :: Text.pieces '/' rest := by
    rw [hchars, Text.pieces_append, Text.pieces_of_not_mem hslash]
    rfl
  rw [components_eq, lead, isAbsolute_of_step hchars hstep hslash, hpieces]
  by_cases hdot : step = ['.']
  · subst hdot
    simp [Component.ofPiece?, Nat.add_comm]
  · have hsome : isIdle step = false := by simp [isIdle, hstep, hdot]
    obtain ⟨c, hc⟩ : ∃ c, Component.ofPiece? step = some c := by
      rw [← Option.ne_none_iff_exists', Ne, ofPiece?_eq_none_iff, hsome]
      exact Bool.false_ne_true
    simp [hc, hdot, Nat.add_comm]

theorem length_components_le_of_isBare (h : p.IsBare) : p.components.length ≤ 1 := by
  have hrelative : p.isAbsolute = false := by
    rw [isAbsolute, beq_eq_false_iff_ne]
    exact fun hhead => h (List.mem_of_mem_head? hhead)
  rw [components_eq, lead, hrelative, Text.pieces_of_not_mem h]
  by_cases hdot : p.chars = ['.']
  · simp [hdot, Component.ofPiece?]
  · simp only [hdot, List.head?_cons, Option.some.injEq, if_false, Bool.false_eq_true,
      List.nil_append]
    exact (List.length_filterMap_le _ _).trans (by simp)

/-- A relative path with a separator has more than one component unless it is trailed. -/
theorem one_lt_components_iff (hrelative : p.isAbsolute = false) (hbare : ¬ p.IsBare) :
    1 < p.components.length ↔ ¬ p.IsTrailed := by
  obtain ⟨step, rest, hchars, hstep, hslash⟩ := exists_step hrelative hbare
  have hlength := length_components_of_step hchars hstep hslash
  have hidle : (Text.pieces '/' rest).filterMap Component.ofPiece? = [] ↔
      ∀ piece ∈ Text.pieces '/' rest, isIdle piece = true := by
    simp only [List.filterMap_eq_nil_iff, ofPiece?_eq_none_iff]
  rw [hlength, ← not_le, not_iff_not]
  refine ⟨fun h => ⟨step, rest, hchars, hstep, hslash, hidle.1 (List.length_eq_zero_iff.1 (by omega))⟩,
    fun ⟨step', rest', hchars', hstep', hslash', hall⟩ => ?_⟩
  rw [← hlength, length_components_of_step hchars' hstep' hslash',
    List.filterMap_eq_nil_iff.2 fun piece hp => ofPiece?_of_isIdle (hall piece hp)]
  rfl

theorem IsTrailed.isAbsolute_eq (h : p.IsTrailed) : p.isAbsolute = false := by
  obtain ⟨step, rest, hchars, hstep, hslash, -⟩ := h
  exact isAbsolute_of_step hchars hstep hslash

theorem IsTrailed.not_isBare (h : p.IsTrailed) : ¬ p.IsBare := by
  obtain ⟨step, rest, hchars, -⟩ := h
  exact fun hbare => hbare (by simp [hchars])

/-- What is seen from an absolute directory has the components of the directory, and then its own. -/
theorem components_resolveAgainst (hbase : base.isAbsolute = true) (hrelative : p.isAbsolute = false)
    (here : Path) : (p.resolveAgainst here base).components =
      base.components ++ p.components.filter (· ≠ .current) := by
  have hjoin : base.join p = base.append p.chars := by
    unfold join
    rw [if_neg (by simp [hrelative])]
  rw [resolveAgainst, if_neg (by simp [hrelative]),
    show ((base.join p).absolute here).components = (base.join p).components from
      same_absolute (isAbsolute_join hbase) here,
    hjoin, components_append_of_ne_nil (chars_ne_nil hbase), filter_components, filterMap_steps,
    if_neg (by simp [hrelative]), List.nil_append]

end Path

namespace Manifest

open Tools (programPath)

variable {here base p q : Path} {named : Option Path} {old new : Path}

/-! ### Programs -/

/-- Whether `q` is the program that a manifest means by `p`: the bare name itself; or an absolute path,
which is `p` itself or, if that is relative, leads on from `base`. -/
structure IsRooted (here base p q : Path) : Prop where
  bare : p.IsBare → q = p
  isAbsolute : ¬ p.IsBare → q.isAbsolute = true
  absolute : p.isAbsolute = true → q = p
  below : ¬ p.IsBare → p.isAbsolute = false →
    q = p.resolveAgainst here base ∧
    q.components = base.components ++ p.components.filter (· ≠ .current)

theorem programPath_of_isAbsolute (h : p.isAbsolute = true) : programPath here base p = p := by
  unfold programPath
  split
  · rw [Path.resolveAgainst, if_pos h]
  · rfl

theorem programPath_of_isBare (h : p.IsBare) : programPath here base p = p := by
  rw [programPath, if_neg (Nat.not_lt.2 (Path.length_components_le_of_isBare h))]

theorem programPath_of_isTrailed (h : p.IsTrailed) : programPath here base p = p := by
  rw [programPath, if_neg fun hlt =>
    (Path.one_lt_components_iff h.isAbsolute_eq h.not_isBare).1 hlt h]

theorem programPath_of_relative (hrelative : p.isAbsolute = false) (hbare : ¬ p.IsBare)
    (h : ¬ p.IsTrailed) : programPath here base p = p.resolveAgainst here base := by
  rw [programPath, if_pos ((Path.one_lt_components_iff hrelative hbare).2 h)]

/-- A program is what the manifest means by it unless its path is trailed; then it stays relative. -/
theorem isRooted_programPath_iff (hbase : base.isAbsolute = true) (here p : Path) :
    IsRooted here base p (programPath here base p) ↔ ¬ p.IsTrailed := by
  constructor
  · intro h htrailed
    have habsolute := h.isAbsolute htrailed.not_isBare
    rw [programPath_of_isTrailed htrailed, htrailed.isAbsolute_eq] at habsolute
    exact nomatch habsolute
  · intro h
    cases hp : p.isAbsolute with
    | true =>
      rw [programPath_of_isAbsolute hp]
      exact ⟨fun _ => rfl, fun _ => hp, fun _ => rfl, fun _ hrelative => nomatch hp ▸ hrelative⟩
    | false =>
      by_cases hbare : p.IsBare
      · rw [programPath_of_isBare hbare]
        exact ⟨fun _ => rfl, fun hn => absurd hbare hn, fun _ => rfl, fun hn => absurd hbare hn⟩
      · rw [programPath_of_relative hp hbare h]
        exact ⟨fun hb => absurd hb hbare, fun _ => Path.isAbsolute_resolveAgainst hbase,
          fun habs => (nomatch hp ▸ habs),
          fun _ _ => ⟨rfl, Path.components_resolveAgainst hbase hp here⟩⟩

theorem IsRooted.isFixed (h : IsRooted here base p q) {search : Shell.Raw}
    (hsearch : p.IsBare → ∀ dir ∈ Shell.searchedDirectories search, dir.head? = some '/') :
    Shell.IsFixed search q := by
  by_cases hbare : p.IsBare
  · exact .inr ⟨h.bare hbare ▸ hbare, hsearch hbare⟩
  · exact .inl (h.isAbsolute hbare)

/-! ### Compilers -/

/-- What becomes of a compiler `old` in whose place a manifest may name another. -/
structure Replaced (here base : Path) (named : Option Path) (old new : Path) : Prop where
  kept : named = none → new = old
  rooted : ∀ p, named = some p → (IsRooted here base p new ↔ ¬ p.IsTrailed)
  trailed : ∀ p, named = some p → p.IsTrailed → new = p
  /-- From every directory the same program is run for it. -/
  alike : ∀ p, named = some p → ¬ p.IsTrailed → ∀ m m' : Machine, m.Moved m' →
    (p.IsBare → ∀ dir ∈ Shell.searchedDirectories m.searched, dir.head? = some '/') →
    ∀ args, Machine.StartsAlike m m' ⟨new, args⟩

theorem replaced_getD (hbase : base.isAbsolute = true) (here : Path) (named : Option Path)
    (old : Path) : Replaced here base named old ((named.map (programPath here base)).getD old) := by
  cases named with
  | none => exact ⟨fun _ => rfl, nofun, nofun, nofun⟩
  | some p =>
    have hrooted := isRooted_programPath_iff hbase here p
    refine ⟨nofun, ?_, ?_, ?_⟩
    · rintro _ ⟨⟩
      exact hrooted
    · rintro _ ⟨⟩ htrailed
      exact programPath_of_isTrailed htrailed
    · rintro _ ⟨⟩ htrailed m m' hmoved hsearch args
      exact hmoved.startsAlike ((hrooted.2 htrailed).isFixed hsearch)

/-- What a manifest adds to a toolchain, seen from an absolute directory.  A compiler that it names is
the bare name, or an absolute path, exactly unless the name is a single step with separators behind it,
which is left as it is; and then the same program is run for it from every directory, a bare name as long
as the directories that are searched for programs are absolute.  Compilers that it does not name stay, and so
does the system; the base flags are followed by the flags of the manifest and by its macros in ascending
order.  From everywhere else the toolchain is the same. -/
theorem Tools.apply_rooted (hbase : base.isAbsolute = true) (tools : Tools) (t : Toolchain)
    (here : Path) :
    let t' := tools.apply here base t
    Replaced here base tools.cxx t.cxx t'.cxx ∧ Replaced here base tools.cc t.cc t'.cc ∧
    t'.platform = t.platform ∧
    t'.baseFlags = t.baseFlags ++ tools.flags ++
      tools.defines.entries.map (fun e => Toolchain.defineFlag e.1 e.2) ∧
    (tools.defines.entries.map Prod.fst).Pairwise (· < ·) ∧
    ∀ here', tools.apply here' base t = t' := by
  intro t'
  refine ⟨?_, ?_, ?_, ?_, List.pairwise_map.2 tools.defines.sorted,
    fun here' => tools.apply_elsewhere hbase t here' here⟩
  · show Replaced here base tools.cxx t.cxx (tools.apply here base t).cxx
    rw [Tools.apply_eq]
    exact replaced_getD hbase here tools.cxx t.cxx
  · show Replaced here base tools.cc t.cc (tools.apply here base t).cc
    rw [Tools.apply_eq]
    exact replaced_getD hbase here tools.cc t.cc
  · show (tools.apply here base t).platform = t.platform
    rw [Tools.apply_eq]
  · show (tools.apply here base t).baseFlags = _
    rw [Tools.apply_eq]

/-! ### A compiler with a separator behind it -/

namespace Trailing

/-- A manifest that names one compiler with a separator behind its name, another one below the root of
the project, and something to add to the flags. -/
def tools : Tools where
  cxx := some ⟨"tool/".toList⟩
  cc := some ⟨"./bin//cc".toList⟩
  flags := ["-O2"]
  defines := .ofList [("B", none), ("A", some "1")]

def toolchain : Toolchain :=
  ⟨⟨"cc".toList⟩, ⟨"c++".toList⟩, .linux, ["-Wall"]⟩

/-- A machine with two directories, of which one has a directory with the name of the compiler. -/
def machine (here : String) : Machine where
  files := { entries := [(["v".toList], .directory), (["v".toList, "tool".toList], .directory),
    (["w".toList], .directory)] }
  here := ⟨here.toList⟩
  env := []

theorem moved_machine (here here' : String) : (machine here).Moved (machine here') where
  files := rfl
  env := rfl
  free e he := by
    simp only [machine, List.mem_cons, List.not_mem_nil, or_false] at he
    rcases he with rfl | rfl | rfl <;> simp

theorem absolute_searched :
    ∀ dir ∈ Shell.searchedDirectories (machine "/v").searched, dir.head? = some '/' := by
  decide

theorem found_v : (machine "/v").programFile (tools.apply ⟨"/v".toList⟩ ⟨"/p".toList⟩ toolchain).cxx =
    .ok (["v".toList, "tool".toList], .directory) := by
  rfl

theorem found_w : (machine "/w").programFile (tools.apply ⟨"/w".toList⟩ ⟨"/p".toList⟩ toolchain).cxx =
    .error .notFound := by
  rfl

end Trailing

/-- A compiler whose name has a separator behind it stays relative, and is looked for in the current
directory. -/
theorem exists_unrooted_compiler : ∃ (base p : Path) (tools : Tools) (t : Toolchain),
    base.isAbsolute = true ∧ tools.cxx = some p ∧ ¬ p.IsBare ∧
    (∀ here, (tools.apply here base t).cxx.isAbsolute = false) ∧
    ∃ m m' : Machine, m.Moved m' ∧
      (∀ dir ∈ Shell.searchedDirectories m.searched, dir.head? = some '/') ∧
      m.programFile (tools.apply m.here base t).cxx ≠
        m'.programFile (tools.apply m'.here base t).cxx := by
  refine ⟨⟨"/p".toList⟩, ⟨"tool/".toList⟩, Trailing.tools, Trailing.toolchain, rfl, rfl,
    fun h => h (by decide), fun here => ?_, Trailing.machine "/v", Trailing.machine "/w",
    Trailing.moved_machine _ _, Trailing.absolute_searched, fun h => ?_⟩
  · rw [Tools.apply_elsewhere rfl _ _ here ⟨"/p".toList⟩]
    decide
  · exact nomatch Trailing.found_v.symm.trans (h.trans Trailing.found_w)

/-- Of the two compilers of one manifest one is rooted and the other is left as it is. -/
theorem apply_rooted_trailing :
    let t' := Trailing.tools.apply ⟨"/w".toList⟩ ⟨"/p".toList⟩ Trailing.toolchain
    (⟨"/p".toList⟩ : Path).isAbsolute = true ∧
    t'.cc = ⟨"/p/bin/cc".toList⟩ ∧ t'.cxx = ⟨"tool/".toList⟩ ∧
    t'.baseFlags = ["-Wall", "-O2", "-DA=1", "-DB"] ∧
    Machine.StartsAlike (Trailing.machine "/v") (Trailing.machine "/w") ⟨t'.cc, ["-c"]⟩ := by
  obtain ⟨hcxx, hcc, -, hflags, -⟩ :=
    Tools.apply_rooted (rfl : (⟨"/p".toList⟩ : Path).isAbsolute = true) Trailing.tools
      Trailing.toolchain ⟨"/w".toList⟩
  have hsound : ¬ (⟨"./bin//cc".toList⟩ : Path).IsTrailed := fun h =>
    (Path.one_lt_components_iff h.isAbsolute_eq h.not_isBare).1 (by decide) h
  refine ⟨rfl, ?_, ?_, hflags, ?_⟩
  · exact (((hcc.rooted _ rfl).2 hsound).below (fun h => h (by decide)) rfl).1
  · exact hcxx.trailed _ rfl ⟨"tool".toList, [], rfl, by decide, by decide, by decide⟩
  · exact hcc.alike _ rfl hsound _ _ (Trailing.moved_machine _ _)
      (fun _ => Trailing.absolute_searched) _

end Manifest

end NativeBuild
