import Mathlib.Data.List.Chain
import NativeBuild.Proofs.Path.Absolute

/-!
The absolute form of a path is a normal form of its text.  It names its steps from the root, without
dots that are no steps and with single slashes between them, and taking it once more changes
nothing.
-/

namespace NativeBuild.Path

variable {p here : Path} {piece : List Char} {steps : List (List Char)} {c : Component}

/-- Whether a path has no dot for a piece, and two slashes side by side in front only. -/
structure IsTidy (p : Path) : Prop where
  dot : ['.'] ∉ Text.pieces '/' p.chars
  apart : p.chars.tail.IsChain fun a b => ¬ (a = '/' ∧ b = '/')

namespace IsTidy

theorem append_of_dot (h : p.IsTidy) (hp : p.chars ≠ []) (hslash : '/' ∉ piece)
    (hdot : piece ≠ ['.']) : (p.append piece).IsTidy := by
  constructor
  · obtain ⟨kept, idle, -, -, hpieces, happend⟩ := pieces_chars_append hp piece
    rw [happend, Text.pieces_of_not_mem hslash, List.mem_append, List.mem_singleton]
    rintro (hmem | hmem)
    · exact h.dot (hpieces ▸ List.mem_append_left idle hmem)
    · exact hdot hmem.symm
  · have hchain : piece.IsChain fun a b => ¬ (a = '/' ∧ b = '/') := by
      rw [List.isChain_iff_forall_rel_of_append_cons_cons]
      rintro a b before after rfl ⟨rfl, -⟩
      exact hslash (by simp)
    unfold append
    split
    · rw [List.tail_append_of_ne_nil hp]
      refine h.apart.append hchain fun a _ b hb hab => hslash ?_
      rw [← hab.2]
      exact List.mem_of_mem_head? hb
    · next hend =>
      rw [List.tail_append_of_ne_nil hp]
      refine h.apart.append ?_ fun a ha b _ hab => hend ?_
      · refine List.isChain_cons.2 ⟨fun b hb hab => hslash ?_, hchain⟩
        rw [← hab.2]
        exact List.mem_of_mem_head? hb
      · -- The last character of the path is no slash, for a slash was put after it.
        obtain ⟨rest, hrest⟩ := List.getLast?_eq_some_iff.1 ha
        obtain ⟨first, others, hchars⟩ := List.exists_cons_of_ne_nil hp
        rw [hchars, List.tail_cons] at hrest
        rw [endsInSlash, hchars, hrest, hab.1, ← List.cons_append, List.getLast?_concat]
        simp

theorem foldl (h : p.IsTidy) (hp : p.chars ≠ []) (hsteps : ∀ s ∈ steps, IsStep s) :
    (steps.foldl Path.append p).IsTidy := by
  induction steps generalizing p with
  | nil => exact h
  | cons s steps ih =>
    have hs := hsteps s List.mem_cons_self
    refine ih (h.append_of_dot hp hs.slash ?_) (append_ne_nil hp s) fun s hs =>
      hsteps s (List.mem_cons_of_mem _ hs)
    rintro rfl
    exact nomatch hs.idle

theorem form {double slash : Bool} (hsteps : ∀ s ∈ steps, IsStep s) :
    (Path.form double steps slash).IsTidy := by
  have hroot : (⟨if double then ['/', '/'] else ['/']⟩ : Path).IsTidy := by
    cases double
    · exact ⟨by decide, .nil⟩
    · exact ⟨by decide, .singleton _⟩
  have hfull := hroot.foldl root_ne_nil hsteps
  unfold Path.form
  dsimp only
  split
  · exact hfull.append_of_dot (foldl_append_ne_nil root_ne_nil) List.not_mem_nil
      (List.cons_ne_nil _ _).symm
  · exact hfull

/-- Slashes stand side by side in front only. -/
theorem before_eq_nil (h : p.IsTidy) {before after : List Char}
    (hchars : p.chars = before ++ '/' :: '/' :: after) : before = [] := by
  cases before with
  | nil => rfl
  | cons first before =>
    have happart := h.apart
    rw [hchars] at happart
    exact absurd ⟨rfl, rfl⟩ (List.isChain_iff_forall_rel_of_append_cons_cons.1 happart rfl)

end IsTidy

/-! ### Components -/

theorem ne_current_of_mem (h : c ∈ (Text.pieces '/' p.chars).filterMap Component.ofPiece?) :
    c ≠ .current := by
  obtain ⟨piece, -, hpiece⟩ := List.mem_filterMap.1 h
  rintro rfl
  unfold Component.ofPiece? at hpiece
  split at hpiece <;> exact nomatch hpiece

theorem ofPiece?_of_isIdle (h : isIdle piece = true) : Component.ofPiece? piece = none := by
  rcases Bool.or_eq_true_iff.1 h with hnil | hdot
  · rw [List.isEmpty_iff.1 hnil]
    rfl
  · rw [beq_iff_eq.1 hdot]
    rfl

/-- Pieces that are no steps give no components. -/
theorem filterMap_steps (p : Path) :
    p.steps.filterMap Component.ofPiece? =
      (Text.pieces '/' p.chars).filterMap Component.ofPiece? := by
  rw [steps, List.filterMap_filter]
  refine List.filterMap_congr fun piece _ => ?_
  cases hidle : isIdle piece with
  | true => exact (ofPiece?_of_isIdle hidle).symm
  | false => rfl

/-- The components of a path without the dot that it may start with. -/
theorem filter_components (p : Path) :
    p.components.filter (· ≠ .current) =
      (if p.isAbsolute then [.root] else []) ++ p.steps.filterMap Component.ofPiece? := by
  have hkept : ((Text.pieces '/' p.chars).filterMap Component.ofPiece?).filter (· ≠ .current) =
      (Text.pieces '/' p.chars).filterMap Component.ofPiece? :=
    List.filter_eq_self.2 fun c hc => by simpa using ne_current_of_mem hc
  rw [filterMap_steps, components_eq, List.filter_append, hkept]
  congr 1
  unfold lead
  split
  · rfl
  · split <;> rfl

theorem IsClean.chars_ne_nil (h : here.IsClean) : here.chars ≠ [] := by
  rw [h]
  exact foldl_append_ne_nil (List.cons_ne_nil _ _)

theorem IsClean.isAbsolute (h : here.IsClean) : here.isAbsolute = true := by
  rw [h]
  exact isAbsolute_foldl_append rfl _

theorem IsClean.isDoubled (h : here.IsClean) : here.isDoubled = false := by
  rw [h, isDoubled_foldl (List.cons_ne_nil _ _) fun _ => isStep_of_mem_steps]
  rfl

theorem anchor_eq_here (h : p.isAbsolute = false) : p.anchor here = here := by
  unfold anchor
  split
  · next hchars => simp [Path.isAbsolute, hchars] at h
  · next hchars => simp [Path.isAbsolute, hchars] at h
  · next hchars => simp [Path.isAbsolute, hchars] at h
  · rfl

theorem anchor_ne_nil (p : Path) (hhere : here.IsClean) : (p.anchor here).chars ≠ [] := by
  cases h : p.isAbsolute with
  | true => exact Path.chars_ne_nil (anchor_of_isAbsolute h here here).1
  | false =>
    rw [anchor_eq_here h]
    exact hhere.chars_ne_nil

theorem components_anchor (p : Path) (here : Path) :
    (p.anchor here).components = if p.isAbsolute then [.root] else here.components := by
  cases h : p.isAbsolute with
  | true =>
    obtain ⟨rest, rfl⟩ := exists_of_isAbsolute h
    unfold anchor
    split
    · rfl
    · rfl
    · rfl
    · next hslash => exact absurd rfl (hslash rest)
  | false => simp [anchor_eq_here h]

/-- A path that is not empty ends up below its anchor. -/
theorem absolute_cases (hp : p.chars ≠ []) :
    p.absolute here = p.steps.foldl append (p.anchor here) ∧ p.endsInSlash = false ∨
    p.absolute here = (p.steps.foldl append (p.anchor here)).withSlash ∧ p.endsInSlash = true := by
  rw [absolute, if_neg (by simpa using hp)]
  dsimp only
  split
  · exact .inr ⟨rfl, ‹_›⟩
  · exact .inl ⟨rfl, Bool.not_eq_true _ ▸ ‹_›⟩

theorem components_absolute (hp : p.chars ≠ []) (hhere : here.IsClean) :
    (p.absolute here).components =
      (if p.isAbsolute then [] else here.components) ++ p.components.filter (· ≠ .current) := by
  have hfull := components_foldl (anchor_ne_nil p hhere) fun _ => isStep_of_mem_steps (p := p)
  have hcomponents : (p.absolute here).components =
      (p.anchor here).components ++ p.steps.filterMap Component.ofPiece? := by
    rcases absolute_cases hp with ⟨habs, -⟩ | ⟨habs, -⟩
    · rw [habs, hfull]
    · rw [habs, components_withSlash (foldl_append_ne_nil (anchor_ne_nil p hhere)), hfull]
  rw [hcomponents, components_anchor, filter_components]
  cases p.isAbsolute <;> rfl

/-! ### Slashes -/

theorem isDoubled_anchor (p : Path) (hhere : here.IsClean) :
    (p.anchor here).isDoubled = true ↔
      ['/', '/'] <+: p.chars ∧ ¬ ['/', '/', '/'] <+: p.chars := by
  unfold anchor
  split
  · next hchars => simp [isDoubled, hchars]
  · next rest hthird hchars =>
    cases rest with
    | nil => simp [isDoubled, hchars]
    | cons third rest =>
      have hne : '/' ≠ third := fun h => hthird rest (h ▸ rfl)
      simp [isDoubled, hchars, hne]
  · next rest _ hsecond hchars =>
    cases rest with
    | nil => simp [isDoubled, hchars]
    | cons second rest =>
      have hne : '/' ≠ second := fun h => hsecond rest (h ▸ rfl)
      simp [isDoubled, hchars, hne]
  · next hfirst =>
    rw [hhere.isDoubled]
    simp only [Bool.false_eq_true, false_iff, not_and_or]
    left
    rintro ⟨rest, hrest⟩
    exact hfirst _ hrest.symm

/-- Two slashes stay in front when no third follows them. -/
theorem isDoubled_absolute (hp : p.chars ≠ []) (hhere : here.IsClean) :
    (p.absolute here).isDoubled = (p.anchor here).isDoubled := by
  have hfull := isDoubled_foldl (anchor_ne_nil p hhere) fun _ => isStep_of_mem_steps (p := p)
  rcases absolute_cases hp with ⟨habs, -⟩ | ⟨habs, -⟩
  · rw [habs, hfull]
  · rw [habs, withSlash,
      isDoubled_append (foldl_append_ne_nil (anchor_ne_nil p hhere)) List.not_mem_nil, hfull]

theorem endsInSlash_absolute (hp : p.chars ≠ []) (hhere : here.IsClean)
    (hroot : (p.absolute here).components ≠ [.root]) :
    (p.absolute here).endsInSlash = p.endsInSlash := by
  obtain ⟨double, steps, hsteps, hform⟩ := exists_form hp hhere
  rw [hform] at hroot ⊢
  rw [components_form hsteps] at hroot
  refine endsInSlash_form hsteps ?_
  rintro rfl
  exact hroot rfl

/-- The root alone is written with slashes only. -/
theorem endsInSlash_of_root (hp : p.chars ≠ []) (hhere : here.IsClean)
    (hroot : (p.absolute here).components = [.root]) : (p.absolute here).endsInSlash = true := by
  obtain ⟨double, steps, hsteps, hform⟩ := exists_form hp hhere
  rw [hform, components_form hsteps] at hroot
  obtain rfl : steps = [] := by
    rw [← filterMap_written hsteps, (List.cons.inj hroot).2]
    rfl
  rw [hform, form_nil]
  cases double <;> rfl

/-! ### The normal form -/

/-- Whether `q` is the lexical normal form of `p` as seen from `here`: an absolute path with the
steps of `here`, if `p` is relative, and then those of `p`, where every `..` is kept.  Its text has
no dot for a piece, and single slashes but for two in front where `p` has exactly two; and it ends
in a slash where `p` does, unless it is the root alone. -/
structure IsNormalForm (p here q : Path) : Prop where
  isAbsolute : q.isAbsolute = true
  components : q.components =
    (if p.isAbsolute then [] else here.components) ++ p.components.filter (· ≠ .current)
  dot : ['.'] ∉ Text.pieces '/' q.chars
  apart : ∀ before after, q.chars = before ++ '/' :: '/' :: after → before = []
  doubled : ['/', '/'] <+: q.chars ↔ ['/', '/'] <+: p.chars ∧ ¬ ['/', '/', '/'] <+: p.chars
  slash : q.components ≠ [.root] → q.endsInSlash = p.endsInSlash

theorem isDoubled_iff : p.isDoubled = true ↔ ['/', '/'] <+: p.chars := by
  rw [isDoubled, beq_iff_eq, List.prefix_iff_eq_take]
  exact eq_comm

/-- Below a clean directory every path that is not empty has an absolute form from the root. -/
theorem isAbsolute_absolute_of_clean (hp : p.chars ≠ []) (hhere : here.IsClean) :
    (p.absolute here).isAbsolute = true := by
  have hanchor : (p.anchor here).isAbsolute = true := by
    cases h : p.isAbsolute with
    | true => exact (anchor_of_isAbsolute h here here).1
    | false =>
      rw [anchor_eq_here h]
      exact hhere.isAbsolute
  have hfull := isAbsolute_foldl_append hanchor p.steps
  rcases absolute_cases hp with ⟨habs, -⟩ | ⟨habs, -⟩
  · rw [habs, hfull]
  · rw [habs, withSlash, isAbsolute_append_of hfull]

theorem isNormalForm_absolute (hp : p.chars ≠ []) (hhere : here.IsClean) :
    p.IsNormalForm here (p.absolute here) := by
  obtain ⟨double, steps, hsteps, hform⟩ := exists_form hp hhere
  have htidy : (p.absolute here).IsTidy := by
    rw [hform]
    exact .form hsteps
  exact {
    isAbsolute := isAbsolute_absolute_of_clean hp hhere
    components := components_absolute hp hhere
    dot := htidy.dot
    apart := fun _ _ => htidy.before_eq_nil
    doubled := by
      rw [← isDoubled_iff, isDoubled_absolute hp hhere]
      exact isDoubled_anchor p hhere
    slash := endsInSlash_absolute hp hhere }

/-- A path that starts at the root is the same path as its absolute form. -/
theorem same_absolute (h : p.isAbsolute = true) (here : Path) : (p.absolute here).Same p := by
  have hroot : IsClean ⟨['/']⟩ := rfl
  have hkept : p.components.filter (· ≠ .current) = p.components := by
    obtain ⟨rest, rfl⟩ := exists_of_isAbsolute h
    rw [filter_components, filterMap_steps, components_eq, lead]
    rfl
  rw [absolute_elsewhere h here ⟨['/']⟩, Same, components_absolute (chars_ne_nil h) hroot, if_pos h,
    hkept, List.nil_append]

/-- An absolute form is its own absolute form. -/
theorem absolute_absolute (p : Path) (hhere : here.IsClean) :
    (p.absolute here).absolute here = p.absolute here := by
  by_cases hp : p.chars = []
  · rw [absolute_of_nil hp, absolute_of_nil hp]
  have h := isNormalForm_absolute hp hhere
  have hq := chars_ne_nil h.isAbsolute
  have hsame := same_absolute h.isAbsolute here
  refine (absolute_eq_iff hhere hsame).2 ⟨?_, ?_⟩
  · by_cases hroot : (p.absolute here).components = [.root]
    · rw [endsInSlash_of_root hp hhere hroot, endsInSlash_of_root hq hhere (hsame.trans hroot)]
    · exact endsInSlash_absolute hq hhere (hsame ▸ hroot)
  · rw [Bool.eq_iff_iff, isDoubled_absolute hq hhere, isDoubled_anchor _ hhere, isDoubled_iff,
      and_iff_left_iff_imp]
    rintro - ⟨rest, hrest⟩
    exact List.cons_ne_nil _ _ (h.apart ['/'] rest hrest.symm)

/-- What is seen from a directory is the same path as its absolute form. -/
theorem same_absolute_resolveAgainst (p base : Path) (hhere : here.IsClean) :
    ((p.resolveAgainst here base).absolute here).Same (p.resolveAgainst here base) := by
  unfold resolveAgainst
  split
  · exact same_absolute ‹_› here
  · rw [absolute_absolute _ hhere]
    rfl

end NativeBuild.Path
