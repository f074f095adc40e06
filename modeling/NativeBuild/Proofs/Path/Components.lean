import NativeBuild.Path.Absolute

/-!
The components of a path that steps are put to, and the absolute forms of paths.  An absolute form is
written in one way, but for a second slash in front and a slash at the end.
-/

namespace NativeBuild

namespace Text

variable {mark c : Char} {s t : List Char}

theorem pieces_cons_mark : pieces mark (mark :: t) = [] :: pieces mark t := by
  rw [pieces, if_pos rfl]

/-- A character that is no mark belongs to the first piece. -/
theorem pieces_cons_of_ne (hc : c ≠ mark) : ∃ piece others,
    pieces mark s = piece :: others ∧ pieces mark (c :: s) = (c :: piece) :: others := by
  rw [pieces, if_neg hc]
  cases hs : pieces mark s with
  | nil => exact absurd hs (pieces_ne_nil mark s)
  | cons piece others => exact ⟨piece, others, rfl, rfl⟩

/-- A mark ends one piece and begins another. -/
theorem pieces_append : pieces mark (s ++ mark :: t) = pieces mark s ++ pieces mark t := by
  induction s with
  | nil => exact pieces_cons_mark
  | cons c s ih =>
    rw [List.cons_append]
    by_cases hc : c = mark
    · rw [hc, pieces_cons_mark, pieces_cons_mark, ih, List.cons_append]
    · obtain ⟨piece, others, hs, hcs⟩ := pieces_cons_of_ne (s := s) hc
      obtain ⟨piece', others', hs', hcs'⟩ := pieces_cons_of_ne (s := s ++ mark :: t) hc
      rw [hs', hs] at ih
      obtain ⟨rfl, rfl⟩ := List.cons.inj ih
      rw [hcs, hcs']
      rfl

theorem pieces_of_not_mem (h : mark ∉ s) : pieces mark s = [s] := by
  induction s with
  | nil => rfl
  | cons c s ih =>
    rw [List.mem_cons, not_or] at h
    rw [pieces, if_neg (Ne.symm h.1), ih h.2]

/-- The pieces of a text, with the marks between them, are the text. -/
theorem intercalate_pieces (mark : Char) (s : List Char) :
    [mark].intercalate (pieces mark s) = s := by
  induction s with
  | nil => rfl
  | cons c s ih =>
    by_cases hc : c = mark
    · obtain ⟨piece, others, hs⟩ := List.exists_cons_of_ne_nil (pieces_ne_nil mark s)
      rw [hc, pieces_cons_mark]
      rw [hs] at ih ⊢
      rw [List.intercalate_cons_cons, ih]
      rfl
    · obtain ⟨piece, others, hs, hcs⟩ := pieces_cons_of_ne (s := s) hc
      rw [hs] at ih
      rw [hcs, ← ih]
      cases others with
      | nil => simp [List.intercalate]
      | cons _ _ => simp [List.intercalate_cons_cons]

theorem not_mem_of_mem_pieces {piece : List Char} (h : piece ∈ pieces mark s) : mark ∉ piece := by
  induction s generalizing piece with
  | nil =>
    rw [List.mem_singleton.1 h]
    exact List.not_mem_nil
  | cons c s ih =>
    by_cases hc : c = mark
    · rw [hc, pieces_cons_mark] at h
      rcases List.mem_cons.1 h with rfl | h
      · exact List.not_mem_nil
      · exact ih h
    · obtain ⟨first, others, hs, hcs⟩ := pieces_cons_of_ne (s := s) hc
      rw [hcs] at h
      rw [hs] at ih
      rcases List.mem_cons.1 h with rfl | h
      · rw [List.mem_cons, not_or]
        exact ⟨Ne.symm hc, ih List.mem_cons_self⟩
      · exact ih (List.mem_cons_of_mem _ h)

end Text

/-- What a component is written as. -/
def Component.written : Component → List Char
  | .root => ['/']
  | .current => ['.']
  | .parent => ['.', '.']
  | .normal name => name

namespace Path

variable {p q here : Path} {piece : List Char} {c : Component}

/-! ### Components -/

/-- What the components of a path begin with before its steps. -/
def lead (p : Path) : List Component :=
  if p.isAbsolute then [.root]
  else if (Text.pieces '/' p.chars).head? = some ['.'] then [.current]
  else []

theorem components_eq (p : Path) :
    p.components = p.lead ++ (Text.pieces '/' p.chars).filterMap Component.ofPiece? := by
  unfold components lead
  dsimp only
  split
  · rfl
  · split
    · next h => rw [h]; rfl
    · next h =>
      rw [if_neg, List.nil_append]
      intro hhead
      obtain ⟨rest, hrest⟩ := List.head?_eq_some_iff.1 hhead
      exact h rest hrest

/-- What is put to a path that is not empty comes after its pieces, the empty one after a slash at its
end aside. -/
theorem pieces_chars_append (hp : p.chars ≠ []) (piece : List Char) : ∃ kept idle,
    kept ≠ [] ∧ (idle = [] ∨ idle = [[]]) ∧ Text.pieces '/' p.chars = kept ++ idle ∧
    Text.pieces '/' (p.append piece).chars = kept ++ Text.pieces '/' piece := by
  unfold append
  by_cases hend : p.endsInSlash
  · obtain ⟨before, hbefore⟩ := List.getLast?_eq_some_iff.1 (beq_iff_eq.1 hend)
    rw [if_pos (by simp [hend]), hbefore]
    refine ⟨Text.pieces '/' before, [[]], Text.pieces_ne_nil _ _, .inr rfl, Text.pieces_append, ?_⟩
    rw [List.append_assoc]
    exact Text.pieces_append
  · rw [if_neg (by simp [hend, hp])]
    exact ⟨_, [], Text.pieces_ne_nil _ _, .inl rfl, (List.append_nil _).symm, Text.pieces_append⟩

theorem isAbsolute_append (hp : p.chars ≠ []) (piece : List Char) :
    (p.append piece).isAbsolute = p.isAbsolute := by
  obtain ⟨first, rest, hchars⟩ := List.exists_cons_of_ne_nil hp
  unfold append isAbsolute
  split <;> simp [hchars]

theorem lead_append (hp : p.chars ≠ []) (piece : List Char) : (p.append piece).lead = p.lead := by
  obtain ⟨kept, idle, hkept, -, hpieces, happend⟩ := pieces_chars_append hp piece
  obtain ⟨first, rest, rfl⟩ := List.exists_cons_of_ne_nil hkept
  unfold lead
  rw [isAbsolute_append hp, happend, hpieces]
  rfl

/-- What is put to a path that is not empty adds the components of its own pieces. -/
theorem components_append_of_ne_nil (hp : p.chars ≠ []) (piece : List Char) :
    (p.append piece).components =
      p.components ++ (Text.pieces '/' piece).filterMap Component.ofPiece? := by
  obtain ⟨kept, idle, -, hidle, hpieces, happend⟩ := pieces_chars_append hp piece
  have hnone : idle.filterMap Component.ofPiece? = [] := by
    rcases hidle with rfl | rfl <;> rfl
  rw [components_eq, components_eq, lead_append hp, happend, hpieces, List.filterMap_append,
    List.filterMap_append, hnone, List.append_nil, List.append_assoc]

/-- A step that is put to a path is its last component. -/
theorem components_append (p : Path) (hslash : '/' ∉ piece)
    (hc : Component.ofPiece? piece = some c) : (p.append piece).components = p.components ++ [c] := by
  have hpiece : (Text.pieces '/' piece).filterMap Component.ofPiece? = [c] := by
    rw [Text.pieces_of_not_mem hslash]
    simp [hc]
  by_cases hp : p.chars = []
  · obtain ⟨chars⟩ := p
    cases hp
    have hlead : lead ⟨piece⟩ = [] := by
      unfold lead
      rw [Text.pieces_of_not_mem hslash, if_neg, if_neg]
      · rintro ⟨⟩
        exact nomatch hc
      · intro habs
        have hmem : '/' ∈ piece := List.mem_of_mem_head? (beq_iff_eq.1 habs)
        exact hslash hmem
    show components ⟨piece⟩ = components ⟨[]⟩ ++ [c]
    rw [components_eq, hlead, hpiece]
    rfl
  · rw [components_append_of_ne_nil hp, hpiece]

theorem components_withSlash (hp : p.chars ≠ []) : p.withSlash.components = p.components := by
  rw [withSlash, components_append_of_ne_nil hp]
  exact List.append_nil _

/-! ### Absolute forms -/

/-- Whether a path is written with two slashes in front. -/
def isDoubled (p : Path) : Bool :=
  p.chars.take 2 == ['/', '/']

/-- Whether a path is written as the system gives the current directory: from the root, with single
slashes, without dots that are no steps, and without a slash at its end unless it is the root. -/
def IsClean (p : Path) : Prop :=
  p = p.steps.foldl append ⟨['/']⟩

instance (p : Path) : Decidable p.IsClean :=
  inferInstanceAs (Decidable (p = _))

/-- A piece of a path that is a step of it. -/
structure IsStep (piece : List Char) : Prop where
  slash : '/' ∉ piece
  idle : isIdle piece = false

theorem isStep_of_mem_steps (h : piece ∈ p.steps) : IsStep piece := by
  obtain ⟨hmem, hidle⟩ := List.mem_filter.1 h
  exact ⟨Text.not_mem_of_mem_pieces hmem, by simpa using hidle⟩

theorem IsStep.ne_nil (h : IsStep piece) : piece ≠ [] := by
  rintro rfl
  exact nomatch h.idle

/-- A step is written as its component is. -/
theorem IsStep.exists_component (h : IsStep piece) :
    ∃ c, Component.ofPiece? piece = some c ∧ c.written = piece := by
  unfold Component.ofPiece?
  split
  · exact nomatch h.idle
  · exact nomatch h.idle
  · exact ⟨_, rfl, rfl⟩
  · exact ⟨_, rfl, rfl⟩

variable {steps : List (List Char)} {double slash : Bool}

theorem filterMap_written (h : ∀ s ∈ steps, IsStep s) :
    (steps.filterMap Component.ofPiece?).map Component.written = steps := by
  induction steps with
  | nil => rfl
  | cons s steps ih =>
    obtain ⟨c, hc, hwritten⟩ := (h s List.mem_cons_self).exists_component
    rw [List.filterMap_cons_some hc, List.map_cons, hwritten,
      ih fun s hs => h s (List.mem_cons_of_mem _ hs)]

/-- Steps below a root that is written with one slash or two, and a slash at the end or none. -/
def form (double : Bool) (steps : List (List Char)) (slash : Bool) : Path :=
  let full := steps.foldl append ⟨if double then ['/', '/'] else ['/']⟩
  if slash then full.withSlash else full

theorem append_ne_nil (hp : p.chars ≠ []) (piece : List Char) : (p.append piece).chars ≠ [] := by
  unfold append
  split <;> simp [hp]

theorem foldl_append_ne_nil (hp : p.chars ≠ []) : (steps.foldl append p).chars ≠ [] := by
  induction steps generalizing p with
  | nil => exact hp
  | cons s steps ih => exact ih (append_ne_nil hp s)

theorem root_ne_nil : (⟨if double then ['/', '/'] else ['/']⟩ : Path).chars ≠ [] := by
  cases double <;> simp

theorem components_foldl (hp : p.chars ≠ []) (h : ∀ s ∈ steps, IsStep s) :
    (steps.foldl append p).components = p.components ++ steps.filterMap Component.ofPiece? := by
  induction steps generalizing p with
  | nil => exact (List.append_nil _).symm
  | cons s steps ih =>
    obtain ⟨c, hc, -⟩ := (h s List.mem_cons_self).exists_component
    rw [List.foldl_cons, ih (append_ne_nil hp s) fun s hs => h s (List.mem_cons_of_mem _ hs),
      components_append p (h s List.mem_cons_self).slash hc, List.filterMap_cons_some hc,
      List.append_assoc, List.singleton_append]

theorem components_form (h : ∀ s ∈ steps, IsStep s) :
    (form double steps slash).components = .root :: steps.filterMap Component.ofPiece? := by
  have hroot : (⟨if double then ['/', '/'] else ['/']⟩ : Path).components = [.root] := by
    cases double <;> rfl
  have hfull := components_foldl (p := ⟨if double then ['/', '/'] else ['/']⟩) root_ne_nil h
  rw [hroot, List.singleton_append] at hfull
  unfold form
  dsimp only
  split
  · rw [components_withSlash (foldl_append_ne_nil root_ne_nil), hfull]
  · exact hfull

/-- What is put to a path leaves the slashes in front. -/
theorem isDoubled_append (hp : p.chars ≠ []) (hpiece : '/' ∉ piece) :
    (p.append piece).isDoubled = p.isDoubled := by
  obtain ⟨chars⟩ := p
  match chars, hp with
  | [c], _ =>
    by_cases hc : c = '/'
    · subst hc
      cases piece with
      | nil => rfl
      | cons d piece =>
        have hd : d ≠ '/' := fun hd => hpiece (hd ▸ List.mem_cons_self)
        simp [append, isDoubled, endsInSlash, hd]
    · have hend : endsInSlash ⟨[c]⟩ = false := by simp [endsInSlash, hc]
      simp [append, isDoubled, hend, hc]
  | a :: b :: rest, _ =>
    unfold append isDoubled
    split <;> rfl

theorem isDoubled_foldl (hp : p.chars ≠ []) (h : ∀ s ∈ steps, IsStep s) :
    (steps.foldl append p).isDoubled = p.isDoubled := by
  induction steps generalizing p with
  | nil => rfl
  | cons s steps ih =>
    rw [List.foldl_cons, ih (append_ne_nil hp s) fun s hs => h s (List.mem_cons_of_mem _ hs),
      isDoubled_append hp (h s List.mem_cons_self).slash]

theorem isDoubled_form (h : ∀ s ∈ steps, IsStep s) :
    (form double steps slash).isDoubled = double := by
  have hfull := isDoubled_foldl (p := ⟨if double then ['/', '/'] else ['/']⟩) root_ne_nil h
  have hroot : (⟨if double then ['/', '/'] else ['/']⟩ : Path).isDoubled = double := by
    cases double <;> rfl
  unfold form
  dsimp only
  split
  · rw [withSlash, isDoubled_append (foldl_append_ne_nil root_ne_nil) List.not_mem_nil, hfull, hroot]
  · exact hfull.trans hroot

theorem endsInSlash_append (p : Path) (h : IsStep piece) : (p.append piece).endsInSlash = false := by
  have hlast : (p.append piece).chars.getLast? = piece.getLast? := by
    unfold append
    split
    · rw [List.getLast?_append, List.getLast?_eq_some_getLast h.ne_nil, Option.some_or]
    · rw [List.getLast?_append, List.getLast?_cons, List.getLast?_eq_some_getLast h.ne_nil]
      rfl
  rw [endsInSlash, hlast, beq_eq_false_iff_ne]
  exact fun hmem => h.slash (List.mem_of_getLast? hmem)

theorem endsInSlash_withSlash (hp : p.chars ≠ []) : p.withSlash.endsInSlash = true := by
  unfold withSlash append
  split
  · next h => simpa [hp] using h
  · simp [endsInSlash]

theorem endsInSlash_foldl (h : ∀ s ∈ steps, IsStep s) (hsteps : steps ≠ []) :
    (steps.foldl append p).endsInSlash = false := by
  rw [← List.dropLast_concat_getLast hsteps, List.foldl_append]
  exact endsInSlash_append _ (h _ (List.getLast_mem hsteps))

theorem endsInSlash_form (h : ∀ s ∈ steps, IsStep s) (hsteps : steps ≠ []) :
    (form double steps slash).endsInSlash = slash := by
  cases slash with
  | true => exact endsInSlash_withSlash (foldl_append_ne_nil root_ne_nil)
  | false => exact endsInSlash_foldl h hsteps

theorem form_nil : form double [] slash = form double [] false := by
  cases double <;> cases slash <;> rfl

/-- Forms of one path that have the same slashes in front and at the end are equal. -/
theorem form_inj {double' slash' : Bool} {steps' : List (List Char)} (h : ∀ s ∈ steps, IsStep s)
    (h' : ∀ s ∈ steps', IsStep s) (hsame : (form double steps slash).Same (form double' steps' slash'))
    (hend : (form double steps slash).endsInSlash = (form double' steps' slash').endsInSlash)
    (hdouble : (form double steps slash).isDoubled = (form double' steps' slash').isDoubled) :
    form double steps slash = form double' steps' slash' := by
  rw [Same, components_form h, components_form h'] at hsame
  obtain rfl : steps = steps' := by
    rw [← filterMap_written h, (List.cons.inj hsame).2, filterMap_written h']
  rw [isDoubled_form h, isDoubled_form h] at hdouble
  subst hdouble
  by_cases hsteps : steps = []
  · rw [hsteps]
    exact form_nil.trans form_nil.symm
  · rw [endsInSlash_form h hsteps, endsInSlash_form h hsteps] at hend
    rw [hend]

/-- What an absolute form starts at is written below a root too. -/
theorem exists_anchor (p : Path) (hhere : here.IsClean) : ∃ (double : Bool) (steps : List (List Char)),
    (∀ s ∈ steps, IsStep s) ∧
    p.anchor here = steps.foldl append ⟨if double then ['/', '/'] else ['/']⟩ := by
  unfold anchor
  split
  · exact ⟨false, [], by simp, rfl⟩
  · exact ⟨true, [], by simp, rfl⟩
  · exact ⟨false, [], by simp, rfl⟩
  · exact ⟨false, here.steps, fun _ => isStep_of_mem_steps, hhere⟩

/-- The absolute form of a path is written below a root with one slash or two. -/
theorem exists_form (hp : p.chars ≠ []) (hhere : here.IsClean) : ∃ double steps,
    (∀ s ∈ steps, IsStep s) ∧ p.absolute here = form double steps p.endsInSlash := by
  obtain ⟨double, steps, hsteps, hanchor⟩ := exists_anchor p hhere
  refine ⟨double, steps ++ p.steps, fun s hs => ?_, ?_⟩
  · rcases List.mem_append.1 hs with hs | hs
    · exact hsteps s hs
    · exact isStep_of_mem_steps hs
  · rw [absolute, if_neg (by simpa using hp), form, List.foldl_append, hanchor]

theorem absolute_of_nil (hp : p.chars = []) : p.absolute here = p := by
  rw [absolute, if_pos (by simpa using hp)]

theorem components_absolute_ne_nil (hp : p.chars ≠ []) (hhere : here.IsClean) :
    (p.absolute here).components ≠ [] := by
  obtain ⟨double, steps, hsteps, hform⟩ := exists_form hp hhere
  rw [hform, components_form hsteps]
  exact List.cons_ne_nil _ _

theorem components_of_nil (hp : p.chars = []) : p.components = [] := by
  obtain ⟨chars⟩ := p
  cases hp
  rfl

/-- Of absolute forms that are the same path, at most a second slash in front and a slash at the end
tell one from another. -/
theorem absolute_eq_iff (hhere : here.IsClean) (hsame : (p.absolute here).Same (q.absolute here)) :
    p.absolute here = q.absolute here ↔
      (p.absolute here).endsInSlash = (q.absolute here).endsInSlash ∧
      (p.absolute here).isDoubled = (q.absolute here).isDoubled := by
  refine ⟨fun h => by rw [h]; exact ⟨rfl, rfl⟩, fun ⟨hend, hdouble⟩ => ?_⟩
  -- The empty path is left as it is, and no other absolute form is without components.
  by_cases hp : p.chars = []
  · by_cases hq : q.chars = []
    · obtain ⟨chars⟩ := p
      obtain ⟨chars'⟩ := q
      cases hp
      cases hq
      rfl
    · rw [absolute_of_nil hp, Same, components_of_nil hp] at hsame
      exact absurd hsame.symm (components_absolute_ne_nil hq hhere)
  · by_cases hq : q.chars = []
    · rw [absolute_of_nil hq, Same, components_of_nil hq] at hsame
      exact absurd hsame (components_absolute_ne_nil hp hhere)
    · obtain ⟨double, steps, hsteps, hform⟩ := exists_form hp hhere
      obtain ⟨double', steps', hsteps', hform'⟩ := exists_form hq hhere
      rw [hform, hform'] at hsame hend hdouble ⊢
      exact form_inj hsteps hsteps' hsame hend hdouble

end Path

end NativeBuild
