import NativeBuild.Userland.Execute
import NativeBuild.Proofs.Machine.Moved
import NativeBuild.Proofs.Text.Utf8

/-!
The file that a program is found in.  A name without a slash is looked up in the directories that are
searched for programs, and everything else is a path.  So neither a bare name nor an absolute path leads
elsewhere from another directory, as long as the directories that are searched are absolute.
-/

namespace NativeBuild

theorem bind_congr_of_ok {ε α β : Type} {x : Except ε α} {f g : α → Except ε β}
    (h : ∀ a, x = .ok a → f a = g a) : x >>= f = x >>= g := by
  cases x with
  | error e => rfl
  | ok a => exact h a rfl

/-- Whether a path is a name alone, without a separator. -/
def Path.IsBare (p : Path) : Prop :=
  '/' ∉ p.chars

namespace Text

/-! ### Bytes -/

@[simp] theorem decodeLossy_encode (s : List Char) : decodeLossy (encode s) = s := by
  simp [decodeLossy, Function.comp_def]

/-- Whatever a reader takes, what it has read stays. -/
theorem Scan.exists_read_next (scan : Scan) (b : UInt8) :
    ∃ more, (scan.next b).read = more ++ scan.read := by
  have hstart (read : List (Option Char)) : ∃ more, (Scan.start read b).read = more ++ read := by
    unfold Scan.start
    split
    · exact ⟨[_], rfl⟩
    · exact ⟨[], rfl⟩
    · exact ⟨[none], rfl⟩
  unfold Scan.next
  split
  · exact hstart scan.read
  · split
    · dsimp only
      split
      · exact ⟨[_], rfl⟩
      · exact ⟨[], rfl⟩
    · obtain ⟨more, hmore⟩ := hstart (none :: scan.read)
      exact ⟨more ++ [none], by rw [hmore, List.append_assoc]; rfl⟩

theorem Scan.exists_read_foldl (scan : Scan) (bytes : List UInt8) :
    ∃ more, (bytes.foldl Scan.next scan).read = more ++ scan.read := by
  induction bytes generalizing scan with
  | nil => exact ⟨[], rfl⟩
  | cons b rest ih =>
    obtain ⟨more, hmore⟩ := ih (scan.next b)
    obtain ⟨first, hfirst⟩ := scan.exists_read_next b
    exact ⟨more ++ first, by rw [List.foldl_cons, hmore, hfirst, List.append_assoc]⟩

/-- The byte of a slash is read as one, whatever follows it. -/
theorem head?_decodeLossy_slash (bytes : List UInt8) :
    (decodeLossy (0x2f :: bytes)).head? = some '/' := by
  obtain ⟨more, hmore⟩ := Scan.exists_read_foldl ⟨none, [some '/']⟩ bytes
  have hfirst : Scan.next ⟨none, []⟩ 0x2f = ⟨none, [some '/']⟩ := rfl
  unfold decodeLossy scan
  rw [List.foldl_cons, hfirst]
  dsimp only
  split <;> simp [hmore]

/-- Only a slash has the byte of a slash among its bytes. -/
theorem eq_slash_of_mem {c : Char} (h : 0x2f ∈ String.utf8EncodeChar c) : c = '/' := by
  have hbyte (n : Nat) (hn : n < 256) (hmem : (0x2f : UInt8) = UInt8.ofNat n) : n = 0x2f := by
    have := congrArg UInt8.toNat hmem
    rw [UInt8.toNat_ofNat_of_lt' hn] at this
    exact this.symm
  rw [String.utf8EncodeChar.eq_def] at h
  generalize hv : c.val.toNat = v at h
  have hvalid : c.toNat < 0xd800 ∨ 0xdfff < c.toNat ∧ c.toNat < 0x110000 := c.valid
  have hc : c.toNat = v := hv
  rw [hc] at hvalid
  dsimp only at h
  split at h
  · have hv : v = 0x2f := hbyte v (by omega) (List.mem_singleton.1 h)
    rw [← Char.ofNat_toNat c, hc, hv]
  -- The bytes of every other character are at least 128.
  split at h
  · rcases List.mem_pair.1 h with h | h <;> have := hbyte _ (by omega) h <;> omega
  split at h
  · simp only [List.mem_cons, List.not_mem_nil, or_false] at h
    rcases h with h | h | h <;> have := hbyte _ (by omega) h <;> omega
  · simp only [List.mem_cons, List.not_mem_nil, or_false] at h
    rcases h with h | h | h | h <;> have := hbyte _ (by omega) h <;> omega

end Text

namespace Shell

/-! ### Paths as bytes -/

/-- The number of a byte, as a character, is that of the byte. -/
theorem map_ofNat_toNat (bytes : List UInt8) :
    (bytes.map fun b => Char.ofNat b.toNat).map (fun c => UInt8.ofNat c.toNat) = bytes := by
  rw [List.map_map, List.map_congr_left, List.map_id]
  intro b _
  have hvalid : b.toNat.isValidChar := .inl (by have := b.toNat_lt; omega)
  rw [Function.comp_apply, Char.ofNat, dif_pos hvalid]
  exact UInt8.ofNat_toNat

@[simp] theorem rawPath_rawText (text : List Char) : rawPath (rawText text) = ⟨text⟩ := by
  rw [rawPath, rawText, map_ofNat_toNat, Text.decodeLossy_encode]

theorem isAbsolute_rawPath {raw : Raw} (h : raw.head? = some '/') :
    (rawPath raw).isAbsolute = true := by
  obtain ⟨rest, rfl⟩ := List.head?_eq_some_iff.1 h
  exact beq_iff_eq.2 (Text.head?_decodeLossy_slash _)

theorem contains_rawText (text : List Char) : (rawText text).contains '/' = text.contains '/' := by
  rw [Bool.eq_iff_iff, List.contains_iff_mem, List.contains_iff_mem, rawText, Text.encode,
    List.mem_map]
  constructor
  · rintro ⟨b, hb, hslash⟩
    obtain ⟨c, hc, hb⟩ := List.mem_flatMap.1 hb
    have hvalue : [b] = [0x2f] :=
      (map_ofNat_toNat [b]).symm.trans (congrArg (fun c : Char => [UInt8.ofNat c.toNat]) hslash)
    rw [(List.cons.inj hvalue).1] at hb
    rwa [Text.eq_slash_of_mem hb] at hc
  · intro h
    exact ⟨0x2f, List.mem_flatMap.2 ⟨'/', h, by decide⟩, rfl⟩

theorem head?_below {dir : Raw} (h : dir.head? = some '/') (name : Raw) :
    (below dir name).head? = some '/' := by
  obtain ⟨rest, rfl⟩ := List.head?_eq_some_iff.1 h
  unfold below
  split <;> rfl

/-! ### Looking a program up -/

variable {p : Process} {here : Location} {search name : Raw}

theorem entryAt_elsewhere (hfree : p.files.Free) {path : Raw} (hpath : path.head? = some '/')
    (here : Location) (follow : Bool) :
    ({ p with here } : Process).entryAt follow path = p.entryAt follow path := by
  have hfind := hfree.find (isAbsolute_rawPath hpath) here p.here follow
  unfold Process.entryAt
  rw [← hfind]
  rfl

/-- In directories that are absolute the same is found from everywhere. -/
theorem searchProgram_elsewhere (hfree : p.files.Free)
    (hsearch : ∀ dir ∈ searchedDirectories search, dir.head? = some '/') (here : Location)
    (name : Raw) : searchProgram { p with here } search name = searchProgram p search name := by
  unfold searchProgram
  split
  · rfl
  · refine List.foldl_ext _ _ _ fun best dir hdir => ?_
    dsimp only
    rw [entryAt_elsewhere hfree (head?_below (hsearch dir hdir) name)]

/-- A program that is found lies below one of the directories. -/
theorem exists_below_of_searchProgram {path : Raw} (h : searchProgram p search name = .ok path) :
    ∃ dir ∈ searchedDirectories search, path = below dir name := by
  unfold searchProgram at h
  split at h
  · cases h
  · refine List.foldlRecOn (motive := fun best => best = Except.ok path →
      ∃ dir ∈ searchedDirectories search, path = below dir name) _ _ (by rintro ⟨⟩) ?_ h
    intro best ih dir hdir hbest
    dsimp only at hbest
    split at hbest
    · exact ih hbest
    · split at hbest
      · exact ⟨dir, hdir, (Except.ok.inj hbest).symm⟩
      · exact ⟨dir, hdir, (Except.ok.inj hbest).symm⟩
      · cases hbest
      · cases hbest

/-- Whether a program is found in the same place from every directory: an absolute path, or a bare name if
all directories that are searched are absolute. -/
def IsFixed (search : Raw) (program : Path) : Prop :=
  program.isAbsolute = true ∨
    program.IsBare ∧ ∀ dir ∈ searchedDirectories search, dir.head? = some '/'

theorem contains_of_isAbsolute {program : Path} (h : program.isAbsolute = true) :
    (rawText program.chars).contains '/' = true := by
  rw [contains_rawText, List.contains_iff_mem]
  exact List.mem_of_mem_head? (beq_iff_eq.1 h)

theorem findProgram_elsewhere (hfree : p.files.Free) {program : Path} (h : IsFixed search program)
    (here : Location) : findProgram { p with here } search (rawText program.chars) =
      findProgram p search (rawText program.chars) := by
  unfold findProgram
  rcases h with habsolute | ⟨-, hsearch⟩
  · rw [if_pos (contains_of_isAbsolute habsolute), if_pos (contains_of_isAbsolute habsolute)]
  · rw [searchProgram_elsewhere hfree hsearch]

/-- What is found is an absolute path. -/
theorem isAbsolute_of_findProgram {program : Path} {path : Raw} (hfixed : IsFixed search program)
    (h : findProgram p search (rawText program.chars) = .ok path) :
    (rawPath path).isAbsolute = true := by
  unfold findProgram at h
  split at h
  · cases h
  rcases hfixed with habsolute | ⟨hbare, hsearch⟩
  · rw [if_pos (contains_of_isAbsolute habsolute)] at h
    obtain rfl := Except.ok.inj h
    rwa [rawPath_rawText]
  · rw [if_neg (by rwa [contains_rawText, List.contains_iff_mem])] at h
    obtain ⟨dir, hdir, rfl⟩ := exists_below_of_searchProgram h
    exact isAbsolute_rawPath (head?_below (hsearch dir hdir) _)

end Shell

/-- Whether an entry is a program that can be started. -/
def Entry.Starts : Entry → Prop
  | .program _ => True
  | .file _ executable => executable = true
  | _ => False

theorem Shell.exists_launch_eq_error {go : Go} {fuel depth : Nat} {p : Process}
    {env : Tool.Environment} {path name : Raw} {args : List Raw}
    (h : ∀ loc e, p.files.find p.here true (rawPath path) = .ok (loc, e) → ¬ e.Starts) :
    ∃ e, launch go (fuel + 1) (depth + 1) p env path name args = .error e := by
  rw [launch]
  cases hfind : p.files.find p.here true (rawPath path) with
  | error e => exact ⟨e, rfl⟩
  | ok found =>
    obtain ⟨loc, entry⟩ := found
    have hstarts := h loc entry hfind
    cases entry with
    | program name => exact absurd trivial hstarts
    | file bytes executable =>
      cases executable with
      | true => exact absurd rfl hstarts
      | false => exact ⟨_, rfl⟩
    | _ => exact ⟨_, rfl⟩

namespace Machine

open Shell (rawText rawString rawPath)

variable {m m' : Machine} {c : Command} {program : Path}

/-- The environment in bytes. -/
def rawEnvironment (m : Machine) : Tool.Environment :=
  m.env.map fun (name, value) => (rawString name, rawString value)

/-- The directories that are searched for programs. -/
def searched (m : Machine) : Shell.Raw :=
  (m.rawEnvironment.lookup "PATH".toList).getD (rawString searchPath)

/-- A command before its program is found; what it prints goes to a buffer. -/
def starting (m : Machine) : Process × Nat :=
  let (world, id) := ({ files := m.files } : World).buffer
  ({ world
     number := world.newest
     here := m.place
     handles := [(0, .nothing), (1, .buffer id), (2, .nothing)] }, id)

/-- The file that a program is found in: its place and what is there. -/
def programFile (m : Machine) (program : Path) : Except IoError (Location × Entry) := do
  let path ← Shell.findProgram m.starting.1 m.searched (rawText program.chars)
  m.files.find m.place true (rawPath path)

/-- The run of a command's program to its end. -/
def launched (m : Machine) (c : Command) : Except IoError (Process × Exit) := do
  let path ← Shell.findProgram m.starting.1 m.searched (rawText c.program.chars)
  Shell.launch (Shell.runWithin scriptFuel) Shell.maxLaunches Shell.maxInterpreters m.starting.1
    m.rawEnvironment path (rawText c.program.chars) (c.args.map rawString)

theorem execute_of_launched {e : IoError} (h : m.launched c = .error e) :
    ∃ e, m.execute c = (m, .error e) := by
  unfold execute
  dsimp only
  split
  · exact ⟨_, rfl⟩
  split
  · exact ⟨_, rfl⟩
  split
  · exact ⟨_, rfl⟩
  split
  · next after exit hok =>
    have hlaunched : m.launched c = .ok (after, exit) := hok
    cases h.symm.trans hlaunched
  · exact ⟨_, rfl⟩

/-- Nothing runs but what is found: without a program that can be started there, a command fails and
changes nothing. -/
theorem execute_of_not_starts
    (h : ∀ loc e, m.programFile c.program = .ok (loc, e) → ¬ e.Starts) :
    ∃ e, m.execute c = (m, .error e) := by
  obtain ⟨e, he⟩ : ∃ e, m.launched c = .error e := by
    unfold programFile at h
    unfold launched
    cases hpath : Shell.findProgram m.starting.1 m.searched (rawText c.program.chars) with
    | error e => exact ⟨e, rfl⟩
    | ok path =>
      rw [hpath] at h
      exact Shell.exists_launch_eq_error h
  exact execute_of_launched he

theorem Moved.programFile (h : m.Moved m') (hfixed : Shell.IsFixed m.searched program) :
    m.programFile program = m'.programFile program := by
  have hsearched : m'.searched = m.searched := by
    simp only [searched, rawEnvironment, h.env]
  have hstarting : m'.starting.1 = { m.starting.1 with here := m'.place } := by
    simp only [starting, h.files]
  have hfound : Shell.findProgram m'.starting.1 m.searched (rawText program.chars) =
      Shell.findProgram m.starting.1 m.searched (rawText program.chars) := by
    rw [hstarting]
    exact Shell.findProgram_elsewhere (p := m.starting.1) h.free hfixed _
  unfold Machine.programFile
  rw [hsearched, hfound, h.files]
  exact bind_congr_of_ok fun path hpath =>
    h.free.find (Shell.isAbsolute_of_findProgram hfixed hpath) _ _ true

/-- Whether a command runs the same program on two machines, or none on either. -/
inductive StartsAlike (m m' : Machine) (c : Command) : Prop where
  | program {loc : Location} {e : Entry} (starts : e.Starts)
    (found : m.programFile c.program = .ok (loc, e))
    (found' : m'.programFile c.program = .ok (loc, e))
  | none (failed : ∃ e, m.execute c = (m, .error e)) (failed' : ∃ e, m'.execute c = (m', .error e))

theorem Moved.startsAlike (h : m.Moved m') (hfixed : Shell.IsFixed m.searched c.program) :
    StartsAlike m m' c := by
  have hsame := h.programFile hfixed
  by_cases hstarts : ∃ loc e, m.programFile c.program = .ok (loc, e) ∧ e.Starts
  · obtain ⟨loc, e, hfound, hstarts⟩ := hstarts
    exact .program hstarts hfound (hsame ▸ hfound)
  · have hnone (loc : Location) (e : Entry) (hfound : m.programFile c.program = .ok (loc, e)) :
        ¬ e.Starts := fun he => hstarts ⟨loc, e, hfound, he⟩
    exact .none (execute_of_not_starts hnone) (execute_of_not_starts (hsame ▸ hnone))

end Machine

end NativeBuild
