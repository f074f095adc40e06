import NativeBuild.Manifest.Check
import NativeBuild.Proofs.Json.Reads
import NativeBuild.Proofs.Text.Utf8

/-!
A manifest that is written out is read back as it was, with every field.  Written out, a manifest
has all its fields, in the names and the order in which the forms of its parts know them.
-/

namespace NativeBuild

open Json (Reader Reads RecordForm Fills)

/-- A field that is known and has not been given is filled with what is read of it. -/
theorem Json.Fills.field {δ α β : Type} {form : RecordForm δ α} {name : String}
    {get : δ → Option β} {set : δ → β → δ} {read : Reader β} {d d' : δ} {v : Json} {b : β}
    {fields : List (String × Json)}
    (hfield : form.fields.find? (·.name == name) = some (Manifest.field name get set read))
    (hgiven : (get d).isSome = false) (hreads : Reads read v.compact b)
    (h : Fills form (set d b) fields d') : Fills form d ((name, v) :: fields) d' :=
  .cons hfield hgiven (hreads.map (set d)) h

namespace Defines

theorem insertEntry_of_lt {name : String} {value : Option String}
    {entries : List (String × Option String)} (h : ∀ e ∈ entries, e.1 < name) :
    insertEntry name value entries = entries ++ [(name, value)] := by
  induction entries with
  | nil => rfl
  | cons e rest ih =>
    have hlt := h e List.mem_cons_self
    have hne : ¬ name = e.1 := by
      rintro rfl
      exact String.lt_irrefl _ hlt
    rw [insertEntry, if_neg (String.lt_asymm hlt), if_neg hne,
      ih fun d hd => h d (List.mem_cons_of_mem _ hd), List.cons_append]

/-- Macros that are put in in ascending order stand in that order. -/
theorem entries_foldl_insert {rest : List (String × Option String)} {d : Defines}
    (h : (d.entries ++ rest).Pairwise fun a b => a.1 < b.1) :
    (rest.foldl (fun d e => d.insert e.1 e.2) d).entries = d.entries ++ rest := by
  induction rest generalizing d with
  | nil => simp
  | cons x rest ih =>
    have hlast : (d.insert x.1 x.2).entries = d.entries ++ [x] :=
      insertEntry_of_lt fun e he => (List.pairwise_append.1 h).2.2 e he x List.mem_cons_self
    rw [List.foldl_cons, ih (by rwa [hlast, List.append_assoc]), hlast, List.append_assoc]
    rfl

theorem entries_injective {d e : Defines} (h : d.entries = e.entries) : d = e := by
  cases d
  cases e
  cases h
  rfl

theorem ofList_entries (d : Defines) : ofList d.entries = d :=
  entries_injective (entries_foldl_insert (d := empty) d.sorted)

end Defines

namespace Manifest

theorem reads_string (s : String) : Reads readString (Json.writeText s) s :=
  Json.reads_text _ s

theorem reads_strings (items : List String) :
    Reads (Reader.list readString) (Json.texts items).compact items := by
  have h := Json.reads_texts (f := id) reads_string items
  rwa [List.map_id] at h

theorem reads_pathText (s : String) : Reads readPath (Json.writeText s) (Path.ofString s) :=
  (Json.reads_text "path string" s).map Path.ofString

theorem ofString_text (p : Path) : Path.ofString p.text = p := by
  rw [Path.ofString, Path.text, String.toList_ofList]

theorem reads_path (p : Path) : Reads readPath (Json.writeText p.text) p := by
  have h := reads_pathText p.text
  rwa [ofString_text] at h

theorem reads_paths (paths : List Path) :
    Reads (Reader.list readPath) (jsonPaths paths).compact paths :=
  Json.reads_texts reads_path paths

theorem reads_optionalString (item : Option String) :
    Reads (Reader.optional readString) (Json.optional item).compact item := by
  have h := Json.reads_optional (f := id) reads_string item
  rwa [Option.map_id] at h

theorem reads_optionalPath (item : Option Path) :
    Reads (Reader.optional readPath) (Json.optional (item.map Path.text)).compact item := by
  have h := Json.reads_optional reads_pathText (item.map Path.text)
  rwa [Option.map_map, show Path.ofString ∘ Path.text = id from funext ofString_text,
    Option.map_id] at h

theorem reads_defines (d : Defines) :
    Reads ((Reader.entries (Reader.optional readString)).map Defines.ofList)
      (Json.record (d.entries.map fun e => (e.1, .optional e.2))).compact d := by
  have hentries : ∀ e ∈ d.entries,
      Reads (Reader.optional readString) (Json.optional e.2).compact e.2 :=
    fun e _ => reads_optionalString e.2
  have h := (Json.reads_entries hentries).map Defines.ofList
  rwa [Defines.ofList_entries] at h

theorem reads_tools (t : Tools) : Reads Tools.form.read t.toJson.compact t :=
  Fills.reads
    (.field rfl rfl (reads_optionalPath t.cxx)
      (.field rfl rfl (reads_optionalPath t.cc)
        (.field rfl rfl (reads_strings t.flags)
          (.field rfl rfl (reads_defines t.defines) (.nil _)))))
    rfl

theorem reads_sources (s : Sources) : Reads Sources.form.read s.toJson.compact s :=
  Fills.reads
    (.field rfl rfl (reads_paths s.dirs)
      (.field rfl rfl (reads_paths s.files)
        (.field rfl rfl (reads_string s.extension)
          (.field rfl rfl (reads_strings s.flags) (.nil _)))))
    rfl

/-- A library of any kind is read back. -/
theorem reads_library (e : LibraryEntry) : Reads LibraryEntry.read e.toJson.compact e := by
  cases e with
  | prebuilt name =>
    exact Json.reads_payload rfl ((reads_string name).map LibraryEntry.prebuilt)
  | linker name os =>
    exact Json.reads_payload rfl (Fills.reads
      (.field rfl rfl (reads_string name)
        (.field rfl rfl (reads_optionalString os) (.nil _)))
      rfl)
  | config command =>
    exact Json.reads_payload rfl ((reads_strings command).map LibraryEntry.config)

theorem reads_kind (kind : ArtifactKind) :
    Reads readKind (Json.writeText (kindName kind)) kind := by
  cases kind with
  | executable => exact Json.reads_bare rfl rfl
  | sharedLibrary => exact Json.reads_bare rfl rfl

theorem opens_library (e : LibraryEntry) : Json.Opens e.toJson.compact := by
  cases e <;> exact Json.opens_record _

theorem reads_target (t : Target) : Reads Target.form.read t.toJson.compact t := by
  have hlibraries : Reads (Reader.list LibraryEntry.read)
      (Json.list (t.libraries.map LibraryEntry.toJson)).compact t.libraries :=
    Json.reads_list (fun e _ => opens_library e) fun e _ => reads_library e
  have hrun : Reads (Reader.list (Reader.list readString))
      (Json.list (t.run.map .texts)).compact t.run :=
    Json.reads_list (fun _ _ => Json.opens_list _) fun items _ => reads_strings items
  exact Fills.reads
    (.field rfl rfl (reads_string t.name)
      (.field rfl rfl (reads_kind t.kind)
        (.field rfl rfl (reads_path t.output)
          (.field rfl rfl (reads_sources t.sources)
            (.field rfl rfl (reads_strings t.objects)
              (.field rfl rfl (reads_strings t.link)
                (.field rfl rfl hlibraries (.field rfl rfl hrun (.nil _)))))))))
    rfl

theorem reads_manifest (m : Manifest) : Reads form.read m.toJson.compact m := by
  have htargets : Reads (Reader.list Target.form.read)
      (Json.list (m.targets.map Target.toJson)).compact m.targets :=
    Json.reads_list (fun _ _ => Json.opens_record _) fun t _ => reads_target t
  exact Fills.reads
    (.field rfl rfl (reads_tools m.toolchain) (.field rfl rfl htargets (.nil _))) rfl

theorem parse_write (m : Manifest) : parse m.write = .ok m :=
  (reads_manifest m).whole

theorem check_of_load {machine : Machine} {path : Path} {m : Manifest}
    (h : load machine path = .ok m) : m.check = .ok () := by
  unfold load at h
  split at h
  · cases h
  split at h
  · cases h
  split at h
  · cases h
  · next hcheck =>
    cases h
    exact hcheck

/-- A file with the bytes of a text is loaded as the manifest that the text holds, if the manifest
passes its check. -/
theorem load_of_read {machine : Machine} {path : Path} {text : List Char} {m : Manifest}
    (hparse : parse text = .ok m) (hcheck : m.check = .ok ())
    (h : machine.files.read machine.place path = .ok (Text.encode text)) :
    load machine path = .ok m := by
  have htext : machine.files.readText machine.place path = .ok text := by
    simp [Files.readText, h, bind, Except.bind]
  simp only [load, htext, hparse, hcheck]

/-- The text of a manifest is read back as that manifest, path texts included.  So a manifest that
has been loaded from some file can be written to any file, and that file is loaded as the same
manifest. -/
theorem round_trip (m : Manifest) :
    parse m.write = .ok m ∧
      ∀ machine path, load machine path = .ok m → ∀ machine' path',
        machine'.files.read machine'.place path' = .ok (Text.encode m.write) →
          load machine' path' = .ok m :=
  ⟨parse_write m, fun _ _ h _ _ hread => load_of_read (parse_write m) (check_of_load h) hread⟩

/-- A manifest with a macro that has a value and one that has none, and with a target whose output
is not all ASCII. -/
def sample : Manifest where
  toolchain := { Tools.none with defines := .ofList [("B", none), ("A", some "1")] }
  targets := [⟨"a", .executable, ⟨['é', '"']⟩, .none, [], [], [], []⟩]

/-- A text for it that somebody has written, in another order and without most of the fields. -/
def sampleText : List Char :=
  ("\x7b\"targets\": [\x7b\"kind\": \"executable\", \"output\": \"\\u00e9\\\"\",\n" ++
    "\"name\": \"a\"\x7d], \"toolchain\": " ++
    "\x7b\"defines\": \x7b\"B\": null, \"A\": \"1\"\x7d\x7d\x7d").toList

/-- Two files: that text, and the manifest as it is written out. -/
def sampleMachine : Machine where
  files :=
    { entries := [(["in".toList], .file (Text.encode sampleText) false),
        (["out".toList], .file (Text.encode sample.write) false)] }
  here := ⟨['/']⟩
  env := []

theorem round_trip_sample :
    load sampleMachine ⟨"/in".toList⟩ = .ok sample ∧
      load sampleMachine ⟨"/out".toList⟩ = .ok sample := by
  have hparse : parse sampleText = .ok sample := by
    have hsome : (parse sampleText).toOption = some sample := by decide +kernel
    cases h : parse sampleText with
    | error e => simp [h, Except.toOption] at hsome
    | ok m => simpa [h, Except.toOption] using hsome
  have hin : load sampleMachine ⟨"/in".toList⟩ = .ok sample := load_of_read hparse rfl rfl
  exact ⟨hin, (round_trip sample).2 _ _ hin sampleMachine _ rfl⟩

end Manifest

end NativeBuild
