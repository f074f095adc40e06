import NativeBuild.Manifest.Basic

/-!
What a manifest adds to a toolchain: compilers in the place of others, and flags and macros after the
base flags.
-/

namespace NativeBuild.Manifest

theorem addDefines_eq (entries : List (String × Option String)) (t : Toolchain) :
    entries.foldl (fun t e => t.addDefine e.1 e.2) t =
      t.addFlags (entries.map fun e => Toolchain.defineFlag e.1 e.2) := by
  induction entries generalizing t with
  | nil => exact congrArg (fun flags => { t with baseFlags := flags }) (List.append_nil _).symm
  | cons e rest ih =>
    rw [List.foldl_cons, ih, List.map_cons]
    exact congrArg (fun flags => { t with baseFlags := flags }) (List.append_assoc _ _ _)

/-- A toolchain with what a manifest adds: the compilers that it names, the others as they were, and
the base flags followed by the flags of the manifest and then its macros. -/
theorem Tools.apply_eq (tools : Tools) (here base : Path) (t : Toolchain) :
    tools.apply here base t =
      { cc := (tools.cc.map (programPath here base)).getD t.cc
        cxx := (tools.cxx.map (programPath here base)).getD t.cxx
        platform := t.platform
        baseFlags := t.baseFlags ++ tools.flags ++
          tools.defines.entries.map fun e => Toolchain.defineFlag e.1 e.2 } := by
  unfold apply
  rw [addDefines_eq]
  cases tools.cxx <;> cases tools.cc <;> rfl

end NativeBuild.Manifest
