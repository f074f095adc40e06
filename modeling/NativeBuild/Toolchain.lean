import NativeBuild.Layout
import NativeBuild.Machine.Basic
import NativeBuild.Platform

/-!
Compilers and the flags that every command starts with.
-/

namespace NativeBuild

/-- The compilers for C and C++, the operating system that is built for, and the base flags. -/
structure Toolchain where
  cc : Path
  cxx : Path
  platform : Platform
  baseFlags : List String
  deriving DecidableEq

namespace Toolchain

/-- Flags about warnings. -/
def warningFlags : List String :=
  ["-Wall", "-Werror", "-pedantic", "-Wno-nested-anon-types", "-Wno-extended-offsetof",
    "-Wno-gnu-anonymous-struct", "-Wno-variadic-macros", "-Wno-gnu-zero-variadic-macro-arguments",
    "-Wno-error=unused-command-line-argument", "-Wno-override-module"]

/-- Flags about the language. -/
def languageFlags : List String :=
  ["-fno-omit-frame-pointer", "-fno-rtti", "-fno-exceptions", "-fvisibility-inlines-hidden",
    "-std=gnu++11"]

/-- Macros that are always defined. -/
def fixedDefines : List String :=
  ["__STDC_LIMIT_MACROS", "__STDC_CONSTANT_MACROS", "NDEBUG"]

/-- Flags about the code that is made. -/
def outputFlags : List String :=
  ["-fPIC", "-fpie", "-g3", "-m64"]

/-- The flag that defines a macro, with or without a value. -/
def defineFlag (name : String) (value : Option String) : String :=
  match value with
  | some v => "-D" ++ name ++ "=" ++ v
  | none => "-D" ++ name

/-- The base flags for a layout. -/
def defaultFlags (layout : Layout) (platform : Platform) : List String :=
  warningFlags ++ languageFlags ++
    [defineFlag "CFORGE_DIR" (some ("\"" ++ layout.root.text ++ "\"")),
      defineFlag "CFORGE_OS" (some ("\"" ++ platform.tag ++ "\""))] ++
    fixedDefines.map (defineFlag · none) ++
    ["-isystem", layout.includeDir.text, "-I" ++ layout.root.text] ++ outputFlags

/-- The compiler that a setting names, else the prebuilt one if it is a file, else the system's. -/
def pickCompiler (m : Machine) (setting : Option String) (prebuilt : Path) (usual : String) :
    Path :=
  match Settings.given? setting with
  | some text => Path.ofString text
  | none => if m.isFile prebuilt then prebuilt else Path.ofString usual

/-- The toolchain for a layout before anything is added to it. -/
def default (m : Machine) (settings : Settings) (layout : Layout) (platform : Platform) :
    Toolchain :=
  { cc := pickCompiler m settings.cc (layout.binDir.child "clang") "cc"
    cxx := pickCompiler m settings.cxx (layout.binDir.child "clang++") "c++"
    platform
    baseFlags := defaultFlags layout platform }

/-- Add flags to the base flags. -/
def addFlags (t : Toolchain) (flags : List String) : Toolchain :=
  { t with baseFlags := t.baseFlags ++ flags }

/-- Add the definition of a macro. -/
def addDefine (t : Toolchain) (name : String) (value : Option String) : Toolchain :=
  t.addFlags [defineFlag name value]

/-- Flags that select the standard library. -/
def stdlibFlags (t : Toolchain) : List String :=
  match t.platform with
  | .mac => ["-stdlib=libc++"]
  | .linux => []
  | .windows => []

/-- The arguments that compile `source` into `object`. -/
def compileArgs (t : Toolchain) (source object : Path) (flags : List String) : List String :=
  t.stdlibFlags ++ t.baseFlags ++ flags ++ ["-c", source.text, "-o", object.text]

end Toolchain

end NativeBuild
