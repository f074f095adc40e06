import NativeBuild.Userland.Shell.Raw
import NativeBuild.Userland.Regex.Parse

/-!
Programs that go through records of text: rules with patterns and actions, and functions.
-/

namespace NativeBuild.Tool.Awk

open Shell (Raw)
open Text (Regex)

/-- What is done with two numbers. -/
inductive Arithmetic where
  | add
  | sub
  | mul
  | div
  | mod
  | pow
  deriving DecidableEq

/-- How two values are compared. -/
inductive Comparison where
  | less
  | atMost
  | same
  | different
  | atLeast
  | more
  deriving DecidableEq

/-- Where records are read from that are asked for one by one: the input, a file, or a command. -/
inductive Inlet where
  | main
  | file
  | command
  deriving DecidableEq

/-- Where output goes: to a file, anew or to its end, or to a command. -/
inductive Outlet where
  | file
  | append
  | command
  deriving DecidableEq

/-- An expression.  A `regex` on its own is matched against the record; a `group` is several in
brackets; `step` adds a number to what stands at a place, whose value before or after that it has.
-/
inductive Expr where
  | number (n : Float)
  | text (t : Raw)
  | regex (r : Regex)
  | var (name : Raw)
  | item (name : Raw) (keys : List Expr)
  | field (e : Expr)
  | assign (op : Option Arithmetic) (target value : Expr)
  | step (before : Bool) (delta : Float) (target : Expr)
  | choose (condition yes no : Expr)
  | and (a b : Expr)
  | or (a b : Expr)
  | not (a : Expr)
  | negative (a : Expr)
  | plain (a : Expr)
  | arithmetic (op : Arithmetic) (a b : Expr)
  | compare (op : Comparison) (a b : Expr)
  | concat (a b : Expr)
  | fits (negated : Bool) (a b : Expr)
  | has (keys : List Expr) (name : Raw)
  | call (name : Raw) (args : List Expr)
  | known (name : String) (args : List Expr)
  | record (inlet : Inlet) (source target : Option Expr)
  | group (es : List Expr)

/-- A statement. -/
inductive Statement where
  | block (body : List Statement)
  | expr (e : Expr)
  | print (args : List Expr) (outlet : Option (Outlet × Expr))
  | printf (args : List Expr) (outlet : Option (Outlet × Expr))
  | choose (condition : Expr) (yes no : Statement)
  | whilst (condition : Expr) (body : Statement)
  | doWhile (body : Statement) (condition : Expr)
  | loop (start : Statement) (condition : Option Expr) (step body : Statement)
  | each (name array : Raw) (body : Statement)
  | break
  | continue
  | next
  | nextFile
  | exit (e : Option Expr)
  | return (e : Option Expr)
  | delete (name : Raw) (keys : Option (List Expr))

/-- When an action is done: at the start or at the end, for every record that fits a condition, or
for those from one that fits to one that fits another. -/
inductive Pattern where
  | start
  | finish
  | every
  | whenever (e : Expr)
  | between (a b : Expr)

/-- A rule; without an action, it prints the record. -/
structure Rule where
  pattern : Pattern
  action : Option Statement

/-- A function. -/
structure Function where
  name : Raw
  params : List Raw
  body : Statement

/-- A program. -/
structure Program where
  rules : List Rule
  functions : List Function

end NativeBuild.Tool.Awk
