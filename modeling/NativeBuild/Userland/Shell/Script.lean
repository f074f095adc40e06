import NativeBuild.Userland.Shell.Raw

/-!
Shell scripts as data.
-/

namespace NativeBuild.Shell

/-- The two languages that scripts are written in: the plain one, and the one with lists, conditions
in brackets and more. -/
inductive Language where
  | plain
  | rich
  deriving DecidableEq

/-- Which of the parts that match a pattern are replaced. -/
inductive ReplaceRule where
  | first
  | all
  | front
  | back
  deriving DecidableEq

/-- Which case letters are put into. -/
inductive Recasing where
  | upper
  | lower
  | other
  deriving DecidableEq

/-- How the second of two scripts depends on the first. -/
inductive Joint where
  | always
  | success
  | failure
  deriving DecidableEq

/-- What a redirection does with its descriptor. -/
inductive Direction where
  | input
  | output
  | force
  | append
  | both
  | copy
  | text
  | line
  deriving DecidableEq

/-- What follows an arm of a selection that was chosen: nothing, the body of the next arm, or the
arms that are left. -/
inductive ArmEnd where
  | stop
  | fall
  | goOn
  deriving DecidableEq

mutual

/-- A part of a word: text as it stands or quoted, what a name stands for, what a script prints, the
value of a sum, or a file that a script reads or writes.  A part is `broken` if it cannot be filled
in. -/
inductive Piece where
  | plain (text : Raw)
  | quoted (text : Raw)
  | value (name : Raw) (through : Bool) (index : Index) (rule : ValueRule) (isQuoted : Bool)
  | output (script : Raw) (isQuoted : Bool)
  | sum (text : List Piece) (isQuoted : Bool)
  | channel (isInput : Bool) (script : Raw)
  | broken

/-- Which item of a list is meant. -/
inductive Index where
  | none
  | every (joined : Bool)
  | item (key : List Piece)

/-- How the value of a name is used in a word. -/
inductive ValueRule where
  | plain
  | length
  | default (orEmpty : Bool) (word : List Piece)
  | assign (orEmpty : Bool) (word : List Piece)
  | alternative (orEmpty : Bool) (word : List Piece)
  | demand (orEmpty : Bool) (word : List Piece)
  | dropFront (greedy : Bool) (pattern : List Piece)
  | dropBack (greedy : Bool) (pattern : List Piece)
  | part (offset : List Piece) (count : Option (List Piece))
  | replace (rule : ReplaceRule) (pattern word : List Piece)
  | recase (how : Recasing) (throughout : Bool) (pattern : List Piece)
  | shown (how : Char)
  | keys
  | names

end

/-- A word: its parts in order. -/
abbrev Word := List Piece

/-- A change of what a descriptor stands for; a descriptor may be kept in a variable. -/
structure Redirect where
  descriptor : Nat
  holder : Option Raw := none
  direction : Direction
  target : Word

/-- The value of an assignment: a word, or the items of a list with the keys of some. -/
inductive Assigned where
  | word (w : Word)
  | items (ws : List (Option Word × Word))

/-- An assignment; one that `adds` puts the value behind the old one. -/
structure Assign where
  name : Raw
  key : Option Word
  adds : Bool
  value : Assigned

/-- What stands behind the name of a command: a word, or an assignment where the command makes some.
-/
inductive Argument where
  | word (w : Word)
  | assign (a : Assign)

/-- A condition in double brackets. -/
inductive Condition where
  | holds (w : Word)
  | unary (op : Raw) (w : Word)
  | binary (op : Raw) (a b : Word)
  | not (c : Condition)
  | both (a b : Condition)
  | either (a b : Condition)

/-- A script. -/
inductive Script where
  | nothing
  | simple (assigns : List Assign) (words : List Argument) (redirects : List Redirect)
  | pipe (negated : Bool) (stages : List Script)
  | join (joint : Joint) (first second : Script)
  | choose (condition yes no : Script)
  | loop (whileFails : Bool) (condition body : Script)
  | each (name : Raw) (words : Option (List Word)) (body : Script)
  | count (start test step : Word) (body : Script)
  | select (word : Word) (arms : List (List Word × Script × ArmEnd))
  | group (body : Script) (redirects : List Redirect)
  | nested (body : Script) (redirects : List Redirect)
  | reckon (text : Word)
  | test (condition : Condition)
  | background (body : Script)
  | define (name : Raw) (body : Script)

end NativeBuild.Shell
