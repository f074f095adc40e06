import NativeBuild.Userland.Shell.Quote

/-!
The grammar of scripts: where words and lists of commands end, and the signs and names that have a
meaning of their own.
-/

namespace NativeBuild.Shell

/-- What a script is written in: its language, whether bracketed patterns may offer choices, and the
names that stand for other text at the start of a command. -/
structure Grammar where
  language : Language
  choices : Bool := false
  aliases : List (Raw × Raw) := []

namespace Grammar

/-- Whether the language is the rich one. -/
def isRich (g : Grammar) : Bool :=
  g.language = .rich

end Grammar

/-- Where the text that is being read ends, and whether it stands between double quotes.  Brackets
of the kind that `nests` may stand in it. -/
structure Ending where
  stops : Char → Bool
  mayEnd : Bool
  isQuoted : Bool
  nests : Option (Char × Char) := none
  skipsQuotes : Bool := false

namespace Ending

/-- A word ends where something else starts. -/
def word : Ending := ⟨isBreak, true, false, none, false⟩

/-- Text between double quotes. -/
def double : Ending := ⟨(· = '"'), false, true, none, false⟩

/-- The lines of a text in a script. -/
def lines : Ending := ⟨fun _ => false, true, true, none, false⟩

/-- A word that a rule uses, between braces. -/
def brace (isQuoted : Bool) : Ending := ⟨(· = '\x7d'), false, isQuoted, none, true⟩

/-- A part of what stands between braces, up to a mark. -/
def braceUntil (mark : Char) : Ending :=
  ⟨fun c => c = '\x7d' || c = mark, false, false, none, false⟩

/-- A sum between round brackets. -/
def sum : Ending := ⟨(· = ')'), false, true, some ('(', ')'), true⟩

/-- A part of a sum, up to a semicolon. -/
def sumPart : Ending := ⟨fun c => c = ';' || c = ')', false, true, some ('(', ')'), true⟩

/-- The key of an item. -/
def key : Ending := ⟨(· = ']'), false, false, some ('[', ']'), false⟩

/-- A regular expression. -/
def regex : Ending :=
  ⟨fun c => c = ' ' || c = '\t' || c = '\n', false, false, some ('(', ')'), false⟩

/-- What a pattern offers to choose from. -/
def choices : Ending := ⟨(· = ')'), false, false, some ('(', ')'), false⟩

end Ending

/-- The words in front of which a list of commands ends. -/
def closers : List String :=
  ["then", "else", "elif", "fi", "do", "done", "esac", "\x7d"]

/-- Whether a list of commands ends here. -/
def endsList (g : Grammar) (text : Raw) : Bool :=
  match text with
  | [] => true
  | ')' :: _ => true
  | ';' :: ';' :: _ => true
  | ';' :: '&' :: _ => true
  | _ => ((keyword? g.language text).map fun (w, _) => closers.contains w).getD false

/-- The descriptor or the name in front of a redirection, and the text from its sign on. -/
def redirectLead (g : Grammar) (text : Raw) : Option Nat × Option Raw × Raw :=
  let digits := text.takeWhile Text.isDigit
  let rest := text.drop digits.length
  let mayLead := g.isRich || digits.length ≤ 1
  if !digits.isEmpty && mayLead then (some (Text.decimalValue digits), none, rest)
  else
    match g.language, text with
    | .rich, '\x7b' :: inner =>
      let name := inner.takeWhile isNameChar
      match inner.drop name.length with
      | '\x7d' :: '<' :: rest => (none, some name, '<' :: rest)
      | '\x7d' :: '>' :: rest => (none, some name, '>' :: rest)
      | _ => (none, none, text)
    | _, _ => (none, none, text)

/-- The sign of a redirection: what it does, the descriptor that it is usually about, and what
follows; the text in a script is told apart by whether tabs are taken off its lines. -/
inductive RedirectSign where
  | plain (direction : Direction) (usual : Nat) (rest : Raw)
  | text (stripTabs : Bool) (rest : Raw)
  | both (direction : Direction) (rest : Raw)

/-- The sign of a redirection in front of a text. -/
def redirectSign? (g : Grammar) (text : Raw) : Option RedirectSign :=
  match text with
  | '<' :: '<' :: '<' :: rest => if g.isRich then some (.plain .line 0 rest) else none
  | '<' :: '<' :: '-' :: rest => some (.text true rest)
  | '<' :: '<' :: rest => some (.text false rest)
  | '<' :: '&' :: rest => some (.plain .copy 0 rest)
  | '<' :: '>' :: rest => some (.plain .both 0 rest)
  | '<' :: rest => if g.isRich && rest.head? = some '(' then none else some (.plain .input 0 rest)
  | '>' :: '>' :: rest => some (.plain .append 1 rest)
  | '>' :: '&' :: rest => some (.plain .copy 1 rest)
  | '>' :: '|' :: rest => some (.plain .force 1 rest)
  | '>' :: rest => if g.isRich && rest.head? = some '(' then none else some (.plain .output 1 rest)
  | '&' :: '>' :: '>' :: rest => if g.isRich then some (.both .append rest) else none
  | '&' :: '>' :: rest => if g.isRich then some (.both .output rest) else none
  | _ => none

/-- The commands whose arguments may be assignments. -/
def assigners : List String :=
  ["declare", "typeset", "local", "export", "readonly"]

/-- The commands in front of which assignments stay, and whose faults end a plain shell. -/
def specialNames : List String :=
  [":", ".", "break", "continue", "eval", "exec", "exit", "export", "readonly", "return", "set",
    "shift", "times", "trap", "unset"]

/-- Put a redirection of the messages behind others. -/
def withMessages (redirects : List Redirect) : List Redirect :=
  redirects ++ [⟨2, none, .copy, [.plain ['1']]⟩]

/-- The operators of conditions between two words. -/
def conditionOperators : List String :=
  ["==", "=", "!=", "=~", "<", ">", "-eq", "-ne", "-lt", "-le", "-gt", "-ge", "-nt", "-ot", "-ef"]

end NativeBuild.Shell
