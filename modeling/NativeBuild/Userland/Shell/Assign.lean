import NativeBuild.Userland.Shell.Fill

/-!
Assignments: their words are filled in first, and then they are made.
-/

namespace NativeBuild.Shell

/-- The filled value of an assignment: a text, or items with the keys of some. -/
inductive SetterValue where
  | text (value : Raw)
  | items (all : List (Option Raw × Raw))

/-- An assignment whose words are filled in. -/
structure Setter where
  name : Raw
  key : Option Raw := none
  adds : Bool := false
  value : SetterValue

/-- Fill in the items of a list; an item without a key may stand for several. -/
def fillItems (go : Go) :
    List (Option Word × Word) → State → State × List (Option Raw × Raw)
  | [], s => (s, [])
  | (some key, w) :: rest, s =>
    let (s, key) := oneText go key s
    let (s, text) := assignedText go w s
    let (s, more) := fillItems go rest s
    (s, (some key, text) :: more)
  | (none, w) :: rest, s =>
    let (s, words) := allWords go [w] s
    let (s, more) := fillItems go rest s
    (s, words.map (none, ·) ++ more)

/-- Fill in the words of an assignment. -/
def Assign.fill (go : Go) (a : Assign) (s : State) : State × Setter :=
  let (s, key) : State × Option Raw :=
    match a.key with
    | some key =>
      let (s, key) := oneText go key s
      (s, some key)
    | none => (s, none)
  match a.value with
  | .word w =>
    let (s, text) := assignedText go w s
    (s, { name := a.name, key, adds := a.adds, value := .text text })
  | .items ws =>
    let (s, items) := fillItems go ws s
    (s, { name := a.name, key, adds := a.adds, value := .items items })

/-- The place behind the last item of a list. -/
def placeBehind (items : List (Nat × Raw)) : Nat :=
  items.foldl (fun place item => max place (item.1 + 1)) 0

/-- The value of a sum; one that cannot be worked out is a fault. -/
def State.sumOf (s : State) (text : Raw) : State × Int :=
  match s.reckon? text with
  | some (n, s) => (s, n)
  | none => (s.fault (text ++ rawString ": bad sum"), 0)

/-- Put items into a list, each at its place or behind the one before. -/
def State.listWith (s : State) :
    List (Option Raw × Raw) → Nat → List (Nat × Raw) → State × List (Nat × Raw)
  | [], _, items => (s, items)
  | (none, text) :: rest, place, items =>
    listWith s rest (place + 1) (State.insertItem place text items)
  | (some key, text) :: rest, _, items =>
    let (s, n) := s.sumOf key
    let place := listPlace items n
    listWith s rest (place + 1) (State.insertItem place text items)

/-- Put items into a table; without keys, they come in pairs. -/
def tableWith : List (Option Raw × Raw) → List (Raw × Raw) → List (Raw × Raw)
  | [], items => items
  | (some key, text) :: rest, items => tableWith rest (State.insertKey key text items)
  | (none, key) :: (none, text) :: rest, items => tableWith rest (State.insertKey key text items)
  | (none, key) :: rest, items => tableWith rest (State.insertKey key [] items)

/-- A text as a variable takes it that may hold a number, in the place of an old one or behind it.
-/
def State.shaped (s : State) (v : Variable) (old text : Raw) (adds : Bool) : State × Raw :=
  if v.number then
    let (s, n) := s.sumOf text
    let (s, before) := if adds then s.sumOf old else (s, 0)
    (s, Text.signedDecimal (wrapped (before + n)))
  else (s, if adds then old ++ text else text)

/-- Make an assignment. -/
def Setter.make (a : Setter) (s : State) : State :=
  let name := s.resolve a.name
  let v := (s.var? name).getD {}
  match a.value, a.key with
  | .text text, none =>
    let (s, text) := s.shaped v ((s.get? name).getD []) text a.adds
    if s.broken then s else s.set name text
  | .text text, some key =>
    if s.isTable name then
      let (s, text) := s.shaped v (((s.tableOf name).lookup key).getD []) text a.adds
      s.setKey name key text
    else
      let (s, n) := s.sumOf key
      if s.broken then s
      else
        let items := s.listOf name
        let old := (items.lookup (listPlace items n)).getD []
        let (s, text) := s.shaped v old text a.adds
        s.setItem name n text
  | .items all, _ =>
    if s.isTable name then
      s.assign name (.table (tableWith all (if a.adds then s.tableOf name else [])))
    else
      let old := if a.adds then s.listOf name else []
      let (s, items) := s.listWith all (placeBehind old) old
      if s.broken then s else s.assign name (.list items)

/-- Make assignments in turn; the first that fails is the last. -/
def assignAll (go : Go) : List Assign → State → State
  | [], s => s
  | a :: rest, s =>
    let (s, setter) := a.fill go s
    if s.broken then s
    else
      let s := setter.make s
      if s.broken then s else assignAll go rest s

end NativeBuild.Shell
