import NativeBuild.Userland.Tool.Awk.Operation
import NativeBuild.Userland.Tool.Awk.Stream
import NativeBuild.Userland.Tool.Files

/-!
Expressions and statements of a program as they are evaluated and executed, in at most so many
steps.
-/

namespace NativeBuild.Tool.Awk

open Calendar (Moment)
open Shell (Raw rawString rawPath isName)
open Text (Regex Subject)

mutual

/-- The value of an expression. -/
def evaluate (c : Call) : Nat → Expr → Step Value
  | 0, _ => throw .exit
  | fuel + 1, e => do
    let number (e : Expr) : Step Float := return (← evaluate c fuel e).toNumber
    let text (e : Expr) : Step Raw := do
      let v ← evaluate c fuel e
      return v.toText (← getThe Run).conversion
    match e with
    | .number n => return .number n
    | .text t => return .text t
    | .regex r => return truth (r.search ⟨(← getThe Run).record.toArray, false⟩ 0).isSome
    | .var name =>
      match (← getThe Run).slot name with
      | .value v => return v
      | _ => return .unset
    | .item name keys =>
      let key ← keyOf c fuel keys
      let (r, id) := (← getThe Run).arrayOf name
      match (r.items id).lookup key with
      | some v =>
        set r
        return v
      | none =>
        set (r.putItem id key .unset)
        return .unset
    | .field e => return (← getThe Run).field (← fieldNumber c fuel e)
    | .assign none target value =>
      let v ← evaluate c fuel value
      store c fuel target v
      return v
    | .assign (some op) target value =>
      let b ← number value
      let a ← number target
      let v : Value := .number (op.apply a b)
      store c fuel target v
      return v
    | .step before delta target =>
      let a ← number target
      store c fuel target (.number (a + delta))
      return .number (if before then a + delta else a)
    | .choose condition yes no =>
      if (← evaluate c fuel condition).isTrue then evaluate c fuel yes else evaluate c fuel no
    | .and a b =>
      if (← evaluate c fuel a).isTrue then return truth (← evaluate c fuel b).isTrue
      else return truth false
    | .or a b =>
      if (← evaluate c fuel a).isTrue then return truth true
      else return truth (← evaluate c fuel b).isTrue
    | .not a => return truth !(← evaluate c fuel a).isTrue
    | .negative a => return .number (-(← number a))
    | .plain a => return .number (← number a)
    | .arithmetic op a b =>
      let x ← number a
      let y ← number b
      return .number (op.apply x y)
    | .compare op a b =>
      let x ← evaluate c fuel a
      let y ← evaluate c fuel b
      return truth (op.holds (← getThe Run).conversion x y)
    | .concat a b =>
      let x ← text a
      let y ← text b
      return .text (x ++ y)
    | .fits negated a b =>
      let x ← text a
      let r ← regexFor c fuel b
      return truth ((r.search ⟨x.toArray, false⟩ 0).isSome != negated)
    | .has keys name =>
      let key ← keyOf c fuel keys
      let (r, id) := (← getThe Run).arrayOf name
      set r
      return truth ((r.items id).lookup key).isSome
    | .call name args => call c fuel name args
    | .known name args => known c fuel name args
    | .record inlet source target => record c fuel inlet source target
    | .group [e] => evaluate c fuel e
    | .group es => return .text (← keyOf c fuel es)

/-- The text of a key that may have several parts. -/
def keyOf (c : Call) : Nat → List Expr → Step Raw
  | 0, _ => throw .exit
  | _, [] => return []
  | fuel + 1, e :: es => do
    let v ← evaluate c fuel e
    let first := v.toText (← getThe Run).conversion
    if es.isEmpty then return first
    else
      let rest ← keyOf c fuel es
      return first ++ (← getThe Run).setting "SUBSEP" ++ rest

/-- The number of a field. -/
def fieldNumber (c : Call) : Nat → Expr → Step Nat
  | 0, _ => throw .exit
  | fuel + 1, e => do
    let n := wholePart (← evaluate c fuel e).toNumber
    if n < 0 then fault c (rawString "negative field index") else return n.toNat

/-- Put a value into a place. -/
def store (c : Call) : Nat → Expr → Value → Step Unit
  | 0, _, _ => throw .exit
  | fuel + 1, target, v => do
    match target with
    | .var name => update fun r => r.putVar name v
    | .item name keys =>
      let key ← keyOf c fuel keys
      let (r, id) := (← getThe Run).arrayOf name
      set (r.putItem id key v)
    | .field e =>
      let n ← fieldNumber c fuel e
      update fun r => r.putField n (v.toText r.conversion)
    | _ => return ()

/-- The regular expression that an expression stands for. -/
def regexFor (c : Call) : Nat → Expr → Step Regex
  | 0, _ => throw .exit
  | fuel + 1, e => do
    match e with
    | .regex r => return r
    | .group [.regex r] => return r
    | e =>
      let v ← evaluate c fuel e
      return regexOf (v.toText (← getThe Run).conversion)

/-- The values of expressions. -/
def evaluateAll (c : Call) : Nat → List Expr → Step (List Value)
  | 0, _ => throw .exit
  | _, [] => return []
  | fuel + 1, e :: es => do
    let v ← evaluate c fuel e
    return v :: (← evaluateAll c fuel es)

/-- What the parameters of a function stand for: an array that is given is shared. -/
def argumentsOf (c : Call) : Nat → List Expr → Step (List Slot)
  | 0, _ => throw .exit
  | _, [] => return []
  | fuel + 1, e :: es => do
    let s : Slot ← match e with
      | .var name => do
        let r ← getThe Run
        match r.slot name with
        | .free none => do
          let s : Slot := .free (some r.next)
          set ({ r with next := r.next + 1 }.putSlot name s)
          pure s
        | s => pure s
      | e => do pure (.value (← evaluate c fuel e))
    return s :: (← argumentsOf c fuel es)

/-- Call a function of the program. -/
def call (c : Call) : Nat → Raw → List Expr → Step Value
  | 0, _, _ => throw .exit
  | fuel + 1, name, args => do
    let slots ← argumentsOf c fuel args
    let r ← getThe Run
    match r.functions.find? (·.name = name) with
    | none => fault c (rawString "function not defined: " ++ name)
    | some f =>
      let given := f.params.zipIdx.map fun (p, k) => (p, slots[k]?.getD (.free none))
      set { r with locals := some given }
      let after ← execute c fuel f.body
      update fun s => { s with locals := r.locals }
      match after with
      | .return v => return v
      | _ => return .unset

/-- Call a function that is known from the start. -/
def known (c : Call) : Nat → String → List Expr → Step Value
  | 0, _, _ => throw .exit
  | fuel + 1, name, args => do
    let text (e : Expr) : Step Raw := do
      let v ← evaluate c fuel e
      return v.toText (← getThe Run).conversion
    let count (n : Nat) : Value := .number (Float.ofNat n)
    let replace (all : Bool) (pattern word target : Expr) : Step Value := do
      let r ← regexFor c fuel pattern
      let word ← text word
      let old ← text target
      let (new, n) := replaceMatches r word old all
      if n ≠ 0 then store c fuel target (.text new)
      return count n
    let split (e : Expr) (array : Raw) (cut : Raw → Step (List Raw)) : Step Value := do
      let fields ← cut (← text e)
      let (r, id) := (← getThe Run).arrayOf array
      set (r.putList id fields)
      return count fields.length
    match name, args with
    | "length", [] => return count (← getThe Run).record.length
    | "length", [.var name] =>
      let r ← getThe Run
      match r.slot name with
      | .array id => return count (r.items id).length
      | .value v => return count (v.toText r.conversion).length
      | .free _ => return count 0
    | "length", [e] => return count (← text e).length
    | "substr", [e, start] =>
      let t ← text e
      return .text (partOf t (wholePart (← evaluate c fuel start).toNumber) none)
    | "substr", [e, start, n] =>
      let t ← text e
      let start := wholePart (← evaluate c fuel start).toNumber
      return .text (partOf t start (some (wholePart (← evaluate c fuel n).toNumber)))
    | "index", [e, part] =>
      let t ← text e
      let part ← text part
      let place := (List.range (t.length + 1)).find? fun k => part.isPrefixOf (t.drop k)
      return count ((place.map (· + 1)).getD 0)
    | "split", [e, .var array] =>
      split e array fun t => return splitFields ((← getThe Run).setting "FS") t
    | "split", [e, .var array, .regex r] =>
      split e array fun t => return if t.isEmpty then [] else piecesBetween r t
    | "split", [e, .var array, separator] =>
      split e array fun t => return splitFields (← text separator) t
    | "sub", [pattern, word] => replace false pattern word (.field (.number 0))
    | "sub", [pattern, word, target] => replace false pattern word target
    | "gsub", [pattern, word] => replace true pattern word (.field (.number 0))
    | "gsub", [pattern, word, target] => replace true pattern word target
    | "match", [e, pattern] =>
      let t ← text e
      let r ← regexFor c fuel pattern
      let (start, size) : Float × Float := match r.search ⟨t.toArray, false⟩ 0 with
        | some m => (Float.ofNat (m.start + 1), Float.ofNat (m.stop - m.start))
        | none => (0, -1)
      update fun r => (r.putSetting "RSTART" (.number start)).putSetting "RLENGTH" (.number size)
      return .number start
    | "sprintf", args =>
      let (text, isWhole) ← formatted c fuel args
      if isWhole then return .text text else fault c (rawString "bad format")
    | "tolower", [e] => return .text ((← text e).map Char.toLower)
    | "toupper", [e] => return .text ((← text e).map Char.toUpper)
    | "system", [e] =>
      match ← runCommand c (← text e) id with
      | .status n => return count n
      | .signal n => return count (256 + n)
    | "close", [e] =>
      let name ← text e
      let first ← closeStream c (true, name)
      let second ← closeStream c (false, name)
      match first, second with
      | some exit, _ => return count exit.seen
      | none, some exit => return count exit.seen
      | none, none => return .number (-1)
    | "fflush", args =>
      let _ ← evaluateAll c fuel args
      return count 0
    | "rand", [] =>
      let r ← getThe Run
      let seed := (r.seed * 6364136223846793005 + 1442695040888963407) % 0x10000000000000000
      set { r with seed }
      return .number (Float.ofNat (seed / 2048) / 9007199254740992)
    | "srand", args =>
      let vs ← evaluateAll c fuel args
      let old := (← getThe Run).seed
      update fun r => { r with seed := (wholePart (vs.headD (.number 1)).toNumber).toNat }
      return count old
    | "systime", [] =>
      return .number (ofWhole (Moment.ofTime (← getThe Process).world.clock).seconds)
    | "strftime", args =>
      let vs ← evaluateAll c fuel args
      let format := (vs[0]?.map fun v => v.toText []).getD "%c".toList
      let seconds ← match vs[1]? with
        | some v => pure (wholePart v.toNumber)
        | none => pure (Moment.ofTime (← getThe Process).world.clock).seconds
      return .text (({ seconds } : Moment).shownBy format)
    | "mktime", [e] =>
      match (Text.pieces ' ' (← text e)).map Text.decimal? with
      | some y :: some m :: some d :: some h :: some n :: some s :: _ =>
        return .number (ofWhole (Calendar.daysTo y m d * 86400 + (h * 3600 + n * 60 + s : Nat)))
      | _ => return .number (-1)
    | name, args =>
      let vs ← evaluateAll c fuel args
      match numberFunction? name (vs.map Value.toNumber) with
      | some n => return .number n
      | none => fault c (rawString ("wrong number of arguments: " ++ name))

/-- A format filled in with values, and whether it could be filled in to its end. -/
def formatted (c : Call) : Nat → List Expr → Step (Raw × Bool)
  | 0, _ => throw .exit
  | fuel + 1, args => do
    match ← evaluateAll c fuel args with
    | format :: values =>
      let conversion := (← getThe Run).conversion
      let format := format.toText conversion
      return formatText conversion (format.length + 1) format values
    | [] => return ([], true)

/-- Read one record and put it where it belongs: the answer is one, zero at the end, and less than
that if nothing can be read. -/
def record (c : Call) : Nat → Inlet → Option Expr → Option Expr → Step Value
  | 0, _, _, _ => throw .exit
  | fuel + 1, inlet, source, target => do
    let name : Raw ← match source with
      | some e => do
        let v ← evaluate c fuel e
        pure (v.toText (← getThe Run).conversion)
      | none => pure []
    let taken : Option (Option Raw) ← match inlet with
      | .main => do pure (some (← nextRecord c 100000))
      | .file => takeFrom (false, name) do
          match ← content name with
          | .ok text => return some text
          | .error _ => return none
      | .command => takeFrom (true, name) do return some (← outputOf c name)
    match taken with
    | none => return .number (-1)
    | some none => return .number 0
    | some (some text) =>
      match target with
      | some place => store c fuel place (.input text)
      | none => update fun r => r.putRecord text
      if inlet = .command then update fun r => r.counted false
      return .number 1

/-- Do what a statement says. -/
def execute (c : Call) : Nat → Statement → Step After
  | 0, _ => throw .exit
  | fuel + 1, s => do
    let optional (e : Option Expr) : Step Value :=
      match e with
      | some e => evaluate c fuel e
      | none => return .unset
    let outlet (o : Option (Outlet × Expr)) : Step (Option (Outlet × Raw)) := do
      match o with
      | some (kind, e) =>
        let v ← evaluate c fuel e
        return some (kind, v.toText (← getThe Run).conversion)
      | none => return none
    match s with
    | .block body => executeAll c fuel body
    | .expr e =>
      let _ ← evaluate c fuel e
      return .next
    | .print args o =>
      let vs ← evaluateAll c fuel args
      let o ← outlet o
      let r ← getThe Run
      let texts := vs.map (Value.toText (r.setting "OFMT"))
      let line := if args.isEmpty then r.record else (r.setting "OFS").intercalate texts
      writeTo c o (line ++ r.setting "ORS")
      return .next
    | .printf args o =>
      let (text, isWhole) ← formatted c fuel args
      let o ← outlet o
      writeTo c o text
      if isWhole then return .next else fault c (rawString "bad format")
    | .choose condition yes no =>
      if (← evaluate c fuel condition).isTrue then execute c fuel yes else execute c fuel no
    | .whilst condition body => repeatWhile c fuel (some condition) (.block []) body
    | .doWhile body condition =>
      match ← execute c fuel body with
      | .break => return .next
      | .return v => return .return v
      | _ => repeatWhile c fuel (some condition) (.block []) body
    | .loop start condition step body =>
      let _ ← execute c fuel start
      repeatWhile c fuel condition step body
    | .each name array body =>
      let (r, id) := (← getThe Run).arrayOf array
      set r
      forKeys c fuel name id (keysInOrder (r.items id)) body
    | .break => return .break
    | .continue => return .continue
    | .next => throw .next
    | .nextFile => throw .nextFile
    | .exit e =>
      if e.isSome then
        let v ← optional e
        update fun r => { r with status := ((wholePart v.toNumber) % 256).toNat }
      throw .exit
    | .return e => return .return (← optional e)
    | .delete name none =>
      let (r, id) := (← getThe Run).arrayOf name
      set (r.putItems id [])
      return .next
    | .delete name (some keys) =>
      let key ← keyOf c fuel keys
      let (r, id) := (← getThe Run).arrayOf name
      set (r.putItems id ((r.items id).filter (·.1 ≠ key)))
      return .next

/-- Do what statements say, one after the other. -/
def executeAll (c : Call) : Nat → List Statement → Step After
  | 0, _ => throw .exit
  | _, [] => return .next
  | fuel + 1, s :: rest => do
    match ← execute c fuel s with
    | .next => executeAll c fuel rest
    | after => return after

/-- Do what a statement says for as long as a condition holds. -/
def repeatWhile (c : Call) : Nat → Option Expr → Statement → Statement → Step After
  | 0, _, _, _ => throw .exit
  | fuel + 1, condition, step, body => do
    let holds ← match condition with
      | some e => do pure (← evaluate c fuel e).isTrue
      | none => pure true
    if !holds then return .next
    else
      match ← execute c fuel body with
      | .break => return .next
      | .return v => return .return v
      | _ =>
        let _ ← execute c fuel step
        repeatWhile c fuel condition step body

/-- Do what a statement says for each key of an array that is still there. -/
def forKeys (c : Call) : Nat → Raw → Nat → List Raw → Statement → Step After
  | 0, _, _, _, _ => throw .exit
  | _, _, _, [], _ => return .next
  | fuel + 1, name, id, key :: keys, body => do
    update fun r => r.putVar name (.text key)
    match ← execute c fuel body with
    | .break => return .next
    | .return v => return .return v
    | _ => forKeys c fuel name id keys body

end

end NativeBuild.Tool.Awk
