import Shakedown.Number.Binary64
import Shakedown.Scan.Record

/-!
# Running scanning scripts

Expressions are evaluated and statements carried out; how deep they may lie in one another, calls of
functions counted, is bounded. A script runs its rules for the beginning, then the others for every
record, and those for the end.
-/

set_option autoImplicit false

namespace Shakedown.Scan.Run

/-! ## Functions of texts and numbers -/

/-- The part of a text from a place on with a length; places are counted from one. -/
def part (s : Chars) (start : Float) (length? : Option Float) : Chars :=
  let first := wholePart start
  match length? with
  | none => s.drop (first - 1).toNat
  | some l =>
    let count := wholePart l
    let count := if first < 1 then count + first - 1 else count
    (s.drop (first - 1).toNat).take count.toNat

/-- Where a text stands in another one, counted from one; zero if it does not. -/
def placeOf (s part : Chars) : Nat :=
  ((List.range (s.length + 1)).find? fun n => part.isPrefixOf (s.drop n)).elim 0 (· + 1)

/-- What takes the place of a match: an ampersand stands for the match itself, unless there is a
backslash before it. -/
def replacement (found : Chars) : Chars → Chars
  | [] => []
  | '\\' :: '\\' :: '&' :: more => '\\' :: found ++ replacement found more
  | '\\' :: '&' :: more => '&' :: replacement found more
  | '&' :: more => found ++ replacement found more
  | c :: more => c :: replacement found more

/-- A text with matches replaced, the first of which is behind a place. -/
def replaced (whole new : Chars) : Nat → Chars → List Match → Chars
  | _, rest, [] => rest
  | at_, rest, m :: more =>
    rest.take (m.start - at_) ++ replacement ((m.group? whole 0).getD []) new
      ++ replaced whole new m.stop.offset m.stop.rest more

/-- The next random number: a step of a linear congruence. -/
def nextRandom (x : UInt64) : UInt64 :=
  x * 6364136223846793005 + 1442695040888963407

/-- A random number as one between zero and one. -/
def unitOf (x : UInt64) : Float :=
  Float.ofNat (x.toNat / twoTo 11) / Float.ofNat (twoTo 53)

/-- A number without its fraction. -/
def truncated (x : Float) : Float :=
  if x < 0.0 then x.ceil else x.floor

/-! ## Formats -/

/-- Writes a value as a directive tells. -/
def directed (d : Directive) (v : Value) : Run Chars := do
  match d.letter with
  | 'c' =>
    let c : Chars := match v with
      | .number x => [Char.ofNat ((wholePart x % 256).toNat)]
      | .input s =>
        if looksNumeric s then [Char.ofNat ((wholePart (leadingFloat s) % 256).toNat)]
        else s.take 1
      | .text s => s.take 1
      | .unset => []
    return d.padded c
  | 's' => return d.text (← textOf v)
  | letter =>
    let x := v.toFloat
    if letter = 'd' || letter = 'i' then return d.integer (wholePart x)
    else if "ouxX".toList.contains letter then return d.natural (wholePart x)
    else return d.quantity .double (quantityOf x)

/-- The letters of directives. -/
def directiveLetters : Chars := "cdiouxXeEfFgGaAs".toList

/-- Complains about arguments that are missing. -/
def missing (function : String) (form : Chars) : Run Unit :=
  fail ("not enough arguments passed to ".toList ++ function.toList ++ "(\"".toList ++ form
    ++ "\")".toList)

/-- A measure of a directive, which may be left to the first of some values. -/
def measure (m : Measure) (values : List Value) : Option Int × List Value × Bool :=
  match m with
  | .unset => (none, values, true)
  | .given n => (some n, values, true)
  | .argument =>
    match values with
    | v :: more => (some (wholePart v.toFloat), more, true)
    | [] => (none, [], false)

/-- Writes values as a format tells. What was written so far comes out even if a value is
missing. -/
def formatAll (function : String) (form : Chars) (finish : Chars → Run Unit) :
    Nat → Chars → List Value → Chars → Run Chars
  | 0, _, _, done => return done
  | _ + 1, [], _, done => return done
  | n + 1, '%' :: '%' :: more, values, done =>
    formatAll function form finish n more values (done ++ ['%'])
  | n + 1, '%' :: more, values, done => do
    let (spec, rest) := Specification.read "hlLqjzt".toList more
    match spec.letter with
    | none => return done ++ '%' :: more
    | some letter =>
      if !directiveLetters.contains letter then
        formatAll function form finish n more values (done ++ ['%'])
      else
        let (width?, values, hasWidth) := measure spec.width values
        let (precision?, values, hasPrecision) := measure spec.precision values
        let width := width?.getD 0
        let flags := if width < 0 then '-' :: spec.flags else spec.flags
        let d : Directive :=
          { flags, width := width.natAbs, letter
            precision := precision?.bind fun p => if p < 0 then none else some p.toNat }
        match hasWidth && hasPrecision, values with
        | true, v :: more => formatAll function form finish n rest more (done ++ (← directed d v))
        | _, _ =>
          finish done
          missing function form
          return done
  | n + 1, c :: more, values, done => do
    let plain := c :: more.takeWhile (· ≠ '%')
    formatAll function form finish n (more.drop (plain.length - 1)) values (done ++ plain)

/-- Writes values as a format tells that comes first. -/
def formatted (function : String) (finish : Chars → Run Unit) (values : List Value) :
    Run Chars := do
  match values with
  | [] => return []
  | v :: more =>
    let form ← textOf v
    formatAll function form finish (form.length + 1) form more []

/-! ## Expressions -/

/-- Where a value can be put. -/
inductive Target where
  /-- A name. -/
  | name (s : Chars)
  /-- A cell of a table. -/
  | cell (table : Nat) (k : Key)
  /-- A field. -/
  | field (n : Nat)

/-- The value of a target. -/
def Target.get : Target → Run Value
  | .name s => valueOf s
  | .cell table k => Run.cell table k
  | .field n => Run.field n

/-- Sets a target. -/
def Target.set (v : Value) : Target → Run Unit
  | .name s => setName s v
  | .cell table k => do setTable table ((← tableAt table).set k v)
  | .field n => setField n v

/-- The number of a field. -/
def fieldNumber (v : Value) : Run Nat := do
  let n := wholePart v.toFloat
  if n < 0 then fail ("negative field index $".toList ++ Chars.ofInt n)
  if n > countLimit then fail ("field index $".toList ++ Chars.ofInt n ++ " too big".toList)
  return n.toNat

/-- How many values are kept for expressions that are not finished. -/
def stackSize : Nat := 1024

/-- How many of them the arguments of functions may take. -/
def heldLimit : Nat := stackSize - 4

/-- Complains about calls that lie too deep in one another. -/
def tooDeep {α : Type} : Run α := do
  grumble ("program limit exceeded: eval stack size=".toList ++ Chars.ofNat stackSize)
  flushAll
  Act.exit failureStatus

/-- The value of a function of numbers. -/
def calculated (f : String) (x y : Float) : Float :=
  match f with
  | "sin" => x.sin
  | "cos" => x.cos
  | "exp" => x.exp
  | "log" => x.log
  | "sqrt" => x.sqrt
  | "int" => truncated x
  | _ => Float.atan2 x y

/-- The value of a function that only needs the values of its arguments. -/
def applied (f : String) (values : List Value) : Run Value := do
  let first := values.headD .unset
  let second := values.getD 1 .unset
  match f with
  | "index" => return .ofNat (placeOf (← textOf first) (← textOf second))
  | "substr" =>
    return .text (part (← textOf first) second.toFloat (values[2]?.map Value.toFloat))
  | "sprintf" => return .text (← formatted f (fun _ => pure ()) values)
  | "tolower" => return .text ((← textOf first).map Char.toLower)
  | "toupper" => return .text ((← textOf first).map Char.toUpper)
  | "rand" =>
    modify fun s => { s with random := nextRandom s.random }
    return .number (unitOf (← get).random)
  | "srand" =>
    let before := (← get).seed
    let seed := if values.isEmpty then .number 0.0 else first
    modify fun s => { s with seed, random := nextRandom (wholePart seed.toFloat).toNat.toUInt64 }
    return before
  | "close" => return .ofInt (← close (← textOf first))
  | "fflush" =>
    flushAll
    return .number 0.0
  | "system" => return .ofNat (← system (← textOf first))
  | _ => return .number (calculated f first.toFloat second.toFloat)

/-- What a target for a line is by itself: the record. -/
def putLine (target? : Option Target) (found : Chars) : Run Unit := do
  match target? with
  | none => setRecord found
  | some t => t.set (.input found)

/-- How often a loop may run. -/
def roundLimit : Nat := tenTo 12

/-- A round of a loop: nothing more comes when the condition does not hold. -/
def round (condition : Run Bool) (body step : Run Unit) : Run Bool := do
  if ← condition then
    match ← attempt body with
    | .ok () =>
      step
      return true
    | .error .again =>
      step
      return true
    | .error .leave => return false
    | .error j => throw j
  else return false

mutual

/-- The value of an expression. -/
def value : Nat → Expr → Run Value
  | 0, _ => tooDeep
  | n + 1, e => do
    match e with
    | .number x => return .number x
    | .text s => return .text s
    | .regex r => return .ofBool (r.occursIn {} (← textOf (← record)))
    | .name s => valueOf s
    | .element .. => (← target n e).get
    | .field _ => (← target n e).get
    | .assign t e =>
      let v ← value n e
      (← target n t).set v
      return v
    | .update o t e =>
      let x := (← value n e).toFloat
      let t ← target n t
      let v := Value.number (o.apply (← t.get).toFloat x)
      t.set v
      return v
    | .step t up before =>
      let t ← target n t
      let x := (← t.get).toFloat
      let y := if up then x + 1.0 else x - 1.0
      t.set (.number y)
      return .number (if before then x else y)
    | .negative e => return .number (-(← value n e).toFloat)
    | .positive e => return .number (← value n e).toFloat
    | .opposite e => return .ofBool (!(← value n e).isTrue)
    | .arithmetic o a b =>
      let x := (← value n a).toFloat
      let y := (← value n b).toFloat
      return .number (o.apply x y)
    | .concat a b =>
      let s ← textOf (← value n a)
      let t ← textOf (← value n b)
      return .text (s ++ t)
    | .compare c a b =>
      let v ← value n a
      let w ← value n b
      return .ofBool (c.holds (← format) v w)
    | .matches_ negated a b =>
      let s ← textOf (← value n a)
      let r ← pattern n b
      return .ofBool (r.occursIn {} s != negated)
    | .both a b =>
      if (← value n a).isTrue then return .ofBool (← value n b).isTrue else return .ofBool false
    | .either a b =>
      if (← value n a).isTrue then return .ofBool true else return .ofBool (← value n b).isTrue
    | .choice c a b => if (← value n c).isTrue then value n a else value n b
    | .isIn index t =>
      let k ← keyOf (← index.mapM (value n))
      let number ← tableOf t
      let (found?, t) := (← tableAt number).get? k
      setTable number t
      return .ofBool found?.isSome
    | .call f args => call n f args
    | .builtin f args => builtin n f args
    | .readNext target? =>
      let t? ← target?.mapM (target n)
      match ← nextRecord with
      | none => return .number 0.0
      | some found =>
        putLine t? found
        return .number 1.0
    | .readFile target? path =>
      let name ← textOf (← value n path)
      let t? ← target?.mapM (target n)
      readFrom false name t?
    | .readCommand target? command =>
      let name ← textOf (← value n command)
      let t? ← target?.mapM (target n)
      readFrom true name t?
    | .several items =>
      match items with
      | [e] => value n e
      | _ => return .text (← keyOf (← items.mapM (value n))).toChars

/-- The target that an expression is. -/
def target : Nat → Expr → Run Target
  | 0, _ => tooDeep
  | n + 1, e => do
    match e with
    | .name s => return .name s
    | .element t index =>
      let k ← keyOf (← index.mapM (value n))
      return .cell (← tableOf t) k
    | .field e => return .field (← fieldNumber (← value n e))
    | .several [e] => target n e
    | _ => fail "assignment to something else".toList

/-- The regular expression that an expression is. -/
def pattern : Nat → Expr → Run Regex
  | 0, _ => tooDeep
  | n + 1, e => do
    match e with
    | .regex r => return r
    | .several [e] => pattern n e
    | _ => patternOf (← textOf (← value n e))

/-- Reads a record of a file or of what a command writes. -/
def readFrom (isCommand : Bool) (name : Chars) (target? : Option Target) : Run Value := do
  match ← nextOf isCommand name with
  | none => return .number (-1.0)
  | some none => return .number 0.0
  | some (some found) =>
    putLine target? found
    return .number 1.0

/-- The value of a function of the script. -/
def call : Nat → Chars → List Expr → Run Value
  | 0, _, _ => tooDeep
  | n + 1, f, args => do
    match (← get).functions.lookup f with
    | none => fail ("function ".toList ++ f ++ " never defined".toList)
    | some function =>
      let slots ← args.mapM fun e => do
        match e with
        | .name s => if s = countName then return Slot.value (← value n e) else slotOf s
        | _ => return .value (← value n e)
      let outside := (← get).locals
      let held := (← get).held
      let heldInside := held + max 1 args.length
      if heldInside > heldLimit then tooDeep
      let locals := function.parameters.zipIdx.map fun (name, i) =>
        (name, (slots[i]?).getD (.value .unset))
      modify ({ · with locals, held := heldInside })
      let ended ← attempt (statement n function.body)
      modify ({ · with locals := outside, held })
      match ended with
      | .ok () => return .unset
      | .error (.answer v) => return v
      | .error j => throw j

/-- The value of a function that is always there. -/
def builtin : Nat → String → List Expr → Run Value
  | 0, _, _ => tooDeep
  | n + 1, f, args => do
    match f, args with
    | "length", [] => return .ofNat (← textOf (← record)).length
    | "length", [.name s] =>
      let slot ← if s = countName then pure (Slot.value (← valueOf s)) else slotOf s
      match slot with
      | .table number => return .ofNat (← tableAt number).cells.size
      | .value v => return .ofNat (← textOf v).length
    | "length", e :: _ => return .ofNat (← textOf (← value n e)).length
    | "split", e :: .name t :: more =>
      let s ← textOf (← value n e)
      let sep ← match more with
        | [] => separatorOf (← plainText "FS")
        | .regex r :: _ => pure (.regex r)
        | e :: _ => separatorOf (← textOf (← value n e))
      let parts := sep.cut s
      fill (← tableOf t) parts
      return .ofNat parts.length
    | "match", e :: p :: _ =>
      let s ← textOf (← value n e)
      let (start, length) := match (← pattern n p).find {} s with
        | some m => (Value.ofNat (m.start + 1), Value.ofNat (m.stop.offset - m.start))
        | none => (.number 0.0, .number (-1.0))
      setName "RSTART".toList start
      setName "RLENGTH".toList length
      return start
    | "sub", p :: e :: more => substitute n false p e more
    | "gsub", p :: e :: more => substitute n true p e more
    | _, _ => applied f (← args.mapM (value n))

/-- Replaces the first match in a target, or all of them; the record is the target if there is no
other. -/
def substitute : Nat → Bool → Expr → Expr → List Expr → Run Value
  | 0, _, _, _, _ => tooDeep
  | n + 1, all, p, e, more => do
    let r ← pattern n p
    let new ← textOf (← value n e)
    let t ← match more with
      | [] => pure (Target.field 0)
      | e :: _ => target n e
    let s ← textOf (← t.get)
    let found := if all then r.allMatches {} s else (r.find {} s).toList
    if !found.isEmpty then t.set (.input (replaced s new 0 s found))
    return .ofNat found.length

/-- Carries out a statement. -/
def statement : Nat → Stmt → Run Unit
  | 0, _ => tooDeep
  | n + 1, s => do
    match s with
    | .idle => return ()
    | .expr e =>
      let _ ← value n e
    | .print formats args outlet? =>
      let values ← args.mapM (value n)
      let goal? ← outlet?.mapM fun (outlet, e) => do return (outlet, ← textOf (← value n e))
      let put := fun (text : Chars) => goal?.elim (write text) fun (outlet, name) =>
        writeTo outlet name text
      if formats then put (← formatted "printf" put values)
      else
        let values ← if args.isEmpty then pure [← record] else pure values
        let numbers ← plainText "OFMT"
        let texts := values.map (Value.toChars numbers)
        put (Chars.joined (← plainText "OFS") texts ++ (← plainText "ORS"))
    | .choice c a b => if (← value n c).isTrue then statement n a else statement n b
    | .loop first c body =>
      let condition := do return (← value n c).isTrue
      let body := statement n body
      if first then
        if ← round (pure true) body (pure ()) then
          iterating (round condition body (pure ())) roundLimit
      else iterating (round condition body (pure ())) roundLimit
    | .counted start c? step body =>
      statement n start
      let condition := match c? with
        | none => pure true
        | some c => do return (← value n c).isTrue
      iterating (round condition (statement n body) (statement n step)) roundLimit
    | .each v t body =>
      let number ← tableOf t
      let (keys, t) := (← tableAt number).keys
      setTable number t
      for k in keys do
        setName v (.text k)
        if !(← round (pure true) (statement n body) (pure ())) then break
    | .block all => all.forM (statement n)
    | .nextRecord => throw .nextRecord
    | .nextFile => throw .nextFile
    | .leave => throw .leave
    | .again => throw .again
    | .exit status? =>
      if let some e := status? then
        let status := wholePart (← value n e).toFloat
        modify ({ · with status := (status % 256).toNat })
      throw .exit
    | .answer v? => throw (.answer (← v?.elim (pure .unset) (value n)))
    | .delete t index =>
      let number ← tableOf t
      if index.isEmpty then setTable number {}
      else
        let k ← keyOf (← index.mapM (value n))
        setTable number ((← tableAt number).erase k)

end

/-! ## Scripts -/

/-- How deep expressions and statements may lie in one another. -/
def depthLimit : Nat := 20000

/-- Whether a rule is pulled by the record. -/
def isPulled (place : Nat) (t : Trigger) : Run Bool := do
  match t with
  | .start => return false
  | .finish => return false
  | .always => return true
  | .where_ c => return (← value depthLimit c).isTrue
  | .range first last =>
    let inside := ((← get).inside[place]?).getD false
    let begins ← if inside then pure true else do
      pure (← value depthLimit first).isTrue
    if begins then
      let ends := (← value depthLimit last).isTrue
      modify fun s => { s with inside := s.inside.setIfInBounds place !ends }
    return begins

/-- Carries out the bodies of rules that are pulled by the beginning or the end. -/
def runEdge (rules : List Rule) (isEdge : Trigger → Bool) : Run Unit :=
  rules.forM fun r => if isEdge r.trigger then statement depthLimit r.body else pure ()

/-- Carries out the rules for a record. -/
def runRules (rules : List (Rule × Nat)) : Run Unit :=
  rules.forM fun (r, place) => do
    if ← isPulled place r.trigger then statement depthLimit r.body

/-- Carries out the rules for the next record; tells whether there was one. -/
def runRecord (rules : List (Rule × Nat)) : Run Bool := do
  match ← nextRecord with
  | none => return false
  | some found =>
    setRecord found
    match ← attempt (runRules rules) with
    | .error .nextRecord => return true
    | .error .nextFile =>
      skipFile
      return true
    | .error j => throw j
    | .ok () => return true

/-- Whether a trigger is the beginning. -/
def isStart : Trigger → Bool
  | .start => true
  | _ => false

/-- Whether a trigger is the end. -/
def isFinish : Trigger → Bool
  | .finish => true
  | _ => false

/-- Carries out a script. -/
def run (s : Script) : Run Unit := do
  modify ({ · with inside := Array.replicate s.rules.length false })
  let all := s.rules.zipIdx
  let others := all.filter fun (r, _) => !isStart r.trigger && !isFinish r.trigger
  let hasFinish := s.rules.any fun r => isFinish r.trigger
  let ended ← attempt do
    runEdge s.rules isStart
    if !others.isEmpty || hasFinish then iterating (runRecord others) roundLimit
  modify ({ · with locals := [], held := 0 })
  match ended with
  | .ok () =>
    let _ ← attempt (runEdge s.rules isFinish)
  | .error .exit =>
    let _ ← attempt (runEdge s.rules isFinish)
  | .error _ => pure ()
  closeAll

end Shakedown.Scan.Run
