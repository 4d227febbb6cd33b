import TypeAtlas.Text.Printable

/-!
Arguments of a command: options with and without values, in long and short form, among the other
arguments. Everything after a bare `--` is no option. An option that is unknown is answered with those
like it: texts are alike by the characters they share in runs that stand in the same order.
-/

namespace TypeAtlas.Text.Likeness

def commonStart : List Char → List Char → Nat
  | a :: as, b :: bs => if a = b then commonStart as bs + 1 else 0
  | _, _ => 0

/-- A text cut at a run: what stands before it, the run and what stands behind it, for both texts. -/
structure Run where
  leftBefore : List Char
  rightBefore : List Char
  length : Nat
  leftAfter : List Char
  rightAfter : List Char

def Run.longer (best next : Run) : Run := if best.length < next.length then next else best

/-- The first of the longest runs that start at the head of `as`, where `before` stands before it. -/
def runFrom (before as : List Char) (rightBefore : List Char) : List Char → Run → Run
  | [], best => best
  | b :: bs, best =>
    let n := commonStart as (b :: bs)
    let next : Run :=
      { leftBefore := before, rightBefore := rightBefore.reverse, length := n
        leftAfter := as.drop n, rightAfter := (b :: bs).drop n }
    runFrom before as (b :: rightBefore) bs (best.longer next)

/-- The longest run that two texts share; of several the first in the left text, then in the right
one. -/
def longestRun (before : List Char) : List Char → List Char → Run → Run
  | [], _, best => best
  | a :: as, bs, best =>
    longestRun (a :: before) as bs (runFrom before.reverse (a :: as) [] bs best)

def sharedWithin : Nat → List Char → List Char → Nat
  | 0, _, _ => 0
  | fuel + 1, as, bs =>
    let run := longestRun [] as bs ⟨[], [], 0, [], []⟩
    if run.length = 0 then 0
    else
      sharedWithin fuel run.leftBefore run.rightBefore + run.length +
        sharedWithin fuel run.leftAfter run.rightAfter

def shared (as bs : List Char) : Nat := sharedWithin as.length as bs

def isClose (as bs : List Char) : Bool :=
  let all := as.length + bs.length
  6 * all ≤ 20 * min as.length bs.length && 6 * all ≤ 20 * shared as bs

/-- Whether the second text is more like the word than the first; of texts as like as each other the
one that comes later in order counts. -/
def isBetter (word first second : String) : Bool :=
  let share (s : String) : Nat := shared s.toList word.toList
  let size (s : String) : Nat := s.length + word.length
  let left := share first * size second
  let right := share second * size first
  left < right || (left == right && first < second)

/-- The texts that someone who wrote `word` may have meant, the three most like it at most, in
order. -/
def closest (word : String) (known : List String) : List String :=
  let close := known.filter fun s => isClose s.toList word.toList
  let best := (close.mergeSort fun a b => !isBetter word a b).take 3
  best.mergeSort fun a b => decide (a ≤ b)

end TypeAtlas.Text.Likeness

namespace TypeAtlas.Command

structure OptionForm where
  names : List String
  takesValue : Bool := false
deriving DecidableEq, Repr, Inhabited

/-- An option as given, by its last name, with its value. -/
structure Given where
  option : String
  value : Option String := none
deriving DecidableEq, Repr, Inhabited

inductive UsageError where
  /-- With the options that may have been meant. -/
  | unknownOption (name : String) (meant : List String := [])
  | valueRequired (name : String)
  | valueUnwanted (name : String)
  | badValue (names : List String) (reason : String)
  | argumentMissing (name : String)
  | argumentsExtra (arguments : List String)
  | commandMissing
  /-- With the commands that may have been meant. -/
  | commandUnknown (name : String) (meant : List String := [])
deriving DecidableEq, Repr, Inhabited

def meantNote : List String → String
  | [] => ""
  | [name] => " Did you mean " ++ Text.quoted name ++ "?"
  | names => " (Did you mean one of: " ++ ", ".intercalate (names.map Text.quoted) ++ "?)"

def UsageError.message : UsageError → String
  | unknownOption name meant => "No such option " ++ Text.quoted name ++ "." ++ meantNote meant
  | valueRequired name => "Option " ++ Text.quoted name ++ " requires an argument."
  | valueUnwanted name => "Option " ++ Text.quoted name ++ " does not take a value."
  | badValue names reason =>
    "Invalid value for " ++ " / ".intercalate (names.map Text.quoted) ++ ": " ++ reason
  | argumentMissing name => "Missing argument " ++ Text.quoted name ++ "."
  | argumentsExtra [argument] => "Got unexpected extra argument (" ++ argument ++ ")"
  | argumentsExtra arguments =>
    "Got unexpected extra arguments (" ++ " ".intercalate arguments ++ ")"
  | commandMissing => "Missing command."
  | commandUnknown name meant => "No such command " ++ Text.quoted name ++ "." ++ meantNote meant

def UsageError.isBrief : UsageError → Bool
  | valueRequired _ => true
  | valueUnwanted _ => true
  | _ => false

namespace OptionForm

def key (form : OptionForm) : String := form.names.getLast?.getD ""

def isLong (name : String) : Bool := name.startsWith "--"

def longNames (forms : List OptionForm) : List String :=
  (forms.flatMap (·.names)).filter isLong

def find? (forms : List OptionForm) (name : String) : Option OptionForm :=
  forms.find? fun form => form.names.contains name

end OptionForm

/-- What one argument holds: options that are complete, and perhaps one that still wants its
value, with the name it was given by. -/
structure Opened where
  complete : List Given := []
  pending : Option (OptionForm × String) := none

/-- Options of one letter behind a single dash. The rest of the argument after one that takes a
value is that value. -/
def openShort (forms : List OptionForm) : List Char → Except UsageError Opened
  | [] => .ok {}
  | letter :: rest =>
    let name := String.ofList ['-', letter]
    match OptionForm.find? forms name with
    | none => .error (.unknownOption name)
    | some form =>
      if form.takesValue then
        if rest.isEmpty then .ok { pending := some (form, name) }
        else .ok { complete := [{ option := form.key, value := some (String.ofList rest) }] }
      else do
        let others ← openShort forms rest
        return { others with complete := { option := form.key } :: others.complete }

def openOption (forms : List OptionForm) (argument : String) : Except UsageError Opened :=
  let cs := argument.toList
  let nameChars := cs.takeWhile (· ≠ '=')
  let name := String.ofList nameChars
  let value? :=
    if nameChars.length < cs.length then
      some (String.ofList (cs.drop (nameChars.length + 1)))
    else none
  let long := forms.filter fun form => form.names.any fun n => n == name && OptionForm.isLong n
  match long, value? with
  | form :: _, some value =>
    if form.takesValue then .ok { complete := [{ option := form.key, value := some value }] }
    else .error (.valueUnwanted name)
  | form :: _, none =>
    if form.takesValue then .ok { pending := some (form, name) }
    else .ok { complete := [{ option := form.key }] }
  | [], _ =>
    if OptionForm.isLong argument then
      .error (.unknownOption name (Text.Likeness.closest name (OptionForm.longNames forms)))
    else openShort forms (cs.drop 1)

/-- Splits arguments into options and the others. Unless options may stand anywhere, the first
other argument ends them. -/
def split (forms : List OptionForm) (anywhere : Bool) :
    List String → Except UsageError (List Given × List String)
  | [] => .ok ([], [])
  | argument :: rest =>
    if argument = "--" then .ok ([], rest)
    else if argument.startsWith "-" && argument.length > 1 then do
      let opened ← openOption forms argument
      match opened.pending with
      | none =>
        let (given, others) ← split forms anywhere rest
        return (opened.complete ++ given, others)
      | some (form, name) =>
        match rest with
        | [] => throw (.valueRequired name)
        | value :: more =>
          let (given, others) ← split forms anywhere more
          return (opened.complete ++ { option := form.key, value := some value } :: given, others)
    else if anywhere then do
      let (given, others) ← split forms anywhere rest
      return (given, argument :: others)
    else .ok ([], argument :: rest)

def isGiven (given : List Given) (key : String) : Bool := given.any (·.option == key)

def valueOf? (given : List Given) (key : String) : Option String :=
  (given.reverse.find? (·.option == key)).bind (·.value)

end TypeAtlas.Command
