import BackOffice.Calendar
import BackOffice.Decimal.Text
import BackOffice.Ident

/-!
# Reading a command line

A menu is a tree of named choices whose leaves are forms, and a form has options and places to fill
in. `Menu.read` walks down the menu along the words of a command line and fills in the form it
reaches.

Options are written `--name value` or `--name=value`, some also `-n value`, `-nvalue` or `-n=value`;
after `--` every word fills a place. A value is judged when the next option or place turns up, or at
the end, and not before: of two faults the one that shows first is reported.
-/

namespace BackOffice

/-- Why a command line is not understood, or asks for something other than a command. -/
inductive UsageError where
  | help
  | version
  /-- It stops before it has named a command. -/
  | nothingChosen
  /-- It names a choice that the menu does not have. -/
  | unknownChoice
  /-- It has an option or a word that the form does not have. -/
  | unknownArgument
  /-- A value is missing, or is none of those listed. -/
  | unlistedValue
  /-- A value cannot be read. -/
  | unreadableValue
  /-- An option or a place that must be filled in is not. -/
  | missingArgument
  /-- An option is given twice, or together with one that excludes it. -/
  | conflict
  | unwantedValue
deriving DecidableEq, Repr

/-- What a value must look like. -/
inductive ValueForm where
  | text
  | int32
  | uint32
  | decimal
  | date
  | addressId
  | oneOf (names : List String)
deriving DecidableEq, Repr

namespace ValueForm

def readInt32? (s : String) : Option Int32 :=
  (Text.readInteger? s).bind fun n =>
    if -2147483648 ≤ n ∧ n < 2147483648 then some (Int32.ofInt n) else none

def readUInt32? (s : String) : Option UInt32 :=
  (Text.readInteger? s).bind fun n =>
    if 0 ≤ n ∧ n < 4294967296 then some (UInt32.ofNat n.toNat) else none

/-- Whether a text has the form. -/
def accepts (form : ValueForm) (s : String) : Bool :=
  match form with
  | .text => true
  | .int32 => (readInt32? s).isSome
  | .uint32 => (readUInt32? s).isSome
  | .decimal => (Decimal.ofText? s).isSome
  | .date => (Date.ofText? s).isSome
  | .addressId => (AddressId.ofText? s).isSome
  | .oneOf names => names.contains s

/-- The error for a text that does not have the form. -/
def refusal : ValueForm → UsageError
  | .oneOf _ => .unlistedValue
  | _ => .unreadableValue

end ValueForm

/-- How often an option may be given, and whether it has values. -/
inductive Arity where
  /-- At most once, without a value. -/
  | switch
  /-- At most once, with a value. -/
  | single
  /-- Any number of times, with a value each time. -/
  | repeated
deriving DecidableEq, Repr

/-- An option or a place of a form. -/
structure Parameter where
  /-- The name, for an option without its dashes. -/
  name : String
  /-- What its values must look like. -/
  form : ValueForm := .text
  arity : Arity := .single
  /-- A letter that stands for the option. -/
  letter : Option Char := none
  required : Bool := false
  /-- The options that cannot be given with it. -/
  excludes : List String := []
deriving DecidableEq, Repr

/-- The options and places that have been filled in, each with its values. -/
abbrev Filled := List (String × List String)

namespace Filled

/-- The values of an option or a place. -/
def values (f : Filled) (name : String) : List String :=
  (f.filter fun e => e.1 = name).flatMap Prod.snd

/-- Whether an option has been given. -/
def has (f : Filled) (name : String) : Bool :=
  f.any fun e => e.1 = name

/-- The value of an option that may be missing. -/
def optional {α : Type} (f : Filled) (name : String) (read : String → Option α) :
    Option (Option α) :=
  match f.values name with
  | [] => some none
  | s :: _ => (read s).map some

/-- The value of an option or a place that must be there. -/
def required {α : Type} (f : Filled) (name : String) (read : String → Option α) : Option α :=
  (f.values name).head?.bind read

/-- The text of an option, empty if it is missing. -/
def text (f : Filled) (name : String) : String :=
  (f.values name).headD ""

/-- All values of an option. -/
def many {α : Type} (f : Filled) (name : String) (read : String → Option α) : Option (List α) :=
  (f.values name).mapM read

end Filled

/-- How far the filling in of a form has come. -/
structure Reading where
  filled : Filled := []
  /-- The option or place whose values have not been judged yet. -/
  pending : Option (Parameter × List String) := none
  /-- Whether the next word is the value of the pending option. -/
  awaiting : Bool := false
  /-- The places that are left. -/
  places : List Parameter
  /-- Whether all further words fill places. -/
  onlyPlaces : Bool := false

namespace Reading

/-- Judges the values of an option or a place and fills them in. -/
def accept (r : Reading) (p : Parameter) (values : List String) : Except UsageError Reading :=
  if p.arity ≠ .switch ∧ values = [] then .error .unlistedValue
  else if p.arity ≠ .repeated ∧ r.filled.has p.name then .error .conflict
  else if values.all p.form.accepts then
    .ok { r with filled := r.filled ++ [(p.name, values)] }
  else .error p.form.refusal

/-- Judges what is pending. -/
def settle (r : Reading) : Except UsageError Reading :=
  match r.pending with
  | none => .ok r
  | some (p, values) => { r with pending := none, awaiting := false }.accept p values

/-- Asks for help, once what is pending has been judged. -/
def giveHelp (r : Reading) : Except UsageError Reading := do
  let _ ← r.settle
  throw .help

/-- An option with the value that is attached to it, or with none so far. -/
def option (r : Reading) (p : Parameter) (attached : Option String) :
    Except UsageError Reading := do
  let r ← r.settle
  match p.arity, attached with
  | .switch, _ => r.accept p []
  | _, some value => r.accept p [value]
  | _, none => return { r with pending := some (p, []), awaiting := true }

/-- A word that fills a place. -/
def place (r : Reading) (word : String) : Except UsageError Reading :=
  match r.places with
  | [] => .error .unknownArgument
  | p :: rest => do
    return { ← r.settle with pending := some (p, [word]), places := rest }

end Reading

/-- A form, and what to make of it once it is filled in. -/
structure Form (α : Type) where
  options : List Parameter := []
  /-- The places, which are filled in order. -/
  places : List Parameter := []
  /-- The result, if all values can be read. -/
  build : Filled → Option α

namespace Form

variable {α : Type}

/-- Reads `--name`, with the value behind a sign of equality if there is one. -/
def readLong (form : Form α) (r : Reading) (name : String) (attached : Option String) :
    Except UsageError Reading :=
  if name = "help" then
    if attached.isSome then .error .unwantedValue else r.giveHelp
  else
    match form.options.find? fun p => p.name = name with
    | none => .error .unknownArgument
    | some p =>
      if p.arity = .switch ∧ attached.isSome then .error .unwantedValue else r.option p attached

/-- Reads the letters behind a dash. The first letter of an option with a value takes the rest as
its value. -/
def readLetters (form : Form α) (r : Reading) : List Char → Except UsageError Reading
  | [] => .ok r
  | c :: cs =>
    if c = 'h' then r.giveHelp
    else
      match form.options.find? fun p => p.letter = some c with
      | none => .error .unknownArgument
      | some p =>
        if p.arity = .switch then do readLetters form (← r.option p none) cs
        else
          match cs with
          | [] => r.option p none
          | '=' :: value => r.option p (some (String.ofList value))
          | value => r.option p (some (String.ofList value))

/-- Reads one word. -/
def readWord (form : Form α) (r : Reading) (word : String) : Except UsageError Reading :=
  if r.onlyPlaces then r.place word
  else
    match word.toList with
    | ['-', '-'] => .ok { r with onlyPlaces := true }
    | '-' :: '-' :: cs =>
      let name := cs.takeWhile (· ≠ '=')
      let attached := (cs.drop name.length).tail?.map String.ofList
      form.readLong r (String.ofList name) attached
    | '-' :: c :: cs => form.readLetters r (c :: cs)
    | _ =>
      match r.awaiting, r.pending with
      | true, some (p, values) =>
        .ok { r with pending := some (p, values ++ [word]), awaiting := false }
      | _, _ => r.place word

/-- Whether an option has been given together with one that it excludes. -/
def hasConflict (form : Form α) (filled : Filled) : Bool :=
  form.options.any fun p => filled.has p.name && p.excludes.any filled.has

/-- Whether an option or a place that must be filled in is not. -/
def lacks (form : Form α) (filled : Filled) : Bool :=
  (form.places ++ form.options).any fun p => p.required && !filled.has p.name

/-- Reads the words that fill in the form. -/
def read (form : Form α) (words : List String) : Except UsageError α := do
  let r ← words.foldlM form.readWord { places := form.places }
  let r ← r.settle
  if form.hasConflict r.filled then throw .conflict
  if form.lacks r.filled then throw .missingArgument
  match form.build r.filled with
  | some a => return a
  | none => throw .unreadableValue

end Form

/-- A tree of named choices with forms at its leaves. -/
inductive Menu (α : Type) where
  | leaf (form : Form α)
  | choices (menu : List (String × Menu α))

namespace Menu

variable {α : Type}

/-- Follows the words behind `help` down the menu; the menu that describes help is a leaf. -/
def helpOn : Menu α → List String → UsageError
  | _, [] => .help
  | .leaf _, _ :: _ => .unknownChoice
  | .choices menu, word :: words =>
    match menu.lookup word with
    | some next => next.helpOn words
    | none => if word = "help" ∧ words = [] then .help else .unknownChoice

/-- Whether a word is a choice of a menu. -/
def offers (menu : List (String × Menu α)) (word : String) : Bool :=
  word = "help" || (menu.lookup word).isSome

/-- What a word beside the choices of a menu means; `top` says that it is the whole menu. -/
def strayWord (top : Bool) (word : String) : UsageError :=
  match word.toList with
  | '-' :: '-' :: cs =>
    let name := String.ofList (cs.takeWhile (· ≠ '='))
    if name = "help" ∨ (top ∧ name = "version") then
      if cs.contains '=' then .unwantedValue
      else if name = "help" then .help else .version
    else .unknownArgument
  | '-' :: c :: _ =>
    if c = 'h' then .help else if top ∧ c = 'V' then .version else .unknownArgument
  | _ => .unknownChoice

/-- Walks down a menu along the words of a command line and fills in the form that it reaches. -/
def read (top : Bool) : Menu α → List String → Except UsageError α
  | .leaf form, words => form.read words
  | .choices _, [] => .error .nothingChosen
  | .choices menu, word :: words =>
    match menu.lookup word with
    | some next => next.read false words
    | none =>
      if word = "help" then .error ((Menu.choices menu).helpOn words)
      else if word = "--" then
        match words with
        | [] => .error .nothingChosen
        | next :: _ =>
          .error (if offers menu next then .unknownArgument else .unknownChoice)
      else .error (strayWord top word)

end Menu

end BackOffice
