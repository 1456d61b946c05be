import FlavoredMarkdown.Program.Argument
import FlavoredMarkdown.Text.DecimalDigit
import FlavoredMarkdown.Text.Quoted
import FlavoredMarkdown.Text.Split

/-!
# Invocations

An `Invocation` is what the words of a command line ask for. Every word is first sorted by itself: it
is an argument, perhaps shortened and perhaps with a value attached to it, or a text, or it looks like
an argument but is none. Then the words are followed in order. A text is the value of the argument
before it, if that takes one and has none yet; the first other text is the input, and all that is left
over is refused at the end. Values are kept by name, so an option that has the name of another argument
shares its value, and what is followed later counts. This is what the parser that `build_parser` builds
does with the words of a command line.

`sorted?_of_texts`: words that do not start with a hyphen are texts.
-/

namespace FlavoredMarkdown

/-- A value that is part of the word of its argument, behind an equals sign or at once. -/
structure Attached where
  equals : Bool
  text : String
  deriving DecidableEq, Repr

/-- A word of the command line. `stop` is the word behind which there are only texts. -/
inductive Word
  | text (s : String)
  | stop
  | argument (a : Argument) (spelling : String) (attached : Option Attached)
  | unknown (s : String)
  deriving DecidableEq, Repr

/-- Why an invocation is not followed. Asking for help is one reason. -/
inductive InvocationError
  | help
  | ambiguous (given : String) (spellings : List String)
  | noValue (a : Argument)
  | unusedValue (a : Argument) (value : String)
  | badLevel (a : Argument) (given : String)
  | unrecognized (words : List String)
  deriving DecidableEq, Repr

/-- The levels that can be asked for. -/
def Severity.choices : List String := ["DEBUG", "INFO", "WARNING", "ERROR", "CRITICAL"]

/-- The wording of a refusal. -/
def InvocationError.message : InvocationError → String
  | .help => ""
  | .ambiguous given spellings =>
    "ambiguous option: " ++ given ++ " could match " ++ ", ".intercalate spellings
  | .noValue a => "argument " ++ a.title ++ ": expected one argument"
  | .unusedValue a value =>
    "argument " ++ a.title ++ ": ignored explicit argument " ++ Text.quoted value
  | .badLevel a given =>
    "argument " ++ a.title ++ ": invalid choice: " ++ Text.quoted given ++ " (choose from " ++
      ", ".intercalate (Severity.choices.map Text.quoted) ++ ")"
  | .unrecognized words => "unrecognized arguments: " ++ " ".intercalate words

/-- What a command line asks for: a value under every name that has one. -/
structure Invocation where
  values : List (String × Value)

namespace Invocation

/-- The name that stands for standard input. -/
def standardInput : String := "-"

/-- The name under which the input is kept. -/
def inputName : String := "input"

/-- Nothing is given, so there are only the values of the general arguments. -/
def start : Invocation where
  values :=
    [(inputName, .str standardInput), (Destination.out.name, .null), (Destination.config.name, .null),
      (Destination.logLevel.name, .str "WARNING"), (Destination.logFile.name, .null),
      (Destination.trace.name, .bool false)]

/-- The invocation with a value under a name. -/
def set (i : Invocation) (name : String) (v : Value) : Invocation := ⟨setEntry name v i.values⟩

/-- The value under a name, or null. -/
def value (i : Invocation) (name : String) : Value := (i.values.lookup name).getD .null

/-- The text under a name. -/
def text? (i : Invocation) (name : String) : Option String :=
  match i.value name with
  | .str s => some s
  | _ => none

/-- The name of the file to read. -/
def input (i : Invocation) : String := (i.text? inputName).getD standardInput

/-- The name of the file to write. -/
def out (i : Invocation) : Option String := i.text? Destination.out.name

/-- The name of the configuration file. -/
def config (i : Invocation) : Option String := i.text? Destination.config.name

/-- The name of the file that the log is written to. -/
def logFile (i : Invocation) : Option String := i.text? Destination.logFile.name

/-- Whether log lines tell more than their message. -/
def trace (i : Invocation) : Bool := (i.value Destination.trace.name).isTrue

/-- The options that have a value (`map_args_to_options`). -/
def given (i : Invocation) (options : List ExposedOption) : List (String × Setting) :=
  (exposed options).filterMap fun o => (i.values.lookup o.name).map fun v => (o.name, .value v)

end Invocation

/-! ## Sorting words -/

namespace Word

/-- The word that stops arguments. -/
def stopText : String := "--"

/-- The argument with exactly this spelling. -/
def spelt? (arguments : List Argument) (s : String) : Option Argument :=
  arguments.find? fun a => a.spellings.contains s

/-- Whether one text starts with another. -/
def starts (front s : String) : Bool := front.toList.isPrefixOf s.toList

/-- The ways to read a word as a shortened argument, or as a short one with its value. -/
def readings (arguments : List Argument) (s : String) : List Word :=
  let (front, attached) : String × Option Attached :=
    match Text.cutAt? '=' s.toList with
    | some (front, value) => (String.ofList front, some ⟨true, String.ofList value⟩)
    | none => (s, none)
  let short := String.ofList (s.toList.take 2)
  let reading? (a : Argument) (spelling : String) : Option Word :=
    if short = stopText then
      if starts front spelling then some (.argument a spelling attached) else none
    else if spelling = short then
      some (.argument a spelling (some ⟨false, String.ofList (s.toList.drop 2)⟩))
    else if starts s spelling then some (.argument a spelling none)
    else none
  arguments.flatMap fun a => a.spellings.filterMap (reading? a)

/-- The spelling of the argument that a word is. -/
def spelling? : Word → Option String
  | .argument _ spelling _ => some spelling
  | _ => none

/-- Whether a word is a negative number, with or without a point, in digits of any script. One end of
line may follow it. -/
def isNegativeNumber (cs : List Char) : Bool :=
  let number := if cs.getLast? = some '\n' then cs.dropLast else cs
  match number with
  | '-' :: rest =>
    let whole := rest.takeWhile Text.isDecimalDigit
    match rest.drop whole.length with
    | [] => !whole.isEmpty
    | '.' :: fraction => !fraction.isEmpty && fraction.all Text.isDecimalDigit
    | _ => false
  | _ => false

/-- What a word is by itself. -/
def ofText (arguments : List Argument) (s : String) : Except InvocationError Word :=
  let cs := s.toList
  if cs.head? != some '-' then .ok (.text s)
  else
    match spelt? arguments s with
    | some a => .ok (.argument a s none)
    | none =>
      let whole? := (Text.cutAt? '=' cs).bind fun (front, value) =>
        (spelt? arguments (String.ofList front)).map fun a =>
          Word.argument a (String.ofList front) (some ⟨true, String.ofList value⟩)
      if cs.length = 1 then .ok (.text s)
      else
        match whole?, readings arguments s with
        | some word, _ => .ok word
        | none, [word] => .ok word
        | none, [] =>
          .ok (if isNegativeNumber cs || cs.contains ' ' then .text s else .unknown s)
        | none, words => .error (.ambiguous s (words.filterMap spelling?))

/-- All words, each by itself, up to the one that stops arguments. -/
def sorted? (arguments : List Argument) : List String → Except InvocationError (List Word)
  | [] => .ok []
  | s :: rest =>
    if s = stopText then .ok (.stop :: rest.map .text)
    else do
      let word ← ofText arguments s
      let words ← sorted? arguments rest
      pure (word :: words)

/-- Words that do not start with a hyphen are texts. -/
theorem sorted?_of_texts (arguments : List Argument) (words : List String)
    (h : ∀ s ∈ words, s.toList.head? ≠ some '-') :
    sorted? arguments words = .ok (words.map .text) := by
  induction words with
  | nil => rfl
  | cons s rest ih =>
    have hs : s.toList.head? ≠ some '-' := h s (by simp)
    have hstop : s ≠ stopText := by
      rintro rfl
      exact hs (by decide)
    have htext : ofText arguments s = .ok (.text s) := by simp [ofText, hs]
    have hrest := ih fun t ht => h t (by simp [ht])
    simp [sorted?, hstop, htext, hrest, bind, Except.bind, pure, Except.pure]

end Word

/-! ## Following words -/

namespace Invocation

/-- The invocation in which an argument has a value. -/
def withValue (i : Invocation) (a : Argument) (value : String) :
    Except InvocationError Invocation :=
  match a.destination with
  | .help | .trace => .error (.unusedValue a value)
  | .logLevel =>
    let level := Text.uppered value
    if Severity.choices.contains level then .ok (i.set Destination.logLevel.name (.str level))
    else .error (.badLevel a level)
  | d => .ok (i.set d.name (.str value))

/-- The invocation in which an argument without a value is given. -/
def withSwitch (i : Invocation) (a : Argument) : Except InvocationError Invocation :=
  match a.destination with
  | .help => .error .help
  | .trace => .ok (i.set Destination.trace.name (.bool true))
  | .option o => .ok (i.set o.name (.bool o.switchesOn))
  | _ => .error (.noValue a)

/-- What is wrong with what follows a short switch in its word: it must be further short arguments, of
which one that takes a value is the last. -/
def chainFault? (arguments : List Argument) (textFollows : Bool) (a : Argument) (equals : Bool) :
    List Char → Option InvocationError
  | [] => some (.unusedValue a "")
  | c :: rest =>
    if equals || c = '-' then some (.unusedValue a (String.ofList (c :: rest)))
    else
      match Word.spelt? arguments (String.ofList ['-', c]) with
      | none => none
      | some b =>
        if b.destination.takesValue then
          if rest.isEmpty && !textFollows then some (.noValue b) else none
        else
          match rest with
          | [] => none
          | d :: more =>
            if d = '=' then chainFault? arguments textFollows b true more
            else chainFault? arguments textFollows b false (d :: more)

/-- How far the words have been followed. `atInput` tells that the input was the last word. -/
structure Progress where
  invocation : Invocation := .start
  inputGiven : Bool := false
  atInput : Bool := false
  leftOver : List String := []

namespace Progress

/-- A text is the input, or left over if there is one. -/
def text (p : Progress) (s : String) : Progress :=
  if p.inputGiven then { p with leftOver := p.leftOver ++ [s], atInput := false }
  else
    { p with invocation := p.invocation.set inputName (.str s), inputGiven := true, atInput := true }

/-- A word is left over. -/
def leave (p : Progress) (s : String) : Progress :=
  { p with leftOver := p.leftOver ++ [s], atInput := false }

/-- The word that stops arguments belongs to the input, before or behind it; else it is left over. -/
def stop (p : Progress) : Progress :=
  if p.inputGiven && !p.atInput then p.leave Word.stopText else p

/-- At the end the input is standard input, unless there has been one. -/
def finish (p : Progress) : Invocation :=
  if p.inputGiven then p.invocation else p.invocation.set inputName (.str standardInput)

/-- The invocation has changed. -/
def change (p : Progress) (result : Except InvocationError Invocation) :
    Except InvocationError Progress :=
  result.map fun i => { p with invocation := i, atInput := false }

end Progress

/-- Whether the next word is a text. -/
def startsWithText : List Word → Bool
  | .text _ :: _ => true
  | _ => false

/-- Follows words in order. -/
def follow (arguments : List Argument) (p : Progress) :
    List Word → Except InvocationError Progress
  | [] => .ok p
  | .text s :: rest => follow arguments (p.text s) rest
  | .stop :: rest => follow arguments p.stop rest
  | .unknown s :: rest => follow arguments (p.leave s) rest
  | .argument a spelling (some attached) :: rest =>
    if a.destination.takesValue then do
      follow arguments (← p.change (p.invocation.withValue a attached.text)) rest
    else if Word.starts Word.stopText spelling then .error (.unusedValue a attached.text)
    else
      match chainFault? arguments (startsWithText rest) a attached.equals attached.text.toList with
      | some e => .error e
      | none => do follow arguments (← p.change (p.invocation.withSwitch a)) rest
  | .argument a _ none :: rest =>
    if a.destination.takesValue then
      match rest with
      | .text s :: rest => do
        follow arguments (← p.change (p.invocation.withValue a s)) rest
      | _ => .error (.noValue a)
    else do follow arguments (← p.change (p.invocation.withSwitch a)) rest

/-- The invocation of some words. -/
def ofWords (arguments : List Argument) (words : List String) :
    Except InvocationError Invocation := do
  let p ← follow arguments {} (← Word.sorted? arguments words)
  if p.leftOver.isEmpty then pure p.finish else throw (.unrecognized p.leftOver)

end Invocation

end FlavoredMarkdown
