import Stencil.Shell.Word

/-
  Shell scripts: lists of pipelines of commands, and how tokens are read as such. A script is
  read a line at a time, where a line is as long as what is open in it.
-/

namespace Stencil.Shell

/-- When a pipeline runs, given the status before it. -/
inductive Joint where
  | always
  | onSuccess
  | onFailure
  deriving DecidableEq, Repr

structure Redirect where
  stream : Nat
  direction : Direction
  target : Word

mutual

inductive Command where
  /-- Gives variables values, and runs the program that the words name. -/
  | simple (line : Nat) (sets : List (String × Word)) (words : List Word)
  | group (body : Script)
  /-- Runs in a process of its own. -/
  | apart (body : Script)
  /-- Runs beside what follows, and reads nothing. -/
  | aside (body : Script)
  | branch (test body other : Script)
  /-- Runs the body again and again, as long as the test succeeds, or until it does. -/
  | loop (untilSuccess : Bool) (test body : Script)
  | each (line : Nat) (name : String) (words : List Word) (body : Script)
  | select (line : Nat) (subject : Word) (arms : Arms)
  | redirected (line : Nat) (command : Command) (redirects : List Redirect)
  /-- Redirects the streams of all that follows. -/
  | rewire (line : Nat) (redirects : List Redirect)
  /-- Gives a name to a command. -/
  | define (name : String) (body : Command)

/-- The arms of a selection, each with the patterns that choose it. -/
inductive Arms where
  | done
  | arm (patterns : List Word) (body : Script) (rest : Arms)

inductive Pipeline where
  | last (command : Command)
  | into (command : Command) (rest : Pipeline)

inductive Script where
  | done
  | step (joint : Joint) (negated : Bool) (pipeline : Pipeline) (rest : Script)

end

def Script.append : Script → Script → Script
  | .done, after => after
  | .step joint negated pipeline rest, after => .step joint negated pipeline (rest.append after)

def Script.isDone : Script → Bool
  | .done => true
  | _ => false

/-- Whether a script begins with what depends on the status before it. -/
def Script.isJoined : Script → Bool
  | .step .onSuccess .. | .step .onFailure .. => true
  | _ => false

namespace Script

/-- The state of reading is the list of tokens ahead; a fault comes with its line. -/
abbrev Reader := StateT (List Lexeme) (Except (Fault × Nat))

def peek : Reader Lexeme := do
  match ← get with
  | lexeme :: _ => pure lexeme
  | [] => pure ⟨.finish, 1⟩

def skip : Reader Unit := modify (·.drop 1)

/-- How a complaint names a token, where words are signs if `command`. -/
def found (command : Bool) : Token → String
  | .word w =>
    match w.plain with
    | some s =>
      let reserved := ["!", "case", "do", "done", "elif", "else", "esac", "fi", "for", "if",
        "in", "then", "until", "while", "\x7b", "\x7d"]
      if command ∧ s ∈ reserved then "\"" ++ s ++ "\"" else "word"
    | none => "word"
  | .sign "\n" => "newline"
  | .sign s => "\"" ++ s ++ "\""
  | .redirect _ _ => "redirection"
  | .fault _ | .finish => "end of file"

/-- The complaint about the next token. -/
def unexpected {α : Type} (command : Bool) (wanted : Option String) : Reader α := do
  let ⟨token, line⟩ ← peek
  match token with
  | .fault why => throw (why, line)
  | token => throw (.unexpected (found command token) wanted, line)

def isSign (s : String) : Token → Bool
  | .sign t => s = t
  | _ => false

/-- Whether a token is the word `s`, not quoted. -/
def isReserved (s : String) : Token → Bool
  | .word w => w.plain = some s
  | _ => false

def isFinish : Token → Bool
  | .finish => true
  | _ => false

def skipLineEnds : Nat → Reader Unit
  | 0 => pure ()
  | n + 1 => do
    if isSign "\n" (← peek).token then
      skip
      skipLineEnds n

/-- Takes a sign or a reserved word that must come next. -/
def expect (s : String) : Reader Unit := do
  let token := (← peek).token
  if isSign s token ∨ isReserved s token then skip
  else unexpected true (some ("\"" ++ s ++ "\""))

/-- The next word, where a word must follow. -/
def word (wanted : Option String) : Reader Word := do
  match (← peek).token with
  | .word w => do
    skip
    pure w
  | _ => unexpected false wanted

def redirects : Nat → Reader (List Redirect)
  | 0 => pure []
  | n + 1 => do
    match (← peek).token with
    | .redirect stream direction => do
      skip
      let target ← word none
      pure (⟨stream, direction, target⟩ :: (← redirects n))
    | _ => pure []

/-- The parts of a command made of words. -/
def parts : Nat → Reader (List (String × Word) × List Word × List Redirect)
  | 0 => pure ([], [], [])
  | n + 1 => do
    match (← peek).token with
    | .redirect stream direction => do
      skip
      let target ← word none
      let (sets, words, redirects) ← parts n
      pure (sets, words, ⟨stream, direction, target⟩ :: redirects)
    | .word w => do
      skip
      match w.assignment? with
      | some set => do
        let (sets, words, redirects) ← parts n
        pure (set :: sets, words, redirects)
      | none => do
        let (words, redirects) ← arguments n
        pure ([], w :: words, redirects)
    | _ => pure ([], [], [])
where
  /-- The words behind the name of a program. -/
  arguments : Nat → Reader (List Word × List Redirect)
    | 0 => pure ([], [])
    | n + 1 => do
      match (← peek).token with
      | .redirect stream direction => do
        skip
        let target ← word none
        let (words, redirects) ← arguments n
        pure (words, ⟨stream, direction, target⟩ :: redirects)
      | .word w => do
        skip
        let (words, redirects) ← arguments n
        pure (w :: words, redirects)
      | _ => pure ([], [])

/-- A command, with its redirections. -/
def redirected (line : Nat) (command : Command) (redirects : List Redirect) : Command :=
  if redirects.isEmpty then command else .redirected line command redirects

def simple (n : Nat) : Reader Command := do
  let line := (← peek).line
  let (sets, words, redirects) ← parts n
  match sets, words, redirects with
  | [], [], [] => unexpected true none
  | [], [w], _ :: _ =>
    pure (if w.plain = some "exec" then .rewire line redirects
      else .redirected line (.simple line sets words) redirects)
  | _, _, _ => pure (redirected line (.simple line sets words) redirects)

/-- The words up to the end of a list of them. -/
def wordList : Nat → Reader (List Word)
  | 0 => pure []
  | n + 1 => do
    match (← peek).token with
    | .word w => do
      skip
      pure (w :: (← wordList n))
    | .sign s =>
      if s = ";" ∨ s = "\n" then do
        skip
        pure []
      else unexpected false none
    | _ => unexpected false none

/-- The patterns of an arm, up to the closing bracket. -/
def patterns : Nat → Reader (List Word)
  | 0 => unexpected true (some "\")\"")
  | n + 1 => do
    let w ← word (some "\")\"")
    if isSign "|" (← peek).token then
      skip
      pure (w :: (← patterns n))
    else
      expect ")"
      pure [w]

/-- Whether a list of commands ends at a token. -/
def isEnding : Token → Bool
  | .sign s => s = ")" || s = ";;"
  | .word w =>
    match w.plain with
    | some s => s ∈ ["\x7d", "do", "done", "elif", "else", "esac", "fi", "then"]
    | none => false
  | .finish => true
  | _ => false

/-- Whether a token can stand behind a chain. -/
def isSeparator : Token → Bool
  | .sign s => s = ";" || s = "\n" || s = "&"
  | _ => false

/-- A chain as the token behind it has it run. -/
def separated (token : Token) (chain : Script) : Script :=
  if isSign "&" token then .step .always false (.last (.aside chain)) .done else chain

/-- The variable of a loop. -/
def loopVariable : Reader String := do
  let ⟨token, line⟩ ← peek
  match token with
  | .word w =>
    match w.letters with
    | some name => do
      if isVariable name then
        skip
        pure (String.ofList name)
      else throw (.badLoopVariable, line)
    | none => throw (.badLoopVariable, line)
  | _ => throw (.badLoopVariable, line)

/-- Whether a function is defined here. -/
def startsFunction : Reader Bool := do
  match ← get with
  | ⟨.word _, _⟩ :: ⟨.sign "(", _⟩ :: _ => pure true
  | _ => pure false

/-- The name of a function, and the brackets behind it. -/
def functionName : Reader String := do
  let line := (← peek).line
  let w ← word none
  skip
  if isSign ")" (← peek).token then skip else unexpected false (some "\")\"")
  match w.letters with
  | some name =>
    if isVariable name then pure (String.ofList name) else throw (.badFunctionName, line)
  | none => throw (.badFunctionName, line)

mutual

/-- A command; `n` bounds the number of steps, here and below. -/
def command : Nat → Reader Command
  | 0 => unexpected true none
  | n + 1 => do
    let ⟨token, line⟩ ← peek
    let close := fun (ending : String) (c : Command) => do
      expect ending
      pure (redirected line c (← redirects n))
    if isSign "(" token then
      skip
      close ")" (.apart (← list n))
    else if isReserved "\x7b" token then
      skip
      close "\x7d" (.group (← list n))
    else if isReserved "if" token then
      skip
      let body ← branch n
      close "fi" body
    else if isReserved "while" token ∨ isReserved "until" token then
      skip
      let test ← list n
      expect "do"
      close "done" (.loop (isReserved "until" token) test (← list n))
    else if isReserved "for" token then
      skip
      let name ← loopVariable
      skipLineEnds n
      let words ← (do
        if isReserved "in" (← peek).token then
          skip
          wordList n
        else
          if isSign ";" (← peek).token then skip
          pure [[.param "@" .value [] true]])
      skipLineEnds n
      expect "do"
      close "done" (.each line name words (← list n))
    else if isReserved "case" token then
      skip
      let subject ← word (some "word")
      skipLineEnds n
      expect "in"
      skipLineEnds n
      close "esac" (.select line subject (← arms n))
    else if isEnding token ∨ isReserved "in" token then unexpected true none
    else if ← startsFunction then
      let name ← functionName
      skipLineEnds n
      pure (.define name (← command n))
    else simple n

/-- The test of a branch and what depends on it. -/
def branch : Nat → Reader Command
  | 0 => unexpected true (some "\"then\"")
  | n + 1 => do
    let test ← list n
    expect "then"
    let body ← list n
    let token := (← peek).token
    if isReserved "elif" token then
      skip
      let other ← branch n
      pure (.branch test body (.step .always false (.last other) .done))
    else if isReserved "else" token then
      skip
      pure (.branch test body (← list n))
    else pure (.branch test body .done)

def arms : Nat → Reader Arms
  | 0 => pure .done
  | n + 1 => do
    let token := (← peek).token
    if isReserved "esac" token then pure .done
    else
      if isSign "(" token then skip
      let patterns ← patterns n
      skipLineEnds n
      let next := (← peek).token
      let body ← if isSign ";;" next ∨ isReserved "esac" next then pure Script.done else list n
      if isSign ";;" (← peek).token then
        skip
        skipLineEnds n
        pure (.arm patterns body (← arms n))
      else pure (.arm patterns body .done)

def pipeline : Nat → Reader Pipeline
  | 0 => unexpected true none
  | n + 1 => do
    let first ← command n
    if isSign "|" (← peek).token then
      skip
      skipLineEnds n
      pure (.into first (← pipeline n))
    else pure (.last first)

/-- Pipelines of which each but the first depends on the status before it. -/
def chain : Nat → Joint → Reader Script
  | 0, _ => unexpected true none
  | n + 1, joint => do
    let negated := isReserved "!" (← peek).token
    if negated then skip
    let first ← pipeline n
    let token := (← peek).token
    if isSign "&&" token then
      skip
      skipLineEnds n
      pure (.step joint negated first (← chain n .onSuccess))
    else if isSign "||" token then
      skip
      skipLineEnds n
      pure (.step joint negated first (← chain n .onFailure))
    else pure (.step joint negated first .done)

/-- Chains up to a sign or a word that ends a list. -/
def list : Nat → Reader Script
  | 0 => unexpected true none
  | n + 1 => do
    skipLineEnds n
    let token := (← peek).token
    if isFinish token then return .done
    let first ← chain n .always
    let token := (← peek).token
    if isSeparator token then
      skip
      skipLineEnds n
      let first := separated token first
      if isEnding (← peek).token then pure first else pure (first.append (← list n))
    else pure first

end

/-- The chains of a line; none at the end of the script. -/
def line (n : Nat) : Reader (Option Script) := do
  skipLineEnds n
  if isFinish (← peek).token then pure none else some <$> chains n
where
  /-- The chains up to the end of the line. -/
  chains : Nat → Reader Script
    | 0 => unexpected true none
    | n + 1 => do
      let first ← chain n .always
      let token := (← peek).token
      if isSign "\n" token then
        skip
        pure first
      else if isSeparator token then
        skip
        let first := separated token first
        let next := (← peek).token
        if isFinish next then pure first
        else if isSign "\n" next then
          skip
          pure first
        else pure (first.append (← chains n))
      else if isFinish token then pure first
      else unexpected true none

end Script

end Stencil.Shell
