import RoutineBindings.Shell.Script

/-!
# Built-in programs

The programs that a script can use: a few that print, a few that work on files, and those
that end the script.
-/
namespace RoutineBindings.Shell
open Text (Bytes encode)

/-- The number of up to three octal digits and the rest. -/
def octal (cs : List Char) : Nat × List Char :=
  let ds := (cs.take 3).takeWhile fun c => '0' ≤ c && c ≤ '7'
  (ds.foldl (fun n c => n * 8 + (c.toNat - '0'.toNat)) 0, cs.drop ds.length)

/-- The byte of an escape letter. -/
def escapeByte? : Char → Option UInt8
  | 'n' => some 10
  | 't' => some 9
  | 'r' => some 13
  | 'a' => some 7
  | 'b' => some 8
  | 'f' => some 12
  | 'v' => some 11
  | '\\' => some 92
  | _ => none

/-- Text with its escapes replaced and, for a format, its arguments put in. -/
def expand (isFormat : Bool) : Nat → List Char → List String → Bytes
  | 0, _, _ => []
  | _, [], _ => []
  | fuel + 1, '\\' :: c :: cs, args =>
    match escapeByte? c with
    | some b => b :: expand isFormat fuel cs args
    | none =>
      if '0' ≤ c && c ≤ '7' then
        let (n, rest) := octal (if isFormat || c ≠ '0' then c :: cs else cs)
        UInt8.ofNat n :: expand isFormat fuel rest args
      else encode (String.ofList ['\\', c]) ++ expand isFormat fuel cs args
  | fuel + 1, '%' :: c :: cs, args =>
    if !isFormat then encode (String.ofList ['%', c]) ++ expand isFormat fuel cs args
    else if c = '%' then 37 :: expand isFormat fuel cs args
    else encode (args.headD "") ++ expand isFormat fuel cs args.tail
  | fuel + 1, c :: cs, args => encode c.toString ++ expand isFormat fuel cs args

def expanded (isFormat : Bool) (text : String) (args : List String) : Bytes :=
  expand isFormat (text.length + 1) text.toList args

/-- What a command did: its exit code, what it printed, and how it ended the script. -/
structure Effect where
  code : Nat
  stdout : Bytes
  stderr : Bytes
  ending : Option ExitStatus
  deriving Repr, DecidableEq

namespace Effect

def quiet (code : Nat) : Effect := ⟨code, [], [], none⟩

def prints (bytes : Bytes) : Effect := { quiet 0 with stdout := bytes }

def complains (code : Nat) (message : String) : Effect :=
  { quiet code with stderr := encode message }

def ends (code : Nat) : Effect := { quiet code with ending := some (.exited code) }

/-- A command of several actions: all of them print, and the worst code counts. -/
def both (a b : Effect) : Effect :=
  ⟨max a.code b.code, a.stdout ++ b.stdout, a.stderr ++ b.stderr, none⟩

end Effect

/-! ## Signals -/

/-- The signals that end no program. -/
def harmlessSignals : List Nat := [0, 17, 18, 23, 28]

/-- One more than the largest signal. -/
def signalCount : Nat := 65

/-- The signal of a number, or of a name in any case. -/
def signal? (s : String) : Option Nat :=
  match s.toNat? with
  | some n => if n < signalCount then some n else none
  | none => (signalNames.find? fun (_, name) => name = s.toUpper).map (·.1)

/-- Sends a signal to the shell itself; there is no other program. -/
def sendSignal (complaint : String → String) (pid name : String) : Effect :=
  match signal? name with
  | none => .complains 2 (complaint ("kill: Illegal option -" ++ (name.take 1).toString))
  | some n =>
    if pid = ownNumber then
      if harmlessSignals.contains n then .quiet 0
      else { Effect.quiet 0 with ending := some (.killed n) }
    else .complains 1 (complaint "kill: No such process\n")

/-- The programs that only the shell itself can be; the text of a complaint starts with its
place in the script. -/
def control? (complaint : String → String) (last : Nat) : List String → Option Effect
  | ":" :: _ => some (.quiet 0)
  | ["exit"] => some (.ends last)
  | "exit" :: code :: _ => some <|
    match code.toNat? with
    | some n => .ends (n % 256)
    | none =>
      { Effect.complains 2 (complaint ("exit: Illegal number: " ++ code)) with
        ending := some (.exited 2) }
  | ["kill", pid] => some (sendSignal complaint pid "15")
  | ["kill", "-s", name, pid] => some (sendSignal complaint pid name)
  | ["kill", name, pid] => some (sendSignal complaint pid (name.drop 1).toString)
  | _ => none

/-! ## Files -/

/-- A fault in words, without its number. -/
def reason (e : FileFault) : String :=
  String.ofList (Text.before " (os".toList e.message.toList)

variable {m : Type → Type} [Monad m]

/-- Does something for each of some paths, one after the other. -/
def forEach (act : String → m Effect) : List String → m Effect
  | [] => return .quiet 0
  | path :: paths => do
    let first ← act path
    return first.both (← forEach act paths)

/-- The file that drops what is written to it. -/
def nullFile : String := "/dev/null"

/-- What a program reads from a file. -/
def readFrom (f : Files m) (path : String) : m (Except FileFault Bytes) :=
  if path = nullFile then return .ok [] else f.read path

/-- Prints the content of a file. -/
def printFile (f : Files m) (path : String) : m Effect := do
  match ← readFrom f path with
  | .ok bytes => return .prints bytes
  | .error e => return .complains 1 ("cat: " ++ path ++ ": " ++ reason e ++ "\n")

/-- Removes a file; a missing one may be fine. -/
def removeFile (f : Files m) (forced : Bool) (path : String) : m Effect := do
  match ← f.remove path with
  | .ok () => return .quiet 0
  | .error e =>
    if forced && e = .missing then return .quiet 0
    else return .complains 1 ("rm: cannot remove '" ++ path ++ "': " ++ reason e ++ "\n")

/-- Makes a file unless it is there. -/
def touchFile (f : Files m) (path : String) : m Effect := do
  if ← f.isPresent path then return .quiet 0
  else match ← f.write path [] with
    | .ok () => return .quiet 0
    | .error e => return .complains 1 ("touch: cannot touch '" ++ path ++ "': " ++ reason e ++ "\n")

/-- Copies a file, and removes it if it is to be moved. -/
def copyFile (f : Files m) (moves : Bool) (source target : String) : m Effect := do
  let program := if moves then "mv" else "cp"
  match ← readFrom f source with
  | .error e =>
    return .complains 1 (program ++ ": cannot stat '" ++ source ++ "': " ++ reason e ++ "\n")
  | .ok bytes =>
    match ← f.write target bytes with
    | .error e =>
      let message := ": cannot create regular file '" ++ target ++ "': "
      return .complains 1 (program ++ message ++ reason e ++ "\n")
    | .ok () => if moves then removeFile f true source else return .quiet 0

/-- Whether an argument is an option. -/
def isOption (s : String) : Bool := s.toList.head? = some '-' && s.length > 1

def isForced (options : List String) : Bool := options.any fun o => o.toList.contains 'f'

/-! ## Conditions -/

/-- Whether a condition on texts and files holds, if it is one. -/
def condition? (f : Files m) : List String → m (Option Bool)
  | [] => return some false
  | [s] => return some (!s.isEmpty)
  | ["-n", s] => return some (!s.isEmpty)
  | ["-z", s] => return some s.isEmpty
  | ["-e", path] => return some (← f.isPresent path)
  | ["-f", path] | ["-r", path] => return some ((← f.read path).toOption.isSome)
  | ["-s", path] => return some (((← f.read path).toOption.getD []) ≠ [])
  | ["-d", path] => return some ((← f.read path) matches .error .isDirectory)
  | [a, "=", b] => return some (a = b)
  | [a, "!=", b] => return some (a ≠ b)
  | [a, "-eq", b] => return some (a.toNat? = b.toNat?)
  | [a, "-ne", b] => return some (a.toNat? ≠ b.toNat?)
  | "!" :: rest => return (← condition? f rest).map (!·)
  | _ => return none

def conditionCode : Option Bool → Nat
  | some true => 0
  | some false => 1
  | none => 2

/-- Runs a built-in program; there is none for other names. -/
def builtin (f : Files m) : List String → m (Option Effect)
  | "true" :: _ => return some (.quiet 0)
  | "false" :: _ => return some (.quiet 1)
  | "echo" :: "-n" :: args => return some (.prints (expanded false (Text.joined " " args) []))
  | "echo" :: args =>
    return some (.prints (expanded false (Text.joined " " args) [] ++ [10]))
  | "printf" :: text :: args => return some (.prints (expanded true text args))
  | "cat" :: paths => return some (← forEach (printFile f) paths)
  | "rm" :: args =>
    let forced := isForced (args.filter isOption)
    return some (← forEach (removeFile f forced) (args.filter (!isOption ·)))
  | "touch" :: args => return some (← forEach (touchFile f) (args.filter (!isOption ·)))
  | ["cp", source, target] => return some (← copyFile f false source target)
  | ["mv", source, target] => return some (← copyFile f true source target)
  | "test" :: args => return some (.quiet (conditionCode (← condition? f args)))
  | "[" :: args =>
    if args.getLast? = some "]" then
      return some (.quiet (conditionCode (← condition? f args.dropLast)))
    else return some (.quiet 2)
  | _ => return none

end RoutineBindings.Shell
