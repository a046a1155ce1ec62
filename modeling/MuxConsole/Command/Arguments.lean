import MuxConsole.Settings

/-!
# Command lines

The words after the name of the program: options, commands and their operands.
The options that all commands share may stand at any level; of two values of one
option the one at the deeper level counts, and at one level an option may be
given only once.
-/

namespace MuxConsole

inductive Command where
  | info
  | stats
  | inputs
  | dump
  | services
  | subchannels
  | components
  | general
  | write (path : String)
  | remoteList
  | remoteGet (module parameter : String)
  | remoteSet (module parameter value : String)
  | graphValues
  | graphConfig
deriving DecidableEq, Repr

end MuxConsole

namespace MuxConsole.Command

structure Options where
  settingsPath : Option String
  host : Option String
  statsPort : Option UInt16
  remotePort : Option UInt16
  legacy : Bool
  verbose : Bool
deriving DecidableEq, Repr

structure Invocation where
  options : Options
  command : Command
deriving DecidableEq, Repr

inductive Halt where
  | usage
  | version
deriving DecidableEq, Repr

/-! ## Options -/

namespace Options

def none : Options := ⟨.none, .none, .none, .none, false, false⟩

/-- The options of a level, and those of the levels above for what it leaves
open. -/
def withDefaults (own above : Options) : Options where
  settingsPath := own.settingsPath.or above.settingsPath
  host := own.host.or above.host
  statsPort := own.statsPort.or above.statsPort
  remotePort := own.remotePort.or above.remotePort
  legacy := own.legacy || above.legacy
  verbose := own.verbose || above.verbose

end Options

inductive Valued where
  | settingsPath
  | host
  | statsPort
  | remotePort
deriving DecidableEq, Repr

inductive Flag where
  | legacy
  | verbose
deriving DecidableEq, Repr

def valued? : String → Option Valued
  | "config" => some .settingsPath
  | "host" => some .host
  | "stats-port" => some .statsPort
  | "rc-port" => some .remotePort
  | _ => none

def flag? : String → Option Flag
  | "legacy" => some .legacy
  | "verbose" => some .verbose
  | _ => none

def port? (text : String) : Option UInt16 :=
  let digits := match text.toList with
    | '+' :: rest => rest
    | '-' :: rest => rest
    | chars => chars
  if digits ≠ [] ∧ digits.all Char.isDigit then
    let n := digits.foldl (fun n c => 10 * n + (c.toNat - '0'.toNat)) 0
    if text.toList.head? = some '-' then
      if n = 0 then some 0 else none
    else if n < 0x10000 then some (UInt16.ofNat n)
    else none
  else none

def once {α : Type} (old : Option α) (value : Option α) : Except Halt (Option α) :=
  match old, value with
  | none, some x => .ok (some x)
  | _, _ => .error .usage

def nonempty? (text : String) : Option String := if text = "" then none else some text

def Options.setValue (options : Options) (value : String) : Valued → Except Halt Options
  | .settingsPath => do
      return { options with settingsPath := ← once options.settingsPath (nonempty? value) }
  | .host => do return { options with host := ← once options.host (some value) }
  | .statsPort => do
      return { options with statsPort := ← once options.statsPort (port? value) }
  | .remotePort => do
      return { options with remotePort := ← once options.remotePort (port? value) }

def Options.setFlag (options : Options) : Flag → Except Halt Options
  | .legacy => if options.legacy then .error .usage else .ok { options with legacy := true }
  | .verbose => if options.verbose then .error .usage else .ok { options with verbose := true }

/-! ## Levels -/

inductive Level where
  | top
  | info
  | stats
  | inputs
  | config
  | dump
  | services
  | subchannels
  | components
  | general
  | write
  | remote
  | list
  | get
  | set
  | munin
  | muninConfig
deriving DecidableEq, Repr

namespace Level

def commands : Level → List (String × Level)
  | .top => [("info", .info), ("stats", .stats), ("inputs", .inputs), ("config", .config),
      ("rc", .remote), ("munin", .munin)]
  | .config => [("dump", .dump), ("services", .services), ("subchannels", .subchannels),
      ("components", .components), ("general", .general), ("write", .write)]
  | .remote => [("list", .list), ("get", .get), ("set", .set)]
  | .munin => [("config", .muninConfig)]
  | _ => []

def command? (level : Level) (word : String) : Option Level :=
  (level.commands.find? fun entry => entry.1 = word).map (·.2)

def operands : Level → Nat
  | .write => 1
  | .get => 2
  | .set => 3
  | _ => 0

def toCommand? (level : Level) (operands : List String) : Option Command :=
  match level, operands with
  | .info, [] => some .info
  | .stats, [] => some .stats
  | .inputs, [] => some .inputs
  | .dump, [] => some .dump
  | .services, [] => some .services
  | .subchannels, [] => some .subchannels
  | .components, [] => some .components
  | .general, [] => some .general
  | .write, [path] => (nonempty? path).map .write
  | .list, [] => some .remoteList
  | .get, [module, parameter] => some (.remoteGet module parameter)
  | .set, [module, parameter, value] => some (.remoteSet module parameter value)
  | .munin, [] => some .graphValues
  | .muninConfig, [] => some .graphConfig
  | _, _ => none

end Level

/-! ## Reading the words -/

structure Progress where
  level : Level
  /-- The options of the levels above. -/
  above : Options
  own : Options
  awaiting : Option Valued
  operands : List String
  trailing : Bool
deriving DecidableEq, Repr

namespace Progress

def start : Progress := ⟨.top, .none, .none, none, [], false⟩

def operand (p : Progress) (word : String) : Except Halt Progress :=
  if p.operands.length < p.level.operands then
    .ok { p with operands := p.operands ++ [word] }
  else .error .usage

def plainWord (p : Progress) (word : String) : Except Halt Progress :=
  match p.level.command? word with
  | some level => .ok ⟨level, p.own.withDefaults p.above, .none, none, [], false⟩
  | none => p.operand word

def setFlag (p : Progress) (flag : Flag) : Except Halt Progress := do
  return { p with own := ← p.own.setFlag flag }

def askVersion (p : Progress) : Except Halt Progress :=
  if p.level = .top then .error .version else .error .usage

def splitOption : List Char → List Char × Option (List Char)
  | [] => ([], none)
  | c :: rest =>
      if c = '=' then ([], some rest)
      else
        let (name, value) := splitOption rest
        (c :: name, value)

def longOption (p : Progress) (text : List Char) : Except Halt Progress :=
  let (name, value) := splitOption text
  let name := String.ofList name
  match valued? name, value with
  | some option, none => .ok { p with awaiting := some option }
  | some option, some value => do
      return { p with own := ← p.own.setValue (String.ofList value) option }
  | none, some _ => .error .usage
  | none, none =>
      match flag? name with
      | some flag => p.setFlag flag
      | none => if name = "version" then p.askVersion else .error .usage

def letters (p : Progress) : List Char → Except Halt Progress
  | [] => .ok p
  | c :: rest =>
      if c = 'v' then do letters (← p.setFlag .verbose) rest
      else if c = 'V' then p.askVersion
      else .error .usage

def step (p : Progress) (word : String) : Except Halt Progress :=
  if p.trailing then p.operand word
  else
    match p.awaiting, word.toList with
    | some _, '-' :: _ :: _ => .error .usage
    | some option, _ => do
        return { p with own := ← p.own.setValue word option, awaiting := none }
    | none, ['-', '-'] => .ok { p with trailing := true }
    | none, '-' :: '-' :: text => p.longOption text
    | none, '-' :: c :: rest => p.letters (c :: rest)
    | none, _ => p.plainWord word

def finish (p : Progress) : Except Halt Invocation :=
  match p.awaiting, p.level.toCommand? p.operands with
  | none, some command => .ok ⟨p.own.withDefaults p.above, command⟩
  | _, _ => .error .usage

end Progress

def Invocation.ofWords (words : List String) : Except Halt Invocation := do
  (← words.foldlM Progress.step .start).finish

end MuxConsole.Command
