import BlockTree.Entries
import BlockTree.Text.Quoted

/-!
Arguments of a command: switches, operands, and what is left over.

* `Interface`: the switches of a command, and what else it takes;
* `Interface.classify`: an argument is an operand, the end of the switches, or a switch; long
  switches may be abbreviated;
* `Interface.read`: switches and operands in turn, from left to right.
-/

namespace BlockTree.CommandLine

/-- A switch: its names, the longest last, and whether a value belongs to it. -/
structure Switch where
  names : List Text
  takesValue : Bool
  deriving DecidableEq, Repr

/-- The name that the value of a switch is kept under. -/
def Switch.key (switch : Switch) : Text :=
  switch.names.getLastD []

/-- All names of a switch. -/
def Switch.title (switch : Switch) : Text :=
  Text.join "/" switch.names

/-- The switch that asks for help. -/
def helpSwitch : Switch := ⟨["-h", "--help"], false⟩

/-- What a command takes besides its switches: nothing, one operand with a name, or a command with
all that follows it. -/
inductive Operand where
  | nothing
  | one (name : Text)
  | command
  deriving DecidableEq, Repr

/-- The arguments that a command takes. -/
structure Interface where
  program : Text
  usage : Text
  help : Text
  switches : List Switch
  required : List Text
  operand : Operand

/-! ### Kinds of arguments -/

/-- A switch as it was written: the switch, the name used, and a value joined to it. -/
structure Use where
  switch : Switch
  name : Text
  joined : Option Text
  deriving DecidableEq, Repr

/-- The kinds of arguments. -/
inductive Argument where
  | operand (text : Text)
  | dashes
  | switch (text : Text) (use : Option Use)
  deriving DecidableEq, Repr

/-- The text of an argument. -/
def Argument.text : Argument → Text
  | .operand text => text
  | .dashes => "--"
  | .switch text _ => text

/-- A negative number: digits, or digits with a fraction, after a minus sign; a line feed may end
it. -/
def isNegativeNumber : Text → Bool
  | '-' :: rest =>
    let digit (c : Char) := (Text.digitValue? c).isSome
    let rest := if rest.getLast? = some '\n' then rest.dropLast else rest
    match Text.cut? '.' rest with
    | none => !rest.isEmpty && rest.all digit
    | some (whole, fraction) => whole.all digit && !fraction.isEmpty && fraction.all digit
  | _ => false

namespace Interface

/-- The switch with a name. -/
def find? (interface : Interface) (name : Text) : Option Switch :=
  interface.switches.find? fun switch => switch.names.contains name

/-- The names of all switches with their switches, in order. -/
def names (interface : Interface) : List (Text × Switch) :=
  interface.switches.flatMap fun switch => switch.names.map fun name => (name, switch)

/-- The switches that an argument may abbreviate. -/
def candidates (interface : Interface) (argument : Text) : List Use :=
  match argument with
  | '-' :: '-' :: _ =>
    let (lead, joined) := match Text.cut? '=' argument with
      | some (lead, value) => (lead, some value)
      | none => (argument, none)
    interface.names.filterMap fun (name, switch) =>
      if (name.after? lead).isSome then some ⟨switch, name, joined⟩ else none
  | _ =>
    interface.names.filterMap fun (name, switch) =>
      if name = argument.take 2 then some ⟨switch, name, some (argument.drop 2)⟩
      else if (name.after? argument).isSome then some ⟨switch, name, none⟩
      else none

/-- The switch that an argument names in full, alone or with a value joined to it. -/
def inFull? (interface : Interface) (argument : Text) : Option Use :=
  match interface.find? argument with
  | some switch => some ⟨switch, argument, none⟩
  | none =>
    (Text.cut? '=' argument).bind fun (name, value) =>
      (interface.find? name).map fun switch => ⟨switch, name, some value⟩

/-- The kind of an argument in front of the end of the switches, or the complaint about a name that
abbreviates several switches. -/
def classifyOne (interface : Interface) (argument : Text) : Except Text Argument :=
  if argument = ['-', '-'] then .ok .dashes
  else if argument.head? ≠ some '-' || argument.length = 1 then .ok (.operand argument)
  else match interface.inFull? argument with
    | some use => .ok (.switch argument (some use))
    | none =>
      match interface.candidates argument with
      | [use] => .ok (.switch argument (some use))
      | [] =>
        if isNegativeNumber argument || argument.contains ' ' then .ok (.operand argument)
        else .ok (.switch argument none)
      | uses =>
        .error ("ambiguous option: " ++ argument ++ " could match "
          ++ Text.join ", " (uses.map Use.name))

/-- The kinds of all arguments. After two dashes every argument is an operand. -/
def classify (interface : Interface) : List Text → Except Text (List Argument)
  | [] => .ok []
  | argument :: rest =>
    match interface.classifyOne argument with
    | .error complaint => .error complaint
    | .ok .dashes => .ok (.dashes :: rest.map Argument.operand)
    | .ok kind => (interface.classify rest).map (kind :: ·)

end Interface

/-! ### Reading arguments -/

/-- The arguments of a command: the switches given with their values, the last use counting; the
operands; and arguments that belong to nothing. -/
structure Parsed where
  values : Entries (List Text)
  operands : List Text
  extras : List Text
  deriving DecidableEq, Repr

/-- What comes of reading arguments. -/
inductive Reading where
  | parsed (parsed : Parsed)
  | help
  | misuse (complaint : Text)
  deriving DecidableEq, Repr

/-- An argument is a switch. -/
def Argument.isSwitch : Argument → Bool
  | .switch _ _ => true
  | _ => false

/-- How many arguments at the start belong to the operand: dashes, one operand and dashes after it,
or all if the operand is a command. -/
def operandCount (operand : Operand) (arguments : List Argument) : Nat :=
  let lead := (arguments.takeWhile (· = .dashes)).length
  match operand, arguments.drop lead with
  | .one _, .operand _ :: rest => lead + 1 + (rest.takeWhile (· = .dashes)).length
  | .command, .operand _ :: _ => arguments.length
  | _, _ => 0

/-- The operand among some arguments: the first of their texts that is not a pair of dashes in
front; a command keeps all of them. -/
def operandTexts (operand : Operand) (arguments : List Argument) : List Text :=
  match operand with
  | .command => arguments.map Argument.text
  | _ => (arguments.map Argument.text).erase ['-', '-']

/-- What a switch does: it takes no value, those joined to it or the next argument, or is misused.
-/
inductive SwitchUse where
  | flag
  | values (values : List Text) (fromNext : Bool)
  | help
  | misuse (complaint : Text)
  deriving DecidableEq, Repr

/-- The complaint about a value that a switch does not take. -/
def ignoredValue (switch : Switch) (value : Text) : Text :=
  "argument " ++ switch.title ++ ": ignored explicit argument " ++ Text.quote value

/-- What the short help switch does with a value joined to it: its own letter may be repeated, and
nothing else may follow. -/
def useShortHelp (value : Text) : SwitchUse :=
  let rest := value.dropWhile (· = 'h')
  if value.isEmpty || !rest.isEmpty then .misuse (ignoredValue helpSwitch rest) else .help

/-- What a switch without value does. -/
def Use.applyFlag (use : Use) : SwitchUse :=
  match use.joined with
  | some value =>
    if use.name = ['-', 'h'] then useShortHelp value else .misuse (ignoredValue use.switch value)
  | none => if use.switch = helpSwitch then .help else .flag

/-- What a use of a switch does, by the arguments after it. A joined pair of dashes is no value. -/
def Use.apply (use : Use) (rest : List Argument) : SwitchUse :=
  if use.switch.takesValue then
    match use.joined, rest with
    | some value, _ => .values (if value = ['-', '-'] then [] else [value]) false
    | none, .operand value :: _ => .values [value] true
    | none, _ => .misuse ("argument " ++ use.switch.title ++ ": expected one argument")
  else use.applyFlag

/-- Reads arguments from left to right. The operand is open until it has been read. -/
def readArguments (operand : Operand) (acc : Parsed) :
    Nat → List Argument → Reading
  | 0, _ => .parsed acc
  | fuel + 1, arguments =>
    let count := operandCount operand arguments
    if !arguments.any Argument.isSwitch then
      let taken := arguments.take count
      .parsed
        { acc with
          operands := if count = 0 then acc.operands else operandTexts operand taken
          extras := acc.extras ++ (arguments.drop count).map Argument.text }
    else
      match arguments with
      | .switch text none :: rest =>
        readArguments operand { acc with extras := acc.extras ++ [text] } fuel rest
      | .switch _ (some use) :: rest =>
        match use.apply rest with
        | .help => .help
        | .misuse complaint => .misuse complaint
        | .flag =>
          readArguments operand
            { acc with values := acc.values.insert use.switch.key [] } fuel rest
        | .values values fromNext =>
          readArguments operand
            { acc with values := acc.values.insert use.switch.key values } fuel
            (if fromNext then rest.drop 1 else rest)
      | _ =>
        if count = 0 then
          let extra := arguments.takeWhile (!·.isSwitch)
          readArguments operand
            { acc with extras := acc.extras ++ extra.map Argument.text } fuel
            (arguments.dropWhile (!·.isSwitch))
        else
          readArguments .nothing
            { acc with operands := operandTexts operand (arguments.take count) } fuel
            (arguments.drop count)

/-- The names of what is required and was not given. -/
def Interface.missing (interface : Interface) (parsed : Parsed) : List Text :=
  interface.required.filter (fun name => (parsed.values.find? name).isNone)
    ++ match interface.operand with
      | .one name => if parsed.operands.isEmpty then [name] else []
      | _ => []

/-- Reads the arguments of a command. -/
def Interface.read (interface : Interface) (arguments : List Text) : Reading :=
  match interface.classify arguments with
  | .error complaint => .misuse complaint
  | .ok kinds =>
    match readArguments interface.operand ⟨[], [], []⟩ (kinds.length + 1) kinds with
    | .parsed parsed =>
      let missing := interface.missing parsed
      if missing.isEmpty then .parsed parsed
      else .misuse ("the following arguments are required: " ++ Text.join ", " missing)
    | other => other

end BlockTree.CommandLine
