import VibeConnect.JumpCoordinator

/-! The OpenSSH command of `connect-agent`, and what `ssh` reads of it. -/
namespace VibeConnect.ConnectCommand
open Python.Text Python.JsonCodec Python.Coroutine Models JumpCoordinator

inductive ConnectError where
  | identifierError (message : String)
  | valueError (message : String)
  deriving DecidableEq

structure ConnectArgs where
  nodeName : Str
  server : Str
  user : Option Str
  port : Int
  identityFile : Option Str

/-- `Path.expanduser` and `Path.is_file`. -/
structure Paths where
  expanduser : Str → Str
  isFile : Str → Bool

/-- A check of an identifier, as it raises here. -/
def identified (checked : Except Exc Str) : Except ConnectError Str :=
  match checked with
  | .ok value => .ok value
  | .error raised => .error (.identifierError raised.text)

def validateSshTargetPart (value : Str) (field : String) : Except ConnectError Str :=
  if value = [] ∨ value.head? = some 45 ∨ value.any isSpace then
    .error (.valueError ("invalid " ++ field))
  else .ok value

/-- The options that every command has. -/
def fixedCommand (port : Int) : List Str :=
  [lit "ssh", lit "-p", intText port, lit "-o", lit "ForwardAgent=no", lit "-o",
    lit "ClearAllForwardings=yes"]

def identityOptions (paths : Paths) : Option Str → Except ConnectError (List Str)
  | none => .ok []
  | some path =>
      if paths.isFile (paths.expanduser path) then .ok [lit "-i", paths.expanduser path]
      else .error (.valueError "identity file must exist and be a regular file")

/-- `user@server`, or the server alone. -/
def targetOf (user : Option Str) (server : Str) : Str :=
  match user with
  | none => server
  | some user => user ++ lit "@" ++ server

/-- The principal of a user, when there is one. -/
def checkedUser : Option Str → Except ConnectError (Option Str)
  | none => .ok none
  | some user => some <$> identified (validateUsernamePrincipal user)

def buildConnectCommand (paths : Paths) (args : ConnectArgs) : Except ConnectError (List Str) := do
  let nodeName ← identified (validateNodeName args.nodeName)
  let server ← validateSshTargetPart args.server "server"
  let user ← checkedUser args.user
  if 1 ≤ args.port ∧ args.port ≤ 65535 then
    let identity ← identityOptions paths args.identityFile
    .ok (fixedCommand args.port ++ identity ++ [targetOf user server, nodeName])
  else .error (.valueError "port must be between 1 and 65535")

/-! How an argument vector is read: `getopt`, up to the first operand. -/
section Getopt

/-- An option or a cluster of them. A dash alone is an operand. -/
def isOption : Str → Bool
  | 45 :: _ :: _ => true
  | _ => false

abbrev Options := List (CodePoint × Option Str)

/-- The options in one argument, and the last letter when its value is the next argument. -/
def cluster (takesValue : CodePoint → Bool) : Str → Options × Option CodePoint
  | [] => ([], none)
  | letter :: more =>
      if takesValue letter then
        if more = [] then ([], some letter) else ([(letter, some more)], none)
      else
        let later := cluster takesValue more
        ((letter, none) :: later.1, later.2)

/-- The options at the front of the arguments, whether `--` ended them, and the operands.
`none` is an option without its value. -/
def readOptions (takesValue : CodePoint → Bool) (pending : Option CodePoint) :
    List Str → Option (Options × Bool × List Str)
  | [] => if pending = none then some ([], false, []) else none
  | arg :: rest => match pending with
    | some letter => (readOptions takesValue none rest).map fun read =>
        ((letter, some arg) :: read.1, read.2)
    | none =>
        if arg = lit "--" then some ([], true, rest)
        else if isOption arg then
          let found := cluster takesValue arg.tail
          (readOptions takesValue found.2 rest).map fun read => (found.1 ++ read.1, read.2)
        else some ([], false, arg :: rest)
end Getopt

/-- The letters of `ssh` that take a value. -/
def sshTakesValue (letter : CodePoint) : Bool := (lit "BbcDEeFIiJLlmOoPpQRSWw").contains letter

structure Invocation where
  options : Options
  destination : Str
  command : List Str
  deriving DecidableEq

/-- `ssh` reads options again after the destination, unless `--` came before it. -/
def sshInvocation : List Str → Option Invocation
  | [] => none
  | _ :: args => match readOptions sshTakesValue none args with
    | some (options, ended, destination :: rest) =>
        if ended then some ⟨options, destination, rest⟩
        else (readOptions sshTakesValue none rest).map fun later =>
          ⟨options ++ later.1, destination, later.2.2⟩
    | _ => none

/-- The options that the helper means to give. -/
def intendedOptions (paths : Paths) (args : ConnectArgs) : Options :=
  [(112, some (intText args.port)), (111, some (lit "ForwardAgent=no")),
    (111, some (lit "ClearAllForwardings=yes"))] ++
      (args.identityFile.map fun path => ((105 : CodePoint), some (paths.expanduser path))).toList

/-- The command has the fixed options, the identity file if there is one, and two operands, and
`ssh` reads it so. -/
structure OptionsFixed (paths : Paths) (args : ConnectArgs) (argv : List Str) : Prop where
  shape : argv = fixedCommand args.port ++
    (args.identityFile.map fun path => [lit "-i", paths.expanduser path]).getD [] ++
      [targetOf args.user args.server, args.nodeName]
  target : (targetOf args.user args.server).head? ≠ some 45
  node : args.nodeName.head? ≠ some 45
  read : sshInvocation argv =
    some ⟨intendedOptions paths args, targetOf args.user args.server, [args.nodeName]⟩

/-! What the checks let through. -/
section Checks
variable {paths : Paths} {args : ConnectArgs} {value checked : Str}

theorem identified_ok {answer : Except Exc Str} (ok : identified answer = .ok value) :
    answer = .ok value := by
  cases answer with
  | error raised => cases ok
  | ok found =>
      cases ok
      rfl

theorem validateSshTargetPart_ok {field : String} (ok : validateSshTargetPart value field = .ok checked) :
    checked = value ∧ value ≠ [] ∧ value.head? ≠ some 45 := by
  unfold validateSshTargetPart at ok
  split at ok
  · cases ok
  · rename_i fine
    cases ok
    simp only [not_or] at fine
    exact ⟨rfl, fine.1, fine.2.1⟩

theorem validateNodeName_ok (ok : validateNodeName value = .ok checked) :
    checked = value ∧ value.head? ≠ some 45 := by
  unfold validateNodeName at ok
  split at ok
  · rename_i named
    cases ok
    refine ⟨rfl, ?_⟩
    cases value with
    | nil => simp
    | cons first rest =>
        rintro ⟨⟩
        -- a dash is not alphanumeric
        rw [isNodeName] at named
        simp [isAlphanumeric] at named
  · cases ok

theorem checkedUser_ok {user found : Option Str} (ok : checkedUser user = .ok found) :
    found = user ∧ ∀ name, user = some name → name ≠ [] := by
  cases user with
  | none =>
      cases ok
      simp
  | some name =>
      cases checked : identified (validateUsernamePrincipal name) with
      | error fault =>
          rw [checkedUser, checked] at ok
          cases ok
      | ok kept =>
          rw [checkedUser, checked] at ok
          cases ok
          obtain ⟨rfl, filled⟩ := validateUsernamePrincipal_ok (identified_ok checked)
          simpa using filled

theorem identityOptions_ok {options : List Str}
    (ok : identityOptions paths args.identityFile = .ok options) :
    options = (args.identityFile.map fun path => [lit "-i", paths.expanduser path]).getD [] := by
  cases given : args.identityFile with
  | none =>
      rw [given] at ok
      cases ok
      rfl
  | some path =>
      rw [given, identityOptions] at ok
      split at ok <;> cases ok
      rfl

/-- What an accepted namespace is, and the command for it. -/
theorem buildConnectCommand_ok {argv : List Str} (built : buildConnectCommand paths args = .ok argv) :
    args.nodeName.head? ≠ some 45 ∧ args.server ≠ [] ∧ args.server.head? ≠ some 45 ∧
      (∀ user, args.user = some user → user ≠ []) ∧
      argv = fixedCommand args.port ++
        (args.identityFile.map fun path => [lit "-i", paths.expanduser path]).getD [] ++
          [targetOf args.user args.server, args.nodeName] := by
  unfold buildConnectCommand at built
  obtain ⟨nodeName, named, built⟩ := bind_ok.mp built
  obtain ⟨rfl, node⟩ := validateNodeName_ok (identified_ok named)
  obtain ⟨server, served, built⟩ := bind_ok.mp built
  obtain ⟨rfl, present, plain⟩ := validateSshTargetPart_ok served
  obtain ⟨user, login, built⟩ := bind_ok.mp built
  obtain ⟨rfl, filled⟩ := checkedUser_ok login
  split at built
  · obtain ⟨identity, found, built⟩ := bind_ok.mp built
    cases built
    rw [identityOptions_ok found]
    exact ⟨node, present, plain, filled, rfl⟩
  · cases built
end Checks

/-! What `ssh` reads of the command. -/
section Reading
variable {takesValue : CodePoint → Bool} {letter : CodePoint} {arg value : Str} {rest : List Str}

/-- An option in an argument of its own, and its value in the next one. -/
theorem readOptions_value (takes : takesValue letter = true) (other : letter ≠ 45) :
    readOptions takesValue none ([45, letter] :: value :: rest) =
      (readOptions takesValue none rest).map fun read => ((letter, some value) :: read.1, read.2) := by
  have apart : ([45, letter] : Str) ≠ lit "--" := by
    intro same
    exact other (List.cons.inj (List.cons.inj same).2).1
  cases later : readOptions takesValue none rest <;>
    simp [readOptions, apart, isOption, cluster, takes, later]

theorem readOptions_operand (operand : arg.head? ≠ some 45) :
    readOptions takesValue none (arg :: rest) = some ([], false, arg :: rest) := by
  have apart : arg ≠ lit "--" := by
    rintro rfl
    exact operand rfl
  have plain : isOption arg = false := by
    unfold isOption
    split
    · exact absurd rfl operand
    · rfl
  simp [readOptions, apart, plain]

theorem sshInvocation_fixed (port : Int) (identity : Option Str) {destination command : Str}
    (target : destination.head? ≠ some 45) (node : command.head? ≠ some 45) :
    sshInvocation (fixedCommand port ++ (identity.map fun path => [lit "-i", path]).getD [] ++
        [destination, command]) =
      some ⟨[(112, some (intText port)), (111, some (lit "ForwardAgent=no")),
        (111, some (lit "ClearAllForwardings=yes"))] ++
          (identity.map fun path => ((105 : CodePoint), some path)).toList, destination, [command]⟩ := by
  have p : lit "-p" = [45, 112] := by decide
  have o : lit "-o" = [45, 111] := by decide
  have i : lit "-i" = [45, 105] := by decide
  have takes : sshTakesValue 112 = true ∧ sshTakesValue 111 = true ∧ sshTakesValue 105 = true := by
    decide +kernel
  have operand := @readOptions_operand sshTakesValue _ [] node
  cases identity <;>
    simp [sshInvocation, fixedCommand, p, o, i, readOptions_value, takes,
      readOptions_operand target, operand]
end Reading

theorem targetOf_head {user : Option Str} {server : Str} (plain : server.head? ≠ some 45)
    (filled : ∀ name, user = some name → name ≠ []) :
    (targetOf user server).head? ≠ some 45 ↔ ∀ name, user = some name → name.head? ≠ some 45 := by
  cases user with
  | none => simp [targetOf, plain]
  | some name =>
      cases name with
      | nil => exact absurd rfl (filled [] rfl)
      | cons first rest => simp [targetOf]

/-! Two users. -/
def homePaths : Paths := ⟨id, fun _ => true⟩

def connectArgs (user : String) : ConnectArgs :=
  ⟨lit "node01", lit "bastion", some (lit user), 22, none⟩

def connectArgv (user : String) : List Str :=
  fixedCommand 22 ++ [lit user ++ lit "@bastion", lit "node01"]

theorem alice_built : buildConnectCommand homePaths (connectArgs "alice") = .ok (connectArgv "alice") := by
  decide +kernel

end VibeConnect.ConnectCommand
