import Orizon.Ssh.Auth
import Orizon.Ssh.Kex

/-!
# Orizon.Ssh.Channel

The session channel of `system/ssh.c`: its messages, and what the commands of
the shell and of `exec` requests do to the server.

The texts the commands print, and everything they do elsewhere in the kernel,
are answers (`SshOutput`).  A command's effect on the server itself is an
administrative command (`sshShellAdminOp`), or the end of the channel.
-/

namespace Orizon

/-! ## Output -/

/-- `ssh_queue_channel_text` into `ssh_channel_tx[65536]`. -/
def sshQueueChannelText (text : List UInt8) (ch : SshChannel) : SshChannel :=
  let start := if ch.channelDataPending then ch.channelTx.length else 0
  let ch :=
    if ch.channelDataPending then ch else { ch with channelTxOff := 0, channelLastChunkLen := 0 }
  if start ≥ 65535 then ch
  else
    { ch with
      channelTx := ch.channelTx.take start ++ (cstringBytes text).take (65535 - start)
      channelDataPending := true }

/-- The texts a command prints, one after the other. -/
def sshQueueTexts (texts : List (List UInt8)) (ch : SshChannel) : SshChannel :=
  texts.foldl (fun ch text => sshQueueChannelText text ch) ch

/-- A command's output taken from the answers. -/
def sshPrint (env : SshEnv) (s : SshState) : SshState :=
  { s.ask with neg.channel := sshQueueTexts (env.output s.asked).texts s.neg.channel }

/-! ## Administration -/

/-- `ssh_set_password`. -/
def sshSetPassword (password : List UInt8) (s : SshState) : SshState :=
  let token := sshCopyToken password 96
  if token.length < 6 then s
  else
    { s with auth := { s.auth.cleared with
      passwordSha256 := sha256BufferHex token
      authConfigured := true } }

/-- `ssh_disable_password`. -/
def sshDisablePassword (s : SshState) : SshState :=
  { s with
    auth := { s.auth.cleared with passwordSha256 := [], authConfigured := false }
    neg.session.authenticated := false }

/-- `ssh_clear_lockout`. -/
def sshClearLockout (s : SshState) : SshState := { s with auth := s.auth.cleared }

/-- `ssh_set_auth_policy`. -/
def sshSetAuthPolicy (maxAttempts lockoutSeconds : UInt32) (s : SshState) : SshState :=
  if maxAttempts < 1 ∨ maxAttempts > 20 ∨ lockoutSeconds < 1 ∨ lockoutSeconds > 3600 then s
  else
    { s with auth := { s.auth.cleared with
      maxAuthAttempts := maxAttempts
      authLockoutSeconds := lockoutSeconds } }

/-- An administrative command. -/
def sshAdmin (env : SshEnv) (op : SshAdminOp) (s : SshState) : SshState :=
  let s := s.note (.admin op)
  match op with
  | .setPassword password => sshSetPassword password s
  | .disablePassword => sshDisablePassword s
  | .reloadConfig => sshLoadConfig env s
  | .clearLockout => sshClearLockout s
  | .setAuthPolicy maxAttempts lockoutSeconds => sshSetAuthPolicy maxAttempts lockoutSeconds s
  | .reloadHostkey => sshReloadHostkey env s
  | .resetHostkey => sshResetHostkey env s

/-! ## Commands -/

/-- `ssh_shell_skip_spaces`. -/
def sshShellSkipSpaces (line : List UInt8) : List UInt8 := line.dropWhile (· = 0x20)

/-- `ssh_shell_command_is`. -/
def sshShellCommandIs (line : List UInt8) (name : String) : Bool :=
  (asciiBytes name).isPrefixOf line && (line.drop name.length).headD 0x20 == 0x20

/-- `ssh_shell_parse_uint`. -/
def sshShellParseUint (line : List UInt8) : Option UInt32 :=
  let digits := (sshShellSkipSpaces line).takeWhile sshDecimalDigit
  if digits = [] then none else sshParseUintDigits 0xffffffff digits

/-- `ssh_shell_set_auth_policy_remote`, from the arguments on. -/
def sshShellAuthOp (auth : SshAuth) (args : List UInt8) : Option SshAdminOp :=
  let args := sshShellSkipSpaces args
  if sshShellCommandIs args "max" then
    (sshShellParseUint (args.drop 3)).map fun v => .setAuthPolicy v auth.authLockoutSeconds
  else if sshShellCommandIs args "lockout" then
    (sshShellParseUint (args.drop 7)).map fun v => .setAuthPolicy auth.maxAuthAttempts v
  else if sshShellCommandIs args "default" || sshShellCommandIs args "defaults" then
    some (.setAuthPolicy 3 30)
  else none

/-- `ssh_shell_print_security`, from the arguments on. -/
def sshShellSecurityOp (args : List UInt8) : Option SshAdminOp :=
  let sub := sshShellSkipSpaces args
  if sshShellCommandIs sub "rotate" then
    let rotate := sshShellSkipSpaces (sub.drop 6)
    if sshShellCommandIs rotate "ssh-hostkey" || sshShellCommandIs rotate "hostkey" then
      some .resetHostkey
    else none
  else none

/-- The administrative command a line is, in the shell and in an `exec` request. -/
def sshShellAdminOp (auth : SshAuth) (line : List UInt8) : Option SshAdminOp :=
  if sshShellCommandIs line "security" then sshShellSecurityOp (line.drop 8)
  else if line = asciiBytes "ssh hostkey reload" then some .reloadHostkey
  else if line = asciiBytes "ssh hostkey reset" then some .resetHostkey
  else if sshShellCommandIs line "ssh password" then
    let args := sshShellSkipSpaces (line.drop 12)
    if sshShellCommandIs args "off" || sshShellCommandIs args "disable" ||
        sshShellCommandIs args "disabled" then some .disablePassword
    else some (.setPassword args)
  else if sshShellCommandIs line "ssh lockout" then
    let args := sshShellSkipSpaces (line.drop 11)
    if sshShellCommandIs args "clear" || sshShellCommandIs args "reset" ||
        sshShellCommandIs args "unlock" then some .clearLockout
    else none
  else if sshShellCommandIs line "ssh auth" then sshShellAuthOp auth (line.drop 8)
  else none

/-- A line executed: its administrative command, then its output. -/
def sshShellLine (env : SshEnv) (line : List UInt8) (s : SshState) : SshState :=
  let s := s.note (.command line)
  match sshShellAdminOp s.auth line with
  | some op => sshPrint env (sshAdmin env op s)
  | none => sshPrint env s

/-- The exit code a command sets: 13 where the file policy denies it, 127 where it is
not found. -/
def sshExitCode (env : SshEnv) (s : SshState) (code : UInt32) : UInt32 :=
  (env.output s.asked).exitCode.getD code

/-- `ssh_remote_shell_execute`. -/
def sshRemoteShellExecute (env : SshEnv) (line : List UInt8) (s : SshState) : SshState :=
  if line = [] then sshPrint env s
  else
    let code := sshExitCode env s s.neg.channel.channelExitCode
    let s := sshShellLine env line { s with neg.channel.channelExitCode := code }.ask
    if line = asciiBytes "exit" ∨ line = asciiBytes "logout" then
      { s with
        neg.channel.channelExitStatusPending := true
        neg.channel.channelClosePending := true }
    else s

/-- `ssh_remote_exec_execute`: the command is cut to `cmd[160]`. -/
def sshRemoteExecExecute (env : SshEnv) (command : List UInt8) (s : SshState) : SshState :=
  let code := sshExitCode env s 0
  let s := sshShellLine env (cstringBytes (command.take 159))
    { s with neg.channel.channelExitCode := code }.ask
  { s with
    neg.channel.channelExitStatusPending := true
    neg.channel.channelClosePending := true }

/-! ## Messages -/

/-- A `session` channel opened. -/
def sshOpenSession (ch : SshChannel) : SshChannel :=
  { ch with
    serverChannel := 0
    shellReady := false
    channelSuccessPending := false
    channelFailurePending := false
    channelDataPending := false
    channelExitStatusPending := false
    channelExitCode := 0
    channelClosePending := false
    channelCloseSent := false
    channelTx := []
    channelTxOff := 0
    channelLastChunkLen := 0
    shellLine := []
    channelOpenConfirmPending := true }

/-- `ssh_process_channel_open` on the channel. -/
def sshChannelOpen (authenticated : Bool) (payload : List UInt8) (ch : SshChannel) : SshChannel :=
  match sshReadString payload 1 with
  | none => { ch with channelFailurePending := true }
  | some (type, off) =>
      if authenticated = false ∨ off + 12 > payload.length then
        { ch with channelFailurePending := true }
      else
        let ch := { ch with
          clientChannel := sshGetU32 payload off
          clientWindow := sshGetU32 payload (off + 4)
          clientMaxPacket := sshGetU32 payload (off + 8) }
        if type = asciiBytes "session" then sshOpenSession ch
        else { ch with channelFailurePending := true }

/-- `ssh_process_channel_open`. -/
def sshProcessChannelOpen (payload : List UInt8) (s : SshState) : SshState :=
  { s with neg.channel := sshChannelOpen s.neg.session.authenticated payload s.neg.channel }

/-- A `CHANNEL_REQUEST` refused. -/
def sshFailChannel (s : SshState) : SshState := { s with neg.channel.channelFailurePending := true }

/-- A `CHANNEL_REQUEST` accepted; the client may not want to know. -/
def sshAcceptChannel (wantReply : Bool) (s : SshState) : SshState :=
  if wantReply then { s with neg.channel.channelSuccessPending := true } else s

/-- The request `exec`, from its command on. -/
def sshExecRequest (env : SshEnv) (payload : List UInt8) (off : Nat) (wantReply : Bool)
    (s : SshState) : SshState :=
  match sshReadString payload off with
  | some (command, _) => sshRemoteExecExecute env command (sshAcceptChannel wantReply s)
  | none => if wantReply then sshFailChannel s else s

/-- `ssh_process_channel_request`; the first text of a shell is a command's output
too. -/
def sshProcessChannelRequest (env : SshEnv) (payload : List UInt8) (s : SshState) : SshState :=
  if s.neg.session.authenticated = false ∨ 5 > payload.length then s
  else if sshGetU32 payload 1 ≠ s.neg.channel.serverChannel then sshFailChannel s
  else
    match sshReadString payload 5 with
    | none => sshFailChannel s
    | some (request, off) =>
        if off + 1 > payload.length then sshFailChannel s
        else
          let wantReply := payload.getD off 0 ≠ 0
          if request = asciiBytes "pty-req" ∨ request = asciiBytes "env" then
            sshAcceptChannel wantReply s
          else if request = asciiBytes "shell" then
            sshPrint env (sshAcceptChannel wantReply { s with neg.channel.shellReady := true })
          else if request = asciiBytes "exec" then sshExecRequest env payload (off + 1) wantReply s
          else if wantReply then sshFailChannel s
          else s

/-- The echo of a character. -/
def sshEcho (text : List UInt8) (s : SshState) : SshState :=
  { s with neg.channel := sshQueueChannelText text s.neg.channel }

/-- A line end of the shell: the line is executed. -/
def sshShellEnter (env : SshEnv) (ch : UInt8) (s : SshState) : SshState :=
  if ch = 0x0a ∧ s.neg.channel.shellLastWasCr = true then
    { s with neg.channel.shellLastWasCr := false }
  else
    let s := sshEcho [0x0d, 0x0a] { s with neg.channel.shellLastWasCr := ch == 0x0d }
    let s := sshRemoteShellExecute env (cstringBytes s.neg.channel.shellLine) s
    { s with neg.channel.shellLine := [] }

/-- A character of the shell's input, after a line end is ruled out. -/
def sshShellType (ch : UInt8) (s : SshState) : SshState :=
  let s := { s with neg.channel.shellLastWasCr := false }
  if ch = 0x08 ∨ ch = 0x7f then
    if s.neg.channel.shellLine.length > 0 then
      sshEcho [0x08, 0x20, 0x08] { s with neg.channel.shellLine := s.neg.channel.shellLine.dropLast }
    else s
  else if s.neg.channel.shellLine.length + 1 < 256 then
    let s := { s with neg.channel.shellLine := s.neg.channel.shellLine ++ [ch] }
    if 0x20 ≤ ch ∧ ch < 0x7f then sshEcho [ch] s else s
  else s

/-- A byte of the shell's input. -/
def sshShellByte (env : SshEnv) (s : SshState) (ch : UInt8) : SshState :=
  if ch = 0x0d ∨ ch = 0x0a then sshShellEnter env ch s else sshShellType ch s

/-- `ssh_process_channel_data`. -/
def sshProcessChannelData (env : SshEnv) (payload : List UInt8) (s : SshState) : SshState :=
  if s.neg.channel.shellReady = false ∨ 5 > payload.length then s
  else if sshGetU32 payload 1 ≠ s.neg.channel.serverChannel then s
  else
    match sshReadString payload 5 with
    | none => s
    | some (data, _) => data.foldl (sshShellByte env) s

end Orizon
