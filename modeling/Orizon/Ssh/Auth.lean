import Orizon.Ssh.State
import Orizon.Ssh.Wire

/-!
# Orizon.Ssh.Auth

Password authentication of `system/ssh.c`: the configuration, the count of
failures with its lockout, and `ssh_process_userauth_request`.
-/

namespace Orizon

/-! ## The configuration -/

/-- `strstr`: the text from the first occurrence on. -/
def strstr (text needle : List UInt8) : Option (List UInt8) := text.tails.find? needle.isPrefixOf

/-- `ssh_copy_token` into a buffer of `size` bytes. -/
def sshCopyToken (src : List UInt8) (size : Nat) : List UInt8 :=
  (src.takeWhile fun c => c ≠ 0 ∧ c ≠ 0x20 ∧ c ≠ 0x0a ∧ c ≠ 0x0d).take (size - 1)

/-- A hexadecimal digit of `ssh_hex64_valid`. -/
def sshHexDigit (c : UInt8) : Bool :=
  (0x30 ≤ c && c ≤ 0x39) || (0x61 ≤ c && c ≤ 0x66) || (0x41 ≤ c && c ≤ 0x46)

/-- `ssh_hex64_valid`. -/
def sshHex64Valid (text : List UInt8) : Bool := text.length == 64 && text.all sshHexDigit

/-- A decimal digit. -/
def sshDecimalDigit (c : UInt8) : Bool := 0x30 ≤ c && c ≤ 0x39

/-- The digits of `ssh_parse_uint_token`; `none` where the value passes `maxValue`. -/
def sshParseUintDigits (maxValue : UInt32) (digits : List UInt8) : Option UInt32 :=
  digits.foldlM (fun value c =>
    let digit := (c - 0x30).toUInt32
    if value > (maxValue - digit) / 10 then none else some (value * 10 + digit)) 0

/-- `ssh_parse_uint_token`. -/
def sshParseUintToken (src : List UInt8) (fallback minValue maxValue : UInt32) : UInt32 :=
  let digits := (src.dropWhile fun c => c = 0x20 ∨ c = 0x09).takeWhile sshDecimalDigit
  match sshParseUintDigits maxValue digits with
  | none => maxValue
  | some value =>
      if digits = [] ∨ value < minValue then fallback
      else if value > maxValue then maxValue else value

/-- The number after `needle` in the configuration, when it is there. -/
def sshConfigNumber (text : List UInt8) (needle : String) (current default limit : UInt32) : UInt32 :=
  match strstr text (asciiBytes needle) with
  | none => current
  | some rest => sshParseUintToken (rest.drop needle.length) default 1 limit

/-- The password's hash in the configuration. -/
def sshConfigPassword (text : List UInt8) : Option (List UInt8) :=
  match strstr text (asciiBytes "password-sha256 ") with
  | none => none
  | some rest =>
      let hash := sshCopyToken (rest.drop 16) 65
      if sshHex64Valid hash then some hash else none

/-- The text of the configuration, read into `text[768]`. -/
def sshParseConfig (auth : SshAuth) (bytes : List UInt8) : SshAuth :=
  let text := cstringBytes (bytes.take 767)
  let hash := sshConfigPassword text
  { auth with
    passwordSha256 := hash.getD []
    authConfigured := hash.isSome
    maxAuthAttempts := sshConfigNumber text "max-attempts " 3 3 20
    authLockoutSeconds := sshConfigNumber text "lockout-seconds " 30 30 3600 }

/-- `ssh_load_config`. -/
def sshLoadConfig (env : SshEnv) (s : SshState) : SshState :=
  match env.configFile s.asked with
  | none => { s.ask with auth.authConfigured := sshHex64Valid s.auth.passwordSha256 }
  | some bytes => { s.ask with auth := sshParseConfig s.auth bytes }

/-! ## Failures and lockout -/

/-- `ssh_lockout_remaining`; its caller asks the clock. -/
def sshLockoutRemaining (env : SshEnv) (s : SshState) : UInt64 :=
  let now := timerUptimeSeconds env s
  if s.auth.authLockoutUntil ≤ now then 0 else s.auth.authLockoutUntil - now

/-- The count and the lockout after a failure at the time `now`. -/
def SshAuth.failed (auth : SshAuth) (now : UInt64) : SshAuth :=
  if auth.maxAuthAttempts > 0 ∧ auth.authFailures + 1 ≥ auth.maxAuthAttempts then
    { auth with authFailures := 0, authLockoutUntil := now + auth.authLockoutSeconds.toUInt64 }
  else { auth with authFailures := auth.authFailures + 1 }

/-- The count and the lockout after a success or an administrator's command. -/
def SshAuth.cleared (auth : SshAuth) : SshAuth :=
  { auth with authFailures := 0, authLockoutUntil := 0 }

/-- `ssh_note_auth_failure`; `compared` is recorded. -/
def sshNoteAuthFailure (env : SshEnv) (compared : Option UInt64) (s : SshState) : SshState :=
  let now := timerUptimeSeconds env s
  { s.ask with
    auth := s.auth.failed now
    neg.session.authFailurePending := true }.note (.authFailure compared s.auth now)

/-- `ssh_note_auth_success`; the request and the time of the check are recorded. -/
def sshNoteAuthSuccess (payload : List UInt8) (now : UInt64) (s : SshState) : SshState :=
  { s with
    auth := s.auth.cleared
    neg.session.authenticated := true
    neg.session.authSuccessPending := true }.note (.authSuccess payload s.auth now)

/-- A request that is refused without being counted. -/
def sshRefuseAuth (s : SshState) : SshState := { s with neg.session.authFailurePending := true }

/-! ## USERAUTH_REQUEST -/

/-- The user, the service and the method of a request, and the offset after them. -/
def sshReadUserauth (payload : List UInt8) : Option (List UInt8 × List UInt8 × List UInt8 × Nat) :=
  match sshReadString payload 1 with
  | none => none
  | some (user, off) =>
      match sshReadString payload off with
      | none => none
      | some (service, off) =>
          match sshReadString payload off with
          | none => none
          | some (method, off) => some (user, service, method, off)

/-- The method `password`, from its first field on; the lockout was checked at `now`. -/
def sshProcessPassword (env : SshEnv) (payload : List UInt8) (off : Nat) (now : UInt64)
    (s : SshState) : SshState :=
  if off + 1 > payload.length then sshNoteAuthFailure env none s
  else
    match sshReadString payload (off + 1) with
    | none => sshRefuseAuth s
    | some (password, _) =>
        if payload.getD off 0 ≠ 0 ∨ s.auth.authConfigured = false then sshRefuseAuth s
        else if sha256BufferHex password = s.auth.passwordSha256 then
          sshNoteAuthSuccess payload now s
        else sshNoteAuthFailure env (some now) s

/-- `ssh_process_userauth_request`. -/
def sshProcessUserauthRequest (env : SshEnv) (payload : List UInt8) (s : SshState) : SshState :=
  match sshReadUserauth payload with
  | none => sshNoteAuthFailure env none s
  | some (user, service, method, off) =>
      if sshLockoutRemaining env s > 0 then sshRefuseAuth s.ask
      else if service ≠ asciiBytes "ssh-connection" ∨ user ≠ asciiBytes "orizon" then
        sshNoteAuthFailure env none s.ask
      else if method = asciiBytes "none" then sshRefuseAuth s.ask
      else if method = asciiBytes "password" then
        sshProcessPassword env payload off (timerUptimeSeconds env s) s.ask
      else sshRefuseAuth s.ask

end Orizon
