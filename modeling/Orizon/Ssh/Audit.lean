import Orizon.System.Text
import Mathlib.Data.List.TakeWhile

/-!
# Orizon.Ssh.Audit

The audit trail of `system/ssh.c`: every remote command is recorded, with its secret taken out.

The redactor finds the commands that carry a secret by their literal beginning, the dispatcher
by their words.  What is recorded is a function of the redacted command (`sshRecordCommand_eq_iff`),
so the trail is independent of the secret exactly when the redacted command is.
-/

namespace Orizon

/-! ## Words -/

/-- `ssh_shell_skip_spaces` of a string. -/
def sshSkipSpaces (s : CStr) : CStr := termSkipSpaces s

/-- `ssh_shell_command_is` of a string. -/
def sshCommandIs (cmd name : CStr) : Bool :=
  strncmpEq cmd name name.length && (cmd[name.length]? = none || cmd[name.length]? = some (cchar ' '))

/-- `ssh_command_prefix`. -/
def sshCommandPrefix (command pre : CStr) : Bool := sshCommandIs command pre

/-- `ssh_shell_read_token` into a buffer of `size` bytes: the token, and what follows it;
`none` is `NULL`. -/
def sshShellReadToken (s : CStr) (size : Nat) : Option (CStr × CStr) :=
  let s := sshSkipSpaces s
  if s = [] then none
  else
    let word := s.takeWhile (· ≠ cchar ' ')
    some (word.take (size - 1), sshSkipSpaces (s.drop word.length))

/-- `ssh_shell_split_path_text` into a path of `size` bytes; `none` is -1. -/
def sshShellSplitPathText (args : CStr) (size : Nat) : Option (CStr × CStr) :=
  let p := sshSkipSpaces args
  let word := p.takeWhile (· ≠ cchar ' ')
  if p = [] ∨ word.length = 0 ∨ word.length ≥ size then none
  else
    let text := sshSkipSpaces (p.drop word.length)
    if text = [] then none else some (word, text)

/-! ## Redaction -/

/-- The bytes that `ssh_copy_command_path` takes into the path. -/
def isAuditPathChar (c : CChar) : Bool := c ≠ cchar ' ' && c ≠ cchar '\r' && c ≠ cchar '\n'

/-- `ssh_copy_command_path`. -/
def sshCopyCommandPath (command op : CStr) (safeSize : Nat) : CStr :=
  let path := ((sshSkipSpaces (command.drop op.length)).takeWhile isAuditPathChar).take 79
  snprintfTexts safeSize [op, cstr " ", if path = [] then cstr "<path>" else path, cstr " <redacted-text>"]

/-- The bytes of a command before the first end of a line. -/
def auditLine (command : CStr) : CStr := command.takeWhile fun c => c ≠ cchar '\r' && c ≠ cchar '\n'

/-- `ssh_redact_command_for_audit` into a buffer of `safeSize` bytes. -/
def sshRedactCommandForAudit (command : CStr) (safeSize : Nat) : CStr :=
  if sshCommandPrefix command (cstr "ssh password") then snprintfTexts safeSize [cstr "ssh password <redacted>"]
  else if sshCommandPrefix command (cstr "write") then sshCopyCommandPath command (cstr "write") safeSize
  else if sshCommandPrefix command (cstr "append") then sshCopyCommandPath command (cstr "append") safeSize
  else if sshCommandPrefix command (cstr "wifi connect") || sshCommandPrefix command (cstr "wifi join") then
    snprintfTexts safeSize [cstr "wifi <redacted-credentials>"]
  else (auditLine command).take (safeSize - 1)

/-! ## The trail -/

/-- The peer, as `ssh_status` has it. -/
structure SshPeer where
  remoteIp : UInt32
  remotePort : UInt16
  sessions : UInt32

/-- The audit strings.  `sshLog` and `securityLog` are the lines appended to the two logs. -/
structure SshAudit where
  lastCommand : CStr
  lastAudit : CStr
  recent : Nat → CStr
  recentNext : UInt32
  recentCount : UInt32
  sshLog : List CStr
  securityLog : List CStr

/-- `SSH_AUDIT_RECENT`. -/
def sshAuditRecent : UInt32 := 4

/-- `netstack_format_ipv4` into a buffer of `size` bytes. -/
def netstackFormatIpv4 (ip : UInt32) (size : Nat) : CStr :=
  snprintfTexts size [cstrNat ((ip >>> 24) &&& 0xff).toNat, cstr ".", cstrNat ((ip >>> 16) &&& 0xff).toNat, cstr ".",
    cstrNat ((ip >>> 8) &&& 0xff).toNat, cstr ".", cstrNat (ip &&& 0xff).toNat]

/-- The `line[224]` of `ssh_audit_event`. -/
def sshAuditLine (peer : SshPeer) (event : CStr) : CStr :=
  snprintfTexts 224 [cstr "audit: ", event, cstr " remote=", netstackFormatIpv4 peer.remoteIp 24, cstr ":",
    cstrNat peer.remotePort.toNat, cstr " sessions=", cstrNat peer.sessions.toNat]

/-- `ssh_audit_event`. -/
def sshAuditEvent (a : SshAudit) (peer : SshPeer) (event : CStr) : SshAudit :=
  let line := sshAuditLine peer event
  { a with
    lastAudit := line.take 191
    recent := Function.update a.recent (a.recentNext % sshAuditRecent).toNat (line.take 159)
    recentNext := (a.recentNext + 1) % sshAuditRecent
    recentCount := if a.recentCount < sshAuditRecent then a.recentCount + 1 else a.recentCount
    sshLog := a.sshLog ++ [line]
    securityLog := a.securityLog ++ [line] }

/-- `ssh_record_command`. -/
def sshRecordCommand (a : SshAudit) (peer : SshPeer) (kind command : CStr) : SshAudit :=
  let safe := sshRedactCommandForAudit command 128
  sshAuditEvent { a with lastCommand := snprintfTexts 160 [kind, cstr ": ", safe] } peer
    (snprintfTexts 176 [kind, cstr " command=\"", safe, cstr "\""])

/-- The kinds of a recorded command. -/
inductive SshCommandKind
  | shell
  | exec
deriving DecidableEq

/-- The text of a kind. -/
def SshCommandKind.text : SshCommandKind → CStr
  | shell => cstr "shell"
  | exec => cstr "exec"

/-! ## Secrets -/

/-- The commands with a secret. -/
inductive SshSecretCommand
  | password
  | write
  | append
  | wifiConnect
  | wifiJoin
deriving DecidableEq

/-- The commands with the credentials of a network. -/
def SshSecretCommand.isWifi : SshSecretCommand → Bool
  | wifiConnect | wifiJoin => true
  | _ => false

/-- A line cut at its secret: the line before it, the secret and what follows. -/
structure SecretSplit where
  before : CStr
  secret : CStr
  after : CStr
deriving DecidableEq

/-- The line with `rest` as its end, cut behind `secret` in the rest. -/
def SecretSplit.ofRest (line rest : CStr) (secret : Nat) : SecretSplit where
  before := line.take (line.length - rest.length)
  secret := rest.take secret
  after := rest.drop secret

/-- The password of `wifi connect` and `wifi join`, where `ssh_shell_print_wifi` reads it behind
the network's name. -/
def sshWifiSplit (line args : CStr) : Option SecretSplit := do
  let (_, rest) ← sshShellReadToken args 96
  some (.ofRest line rest (rest.takeWhile (· ≠ cchar ' ')).length)

/-- The secret of a line, as the dispatcher reads it.  No other test of
`ssh_remote_shell_execute` or `ssh_remote_exec_execute` takes a line that one of these takes. -/
def sshSecretSplit (line : CStr) : Option (SshSecretCommand × SecretSplit) :=
  if sshCommandIs line (cstr "ssh password") then
    let args := sshSkipSpaces (line.drop 12)
    if sshCommandIs args (cstr "off") || sshCommandIs args (cstr "disable") ||
        sshCommandIs args (cstr "disabled") then none
    else some (.password, .ofRest line args args.length)
  else if sshCommandIs line (cstr "write") then do
    let (_, text) ← sshShellSplitPathText (line.drop 5) maxPath
    some (.write, .ofRest line text text.length)
  else if sshCommandIs line (cstr "append") then do
    let (_, text) ← sshShellSplitPathText (line.drop 6) maxPath
    some (.append, .ofRest line text text.length)
  else if sshCommandIs line (cstr "wifi") then
    let sub := sshSkipSpaces (sshSkipSpaces (line.drop 4))
    if sshCommandIs sub (cstr "connect") then
      (sshWifiSplit line (sshSkipSpaces (sub.drop 7))).map (.wifiConnect, ·)
    else if sshCommandIs sub (cstr "join") then
      (sshWifiSplit line (sshSkipSpaces (sub.drop 4))).map (.wifiJoin, ·)
    else none
  else none

/-- The line is spelled as the redactor expects it: one space between the two words. -/
def RedactedWifi (line : CStr) : Prop :=
  cstr "wifi connect" <+: line ∨ cstr "wifi join" <+: line

instance : DecidablePred RedactedWifi := fun line =>
  inferInstanceAs (Decidable (cstr "wifi connect" <+: line ∨ cstr "wifi join" <+: line))

/-- What is recorded of a command with a secret. -/
def redactedCommand (line before : CStr) : SshSecretCommand → CStr
  | .password => cstr "ssh password <redacted>"
  | .write => sshCopyCommandPath before (cstr "write") 128
  | .append => sshCopyCommandPath before (cstr "append") 128
  | .wifiConnect | .wifiJoin =>
      if RedactedWifi before then cstr "wifi <redacted-credentials>" else (auditLine line).take 127

/-! ## What is recorded -/

section Recorded

variable {cmd name other line l₁ l₂ args word text rest : CStr} {size : Nat}

theorem sshCommandIs_iff :
    sshCommandIs cmd name = true ↔
      name <+: cmd ∧ (cmd[name.length]? = none ∨ cmd[name.length]? = some (cchar ' ')) := by
  rw [sshCommandIs, strncmpEq, List.take_length, Bool.and_eq_true, decide_eq_true_eq, Bool.or_eq_true,
    decide_eq_true_eq, decide_eq_true_eq, List.prefix_iff_eq_take, eq_comm (a := name)]

theorem sshCommandIs_other (other : CStr) (h : name <+: cmd) (hname : ¬ name <+: other) (hother : ¬ other <+: name) :
    sshCommandIs cmd other = false := by
  by_contra htrue
  obtain ⟨hpre, -⟩ := sshCommandIs_iff.mp (Bool.of_not_eq_false htrue)
  rcases List.prefix_or_prefix_of_prefix h hpre with hle | hle
  · exact hname hle
  · exact hother hle

theorem length_snprintfTexts_le (texts : List CStr) : (snprintfTexts size texts).length ≤ size - 1 :=
  List.length_take_le _ _

theorem length_sshRedactCommandForAudit_le (command : CStr) :
    (sshRedactCommandForAudit command size).length ≤ size - 1 := by
  unfold sshRedactCommandForAudit sshCopyCommandPath
  split_ifs <;> first | exact length_snprintfTexts_le _ | exact List.length_take_le _ _

theorem snprintfTexts_of_lt {texts : List CStr} (h : texts.flatten.length < size) :
    snprintfTexts size texts = texts.flatten :=
  List.take_of_length_le (by omega)

theorem length_kind_le (kind : SshCommandKind) : kind.text.length ≤ 5 := by cases kind <;> decide

/-- The trail keeps the redacted command whole, and nothing else of the command. -/
theorem sshRecordCommand_eq_iff (a : SshAudit) (peer : SshPeer) (kind : SshCommandKind) :
    sshRecordCommand a peer kind.text l₁ = sshRecordCommand a peer kind.text l₂ ↔
      sshRedactCommandForAudit l₁ 128 = sshRedactCommandForAudit l₂ 128 := by
  have hlast : ∀ command, snprintfTexts 160 [kind.text, cstr ": ", sshRedactCommandForAudit command 128] =
      kind.text ++ cstr ": " ++ sshRedactCommandForAudit command 128 := by
    intro command
    have hkind := length_kind_le kind
    have hsafe := @length_sshRedactCommandForAudit_le 128 command
    have hcolon : (cstr ": ").length = 2 := by decide
    rw [snprintfTexts_of_lt]
    · simp
    · simp only [List.flatten_cons, List.flatten_nil, List.length_append, List.length_nil]
      omega
  constructor
  · intro h
    have hcommand := congrArg SshAudit.lastCommand h
    simp only [sshRecordCommand, sshAuditEvent, hlast] at hcommand
    exact List.append_cancel_left hcommand
  · intro h
    rw [sshRecordCommand, sshRecordCommand, h]

/-! ## Where the secret stands -/

theorem sshSkipSpaces_suffix (s : CStr) : sshSkipSpaces s <:+ s := List.dropWhile_suffix _

/-- Spaces in front are skipped whatever follows a byte that is none. -/
theorem sshSkipSpaces_append (h : sshSkipSpaces args ≠ []) (t : CStr) :
    sshSkipSpaces (args ++ t) = sshSkipSpaces args ++ t := by
  have hne : ((args.dropWhile (·.val = 0x20)).isEmpty : Prop) ↔ False := by
    simpa [sshSkipSpaces, termSkipSpaces] using h
  rw [sshSkipSpaces, termSkipSpaces, List.dropWhile_append, if_neg hne.mp]
  rfl

theorem takeWhile_append_of_mem {p : CChar → Bool} {x : CChar} {s : CStr} (hx : x ∈ s) (hp : p x = false) (t : CStr) :
    (s ++ t).takeWhile p = s.takeWhile p := by
  rw [List.takeWhile_append, if_neg]
  intro hall
  rw [← (List.takeWhile_prefix p).eq_of_length hall] at hx
  simpa [hp] using List.mem_takeWhile_imp hx

theorem before_ofRest (before rest : CStr) (n : Nat) : (SecretSplit.ofRest (before ++ rest) rest n).before =
    before := by
  simp [SecretSplit.ofRest]

theorem ofRest_append (h : rest <:+ line) (n : Nat) : (SecretSplit.ofRest line rest n).before ++ rest = line := by
  obtain ⟨before, rfl⟩ := h
  simp [SecretSplit.ofRest]

theorem eq_space_iff {c : CChar} : c = cchar ' ' ↔ c.val = 0x20 := Subtype.ext_iff

theorem sshSkipSpaces_split (s : CStr) :
    ∃ lead, s = lead ++ sshSkipSpaces s ∧ ∀ c ∈ lead, c = cchar ' ' :=
  ⟨s.takeWhile (·.val = 0x20), List.takeWhile_append_dropWhile.symm, fun _ hc =>
    eq_space_iff.mpr (by simpa using List.mem_takeWhile_imp hc)⟩

theorem sshSkipSpaces_word {lead s : CStr} (hlead : ∀ c ∈ lead, c = cchar ' ') (hs : s.head? ≠ some (cchar ' ')) :
    sshSkipSpaces (lead ++ s) = s := by
  have hdrop : lead.dropWhile (·.val = 0x20) = [] :=
    List.dropWhile_eq_nil_iff.mpr fun c hc => by simpa using eq_space_iff.mp (hlead c hc)
  rw [sshSkipSpaces, termSkipSpaces, List.dropWhile_append, hdrop, List.isEmpty_nil, if_pos rfl]
  cases s with
  | nil => rfl
  | cons c s =>
      have hc : c.val ≠ 0x20 := fun h => hs (by rw [List.head?_cons, eq_space_iff.mpr h])
      exact List.dropWhile_cons_of_neg (by simpa using hc)

theorem head?_sshSkipSpaces (s : CStr) : (sshSkipSpaces s).head? ≠ some (cchar ' ') := by
  intro h
  have hhead := List.head?_dropWhile_not (fun c : CChar => decide (c.val = 0x20)) s
  rw [← termSkipSpaces, ← sshSkipSpaces, h] at hhead
  revert hhead
  decide

/-- A word that another one follows: the spaces between them are there. -/
theorem word_gap {p : CStr} (hne : sshSkipSpaces (p.drop (p.takeWhile (· ≠ cchar ' ')).length) ≠ []) :
    ∃ gap, p = p.takeWhile (· ≠ cchar ' ') ++ gap ++
        sshSkipSpaces (p.drop (p.takeWhile (· ≠ cchar ' ')).length) ∧ cchar ' ' ∈ gap := by
  have hdrop : p.drop (p.takeWhile (· ≠ cchar ' ')).length = p.dropWhile (· ≠ cchar ' ') := by
    conv_lhs => arg 2; rw [← @List.takeWhile_append_dropWhile _ (· ≠ cchar ' ') p]
    rw [List.drop_left]
  rw [hdrop] at hne ⊢
  obtain ⟨gap, hgap, hspaces⟩ := sshSkipSpaces_split (p.dropWhile (· ≠ cchar ' '))
  refine ⟨gap, ?_, ?_⟩
  · rw [List.append_assoc, ← hgap, List.takeWhile_append_dropWhile]
  · cases gap with
    | cons c gap =>
        rw [hspaces c (by simp)]
        exact List.mem_cons_self
    | nil =>
        rw [List.nil_append] at hgap
        have hhead := List.head?_dropWhile_not (fun c : CChar => decide (c ≠ cchar ' ')) p
        have hskip := head?_sshSkipSpaces (p.dropWhile (· ≠ cchar ' '))
        rw [← hgap] at hskip hne
        cases hp : p.dropWhile (· ≠ cchar ' ') with
        | nil => exact absurd hp hne
        | cons c rest =>
            rw [hp] at hhead hskip
            have hc : c = cchar ' ' := by simpa only [List.head?_cons, decide_eq_false_iff_not, not_not] using hhead
            exact absurd (congrArg some hc) hskip

theorem sshShellSplitPathText_split (h : sshShellSplitPathText args size = some (word, text)) :
    ∃ before, args = before ++ text ∧ cchar ' ' ∈ sshSkipSpaces before := by
  rw [sshShellSplitPathText] at h
  dsimp only at h
  split at h
  · contradiction
  · rename_i hword
    split at h
    · contradiction
    · rename_i htext
      simp only [Option.some.injEq, Prod.mk.injEq] at h
      simp only [not_or] at hword
      obtain ⟨lead, hargs, hlead⟩ := sshSkipSpaces_split args
      obtain ⟨gap, hgap, hspace⟩ := word_gap htext
      obtain ⟨hfirst, hrest⟩ := h
      rw [hfirst] at hrest hgap hword
      rw [hrest] at hgap
      refine ⟨lead ++ (word ++ gap), by rw [List.append_assoc, ← hgap, ← hargs], ?_⟩
      rw [sshSkipSpaces_word hlead]
      · exact List.mem_append_right _ hspace
      · have hne : word ≠ [] := List.ne_nil_of_length_pos (Nat.pos_of_ne_zero hword.2.1)
        have hhead : ∀ c ∈ word, c ≠ cchar ' ' := by
          intro c hc
          rw [← hfirst] at hc
          simpa only [decide_eq_true_eq] using List.mem_takeWhile_imp hc
        rw [List.head?_append_of_ne_nil _ hne, List.head?_eq_some_head hne]
        exact fun heq => hhead _ (List.head_mem hne) (Option.some.inj heq)

/-- What is recorded of a command with a path does not depend on its text. -/
theorem sshCopyCommandPath_append {before op : CStr} (hop : op.length ≤ before.length)
    (hspace : cchar ' ' ∈ sshSkipSpaces (before.drop op.length)) (text : CStr) :
    sshCopyCommandPath (before ++ text) op size = sshCopyCommandPath before op size := by
  have hne : sshSkipSpaces (before.drop op.length) ≠ [] := List.ne_nil_of_mem hspace
  have hblank : isAuditPathChar (cchar ' ') = false := by decide
  rw [sshCopyCommandPath, sshCopyCommandPath, List.drop_append_of_le_length hop, sshSkipSpaces_append hne,
    takeWhile_append_of_mem hspace hblank]

theorem sshShellReadToken_split (h : sshShellReadToken args size = some (word, rest)) : rest <:+ args := by
  rw [sshShellReadToken] at h
  dsimp only at h
  split at h
  · contradiction
  · simp only [Option.some.injEq, Prod.mk.injEq] at h
    rw [← h.2]
    exact ((sshSkipSpaces_suffix _).trans (List.drop_suffix _ _)).trans (sshSkipSpaces_suffix _)

/-- The password of a network stands at the end of the line, behind the name. -/
theorem sshWifiSplit_cases {split : SecretSplit} (h : sshWifiSplit line args = some split) :
    ∃ rest n, rest <:+ args ∧ split = .ofRest line rest n := by
  rw [sshWifiSplit, Option.bind_eq_bind, Option.bind_eq_some_iff] at h
  obtain ⟨⟨word, rest⟩, hread, h⟩ := h
  exact ⟨rest, _, sshShellReadToken_split hread, (Option.some.inj h).symm⟩

/-! ## The redacted command -/

variable {split split₁ split₂ : SecretSplit} {c : SshSecretCommand}

theorem redact_password (h : sshCommandIs line (cstr "ssh password") = true) :
    sshRedactCommandForAudit line 128 = cstr "ssh password <redacted>" := by
  rw [sshRedactCommandForAudit, sshCommandPrefix, if_pos h]
  decide

theorem copy_path_before {op : CStr} (h : sshCommandIs line op = true)
    (hsplit : sshShellSplitPathText (line.drop op.length) maxPath = some (word, text)) :
    sshCopyCommandPath line op size =
      sshCopyCommandPath (SecretSplit.ofRest line text text.length).before op size := by
  obtain ⟨before, hdrop, hspace⟩ := sshShellSplitPathText_split hsplit
  obtain ⟨rest, rfl⟩ := (sshCommandIs_iff.mp h).1
  rw [List.drop_left] at hdrop
  subst hdrop
  rw [← List.append_assoc, before_ofRest]
  exact sshCopyCommandPath_append (by simp) (by simpa using hspace) text

theorem redact_write (h : sshCommandIs line (cstr "write") = true)
    (hsplit : sshShellSplitPathText (line.drop 5) maxPath = some (word, text)) :
    sshRedactCommandForAudit line 128 =
      redactedCommand line (SecretSplit.ofRest line text text.length).before .write := by
  have hpassword := sshCommandIs_other (cstr "ssh password") (sshCommandIs_iff.mp h).1 (by decide) (by decide)
  rw [sshRedactCommandForAudit, sshCommandPrefix, sshCommandPrefix, hpassword, if_neg Bool.false_ne_true, if_pos h,
    redactedCommand]
  exact copy_path_before h hsplit

theorem redact_append (h : sshCommandIs line (cstr "append") = true)
    (hsplit : sshShellSplitPathText (line.drop 6) maxPath = some (word, text)) :
    sshRedactCommandForAudit line 128 =
      redactedCommand line (SecretSplit.ofRest line text text.length).before .append := by
  have hpre := (sshCommandIs_iff.mp h).1
  have hpassword := sshCommandIs_other (cstr "ssh password") hpre (by decide) (by decide)
  have hwrite := sshCommandIs_other (cstr "write") hpre (by decide) (by decide)
  rw [sshRedactCommandForAudit, sshCommandPrefix, sshCommandPrefix, sshCommandPrefix, hpassword,
    if_neg Bool.false_ne_true, hwrite, if_neg Bool.false_ne_true, if_pos h, redactedCommand]
  exact copy_path_before h hsplit

/-- The redactor's two tests on a line of the `wifi` command. -/
theorem redact_wifi (h : sshCommandIs line (cstr "wifi") = true) :
    sshRedactCommandForAudit line 128 =
      if sshCommandPrefix line (cstr "wifi connect") || sshCommandPrefix line (cstr "wifi join") then
        cstr "wifi <redacted-credentials>"
      else (auditLine line).take 127 := by
  have hpre := (sshCommandIs_iff.mp h).1
  have hpassword := sshCommandIs_other (cstr "ssh password") hpre (by decide) (by decide)
  have hwrite := sshCommandIs_other (cstr "write") hpre (by decide) (by decide)
  have happend := sshCommandIs_other (cstr "append") hpre (by decide) (by decide)
  have htext : snprintfTexts 128 [cstr "wifi <redacted-credentials>"] = cstr "wifi <redacted-credentials>" := by
    decide
  rw [sshRedactCommandForAudit, htext, sshCommandPrefix, sshCommandPrefix, sshCommandPrefix, hpassword,
    if_neg Bool.false_ne_true, hwrite, if_neg Bool.false_ne_true, happend, if_neg Bool.false_ne_true]

/-- A line that is spelled with one space: what the dispatcher reads behind it. -/
theorem wifi_literal (hother : other = cstr "connect" ∨ other = cstr "join")
    (hname : name = cstr "connect" ∨ name = cstr "join")
    (hsub : sshCommandIs (sshSkipSpaces (sshSkipSpaces (line.drop 4))) name = true)
    (h : cstr "wifi " ++ other <+: line) :
    other = name ∧ sshCommandPrefix line (cstr "wifi " ++ name) = true ∧
      ∃ t, line = cstr "wifi " ++ name ++ t ∧ sshSkipSpaces (sshSkipSpaces (line.drop 4)) = name ++ t := by
  obtain ⟨t, rfl⟩ := h
  have hhead : (other ++ t).head? ≠ some (cchar ' ') := by
    obtain rfl | rfl := hother
    · rw [List.head?_append_of_ne_nil _ (by decide)]
      decide
    · rw [List.head?_append_of_ne_nil _ (by decide)]
      decide
  have hskip : sshSkipSpaces (sshSkipSpaces ((cstr "wifi " ++ other ++ t).drop 4)) = other ++ t := by
    have hdrop : (cstr "wifi " ++ other ++ t).drop 4 = [cchar ' '] ++ (other ++ t) := rfl
    have hword := @sshSkipSpaces_word [] _ (by simp) hhead
    rw [hdrop, sshSkipSpaces_word (by simp) hhead]
    exact hword
  rw [hskip] at hsub ⊢
  obtain ⟨hpre, hend⟩ := sshCommandIs_iff.mp hsub
  obtain rfl : other = name := by
    have hcompare := List.prefix_or_prefix_of_prefix hpre (List.prefix_append other t)
    obtain rfl | rfl := hother <;> obtain rfl | rfl := hname <;> revert hcompare <;> decide
  refine ⟨rfl, sshCommandIs_iff.mpr ⟨List.prefix_append _ _, ?_⟩, t, rfl, rfl⟩
  simpa [List.getElem?_append_right] using hend

theorem redactedWifi_iff {n : Nat} (hname : name = cstr "connect" ∨ name = cstr "join")
    (hsub : sshCommandIs (sshSkipSpaces (sshSkipSpaces (line.drop 4))) name = true)
    (hrest : rest <:+ (sshSkipSpaces (sshSkipSpaces (line.drop 4))).drop name.length) :
    (sshCommandPrefix line (cstr "wifi connect") || sshCommandPrefix line (cstr "wifi join")) = true ↔
      RedactedWifi (SecretSplit.ofRest line rest n).before := by
  have hconnect : cstr "wifi connect" = cstr "wifi " ++ cstr "connect" := by decide
  have hjoin : cstr "wifi join" = cstr "wifi " ++ cstr "join" := by decide
  have hline := ofRest_append (hrest.trans ((List.drop_suffix _ _).trans ((sshSkipSpaces_suffix _).trans
    ((sshSkipSpaces_suffix _).trans (List.drop_suffix _ _))))) n
  have hliteral : ∀ other, other = cstr "connect" ∨ other = cstr "join" →
      (sshCommandPrefix line (cstr "wifi " ++ other) = true ↔
        cstr "wifi " ++ other <+: (SecretSplit.ofRest line rest n).before) := by
    intro other hother
    constructor
    · intro h
      obtain ⟨rfl, -, t, ht, hskip⟩ := wifi_literal hother hname hsub (sshCommandIs_iff.mp h).1
      rw [hskip, List.drop_left] at hrest
      obtain ⟨gap, rfl⟩ := hrest
      rw [ht, ← List.append_assoc, before_ofRest]
      exact List.prefix_append _ _
    · intro h
      obtain ⟨rfl, hpre, -⟩ := wifi_literal hother hname hsub (h.trans ⟨rest, hline⟩)
      exact hpre
  rw [Bool.or_eq_true, RedactedWifi, hconnect, hjoin, hliteral _ (.inl rfl), hliteral _ (.inr rfl)]

theorem sshSecretSplit_cases (h : sshSecretSplit line = some (c, split)) :
    (c = .password ∧ sshCommandIs line (cstr "ssh password") = true ∧
      ∃ n, split = .ofRest line (sshSkipSpaces (line.drop 12)) n) ∨
    (c = .write ∧ sshCommandIs line (cstr "write") = true ∧
      ∃ word text, sshShellSplitPathText (line.drop 5) maxPath = some (word, text) ∧
        split = .ofRest line text text.length) ∨
    (c = .append ∧ sshCommandIs line (cstr "append") = true ∧
      ∃ word text, sshShellSplitPathText (line.drop 6) maxPath = some (word, text) ∧
        split = .ofRest line text text.length) ∨
    (∃ name, (c = .wifiConnect ∧ name = cstr "connect" ∨ c = .wifiJoin ∧ name = cstr "join") ∧
      sshCommandIs line (cstr "wifi") = true ∧
      sshCommandIs (sshSkipSpaces (sshSkipSpaces (line.drop 4))) name = true ∧
      ∃ rest n, rest <:+ (sshSkipSpaces (sshSkipSpaces (line.drop 4))).drop name.length ∧
        split = .ofRest line rest n) := by
  rw [sshSecretSplit] at h
  dsimp only at h
  split_ifs at h with hpassword hoff hwrite happend hwifi hconnect hjoin
  · simp only [Option.some.injEq, Prod.mk.injEq] at h
    exact .inl ⟨h.1.symm, hpassword, _, h.2.symm⟩
  · obtain ⟨⟨word, text⟩, hsplit, h⟩ := Option.bind_eq_some_iff.mp h
    simp only [Option.some.injEq, Prod.mk.injEq] at h
    exact .inr (.inl ⟨h.1.symm, hwrite, word, text, hsplit, h.2.symm⟩)
  · obtain ⟨⟨word, text⟩, hsplit, h⟩ := Option.bind_eq_some_iff.mp h
    simp only [Option.some.injEq, Prod.mk.injEq] at h
    exact .inr (.inr (.inl ⟨h.1.symm, happend, word, text, hsplit, h.2.symm⟩))
  · obtain ⟨wifi, hwifiSplit, h⟩ := Option.map_eq_some_iff.mp h
    obtain ⟨hc, rfl⟩ := Prod.mk.inj h
    obtain ⟨rest, n, hrest, hsplit⟩ := sshWifiSplit_cases hwifiSplit
    exact .inr (.inr (.inr ⟨_, .inl ⟨hc.symm, rfl⟩, hwifi, hconnect, rest, n,
      hrest.trans (sshSkipSpaces_suffix _), hsplit⟩))
  · obtain ⟨wifi, hwifiSplit, h⟩ := Option.map_eq_some_iff.mp h
    obtain ⟨hc, rfl⟩ := Prod.mk.inj h
    obtain ⟨rest, n, hrest, hsplit⟩ := sshWifiSplit_cases hwifiSplit
    exact .inr (.inr (.inr ⟨_, .inr ⟨hc.symm, rfl⟩, hwifi, hjoin, rest, n,
      hrest.trans (sshSkipSpaces_suffix _), hsplit⟩))

theorem redact_of_split (h : sshSecretSplit line = some (c, split)) :
    sshRedactCommandForAudit line 128 = redactedCommand line split.before c := by
  obtain ⟨rfl, hpassword, -⟩ | ⟨rfl, hwrite, word, text, hsplit, rfl⟩ | ⟨rfl, happend, word, text, hsplit, rfl⟩ |
    ⟨name, hname, hwifi, hsub, rest, n, hrest, rfl⟩ := sshSecretSplit_cases h
  · exact redact_password hpassword
  · exact redact_write hwrite hsplit
  · exact redact_append happend hsplit
  · have hiff := redactedWifi_iff (n := n) (hname.imp And.right And.right) hsub hrest
    rw [redact_wifi hwifi, if_congr hiff rfl rfl]
    obtain ⟨rfl, -⟩ | ⟨rfl, -⟩ := hname <;> rfl

end Recorded

/-- The trail of two lines that differ in their secret alone is the same exactly when the
redactor sees the command, or the secret is not among the bytes it keeps. -/
theorem sshRecordCommand_secret_iff (a : SshAudit) (peer : SshPeer) (kind : SshCommandKind) {c : SshSecretCommand}
    {l₁ l₂ : CStr} {split₁ split₂ : SecretSplit} (h₁ : sshSecretSplit l₁ = some (c, split₁))
    (h₂ : sshSecretSplit l₂ = some (c, split₂)) (hbefore : split₁.before = split₂.before) :
    sshRecordCommand a peer kind.text l₁ = sshRecordCommand a peer kind.text l₂ ↔
      (c.isWifi = true → RedactedWifi split₁.before ∨ (auditLine l₁).take 127 = (auditLine l₂).take 127) := by
  rw [sshRecordCommand_eq_iff, redact_of_split h₁, redact_of_split h₂, ← hbefore]
  cases c with
  | password | write | append => simp [redactedCommand, SshSecretCommand.isWifi]
  | wifiConnect | wifiJoin =>
      by_cases hredacted : RedactedWifi split₁.before
      · simp [redactedCommand, hredacted]
      · simp [redactedCommand, hredacted, SshSecretCommand.isWifi]

/-- Two passwords for the network `home`. -/
theorem sshRecordCommand_secret_home :
    sshRecordCommand ⟨[], [], fun _ => [], 0, 0, [], []⟩ ⟨0, 0, 0⟩ (SshCommandKind.text .shell)
        (cstr "wifi connect home hunter22") =
      sshRecordCommand ⟨[], [], fun _ => [], 0, 0, [], []⟩ ⟨0, 0, 0⟩ (SshCommandKind.text .shell)
        (cstr "wifi connect home hunter23") := by
  have h₁ : sshSecretSplit (cstr "wifi connect home hunter22") =
      some (.wifiConnect, ⟨cstr "wifi connect home ", cstr "hunter22", []⟩) := by decide +kernel
  have h₂ : sshSecretSplit (cstr "wifi connect home hunter23") =
      some (.wifiConnect, ⟨cstr "wifi connect home ", cstr "hunter23", []⟩) := by decide +kernel
  exact (sshRecordCommand_secret_iff _ _ .shell h₁ h₂ rfl).mpr (by decide +kernel)

/-- The trail tells two passwords apart. -/
theorem sshRecordCommand_leaks :
    sshSecretSplit (cstr "wifi  connect home hunter22") =
        some (.wifiConnect, ⟨cstr "wifi  connect home ", cstr "hunter22", []⟩) ∧
      sshSecretSplit (cstr "wifi  connect home hunter23") =
        some (.wifiConnect, ⟨cstr "wifi  connect home ", cstr "hunter23", []⟩) ∧
      ∀ a peer, sshRecordCommand a peer (cstr "shell") (cstr "wifi  connect home hunter22") ≠
        sshRecordCommand a peer (cstr "shell") (cstr "wifi  connect home hunter23") := by
  refine ⟨by decide +kernel, by decide +kernel, fun a peer h => ?_⟩
  have hredacted := (sshRecordCommand_eq_iff a peer .shell).mp h
  revert hredacted
  decide +kernel

end Orizon
