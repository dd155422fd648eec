import Orizon.Lib.LineEditor
import Orizon.Ssh.Lockout

/-!
# Orizon.Ssh.Shell

The remote shell as a line editor.

`ssh_process_channel_data` keeps the line and the last `CR` from message to message,
and executing a line leaves both alone; so the lines handed to
`ssh_remote_shell_execute` are those of one bounded editor over the bytes of all
messages.  It cuts a line that has outgrown `ssh_shell_line` and executes the rest,
and reads a line as a C string (`sshShell_lines_iff`).  An `exec` command is cut to
`cmd[160]` and executed too.
-/

namespace Orizon

/-- The characters a line of the shell and a command of `exec` have room for. -/
def sshShellLineMax : Nat := 255

def sshExecCommandMax : Nat := 159

/-- A byte of the shell's input as a key. -/
def sshShellKey (ch : UInt8) : EditorKey UInt8 :=
  if ch = 0x0d then .cr
  else if ch = 0x0a then .lf
  else if ch = 0x08 ∨ ch = 0x7f then .erase
  else .char ch

/-- The line that a byte makes `ssh_process_channel_data` hand to
`ssh_remote_shell_execute`. -/
def sshLineHanded (s : SshState) (ch : UInt8) : List (List UInt8) :=
  if ch = 0x0d ∨ ch = 0x0a then
    if ch = 0x0a ∧ s.neg.channel.shellLastWasCr = true then []
    else [cstringBytes s.neg.channel.shellLine]
  else []

/-- The bytes that `ssh_process_channel_data` takes from a message. -/
def sshShellInput (ch : SshChannel) (payload : List UInt8) : List UInt8 :=
  if ch.shellReady = false ∨ 5 > payload.length then []
  else if sshGetU32 payload 1 ≠ ch.serverChannel then []
  else
    match sshReadString payload 5 with
    | none => []
    | some (data, _) => data

/-- The lines handed over for messages, one after the other. -/
def sshLinesHanded (env : SshEnv) (s : SshState) (payloads : List (List UInt8)) :
    List (List UInt8) :=
  outputs (fun s payload => sshProcessChannelData env payload s)
    (fun s payload => outputs (sshShellByte env) sshLineHanded s
      (sshShellInput s.neg.channel payload)) s payloads

/-- The lines of the reference editor. -/
def sshReferenceLines (bytes : List UInt8) : List (List UInt8) :=
  LineEditor.lines (bytes.map sshShellKey)

/-- The commands executed, the oldest first. -/
def sshCommands : List SshEvent → List (List UInt8)
  | [] => []
  | .command line :: older => sshCommands older ++ [line]
  | _ :: older => sshCommands older

/-- What the shell's input depends on. -/
def SshChannel.shellInput (ch : SshChannel) : Bool × UInt32 × List UInt8 × Bool :=
  (ch.shellReady, ch.serverChannel, ch.shellLine, ch.shellLastWasCr)

/-- The line of the shell and its last `CR`. -/
def SshChannel.shellEditor (ch : SshChannel) : LineEditor UInt8 := ⟨ch.shellLine, ch.shellLastWasCr⟩

/-! ## Executing -/

section Executing

variable (env : SshEnv) {s : SshState}

theorem shellInput_sshQueueChannelText (text : List UInt8) (ch : SshChannel) :
    (sshQueueChannelText text ch).shellInput = ch.shellInput := by
  obtain ⟨_, _, _, _, hkeeps⟩ := sshQueueChannelText_keeps text ch
  rw [hkeeps]
  rfl

theorem shellInput_sshQueueTexts (texts : List (List UInt8)) (ch : SshChannel) :
    (sshQueueTexts texts ch).shellInput = ch.shellInput := by
  obtain ⟨_, _, _, _, hkeeps⟩ := sshQueueTexts_keeps texts ch
  rw [hkeeps]
  rfl

theorem shellInput_sshPrint (s : SshState) :
    (sshPrint env s).neg.channel.shellInput = s.neg.channel.shellInput := shellInput_sshQueueTexts _ _

/-- A line executed is the next command, and leaves the shell's input alone. -/
theorem sshShellLine_spec (line : List UInt8) (s : SshState) :
    (sshShellLine env line s).neg.channel.shellInput = s.neg.channel.shellInput ∧
      sshCommands (sshShellLine env line s).trace = sshCommands s.trace ++ [line] := by
  unfold sshShellLine
  dsimp only
  split
  next op _ =>
    have heffect := sshAdmin_effect env op (s.note (.command line))
    refine ⟨(shellInput_sshPrint env _).trans ?_, ?_⟩
    · rw [heffect.channel]
      rfl
    · change sshCommands (sshAdmin env op (s.note (.command line))).trace = _
      rw [heffect.trace]
      rfl
  · exact ⟨shellInput_sshPrint env _, rfl⟩

theorem sshRemoteShellExecute_spec (line : List UInt8) (s : SshState) :
    (sshRemoteShellExecute env line s).neg.channel.shellInput = s.neg.channel.shellInput ∧
      sshCommands (sshRemoteShellExecute env line s).trace =
        sshCommands s.trace ++ [line].filter (· ≠ []) := by
  unfold sshRemoteShellExecute
  by_cases hempty : line = []
  · rw [if_pos hempty, List.filter_cons_of_neg (by simpa using hempty)]
    exact ⟨shellInput_sshPrint env s, (List.append_nil _).symm⟩
  · rw [if_neg hempty, List.filter_cons_of_pos (by simpa using hempty)]
    have hspec := sshShellLine_spec env line { s with
      neg.channel.channelExitCode := sshExitCode env s s.neg.channel.channelExitCode }.ask
    dsimp only
    split
    · exact hspec
    · exact hspec

/-- An `exec` request executes what `cmd` holds of its command. -/
theorem sshRemoteExecExecute_commands (command : List UInt8) (s : SshState) :
    sshCommands (sshRemoteExecExecute env command s).trace =
      sshCommands s.trace ++ [cstringBytes (command.take sshExecCommandMax)] :=
  (sshShellLine_spec env (cstringBytes (command.take 159)) _).2

/-- An `exec` command that does not fit `cmd` is not executed, other than whole. -/
def ExecWhole (s : SshState) (command : List UInt8) : Prop :=
  sshExecCommandMax < command.length → ∃ lines, (∀ line ∈ lines, line = command) ∧
    sshCommands (sshRemoteExecExecute env command s).trace = sshCommands s.trace ++ lines

theorem execWhole_iff (s : SshState) (command : List UInt8) :
    ExecWhole env s command ↔ command.length ≤ sshExecCommandMax := by
  constructor
  · intro hwhole
    by_contra hlong
    obtain ⟨lines, hall, hcommands⟩ := hwhole (Nat.lt_of_not_le hlong)
    rw [sshRemoteExecExecute_commands] at hcommands
    have hlines := List.append_cancel_left hcommands
    have hcut : cstringBytes (command.take sshExecCommandMax) = command := by
      refine hall _ ?_
      rw [← hlines]
      exact List.mem_singleton_self _
    have hshort : (cstringBytes (command.take sshExecCommandMax)).length ≤ sshExecCommandMax :=
      ((List.takeWhile_prefix _).length_le).trans (List.length_take_le _ _)
    rw [hcut] at hshort
    exact hlong hshort
  · exact fun hfit hlong => absurd hlong (Nat.not_lt.mpr hfit)

end Executing

/-! ## The bytes of the shell -/

section Bytes

variable (env : SshEnv)

theorem sshLineHanded_eq (s : SshState) (ch : UInt8) :
    sshLineHanded s ch =
      (LineEditor.ended s.neg.channel.shellEditor (sshShellKey ch)).map cstringBytes := by
  unfold sshLineHanded sshShellKey
  by_cases hcr : ch = 0x0d
  · subst hcr
    rfl
  by_cases hlf : ch = 0x0a
  · subst hlf
    cases hlast : s.neg.channel.shellLastWasCr with
    | false => simp [LineEditor.ended, SshChannel.shellEditor, hlast]
    | true => simp [LineEditor.ended, SshChannel.shellEditor, hlast]
  · rw [if_neg (by simp [hcr, hlf]), if_neg hcr, if_neg hlf]
    split <;> rfl

theorem shellInput_sshEcho (text : List UInt8) (s : SshState) :
    (sshEcho text s).neg.channel.shellInput = s.neg.channel.shellInput :=
  shellInput_sshQueueChannelText _ _

/-- A line end that is not the rest of a `CR LF`. -/
theorem sshShellEnter_spec {ch : UInt8} {s : SshState}
    (hend : ¬ (ch = 0x0a ∧ s.neg.channel.shellLastWasCr = true)) :
    (sshShellEnter env ch s).neg.channel.shellInput =
        (s.neg.channel.shellReady, s.neg.channel.serverChannel, [], ch == 0x0d) ∧
      sshCommands (sshShellEnter env ch s).trace =
        sshCommands s.trace ++ [cstringBytes s.neg.channel.shellLine].filter (· ≠ []) := by
  have hecho := shellInput_sshEcho [0x0d, 0x0a] { s with neg.channel.shellLastWasCr := ch == 0x0d }
  have hline : (sshEcho [0x0d, 0x0a]
      { s with neg.channel.shellLastWasCr := ch == 0x0d }).neg.channel.shellLine =
      s.neg.channel.shellLine := congrArg (fun input => input.2.2.1) hecho
  obtain ⟨hinput, hcommands⟩ := sshRemoteShellExecute_spec env (cstringBytes s.neg.channel.shellLine)
    (sshEcho [0x0d, 0x0a] { s with neg.channel.shellLastWasCr := ch == 0x0d })
  rw [hecho] at hinput
  unfold sshShellEnter
  rw [if_neg hend]
  dsimp only
  rw [hline]
  exact ⟨congrArg (fun input => (input.1, input.2.1, [], input.2.2.2)) hinput, hcommands⟩

theorem sshShellType_spec (ch : UInt8) (s : SshState) :
    (sshShellType ch s).neg.channel.shellInput =
        (s.neg.channel.shellReady, s.neg.channel.serverChannel,
          if ch = 0x08 ∨ ch = 0x7f then s.neg.channel.shellLine.dropLast
          else if s.neg.channel.shellLine.length < sshShellLineMax then s.neg.channel.shellLine ++ [ch]
          else s.neg.channel.shellLine, false) ∧
      (sshShellType ch s).trace = s.trace := by
  unfold sshShellType
  dsimp only
  by_cases herase : ch = 0x08 ∨ ch = 0x7f
  · rw [if_pos herase, if_pos herase]
    by_cases hsome : s.neg.channel.shellLine.length > 0
    · rw [if_pos hsome]
      exact ⟨shellInput_sshEcho _ _, rfl⟩
    · rw [if_neg hsome]
      have hnone : s.neg.channel.shellLine = [] := by
        rw [← List.length_eq_zero_iff]
        omega
      refine ⟨?_, rfl⟩
      simp only [SshChannel.shellInput, hnone, List.dropLast_nil]
  · rw [if_neg herase, if_neg herase]
    have hcap : s.neg.channel.shellLine.length + 1 < 256 ↔
        s.neg.channel.shellLine.length < sshShellLineMax := by
      unfold sshShellLineMax
      omega
    by_cases hroom : s.neg.channel.shellLine.length + 1 < 256
    · rw [if_pos hroom, if_pos (hcap.mp hroom)]
      by_cases hshown : 0x20 ≤ ch ∧ ch < 0x7f
      · rw [if_pos hshown]
        exact ⟨shellInput_sshEcho _ _, rfl⟩
      · rw [if_neg hshown]
        exact ⟨rfl, rfl⟩
    · rw [if_neg hroom, if_neg (fun h => hroom (hcap.mpr h))]
      exact ⟨rfl, rfl⟩

/-- A byte is a key of the bounded editor, and executes the line it hands over. -/
theorem sshShellByte_spec (s : SshState) (ch : UInt8) :
    (sshShellByte env s ch).neg.channel.shellInput =
        (s.neg.channel.shellReady, s.neg.channel.serverChannel,
          (LineEditor.next (LineEditor.within sshShellLineMax) s.neg.channel.shellEditor
            (sshShellKey ch)).line,
          (LineEditor.next (LineEditor.within sshShellLineMax) s.neg.channel.shellEditor
            (sshShellKey ch)).afterCr) ∧
      sshCommands (sshShellByte env s ch).trace =
        sshCommands s.trace ++ (sshLineHanded s ch).filter (· ≠ []) := by
  unfold sshShellByte sshLineHanded
  by_cases hline : ch = 0x0d ∨ ch = 0x0a
  · rw [if_pos hline, if_pos hline]
    by_cases hrest : ch = 0x0a ∧ s.neg.channel.shellLastWasCr = true
    · obtain ⟨rfl, hlast⟩ := hrest
      unfold sshShellEnter
      rw [if_pos ⟨rfl, hlast⟩, if_pos ⟨rfl, hlast⟩]
      refine ⟨?_, (List.append_nil _).symm⟩
      simp [SshChannel.shellInput, SshChannel.shellEditor, sshShellKey, LineEditor.next, hlast]
    · rw [if_neg hrest]
      obtain ⟨hinput, hcommands⟩ := sshShellEnter_spec env hrest
      refine ⟨hinput.trans ?_, hcommands⟩
      rcases hline with rfl | rfl
      · rfl
      · have hlast : s.neg.channel.shellLastWasCr = false := by simpa using hrest
        simp [SshChannel.shellEditor, sshShellKey, LineEditor.next, hlast]
  · rw [if_neg hline, if_neg hline]
    obtain ⟨hinput, htrace⟩ := sshShellType_spec ch s
    rw [not_or] at hline
    rw [hinput, htrace]
    refine ⟨?_, (List.append_nil _).symm⟩
    unfold sshShellKey
    rw [if_neg hline.1, if_neg hline.2]
    by_cases herase : ch = 0x08 ∨ ch = 0x7f
    · rw [if_pos herase, if_pos herase]
      rfl
    · rw [if_neg herase, if_neg herase]
      by_cases hroom : s.neg.channel.shellLine.length < sshShellLineMax
      · simp [LineEditor.next, LineEditor.within, SshChannel.shellEditor, hroom]
      · simp [LineEditor.next, LineEditor.within, SshChannel.shellEditor, hroom]

theorem shellEditor_sshShellByte (s : SshState) (ch : UInt8) :
    (sshShellByte env s ch).neg.channel.shellEditor =
      LineEditor.next (LineEditor.within sshShellLineMax) s.neg.channel.shellEditor (sshShellKey ch) :=
  congrArg (fun input => (⟨input.2.2.1, input.2.2.2⟩ : LineEditor UInt8)) (sshShellByte_spec env s ch).1

/-- The bytes hand over the lines of the bounded editor, as C strings. -/
theorem sshShellBytes_lines (s : SshState) (bytes : List UInt8) :
    outputs (sshShellByte env) sshLineHanded s bytes =
      (outputs (LineEditor.next (LineEditor.within sshShellLineMax)) LineEditor.ended
        s.neg.channel.shellEditor (bytes.map sshShellKey)).map cstringBytes :=
  outputs_map (fun s : SshState => s.neg.channel.shellEditor) sshShellKey cstringBytes (shellEditor_sshShellByte env)
    sshLineHanded_eq

/-- Bytes execute the lines that they hand over, other than empty ones, and leave the
channel's numbers alone. -/
theorem sshShellBytes_spec (bytes : List UInt8) (s : SshState) :
    ((bytes.foldl (sshShellByte env) s).neg.channel.shellReady = s.neg.channel.shellReady ∧
      (bytes.foldl (sshShellByte env) s).neg.channel.serverChannel = s.neg.channel.serverChannel) ∧
    sshCommands (bytes.foldl (sshShellByte env) s).trace =
      sshCommands s.trace ++ (outputs (sshShellByte env) sshLineHanded s bytes).filter (· ≠ []) := by
  induction bytes generalizing s with
  | nil => exact ⟨⟨rfl, rfl⟩, (List.append_nil _).symm⟩
  | cons ch bytes ih =>
      obtain ⟨⟨hready, hserver⟩, hcommands⟩ := ih (sshShellByte env s ch)
      obtain ⟨hinput, hexecuted⟩ := sshShellByte_spec env s ch
      refine ⟨⟨hready.trans (congrArg (fun input => input.1) hinput),
        hserver.trans (congrArg (fun input => input.2.1) hinput)⟩, ?_⟩
      rw [List.foldl_cons, hcommands, hexecuted, outputs, List.filter_append, List.append_assoc]

end Bytes

/-! ## Messages -/

section Messages

variable (env : SshEnv)

theorem sshProcessChannelData_eq (payload : List UInt8) (s : SshState) :
    sshProcessChannelData env payload s =
      (sshShellInput s.neg.channel payload).foldl (sshShellByte env) s := by
  unfold sshProcessChannelData sshShellInput
  split
  · rfl
  split
  · rfl
  cases sshReadString payload 5 with
  | none => rfl
  | some read => rfl

theorem sshLinesHanded_eq (payloads : List (List UInt8)) (s : SshState) :
    sshLinesHanded env s payloads =
      outputs (sshShellByte env) sshLineHanded s (payloads.flatMap (sshShellInput s.neg.channel)) ∧
    payloads.foldl (fun s payload => sshProcessChannelData env payload s) s =
      (payloads.flatMap (sshShellInput s.neg.channel)).foldl (sshShellByte env) s := by
  induction payloads generalizing s with
  | nil => exact ⟨rfl, rfl⟩
  | cons payload payloads ih =>
      have hsame : sshShellInput (sshProcessChannelData env payload s).neg.channel =
          sshShellInput s.neg.channel := by
        obtain ⟨⟨hready, hserver⟩, -⟩ := sshShellBytes_spec env (sshShellInput s.neg.channel payload) s
        funext p
        unfold sshShellInput at hready hserver ⊢
        rw [sshProcessChannelData_eq]
        unfold sshShellInput
        rw [hready, hserver]
      obtain ⟨hlines, hstate⟩ := ih (sshProcessChannelData env payload s)
      rw [hsame] at hlines hstate
      constructor
      · rw [List.flatMap_cons, outputs_append, ← sshProcessChannelData_eq, ← hlines]
        rfl
      · rw [List.foldl_cons, hstate, List.flatMap_cons, List.foldl_append, ← sshProcessChannelData_eq]

/-- A `CHANNEL_DATA` of one byte. -/
def sshByteMessage (channel : UInt32) (ch : UInt8) : List UInt8 :=
  94 :: (sshPutU32 channel ++ (sshPutU32 1 ++ [ch]))

theorem sshShellInput_byte {ch : SshChannel} (hready : ch.shellReady = true) (byte : UInt8) :
    sshShellInput ch (sshByteMessage ch.serverChannel byte) = [byte] := by
  have hchannel : sshGetU32 (sshByteMessage ch.serverChannel byte) 1 = ch.serverChannel :=
    @sshGetU32_append [94] ch.serverChannel (sshPutU32 1 ++ [byte])
  have hdata : sshReadString (sshByteMessage ch.serverChannel byte) 5 = some ([byte], 10) := by
    have hread := @sshReadString_append (94 :: sshPutU32 ch.serverChannel) [byte] [] (show 1 < 2 ^ 32 by decide)
    exact hread
  unfold sshShellInput
  rw [if_neg, if_neg (not_not.mpr hchannel), hdata]
  rintro (hnot | hshort)
  · rw [hready] at hnot
    cases hnot
  · exact absurd hshort (by simp [sshByteMessage, length_sshPutU32])

theorem exists_shellInput {ch : SshChannel} (hready : ch.shellReady = true) (bytes : List UInt8) :
    ∃ payloads : List (List UInt8), payloads.flatMap (sshShellInput ch) = bytes := by
  refine ⟨bytes.map (sshByteMessage ch.serverChannel), ?_⟩
  rw [List.flatMap_map]
  simp only [sshShellInput_byte hready]
  exact List.flatMap_singleton' bytes

end Messages

/-! ## The shell -/

/-- A shell just requested: no byte of its input has arrived. -/
structure SshShellNew (s : SshState) : Prop where
  ready : s.neg.channel.shellReady = true
  line : s.neg.channel.shellLine = []

/-- The condition on a stream: it does not begin with the `LF` of a `CR` that came
before it, and every line of the reference editor has fitted `ssh_shell_line` since it
was last empty, and has no zero byte. -/
def SshStreamFits (lastWasCr : Bool) (stream : List UInt8) : Prop :=
  (lastWasCr = true → stream.head? ≠ some 0x0a) ∧
    AllSteps LineEditor.nextHigh (LineEditor.LineFits sshShellLineMax cstringBytes) ({}, 0)
      (stream.map sshShellKey)

theorem sshShellKey_eq_lf (ch : UInt8) : sshShellKey ch = .lf ↔ ch = 0x0a := by
  unfold sshShellKey
  by_cases hcr : ch = 0x0d
  · subst hcr
    simp
  by_cases hlf : ch = 0x0a
  · rw [if_neg hcr, if_pos hlf]
    exact iff_of_true rfl hlf
  · rw [if_neg hcr, if_neg hlf]
    refine iff_of_false (fun h => ?_) hlf
    split at h
    · cases h
    · cases h

/-- The bytes hand over the lines of the reference editor, but those that do not fit,
exactly if all of them do. -/
theorem sshShell_lines_iff (env : SshEnv) {s : SshState} (hs : SshShellNew s) (stream : List UInt8) :
    (∀ pre, pre <+: stream → outputs (sshShellByte env) sshLineHanded s pre =
        (sshReferenceLines pre).filter (·.length ≤ sshShellLineMax)) ↔
      SshStreamFits s.neg.channel.shellLastWasCr stream := by
  have hview : ∀ line, (cstringBytes line).length ≤ line.length :=
    fun line => (List.takeWhile_prefix _).length_le
  have hiff := @LineEditor.lines_empty_iff _ sshShellLineMax cstringBytes s.neg.channel.shellEditor hview
    hs.line (stream.map sshShellKey)
  have hhead : (stream.map sshShellKey).head? ≠ some .lf ↔ stream.head? ≠ some 0x0a := by
    cases stream with
    | nil => simp
    | cons ch stream => simp [sshShellKey_eq_lf]
  rw [hhead] at hiff
  unfold SshStreamFits
  refine Iff.trans ?_ hiff
  constructor
  · intro h keys hkeys
    obtain ⟨pre, hpre, rfl⟩ := List.prefix_map_iff.mp hkeys
    rw [← sshShellBytes_lines env s pre]
    exact h pre hpre
  · intro h pre hpre
    rw [sshShellBytes_lines env s pre]
    exact h _ (hpre.map sshShellKey)

/-- **The shell's lines**: on a channel whose shell was just requested, the lines
handed to `ssh_remote_shell_execute` depend only on the bytes, not on how they are cut
into messages, and those that are not empty are the commands executed.  However far
the stream has arrived, they are the lines of the reference editor that fit, exactly
if all of them do.  An `exec` command that does not fit is not executed exactly if it
is no longer than `cmd`. -/
theorem sshShell_run (env : SshEnv) {s : SshState} (hs : SshShellNew s) (stream : List UInt8) :
    (∀ payloads, sshCommands
        (payloads.foldl (fun s payload => sshProcessChannelData env payload s) s).trace =
      sshCommands s.trace ++ (sshLinesHanded env s payloads).filter (· ≠ [])) ∧
    (∀ payloads payloads' : List (List UInt8),
      payloads.flatMap (sshShellInput s.neg.channel) = payloads'.flatMap (sshShellInput s.neg.channel) →
        sshLinesHanded env s payloads = sshLinesHanded env s payloads') ∧
    ((∀ payloads : List (List UInt8), payloads.flatMap (sshShellInput s.neg.channel) <+: stream →
        sshLinesHanded env s payloads =
          (sshReferenceLines (payloads.flatMap (sshShellInput s.neg.channel))).filter
            (·.length ≤ sshShellLineMax)) ↔
      SshStreamFits s.neg.channel.shellLastWasCr stream) ∧
    ∀ command, ExecWhole env s command ↔ command.length ≤ sshExecCommandMax := by
  refine ⟨fun payloads => ?_, fun payloads payloads' hsame => ?_, ?_, execWhole_iff env s⟩
  · obtain ⟨hlines, hstate⟩ := sshLinesHanded_eq env payloads s
    rw [hlines, hstate]
    exact (sshShellBytes_spec env _ s).2
  · rw [(sshLinesHanded_eq env payloads s).1, hsame, (sshLinesHanded_eq env payloads' s).1]
  · rw [← sshShell_lines_iff env hs stream]
    constructor
    · intro h pre hpre
      obtain ⟨payloads, rfl⟩ := exists_shellInput hs.ready pre
      rw [← (sshLinesHanded_eq env payloads s).1]
      exact h payloads hpre
    · intro h payloads hpre
      rw [(sshLinesHanded_eq env payloads s).1]
      exact h _ hpre

/-- A shell requested on the first channel. -/
def sampleShell : SshState :=
  { sshBoot with neg.channel := { sshOpenSession {} with shellReady := true } }

/-- `lx`, a character erased, `s` and a line end: one command, however it arrives. -/
theorem sshShell_run_sample : SshShellNew sampleShell ∧
    ∀ payloads : List (List UInt8), payloads.flatMap (sshShellInput sampleShell.neg.channel) <+:
        [0x6c, 0x78, 0x7f, 0x73, 0x0d, 0x0a] →
      sshLinesHanded sampleGuessEnv sampleShell payloads =
        (sshReferenceLines (payloads.flatMap (sshShellInput sampleShell.neg.channel))).filter
          (·.length ≤ sshShellLineMax) := by
  have hs : SshShellNew sampleShell := ⟨rfl, rfl⟩
  refine ⟨hs, (sshShell_run sampleGuessEnv hs [0x6c, 0x78, 0x7f, 0x73, 0x0d, 0x0a]).2.2.1.mpr
    ⟨fun _ => by decide, ?_⟩⟩
  simp [AllSteps, LineEditor.LineFits, LineEditor.nextHigh, LineEditor.next, LineEditor.ended,
    LineEditor.free, sshShellKey, sshShellLineMax]
  decide

/-- A command of 160 bytes is executed without its last one. -/
theorem sshShell_run_fails : ¬ ∀ (env : SshEnv) (s : SshState), SshShellNew s →
    ∀ stream : List UInt8, (∀ payloads : List (List UInt8),
        payloads.flatMap (sshShellInput s.neg.channel) <+: stream → sshLinesHanded env s payloads =
          (sshReferenceLines (payloads.flatMap (sshShellInput s.neg.channel))).filter
            (·.length ≤ sshShellLineMax)) ∧
      ∀ command, ExecWhole env s command := by
  intro h
  have hwhole := (h sampleGuessEnv sampleShell ⟨rfl, rfl⟩ []).2 (List.replicate 160 0x61)
  rw [execWhole_iff, List.length_replicate] at hwhole
  exact absurd hwhole (by decide)

end Orizon
