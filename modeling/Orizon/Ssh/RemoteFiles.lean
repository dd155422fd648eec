import Orizon.Ssh.Audit
import Orizon.Ssh.Password
import Orizon.Terminal.Resolve
import Orizon.Vfs.Elsewhere

/-!
# Orizon.Ssh.RemoteFiles

The commands of the remote shell that change files: `touch`, `mkdir`, `rm`, `write` and
`append` of `system/ssh.c`.

A command resolves its argument, checks the path against the file policy and works on that
path.  The path is the normal form of what the argument names, except that the join with the
current directory is cut at `MAX_PATH` (`sshRemoteFile_iff`).
-/

namespace Orizon

/-! ## The file policy -/

/-- `ssh_shell_resolve_path` into a buffer of `size` bytes; its text is `resolve_path`'s. -/
def sshShellResolvePath (cwd input : CStr) (size : Nat) : Option CStr := resolvePath cwd input size

/-- `ssh_shell_path_has_prefix`; its text is `path_is_inside`'s. -/
def sshShellPathHasPrefix (path pre : CStr) : Bool := pathIsInside path pre

/-- `ssh_ascii_lower`. -/
def sshAsciiLower (c : CChar) : UInt8 := termAsciiLower c.val

/-- `ssh_shell_path_contains_ci`. -/
def sshShellPathContainsCi (path needle : CStr) : Bool :=
  if needle.length = 0 ∨ path.length < needle.length then false
  else
    (List.range (path.length - needle.length + 1)).any fun i =>
      ((path.drop i).take needle.length).map sshAsciiLower = needle.map sshAsciiLower

/-- `ssh_shell_path_suffix_ci`. -/
def sshShellPathSuffixCi (path suffix : CStr) : Bool :=
  if suffix.length = 0 ∨ path.length < suffix.length then false
  else sshShellPathContainsCi (path.drop (path.length - suffix.length)) suffix

/-- The `needles` of `ssh_shell_path_is_sensitive`. -/
def sensitiveNeedles : List CStr :=
  [cstr "/.ssh/", cstr "/config/keys/", cstr "ssh_host_", cstr "password", cstr "passwd", cstr "private",
    cstr "secret", cstr "token", cstr "credential", cstr "api_key", cstr "apikey", cstr "id_rsa", cstr "id_ed25519",
    cstr "authorized_keys"]

/-- The `suffixes` of `ssh_shell_path_is_sensitive`. -/
def sensitiveSuffixes : List CStr := [cstr ".env", cstr ".key", cstr ".pem", cstr ".p12", cstr ".pfx"]

/-- `ssh_shell_path_is_sensitive`. -/
def sshShellPathIsSensitive (path : CStr) : Bool :=
  path = orizonSshConfigPath || path = orizonSshHostkeyPath ||
    sensitiveNeedles.any (sshShellPathContainsCi path) || sensitiveSuffixes.any (sshShellPathSuffixCi path)

/-- The roots of remote writes. -/
def remoteRoots : List CStr := [cstr "/workspace", cstr "/home", cstr "/logs", cstr "/packages"]

/-- `ssh_shell_path_write_allowed`. -/
def sshShellPathWriteAllowed (path : CStr) : Bool :=
  if sshShellPathIsSensitive path then false
  else if sshShellPathHasPrefix path (cstr "/workspace/.orizon") then false
  else remoteRoots.any (sshShellPathHasPrefix path)

/-- `ssh_shell_path_is_remote_root`. -/
def sshShellPathIsRemoteRoot (path : CStr) : Bool := remoteRoots.any (path = ·)

/-! ## The shell -/

/-- The commands. -/
inductive SshFileOp
  | touch
  | mkdir
  | rm
  | write
  | append
deriving DecidableEq

/-- The name of a command. -/
def SshFileOp.text : SshFileOp → CStr
  | touch => cstr "touch"
  | mkdir => cstr "mkdir"
  | rm => cstr "rm"
  | write => cstr "write"
  | append => cstr "append"

/-- The current directory is an absolute path. -/
structure SshCwd where
  path : CStr
  fits : path.length < maxPath
  absolute : path.head? = some slash

/-- The counters of denials. -/
structure SshPolicy where
  deniedTotal : UInt32
  deniedSensitive : UInt32
  deniedInternal : UInt32
  deniedWriteScope : UInt32
  deniedRoot : UInt32
  lastPolicyDenial : CStr

/-- What the commands work on; `channelText` is the text queued for the channel. -/
structure SshFiles (H : Type) where
  vfs : Vfs H
  cwd : SshCwd
  audit : SshAudit
  policy : SshPolicy
  channelExitCode : UInt32
  channelText : List CStr

/-- How far a command came. -/
inductive SshFileReply
  | invalid
  | denied
  | tried (ok : Bool)
deriving DecidableEq

/-- The command stopped before it touched a file. -/
def SshFileReply.refused : SshFileReply → Bool
  | tried _ => false
  | _ => true

section Commands

variable {H : Type}

/-- `ssh_queue_channel_text`. -/
def SshFiles.say (s : SshFiles H) (text : CStr) : SshFiles H := { s with channelText := s.channelText ++ [text] }

/-- `ssh_security_policy_class`. -/
def sshSecurityPolicyClass (op : SshFileOp) (path : CStr) : CStr :=
  if sshShellPathIsRemoteRoot path ∧ op = .rm then cstr "remote-root"
  else if sshShellPathIsSensitive path then cstr "sensitive-path"
  else if sshShellPathHasPrefix path (cstr "/workspace/.orizon") then cstr "internal-state"
  else cstr "write-scope"

/-- `ssh_note_policy_denied`. -/
def sshNotePolicyDenied (s : SshFiles H) (peer : SshPeer) (op : SshFileOp) (path : CStr) : SshFiles H :=
  let className := sshSecurityPolicyClass op path
  let p := { s.policy with deniedTotal := s.policy.deniedTotal + 1 }
  let p :=
    if className = cstr "sensitive-path" then { p with deniedSensitive := p.deniedSensitive + 1 }
    else if className = cstr "internal-state" then { p with deniedInternal := p.deniedInternal + 1 }
    else if className = cstr "remote-root" then { p with deniedRoot := p.deniedRoot + 1 }
    else { p with deniedWriteScope := p.deniedWriteScope + 1 }
  { s with
    policy := { p with lastPolicyDenial := snprintfTexts 128 [cstr "op=", op.text, cstr " class=", className] }
    audit := sshAuditEvent s.audit peer
      (snprintfTexts 128 [cstr "policy-deny op=", op.text, cstr " class=", className]) }

/-- `ssh_shell_policy_denied`. -/
def sshShellPolicyDenied (s : SshFiles H) (peer : SshPeer) (op : SshFileOp) (path hint : CStr) : SshFiles H :=
  (sshNotePolicyDenied { s with channelExitCode := 13 } peer op path).say
    (snprintfTexts 192 [op.text, cstr ": access denied by SSH file policy", cstr "; ", hint, cstr "\r\n"])

/-- The hint of a path outside of the roots. -/
def writeScopeHint : CStr := cstr "generic remote writes are limited to /workspace, /home, /logs and /packages"

variable [Allocator H]

/-- The call of `ssh_shell_mutate_path`: whether it returned 0. -/
def sshMutate (v : Vfs H) (path : CStr) : SshFileOp → Bool × Vfs H
  | .touch => ((vfsCreate v path).1 matches .ok 0, (vfsCreate v path).2)
  | .mkdir => ((vfsMkdir v path).1 matches .ok 0, (vfsMkdir v path).2)
  | .rm => ((vfsDelete v path).1 matches .ok (), (vfsDelete v path).2)
  | .write | .append => (false, v)

/-- `ssh_shell_mutate_path`. -/
def sshShellMutatePath (s : SshFiles H) (peer : SshPeer) (arg : CStr) (op : SshFileOp) : SshFileReply × SshFiles H :=
  match sshShellResolvePath s.cwd.path arg maxPath with
  | none => (.invalid, s.say (snprintfTexts 64 [op.text, cstr ": invalid path\r\n"]))
  | some path =>
      if ¬ sshShellPathWriteAllowed path then (.denied, sshShellPolicyDenied s peer op path writeScopeHint)
      else if op = .rm ∧ sshShellPathIsRemoteRoot path then
        (.denied, sshShellPolicyDenied s peer op path (cstr "remote root deletion is blocked"))
      else
        let r := sshMutate s.vfs path op
        (.tried r.1, ({ s with vfs := r.2 }).say
          (snprintfTexts 64 [op.text, cstr ": ", if r.1 then cstr "ok" else cstr "failed", cstr "\r\n"]))

/-- The flags of a remote write. -/
def sshWriteFlags (append : Bool) : Nat := oCreat ||| oWronly ||| if append then oAppend else oTrunc

/-- The calls of `ssh_shell_write_text` on an open file: whether both writes succeeded. -/
def sshWriteLine (v : Vfs H) (fd : Nat) (text : CStr) : Bool × Vfs H :=
  match vfsWrite v fd (strBytes text) with
  | (.error _, v) => (false, vfsClose v fd)
  | (.ok _, v) =>
      match vfsWrite v fd [newline] with
      | (.error _, v) => (false, vfsClose v fd)
      | (.ok _, v) => (true, vfsClose v fd)

/-- `ssh_shell_write_text`. -/
def sshShellWriteText (s : SshFiles H) (peer : SshPeer) (args : CStr) (append : Bool) : SshFileReply × SshFiles H :=
  let op : SshFileOp := if append then .append else .write
  let usage := cstr "usage: " ++ op.text ++ cstr " <file> <text>\r\n"
  match sshShellSplitPathText args maxPath with
  | none => (.invalid, s.say usage)
  | some (fileArg, text) =>
      match sshShellResolvePath s.cwd.path fileArg maxPath with
      | none => (.invalid, s.say usage)
      | some path =>
          if ¬ sshShellPathWriteAllowed path then (.denied, sshShellPolicyDenied s peer op path writeScopeHint)
          else
            match vfsOpen s.vfs path (sshWriteFlags append) with
            | (none, v) => (.tried false, ({ s with vfs := v }).say (op.text ++ cstr ": failed\r\n"))
            | (some fd, v) =>
                let r := sshWriteLine v fd text
                (.tried r.1, ({ s with vfs := r.2 }).say
                  (op.text ++ if r.1 then cstr ": ok\r\n" else cstr ": write error\r\n"))

/-- The dispatcher's call for a command and what follows its name. -/
def sshRemoteFile (s : SshFiles H) (peer : SshPeer) (op : SshFileOp) (args : CStr) : SshFileReply × SshFiles H :=
  match op with
  | .write => sshShellWriteText s peer args false
  | .append => sshShellWriteText s peer args true
  | _ => sshShellMutatePath s peer args op

end Commands

/-! ## What a command names -/

/-- A sensitive path. -/
def SensitivePath (path : CStr) : Prop :=
  path = orizonSshConfigPath ∨ path = orizonSshHostkeyPath ∨
    (∃ needle ∈ sensitiveNeedles, needle.map sshAsciiLower <:+: path.map sshAsciiLower) ∨
    ∃ suffix ∈ sensitiveSuffixes, suffix.map sshAsciiLower <:+ path.map sshAsciiLower

/-- A path that remote commands may write. -/
structure RemoteWritable (path : CStr) : Prop where
  inside : ∃ root ∈ remoteRoots, pathIsInside path root = true
  not_internal : pathIsInside path (cstr "/workspace/.orizon") = false
  not_sensitive : ¬ SensitivePath path

/-- A path that a command may work on: the roots themselves stay. -/
def RemoteTarget (op : SshFileOp) (path : CStr) : Prop := RemoteWritable path ∧ ¬ (op = .rm ∧ path ∈ remoteRoots)

/-- The argument that is a path. -/
def pathArg : SshFileOp → CStr → Option CStr
  | .write, args | .append, args => (sshShellSplitPathText args maxPath).map Prod.fst
  | _, args => some args

/-- The path that a command's arguments name. -/
def namedArg (op : SshFileOp) (args : CStr) : Option CStr :=
  (pathArg op args).bind fun arg => if trimmedArg arg = [] then none else some (trimmedArg arg)

/-- A command acts on the path that its argument names, or is refused and changes no file. -/
def ActsWhereNamed {H : Type} [Allocator H] (s : SshFiles H) (op : SshFileOp) (args : CStr)
    (r : SshFileReply × SshFiles H) : Prop :=
  if r.1.refused then r.2.vfs = s.vfs
  else
    ∃ arg, namedArg op args = some arg ∧ (joinedPath s.cwd.path arg).length < maxPath ∧
      RemoteWritable (lexicalPath s.cwd.path arg) ∧
      (SameElsewhere (lexicalPath s.cwd.path arg) s.vfs r.2.vfs ∨
        SameElsewhere (lexicalPath s.cwd.path arg) (vfsInit s.vfs) r.2.vfs)

/-- The join fits, or the path that is left of it is no target. -/
def JoinFits (cwd : SshCwd) (op : SshFileOp) (arg : CStr) : Prop :=
  (joinedPath cwd.path arg).length < maxPath ∨ arg.length ≥ maxPath ∨
    ¬ RemoteTarget op (normalPath ((joinedPath cwd.path arg).take (maxPath - 1)))

/-! ## The policy's tests -/

section Policy

variable {path needle suffix : CStr} {op : SshFileOp}

theorem sshShellPathContainsCi_iff (h : needle ≠ []) :
    sshShellPathContainsCi path needle = true ↔ needle.map sshAsciiLower <:+: path.map sshAsciiLower := by
  have hne : needle.length ≠ 0 := fun hzero => h (List.length_eq_zero_iff.mp hzero)
  rw [sshShellPathContainsCi]
  constructor
  · intro hcontains
    split at hcontains
    · contradiction
    · obtain ⟨i, -, heq⟩ := List.any_eq_true.mp hcontains
      rw [decide_eq_true_eq] at heq
      rw [← heq]
      exact (((List.take_prefix _ _).isInfix).trans (List.drop_suffix _ _).isInfix).map _
  · rintro ⟨before, after, heq⟩
    have hlen := congrArg List.length heq
    simp only [List.length_append, List.length_map] at hlen
    rw [if_neg (by omega), List.any_eq_true]
    refine ⟨before.length, List.mem_range.mpr (by omega), ?_⟩
    rw [decide_eq_true_eq, List.map_take, List.map_drop, ← heq, List.append_assoc, List.drop_left,
      List.take_left' (by simp)]

theorem sshShellPathSuffixCi_iff (h : suffix ≠ []) :
    sshShellPathSuffixCi path suffix = true ↔ suffix.map sshAsciiLower <:+ path.map sshAsciiLower := by
  have hne : suffix.length ≠ 0 := fun hzero => h (List.length_eq_zero_iff.mp hzero)
  rw [sshShellPathSuffixCi]
  by_cases hlong : path.length < suffix.length
  · rw [if_pos (.inr hlong)]
    refine iff_of_false Bool.false_ne_true fun hsuffix => ?_
    have hle := hsuffix.length_le
    simp only [List.length_map] at hle
    omega
  · have hlen : ((path.drop (path.length - suffix.length)).map sshAsciiLower).length =
        (suffix.map sshAsciiLower).length := by
      rw [List.length_map, List.length_map, List.length_drop]
      omega
    rw [if_neg (by omega), sshShellPathContainsCi_iff h, List.suffix_iff_eq_drop, ← List.map_drop, List.length_map,
      List.length_map]
    constructor
    · exact fun hinfix => hinfix.sublist.eq_of_length hlen.symm
    · intro heq
      rw [← heq]

theorem sshShellPathIsSensitive_iff : sshShellPathIsSensitive path = true ↔ SensitivePath path := by
  have hneedles : ∀ needle ∈ sensitiveNeedles, needle ≠ [] := by decide
  have hsuffixes : ∀ suffix ∈ sensitiveSuffixes, suffix ≠ [] := by decide
  rw [sshShellPathIsSensitive, SensitivePath, Bool.or_eq_true, Bool.or_eq_true, Bool.or_eq_true, decide_eq_true_eq,
    decide_eq_true_eq, List.any_eq_true, List.any_eq_true, or_assoc, or_assoc]
  have hneedle : ∀ needle, (needle ∈ sensitiveNeedles ∧ sshShellPathContainsCi path needle = true ↔
      needle ∈ sensitiveNeedles ∧ needle.map sshAsciiLower <:+: path.map sshAsciiLower) :=
    fun needle => and_congr_right fun hmem => sshShellPathContainsCi_iff (hneedles needle hmem)
  have hsuffix : ∀ suffix, (suffix ∈ sensitiveSuffixes ∧ sshShellPathSuffixCi path suffix = true ↔
      suffix ∈ sensitiveSuffixes ∧ suffix.map sshAsciiLower <:+ path.map sshAsciiLower) :=
    fun suffix => and_congr_right fun hmem => sshShellPathSuffixCi_iff (hsuffixes suffix hmem)
  simp only [hneedle, hsuffix]

theorem sshShellPathWriteAllowed_iff : sshShellPathWriteAllowed path = true ↔ RemoteWritable path := by
  have hsensitive := @sshShellPathIsSensitive_iff path
  rw [sshShellPathWriteAllowed]
  constructor
  · intro h
    split_ifs at h with h₁ h₂
    exact ⟨List.any_eq_true.mp h, Bool.eq_false_iff.mpr h₂, fun hs => h₁ (hsensitive.mpr hs)⟩
  · rintro ⟨hinside, hinternal, hnot⟩
    have hnotInternal : ¬ sshShellPathHasPrefix path (cstr "/workspace/.orizon") = true := Bool.eq_false_iff.mp hinternal
    rw [if_neg (fun h => hnot (hsensitive.mp h)), if_neg hnotInternal]
    exact List.any_eq_true.mpr hinside

theorem sshShellPathIsRemoteRoot_iff : sshShellPathIsRemoteRoot path = true ↔ path ∈ remoteRoots := by
  simp [sshShellPathIsRemoteRoot]

end Policy

/-! ## Resolving -/

section Resolve

variable {cwd : SshCwd} {arg : CStr}

/-- The path that a command works on: the join is cut at the size of its buffer. -/
def cutPath (cwd : SshCwd) (arg : CStr) : CStr := normalPath ((joinedPath cwd.path arg).take (maxPath - 1))

theorem sshShellResolvePath_eq (cwd : SshCwd) (input : CStr) :
    sshShellResolvePath cwd.path input maxPath =
      if trimmedArg input = [] ∨ (trimmedArg input).length ≥ maxPath then none
      else some (cutPath cwd (trimmedArg input)) :=
  resolvePath_eq cwd.absolute input

theorem length_cutPath (cwd : SshCwd) (arg : CStr) : (cutPath cwd arg).length < maxPath :=
  length_normalPath_take (head?_joinedPath cwd.absolute arg)

end Resolve

/-! ## The commands -/

section Commands

variable {H : Type} [Allocator H] {s : SshFiles H} {op : SshFileOp} {path args : CStr}

theorem sshMutate_elsewhere (v : Vfs H) (hlen : path.length < maxPath) :
    SameElsewhere path v (sshMutate v path op).2 ∨ SameElsewhere path (vfsInit v) (sshMutate v path op).2 := by
  cases op with
  | touch => exact .inr (sameElsewhere_vfsMake hlen .file)
  | mkdir => exact .inr (sameElsewhere_vfsMake hlen .dir)
  | rm => exact .inl sameElsewhere_vfsDelete
  | write | append => exact .inl (SameElsewhere.refl path v)

theorem sshWriteLine_elsewhere {v : Vfs H} {fd : Nat} (h : HandleAt v fd path) (text : CStr) :
    SameElsewhere path v (sshWriteLine v fd text).2 := by
  obtain ⟨hfirst, hhandle⟩ := sameElsewhere_vfsWrite h (strBytes text)
  obtain ⟨hsecond, -⟩ := sameElsewhere_vfsWrite hhandle [newline]
  unfold sshWriteLine
  split
  · rename_i hwrite
    rw [hwrite] at hfirst
    exact hfirst.trans (sameElsewhere_vfsClose fd)
  · rename_i hwrite
    rw [hwrite] at hfirst hsecond
    split
    · rename_i hwrite'
      rw [hwrite'] at hsecond
      exact (hfirst.trans hsecond).trans (sameElsewhere_vfsClose fd)
    · rename_i hwrite'
      rw [hwrite'] at hsecond
      exact (hfirst.trans hsecond).trans (sameElsewhere_vfsClose fd)

/-- What a command does: it is refused, or acts on the path that is left of the join. -/
def ActsOnCut (s : SshFiles H) (op : SshFileOp) (args : CStr) (r : SshFileReply × SshFiles H) : Prop :=
  (r.1.refused = true ∧ r.2.vfs = s.vfs ∧
    ∀ arg, namedArg op args = some arg → arg.length ≥ maxPath ∨ ¬ RemoteTarget op (cutPath s.cwd arg)) ∨
  (r.1.refused = false ∧ ∃ arg, namedArg op args = some arg ∧ arg.length < maxPath ∧
    RemoteTarget op (cutPath s.cwd arg) ∧
    (SameElsewhere (cutPath s.cwd arg) s.vfs r.2.vfs ∨ SameElsewhere (cutPath s.cwd arg) (vfsInit s.vfs) r.2.vfs))

omit [Allocator H] in
theorem actsOnCut_none [Allocator H] {r : SshFileReply × SshFiles H} (hrefused : r.1.refused = true)
    (hsame : r.2.vfs = s.vfs) (hnone : namedArg op args = none) : ActsOnCut s op args r :=
  .inl ⟨hrefused, hsame, fun arg harg => by rw [hnone] at harg; cases harg⟩

theorem actsOnCut_refused {r : SshFileReply × SshFiles H} {arg : CStr} (hrefused : r.1.refused = true)
    (hsame : r.2.vfs = s.vfs) (harg : namedArg op args = some arg)
    (hno : arg.length ≥ maxPath ∨ ¬ RemoteTarget op (cutPath s.cwd arg)) : ActsOnCut s op args r := by
  refine .inl ⟨hrefused, hsame, fun arg' harg' => ?_⟩
  rw [harg, Option.some.injEq] at harg'
  exact harg' ▸ hno

theorem sshShellMutatePath_acts (peer : SshPeer)
    (hop : namedArg op args = if trimmedArg args = [] then none else some (trimmedArg args)) :
    ActsOnCut s op args (sshShellMutatePath s peer args op) := by
  have hallowed := @sshShellPathWriteAllowed_iff (cutPath s.cwd (trimmedArg args))
  have hroot := @sshShellPathIsRemoteRoot_iff (cutPath s.cwd (trimmedArg args))
  rw [sshShellMutatePath, sshShellResolvePath_eq]
  by_cases hnil : trimmedArg args = []
  · rw [if_pos (.inl hnil)]
    exact actsOnCut_none rfl rfl (by rw [hop, if_pos hnil])
  have hnamed : namedArg op args = some (trimmedArg args) := by rw [hop, if_neg hnil]
  by_cases hlong : (trimmedArg args).length ≥ maxPath
  · rw [if_pos (.inr hlong)]
    exact actsOnCut_refused rfl rfl hnamed (.inl hlong)
  rw [if_neg (not_or.mpr ⟨hnil, hlong⟩)]
  dsimp only
  by_cases hwrite : sshShellPathWriteAllowed (cutPath s.cwd (trimmedArg args)) = true
  · rw [if_neg (not_not.mpr hwrite)]
    by_cases hrm : op = .rm ∧ sshShellPathIsRemoteRoot (cutPath s.cwd (trimmedArg args)) = true
    · rw [if_pos hrm]
      exact actsOnCut_refused rfl rfl hnamed (.inr fun h => h.2 ⟨hrm.1, hroot.mp hrm.2⟩)
    · rw [if_neg hrm]
      exact .inr ⟨rfl, _, hnamed, by omega, ⟨hallowed.mp hwrite, fun h => hrm ⟨h.1, hroot.mpr h.2⟩⟩,
        sshMutate_elsewhere s.vfs (length_cutPath _ _)⟩
  · rw [if_pos hwrite]
    exact actsOnCut_refused rfl rfl hnamed (.inr fun h => hwrite (hallowed.mpr h.1))

theorem sshShellWriteText_acts (peer : SshPeer) (append : Bool) :
    ActsOnCut s (if append then .append else .write) args (sshShellWriteText s peer args append) := by
  have hop : namedArg (if append then .append else .write) args =
      ((sshShellSplitPathText args maxPath).map Prod.fst).bind fun arg =>
        if trimmedArg arg = [] then none else some (trimmedArg arg) := by cases append <;> rfl
  have hnotRm : (if append then SshFileOp.append else .write) ≠ .rm := by cases append <;> decide
  rw [sshShellWriteText]
  dsimp only
  generalize (if append then SshFileOp.append else .write) = op at hop hnotRm ⊢
  cases hsplit : sshShellSplitPathText args maxPath with
  | none => exact actsOnCut_none rfl rfl (by rw [hop, hsplit]; rfl)
  | some split =>
      obtain ⟨fileArg, text⟩ := split
      have hallowed := @sshShellPathWriteAllowed_iff (cutPath s.cwd (trimmedArg fileArg))
      have hlen := length_cutPath s.cwd (trimmedArg fileArg)
      rw [hsplit, Option.map_some, Option.bind_some] at hop
      dsimp only at hop ⊢
      rw [sshShellResolvePath_eq]
      by_cases hnil : trimmedArg fileArg = []
      · rw [if_pos (.inl hnil)]
        exact actsOnCut_none rfl rfl (by rw [hop, if_pos hnil])
      have hnamed : namedArg op args = some (trimmedArg fileArg) := by rw [hop, if_neg hnil]
      by_cases hlong : (trimmedArg fileArg).length ≥ maxPath
      · rw [if_pos (.inr hlong)]
        exact actsOnCut_refused rfl rfl hnamed (.inl hlong)
      rw [if_neg (not_or.mpr ⟨hnil, hlong⟩)]
      dsimp only
      by_cases hwrite : sshShellPathWriteAllowed (cutPath s.cwd (trimmedArg fileArg)) = true
      · rw [if_neg (not_not.mpr hwrite)]
        have htarget : RemoteTarget op (cutPath s.cwd (trimmedArg fileArg)) :=
          ⟨hallowed.mp hwrite, fun h => hnotRm h.1⟩
        obtain ⟨hopen, hhandle⟩ := sameElsewhere_vfsOpen (v := s.vfs) hlen (sshWriteFlags append)
        cases hfile : vfsOpen s.vfs (cutPath s.cwd (trimmedArg fileArg)) (sshWriteFlags append) with
        | mk file v =>
            rw [hfile] at hopen hhandle
            cases file with
            | none => exact .inr ⟨rfl, _, hnamed, by omega, htarget, .inr hopen⟩
            | some fd =>
                exact .inr ⟨rfl, _, hnamed, by omega, htarget,
                  .inr (hopen.trans (sshWriteLine_elsewhere (hhandle fd rfl) text))⟩
      · rw [if_pos hwrite]
        exact actsOnCut_refused rfl rfl hnamed (.inr fun h => hwrite (hallowed.mpr h.1))

theorem sshRemoteFile_acts (s : SshFiles H) (op : SshFileOp) (args : CStr) (peer : SshPeer) :
    ActsOnCut s op args (sshRemoteFile s peer op args) := by
  cases op with
  | touch => exact sshShellMutatePath_acts peer rfl
  | mkdir => exact sshShellMutatePath_acts peer rfl
  | rm => exact sshShellMutatePath_acts peer rfl
  | write => exact sshShellWriteText_acts peer false
  | append => exact sshShellWriteText_acts peer true

theorem not_actsWhereNamed {r : SshFileReply × SshFiles H} {arg : CStr} (hacts : r.1.refused = false)
    (harg : namedArg op args = some arg) (hlong : (joinedPath s.cwd.path arg).length ≥ maxPath) :
    ¬ ActsWhereNamed s op args r := by
  intro h
  rw [ActsWhereNamed, hacts, if_neg Bool.false_ne_true, harg] at h
  obtain ⟨arg', harg', hlen, -⟩ := h
  rw [← Option.some.inj harg'] at hlen
  omega

end Commands

/-- A command acts where its argument says exactly when the join with the current directory
fits, or what is left of it is no path for the command. -/
theorem sshRemoteFile_iff {H : Type} [Allocator H] (s : SshFiles H) (peer : SshPeer) (op : SshFileOp) (args : CStr) :
    ActsWhereNamed s op args (sshRemoteFile s peer op args) ↔
      ∀ arg, namedArg op args = some arg → JoinFits s.cwd op arg := by
  rw [ActsWhereNamed]
  obtain ⟨hrefused, hsame, hnone⟩ | ⟨hacts, arg, harg, hlen, htarget, hsame⟩ := sshRemoteFile_acts s op args peer
  · rw [if_pos hrefused]
    exact iff_of_true hsame fun arg harg => .inr (hnone arg harg)
  · rw [hacts, if_neg Bool.false_ne_true]
    constructor
    · rintro ⟨arg', harg', hfits, -⟩ arg'' harg''
      rw [harg', Option.some.injEq] at harg''
      exact .inl (harg'' ▸ hfits)
    · intro hjoin
      obtain hfits | hlong | hno := hjoin arg harg
      · have hcut : cutPath s.cwd arg = lexicalPath s.cwd.path arg := by
          rw [cutPath, List.take_of_length_le (by omega), normalPath_joinedPath]
        rw [hcut] at htarget hsame
        exact ⟨arg, harg, hfits, htarget.1, hsame⟩
      · omega
      · exact absurd htarget hno

/-- A fresh shell in `/home`. -/
def homeFiles : SshFiles KernelHeap where
  vfs := bootShell.vfs
  cwd := ⟨cstr "/home", by decide, by decide⟩
  audit := ⟨[], [], fun _ => [], 0, 0, [], []⟩
  policy := ⟨0, 0, 0, 0, 0, []⟩
  channelExitCode := 0
  channelText := []

/-- A name of 251 letters. -/
def longName : CStr := List.replicate 251 (cchar 'x')

/-- A name that does not fit behind `/home` is cut and used. -/
theorem sshRemoteFile_cuts :
    (joinedPath homeFiles.cwd.path longName).length ≥ maxPath ∧
      (sshRemoteFile homeFiles ⟨0, 0, 0⟩ .touch longName).1.refused = false ∧
      ¬ ActsWhereNamed homeFiles .touch longName (sshRemoteFile homeFiles ⟨0, 0, 0⟩ .touch longName) := by
  have hlong : (joinedPath homeFiles.cwd.path longName).length ≥ maxPath := by decide +kernel
  have hnamed : namedArg .touch longName = some longName := by decide +kernel
  have hallowed : sshShellPathWriteAllowed (cutPath homeFiles.cwd longName) = true := by decide +kernel
  have htarget : RemoteTarget .touch (cutPath homeFiles.cwd longName) :=
    ⟨sshShellPathWriteAllowed_iff.mp hallowed, by simp⟩
  have hfits : longName.length < maxPath := by decide +kernel
  have hacts : (sshRemoteFile homeFiles ⟨0, 0, 0⟩ .touch longName).1.refused = false := by
    obtain ⟨-, -, hno⟩ | ⟨hacts, -⟩ := sshRemoteFile_acts homeFiles .touch longName ⟨0, 0, 0⟩
    · exact absurd (hno _ hnamed) (not_or.mpr ⟨not_le.mpr hfits, not_not.mpr htarget⟩)
    · exact hacts
  exact ⟨hlong, hacts, not_actsWhereNamed hacts hnamed hlong⟩

end Orizon
