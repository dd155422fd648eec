import Orizon.Packages.Index
import Orizon.Ssh.RemoteFiles

/-!
# Orizon.Packages.Payload

The payload of a package and its readers in `system/packages.c`: `replay_payload` installs the
files and runs the post-install lines, `remove_payload_files` deletes the files, and
`run_payload_script` runs one of the remove scripts.

Each is a loop over the lines of one `reader_line`.  The inner loop of `replay_payload`, which
reads the lines of a file, is the state in which a file is open.  The reports are left out.
-/

namespace Orizon

/-! ## Paths -/

/-- `pkg_path_inside`; its text is `path_is_inside`'s. -/
def pkgPathInside (path pre : CStr) : Bool := pathIsInside path pre

/-- `pkg_path_contains_ci`; its text is `ssh_shell_path_contains_ci`'s. -/
def pkgPathContainsCi (path needle : CStr) : Bool := sshShellPathContainsCi path needle

/-- `pkg_path_suffix_ci`; its text is `ssh_shell_path_suffix_ci`'s. -/
def pkgPathSuffixCi (path suffix : CStr) : Bool := sshShellPathSuffixCi path suffix

/-- The `needles` of `pkg_path_sensitive`. -/
def pkgSensitiveNeedles : List CStr :=
  [cstr "/.ssh/", cstr "ssh_host_", cstr "password", cstr "passwd", cstr "private", cstr "secret", cstr "token",
    cstr "credential", cstr "api_key", cstr "apikey", cstr "id_rsa", cstr "id_ed25519", cstr "authorized_keys"]

/-- The `suffixes` of `pkg_path_sensitive`. -/
def pkgSensitiveSuffixes : List CStr := [cstr ".env", cstr ".key", cstr ".private.pem", cstr ".p12", cstr ".pfx"]

/-- `pkg_path_sensitive`. -/
def pkgPathSensitive (path : CStr) : Bool :=
  path = cstr "/system/ssh.conf" || path = cstr "/system/ssh_host_rsa.key" ||
    pkgSensitiveNeedles.any (pkgPathContainsCi path) || pkgSensitiveSuffixes.any (pkgPathSuffixCi path)

/-- The roots below which a package may write. -/
def pkgRoots : List CStr :=
  [cstr "/system", cstr "/home", cstr "/packages", cstr "/logs", cstr "/tmp", cstr "/workspace"]

/-- `pkg_path_safe`. -/
def pkgPathSafe (path : CStr) : Bool :=
  if path.head? ≠ some slash ∨ path.length ≥ maxPath then false
  else if pkgPathInside path (cstr "/workspace/.orizon") then false
  else if pkgPathSensitive path then false
  else if !pkgRoots.any (pkgPathInside path) then false
  else (pieces (· = slash) path).all (· ≠ cstr "..")

/-- `copy_value` into an array of `size` bytes. -/
def copyValue (size : Nat) (value : CStr) : CStr := (value.dropWhile (· = cchar ' ')).take (size - 1)

/-! ## Files -/

section Files

variable {H : Type} [Allocator H]

/-- `pkg_ensure_dir`; `false` is -1. -/
def pkgEnsureDir (v : Vfs H) (path : CStr) : Bool × Vfs H :=
  match vfsStat v path with
  | .ok (_, type) => (type = .dir, v)
  | .error _ =>
      match vfsMkdir v path with
      | (.ok _, v) => (true, v)
      | (.error _, v) => (false, v)

/-- The loop of `pkg_ensure_parent_dirs`: `cur` is the path so far and `p` what is left.  A round
takes at least one character. -/
def pkgEnsureParentsLoop : Nat → Vfs H → CStr → CStr → Bool × Vfs H
  | 0, v, _, _ => (true, v)
  | fuel + 1, v, cur, p =>
      let name := p.takeWhile (· ≠ slash)
      if p.length = name.length then (true, v)
      else if cur.length > 1 ∧ cur.length + 1 ≥ maxPath then (false, v)
      else
        let cur := if cur.length > 1 then cur ++ [slash] else cur
        if cur.length + name.length ≥ maxPath then (false, v)
        else
          match pkgEnsureDir v (cur ++ name) with
          | (false, v) => (false, v)
          | (true, v) => pkgEnsureParentsLoop fuel v (cur ++ name) ((p.drop name.length).dropWhile (· = slash))

/-- `pkg_ensure_parent_dirs`. -/
def pkgEnsureParentDirs (v : Vfs H) (path : CStr) : Bool × Vfs H :=
  if path.head? ≠ some slash then (false, v) else pkgEnsureParentsLoop path.length v [slash] (path.drop 1)

/-- The flags with which a package file is written anew. -/
def pkgWriteFlags : Nat := oCreat ||| oWronly ||| oTrunc

/-- The flags with which it is extended. -/
def pkgAppendFlags : Nat := oCreat ||| oWronly ||| oAppend

/-- `pkg_write_blob_internal`. -/
def pkgWriteBlobInternal (v : Vfs H) (path : CStr) (data : List UInt8) : Bool × Vfs H :=
  match pkgEnsureParentDirs v path with
  | (false, v) => (false, v)
  | (true, v) =>
      match vfsPut v path pkgWriteFlags data with
      | (.done, v) => (true, v)
      | (_, v) => (false, v)

/-- `pkg_append_text_internal`. -/
def pkgAppendTextInternal (v : Vfs H) (path text : CStr) : Bool × Vfs H :=
  match pkgEnsureParentDirs v path with
  | (false, v) => (false, v)
  | (true, v) =>
      match vfsOpen v path pkgAppendFlags with
      | (none, v) => (false, v)
      | (some fd, v) =>
          match vfsWrite v fd (strBytes text) with
          | (.ok _, v) => (true, vfsClose v fd)
          | (.error _, v) => (false, vfsClose v fd)

/-- `pkg_write_text_checked`. -/
def pkgWriteTextChecked (v : Vfs H) (path text : CStr) (append : Bool) : Bool × Vfs H :=
  if !pkgPathSafe path then (false, v)
  else if append then pkgAppendTextInternal v path text
  else pkgWriteBlobInternal v path (strBytes text)

end Files

/-! ## Scripts -/

/-- The line that closes a file. -/
def contentEnd : CStr := cstr "content-end"

/-- `pkg_script_arg_path_text` for a path in `char[MAX_PATH]`: the path and the text behind it. -/
def pkgScriptArgPathText (args : CStr) : Option (CStr × CStr) :=
  let args := args.dropWhile (· = cchar ' ')
  let path := args.takeWhile (· ≠ cchar ' ')
  if path.length = 0 ∨ path.length ≥ maxPath then none
  else some (path, (args.drop path.length).dropWhile (· = cchar ' '))

section Scripts

variable {H : Type} [Allocator H]

/-- `run_post_install_line`; `false` is -1. -/
def runPostInstallLine (v : Vfs H) (line : CStr) : Bool × Vfs H :=
  if pkgStartsWith line (cstr "mkdir ") then
    let path := copyValue maxPath (line.drop 6)
    if !pkgPathSafe path then (false, v)
    else
      match pkgEnsureParentDirs v path with
      | (false, v) => (false, v)
      | (true, v) => pkgEnsureDir v path
  else if pkgStartsWith line (cstr "touch ") then
    pkgWriteTextChecked v (copyValue maxPath (line.drop 6)) [] true
  else if pkgStartsWith line (cstr "write ") then
    match pkgScriptArgPathText (line.drop 6) with
    | none => (false, v)
    | some (path, text) => pkgWriteTextChecked v path text false
  else if pkgStartsWith line (cstr "append ") then
    match pkgScriptArgPathText (line.drop 7) with
    | none => (false, v)
    | some (path, text) =>
        match pkgWriteTextChecked v path text true with
        | (false, v) => (false, v)
        | (true, v) => pkgWriteTextChecked v path (cstr "\n") true
  else if pkgStartsWith line (cstr "echo ") then (true, v)
  else if line = cstr "sync" then
    match vfsPersistSave v with
    | (.ok _, v) => (true, v)
    | (.error _, v) => (false, v)
  else (false, v)

/-- The statics of `run_payload_script`. -/
structure ScriptState (σ : Type) where
  state : σ
  inFile : Bool
  inScript : Bool
  sawScript : Bool

variable {σ : Type}

/-- A line of `run_payload_script`, whose lines `exec` runs; an error is its return. -/
def runPayloadScriptLine (exec : σ → CStr → Bool × σ) (opening closing : CStr) (s : ScriptState σ) (line : CStr) :
    Except (Int × σ) (ScriptState σ) :=
  if s.inFile then .ok { s with inFile := line ≠ contentEnd }
  else if !s.inScript && pkgStartsWith line (cstr "file ") then .ok { s with inFile := true }
  else if line = opening then .ok { s with inScript := true, sawScript := true }
  else if line = closing then if s.inScript then .error (0, s.state) else .ok s
  else if s.inScript then
    match exec s.state line with
    | (true, state) => .ok { s with state }
    | (false, state) => .error (-2, state)
  else .ok s

/-- `run_payload_script`, whose lines `exec` runs. -/
def runPayloadScriptWith (exec : σ → CStr → Bool × σ) (state : σ) (payload : List UInt8) (opening closing : CStr) :
    Int × σ :=
  match (readerLines payload).foldlM (runPayloadScriptLine exec opening closing) ⟨state, false, false, false⟩ with
  | .error result => result
  | .ok s => (if s.inScript then -3 else if s.sawScript then 0 else 1, s.state)

/-- `run_payload_script`. -/
def runPayloadScript (v : Vfs H) (payload : List UInt8) (opening closing : CStr) : Int × Vfs H :=
  runPayloadScriptWith runPostInstallLine v payload opening closing

end Scripts

/-! ## Installing -/

section Replay

variable {H : Type} [Allocator H]

/-- The statics of `replay_payload`.  `installed_files` is the number of the paths, which are
listed here in order. -/
structure ReplayState (H : Type) where
  vfs : Vfs H
  inPost : Bool
  inRemoveScript : Bool
  inFile : Option Nat
  path : CStr
  installed : List CStr

/-- A line of a file that `replay_payload` writes through the handle `fd`. -/
def replayFileLine (s : ReplayState H) (fd : Nat) (line : CStr) : Except (Int × Vfs H) (ReplayState H) :=
  if line = contentEnd then
    .ok { s with vfs := vfsClose s.vfs fd, inFile := none, installed := s.installed ++ [s.path] }
  else
    match vfsWrite s.vfs fd (strBytes line) with
    | (.error _, v) => .error (-5, vfsClose v fd)
    | (.ok _, v) =>
        match vfsWrite v fd [0x0a] with
        | (.error _, v) => .error (-5, vfsClose v fd)
        | (.ok _, v) => .ok { s with vfs := v }

/-- The line that opens a file. -/
def replayFile (s : ReplayState H) (line : CStr) : Except (Int × Vfs H) (ReplayState H) :=
  let path := copyValue maxPath (line.drop 5)
  if !pkgPathSafe path then .error (-3, s.vfs)
  else
    match pkgEnsureParentDirs s.vfs path with
    | (false, v) => .error (-3, v)
    | (true, v) =>
        match vfsOpen v path pkgWriteFlags with
        | (none, v) => .error (-4, v)
        | (some fd, v) => .ok { s with vfs := v, inFile := some fd, path }

/-- A line outside a file. -/
def replayControlLine (runPost : Bool) (s : ReplayState H) (line : CStr) : Except (Int × Vfs H) (ReplayState H) :=
  if isSkippedLine line then .ok s
  else if line = cstr "post-install" then .ok { s with inPost := true }
  else if line = cstr "end-post-install" then .ok { s with inPost := false }
  else if line = cstr "pre-remove" ∨ line = cstr "post-remove" then .ok { s with inRemoveScript := true }
  else if line = cstr "end-pre-remove" ∨ line = cstr "end-post-remove" then .ok { s with inRemoveScript := false }
  else if s.inRemoveScript then .ok s
  else if s.inPost then
    if runPost then
      match runPostInstallLine s.vfs line with
      | (true, v) => .ok { s with vfs := v }
      | (false, v) => .error (-2, v)
    else .ok s
  else if pkgStartsWith line (cstr "file ") then replayFile s line
  else .error (-7, s.vfs)

/-- A line of `replay_payload`; an error is its return. -/
def replayLine (runPost : Bool) (s : ReplayState H) (line : CStr) : Except (Int × Vfs H) (ReplayState H) :=
  match s.inFile with
  | some fd => replayFileLine s fd line
  | none => replayControlLine runPost s line

/-- The lines of `replay_payload`. -/
def replayLines (runPost : Bool) (v : Vfs H) (lines : List CStr) : Except (Int × Vfs H) (ReplayState H) :=
  lines.foldlM (replayLine runPost) ⟨v, false, false, none, [], []⟩

/-- `replay_payload`. -/
def replayPayload (runPost : Bool) (v : Vfs H) (payload : List UInt8) : Int × Vfs H :=
  match replayLines runPost v (readerLines payload) with
  | .error result => result
  | .ok s =>
      match s.inFile with
      | some fd => (-6, vfsClose s.vfs fd)
      | none => if s.installed.length = 0 then (-8, s.vfs) else (0, s.vfs)

/-! ## Removing -/

/-- The statics of `remove_payload_files`, and the paths that it tried to delete. -/
structure RemoveState (H : Type) where
  vfs : Vfs H
  inPost : Bool
  inFile : Bool
  inRemoveScript : Bool
  tried : List CStr

/-- The deletion of one file. -/
def removePayloadFile (v : Vfs H) (path : CStr) : Vfs H :=
  match vfsStat v path with
  | .ok (_, .file) => (vfsDelete v path).2
  | _ => v

/-- A line of `remove_payload_files`. -/
def removePayloadLine (s : RemoveState H) (line : CStr) : RemoveState H :=
  if s.inFile then { s with inFile := line ≠ contentEnd }
  else if line = cstr "post-install" then { s with inPost := true }
  else if line = cstr "end-post-install" then { s with inPost := false }
  else if line = cstr "pre-remove" ∨ line = cstr "post-remove" then { s with inRemoveScript := true }
  else if line = cstr "end-pre-remove" ∨ line = cstr "end-post-remove" then { s with inRemoveScript := false }
  else if s.inPost || s.inRemoveScript || !pkgStartsWith line (cstr "file ") then s
  else
    let path := copyValue maxPath (line.drop 5)
    if !pkgPathSafe path then { s with inFile := true }
    else { s with vfs := removePayloadFile s.vfs path, inFile := true, tried := s.tried ++ [path] }

/-- `remove_payload_files`, which always returns 0. -/
def removePayloadFiles (v : Vfs H) (payload : List UInt8) : RemoveState H :=
  (readerLines payload).foldl removePayloadLine ⟨v, false, false, false, []⟩

end Replay

end Orizon
