import Orizon.Ssh.Channel
import Orizon.Ssh.HostkeyFile
import Orizon.Ssh.Lockout
import Orizon.Vfs.FileAt

/-!
# Orizon.Ssh.Password

Setting the password of the SSH server: `ssh_set_password`, the configuration file it writes and
the check of a password against it.

Only the first word of the argument is hashed, and of it at most 95 bytes, so the password that is
accepted afterwards is that word (`sshSetPassword_right_iff`).
-/

namespace Orizon

/-! ## The configuration file -/

/-- `ORIZON_SSH_CONFIG_PATH`. -/
def orizonSshConfigPath : CStr := cstr "/system/ssh.conf"

/-- `ORIZON_SECURITY_LOG_PATH`. -/
def orizonSecurityLogPath : CStr := cstr "/logs/security.log"

/-- The text before the hash. -/
def sshConfigHead (auth : SshAuth) : List UInt8 :=
  asciiBytes "enabled yes\nport 22\nmode staged-ssh-transport\nuser orizon\nauth " ++
    (if auth.authConfigured then asciiBytes "password" else asciiBytes "disabled") ++ asciiBytes "\n"

/-- The text of `ssh_write_config`, in `text[384]`. -/
def sshConfigText (auth : SshAuth) : List UInt8 :=
  (sshConfigHead auth ++ asciiBytes "password-sha256 " ++
    (if auth.authConfigured then auth.passwordSha256 else asciiBytes "unset") ++
    asciiBytes "\nmax-attempts " ++ strBytes (cstrNat auth.maxAuthAttempts.toNat) ++
    asciiBytes "\nlockout-seconds " ++ strBytes (cstrNat auth.authLockoutSeconds.toNat) ++ asciiBytes "\n").take 383

/-- The server's settings and the file system. -/
structure SshSettings (H : Type) where
  ssh : SshState
  vfs : Vfs H

section Files

variable {H : Type} [Allocator H]

/-- `ssh_write_config`. -/
def sshWriteConfig (v : Vfs H) (auth : SshAuth) : PutOutcome × Vfs H :=
  vfsPut (vfsMkdir v (cstr "/system")).2 orizonSshConfigPath (oCreat ||| oWronly ||| oTrunc) (sshConfigText auth)

/-- `ssh_append_log_line`. -/
def sshAppendLogLine (v : Vfs H) (path line : CStr) : Vfs H :=
  match vfsOpen (vfsMkdir v (cstr "/logs")).2 path (oCreat ||| oWronly ||| oAppend) with
  | (none, v) => v
  | (some fd, v) => vfsClose (vfsWrite (vfsWrite v fd (strBytes line)).2 fd (strBytes (cstr "\n"))).2 fd

/-- `ssh_set_password`: whether it returns 0, and the state. -/
def SshSettings.setPassword (x : SshSettings H) (password : CStr) : Bool × SshSettings H :=
  if (sshCopyToken (strBytes password) 96).length < 6 then (false, x)
  else
    let ssh := sshSetPassword (strBytes password) x.ssh
    (true, ⟨ssh, sshAppendLogLine (sshWriteConfig x.vfs ssh.auth).2 orizonSecurityLogPath
      (cstr "security: ssh password auth enabled user=orizon")⟩)

/-- `ssh_load_config`; a read that fails is an empty text. -/
def SshSettings.loadConfig (x : SshSettings H) : SshSettings H :=
  let get := vfsGet x.vfs orizonSshConfigPath 767
  match get.1 with
  | none => ⟨{ x.ssh with auth.authConfigured := sshHex64Valid x.ssh.auth.passwordSha256 }, get.2⟩
  | some r => ⟨{ x.ssh with auth := sshParseConfig x.ssh.auth (r.toOption.getD []) }, get.2⟩

end Files

/-! ## Reading the text -/

section Text

variable {text needle a rest : List UInt8}

theorem strstr_append (h : strstr (a ++ needle) needle = some needle) (rest : List UInt8) :
    strstr (a ++ needle ++ rest) needle = some (needle ++ rest) := by
  induction a with
  | nil =>
      rw [List.nil_append, strstr]
      cases hcons : needle ++ rest with
      | nil => simp_all
      | cons c t =>
          rw [List.tails_cons, List.find?_cons_of_pos]
          rw [← hcons]
          simp
  | cons c a ih =>
      have hsame : needle.isPrefixOf (c :: (a ++ needle ++ rest)) = needle.isPrefixOf (c :: (a ++ needle)) := by
        have hlen : needle.length ≤ (c :: (a ++ needle)).length := by
          simp only [List.length_cons, List.length_append]
          omega
        have hinit : c :: (a ++ needle) <+: c :: (a ++ needle ++ rest) := ⟨rest, by simp⟩
        rw [Bool.eq_iff_iff, List.isPrefixOf_iff_prefix, List.isPrefixOf_iff_prefix]
        exact ⟨fun hpre => List.prefix_of_prefix_length_le hpre hinit hlen, fun hpre => hpre.trans hinit⟩
      rw [strstr, List.cons_append, List.tails_cons, List.find?_cons] at h
      rw [strstr, List.cons_append, List.cons_append, List.tails_cons, List.find?_cons, hsame]
      cases hpre : needle.isPrefixOf (c :: (a ++ needle)) with
      | true =>
          rw [hpre] at h
          have hlen := congrArg List.length (Option.some.inj h)
          simp only [List.length_cons, List.length_append] at hlen
          omega
      | false =>
          rw [hpre] at h
          exact ih h

theorem sshHexDigit_of_mem {c : UInt8} (h : c ∈ hexDigits) : sshHexDigit c = true := by
  revert c
  decide +kernel

theorem sshCopyToken_hash (data rest : List UInt8) :
    sshCopyToken (sha256BufferHex data ++ 0x0a :: rest) 65 = sha256BufferHex data := by
  have hplain : ∀ c ∈ hexDigits, decide (c ≠ 0 ∧ c ≠ 0x20 ∧ c ≠ 0x0a ∧ c ≠ 0x0d) = true := by
    decide +kernel
  have hlen := length_sha256BufferHex data
  rw [sshCopyToken, List.takeWhile_append_of_pos (fun c hc => hplain c (mem_sha256BufferHex hc)),
    List.takeWhile_cons_of_neg (by decide), List.append_nil, List.take_of_length_le (by omega)]

theorem sshHex64Valid_hash (data : List UInt8) : sshHex64Valid (sha256BufferHex data) = true := by
  have hlen := length_sha256BufferHex data
  rw [sshHex64Valid, hlen, List.all_eq_true.mpr fun c hc => sshHexDigit_of_mem (mem_sha256BufferHex hc)]
  rfl

theorem sha256Hex_inj {a b : Sha256Digest} (h : sha256Hex a = sha256Hex b) : a = b := by
  have hbytes : ∀ l m : List UInt8,
      l.flatMap (fun b : UInt8 => [hexDigits.getD (b >>> 4).toNat 0, hexDigits.getD (b &&& 0x0f).toNat 0]) =
        m.flatMap (fun b : UInt8 => [hexDigits.getD (b >>> 4).toNat 0, hexDigits.getD (b &&& 0x0f).toNat 0]) →
      l = m := by
    have hdigit : ∀ i j : Fin 16, hexDigits.getD i 0 = hexDigits.getD j 0 → i = j := by decide
    intro l
    induction l with
    | nil =>
        intro m hm
        cases m with
        | nil => rfl
        | cons b m => simp at hm
    | cons b l ih =>
        intro m hm
        cases m with
        | nil => simp at hm
        | cons b' m =>
            obtain ⟨hhi, hlo, hb⟩ := nibbles b
            obtain ⟨hhi', hlo', hb'⟩ := nibbles b'
            simp only [List.flatMap_cons, List.cons_append, List.nil_append, List.cons.injEq] at hm
            have hhigh := congrArg Fin.val (hdigit ⟨_, hhi⟩ ⟨_, hhi'⟩ hm.1)
            have hlow := congrArg Fin.val (hdigit ⟨_, hlo⟩ ⟨_, hlo'⟩ hm.2.1)
            dsimp only at hhigh hlow
            rw [ih m hm.2.2, ← hb, ← hb', hhigh, hlow]
  exact Vector.toList_inj.mp (hbytes _ _ h)

theorem sha256BufferHex_eq_iff {a b : List UInt8} : sha256BufferHex a = sha256BufferHex b ↔
    sha256Buffer a = sha256Buffer b :=
  ⟨fun h => sha256Hex_inj h, fun h => by rw [sha256BufferHex, h, sha256BufferHex]⟩

theorem cstringBytes_of_ne_zero (h : ∀ c ∈ text, c ≠ 0) : cstringBytes text = text :=
  List.takeWhile_eq_self_iff.mpr fun c hc => by simpa using h c hc

theorem sshConfigText_eq {auth : SshAuth} {data : List UInt8} (hhash : auth.passwordSha256 = sha256BufferHex data)
    (hconfigured : auth.authConfigured = true) :
    ∃ rest, sshConfigText auth = sshConfigHead auth ++ asciiBytes "password-sha256 " ++
        (sha256BufferHex data ++ 0x0a :: rest) ∧
      (sshConfigText auth).length ≤ 383 ∧ ∀ c ∈ sshConfigText auth, c ≠ 0 := by
  have hlen := length_sha256BufferHex data
  have hattempts := length_cstrNat_le (k := 10) (by decide) (lt_trans auth.maxAuthAttempts.toNat_lt (by decide))
  have hseconds := length_cstrNat_le (k := 10) (by decide) (lt_trans auth.authLockoutSeconds.toNat_lt (by decide))
  have hhead : sshConfigHead auth = asciiBytes "enabled yes\nport 22\nmode staged-ssh-transport\nuser orizon\nauth " ++
      asciiBytes "password" ++ asciiBytes "\n" := by rw [sshConfigHead, hconfigured, if_pos rfl]
  have htext : sshConfigText auth = sshConfigHead auth ++ asciiBytes "password-sha256 " ++
      (sha256BufferHex data ++ 0x0a :: (asciiBytes "max-attempts " ++ strBytes (cstrNat auth.maxAuthAttempts.toNat) ++
        asciiBytes "\nlockout-seconds " ++ strBytes (cstrNat auth.authLockoutSeconds.toNat) ++ asciiBytes "\n")) := by
    rw [sshConfigText, if_pos hconfigured, hhash, List.take_of_length_le]
    · simp [asciiBytes]
    · rw [hhead]
      simp only [List.length_append, hlen]
      simp [asciiBytes]
      omega
  refine ⟨_, htext, List.length_take_le .., ?_⟩
  rw [htext, hhead]
  have hzero : ∀ s : CStr, ∀ c ∈ strBytes s, c ≠ 0 := by
    intro s c hc
    obtain ⟨c, -, rfl⟩ := List.mem_map.mp hc
    exact c.property
  have hdigits : ∀ c ∈ hexDigits, c ≠ 0 := by decide +kernel
  simp only [List.forall_mem_append, List.forall_mem_cons]
  exact ⟨⟨⟨⟨by decide +kernel, by decide +kernel⟩, by decide +kernel⟩, by decide +kernel⟩,
    fun c hc => hdigits c (mem_sha256BufferHex hc), by decide +kernel,
    ⟨⟨⟨by decide +kernel, hzero _⟩, by decide +kernel⟩, hzero _⟩, by decide +kernel⟩

theorem sshParseConfig_text {auth : SshAuth} {data : List UInt8} (hhash : auth.passwordSha256 = sha256BufferHex data)
    (hconfigured : auth.authConfigured = true) (auth' : SshAuth) :
    (sshParseConfig auth' (sshConfigText auth)).passwordSha256 = auth.passwordSha256 ∧
      (sshParseConfig auth' (sshConfigText auth)).authConfigured = true := by
  obtain ⟨rest, htext, hlen, hzero⟩ := sshConfigText_eq hhash hconfigured
  have hread : cstringBytes ((sshConfigText auth).take 767) = sshConfigText auth := by
    rw [List.take_of_length_le (by omega), cstringBytes_of_ne_zero hzero]
  have hfirst : strstr (sshConfigHead auth ++ asciiBytes "password-sha256 ") (asciiBytes "password-sha256 ") =
      some (asciiBytes "password-sha256 ") := by
    rw [sshConfigHead, hconfigured]
    decide
  have hpassword : sshConfigPassword (sshConfigText auth) = some (sha256BufferHex data) := by
    rw [sshConfigPassword, htext, strstr_append hfirst]
    dsimp only
    rw [List.drop_left' (by decide), sshCopyToken_hash, if_pos (sshHex64Valid_hash data)]
  simp [sshParseConfig, hread, hpassword, hhash]

end Text

/-! ## The check -/

section Check

variable {env : SshEnv} {s : SshState} {payload offered : List UInt8}

/-- A well-formed password request for the user `orizon`. -/
def PasswordRequest (payload offered : List UInt8) : Prop :=
  ∃ off rest, sshReadUserauth payload =
      some (asciiBytes "orizon", asciiBytes "ssh-connection", asciiBytes "password", off) ∧
    off + 1 ≤ payload.length ∧ payload.getD off 0 = 0 ∧ sshReadString payload (off + 1) = some (offered, rest)

/-- The request is accepted. -/
def SshAdmits (env : SshEnv) (payload : List UInt8) (s : SshState) : Prop :=
  ∃ auth now, (sshProcessUserauthRequest env payload s).trace = .authSuccess payload auth now :: s.trace

theorem sshAdmits_iff (hreq : PasswordRequest payload offered) (hlockout : sshLockoutRemaining env s = 0)
    (hconfigured : s.auth.authConfigured = true) :
    SshAdmits env payload s ↔ sha256BufferHex offered = s.auth.passwordSha256 := by
  obtain ⟨off, rest, hread, hoff, hchange, hpassword⟩ := hreq
  have hno : ¬ (asciiBytes "ssh-connection" ≠ asciiBytes "ssh-connection" ∨ asciiBytes "orizon" ≠ asciiBytes "orizon") := by
    simp
  have hmethod : asciiBytes "password" ≠ asciiBytes "none" := by decide
  unfold SshAdmits sshProcessUserauthRequest
  rw [hread]
  dsimp only
  rw [hlockout, if_neg (by decide), if_neg hno, if_neg hmethod, if_pos rfl, sshProcessPassword, if_neg (by omega),
    hpassword]
  dsimp only
  rw [if_neg (by rw [hchange]; simp [SshState.ask, hconfigured])]
  by_cases hhash : sha256BufferHex offered = s.auth.passwordSha256
  · rw [if_pos (by simpa [SshState.ask] using hhash)]
    simp [sshNoteAuthSuccess, SshState.note, SshState.ask, hhash]
  · rw [if_neg (by simpa [SshState.ask] using hhash)]
    simp [sshNoteAuthFailure, SshState.note, SshState.ask, hhash]

/-- A string of a packet. -/
def packetString (data : List UInt8) : List UInt8 := sshPutU32 (UInt32.ofNat data.length) ++ data

/-- The request of a client that offers a password. -/
def passwordRequest (offered : List UInt8) : List UInt8 :=
  50 :: (packetString (asciiBytes "orizon") ++ packetString (asciiBytes "ssh-connection") ++
    packetString (asciiBytes "password") ++ 0 :: packetString offered)

theorem passwordRequest_ok (h : offered.length < 2 ^ 32) : PasswordRequest (passwordRequest offered) offered := by
  have hstring : ∀ out data rest : List UInt8, data.length < 2 ^ 32 →
      passwordRequest offered = out ++ (packetString data ++ rest) →
      sshReadString (passwordRequest offered) out.length = some (data, out.length + 4 + data.length) := by
    intro out data rest hlen heq
    rw [heq, packetString, List.append_assoc]
    exact sshReadString_append rest hlen
  have huser := hstring [50] (asciiBytes "orizon") _ (by decide) (by simp [passwordRequest]; rfl)
  have hservice := hstring (50 :: packetString (asciiBytes "orizon")) (asciiBytes "ssh-connection") _ (by decide)
    (by simp [passwordRequest]; rfl)
  have hmethod := hstring (50 :: (packetString (asciiBytes "orizon") ++ packetString (asciiBytes "ssh-connection")))
    (asciiBytes "password") _ (by decide) (by simp [passwordRequest]; rfl)
  have hpassword := hstring (50 :: (packetString (asciiBytes "orizon") ++ packetString (asciiBytes "ssh-connection") ++
    packetString (asciiBytes "password") ++ [0])) offered [] h (by simp [passwordRequest])
  have hread : sshReadUserauth (passwordRequest offered) =
      some (asciiBytes "orizon", asciiBytes "ssh-connection", asciiBytes "password", 41) := by
    change sshReadString (passwordRequest offered) 1 = some (asciiBytes "orizon", 11) at huser
    change sshReadString (passwordRequest offered) 11 = some (asciiBytes "ssh-connection", 29) at hservice
    change sshReadString (passwordRequest offered) 29 = some (asciiBytes "password", 41) at hmethod
    rw [sshReadUserauth, huser]
    dsimp only
    rw [hservice]
    dsimp only
    rw [hmethod]
  have hchange : passwordRequest offered = (50 :: (packetString (asciiBytes "orizon") ++
      packetString (asciiBytes "ssh-connection") ++ packetString (asciiBytes "password"))) ++
        0 :: packetString offered := by simp [passwordRequest]
  refine ⟨41, _, hread, ?_, ?_, hpassword⟩
  · rw [hchange, List.length_append]
    exact Nat.add_le_add (show 41 ≤ _ from Nat.le_refl 41) (by simp)
  · rw [hchange, List.getD_append_right _ _ _ _ (Nat.le_refl 41)]
    rfl

/-! ## The password that is set -/

/-- Outside a lockout the server accepts `password` and nothing else, but for collisions of the
hash. -/
def PasswordRight (password : CStr) (s : SshState) : Prop :=
  ∀ env payload offered, PasswordRequest payload offered → sshLockoutRemaining env s = 0 →
    (SshAdmits env payload s ↔ sha256Buffer offered = sha256Buffer (strBytes password))

/-- The word that is hashed. -/
def passwordToken (password : CStr) : List UInt8 := sshCopyToken (strBytes password) 96

theorem length_passwordToken_le (password : CStr) : (passwordToken password).length ≤ 95 := List.length_take_le ..

theorem passwordRight_of_hash {password : CStr} {token : List UInt8}
    (hhash : s.auth.passwordSha256 = sha256BufferHex token) (hconfigured : s.auth.authConfigured = true)
    (hsame : sha256Buffer token = sha256Buffer (strBytes password)) : PasswordRight password s := by
  intro env payload offered hreq hlockout
  rw [sshAdmits_iff hreq hlockout hconfigured, hhash, sha256BufferHex_eq_iff, hsame]

/-- A server that is right has the hash of the password: it accepts the word it has the hash of. -/
theorem hash_of_passwordRight {password : CStr} {token : List UInt8}
    (hhash : s.auth.passwordSha256 = sha256BufferHex token) (hconfigured : s.auth.authConfigured = true)
    (hlockout : sshLockoutRemaining env s = 0) (hlen : token.length < 2 ^ 32) (hright : PasswordRight password s) :
    sha256Buffer token = sha256Buffer (strBytes password) := by
  have hreq := passwordRequest_ok hlen
  rw [← hright env _ _ hreq hlockout, sshAdmits_iff hreq hlockout hconfigured, hhash]

end Check

section Set

variable {H : Type} [Allocator H] {x z : SshSettings H} {password : CStr}

theorem fileAt_sshAppendLogLine {v : Vfs H} {path q : CStr} (hlen : path.length < maxPath) (hne : path ≠ q)
    (line : CStr) :
    fileAt (sshAppendLogLine v path line) q = fileAt (vfsInit v) q := by
  have hopened := fileAt_vfsOpen_ne (v := (vfsMkdir v (cstr "/logs")).2) hlen hne (oCreat ||| oWronly ||| oAppend)
  obtain ⟨-, hhandle⟩ := sameElsewhere_vfsOpen (v := (vfsMkdir v (cstr "/logs")).2) hlen (oCreat ||| oWronly ||| oAppend)
  rw [show vfsInit (vfsMkdir v (cstr "/logs")).2 = (vfsMkdir v (cstr "/logs")).2 from
    if_pos (vfsInitialized_vfsMkdir ..), fileAt_vfsMkdir] at hopened
  unfold sshAppendLogLine
  obtain ⟨fd, w, hopen⟩ : ∃ fd w, vfsOpen (vfsMkdir v (cstr "/logs")).2 path (oCreat ||| oWronly ||| oAppend) = (fd, w) :=
    ⟨_, _, rfl⟩
  rw [hopen] at hopened hhandle ⊢
  cases fd with
  | none => exact hopened
  | some fd =>
      dsimp only at hopened hhandle ⊢
      have hhandle := hhandle fd rfl
      have hwritten := (sameElsewhere_vfsWrite hhandle (strBytes line)).2
      rw [fileAt_vfsClose, fileAt_vfsWrite_ne hwritten hne, fileAt_vfsWrite_ne hhandle hne, hopened]

theorem openFiles_vfsMkdir {v : Vfs H} (hinit : v.vfsInitialized = true) (path : CStr) :
    (vfsMkdir v path).2.openFiles = v.openFiles := by
  unfold vfsMkdir vfsMake
  rw [show vfsInit v = v from if_pos hinit]
  obtain hc | ⟨e, he⟩ := createInode_cases v path .dir
  · rw [createInode_ok .dir hc]
    exact (maybePersistPath_same _ path).openFiles
  · rw [he]

/-- A line in a log leaves the file system mounted, and a handle free. -/
theorem mounted_sshAppendLogLine {v : Vfs H} (hinit : v.vfsInitialized = true) (hfree : (findFreeFile v).isSome)
    (path line : CStr) : (sshAppendLogLine v path line).vfsInitialized = true ∧
      (findFreeFile (sshAppendLogLine v path line)).isSome := by
  have hmade := vfsInitialized_vfsMkdir v (cstr "/logs")
  have hopened := vfsInitialized_vfsOpen (vfsMkdir v (cstr "/logs")).2 path (oCreat ||| oWronly ||| oAppend)
  have hcases := vfsOpen_cases (vfsMkdir v (cstr "/logs")).2 path (oCreat ||| oWronly ||| oAppend)
  rw [show vfsInit (vfsMkdir v (cstr "/logs")).2 = (vfsMkdir v (cstr "/logs")).2 from if_pos hmade] at hcases
  unfold sshAppendLogLine
  obtain ⟨heq, -⟩ | ⟨fd, hfd, ⟨idx, -, -, heq⟩ | ⟨-, -, heq⟩⟩ := hcases <;> rw [heq] at hopened ⊢
  · refine ⟨hopened, ?_⟩
    rw [findFreeFile, openFiles_vfsMkdir hinit]
    exact hfree
  all_goals
    refine ⟨?_, findFreeFile_vfsClose (lt_of_findFreeFile hfd)⟩
    rw [vfsInitialized_vfsClose, vfsInitialized_vfsWrite, vfsInitialized_vfsWrite]
    exact hopened

/-- The write of the configuration by `ssh_set_password`. -/
def SshSettings.putConfig (x : SshSettings H) (password : CStr) : PutOutcome × Vfs H :=
  sshWriteConfig x.vfs (sshSetPassword (strBytes password) x.ssh).auth

theorem setPassword_eq (hset : (x.setPassword password).1 = true) :
    (x.setPassword password).2.ssh.auth.passwordSha256 = sha256BufferHex (passwordToken password) ∧
      (x.setPassword password).2.ssh.auth.authConfigured = true ∧
      (x.setPassword password).2.ssh.auth.authLockoutUntil = 0 ∧
      ((x.putConfig password).1 = .done → fileAt (x.setPassword password).2.vfs orizonSshConfigPath =
        some (sshConfigText (x.setPassword password).2.ssh.auth)) := by
  unfold SshSettings.setPassword at hset ⊢
  by_cases hshort : (sshCopyToken (strBytes password) 96).length < 6
  · simp [hshort] at hset
  · rw [if_neg hshort]
    dsimp only
    refine ⟨by simp [sshSetPassword, hshort, passwordToken], by simp [sshSetPassword, hshort],
      by simp [sshSetPassword, hshort, SshAuth.cleared], fun hdone => ?_⟩
    have hlen : (sshConfigText (sshSetPassword (strBytes password) x.ssh).auth).length ≤ 383 := List.length_take_le ..
    unfold SshSettings.putConfig sshWriteConfig at hdone
    rw [fileAt_sshAppendLogLine (by decide) (by decide), sshWriteConfig]
    rw [show vfsInit (vfsPut _ _ _ _).2 = (vfsPut _ _ _ _).2 from if_pos (vfsInitialized_vfsPut ..)]
    exact fileAt_vfsPut_trunc (by decide) (by decide) (by omega) hdone

theorem loadConfig_eq {auth : SshAuth} {token : List UInt8} (hhash : auth.passwordSha256 = sha256BufferHex token)
    (hconfigured : auth.authConfigured = true) (hinit : z.vfs.vfsInitialized = true)
    (hfree : (findFreeFile z.vfs).isSome) (hfile : fileAt z.vfs orizonSshConfigPath = some (sshConfigText auth)) :
    z.loadConfig.ssh.auth.passwordSha256 = sha256BufferHex token ∧ z.loadConfig.ssh.auth.authConfigured = true := by
  obtain ⟨-, -, hlen, -⟩ := sshConfigText_eq hhash hconfigured
  have hget : (vfsGet z.vfs orizonSshConfigPath 767).1 = some (.ok ((sshConfigText auth).take 767)) :=
    vfsGet_fileAt hinit hfile hfree
  rw [List.take_of_length_le (by omega)] at hget
  rw [SshSettings.loadConfig, hget]
  dsimp only
  rw [← hhash]
  exact sshParseConfig_text hhash hconfigured _

/-- After `ssh_set_password` the server accepts exactly the argument, also with the configuration
loaded again from the file it wrote, if and only if the argument has the hash of its first word. -/
theorem sshSetPassword_right_iff (hset : (x.setPassword password).1 = true) :
    (PasswordRight password (x.setPassword password).2.ssh ∧
      ((x.putConfig password).1 = .done → ∀ z : SshSettings H, z.vfs.vfsInitialized = true →
        (findFreeFile z.vfs).isSome →
        fileAt z.vfs orizonSshConfigPath = fileAt (x.setPassword password).2.vfs orizonSshConfigPath →
        PasswordRight password z.loadConfig.ssh)) ↔
      sha256Buffer (passwordToken password) = sha256Buffer (strBytes password) := by
  obtain ⟨hhash, hconfigured, hunlocked, hfile⟩ := setPassword_eq hset
  have hlen := length_passwordToken_le password
  constructor
  · rintro ⟨hright, -⟩
    have hremaining : sshLockoutRemaining sampleGuessEnv (x.setPassword password).2.ssh = 0 := by
      rw [sshLockoutRemaining, hunlocked]
      exact if_pos UInt64.zero_le
    exact hash_of_passwordRight hhash hconfigured hremaining (by omega) hright
  · intro hsame
    refine ⟨passwordRight_of_hash hhash hconfigured hsame, fun hdone z hinit hfree hz => ?_⟩
    obtain ⟨hhash', hconfigured'⟩ := loadConfig_eq hhash hconfigured hinit hfree (hz.trans (hfile hdone))
    exact passwordRight_of_hash hhash' hconfigured' hsame

theorem passwordToken_self (hlen : password.length ≤ 95)
    (hplain : ∀ c ∈ password, c.val ≠ 0x20 ∧ c.val ≠ 0x0a ∧ c.val ≠ 0x0d) :
    passwordToken password = strBytes password := by
  rw [passwordToken, sshCopyToken, List.takeWhile_eq_self_iff.mpr, List.take_of_length_le (by simpa using hlen)]
  intro b hb
  obtain ⟨c, hc, rfl⟩ := List.mem_map.mp hb
  simpa [c.property] using hplain c hc

/-- The file answers the question that the server asks when it loads its configuration. -/
theorem loadConfig_answers {env : SshEnv} (h : env.configFile x.ssh.asked =
      (vfsGet x.vfs orizonSshConfigPath 767).1.map fun r => r.toOption.getD []) :
    (sshLoadConfig env x.ssh).auth = x.loadConfig.ssh.auth := by
  rw [sshLoadConfig, h, SshSettings.loadConfig]
  dsimp only
  cases (vfsGet x.vfs orizonSshConfigPath 767).1 <;> simp [SshState.ask]

end Set

/-! ## A word and two words -/

/-- The settings after boot. -/
def sampleSettings : SshSettings KernelHeap := ⟨sshBoot, vfsInit (bootVfs KernelHeap.boot noDisk bootPersist)⟩

/-- A password of one word is accepted. -/
theorem sshSetPassword_right_word : (sampleSettings.setPassword (cstr "orizon-42")).1 = true ∧
    PasswordRight (cstr "orizon-42") (sampleSettings.setPassword (cstr "orizon-42")).2.ssh := by
  have hset : (sampleSettings.setPassword (cstr "orizon-42")).1 = true := by
    have hlong : ¬ (sshCopyToken (strBytes (cstr "orizon-42")) 96).length < 6 := by decide
    rw [SshSettings.setPassword, if_neg hlong]
  refine ⟨hset, ((sshSetPassword_right_iff hset).mpr ?_).1⟩
  rw [passwordToken_self (by decide +kernel) (by decide +kernel)]

/-- Of two words only the first is the password. -/
theorem sshSetPassword_cuts : ¬ ∀ (x : SshSettings KernelHeap) (password : CStr), (x.setPassword password).1 = true →
    PasswordRight password (x.setPassword password).2.ssh := by
  intro h
  have hlong : ¬ (sshCopyToken (strBytes (cstr "secret word")) 96).length < 6 := by decide
  have hset : (sampleSettings.setPassword (cstr "secret word")).1 = true := by
    rw [SshSettings.setPassword, if_neg hlong]
  obtain ⟨hhash, hconfigured, hunlocked, -⟩ := setPassword_eq hset
  have hlockout : sshLockoutRemaining sampleGuessEnv (sampleSettings.setPassword (cstr "secret word")).2.ssh = 0 := by
    rw [sshLockoutRemaining, hunlocked]
    exact if_pos UInt64.zero_le
  have hsame := hash_of_passwordRight hhash hconfigured hlockout
    (lt_of_le_of_lt (length_passwordToken_le _) (by decide)) (h _ _ hset)
  revert hsame
  decide +kernel

end Orizon
