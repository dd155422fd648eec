import Orizon.Net.Ipv4Text
import Orizon.Ssh.Password
import Orizon.Update.Manifest

/-!
# Orizon.Net.StaticConfig

The static IPv4 configuration of `drivers/netstack.c`: the file it is kept in, written by
`netstack_save_static_config` and read by `netstack_configure_static_from_vfs`.

A file of lines `key value` is read as a table (`configReadValue_lines`), so what was saved is
configured again (`configure_saved`).  The writer puts the defaults in the place of a mask and a
name server of 0, and refuses an address and a gateway of 0.
-/

namespace Orizon

/-! ## Reading a value -/

/-- `config_line_key_matches`; the text goes on behind the line. -/
def configLineKeyMatches (text key : CStr) : Bool :=
  strncmpEq text key key.length && (text[key.length]?).any isBlank

/-- `config_read_value` into an array of `outSize` bytes; `none` is -1. -/
def configReadValue (key : CStr) (outSize : Nat) (p : CStr) : Option CStr :=
  if p = [] then none
  else if configLineKeyMatches p key then
    let value := (p.drop key.length).dropWhile isBlank
    let token := value.takeWhile (!isTokenEnd ·)
    if token.length = 0 ∨ token.length ≥ outSize then none else some token
  else configReadValue key outSize (p.drop ((p.takeWhile fun c => !decide (c = cchar '\n')).length + 1))
termination_by p.length
decreasing_by
  have hpos := List.length_pos_of_ne_nil ‹¬ p = []›
  rw [List.length_drop]
  omega

/-- `config_read_ip`; `none` is -1. -/
def configReadIp (text key : CStr) : Option UInt32 := do
  let value ← configReadValue key 32 text
  netstackParseIpv4 value

/-- `network_config_is_static`. -/
def networkConfigIsStatic (text : CStr) : Bool := configReadValue (cstr "mode") 16 text = some (cstr "static")

/-! ## The stack -/

/-- `NETWORK_CONFIG_PATH`. -/
def networkConfigPath : CStr := cstr "/system/network.conf"

/-- `NETWORK_LOG_PATH`. -/
def networkLogPath : CStr := cstr "/logs/network.log"

/-- `DEFAULT_STATIC_SUBNET`. -/
def defaultStaticSubnet : UInt32 := 0xffffff00

/-- `netstack_status_t`, as far as the configuration goes. -/
structure NetstackStatus where
  ipv4Ready : Bool
  staticConfigLoaded : Bool
  ip : UInt32
  subnet : UInt32
  gateway : UInt32
  dns : UInt32
  status : CStr
deriving DecidableEq

/-- The statics of `netstack.c` that the configuration touches, and the file system. -/
structure NetStack (H : Type) where
  status : NetstackStatus
  arpCachedIp : UInt32
  vfs : Vfs H

section Files

variable {H : Type} [Allocator H]

/-- `network_log_line`. -/
def networkLogLine (v : Vfs H) (line : CStr) : Vfs H := sshAppendLogLine v networkLogPath line

/-- `set_status`.  The kernel log, which gets the line too, is no part of the state. -/
def NetStack.setStatus (n : NetStack H) (status : CStr) : NetStack H :=
  { n with status.status := status.take 159, vfs := networkLogLine n.vfs status }

/-- `netstack_configure_ipv4_static`: whether it returns 0, and the state. -/
def netstackConfigureIpv4Static (linkUp : Bool) (n : NetStack H) (ip subnet gateway dns : UInt32) : Bool × NetStack H :=
  if ip = 0 ∨ gateway = 0 then (false, n.setStatus (cstr "ipv4: invalid static config"))
  else if !linkUp then (false, n.setStatus (cstr "ipv4: network link unavailable"))
  else
    let status := { n.status with
      ip
      subnet := if subnet ≠ 0 then subnet else defaultStaticSubnet
      gateway
      dns := if dns ≠ 0 then dns else gateway
      ipv4Ready := true
      staticConfigLoaded := true }
    (true, { n with status, arpCachedIp := 0 }.setStatus (cstr "ipv4: configured static"))

/-- `netstack_configure_static_from_vfs`: whether it returns 0, and the state. -/
def netstackConfigureStaticFromVfs (linkUp : Bool) (n : NetStack H) : Bool × NetStack H :=
  let read := vfsReadText n.vfs networkConfigPath 512
  let n := { n with vfs := read.2 }
  let bytes := read.1.getD []
  let text := bytesCstr bytes
  if bytes.length = 0 ∨ !networkConfigIsStatic text then (false, n.setStatus (cstr "ipv4: no static config"))
  else
    match configReadIp text (cstr "ip"), configReadIp text (cstr "gateway") with
    | some ip, some gateway =>
        let subnet := (configReadIp text (cstr "subnet")).getD defaultStaticSubnet
        let dns := (configReadIp text (cstr "dns")).getD 0
        netstackConfigureIpv4Static linkUp n ip subnet gateway dns
    | _, _ => (false, n.setStatus (cstr "ipv4: invalid static config file"))

/-- The `text[256]` of `netstack_save_static_config`. -/
def staticConfigText (ip subnet gateway dns : UInt32) : CStr :=
  snprintfTexts 256 [cstr "mode static\nip ", netstackFormatIpv4 ip 24, cstr "\nsubnet ", netstackFormatIpv4 subnet 24,
    cstr "\ngateway ", netstackFormatIpv4 gateway 24, cstr "\ndns ", netstackFormatIpv4 dns 24, cstr "\n"]

/-- `netstack_save_static_config`: whether it returns 0, and the file system. -/
def netstackSaveStaticConfig (v : Vfs H) (ip subnet gateway dns : UInt32) : Bool × Vfs H :=
  if ip = 0 ∨ gateway = 0 then (false, v)
  else
    let subnet := if subnet = 0 then defaultStaticSubnet else subnet
    let dns := if dns = 0 then gateway else dns
    match vfsPut (vfsMkdir v (cstr "/system")).2 networkConfigPath (oCreat ||| oWronly ||| oTrunc)
      (strBytes (staticConfigText ip subnet gateway dns)) with
    | (.done, v) => (true, networkLogLine v (cstr "network: saved static config"))
    | (_, v) => (false, v)

end Files

/-! ## The file as a table -/

/-- A line of the file. -/
def configLine (entry : CStr × CStr) : CStr := entry.1 ++ cchar ' ' :: (entry.2 ++ [cchar '\n'])

/-- No blanks and no line ends. -/
def IsConfigWord (s : CStr) : Prop := ∀ c ∈ s, isTokenEnd c = false

section Table

variable {key word rest text : CStr} {outSize : Nat} {entries : List (CStr × CStr)} {entry : CStr × CStr}

theorem isTokenEnd_space : isTokenEnd (cchar ' ') = true := by decide

theorem isTokenEnd_newline : isTokenEnd (cchar '\n') = true := by decide

theorem IsConfigWord.takeWhile {c : CChar} (hword : IsConfigWord word) (hc : isTokenEnd c = true) (rest : CStr) :
    (word ++ c :: rest).takeWhile (!isTokenEnd ·) = word := by
  rw [List.takeWhile_append_of_pos fun d hd => by simp [hword d hd], List.takeWhile_cons_of_neg (by simp [hc]),
    List.append_nil]

theorem configLineKeyMatches_iff (hkey : IsConfigWord key) (hword : IsConfigWord word) :
    configLineKeyMatches (word ++ cchar ' ' :: rest) key = true ↔ word = key := by
  constructor
  · intro h
    rw [configLineKeyMatches, Bool.and_eq_true, strncmpEq, decide_eq_true_iff, List.take_length] at h
    obtain ⟨hstart, hblank⟩ := h
    have hsplit := List.take_append_drop key.length (word ++ cchar ' ' :: rest)
    rw [← List.head?_drop] at hblank
    cases hdrop : (word ++ cchar ' ' :: rest).drop key.length with
    | nil => simp [hdrop] at hblank
    | cons c tail =>
        have hc : isTokenEnd c = true := by
          rw [hdrop] at hblank
          simp only [List.head?_cons, Option.any_some] at hblank
          simp [isTokenEnd, hblank]
        rw [hstart, hdrop] at hsplit
        rw [← hword.takeWhile isTokenEnd_space rest, ← hsplit, hkey.takeWhile hc]
  · rintro rfl
    have hspace : isBlank (cchar ' ') = true := by decide
    simp [configLineKeyMatches, strncmpEq, hspace]

theorem configReadValue_skip (hkey : IsConfigWord key) (hentry : IsConfigWord entry.1 ∧ IsConfigWord entry.2)
    (hne : entry.1 ≠ key) (rest : CStr) :
    configReadValue key outSize (configLine entry ++ rest) = configReadValue key outSize rest := by
  have hmatch : ¬ configLineKeyMatches (configLine entry ++ rest) key = true := by
    rw [configLine, List.append_assoc, List.cons_append, configLineKeyMatches_iff hkey hentry.1]
    exact hne
  have hnewline : ∀ c ∈ entry.1 ++ cchar ' ' :: entry.2, (!decide (c = cchar '\n')) = true := by
    have hspace : cchar ' ' ≠ cchar '\n' := by decide
    have hword : ∀ {word : CStr}, IsConfigWord word → ∀ c ∈ word, c ≠ cchar '\n' := fun hword c hc heq => by
      have htoken := hword c hc
      rw [heq, isTokenEnd_newline] at htoken
      cases htoken
    intro c hc
    obtain hc | hc := List.mem_append.mp hc
    · simpa using hword hentry.1 c hc
    · obtain rfl | hc := List.mem_cons.mp hc
      · simpa using hspace
      · simpa using hword hentry.2 c hc
  have hline : configLine entry ++ rest = (entry.1 ++ cchar ' ' :: entry.2) ++ cchar '\n' :: rest := by
    simp [configLine]
  have hdrop : ∀ l : CStr, (l ++ cchar '\n' :: rest).drop (l.length + 1) = rest := fun l => by
    rw [← List.drop_drop, List.drop_left]
    rfl
  rw [configReadValue, if_neg (by simp [configLine]), if_neg hmatch, hline, List.takeWhile_append_of_pos hnewline,
    List.takeWhile_cons_of_neg (by simp), List.append_nil, hdrop]

theorem configReadValue_here (hkey : IsConfigWord entry.1) (hvalue : IsConfigWord entry.2) (rest : CStr) :
    configReadValue entry.1 outSize (configLine entry ++ rest) =
      if entry.2.length = 0 ∨ entry.2.length ≥ outSize then none else some entry.2 := by
  have hmatch : configLineKeyMatches (configLine entry ++ rest) entry.1 = true := by
    rw [configLine, List.append_assoc, List.cons_append, configLineKeyMatches_iff hkey hkey]
  have hvalueText : ((configLine entry ++ rest).drop entry.1.length).dropWhile isBlank = entry.2 ++
      cchar '\n' :: rest := by
    have hspace : isBlank (cchar ' ') = true := by decide
    have hnewline : isBlank (cchar '\n') = false := by decide
    have hstart : (entry.2 ++ cchar '\n' :: rest).dropWhile isBlank = entry.2 ++ cchar '\n' :: rest := by
      cases hword : entry.2 with
      | nil => simp [hnewline]
      | cons c word =>
          have hc : isBlank c = false := by
            have htoken := hvalue c (by simp [hword])
            simp only [isTokenEnd, Bool.or_eq_false_iff] at htoken
            exact htoken.1
          simp [hc]
    rw [configLine, List.append_assoc, List.drop_left, List.cons_append, List.dropWhile_cons_of_pos hspace,
      List.append_assoc]
    exact hstart
  rw [configReadValue, if_neg (by simp [configLine]), if_pos hmatch, hvalueText]
  dsimp only
  rw [hvalue.takeWhile isTokenEnd_newline]

theorem configReadValue_lines (hkey : IsConfigWord key)
    (hentries : ∀ entry ∈ entries, IsConfigWord entry.1 ∧ IsConfigWord entry.2) :
    configReadValue key outSize (entries.flatMap configLine) =
      (entries.find? (·.1 = key)).bind fun entry =>
        if entry.2.length = 0 ∨ entry.2.length ≥ outSize then none else some entry.2 := by
  induction entries with
  | nil => simp [configReadValue]
  | cons entry entries ih =>
      have hentry := hentries entry (by simp)
      rw [List.flatMap_cons]
      by_cases hhere : entry.1 = key
      · subst hhere
        rw [configReadValue_here hkey hentry.2]
        simp
      · rw [configReadValue_skip hkey hentry hhere, ih fun e he => hentries e (by simp [he])]
        simp [hhere]

end Table

/-! ## What is saved -/

section Saved

variable {H : Type} [Allocator H] {v w : Vfs H} {ip subnet gateway dns : UInt32}

/-- The entries of a static configuration. -/
def staticEntries (ip subnet gateway dns : UInt32) : List (CStr × CStr) :=
  [(cstr "mode", cstr "static"), (cstr "ip", netstackFormatIpv4 ip 24), (cstr "subnet", netstackFormatIpv4 subnet 24),
    (cstr "gateway", netstackFormatIpv4 gateway 24), (cstr "dns", netstackFormatIpv4 dns 24)]

omit [Allocator H] in
theorem length_netstackFormatIpv4 (ip : UInt32) :
    0 < (netstackFormatIpv4 ip 24).length ∧ (netstackFormatIpv4 ip 24).length ≤ 23 := by
  refine ⟨?_, List.length_take_le _ _⟩
  rw [netstackFormatIpv4_eq]
  simp [ipv4Octets, List.intercalate]

omit [Allocator H] in
theorem isConfigWord_netstackFormatIpv4 (ip : UInt32) : IsConfigWord (netstackFormatIpv4 ip 24) := by
  have hdecimal : ∀ {c : CChar}, isDecimal c = true → isTokenEnd c = false := by
    intro c hc
    have hrange := isDecimal_iff.mp hc
    by_contra hend
    rw [Bool.not_eq_false, isTokenEnd, Bool.or_eq_true, isBlank, isLineEnd, Bool.or_eq_true, Bool.or_eq_true,
      decide_eq_true_iff, decide_eq_true_iff, decide_eq_true_iff, decide_eq_true_iff] at hend
    obtain (h | h) | (h | h) := hend <;> rw [h] at hrange <;> revert hrange <;> decide
  intro c hc
  obtain hc | rfl : isDecimal c = true ∨ c = cchar '.' := by
    rw [netstackFormatIpv4_eq] at hc
    obtain ⟨part, hpart, hc⟩ := List.mem_flatten.mp hc
    obtain rfl | ⟨n, rfl⟩ : part = [cchar '.'] ∨ ∃ n, part = cstrNat n := by
      simp only [ipv4Octets, List.map_cons, List.map_nil, List.intersperse] at hpart
      grind
    · exact .inr (List.mem_singleton.mp hc)
    · exact .inl (isDecimal_of_mem_cstrNat hc)
  · exact hdecimal hc
  · decide

omit [Allocator H] in
theorem staticConfigText_eq (ip subnet gateway dns : UInt32) :
    staticConfigText ip subnet gateway dns = (staticEntries ip subnet gateway dns).flatMap configLine := by
  have hfits : (cstr "mode static\nip ").length + (cstr "\nsubnet ").length + (cstr "\ngateway ").length +
      (cstr "\ndns ").length + (cstr "\n").length = 38 := by decide
  have hlen := fun ip => (length_netstackFormatIpv4 ip).2
  have hip := hlen ip
  have hsubnet := hlen subnet
  have hgateway := hlen gateway
  have hdns := hlen dns
  rw [staticConfigText, snprintfTexts_of_lt]
  · have hmode : cstr "mode static\nip " = configLine (cstr "mode", cstr "static") ++ (cstr "ip" ++ [cchar ' ']) := by decide
    have hkey : cstr "\nsubnet " = cchar '\n' :: (cstr "subnet" ++ [cchar ' ']) ∧
        cstr "\ngateway " = cchar '\n' :: (cstr "gateway" ++ [cchar ' ']) ∧
        cstr "\ndns " = cchar '\n' :: (cstr "dns" ++ [cchar ' ']) ∧ cstr "\n" = [cchar '\n'] := by decide
    rw [hmode, hkey.1, hkey.2.1, hkey.2.2.1, hkey.2.2.2]
    simp [staticEntries, configLine]
  · simp only [List.flatten_cons, List.flatten_nil, List.length_append, List.length_nil]
    omega

omit [Allocator H] in
theorem isConfigWord_staticEntries : ∀ entry ∈ staticEntries ip subnet gateway dns,
    IsConfigWord entry.1 ∧ IsConfigWord entry.2 := by
  have hliteral : IsConfigWord (cstr "mode") ∧ IsConfigWord (cstr "static") ∧ IsConfigWord (cstr "ip") ∧
      IsConfigWord (cstr "subnet") ∧ IsConfigWord (cstr "gateway") ∧ IsConfigWord (cstr "dns") := by
    unfold IsConfigWord
    decide +kernel
  simp [staticEntries, isConfigWord_netstackFormatIpv4, hliteral]

omit [Allocator H] in
theorem configRead_staticConfigText (ip subnet gateway dns : UInt32) :
    networkConfigIsStatic (staticConfigText ip subnet gateway dns) = true ∧
      configReadIp (staticConfigText ip subnet gateway dns) (cstr "ip") = some ip ∧
      configReadIp (staticConfigText ip subnet gateway dns) (cstr "subnet") = some subnet ∧
      configReadIp (staticConfigText ip subnet gateway dns) (cstr "gateway") = some gateway ∧
      configReadIp (staticConfigText ip subnet gateway dns) (cstr "dns") = some dns := by
  have hwords := @isConfigWord_staticEntries ip subnet gateway dns
  have hvalue : ∀ {key value : CStr} {outSize : Nat}, (key, value) ∈ staticEntries ip subnet gateway dns →
      (staticEntries ip subnet gateway dns).find? (·.1 = key) = some (key, value) → 0 < value.length →
      value.length < outSize → configReadValue key outSize (staticConfigText ip subnet gateway dns) = some value := by
    intro key value outSize hmem hfind hpos hlen
    rw [staticConfigText_eq, configReadValue_lines (hwords _ hmem).1 hwords, hfind,
      Option.bind_some, if_neg]
    simp only [not_or]
    omega
  have hip : ∀ {key : CStr} {ip' : UInt32}, (key, netstackFormatIpv4 ip' 24) ∈ staticEntries ip subnet gateway dns →
      (staticEntries ip subnet gateway dns).find? (·.1 = key) = some (key, netstackFormatIpv4 ip' 24) →
      configReadIp (staticConfigText ip subnet gateway dns) key = some ip' := by
    intro key ip' hmem hfind
    obtain ⟨hpos, hle⟩ := length_netstackFormatIpv4 ip'
    rw [configReadIp, hvalue hmem hfind hpos (by omega), Option.bind_eq_bind, Option.bind_some,
      netstackParseIpv4_format]
  refine ⟨?_, hip (by simp [staticEntries]) rfl, hip (by simp [staticEntries]) rfl, hip (by simp [staticEntries]) rfl,
    hip (by simp [staticEntries]) rfl⟩
  rw [networkConfigIsStatic, hvalue (by simp [staticEntries]) rfl (by decide) (by decide)]
  simp

/-- The mask that is saved. -/
def savedSubnet (subnet : UInt32) : UInt32 := if subnet = 0 then defaultStaticSubnet else subnet

/-- The name server that is saved. -/
def savedDns (gateway dns : UInt32) : UInt32 := if dns = 0 then gateway else dns

theorem netstackSaveStaticConfig_file (hsave : netstackSaveStaticConfig v ip subnet gateway dns = (true, w)) :
    ip ≠ 0 ∧ gateway ≠ 0 ∧ w.vfsInitialized = true ∧ (findFreeFile w).isSome ∧
      fileAt w networkConfigPath =
        some (strBytes (staticConfigText ip (savedSubnet subnet) gateway (savedDns gateway dns))) := by
  unfold netstackSaveStaticConfig at hsave
  by_cases hzero : ip = 0 ∨ gateway = 0
  · simp [hzero] at hsave
  · rw [if_neg hzero] at hsave
    dsimp only at hsave
    rw [← savedSubnet, ← savedDns] at hsave
    rw [not_or] at hzero
    obtain ⟨outcome, x, hput⟩ : ∃ outcome x, vfsPut (vfsMkdir v (cstr "/system")).2 networkConfigPath
        (oCreat ||| oWronly ||| oTrunc)
        (strBytes (staticConfigText ip (savedSubnet subnet) gateway (savedDns gateway dns))) = (outcome, x) :=
          ⟨_, _, rfl⟩
    rw [hput] at hsave
    cases outcome with
    | notOpened => simp at hsave
    | notWritten => simp at hsave
    | done =>
        obtain rfl : networkLogLine x (cstr "network: saved static config") = w := by simpa using hsave
        have hdone := congrArg Prod.fst hput
        have hx := congrArg Prod.snd hput
        have hlen :
            (strBytes (staticConfigText ip (savedSubnet subnet) gateway (savedDns gateway dns))).length ≤ 255 := by
          rw [length_strBytes]
          exact List.length_take_le _ _
        have hfile := fileAt_vfsPut_trunc (by decide) (by decide) (by omega) hdone
        have hinit := vfsInitialized_vfsPut (vfsMkdir v (cstr "/system")).2 networkConfigPath (oCreat ||| oWronly ||| oTrunc)
          (strBytes (staticConfigText ip (savedSubnet subnet) gateway (savedDns gateway dns)))
        have hfree := findFreeFile_vfsPut (hdone.trans_ne (show (PutOutcome.done, x).1 ≠ .notOpened by simp))
        rw [hx] at hfile hinit hfree
        obtain ⟨hmounted, hhandle⟩ := mounted_sshAppendLogLine hinit hfree networkLogPath
          (cstr "network: saved static config")
        refine ⟨hzero.1, hzero.2, hmounted, hhandle, ?_⟩
        rw [networkLogLine, fileAt_sshAppendLogLine (by decide) (by decide), show vfsInit x = x from if_pos hinit]
        exact hfile

theorem netstackConfigureStaticFromVfs_saved {n : NetStack H}
    (hsave : netstackSaveStaticConfig v ip subnet gateway dns = (true, n.vfs)) :
    (netstackConfigureStaticFromVfs true n).1 = true ∧
      (netstackConfigureStaticFromVfs true n).2.status.ip = ip ∧
      (netstackConfigureStaticFromVfs true n).2.status.subnet = savedSubnet subnet ∧
      (netstackConfigureStaticFromVfs true n).2.status.gateway = gateway ∧
      (netstackConfigureStaticFromVfs true n).2.status.dns = savedDns gateway dns := by
  obtain ⟨hip, hgateway, hinit, hfree, hfile⟩ := netstackSaveStaticConfig_file hsave
  obtain ⟨hstatic, hreadIp, hreadSubnet, hreadGateway, hreadDns⟩ :=
    configRead_staticConfigText ip (savedSubnet subnet) gateway (savedDns gateway dns)
  have hread := vfsReadText_fileAt hinit hfile hfree (show 2 ≤ 512 by decide)
  have hlen : (staticConfigText ip (savedSubnet subnet) gateway (savedDns gateway dns)).length ≤ 255 :=
    List.length_take_le _ _
  have hpos : (staticConfigText ip (savedSubnet subnet) gateway (savedDns gateway dns)).length ≠ 0 := by
    rw [staticConfigText_eq]
    simp [staticEntries, configLine]
  have hsubnet : savedSubnet subnet ≠ 0 := by
    unfold savedSubnet
    split
    · decide
    · assumption
  have hdns : savedDns gateway dns ≠ 0 := by
    unfold savedDns
    split <;> assumption
  rw [List.take_of_length_le (by rw [length_strBytes]; omega)] at hread
  rw [netstackConfigureStaticFromVfs, hread]
  simp only [Option.getD_some, bytesCstr_strBytes, length_strBytes, hpos, hstatic, hreadIp, hreadGateway, hreadSubnet,
    hreadDns, netstackConfigureIpv4Static, hip, hgateway, hsubnet, hdns, or_self, Bool.not_true, Bool.false_eq_true,
    if_false, ne_eq, not_false_eq_true, if_true, NetStack.setStatus, and_self]

/-- A configuration that is saved is configured from the file, with the defaults in the place of a
mask and a name server of 0; and the parser takes what the formatter prints, with zeros before the
numbers and spaces around. -/
theorem staticConfig_agrees :
    (∀ (v : Vfs H) (ip subnet gateway dns : UInt32), ip = 0 ∨ gateway = 0 →
      netstackSaveStaticConfig v ip subnet gateway dns = (false, v)) ∧
    (∀ (v : Vfs H) (n : NetStack H) (ip subnet gateway dns : UInt32),
      netstackSaveStaticConfig v ip subnet gateway dns = (true, n.vfs) →
        (netstackConfigureStaticFromVfs true n).1 = true ∧
        (netstackConfigureStaticFromVfs true n).2.status.ip = ip ∧
        (netstackConfigureStaticFromVfs true n).2.status.subnet = (if subnet = 0 then defaultStaticSubnet else subnet) ∧
        (netstackConfigureStaticFromVfs true n).2.status.gateway = gateway ∧
        (netstackConfigureStaticFromVfs true n).2.status.dns = (if dns = 0 then gateway else dns)) ∧
    (∀ (text : CStr) (ip : UInt32), netstackParseIpv4 text = some ip ↔
      ∃ i j quad, text = List.replicate i (cchar ' ') ++ (quad ++ List.replicate j (cchar ' ')) ∧
        UpToLeadingZeros quad (netstackFormatIpv4 ip 24)) :=
  ⟨fun _ _ _ _ _ hzero => if_pos hzero, fun _ _ _ _ _ _ hsave => netstackConfigureStaticFromVfs_saved hsave,
    fun _ _ => netstackParseIpv4_iff⟩

end Saved

/-! ### After boot -/

/-- The file system after boot. -/
def sampleConfigVfs : Vfs KernelHeap := vfsInit (bootVfs KernelHeap.boot noDisk bootPersist)

/-- The address 10.0.0.2 behind the gateway 10.0.0.1 is saved after boot. -/
def sampleSave : Bool × Vfs KernelHeap := netstackSaveStaticConfig sampleConfigVfs 0x0a000002 0 0x0a000001 0

/-- The stack after it. -/
def sampleStack : NetStack KernelHeap := ⟨⟨false, false, 0, 0, 0, 0, []⟩, 0, sampleSave.2⟩

theorem sampleSave_done :
    netstackSaveStaticConfig sampleConfigVfs 0x0a000002 0 0x0a000001 0 = (true, sampleStack.vfs) := by
  have hlen : (strBytes (staticConfigText 0x0a000002 0xffffff00 0x0a000001 0x0a000001)).length = 75 := by
    rw [length_strBytes]
    decide +kernel
  have hopened : ¬ (vfsOpen (vfsMkdir sampleConfigVfs (cstr "/system")).2 networkConfigPath
      (oCreat ||| oWronly ||| oTrunc)).1 = none := by decide +kernel
  have hroom : putHasRoom (vfsMkdir sampleConfigVfs (cstr "/system")).2 networkConfigPath
      (oCreat ||| oWronly ||| oTrunc) 75 = true := by decide +kernel
  have hbase : putBase (vfsMkdir sampleConfigVfs (cstr "/system")).2 networkConfigPath
      (oCreat ||| oWronly ||| oTrunc) = [] := if_pos (by decide)
  have hdone : (vfsPut (vfsMkdir sampleConfigVfs (cstr "/system")).2 networkConfigPath (oCreat ||| oWronly ||| oTrunc)
      (strBytes (staticConfigText 0x0a000002 0xffffff00 0x0a000001 0x0a000001))).1 = .done := by
    rw [vfsPut_outcome (by decide +kernel) (by decide) (.inl (by decide)), if_neg hopened, hlen, if_pos (.inr hroom)]
    rw [hbase, hlen]
    decide
  refine Prod.ext ?_ rfl
  rw [netstackSaveStaticConfig, if_neg (by decide)]
  dsimp only
  obtain ⟨outcome, w, hput⟩ : ∃ outcome w, vfsPut (vfsMkdir sampleConfigVfs (cstr "/system")).2 networkConfigPath
      (oCreat ||| oWronly ||| oTrunc) (strBytes (staticConfigText 0x0a000002 0xffffff00 0x0a000001 0x0a000001)) =
        (outcome, w) := ⟨_, _, rfl⟩
  rw [if_pos rfl, if_pos rfl, defaultStaticSubnet, hput]
  rw [hput] at hdone
  obtain rfl : outcome = .done := hdone
  rfl

/-- The saved address is configured, with a mask of 24 bits and the gateway as the name server. -/
theorem staticConfig_agrees_sample : (netstackConfigureStaticFromVfs true sampleStack).2.status.ip = 0x0a000002 ∧
    (netstackConfigureStaticFromVfs true sampleStack).2.status.subnet = 0xffffff00 := by
  obtain ⟨-, hsaved, -⟩ := staticConfig_agrees (H := KernelHeap)
  obtain ⟨-, hip, hsubnet, -, -⟩ := hsaved sampleConfigVfs sampleStack 0x0a000002 0 0x0a000001 0 sampleSave_done
  exact ⟨hip, hsubnet⟩

/-- A mask of 0 does not come back, and a space before a quad is accepted. -/
theorem staticConfig_differs :
    (¬ ∀ (v : Vfs KernelHeap) (n : NetStack KernelHeap) (ip subnet gateway dns : UInt32),
      netstackSaveStaticConfig v ip subnet gateway dns = (true, n.vfs) →
        (netstackConfigureStaticFromVfs true n).2.status.subnet = subnet) ∧
    ¬ ∀ (text : CStr) (ip : UInt32), netstackParseIpv4 text = some ip ↔
      UpToLeadingZeros text (netstackFormatIpv4 ip 24) := by
  constructor
  · intro h
    have hsubnet := (netstackConfigureStaticFromVfs_saved sampleSave_done).2.2.1
    rw [h _ _ _ _ _ _ sampleSave_done] at hsubnet
    revert hsubnet
    decide
  · intro h
    have hspace : netstackParseIpv4 (cstr " 1.2.3.4") = some 0x01020304 := by decide +kernel
    obtain ⟨a, b, c, d, hoctets, hquad, -⟩ := upToLeadingZeros_iff.mp ((h _ _).mp hspace)
    have hhead := congrArg List.head? hquad
    cases a with
    | nil => exact hoctets.1.ne_nil rfl
    | cons x a =>
        obtain rfl : cchar ' ' = x := Option.some.inj hhead
        exact hoctets.1.space_notMem (List.mem_cons_self ..)

end Orizon
