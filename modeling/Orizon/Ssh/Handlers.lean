import Orizon.Ssh.Moves

/-!
# Orizon.Ssh.Handlers

What `ssh_process_packet` does is a sequence of moves (`sshProcessPacket_moves`).

A handler is followed in the order of its tests.  A command is executed only for
a packet that may execute commands, so that the handlers of `CHANNEL_REQUEST`
and `CHANNEL_DATA` carry `SshCommanding` along.
-/

namespace Orizon

/-! ## Administration -/

/-- An administrative command was executed. -/
structure SshAdminEffect (op : SshAdminOp) (s s' : SshState) : Prop where
  trace : s'.trace = .admin op :: s.trace
  asked : s.asked ≤ s'.asked
  listener : s'.listener = s.listener
  remoteBanner : s'.remoteBanner = s.remoteBanner
  clientBannerSeen : s'.clientBannerSeen = s.clientBannerSeen
  link : s'.neg.link = s.neg.link
  channel : s'.neg.channel = s.neg.channel
  authenticated : s'.neg.session.authenticated = true → s.neg.session.authenticated = true
  kex : s'.neg.kex = s.neg.kex ∧ s'.hostkey.material = s.hostkey.material ∨
    s'.neg.kex = { s.neg.kex with hostSignatureReady := false }
  blobOk : s.hostkey.BlobOk → s'.hostkey.BlobOk

theorem SshAdminEffect.ofAuth (op : SshAdminOp) (s : SshState) (auth : SshAuth) :
    SshAdminEffect op s { s.note (.admin op) with auth := auth } :=
  ⟨rfl, Nat.le_refl _, rfl, rfl, rfl, rfl, rfl, id, .inl ⟨rfl, rfl⟩, id⟩

theorem SshAdminEffect.ofHostkey {op : SshAdminOp} {s s' : SshState}
    (h : SshHostkeyMove (s.note (.admin op)) s') : SshAdminEffect op s s' :=
  ⟨h.trace, h.asked, h.listener, h.remoteBanner, h.clientBannerSeen, h.link, h.channel,
    fun ha => by rw [h.session] at ha; exact ha, h.kex, h.blobOk⟩

theorem sshAdmin_effect (env : SshEnv) (op : SshAdminOp) (s : SshState) :
    SshAdminEffect op s (sshAdmin env op s) := by
  have hsame : SshAdminEffect op s (s.note (.admin op)) := .ofAuth op s s.auth
  cases op with
  | setPassword password =>
      unfold sshAdmin sshSetPassword
      dsimp only
      split
      · exact hsame
      · exact .ofAuth _ s _
  | disablePassword =>
      exact ⟨rfl, Nat.le_refl _, rfl, rfl, rfl, rfl, rfl, (fun h => by cases h), .inl ⟨rfl, rfl⟩,
        id⟩
  | reloadConfig =>
      unfold sshAdmin sshLoadConfig
      dsimp only
      split
      · exact ⟨rfl, Nat.le_succ _, rfl, rfl, rfl, rfl, rfl, id, .inl ⟨rfl, rfl⟩, id⟩
      · exact ⟨rfl, Nat.le_succ _, rfl, rfl, rfl, rfl, rfl, id, .inl ⟨rfl, rfl⟩, id⟩
  | clearLockout => exact .ofAuth _ s _
  | setAuthPolicy maxAttempts lockoutSeconds =>
      unfold sshAdmin sshSetAuthPolicy
      dsimp only
      split
      · exact hsame
      · exact .ofAuth _ s _
  | reloadHostkey => exact .ofHostkey (sshLoadHostkeyFile_move env _)
  | resetHostkey => exact .ofHostkey (sshResetHostkey_move env _)

/-! ## Handlers -/

theorem SshHandlerMove.lastPacket_eq {env : SshEnv} {s s' : SshState}
    (h : SshHandlerMove env s s') : lastPacket s'.trace = lastPacket s.trace := by
  cases h with
  | quiet h => rw [h.trace]
  | kexinit => rfl
  | newkeys => rfl
  | kexdh payload =>
      obtain h | h := sshProcessKexdhInit_cases env payload s
      · rw [h.trace]
      · rw [h.trace]
        rfl
  | authFailure => rfl
  | authSuccess => rfl
  | shellOpened => rfl
  | shellClosed => rfl
  | command => rfl
  | admin op =>
      rw [(sshAdmin_effect env op s).trace]
      rfl

theorem SshHandlerMoves.lastPacket_eq {env : SshEnv} {s s' : SshState}
    (h : SshHandlerMoves env s s') : lastPacket s'.trace = lastPacket s.trace := by
  induction h with
  | refl => rfl
  | tail _ hlast ih => exact hlast.lastPacket_eq.trans ih

theorem SshHandlerMoves.commanding {env : SshEnv} {s s' : SshState} (h : SshHandlerMoves env s s')
    (hs : SshCommanding s) : SshCommanding s' := by
  obtain ⟨origin, payload, before, hlast, hon⟩ := hs
  exact ⟨origin, payload, before, h.lastPacket_eq.trans hlast, hon⟩

section Handlers

variable {env : SshEnv} {s : SshState} {payload : List UInt8}

theorem sshQueueChannelText_keeps (text : List UInt8) (ch : SshChannel) :
    ∃ tx off len pending, sshQueueChannelText text ch = { ch with
      channelTx := tx
      channelTxOff := off
      channelLastChunkLen := len
      channelDataPending := pending } := by
  unfold sshQueueChannelText
  dsimp only
  by_cases hpending : ch.channelDataPending = true
  · rw [if_pos hpending, if_pos hpending]
    split
    · exact ⟨_, _, _, _, rfl⟩
    · exact ⟨_, _, _, _, rfl⟩
  · rw [if_neg hpending, if_neg hpending]
    split
    · exact ⟨_, _, _, _, rfl⟩
    · exact ⟨_, _, _, _, rfl⟩

theorem sshQueueTexts_keeps (texts : List (List UInt8)) (ch : SshChannel) :
    ∃ tx off len pending, sshQueueTexts texts ch = { ch with
      channelTx := tx
      channelTxOff := off
      channelLastChunkLen := len
      channelDataPending := pending } := by
  induction texts generalizing ch with
  | nil => exact ⟨_, _, _, _, rfl⟩
  | cons text texts ih =>
      obtain ⟨_, _, _, _, hfirst⟩ := sshQueueChannelText_keeps text ch
      obtain ⟨tx, off, len, pending, hrest⟩ := ih (sshQueueChannelText text ch)
      refine ⟨tx, off, len, pending, hrest.trans ?_⟩
      rw [hfirst]

theorem shellReady_sshQueueChannelText (text : List UInt8) (ch : SshChannel) :
    (sshQueueChannelText text ch).shellReady = ch.shellReady := by
  obtain ⟨_, _, _, _, hkeeps⟩ := sshQueueChannelText_keeps text ch
  rw [hkeeps]

theorem shellReady_sshQueueTexts (texts : List (List UInt8)) (ch : SshChannel) :
    (sshQueueTexts texts ch).shellReady = ch.shellReady := by
  obtain ⟨_, _, _, _, hkeeps⟩ := sshQueueTexts_keeps texts ch
  rw [hkeeps]

theorem output_sshQueueChannelText (text : List UInt8) (ch : SshChannel) :
    Drain.Fills sshOutputMax ch.output (sshQueueChannelText text ch).output := by
  unfold sshQueueChannelText
  dsimp only
  by_cases hpending : ch.channelDataPending = true
  · rw [if_pos hpending, if_pos hpending, List.take_length]
    split
    · exact .refl _ _
    next hroom =>
    refine ⟨.inl ⟨rfl, List.prefix_append _ _⟩, fun _ => ?_⟩
    simp only [SshChannel.output, sshOutputMax, List.length_append, List.length_take]
    omega
  · rw [if_neg hpending, if_neg hpending, if_neg (by decide)]
    refine ⟨.inr rfl, fun _ => ?_⟩
    simp only [SshChannel.output, sshOutputMax, List.take_zero, List.nil_append, List.length_take]
    omega

theorem output_sshQueueTexts (texts : List (List UInt8)) (ch : SshChannel) :
    Drain.Fills sshOutputMax ch.output (sshQueueTexts texts ch).output := by
  induction texts generalizing ch with
  | nil => exact .refl _ _
  | cons text texts ih => exact (output_sshQueueChannelText text ch).trans (ih _)

theorem sshPrint_quiet (env : SshEnv) (s : SshState) : SshQuiet s (sshPrint env s) :=
  (SshQuiet.ask s).trans (.fillChannel (shellReady_sshQueueTexts _ _) (output_sshQueueTexts _ _))

theorem sshShellLine_moves (line : List UInt8) (h : SshCommanding s) :
    SshHandlerMoves env s (sshShellLine env line s) := by
  have hcommand : SshHandlerMoves env s (s.note (.command line)) := .single (.command line s h)
  unfold sshShellLine
  dsimp only
  split
  next op _ =>
    exact (hcommand.tail (.admin op _)).tail (.quiet (sshPrint_quiet env _))
  · exact hcommand.tail (.quiet (sshPrint_quiet env _))

theorem SshQuiet.exitChannel (s : SshState) : SshQuiet s { s with
    neg.channel.channelExitStatusPending := true
    neg.channel.channelClosePending := true } := .ofChannel rfl rfl

theorem SshQuiet.exitCode (s : SshState) (code : UInt32) :
    SshQuiet s { s with neg.channel.channelExitCode := code }.ask :=
  ⟨rfl, Nat.le_succ _, rfl, rfl, rfl, rfl, rfl, rfl, rfl, rfl, rfl, .refl _ _⟩

theorem sshRemoteShellExecute_moves (line : List UInt8) (h : SshCommanding s) :
    SshHandlerMoves env s (sshRemoteShellExecute env line s) := by
  unfold sshRemoteShellExecute
  split
  · exact .quiet (sshPrint_quiet env s)
  have hcode : SshHandlerMoves env s _ :=
    .quiet (.exitCode s (sshExitCode env s s.neg.channel.channelExitCode))
  have hline := hcode.trans (sshShellLine_moves line (hcode.commanding h))
  dsimp only
  split
  · exact hline.tail (.quiet (.exitChannel _))
  · exact hline

theorem sshRemoteExecExecute_moves (command : List UInt8) (h : SshCommanding s) :
    SshHandlerMoves env s (sshRemoteExecExecute env command s) := by
  have hcode : SshHandlerMoves env s _ := .quiet (.exitCode s (sshExitCode env s 0))
  have hline := hcode.trans
    (sshShellLine_moves (cstringBytes (command.take 159)) (hcode.commanding h))
  unfold sshRemoteExecExecute
  exact hline.tail (.quiet (.exitChannel _))

theorem sshAcceptChannel_quiet (wantReply : Bool) (s : SshState) :
    SshQuiet s (sshAcceptChannel wantReply s) := by
  unfold sshAcceptChannel
  split
  · exact .ofChannel rfl rfl
  · exact .refl s

theorem sshFailChannel_quiet (s : SshState) : SshQuiet s (sshFailChannel s) := .ofChannel rfl rfl

theorem sshExecRequest_moves (off : Nat) (wantReply : Bool) (h : SshCommanding s) :
    SshHandlerMoves env s (sshExecRequest env payload off wantReply s) := by
  unfold sshExecRequest
  split
  next command _ _ =>
    have haccept : SshHandlerMoves env s _ := .quiet (sshAcceptChannel_quiet wantReply s)
    exact haccept.trans (sshRemoteExecExecute_moves command (haccept.commanding h))
  · split
    · exact .quiet (sshFailChannel_quiet s)
    · exact .refl

theorem sshProcessChannelRequest_moves
    (h : s.neg.session.authenticated = true → SshCommanding s) :
    SshHandlerMoves env s (sshProcessChannelRequest env payload s) := by
  unfold sshProcessChannelRequest
  split
  · exact .refl
  next hopen =>
  have hauth : s.neg.session.authenticated = true := by
    cases hs : s.neg.session.authenticated with
    | true => rfl
    | false => exact absurd (.inl hs) hopen
  split
  · exact .quiet (sshFailChannel_quiet s)
  split
  · exact .quiet (sshFailChannel_quiet s)
  next request off _ =>
  split
  · exact .quiet (sshFailChannel_quiet s)
  dsimp only
  split
  · exact .quiet (sshAcceptChannel_quiet _ s)
  split
  · exact ((Relation.ReflTransGen.single (.shellOpened s hauth)).tail
      (.quiet (sshAcceptChannel_quiet _ _))).tail (.quiet (sshPrint_quiet env _))
  split
  · exact sshExecRequest_moves _ _ (h hauth)
  split
  · exact .quiet (sshFailChannel_quiet s)
  · exact .refl

theorem sshEcho_quiet (text : List UInt8) (s : SshState) : SshQuiet s (sshEcho text s) :=
  .fillChannel (shellReady_sshQueueChannelText _ _) (output_sshQueueChannelText _ _)

theorem SshQuiet.echo {s t : SshState} (h : SshQuiet s t) (text : List UInt8) :
    SshQuiet s (sshEcho text t) := h.trans (sshEcho_quiet text t)

theorem sshShellEnter_moves (ch : UInt8) (h : SshCommanding s) :
    SshHandlerMoves env s (sshShellEnter env ch s) := by
  unfold sshShellEnter
  split
  · exact .quiet (.ofChannel rfl rfl)
  have hcr : SshQuiet s { s with neg.channel.shellLastWasCr := ch == 0x0d } := .ofChannel rfl rfl
  have hecho : SshHandlerMoves env s _ := .quiet (hcr.echo [0x0d, 0x0a])
  exact (hecho.trans (sshRemoteShellExecute_moves _ (hecho.commanding h))).tail
    (.quiet (.ofChannel rfl rfl))

theorem sshShellType_quiet (ch : UInt8) (s : SshState) : SshQuiet s (sshShellType ch s) := by
  have hcr : SshQuiet s { s with neg.channel.shellLastWasCr := false } := .ofChannel rfl rfl
  unfold sshShellType
  dsimp only
  split
  · split
    · refine .echo ?_ _
      exact .ofChannel rfl rfl
    · exact hcr
  split
  · split
    · refine .echo ?_ _
      exact .ofChannel rfl rfl
    · exact .ofChannel rfl rfl
  · exact hcr

theorem sshShellByte_moves (ch : UInt8) (h : SshCommanding s) :
    SshHandlerMoves env s (sshShellByte env s ch) := by
  unfold sshShellByte
  split
  · exact sshShellEnter_moves ch h
  · exact .quiet (sshShellType_quiet ch s)

theorem sshShellBytes_moves (data : List UInt8) (h : SshCommanding s) :
    SshHandlerMoves env s (data.foldl (sshShellByte env) s) := by
  induction data generalizing s with
  | nil => exact .refl
  | cons ch data ih =>
      have hbyte : SshHandlerMoves env s _ := sshShellByte_moves ch h
      exact hbyte.trans (ih (hbyte.commanding h))

theorem sshProcessChannelData_moves (h : s.neg.channel.shellReady = true → SshCommanding s) :
    SshHandlerMoves env s (sshProcessChannelData env payload s) := by
  unfold sshProcessChannelData
  split
  · exact .refl
  next hopen =>
  have hready : s.neg.channel.shellReady = true := by
    cases hs : s.neg.channel.shellReady with
    | true => rfl
    | false => exact absurd (.inl hs) hopen
  split
  · exact .refl
  split
  · exact .refl
  next data _ _ => exact sshShellBytes_moves data (h hready)

theorem sshProcessChannelOpen_moves :
    SshHandlerMoves env s (sshProcessChannelOpen payload s) := by
  unfold sshProcessChannelOpen sshChannelOpen
  split
  · exact .quiet (.ofChannel rfl rfl)
  split
  · exact .quiet (.ofChannel rfl rfl)
  dsimp only
  split
  · have hclosed : SshHandlerMoves env s _ := .single (.shellClosed s)
    refine hclosed.tail (.quiet ?_)
    exact .fillChannel rfl ⟨.inr rfl, fun _ => Nat.zero_le _⟩
  · exact .quiet (.ofChannel rfl rfl)

/-! ### USERAUTH_REQUEST -/

theorem sshRefuseAuth_quiet (s : SshState) : SshQuiet s (sshRefuseAuth s) := .ofSession rfl

/-- What `ssh_process_userauth_request` reads is on the wire. -/
theorem sshReadUserauth_sound {user service method : List UInt8} {off : Nat}
    (h : sshReadUserauth payload = some (user, service, method, off)) :
    payload.drop 1 = sshPutU32 (UInt32.ofNat user.length) ++ user ++
      (sshPutU32 (UInt32.ofNat service.length) ++ service ++
        (sshPutU32 (UInt32.ofNat method.length) ++ method ++ payload.drop off)) := by
  unfold sshReadUserauth at h
  cases huser : sshReadString payload 1 with
  | none => simp [huser] at h
  | some u =>
      obtain ⟨user', off1⟩ := u
      simp only [huser] at h
      cases hservice : sshReadString payload off1 with
      | none => simp [hservice] at h
      | some v =>
          obtain ⟨service', off2⟩ := v
          simp only [hservice] at h
          cases hmethod : sshReadString payload off2 with
          | none => simp [hmethod] at h
          | some w =>
              obtain ⟨method', off3⟩ := w
              simp only [hmethod, Option.some.injEq, Prod.mk.injEq] at h
              obtain ⟨rfl, rfl, rfl, rfl⟩ := h
              rw [(sshReadString_sound huser).1, (sshReadString_sound hservice).1,
                (sshReadString_sound hmethod).1]

/-- A password that is accepted is in a request as `SshAccepts` says. -/
theorem sshAccepts_of_read {auth : SshAuth} {now : UInt64} {off off' : Nat}
    {rest password : List UInt8}
    (hread : sshReadUserauth (50 :: rest) =
      some (asciiBytes "orizon", asciiBytes "ssh-connection", asciiBytes "password", off))
    (hoff : off < (50 :: rest).length) (hflag : (50 :: rest).getD off 0 = 0)
    (hpassword : sshReadString (50 :: rest) (off + 1) = some (password, off'))
    (hconfigured : auth.authConfigured = true) (hlockout : auth.authLockoutUntil ≤ now)
    (hhash : sha256BufferHex password = auth.passwordSha256) :
    SshAccepts auth now (50 :: rest) := by
  have hfields := sshReadUserauth_sound hread
  have hpass := (sshReadString_sound hpassword).1
  have hsplit : (50 :: rest).drop off = 0 :: (50 :: rest).drop (off + 1) := by
    rw [List.drop_eq_getElem_cons hoff]
    congr 1
    rw [← hflag, List.getD_eq_getElem?_getD, List.getElem?_eq_getElem hoff, Option.getD_some]
  generalize (50 :: rest).drop off' = tail at hpass
  refine ⟨hconfigured, hlockout, password, tail, hhash, ?_⟩
  rw [List.drop_succ_cons, List.drop_zero] at hfields
  rw [hfields, hsplit, hpass]
  simp only [List.append_assoc, List.cons_append]
  rfl

theorem sshProcessPassword_moves {off : Nat} {now : UInt64} {rest : List UInt8}
    (hpacket : ∃ origin before, lastPacket s.trace = some (origin, 50 :: rest, before))
    (hread : sshReadUserauth (50 :: rest) =
      some (asciiBytes "orizon", asciiBytes "ssh-connection", asciiBytes "password", off))
    (hlockout : s.auth.authLockoutUntil ≤ now)
    (hnow : ∃ i, i ≤ s.asked ∧ now = env.ticks i / 100) :
    SshHandlerMoves env s (sshProcessPassword env (50 :: rest) off now s) := by
  unfold sshProcessPassword
  split
  · exact .single (.authFailure none s (by simp))
  next hoff =>
  split
  · exact .quiet (sshRefuseAuth_quiet s)
  next password off' hpassword =>
  split
  · exact .quiet (sshRefuseAuth_quiet s)
  next hopen =>
  rw [not_or, not_not] at hopen
  have hconfigured : s.auth.authConfigured = true := by simpa using hopen.2
  split
  next hhash =>
    exact .single (.authSuccess _ now s hpacket hnow (sshAccepts_of_read hread (by omega) hopen.1
      hpassword hconfigured hlockout hhash))
  · refine .single (.authFailure (some now) s ?_)
    rintro t ⟨rfl⟩
    exact ⟨hlockout, hnow⟩

theorem sshProcessUserauthRequest_moves {rest : List UInt8}
    (hpacket : ∃ origin before, lastPacket s.trace = some (origin, 50 :: rest, before)) :
    SshHandlerMoves env s (sshProcessUserauthRequest env (50 :: rest) s) := by
  have hask : SshHandlerMoves env s s.ask := .quiet (.ask s)
  unfold sshProcessUserauthRequest
  split
  · exact .single (.authFailure none s (by simp))
  next user service method off hread =>
  split
  · exact hask.tail (.quiet (sshRefuseAuth_quiet _))
  next hlocked =>
  have hlockout : s.auth.authLockoutUntil ≤ timerUptimeSeconds env s := by
    by_contra hlt
    unfold sshLockoutRemaining at hlocked
    dsimp only at hlocked
    rw [if_neg hlt] at hlocked
    have hle := UInt64.le_iff_toNat_le.not.mp hlt
    have hsub := UInt64.toNat_sub_of_le _ _ (UInt64.le_iff_toNat_le.mpr (Nat.le_of_not_le hle))
    refine hlocked (UInt64.lt_iff_toNat_lt.mpr ?_)
    rw [hsub]
    have h0 : (0 : UInt64).toNat = 0 := rfl
    omega
  split
  · exact hask.tail (.authFailure none _ (by simp))
  next hnames =>
  rw [not_or, not_not, not_not] at hnames
  obtain ⟨rfl, rfl⟩ := hnames
  split
  · exact hask.tail (.quiet (sshRefuseAuth_quiet _))
  split
  next hmethod =>
    subst hmethod
    exact hask.trans (sshProcessPassword_moves hpacket hread hlockout
      ⟨s.asked, Nat.le_succ _, rfl⟩)
  · exact hask.tail (.quiet (sshRefuseAuth_quiet _))

/-! ### The dispatcher -/

theorem SshCommanding.ofPacket {origin : SshOrigin} {older : List SshEvent}
    (hpacket : s.trace = .packet origin payload s.neg :: older)
    (h : sshCommandsOn payload s.neg = true) : SshCommanding s :=
  ⟨origin, payload, s.neg, by rw [hpacket, lastPacket], h⟩

theorem sshProcessServiceRequest_quiet (payload : List UInt8) (s : SshState) :
    SshQuiet s (sshProcessServiceRequest payload s) := by
  unfold sshProcessServiceRequest
  split
  · exact .refl s
  split
  · exact .ofSession rfl
  · exact .refl s

theorem sshProcessChannelClose_quiet (s : SshState) : SshQuiet s (sshProcessChannelClose s) := by
  unfold sshProcessChannelClose
  split
  · exact .refl s
  · exact .ofChannel rfl rfl

theorem sshDispatch_moves {origin : SshOrigin} {type : UInt8} {rest : List UInt8}
    {older : List SshEvent} (hpacket : s.trace = .packet origin (type :: rest) s.neg :: older) :
    SshHandlerMoves env s (sshDispatch env type (type :: rest) s) := by
  have hhandling : SshHandling type (type :: rest) s := ⟨rfl, origin, older, hpacket⟩
  unfold sshDispatch
  split
  next h => subst h; exact .single (.kexinit _ s hhandling)
  split
  next h => subst h; exact .single (.newkeys _ s hhandling)
  split
  next h => subst h; exact .single (.kexdh _ s hhandling)
  split
  · exact .quiet (sshProcessServiceRequest_quiet _ s)
  split
  next h =>
    subst h
    exact sshProcessUserauthRequest_moves ⟨origin, s.neg, by rw [hpacket, lastPacket]⟩
  split
  · exact sshProcessChannelOpen_moves
  split
  next h => subst h; exact sshProcessChannelRequest_moves fun h => .ofPacket hpacket h
  split
  next h => subst h; exact sshProcessChannelData_moves fun h => .ofPacket hpacket h
  split
  · exact .quiet (sshProcessChannelClose_quiet s)
  · exact .refl

end Handlers

/-! ## Reception -/

/-- A packet is handled without a change of the listener, and the receiving side stays
encrypted. -/
structure SshHandlerFrame (s s' : SshState) : Prop where
  listener : s'.listener = s.listener
  inEncrypted : s.neg.link.inEncrypted = true → s'.neg.link.inEncrypted = true

theorem SshHandlerMove.frame {env : SshEnv} {s s' : SshState} (h : SshHandlerMove env s s') :
    SshHandlerFrame s s' := by
  cases h with
  | quiet h =>
      refine ⟨h.listener, fun hin => ?_⟩
      have hlink := congrArg SshLink.inEncrypted h.link
      exact hlink.trans hin
  | kexinit => exact ⟨rfl, id⟩
  | newkeys => exact ⟨rfl, fun _ => rfl⟩
  | kexdh payload =>
      obtain h | h := sshProcessKexdhInit_cases env payload s
      · exact ⟨h.listener, fun hin => by rw [h.link, hin]⟩
      · obtain ⟨kBlob, kex, hlink⟩ := h.derived
        exact ⟨h.listener, fun hin => by rw [hlink]; exact hin⟩
  | authFailure => exact ⟨rfl, id⟩
  | authSuccess => exact ⟨rfl, id⟩
  | shellOpened => exact ⟨rfl, id⟩
  | shellClosed => exact ⟨rfl, id⟩
  | command => exact ⟨rfl, id⟩
  | admin op =>
      have h := sshAdmin_effect env op s
      exact ⟨h.listener, fun hin => by rw [h.link, hin]⟩

theorem SshHandlerMoves.frame {env : SshEnv} {s s' : SshState} (h : SshHandlerMoves env s s') :
    SshHandlerFrame s s' := by
  induction h with
  | refl => exact ⟨rfl, id⟩
  | tail _ hlast ih =>
      exact ⟨hlast.frame.listener.trans ih.listener, hlast.frame.inEncrypted ∘ ih.inEncrypted⟩

/-- Moves that leave the listener as it is. -/
structure SshServes (env : SshEnv) (s s' : SshState) : Prop where
  moves : SshMoves env s s'
  listener : s'.listener = s.listener

theorem SshServes.refl {env : SshEnv} (s : SshState) : SshServes env s s := ⟨.refl, rfl⟩

theorem SshServes.trans {env : SshEnv} {s t u : SshState} (h : SshServes env s t)
    (h' : SshServes env t u) : SshServes env s u :=
  ⟨h.moves.trans h'.moves, h'.listener.trans h.listener⟩

theorem SshServes.quiet {env : SshEnv} {s s' : SshState} (h : SshQuiet s s') :
    SshServes env s s' := ⟨.quiet h, h.listener⟩

theorem SshServes.hasPeer {env : SshEnv} {s s' : SshState} (h : SshServes env s s')
    (hpeer : s.server.HasPeer) : s'.server.HasPeer := by
  have hserver : s'.server = s.server := congrArg (·.2.1) h.listener
  rwa [hserver]

end Orizon
