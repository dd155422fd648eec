import Orizon.Ssh.Session

/-!
# Orizon.Ssh.Guard

What the packets that authenticate and execute commands were protected by.

The sending side encrypts with traffic keys or does not send at all
(`sshBuildEncryptedPacket`).  The receiving side has no such test: a `NEWKEYS`
switches it, whether keys were derived or not, and before that the dispatcher
serves packets in clear.  So whether what is acted upon was verified depends on
the state the packets find: the receiving side encrypted, by `NEWKEYS` that came
after the keys (`sshRun_secure_iff`).
-/

namespace Orizon

/-! ## Keys -/

/-- The keys were derived on the current connection, by a `KEXDH_INIT`. -/
def SshKeyed (keyC2s : AesBlock) (macC2s : Sha256Digest) : List SshEvent → Prop :=
  Since SshEvent.Restarts fun e older => ∃ link origin payload before rest,
    e = .keysDerived link ∧ link.keyC2s = keyC2s ∧ link.macC2s = macC2s ∧
      older = .packet origin (30 :: payload) before :: rest

/-- A `NEWKEYS` that satisfies `p`, with its past, was handled on the current
connection. -/
def SshNewkeysSince (p : SshLink → List SshEvent → Prop) : List SshEvent → Prop :=
  Since SshEvent.Restarts fun e older => ∃ origin payload before,
    e = .packet origin (21 :: payload) before ∧ p before.link older

/-- The packet was encrypted and its code verified, under traffic keys derived on the
current connection, and no `NEWKEYS` of the connection came without keys. -/
structure SshVerified (origin : SshOrigin) (payload : List UInt8) (before : SshNegotiation)
    (older : List SshEvent) : Prop where
  code : ∃ plain mac payloadLen, origin = .sealed plain mac ∧
    payload = (plain.drop 5).take payloadLen ∧
    (sshMacPacket before.link.macC2s before.link.seqIn plain).toList = mac
  keyed : SshKeyed before.link.keyC2s before.link.macC2s older
  newkeys : ¬ SshNewkeysSince (fun _ past => ∀ keyC2s macC2s, ¬ SshKeyed keyC2s macC2s past) older

/-- A message that is acted upon is a verified packet, and so is the packet for which a
password is accepted or a command executed. -/
structure SshSecure (trace : List SshEvent) : Prop where
  packets : ∀ newer origin payload before older,
    trace = newer ++ .packet origin payload before :: older → sshActsOn payload before = true →
      SshVerified origin payload before older
  passwords : ∀ newer payload auth now older, trace = newer ++ .authSuccess payload auth now :: older →
    ∃ mid origin before rest, older = mid ++ .packet origin payload before :: rest ∧
      (∀ e ∈ mid, ¬ e.Restarts) ∧ SshVerified origin payload before rest
  commands : ∀ newer line older, trace = newer ++ .command line :: older →
    ∃ mid origin payload before rest, older = mid ++ .packet origin payload before :: rest ∧
      (∀ e ∈ mid, ¬ e.Restarts) ∧ SshVerified origin payload before rest

/-- What is acted upon finds the receiving side encrypted, by `NEWKEYS` that found the
traffic keys ready. -/
def SshGuarded (trace : List SshEvent) : Prop :=
  ∀ newer origin payload before older,
    trace = newer ++ .packet origin payload before :: older → sshActsOn payload before = true →
      before.link.inEncrypted = true ∧
        ¬ SshNewkeysSince (fun link _ => link.trafficKeysReady = false) older

/-! ## The keys of a state -/

variable {env : SshEnv} {s s' : SshState} {trace older : List SshEvent} {e : SshEvent}
  {link link' : SshLink} {keyC2s : AesBlock} {macC2s : Sha256Digest}

/-- What the flags and the keys of the receiving side say of the connection. -/
structure SshLinkFacts (link : SshLink) (trace : List SshEvent) : Prop where
  keyed : link.trafficKeysReady = true → SshKeyed link.keyC2s link.macC2s trace
  ready : ∀ keyC2s macC2s, SshKeyed keyC2s macC2s trace → link.trafficKeysReady = true
  newkeys : link.inEncrypted = true → SshNewkeysSince (fun _ _ => True) trace

/-- The event is not one of those that change the keys. -/
def SshEvent.Keyless : SshEvent → Prop
  | .connect | .reset | .keysDerived _ => False
  | _ => True

theorem SshEvent.Keyless.not_restarts (h : e.Keyless) : ¬ e.Restarts := by
  cases e with
  | connect | reset => exact h.elim
  | _ => exact id

theorem SshKeyed.cons (h : SshKeyed keyC2s macC2s trace) (he : ¬ e.Restarts) :
    SshKeyed keyC2s macC2s (e :: trace) := Since.cons h he

theorem SshKeyed.of_keyless (h : SshKeyed keyC2s macC2s (e :: trace)) (he : e.Keyless) :
    SshKeyed keyC2s macC2s trace := by
  obtain ⟨link, -, -, -, -, rfl, -⟩ | ⟨-, hrest⟩ := h
  · exact he.elim
  · exact hrest

/-- The flags and the keys of the receiving side. -/
def SshLink.receiving (link : SshLink) : Bool × Bool × AesBlock × Sha256Digest :=
  (link.inEncrypted, link.trafficKeysReady, link.keyC2s, link.macC2s)

theorem SshLink.receiving_of_core (h : link'.core = link.core) :
    link'.receiving = link.receiving := (congrArg SshLink.receiving h :)

theorem SshLinkFacts.congr (h : SshLinkFacts link trace) (hlink : link'.receiving = link.receiving) :
    SshLinkFacts link' trace := by
  simp only [SshLink.receiving, Prod.mk.injEq] at hlink
  obtain ⟨hin, hready, hkey, hmac⟩ := hlink
  refine ⟨?_, ?_, ?_⟩
  · rw [hready, hkey, hmac]
    exact h.keyed
  · rw [hready]
    exact h.ready
  · rw [hin]
    exact h.newkeys

theorem SshLinkFacts.keyless (h : SshLinkFacts link trace) (he : e.Keyless) :
    SshLinkFacts link (e :: trace) :=
  ⟨fun hready => (h.keyed hready).cons he.not_restarts,
    fun keyC2s macC2s hkeyed => h.ready keyC2s macC2s (hkeyed.of_keyless he),
    fun hin => Since.cons (h.newkeys hin) he.not_restarts⟩

theorem SshLinkFacts.fresh (older : List SshEvent) : SshLinkFacts {} (.reset :: older) := by
  refine ⟨(fun h => by cases h), fun keyC2s macC2s h => ?_, (fun h => by cases h)⟩
  obtain ⟨link, -, -, -, -, h, -⟩ | ⟨h, -⟩ := h
  · cases h
  · exact absurd trivial h

theorem SshLinkFacts.derived {origin : SshOrigin} {payload kBlob : List UInt8} {kex : SshKex}
    {before : SshNegotiation} {rest : List SshEvent} (h : SshLinkFacts link trace)
    (hpacket : trace = .packet origin (30 :: payload) before :: rest) :
    SshLinkFacts (sshTrafficKeys kBlob kex link)
      (.keysDerived (sshTrafficKeys kBlob kex link) :: trace) :=
  ⟨fun _ => .inl ⟨_, origin, payload, before, rest, rfl, rfl, rfl, hpacket⟩, fun _ _ _ => rfl,
    fun hin => Since.cons (h.newkeys hin) id⟩

/-! ## The invariant -/

/-- What the run says of its packets: each came in as its origin says, and found flags
and keys that say what happened on its connection. -/
def SshPacketPast (e : SshEvent) (older : List SshEvent) : Prop :=
  ∀ origin payload before, e = .packet origin payload before →
    origin.Fits before.link payload ∧ SshLinkFacts before.link older

/-- The packet that came last, on the current connection, is acted upon. -/
def SshActsLast (payload : List UInt8) (trace : List SshEvent) : Prop :=
  ∃ session origin before, SshOnConnection session trace ∧
    lastPacket trace = some (origin, payload, before) ∧ sshActsOn payload before = true

/-- A password is accepted, and a command executed, for a packet that is acted upon. -/
def SshActsPast (e : SshEvent) (older : List SshEvent) : Prop :=
  (∀ payload auth now, e = .authSuccess payload auth now → SshActsLast payload older) ∧
    ∀ line, e = .command line → ∃ payload, SshActsLast payload older

/-- The invariant. -/
structure SshKeyInv (s : SshState) : Prop where
  link : SshLinkFacts s.neg.link s.trace
  packets : History SshPacketPast s.trace
  acts : History SshActsPast s.trace

/-- The event is none that the invariant is about. -/
def SshEvent.Idle : SshEvent → Prop
  | .authFailure .. | .received _ | .sent .. | .admin _ => True
  | _ => False

theorem SshEvent.Idle.keyless (he : e.Idle) : e.Keyless := by
  cases e with
  | connect | reset | keysDerived => exact he.elim
  | _ => trivial

theorem SshEvent.Idle.packetPast (he : e.Idle) : SshPacketPast e older := by
  rintro origin payload before rfl
  exact he.elim

theorem SshEvent.Idle.actsPast (he : e.Idle) : SshActsPast e older := by
  refine ⟨?_, ?_⟩
  · rintro payload auth now rfl
    exact he.elim
  · rintro line rfl
    exact he.elim

/-! ## Steps -/

theorem SshKeyInv.still (h : SshKeyInv s) (htrace : s'.trace = s.trace)
    (hlink : s'.neg.link.receiving = s.neg.link.receiving) : SshKeyInv s' :=
  ⟨htrace ▸ h.link.congr hlink, htrace ▸ h.packets, htrace ▸ h.acts⟩

theorem SshKeyInv.event (h : SshKeyInv s) (htrace : s'.trace = e :: s.trace) (he : e.Keyless)
    (hlink : s'.neg.link.receiving = s.neg.link.receiving) (hpacket : SshPacketPast e s.trace)
    (hacts : SshActsPast e s.trace) : SshKeyInv s' := by
  refine ⟨?_, ?_, ?_⟩
  · rw [htrace]
    exact (h.link.keyless he).congr hlink
  · rw [htrace]
    exact ⟨hpacket, h.packets⟩
  · rw [htrace]
    exact ⟨hacts, h.acts⟩

theorem SshKeyInv.idle (h : SshKeyInv s) (htrace : s'.trace = e :: s.trace) (he : e.Idle)
    (hlink : s'.neg.link.receiving = s.neg.link.receiving) : SshKeyInv s' :=
  h.event htrace he.keyless hlink he.packetPast he.actsPast

theorem SshKeyInv.reset (hneg : s'.neg = {}) (htrace : s'.trace = .reset :: older)
    (hpackets : History SshPacketPast older) (hacts : History SshActsPast older) :
    SshKeyInv s' := by
  refine ⟨?_, ?_, ?_⟩
  · rw [hneg, htrace]
    exact .fresh older
  · rw [htrace]
    exact ⟨(by rintro origin payload before h; cases h), hpackets⟩
  · rw [htrace]
    exact ⟨⟨(by rintro payload auth now h; cases h), (by rintro line h; cases h)⟩, hacts⟩

/-- The client's `NEWKEYS` is handled. -/
theorem SshKeyInv.newkeys {payload : List UInt8} (h : SshKeyInv s)
    (hhandling : SshHandling 21 payload s) : SshKeyInv (sshProcessNewkeys s) := by
  obtain ⟨hhead, origin, older, htrace⟩ := hhandling
  obtain ⟨rest, rfl⟩ : ∃ rest, payload = 21 :: rest := by
    cases payload with
    | nil => cases hhead
    | cons type rest => exact ⟨rest, by rw [Option.some.inj hhead]⟩
  refine ⟨⟨h.link.keyed, h.link.ready, fun _ => ?_⟩, h.packets, h.acts⟩
  show SshNewkeysSince (fun _ _ => True) s.trace
  rw [htrace]
  exact .inl ⟨origin, rest, s.neg, rfl, trivial⟩

/-- A `KEXDH_INIT` derives the keys, or leaves them. -/
theorem SshKeyInv.kexdh {payload : List UInt8} (h : SshKeyInv s)
    (hhandling : SshHandling 30 payload s) : SshKeyInv (sshProcessKexdhInit env payload s) := by
  obtain hkex | hkeys := sshProcessKexdhInit_cases env payload s
  · exact h.still hkex.trace (congrArg SshLink.receiving hkex.link)
  obtain ⟨hhead, origin, older, htrace⟩ := hhandling
  obtain ⟨rest, rfl⟩ : ∃ rest, payload = 30 :: rest := by
    cases payload with
    | nil => cases hhead
    | cons type rest => exact ⟨rest, by rw [Option.some.inj hhead]⟩
  obtain ⟨kBlob, kex, hlink⟩ := hkeys.derived
  refine ⟨?_, ?_, ?_⟩
  · rw [hkeys.trace, hlink]
    exact h.link.derived htrace
  · rw [hkeys.trace]
    exact ⟨(by rintro origin payload before h; cases h), h.packets⟩
  · rw [hkeys.trace]
    exact ⟨⟨(by rintro payload auth now h; cases h), (by rintro line h; cases h)⟩, h.acts⟩

theorem SshAccepts.actsOn {auth : SshAuth} {now : UInt64} {payload : List UInt8}
    (h : SshAccepts auth now payload) (before : SshNegotiation) :
    sshActsOn payload before = true := by
  obtain ⟨-, -, password, rest, -, rfl⟩ := h
  simp [sshActsOn]

theorem SshKeyInv.handler (h : SshKeyInv s) (hsession : SshSessionInv env s)
    (hmove : SshHandlerMove env s s') : SshKeyInv s' := by
  cases hmove with
  | quiet hquiet => exact h.still hquiet.trace (SshLink.receiving_of_core hquiet.link)
  | kexinit => exact h.still rfl rfl
  | newkeys payload _ hhandling => exact h.newkeys hhandling
  | kexdh payload _ hhandling => exact h.kexdh hhandling
  | authFailure => exact h.idle (e := .authFailure ..) rfl trivial rfl
  | authSuccess payload now _ hpacket _ haccepts =>
      obtain ⟨origin, before, hlast⟩ := hpacket
      obtain ⟨session, hon⟩ := hsession.packet _ hlast
      refine h.event (e := .authSuccess payload s.auth now) rfl trivial rfl ?_ ⟨?_, ?_⟩
      · rintro origin payload before he
        cases he
      · rintro payload auth now ⟨⟩
        exact ⟨session, origin, before, hon, hlast, haccepts.actsOn before⟩
      · rintro line he
        cases he
  | shellOpened => exact h.still rfl rfl
  | shellClosed => exact h.still rfl rfl
  | command line _ hcommanding =>
      obtain ⟨origin, payload, before, hlast, hcommands⟩ := hcommanding
      obtain ⟨session, hon⟩ := hsession.packet _ hlast
      refine h.event (e := .command line) rfl trivial rfl ?_ ⟨?_, ?_⟩
      · rintro origin payload before he
        cases he
      · rintro payload auth now he
        cases he
      · refine fun _ _ => ⟨payload, session, origin, before, hon, hlast, ?_⟩
        rw [sshActsOn, hcommands, Bool.or_true]
  | admin op =>
      have heffect := sshAdmin_effect env op s
      exact h.idle heffect.trace trivial (congrArg SshLink.receiving heffect.link)

theorem sshCommitTx_receiving (kind : SshTxKind) (tx : List UInt8) (s : SshState) :
    (sshCommitTx env kind tx s).neg.link.receiving = s.neg.link.receiving := by
  have hctr : (sshCommitCtr s.neg.link).receiving = s.neg.link.receiving := by
    unfold sshCommitCtr
    dsimp only
    split
    · rfl
    · rfl
  cases kind with
  | banner | kexinit | disconnect | ecdhReply | newkeys => rfl
  | _ => exact hctr

theorem SshKeyInv.move (h : SshKeyInv s) (hsession : SshSessionInv env s)
    (hmove : SshMove env s s') : SshKeyInv s' := by
  cases hmove with
  | handler hmove => exact h.handler hsession hmove
  | server => exact h.still rfl rfl
  | packet origin payload _ hfits =>
      refine h.event (e := .packet origin payload s.neg) rfl trivial rfl ?_ ⟨?_, ?_⟩
      · rintro origin payload before ⟨⟩
        exact ⟨hfits, h.link⟩
      · rintro payload auth now he
        cases he
      · rintro line he
        cases he
  | openCtr => exact h.still rfl rfl
  | received data =>
      obtain ⟨banner, seen, len, hframe⟩ := sshReceived_frame data s
      rw [hframe]
      exact h.idle (e := .received data) rfl trivial rfl
  | hostkey hkey => exact h.still hkey.trace (congrArg SshLink.receiving hkey.link)
  | kexinitBuilt => exact h.still rfl rfl
  | sent kind tx =>
      exact h.idle (sshCommitTx_trace env kind tx s) trivial (sshCommitTx_receiving kind tx s)
  | loadConfig =>
      refine h.still (sshLoadConfig_lockout env s).2 ?_
      unfold sshLoadConfig
      split
      · rfl
      · rfl
  | reset hreset => exact .reset hreset.neg hreset.trace h.packets h.acts
  | connect hconnect =>
      refine .reset hconnect.neg hconnect.trace ⟨?_, h.packets⟩ ⟨⟨?_, ?_⟩, h.acts⟩
      · rintro origin payload before he
        cases he
      · rintro payload auth now he
        cases he
      · rintro line he
        cases he

theorem sshRun_keyInv (env : SshEnv) (calls : List SshCall) : SshKeyInv (sshRun env calls) := by
  refine (sshRun_invariant env (fun s => SshSessionInv env s ∧ SshKeyInv s) ⟨?_, ?_⟩ ?_ calls).2
  · exact sshRun_sessionInv env []
  · exact ⟨⟨(fun h => by cases h), (fun _ _ h => absurd h not_since_nil), (fun h => by cases h)⟩,
      trivial, trivial⟩
  · exact fun s s' h hmove => ⟨h.1.move hmove, h.2.move h.1 hmove⟩

/-! ## What is acted upon -/

/-- Keys that were derived before an event of the connection are derived now. -/
theorem SshNewkeysSince.keyed (h : SshNewkeysSince (fun link _ => link.trafficKeysReady = true) trace)
    (hpast : History SshPacketPast trace) : ∃ keyC2s macC2s, SshKeyed keyC2s macC2s trace := by
  have hkeyed : SshNewkeysSince
      (fun _ past => ∃ keyC2s macC2s, SshKeyed keyC2s macC2s past) trace := by
    refine h.mono_history hpast ?_
    rintro e older hpacket ⟨origin, payload, before, rfl, hready⟩
    exact ⟨origin, payload, before, rfl, _, _, (hpacket origin _ before rfl).2.keyed hready⟩
  refine hkeyed.persists (P := fun trace => ∃ keyC2s macC2s, SshKeyed keyC2s macC2s trace) ?_ ?_
  · rintro e older ⟨origin, payload, before, rfl, keyC2s, macC2s, h⟩
    exact ⟨keyC2s, macC2s, h.cons id⟩
  · rintro e older he ⟨keyC2s, macC2s, h⟩
    exact ⟨keyC2s, macC2s, h.cons he⟩

/-- A `NEWKEYS` came without keys if it found them not ready. -/
theorem sshNewkeysSince_hasty (hpast : History SshPacketPast trace) :
    SshNewkeysSince (fun _ past => ∀ keyC2s macC2s, ¬ SshKeyed keyC2s macC2s past) trace ↔
      SshNewkeysSince (fun link _ => link.trafficKeysReady = false) trace := by
  constructor
  · refine fun h => h.mono_history hpast ?_
    rintro e older hpacket ⟨origin, payload, before, rfl, hkeyed⟩
    refine ⟨origin, payload, before, rfl, Bool.eq_false_iff.mpr fun hready => ?_⟩
    exact hkeyed _ _ ((hpacket origin _ before rfl).2.keyed hready)
  · refine fun h => h.mono_history hpast ?_
    rintro e older hpacket ⟨origin, payload, before, rfl, hready⟩
    refine ⟨origin, payload, before, rfl, fun keyC2s macC2s hkeyed => ?_⟩
    rw [(hpacket origin _ before rfl).2.ready keyC2s macC2s hkeyed] at hready
    cases hready

/-- A packet was verified if and only if it found the receiving side encrypted, by
`NEWKEYS` that found the keys ready. -/
theorem sshVerified_iff {origin : SshOrigin} {payload : List UInt8} {before : SshNegotiation}
    (hfits : origin.Fits before.link payload) (hlink : SshLinkFacts before.link older)
    (hpast : History SshPacketPast older) : SshVerified origin payload before older ↔
      before.link.inEncrypted = true ∧
        ¬ SshNewkeysSince (fun link _ => link.trafficKeysReady = false) older := by
  constructor
  · rintro ⟨⟨plain, mac, payloadLen, rfl, -⟩, -, hnewkeys⟩
    exact ⟨hfits.1, mt (sshNewkeysSince_hasty hpast).mpr hnewkeys⟩
  · rintro ⟨hin, hready⟩
    have hnewkeys : SshNewkeysSince (fun link _ => link.trafficKeysReady = true) older := by
      refine ((hlink.newkeys hin).diff hready).mono ?_
      rintro e past ⟨⟨origin, payload, before, rfl, -⟩, hnot⟩
      refine ⟨origin, payload, before, rfl, ?_⟩
      by_contra hunready
      exact hnot ⟨origin, payload, before, rfl, Bool.eq_false_iff.mpr hunready⟩
    obtain ⟨keyC2s, macC2s, hkeyed⟩ := hnewkeys.keyed hpast
    refine ⟨?_, hlink.keyed (hlink.ready keyC2s macC2s hkeyed),
      mt (sshNewkeysSince_hasty hpast).mp hready⟩
    cases origin with
    | clear =>
        rw [show before.link.inEncrypted = false from hfits] at hin
        cases hin
    | «sealed» plain mac =>
        obtain ⟨-, hmac, payloadLen, hpayload⟩ := hfits
        exact ⟨plain, mac, payloadLen, rfl, hpayload, hmac⟩

/-- The packet that came last is on the connection, with nothing but what it did since. -/
theorem SshActsLast.split {payload : List UInt8} (h : SshActsLast payload trace) :
    ∃ mid origin before rest, trace = mid ++ .packet origin payload before :: rest ∧
      (∀ e ∈ mid, ¬ e.Restarts) ∧ sshActsOn payload before = true := by
  obtain ⟨session, origin, before, hon, hlast, hacts⟩ := h
  obtain ⟨mid, earlier, rfl⟩ := hon.lastPacket_split hlast
  obtain ⟨hsession, older, rfl⟩ := hon
  exact ⟨mid, origin, before, earlier ++ .reset :: .connect :: older, by simp,
    fun e he => hsession e (List.mem_append_left _ he), hacts⟩

theorem SshSecure.guarded (h : SshSecure trace) (hpast : History SshPacketPast trace) :
    SshGuarded trace := by
  intro newer origin payload before older hsplit hacts
  rw [hsplit] at hpast
  obtain ⟨hfits, hlink⟩ := hpast.split origin payload before rfl
  exact (sshVerified_iff hfits hlink hpast.of_append.2).mp
    (h.packets newer origin payload before older hsplit hacts)

theorem SshGuarded.secure (h : SshGuarded trace) (hpast : History SshPacketPast trace)
    (hacts : History SshActsPast trace) : SshSecure trace := by
  have hpackets : ∀ newer origin payload before older,
      trace = newer ++ .packet origin payload before :: older → sshActsOn payload before = true →
        SshVerified origin payload before older := by
    intro newer origin payload before older hsplit hon
    rw [hsplit] at hpast
    obtain ⟨hfits, hlink⟩ := hpast.split origin payload before rfl
    exact (sshVerified_iff hfits hlink hpast.of_append.2).mpr
      (h newer origin payload before older hsplit hon)
  refine ⟨hpackets, fun newer payload auth now older hsplit => ?_, fun newer line older hsplit => ?_⟩
  · rw [hsplit] at hacts
    obtain ⟨mid, origin, before, rest, rfl, hmid, hon⟩ := (hacts.split.1 payload auth now rfl).split
    refine ⟨mid, origin, before, rest, rfl, hmid, ?_⟩
    exact hpackets (newer ++ .authSuccess payload auth now :: mid) origin payload before rest
      (by simp [hsplit]) hon
  · rw [hsplit] at hacts
    obtain ⟨payload, hlast⟩ := hacts.split.2 line rfl
    obtain ⟨mid, origin, before, rest, rfl, hmid, hon⟩ := hlast.split
    refine ⟨mid, origin, payload, before, rest, rfl, hmid, ?_⟩
    exact hpackets (newer ++ .command line :: mid) origin payload before rest
      (by simp [hsplit]) hon

/-- In every run, what is acted upon was verified under keys of its connection if and
only if it finds the receiving side encrypted, by `NEWKEYS` that found the keys ready. -/
theorem sshRun_secure_iff (env : SshEnv) (calls : List SshCall) :
    SshSecure (sshRun env calls).trace ↔ SshGuarded (sshRun env calls).trace := by
  have h := sshRun_keyInv env calls
  exact ⟨fun hsecure => hsecure.guarded h.packets, fun hguarded => hguarded.secure h.packets h.acts⟩

/-! ## A login in clear -/

/-- A peer that connects, and sends the password in clear. -/
def sampleLoginEnv : SshEnv := { sampleGuessEnv with
  net := fun i =>
    { ipv4Ready := true
      ip := 1
      ticks := 0
      sendOk := true
      frame := some (if i ≤ 6 then sampleSshFrame tcpSyn 0 0 []
        else if i ≤ 9 then sampleSshFrame tcpAck 1 0x53534801 []
        else sampleSshFrame tcpAck 1 0
          (10 :: sampleClearPacket (sampleAuthRequest "longenough"))) } }

/-- A `USERAUTH_REQUEST` in clear. -/
def SshEvent.clearRequest : SshEvent → Bool
  | .packet .clear (50 :: _) _ => true
  | _ => false

/-- The peer is authenticated. -/
theorem sshRun_not_secure :
    (sshRun sampleLoginEnv sampleGuessCalls).neg.session.authenticated = true ∧
      ¬ SshSecure (sshRun sampleLoginEnv sampleGuessCalls).trace := by
  have hrun : (sshRun sampleLoginEnv sampleGuessCalls).neg.session.authenticated = true ∧
      (sshRun sampleLoginEnv sampleGuessCalls).trace.any SshEvent.clearRequest = true := by
    decide +kernel
  refine ⟨hrun.1, fun hsecure => ?_⟩
  obtain ⟨e, he, hclear⟩ := List.any_eq_true.mp hrun.2
  unfold SshEvent.clearRequest at hclear
  split at hclear
  next rest before =>
    obtain ⟨newer, older, hsplit⟩ := List.append_of_mem he
    obtain ⟨plain, mac, payloadLen, horigin, -⟩ :=
      (hsecure.packets newer .clear (50 :: rest) before older hsplit rfl).code
    cases horigin
  · cases hclear

end Orizon
