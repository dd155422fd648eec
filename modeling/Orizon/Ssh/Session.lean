import Orizon.Ssh.Lockout

/-!
# Orizon.Ssh.Session

Nothing of a connection is left for the next one: whenever a session is
authenticated, has a shell or executes a command, its password was accepted
since the `SYN` of the current connection (`sshRun_loggedIn`).

A session is reset by several paths, but only for a connection that was just
opened or without a peer (`SshMove`).  So a peer is always on a connection
whose `SYN` was followed by the reset, and by none since.
-/

namespace Orizon

/-! ## Connections -/

/-- The event ends what came before it: a connection is opened, or the session reset. -/
def SshEvent.Restarts : SshEvent → Prop
  | .connect | .reset => True
  | _ => False

/-- `session` is what happened on the current connection: everything since its `SYN`,
and the reset for it. -/
def SshOnConnection (session trace : List SshEvent) : Prop :=
  (∀ e ∈ session, ¬ e.Restarts) ∧ ∃ older, trace = session ++ .reset :: .connect :: older

/-- On the current connection a packet with a password was handled, and the password
accepted. -/
def SshLoggedIn (env : SshEnv) (trace : List SshEvent) : Prop :=
  ∃ newer payload auth now earlier,
    SshOnConnection (newer ++ .authSuccess payload auth now :: earlier) trace ∧
      SshAccepts auth now payload ∧ (∃ i, now = env.ticks i / 100) ∧
      ∃ origin before, .packet origin payload before ∈ earlier

/-- The event is none that the properties of a session are about. -/
def SshEvent.Plain : SshEvent → Prop
  | .connect | .reset | .packet .. | .command _ => False
  | _ => True

variable {env : SshEnv} {s s' : SshState} {session trace older events : List SshEvent} {e : SshEvent}

theorem SshEvent.Plain.not_restarts (h : e.Plain) : ¬ e.Restarts := by
  cases e with
  | connect | reset => exact h.elim
  | _ => exact id

theorem SshOnConnection.cons (h : SshOnConnection session trace) (he : ¬ e.Restarts) :
    SshOnConnection (e :: session) (e :: trace) := by
  obtain ⟨hsession, older, rfl⟩ := h
  refine ⟨fun x hx => ?_, older, rfl⟩
  obtain rfl | hx := List.mem_cons.mp hx
  · exact he
  · exact hsession x hx

theorem SshOnConnection.opened (older : List SshEvent) :
    SshOnConnection [] (.reset :: .connect :: older) :=
  ⟨fun _ h => absurd h List.not_mem_nil, older, rfl⟩

theorem SshLoggedIn.cons (h : SshLoggedIn env trace) (he : ¬ e.Restarts) :
    SshLoggedIn env (e :: trace) := by
  obtain ⟨newer, payload, auth, now, earlier, hon, haccepts⟩ := h
  exact ⟨e :: newer, payload, auth, now, earlier, hon.cons he, haccepts⟩

/-- A packet that is being handled was received on the current connection. -/
theorem SshOnConnection.lastPacket_split {origin : SshOrigin} {payload : List UInt8}
    {before : SshNegotiation} (h : SshOnConnection session trace)
    (hlast : lastPacket trace = some (origin, payload, before)) :
    ∃ newer earlier, session = newer ++ .packet origin payload before :: earlier := by
  induction session generalizing trace with
  | nil =>
      obtain ⟨-, older, rfl⟩ := h
      simp [lastPacket] at hlast
  | cons e session ih =>
      obtain ⟨hsession, older, rfl⟩ := h
      have hrest : lastPacket (session ++ .reset :: .connect :: older) =
          some (origin, payload, before) →
          ∃ newer earlier, e :: session = newer ++ .packet origin payload before :: earlier := by
        intro h
        obtain ⟨newer, earlier, rfl⟩ := ih ⟨fun x hx => hsession x (.tail _ hx), older, rfl⟩ h
        exact ⟨e :: newer, earlier, rfl⟩
      cases e with
      | packet origin' payload' before' =>
          simp only [List.cons_append, lastPacket, Option.some.injEq, Prod.mk.injEq] at hlast
          obtain ⟨rfl, rfl, rfl⟩ := hlast
          exact ⟨[], session, rfl⟩
      | reset => exact absurd trivial (hsession .reset List.mem_cons_self)
      | _ => exact hrest hlast

/-! ## The invariant -/

/-- What a session has, it has from a password accepted on its connection. -/
structure SshSessionInv (env : SshEnv) (s : SshState) : Prop where
  peer : s.server.HasPeer → ∃ session, SshOnConnection session s.trace
  packet : ∀ p, lastPacket s.trace = some p → ∃ session, SshOnConnection session s.trace
  authenticated : s.neg.session.authenticated = true → SshLoggedIn env s.trace
  shell : s.neg.channel.shellReady = true → SshLoggedIn env s.trace
  commanding : SshCommanding s → SshLoggedIn env s.trace
  commands : History (fun e older => ∀ line, e = .command line → SshLoggedIn env older) s.trace

theorem lastPacket_plain (h : e.Plain) : lastPacket (e :: trace) = lastPacket trace := by
  cases e with
  | connect | reset | packet | command => exact h.elim
  | _ => rfl

/-- At most one plain event, and nothing that makes a session authenticated or opens a
shell. -/
structure SshPlainStep (s s' : SshState) : Prop where
  trace : s'.trace = s.trace ∨ ∃ e : SshEvent, e.Plain ∧ s'.trace = e :: s.trace
  peer : s'.server.HasPeer → s.server.HasPeer
  authenticated : s'.neg.session.authenticated = true → s.neg.session.authenticated = true
  shell : s'.neg.channel.shellReady = true → s.neg.channel.shellReady = true

theorem SshSessionInv.plain (h : SshSessionInv env s) (hstep : SshPlainStep s s') :
    SshSessionInv env s' := by
  obtain htrace | ⟨e, he, htrace⟩ := hstep.trace
  · have hcommanding : SshCommanding s' → SshCommanding s := by
      unfold SshCommanding
      rw [htrace]
      exact id
    refine ⟨?_, ?_, ?_, ?_, ?_, ?_⟩
    · exact htrace ▸ h.peer ∘ hstep.peer
    · exact htrace ▸ h.packet
    · exact htrace ▸ h.authenticated ∘ hstep.authenticated
    · exact htrace ▸ h.shell ∘ hstep.shell
    · exact htrace ▸ h.commanding ∘ hcommanding
    · exact htrace ▸ h.commands
  · have hon : (∃ session, SshOnConnection session s.trace) →
        ∃ session, SshOnConnection session s'.trace := by
      rintro ⟨session, hsession⟩
      exact ⟨e :: session, htrace ▸ hsession.cons he.not_restarts⟩
    have hlogged : SshLoggedIn env s.trace → SshLoggedIn env s'.trace :=
      fun hs => htrace ▸ hs.cons he.not_restarts
    have hlast : lastPacket s'.trace = lastPacket s.trace := by rw [htrace, lastPacket_plain he]
    have hcommanding : SshCommanding s' → SshCommanding s := by
      unfold SshCommanding
      rw [hlast]
      exact id
    refine ⟨hon ∘ h.peer ∘ hstep.peer, fun p hp => hon (h.packet p (hlast ▸ hp)),
      hlogged ∘ h.authenticated ∘ hstep.authenticated, hlogged ∘ h.shell ∘ hstep.shell,
      hlogged ∘ h.commanding ∘ hcommanding, ?_⟩
    rw [htrace]
    refine ⟨fun line hline => ?_, h.commands⟩
    subst hline
    exact he.elim

/-! ## Steps -/

theorem SshPlainStep.still (htrace : s'.trace = s.trace) (hserver : s'.server = s.server)
    (hauth : s'.neg.session.authenticated = s.neg.session.authenticated)
    (hshell : s'.neg.channel.shellReady = s.neg.channel.shellReady) : SshPlainStep s s' := by
  refine ⟨.inl htrace, ?_, ?_, ?_⟩
  · rw [hserver]
    exact id
  · rw [hauth]
    exact id
  · rw [hshell]
    exact id

theorem SshPlainStep.event (he : e.Plain) (htrace : s'.trace = e :: s.trace)
    (hserver : s'.server = s.server)
    (hauth : s'.neg.session.authenticated = true → s.neg.session.authenticated = true)
    (hshell : s'.neg.channel.shellReady = s.neg.channel.shellReady) : SshPlainStep s s' := by
  refine ⟨.inr ⟨e, he, htrace⟩, ?_, hauth, ?_⟩
  · rw [hserver]
    exact id
  · rw [hshell]
    exact id

/-- A password is accepted for the packet that is being handled, which came in on the
current connection. -/
theorem SshSessionInv.authSuccess {payload : List UInt8} {now : UInt64} (h : SshSessionInv env s)
    (hpacket : ∃ origin before, lastPacket s.trace = some (origin, payload, before))
    (hnow : ∃ i, i ≤ s.asked ∧ now = env.ticks i / 100) (haccepts : SshAccepts s.auth now payload) :
    SshSessionInv env (sshNoteAuthSuccess payload now s) := by
  obtain ⟨origin, before, hlast⟩ := hpacket
  obtain ⟨session, hsession⟩ := h.packet _ hlast
  obtain ⟨i, -, hi⟩ := hnow
  have hon : SshOnConnection (.authSuccess payload s.auth now :: session)
      (sshNoteAuthSuccess payload now s).trace := hsession.cons id
  obtain ⟨newer, earlier, hsplit⟩ := hsession.lastPacket_split hlast
  have hlogged : SshLoggedIn env (sshNoteAuthSuccess payload now s).trace :=
    ⟨[], payload, s.auth, now, session, hon, haccepts, ⟨i, hi⟩, origin, before, by simp [hsplit]⟩
  refine ⟨fun _ => ⟨_, hon⟩, fun _ _ => ⟨_, hon⟩, fun _ => hlogged, fun _ => hlogged,
    fun _ => hlogged, ?_⟩
  exact ⟨(fun line hline => by cases hline), h.commands⟩

theorem SshSessionInv.command (h : SshSessionInv env s) (line : List UInt8)
    (hcommanding : SshCommanding s) : SshSessionInv env (s.note (.command line)) := by
  have hlogged := h.commanding hcommanding
  have hnow : SshLoggedIn env (s.note (.command line)).trace := hlogged.cons id
  obtain ⟨origin, payload, before, hlast, -⟩ := hcommanding
  obtain ⟨session, hsession⟩ := h.packet _ hlast
  have hon : SshOnConnection (.command line :: session) (s.note (.command line)).trace :=
    hsession.cons id
  exact ⟨fun _ => ⟨_, hon⟩, fun _ _ => ⟨_, hon⟩, fun _ => hnow, fun _ => hnow, fun _ => hnow,
    fun _ _ => hlogged, h.commands⟩

/-- A packet comes in on the connection of the peer; it may execute commands only if the
session or the shell of that connection may. -/
theorem SshSessionInv.received (h : SshSessionInv env s) (origin : SshOrigin)
    (payload : List UInt8) (hpeer : s.server.HasPeer) :
    SshSessionInv env (s.note (.packet origin payload s.neg)) := by
  obtain ⟨session, hsession⟩ := h.peer hpeer
  have hon : SshOnConnection (.packet origin payload s.neg :: session)
      (s.note (.packet origin payload s.neg)).trace := hsession.cons id
  have hlogged : SshLoggedIn env s.trace →
      SshLoggedIn env (s.note (.packet origin payload s.neg)).trace := fun hs => hs.cons id
  refine ⟨fun _ => ⟨_, hon⟩, fun _ _ => ⟨_, hon⟩, hlogged ∘ h.authenticated, hlogged ∘ h.shell,
    ?_, ⟨(fun line hline => by cases hline), h.commands⟩⟩
  rintro ⟨origin', payload', before, hlast, hcommands⟩
  simp only [SshState.note, lastPacket, Option.some.injEq, Prod.mk.injEq] at hlast
  obtain ⟨rfl, rfl, rfl⟩ := hlast
  unfold sshCommandsOn at hcommands
  split at hcommands
  · exact hlogged (h.authenticated hcommands)
  · exact hlogged (h.shell hcommands)
  · cases hcommands

theorem SshSessionInv.handler (h : SshSessionInv env s) (hmove : SshHandlerMove env s s') :
    SshSessionInv env s' := by
  cases hmove with
  | quiet hquiet =>
      exact h.plain (.still hquiet.trace (congrArg (·.2.1) hquiet.listener) hquiet.authenticated
        hquiet.shellReady)
  | kexinit => exact h.plain (.still rfl rfl rfl rfl)
  | newkeys => exact h.plain (.still rfl rfl rfl rfl)
  | kexdh payload =>
      obtain hkex | hkeys := sshProcessKexdhInit_cases env payload s
      · exact h.plain (.still hkex.trace (congrArg (·.2.1) hkex.listener)
          (congrArg (·.authenticated) hkex.session) (congrArg (·.shellReady) hkex.channel))
      · refine h.plain (.event ?_ hkeys.trace (congrArg (·.2.1) hkeys.listener) ?_ ?_)
        · trivial
        · rw [hkeys.session]
          exact id
        · rw [hkeys.channel]
  | authFailure => exact h.plain (.event (e := .authFailure ..) trivial rfl rfl id rfl)
  | authSuccess payload now _ hpacket hnow haccepts => exact h.authSuccess hpacket hnow haccepts
  | shellOpened _ hauth =>
      exact ⟨h.peer, h.packet, h.authenticated, fun _ => h.authenticated hauth, h.commanding,
        h.commands⟩
  | shellClosed =>
      exact h.plain ⟨.inl rfl, id, id, fun hshell => by cases hshell⟩
  | command line _ hcommanding => exact h.command line hcommanding
  | admin op =>
      have heffect := sshAdmin_effect env op s
      refine h.plain (.event ?_ heffect.trace (congrArg (·.2.1) heffect.listener)
        heffect.authenticated (congrArg (·.shellReady) heffect.channel))
      trivial

theorem SshSessionInv.fresh (hneg : s'.neg = {}) (hlast : lastPacket s'.trace = none)
    (hpeer : s'.server.HasPeer → ∃ session, SshOnConnection session s'.trace)
    (hcommands : History (fun e older => ∀ line, e = .command line → SshLoggedIn env older)
      s'.trace) : SshSessionInv env s' := by
  refine ⟨hpeer, fun p hp => ?_, fun hauth => ?_, fun hshell => ?_, fun hcommanding => ?_, hcommands⟩
  · rw [hlast] at hp
    cases hp
  · rw [hneg] at hauth
    cases hauth
  · rw [hneg] at hshell
    cases hshell
  · obtain ⟨origin, payload, before, hp, -⟩ := hcommanding
    rw [hlast] at hp
    cases hp

theorem sshCommitTx_plain (kind : SshTxKind) (tx : List UInt8) (s : SshState) :
    SshPlainStep s (sshCommitTx env kind tx s) := by
  cases kind with
  | channelData =>
      refine .event (e := .sent .channelData tx s.neg) trivial rfl rfl id ?_
      show (sshCommitData s.neg.channel).shellReady = s.neg.channel.shellReady
      unfold sshCommitData
      split
      · rfl
      · rfl
  | _ => exact .event (e := .sent _ tx s.neg) trivial rfl rfl id rfl

theorem SshSessionInv.move (h : SshSessionInv env s) (hmove : SshMove env s s') :
    SshSessionInv env s' := by
  cases hmove with
  | handler hmove => exact h.handler hmove
  | server srv _ hpeer => exact h.plain ⟨.inl rfl, hpeer, id, id⟩
  | packet origin payload _ hfits hpeer => exact h.received origin payload hpeer
  | openCtr => exact h.plain (.still rfl rfl rfl rfl)
  | received data =>
      obtain ⟨banner, seen, len, hframe⟩ := sshReceived_frame data s
      rw [hframe]
      exact h.plain (.event (e := .received data) trivial rfl rfl id rfl)
  | hostkey hkey =>
      exact h.plain (.still hkey.trace (congrArg (·.2.1) hkey.listener)
        (congrArg (·.authenticated) hkey.session) (congrArg (·.shellReady) hkey.channel))
  | kexinitBuilt => exact h.plain (.still rfl rfl rfl rfl)
  | sent kind tx => exact h.plain (sshCommitTx_plain kind tx s)
  | loadConfig =>
      refine h.plain (.still (sshLoadConfig_lockout env s).2
        (congrArg (·.2.1) (sshLoadConfig_listener env s)) ?_ ?_)
      · unfold sshLoadConfig
        split
        · rfl
        · rfl
      · unfold sshLoadConfig
        split
        · rfl
        · rfl
  | reset hreset =>
      refine .fresh hreset.neg ?_ (fun hpeer => absurd hpeer hreset.noPeer) ?_
      · rw [hreset.trace]
        rfl
      · rw [hreset.trace]
        exact ⟨(fun line hline => by cases hline), h.commands⟩
  | connect hconnect =>
      refine .fresh hconnect.neg ?_ (fun _ => ⟨[], ?_⟩) ?_
      · rw [hconnect.trace]
        rfl
      · rw [hconnect.trace]
        exact .opened s.trace
      · rw [hconnect.trace]
        exact ⟨(fun line hline => by cases hline), (fun line hline => by cases hline), h.commands⟩

theorem sshRun_sessionInv (env : SshEnv) (calls : List SshCall) :
    SshSessionInv env (sshRun env calls) := by
  refine sshRun_invariant env (SshSessionInv env) ?_ (fun s s' h hmove => h.move hmove) calls
  refine .fresh rfl rfl (fun hpeer => ?_) trivial
  simp [sshBoot, TcpServer.HasPeer, TcpServer.zero] at hpeer

/-- In every state of every run: an authenticated session, and a shell, has a password
that was accepted since the `SYN` of the current connection, and so had every command
when it was executed. -/
theorem sshRun_loggedIn (env : SshEnv) (calls : List SshCall) :
    ((sshRun env calls).neg.session.authenticated = true →
        SshLoggedIn env (sshRun env calls).trace) ∧
      ((sshRun env calls).neg.channel.shellReady = true →
        SshLoggedIn env (sshRun env calls).trace) ∧
      ∀ newer line older, (sshRun env calls).trace = newer ++ .command line :: older →
        SshLoggedIn env older := by
  have h := sshRun_sessionInv env calls
  refine ⟨h.authenticated, h.shell, fun newer line older hsplit => ?_⟩
  have hcommands := h.commands
  rw [hsplit] at hcommands
  exact hcommands.split line rfl

end Orizon
