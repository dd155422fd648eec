import Orizon.Lib.History
import Orizon.Lib.Lockout
import Orizon.Ssh.Service

/-!
# Orizon.Ssh.Lockout

The lockout of `ssh_note_auth_failure` over whole runs: among one more wrong
password than `max_auth_attempts`, the first and the last that were compared
are at least `auth_lockout_seconds` apart, unless the count was cleared between
them.

The counter and the deadline are the abstract `Lockout`; every failure counts,
so that failures of other kinds can only bring the lock forward.
-/

namespace Orizon

/-! ## The counter -/

/-- What the lockout depends on. -/
def SshAuth.lockout (auth : SshAuth) : Lockout :=
  ⟨auth.authFailures.toNat, auth.authLockoutUntil.toNat⟩

/-- The policy is within the limits of the configuration, and the count below the
highest limit. -/
structure SshAuth.Bounded (auth : SshAuth) : Prop where
  failures : auth.authFailures < 20
  attempts : 1 ≤ auth.maxAuthAttempts ∧ auth.maxAuthAttempts ≤ 20
  seconds : auth.authLockoutSeconds ≤ 3600

/-- A failure is one of the abstract counter; the deadline does not overflow. -/
theorem SshAuth.lockout_failed {auth : SshAuth} (h : auth.Bounded) (ticks : UInt64) :
    (auth.failed (ticks / 100)).lockout = auth.lockout.fail auth.maxAuthAttempts.toNat
      auth.authLockoutSeconds.toNat (ticks / 100).toNat := by
  have hfailures : auth.authFailures.toNat < 20 := h.failures
  have hseconds : auth.authLockoutSeconds.toNat ≤ 3600 := h.seconds
  have hattempts : 1 ≤ auth.maxAuthAttempts.toNat := h.attempts.1
  have hticks := ticks.toNat_lt
  have hnow : (ticks / 100).toNat = ticks.toNat / 100 := UInt64.toNat_div ticks 100
  have hcount : (auth.authFailures + 1).toNat = auth.authFailures.toNat + 1 := by
    rw [UInt32.toNat_add]
    exact Nat.mod_eq_of_lt (by simp; omega)
  have huntil : (ticks / 100 + auth.authLockoutSeconds.toUInt64).toNat =
      (ticks / 100).toNat + auth.authLockoutSeconds.toNat := by
    rw [UInt64.toNat_add, UInt32.toNat_toUInt64]
    exact Nat.mod_eq_of_lt (by omega)
  unfold SshAuth.failed Lockout.fail SshAuth.lockout
  have hreached : (auth.maxAuthAttempts > 0 ∧ auth.authFailures + 1 ≥ auth.maxAuthAttempts) ↔
      auth.maxAuthAttempts.toNat ≤ auth.authFailures.toNat + 1 := by
    rw [← hcount]
    exact ⟨fun h => h.2, fun h => ⟨hattempts, h⟩⟩
  by_cases hlock : auth.maxAuthAttempts.toNat ≤ auth.authFailures.toNat + 1
  · rw [if_pos (hreached.mpr hlock), if_pos hlock]
    simp only [huntil]
    rfl
  · rw [if_neg (mt hreached.mp hlock), if_neg hlock]
    simp only [hcount]

theorem SshAuth.Bounded.failed {auth : SshAuth} (h : auth.Bounded) (now : UInt64) :
    (auth.failed now).Bounded := by
  have hfailures : auth.authFailures.toNat < 20 := h.failures
  have hattempts : auth.maxAuthAttempts.toNat ≤ 20 := h.attempts.2
  have hpos : 1 ≤ auth.maxAuthAttempts.toNat := h.attempts.1
  have hcount : (auth.authFailures + 1).toNat = auth.authFailures.toNat + 1 := by
    rw [UInt32.toNat_add]
    exact Nat.mod_eq_of_lt (by simp; omega)
  unfold SshAuth.failed
  split
  · exact ⟨UInt32.lt_iff_toNat_lt.mpr (by simp), h.attempts, h.seconds⟩
  next hbelow =>
  refine ⟨?_, h.attempts, h.seconds⟩
  rw [not_and] at hbelow
  have hlt : ¬ auth.maxAuthAttempts.toNat ≤ (auth.authFailures + 1).toNat := hbelow hpos
  show (auth.authFailures + 1).toNat < 20
  omega

theorem SshAuth.Bounded.cleared {auth : SshAuth} (h : auth.Bounded) : auth.cleared.Bounded :=
  ⟨UInt32.lt_iff_toNat_lt.mpr (by simp [SshAuth.cleared]), h.attempts, h.seconds⟩

theorem sshConfigNumber_bounded {text : List UInt8} {needle : String}
    {current default limit : UInt32} (hcurrent : 1 ≤ current ∧ current ≤ limit)
    (hdefault : 1 ≤ default ∧ default ≤ limit) :
    1 ≤ sshConfigNumber text needle current default limit ∧
      sshConfigNumber text needle current default limit ≤ limit := by
  unfold sshConfigNumber
  split
  · exact hcurrent
  unfold sshParseUintToken
  dsimp only
  split
  · exact ⟨UInt32.le_trans hcurrent.1 hcurrent.2, UInt32.le_refl _⟩
  next value _ =>
  split
  · exact hdefault
  next hvalue =>
  rw [not_or] at hvalue
  have hone : 1 ≤ value := UInt32.not_lt.mp hvalue.2
  split
  · exact ⟨UInt32.le_trans hcurrent.1 hcurrent.2, UInt32.le_refl _⟩
  next hle => exact ⟨hone, UInt32.not_lt.mp hle⟩

theorem SshAuth.Bounded.parseConfig {auth : SshAuth} (h : auth.Bounded) (bytes : List UInt8) :
    (sshParseConfig auth bytes).Bounded :=
  ⟨h.failures, sshConfigNumber_bounded (by decide) (by decide),
    (sshConfigNumber_bounded (by decide) (by decide)).2⟩

theorem SshAuth.Bounded.loadConfig {env : SshEnv} {s : SshState} (h : s.auth.Bounded) :
    (sshLoadConfig env s).auth.Bounded := by
  unfold sshLoadConfig
  split
  · exact ⟨h.failures, h.attempts, h.seconds⟩
  · exact h.parseConfig _

theorem SshAuth.Bounded.admin {env : SshEnv} {s : SshState} (h : s.auth.Bounded)
    (op : SshAdminOp) : (sshAdmin env op s).auth.Bounded := by
  cases op with
  | setPassword password =>
      dsimp only [sshAdmin, sshSetPassword]
      split
      · exact h
      · exact ⟨h.cleared.failures, h.attempts, h.seconds⟩
  | disablePassword => exact ⟨h.cleared.failures, h.attempts, h.seconds⟩
  | reloadConfig => exact loadConfig h
  | clearLockout => exact h.cleared
  | setAuthPolicy maxAttempts lockoutSeconds =>
      dsimp only [sshAdmin, sshSetAuthPolicy]
      split
      · exact h
      next hlimits =>
      simp only [not_or, UInt32.not_lt, gt_iff_lt] at hlimits
      exact ⟨h.cleared.failures, ⟨hlimits.1, hlimits.2.1⟩, hlimits.2.2.2⟩
  | reloadHostkey =>
      have hauth := (sshLoadHostkeyFile_move env (s.note (.admin .reloadHostkey))).auth
      show (sshLoadHostkeyFile env (s.note (.admin .reloadHostkey))).2.auth.Bounded
      rw [hauth]
      exact h
  | resetHostkey =>
      have hauth := (sshResetHostkey_move env (s.note (.admin .resetHostkey))).auth
      show (sshResetHostkey env (s.note (.admin .resetHostkey))).auth.Bounded
      rw [hauth]
      exact h

/-! ## Attempts -/

/-- What the lockout sees of an event. -/
inductive SshAttempt
  /-- A failure under a policy; for a wrong password that was compared, the time the
  lockout was checked. -/
  | failure (compared : Option UInt64) (attempts seconds : UInt32)
  /-- A successful authentication. -/
  | success
  /-- An administrative command. -/
  | admin
deriving DecidableEq

/-- The attempt an event is, if it is one. -/
def SshEvent.attempt : SshEvent → Option SshAttempt
  | .authFailure compared auth _ =>
      some (.failure compared auth.maxAuthAttempts auth.authLockoutSeconds)
  | .authSuccess .. => some .success
  | .admin _ => some .admin
  | _ => none

/-- The attempts of a run, the newest first. -/
def sshAttempts (trace : List SshEvent) : List SshAttempt := trace.filterMap SshEvent.attempt

/-- Whether the attempt is a wrong password that was compared. -/
def SshAttempt.wrongPassword : SshAttempt → Bool
  | .failure (some _) .. => true
  | _ => false

/-- What a move does to the lockout. -/
inductive SshLockoutStep (env : SshEnv) (s s' : SshState) : Prop
  | same (hattempts : sshAttempts s'.trace = sshAttempts s.trace)
      (hauth : s'.auth.lockout = s.auth.lockout)
  | failed (compared : Option UInt64)
      (hattempts : sshAttempts s'.trace =
        .failure compared s.auth.maxAuthAttempts s.auth.authLockoutSeconds :: sshAttempts s.trace)
      (hauth : s'.auth = s.auth.failed (timerUptimeSeconds env s))
      (hcompared : ∀ t, compared = some t →
        s.auth.authLockoutUntil ≤ t ∧ ∃ i, i ≤ s.asked ∧ t = env.ticks i / 100)
  | cleared (e : SshAttempt) (hattempts : sshAttempts s'.trace = e :: sshAttempts s.trace)
      (he : e = .success ∨ e = .admin)

variable {env : SshEnv} {s s' : SshState}

theorem SshLockoutStep.still (htrace : s'.trace = s.trace) (hauth : s'.auth = s.auth) :
    SshLockoutStep env s s' := .same (by rw [htrace]) (by rw [hauth])

theorem SshLockoutStep.event {e : SshEvent} (htrace : s'.trace = e :: s.trace)
    (he : e.attempt = none) (hauth : s'.auth = s.auth) : SshLockoutStep env s s' := by
  refine .same ?_ (by rw [hauth])
  rw [htrace, sshAttempts, List.filterMap_cons_none he, sshAttempts]

theorem SshHandlerMove.lockoutStep (h : SshHandlerMove env s s') : SshLockoutStep env s s' := by
  cases h with
  | quiet h => exact .still h.trace h.auth
  | kexinit => exact .still rfl rfl
  | newkeys => exact .still rfl rfl
  | kexdh payload =>
      obtain h | h := sshProcessKexdhInit_cases env payload s
      · exact .still h.trace h.auth
      · exact .event h.trace rfl h.auth
  | authFailure compared _ h => exact .failed compared rfl rfl h
  | authSuccess => exact .cleared .success rfl (.inl rfl)
  | shellOpened => exact .still rfl rfl
  | shellClosed => exact .still rfl rfl
  | command => exact .event rfl rfl rfl
  | admin op =>
      refine .cleared .admin ?_ (.inr rfl)
      rw [(sshAdmin_effect env op s).trace]
      rfl

theorem sshLoadConfig_lockout (env : SshEnv) (s : SshState) :
    (sshLoadConfig env s).auth.lockout = s.auth.lockout ∧
      (sshLoadConfig env s).trace = s.trace := by
  unfold sshLoadConfig
  split
  · exact ⟨rfl, rfl⟩
  · exact ⟨rfl, rfl⟩

theorem sshCommitTx_trace (env : SshEnv) (kind : SshTxKind) (tx : List UInt8) (s : SshState) :
    (sshCommitTx env kind tx s).trace = .sent kind tx s.neg :: s.trace := by
  cases kind <;> rfl

theorem sshCommitTx_auth (env : SshEnv) (kind : SshTxKind) (tx : List UInt8) (s : SshState) :
    (sshCommitTx env kind tx s).auth = s.auth := by
  cases kind <;> rfl

theorem SshMove.lockoutStep (h : SshMove env s s') : SshLockoutStep env s s' := by
  cases h with
  | handler h => exact h.lockoutStep
  | server => exact .still rfl rfl
  | packet => exact .event rfl rfl rfl
  | openCtr => exact .still rfl rfl
  | received data =>
      obtain ⟨banner, seen, len, h⟩ := sshReceived_frame data s
      rw [h]
      exact .event rfl rfl rfl
  | hostkey h => exact .still h.trace h.auth
  | kexinitBuilt => exact .still rfl rfl
  | sent kind tx => exact .event (sshCommitTx_trace env kind tx s) rfl (sshCommitTx_auth env kind tx s)
  | loadConfig =>
      obtain ⟨hauth, htrace⟩ := sshLoadConfig_lockout env s
      exact .same (by rw [htrace]) hauth
  | reset h => exact .event h.trace rfl h.auth
  | connect h =>
      refine .same ?_ (by rw [h.auth])
      rw [h.trace]
      rfl

theorem SshHandlerMove.asked (h : SshHandlerMove env s s') : s.asked ≤ s'.asked := by
  cases h with
  | quiet h => exact h.asked
  | kexinit => exact Nat.le_refl _
  | newkeys => exact Nat.le_refl _
  | kexdh payload =>
      obtain h | h := sshProcessKexdhInit_cases env payload s
      · exact h.asked
      · exact h.asked
  | authFailure => exact Nat.le_succ _
  | authSuccess => exact Nat.le_refl _
  | shellOpened => exact Nat.le_refl _
  | shellClosed => exact Nat.le_refl _
  | command => exact Nat.le_refl _
  | admin op => exact (sshAdmin_effect env op s).asked

theorem SshMove.asked (h : SshMove env s s') : s.asked ≤ s'.asked := by
  cases h with
  | handler h => exact h.asked
  | server => exact Nat.le_refl _
  | packet => exact Nat.le_refl _
  | openCtr => exact Nat.le_refl _
  | received data =>
      obtain ⟨banner, seen, len, h⟩ := sshReceived_frame data s
      rw [h]
      exact Nat.le_refl _
  | hostkey h => exact h.asked
  | kexinitBuilt => exact Nat.le_refl _
  | sent kind => cases kind <;> exact Nat.le_succ _
  | loadConfig =>
      unfold sshLoadConfig
      split
      · exact Nat.le_succ _
      · exact Nat.le_succ _
  | reset h => exact h.asked
  | connect h => exact h.asked

theorem SshHandlerMove.bounded (h : SshHandlerMove env s s') (hs : s.auth.Bounded) :
    s'.auth.Bounded := by
  cases h with
  | quiet h => exact h.auth ▸ hs
  | kexinit => exact hs
  | newkeys => exact hs
  | kexdh payload =>
      obtain h | h := sshProcessKexdhInit_cases env payload s
      · exact h.auth ▸ hs
      · exact h.auth ▸ hs
  | authFailure => exact hs.failed _
  | authSuccess => exact hs.cleared
  | shellOpened => exact hs
  | shellClosed => exact hs
  | command => exact hs
  | admin op => exact hs.admin op

theorem SshMove.bounded (h : SshMove env s s') (hs : s.auth.Bounded) : s'.auth.Bounded := by
  cases h with
  | handler h => exact h.bounded hs
  | server => exact hs
  | packet => exact hs
  | openCtr => exact hs
  | received data =>
      obtain ⟨banner, seen, len, h⟩ := sshReceived_frame data s
      rw [h]
      exact hs
  | hostkey h => exact h.auth ▸ hs
  | kexinitBuilt => exact hs
  | sent kind tx =>
      rw [sshCommitTx_auth]
      exact hs
  | loadConfig => exact hs.loadConfig
  | reset h => exact h.auth ▸ hs
  | connect h => exact h.auth ▸ hs

/-! ## Runs -/

/-- The clock does not go back. -/
def SshEnv.NonDecreasing (env : SshEnv) : Prop := ∀ i j, i ≤ j → env.ticks i ≤ env.ticks j

/-- A failure under the policy. -/
def SshAttempt.Under (attempts seconds : UInt32) (e : SshAttempt) : Prop :=
  ∃ compared, e = .failure compared attempts seconds

/-- The last wrong password is a lockout away from the first of a full window. -/
def SshSpaced (attempts seconds : UInt32) (last : SshAttempt) (past : List SshAttempt) : Prop :=
  ∀ between older tFirst tLast, last = .failure (some tLast) attempts seconds →
    past = between ++ .failure (some tFirst) attempts seconds :: older →
    (∀ e ∈ between, e.Under attempts seconds) →
    attempts.toNat ≤ between.countP SshAttempt.wrongPassword + 1 →
    tFirst.toNat + seconds.toNat ≤ tLast.toNat

/-- The invariant, of the questions asked, the lockout and the attempts: every window
still open is covered. -/
structure SshLockoutInv (env : SshEnv) (attempts seconds : UInt32) (asked : Nat) (auth : SshAuth)
    (record : List SshAttempt) : Prop where
  times : ∀ t m l, .failure (some t) m l ∈ record → ∃ i, i ≤ asked ∧ t = env.ticks i / 100
  covers : ∀ between older t, record = between ++ .failure (some t) attempts seconds :: older →
    (∀ e ∈ between, e.Under attempts seconds) →
    auth.lockout.Covers attempts.toNat seconds.toNat t.toNat (between.length + 1)
  spaced : History (SshSpaced attempts seconds) record

section Step

variable {attempts seconds : UInt32} {asked asked' : Nat} {auth auth' : SshAuth}
  {record : List SshAttempt}

theorem SshLockoutInv.same (h : SshLockoutInv env attempts seconds asked auth record)
    (hauth : auth'.lockout = auth.lockout) (hasked : asked ≤ asked') :
    SshLockoutInv env attempts seconds asked' auth' record := by
  refine ⟨fun t m l ht => ?_, fun between older t hsplit hbetween => ?_, h.spaced⟩
  · obtain ⟨i, hi, rfl⟩ := h.times t m l ht
    exact ⟨i, Nat.le_trans hi hasked, rfl⟩
  · rw [hauth]
    exact h.covers between older t hsplit hbetween

theorem SshLockoutInv.cleared {e : SshAttempt}
    (h : SshLockoutInv env attempts seconds asked auth record) (he : e = .success ∨ e = .admin)
    (hasked : asked ≤ asked') : SshLockoutInv env attempts seconds asked' auth' (e :: record) := by
  have hnot : ∀ compared m l, e ≠ .failure compared m l := by
    rintro compared m l rfl
    simp at he
  refine ⟨fun t m l ht => ?_, fun between older t hsplit hbetween => ?_, ?_, h.spaced⟩
  · obtain hhead | ht := List.mem_cons.mp ht
    · exact absurd hhead.symm (hnot _ _ _)
    · obtain ⟨i, hi, rfl⟩ := h.times t m l ht
      exact ⟨i, Nat.le_trans hi hasked, rfl⟩
  · cases between with
    | nil =>
        cases hsplit
        exact absurd rfl (hnot _ _ _)
    | cons x between =>
        cases hsplit
        obtain ⟨compared, rfl⟩ := hbetween e (.head between)
        exact absurd rfl (hnot _ _ _)
  · intro between older tFirst tLast hlast
    exact absurd hlast (hnot _ _ _)

/-- A failure now: it counts in every open window, ends those that are full, and opens
one if a password was compared. -/
theorem SshLockoutInv.failed {compared : Option UInt64} {ticks : UInt64}
    (h : SshLockoutInv env attempts seconds asked auth record) (hbounded : auth.Bounded)
    (hcompared : ∀ t, compared = some t →
      auth.authLockoutUntil ≤ t ∧ ∃ i, i ≤ asked ∧ t = env.ticks i / 100)
    (hnow : ∀ i, i ≤ asked → env.ticks i ≤ ticks) (hasked : asked ≤ asked') :
    SshLockoutInv env attempts seconds asked' (auth.failed (ticks / 100))
      (.failure compared auth.maxAuthAttempts auth.authLockoutSeconds :: record) := by
  have hle : ∀ {t : UInt64}, (∃ i, i ≤ asked ∧ t = env.ticks i / 100) →
      t.toNat ≤ (ticks / 100).toNat := by
    rintro t ⟨i, hi, rfl⟩
    have htick : (env.ticks i).toNat ≤ ticks.toNat := hnow i hi
    rw [UInt64.toNat_div, UInt64.toNat_div]
    exact Nat.div_le_div_right htick
  refine ⟨fun t m l ht => ?_, fun between older t hsplit hbetween => ?_, ?_, h.spaced⟩
  · obtain hhead | ht := List.mem_cons.mp ht
    · cases hhead
      obtain ⟨-, i, hi, rfl⟩ := hcompared t rfl
      exact ⟨i, Nat.le_trans hi hasked, rfl⟩
    · obtain ⟨i, hi, rfl⟩ := h.times t m l ht
      exact ⟨i, Nat.le_trans hi hasked, rfl⟩
  · rw [SshAuth.lockout_failed hbounded]
    cases between with
    | nil =>
        cases hsplit
        exact Lockout.covers_fail_first _ (hle (hcompared t rfl).2)
    | cons x between =>
        cases hsplit
        obtain ⟨compared', hpolicy⟩ := hbetween _ (.head between)
        cases hpolicy
        refine Lockout.covers_fail (h.covers between older t rfl fun e he => ?_)
          (hle (h.times t _ _ (List.mem_append_right between (.head older))))
        exact hbetween e (.tail _ he)
  · intro between older tFirst tLast hlast hpast hbetween hcount
    cases hlast
    have hfull := Nat.le_trans hcount (Nat.succ_le_succ List.countP_le_length)
    have hlocked := (h.covers between older tFirst hpast hbetween).locked hfull
    have hchecked : auth.authLockoutUntil.toNat ≤ tLast.toNat := (hcompared tLast rfl).1
    exact Nat.le_trans hlocked hchecked

theorem SshMove.lockoutInv (hticks : env.NonDecreasing) (hmove : SshMove env s s')
    (hbounded : s.auth.Bounded)
    (h : SshLockoutInv env attempts seconds s.asked s.auth (sshAttempts s.trace)) :
    SshLockoutInv env attempts seconds s'.asked s'.auth (sshAttempts s'.trace) := by
  cases hmove.lockoutStep with
  | same hattempts hauth =>
      rw [hattempts]
      exact h.same hauth hmove.asked
  | failed compared hattempts hauth hcompared =>
      rw [hattempts, hauth]
      exact h.failed hbounded hcompared (fun i hi => hticks i s.asked hi) hmove.asked
  | cleared e hattempts he =>
      rw [hattempts]
      exact h.cleared he hmove.asked

end Step

theorem sshRun_lockoutInv (attempts seconds : UInt32) (hticks : env.NonDecreasing)
    (calls : List SshCall) : (sshRun env calls).auth.Bounded ∧
      SshLockoutInv env attempts seconds (sshRun env calls).asked (sshRun env calls).auth
        (sshAttempts (sshRun env calls).trace) := by
  refine sshRun_invariant env (fun s => s.auth.Bounded ∧
    SshLockoutInv env attempts seconds s.asked s.auth (sshAttempts s.trace)) ?_ ?_ calls
  · refine ⟨⟨by decide, by decide, by decide⟩, ?_, ?_, trivial⟩
    · intro t m l ht
      cases ht
    · intro between older t hsplit
      simp [sshBoot, sshAttempts] at hsplit
  · intro s s' h hmove
    exact ⟨hmove.bounded h.1, hmove.lockoutInv hticks h.1 h.2⟩

/-- Among `max_auth_attempts + 1` consecutive wrong passwords, under one policy and with
no authentication and no administrative command in between, the first and the last are
at least `auth_lockout_seconds` apart. -/
theorem sshLockout_spaced (env : SshEnv) (calls : List SshCall) (attempts seconds : UInt32)
    (newer between older : List SshAttempt) (tFirst tLast : UInt64) (hticks : env.NonDecreasing)
    (hattempts : sshAttempts (sshRun env calls).trace =
      newer ++ .failure (some tLast) attempts seconds ::
        (between ++ .failure (some tFirst) attempts seconds :: older))
    (hbetween : ∀ e ∈ between, ∃ compared, e = .failure compared attempts seconds)
    (hcount : between.countP SshAttempt.wrongPassword + 1 = attempts.toNat) :
    tFirst.toNat + seconds.toNat ≤ tLast.toNat := by
  have hspaced := (sshRun_lockoutInv attempts seconds hticks calls).2.spaced
  rw [hattempts] at hspaced
  exact hspaced.split between older tFirst tLast rfl rfl hbetween hcount.ge

/-! ## Two guesses -/

/-- A request with this password. -/
def sampleAuthRequest (password : String) : List UInt8 :=
  let string := fun text : String => writeBe32 (UInt32.ofNat text.length) ++ asciiBytes text
  50 :: (string "orizon" ++ string "ssh-connection" ++ string "password" ++ [0] ++ string password)

/-- A packet in clear. -/
def sampleClearPacket (payload : List UInt8) : List UInt8 :=
  writeBe32 (UInt32.ofNat (payload.length + 5)) ++ [4] ++ payload ++ [0, 0, 0, 0]

/-- A frame of the peer. -/
def sampleSshFrame (flags : UInt8) (seq ack : UInt32) (payload : List UInt8) : Frame :=
  tcpFrame ⟨2, 1, 4000, 22, seq, ack, flags, payload⟩

/-- An empty banner, and two wrong passwords. -/
def sampleGuesses : List UInt8 :=
  10 :: (sampleClearPacket (sampleAuthRequest "a") ++ sampleClearPacket (sampleAuthRequest "b"))

/-- A peer that connects and guesses; a second passes between its guesses. -/
def sampleGuessEnv : SshEnv where
  ticks := fun i => if i < 17 then 0 else 100
  net := fun i =>
    { ipv4Ready := true
      ip := 1
      ticks := 0
      sendOk := true
      frame := some (if i ≤ 6 then sampleSshFrame tcpSyn 0 0 []
        else if i ≤ 9 then sampleSshFrame tcpAck 1 0x53534801 []
        else sampleSshFrame tcpAck 1 0 sampleGuesses) }
  configureIpv4 := fun _ => true
  configFile := fun _ => none
  hostkeyFile := fun _ => some orizonSshRsa
  hostkeySeed := fun _ => Vector.replicate 32 0
  hostkeyWritten := fun _ => false
  output := fun _ => ⟨[], none⟩

/-- One attempt allowed, one second of lockout; then the peer is served. -/
def sampleGuessCalls : List SshCall :=
  [.admin (.setAuthPolicy 1 1), .admin (.setPassword (asciiBytes "longenough")), .start, .poll, .poll, .poll, .poll]

theorem sampleGuessEnv_nonDecreasing : sampleGuessEnv.NonDecreasing := by
  intro i j hij
  simp only [sampleGuessEnv]
  split
  · exact UInt64.zero_le
  · rw [if_neg (by omega)]
    exact UInt64.le_refl _

theorem sshLockout_spaced_sample :
    sshAttempts (sshRun sampleGuessEnv sampleGuessCalls).trace =
        [.failure (some 1) 1 1, .failure (some 0) 1 1, .admin, .admin] ∧
      (0 : UInt64).toNat + (1 : UInt32).toNat ≤ (1 : UInt64).toNat := by
  have hattempts : sshAttempts (sshRun sampleGuessEnv sampleGuessCalls).trace =
      [.failure (some 1) 1 1, .failure (some 0) 1 1, .admin, .admin] := by decide +kernel
  exact ⟨hattempts, sshLockout_spaced sampleGuessEnv sampleGuessCalls 1 1 [] [] [.admin, .admin] 0 1
    sampleGuessEnv_nonDecreasing hattempts (by simp) rfl⟩

end Orizon
