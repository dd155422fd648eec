import Orizon.Net.Received

/-!
# Orizon.Net.Dhcp

The DHCP client of `drivers/netstack.c`: `wait_dhcp` and `netstack_configure_ipv4_dhcp`.

The options of a message are written into the results of the wait before its type is looked at.
What a wait leaves is therefore what all messages of the transaction said up to the accepted one,
each over the ones before (`waitDhcp_spec`), and it is what the accepted one said exactly if the
rejected ones left no trace (`dhcp_accepted_iff`).

The frames that arrive before the deadline of a wait are an input; what is not IPv4 does not
touch the results.
-/

namespace Orizon

/-! ## The client -/

/-- `DHCP_CLIENT_PORT`. -/
def dhcpClientPort : UInt16 := 68

/-- `DHCP_SERVER_PORT`. -/
def dhcpServerPort : UInt16 := 67

/-- The tests of `wait_dhcp` on a packet: the message, if it is one of the transaction. -/
def dhcpMessage (xid : UInt32) (packet : List UInt8) : Checked (Option (List UInt8)) := do
  match ← parseIpv4Udp packet with
  | none => pure none
  | some u =>
      if u.srcPort ≠ dhcpServerPort ∨ u.dstPort ≠ dhcpClientPort ∨ u.payload.length < 240 then pure none else
      let op ← readAt u.payload 0
      if op ≠ 2 then pure none else
      let id ← readBe32At u.payload 4
      if id ≠ xid then pure none else
      let a ← readAt u.payload 236
      let b ← readAt u.payload 237
      let c ← readAt u.payload 238
      let d ← readAt u.payload 239
      if a ≠ 99 ∨ b ≠ 130 ∨ c ≠ 83 ∨ d ≠ 99 then pure none else pure (some u.payload)

/-- `wait_dhcp` for the frames that arrive before the deadline: the address of the accepted message,
and the results. -/
def waitDhcp (xid : UInt32) (wanted : UInt8) : List Frame → DhcpOptions → Checked (Option UInt32 × DhcpOptions)
  | [], s => pure (none, s)
  | frame :: frames, s => do
      if frame.ethType ≠ ethTypeIpv4 then waitDhcp xid wanted frames s
      else
        match ← dhcpMessage xid frame.data with
        | none => waitDhcp xid wanted frames s
        | some message =>
            let s ← parseDhcpOptions (message.drop 240) { s with msgType := 0 }
            if s.msgType = wanted then
              let yiaddr ← readBe32At message 16
              pure (some yiaddr, s)
            else waitDhcp xid wanted frames s

/-- What `netstack_configure_ipv4_dhcp` meets outside: the link, whether the two messages could be
sent, the transaction, and the frames that arrive during each wait. -/
structure DhcpInput where
  linkUp : Bool
  discoverSent : Bool
  requestSent : Bool
  xid : UInt32
  offers : List Frame
  acks : List Frame

/-- The results of the two waits, and what `stack_status` takes from them. -/
structure DhcpLease where
  offered : DhcpOptions
  acked : DhcpOptions
  ip : UInt32
  subnet : UInt32
  gateway : UInt32
  dns : UInt32
deriving DecidableEq

/-- `netstack_configure_ipv4_dhcp` of a stack that is not ready; `none` is -1.  The request names
the server of `offered`. -/
def netstackConfigureIpv4Dhcp (net : DhcpInput) : Checked (Option DhcpLease) := do
  if !net.linkUp ∨ !net.discoverSent then pure none else
  match ← waitDhcp net.xid 2 net.offers ⟨0, 0, 0, 0, 0⟩ with
  | (none, _) => pure none
  | (some offeredIp, offered) =>
      if offeredIp = 0 ∨ !net.requestSent then pure none else
      match ← waitDhcp net.xid 5 net.acks offered with
      | (none, _) => pure none
      | (some ip, acked) =>
          pure (some {
            offered, acked, ip
            subnet := if acked.subnet ≠ 0 then acked.subnet else 0xffffff00
            gateway := acked.router
            dns := if acked.dns ≠ 0 then acked.dns else acked.router })

/-! ## What a message says -/

/-- The results a wait shares between messages. -/
inductive DhcpField
  | serverId
  | subnet
  | router
  | dns
deriving DecidableEq, Repr

/-- The option of a result. -/
def DhcpField.code : DhcpField → UInt8
  | .serverId => 54
  | .subnet => 1
  | .router => 3
  | .dns => 6

def DhcpOptions.get (s : DhcpOptions) : DhcpField → UInt32
  | .serverId => s.serverId
  | .subnet => s.subnet
  | .router => s.router
  | .dns => s.dns

/-- The options of a message, up to the end mark or the first that does not fit. -/
def dhcpTlvsFrom : Nat → List UInt8 → List (UInt8 × List UInt8)
  | fuel + 1, code :: rest =>
      if code = 255 then []
      else if code = 0 then dhcpTlvsFrom fuel rest
      else
        match rest with
        | [] => []
        | len :: body =>
            if len.toNat > body.length then []
            else (code, body.take len.toNat) :: dhcpTlvsFrom fuel (body.drop len.toNat)
  | _, _ => []

def dhcpTlvs (opts : List UInt8) : List (UInt8 × List UInt8) := dhcpTlvsFrom opts.length opts

/-- The last option of a code with at least `size` bytes. -/
def dhcpLast (code : UInt8) (size : Nat) (tlvs : List (UInt8 × List UInt8)) : Option (List UInt8) :=
  ((tlvs.filter fun o => o.1 = code ∧ size ≤ o.2.length).map (·.2)).getLast?

/-- What options say of a result: the last one counts. -/
def dhcpGiven (f : DhcpField) (tlvs : List (UInt8 × List UInt8)) : Option UInt32 :=
  (dhcpLast f.code 4 tlvs).map fun value => readBe32 value 0

/-- What options say of the type. -/
def dhcpGivenType (tlvs : List (UInt8 × List UInt8)) : Option UInt8 :=
  (dhcpLast 53 1 tlvs).map fun value => value.getD 0 0

/-- What a message says of a result. -/
def dhcpValue (f : DhcpField) (message : List UInt8) : Option UInt32 :=
  dhcpGiven f (dhcpTlvs (message.drop 240))

/-- The type of a message. -/
def dhcpType (message : List UInt8) : UInt8 :=
  (dhcpGivenType (dhcpTlvs (message.drop 240))).getD 0

/-- The messages of the transaction among the frames. -/
def dhcpMessages (xid : UInt32) (frames : List Frame) : List (List UInt8) :=
  frames.filterMap fun frame =>
    if frame.ethType ≠ ethTypeIpv4 then none
    else
      match dhcpMessage xid frame.data with
      | .ok message => message
      | .error _ => none

/-- The first message of the wanted type. -/
def dhcpAccepted (wanted : UInt8) (messages : List (List UInt8)) : Option (List UInt8) :=
  messages.find? fun m => dhcpType m = wanted

/-- The messages before it. -/
def dhcpRejected (wanted : UInt8) (messages : List (List UInt8)) : List (List UInt8) :=
  messages.takeWhile fun m => dhcpType m ≠ wanted

/-- What the accepted message says of a result. -/
def dhcpSaid (wanted : UInt8) (messages : List (List UInt8)) (f : DhcpField) : Option UInt32 :=
  (dhcpAccepted wanted messages).bind (dhcpValue f)

/-- What the rejected messages said of a result: the last that did counts. -/
def dhcpTrace (wanted : UInt8) (messages : List (List UInt8)) (f : DhcpField) : Option UInt32 :=
  ((dhcpRejected wanted messages).filterMap (dhcpValue f)).getLast?

/-! ## The options of a message -/

/-- What was read, over what was there. -/
structure DhcpOptions.Over (tlvs : List (UInt8 × List UInt8)) (s t : DhcpOptions) : Prop where
  type : t.msgType = (dhcpGivenType tlvs).getD s.msgType
  field : ∀ f, t.get f = (dhcpGiven f tlvs).getD (s.get f)

section Options

variable {opts value : List UInt8} {code : UInt8} {off fuel : Nat} {s t u : DhcpOptions}
variable {tlvs : List (UInt8 × List UInt8)} {o : UInt8 × List UInt8}

theorem dhcpLast_cons (size : Nat) :
    dhcpLast code size (o :: tlvs) =
      (dhcpLast code size tlvs).or (if o.1 = code ∧ size ≤ o.2.length then some o.2 else none) := by
  by_cases h : o.1 = code ∧ size ≤ o.2.length
  · simp [dhcpLast, h, List.getLast?_cons, Option.or_some]
  · simp [dhcpLast, h]

theorem DhcpOptions.over_nil : DhcpOptions.Over [] s s := ⟨rfl, fun _ => rfl⟩

theorem DhcpOptions.Over.cons (h : DhcpOptions.Over [o] s t) (hrest : DhcpOptions.Over tlvs t u) :
    DhcpOptions.Over (o :: tlvs) s u where
  type := by
    rw [hrest.type, h.type]
    simp only [dhcpGivenType, dhcpLast_cons]
    cases dhcpLast 53 1 tlvs <;> simp [dhcpLast]
  field f := by
    rw [hrest.field, h.field]
    simp only [dhcpGiven, dhcpLast_cons]
    cases dhcpLast f.code 4 tlvs <;> simp [dhcpLast]

theorem readBe32_take_drop {n : Nat} (hn : 4 ≤ n) : readBe32 ((opts.drop off).take n) 0 = readBe32 opts off := by
  simp [readBe32, List.getD_eq_getElem?_getD, show 0 < n by omega, show 1 < n by omega,
    show 2 < n by omega, show 3 < n by omega]

theorem dhcpGiven_singleton (f : DhcpField) :
    dhcpGiven f [(code, value)] = if code = f.code ∧ 4 ≤ value.length then some (readBe32 value 0) else none := by
  by_cases h : code = f.code ∧ 4 ≤ value.length <;> simp [dhcpGiven, dhcpLast, h]

theorem dhcpGivenType_singleton :
    dhcpGivenType [(code, value)] = if code = 53 ∧ 1 ≤ value.length then some (value.getD 0 0) else none := by
  by_cases h : code = 53 ∧ 1 ≤ value.length <;> simp [dhcpGivenType, dhcpLast, h]

theorem safe_dhcpOption_over {n : Nat} (h : off + n ≤ opts.length) (s : DhcpOptions) :
    Safe (DhcpOptions.Over [(code, (opts.drop off).take n)] s) (dhcpOption opts code off n s) := by
  have hlen : ((opts.drop off).take n).length = n := by simp; omega
  have hover (t : DhcpOptions)
      (htype : t.msgType = if code = 53 ∧ 1 ≤ n then opts.getD off 0 else s.msgType)
      (hfield : ∀ f, t.get f = if code = f.code ∧ 4 ≤ n then readBe32 opts off else s.get f) :
      DhcpOptions.Over [(code, (opts.drop off).take n)] s t := by
    refine ⟨?_, fun f => ?_⟩
    · rw [htype, dhcpGivenType_singleton, hlen]
      split
      next hone => simp [List.getD_eq_getElem?_getD, show 0 < n by omega]
      next => rfl
    · rw [hfield, dhcpGiven_singleton, hlen]
      split
      next hfour => rw [Option.getD_some, readBe32_take_drop hfour.2]
      next => rfl
  unfold dhcpOption
  split
  next hcode =>
    refine (safe_readAt (by omega)).bind fun b hb => safe_pure (hover _ ?_ fun f => ?_)
    · simp [hcode, List.getD_eq_getElem?_getD, hb]
    · cases f <;> simp [hcode.1, DhcpField.code, DhcpOptions.get]
  next htype =>
  split
  next hcode =>
    refine (safe_readBe32At (by omega)).bind fun b hb => safe_pure (hover _ ?_ fun f => ?_)
    · simp [hcode.1]
    · cases f <;> simp [hcode, DhcpField.code, DhcpOptions.get, hb]
  next hserver =>
  split
  next hcode =>
    refine (safe_readBe32At (by omega)).bind fun b hb => safe_pure (hover _ ?_ fun f => ?_)
    · simp [hcode.1]
    · cases f <;> simp [hcode, DhcpField.code, DhcpOptions.get, hb]
  next hsubnet =>
  split
  next hcode =>
    refine (safe_readBe32At (by omega)).bind fun b hb => safe_pure (hover _ ?_ fun f => ?_)
    · simp [hcode.1]
    · cases f <;> simp [hcode, DhcpField.code, DhcpOptions.get, hb]
  next hrouter =>
  split
  next hcode =>
    refine (safe_readBe32At (by omega)).bind fun b hb => safe_pure (hover _ ?_ fun f => ?_)
    · simp [hcode.1]
    · cases f <;> simp [hcode, DhcpField.code, DhcpOptions.get, hb]
  next hdns =>
    refine safe_pure (hover _ (by simp [htype]) fun f => ?_)
    cases f <;> simp [DhcpField.code, DhcpOptions.get] <;> grind

theorem dhcpTlvsFrom_nil : dhcpTlvsFrom fuel [] = [] := by
  cases fuel <;> rfl

theorem dhcpTlvsFrom_cons {rest : List UInt8} :
    dhcpTlvsFrom (fuel + 1) (code :: rest) =
      if code = 255 then []
      else if code = 0 then dhcpTlvsFrom fuel rest
      else
        match rest with
        | [] => []
        | len :: body =>
            if len.toNat > body.length then []
            else (code, body.take len.toNat) :: dhcpTlvsFrom fuel (body.drop len.toNat) := rfl

theorem safe_parseDhcpOptionsFrom_over (opts : List UInt8) {rounds off fuel : Nat}
    (hrounds : opts.length - off < rounds)
    (hfuel : opts.length - off ≤ fuel) (s : DhcpOptions) :
    Safe (DhcpOptions.Over (dhcpTlvsFrom fuel (opts.drop off)) s) (parseDhcpOptionsFrom opts rounds off s) := by
  induction rounds generalizing off fuel s with
  | zero => omega
  | succ rounds ih =>
      unfold parseDhcpOptionsFrom
      split
      next hoff =>
        obtain ⟨fuel, rfl⟩ : ∃ n, fuel = n + 1 := ⟨fuel - 1, by omega⟩
        refine (safe_readAt hoff).bind fun code hcode => ?_
        extract_lets next
        have hdrop : opts.drop off = code :: opts.drop next := by
          rw [List.drop_eq_getElem_cons hoff, ← Option.some.inj (hcode.symm.trans (List.getElem?_eq_getElem hoff))]
        rw [hdrop, dhcpTlvsFrom_cons]
        split
        · exact safe_pure DhcpOptions.over_nil
        split
        · exact ih (by omega) (show opts.length - next ≤ fuel by omega) s
        by_cases hend : next ≥ opts.length
        · rw [if_pos hend, List.drop_eq_nil_of_le hend]
          exact safe_pure DhcpOptions.over_nil
        rw [if_neg hend]
        refine (safe_readAt (by omega)).bind fun n hn => ?_
        have hdrop' : opts.drop next = n :: opts.drop (next + 1) := by
          rw [List.drop_eq_getElem_cons (by omega),
            ← Option.some.inj (hn.symm.trans (List.getElem?_eq_getElem (by omega)))]
        simp only [hdrop', List.length_drop, List.drop_drop]
        split
        next hlong =>
          rw [if_pos (by omega)]
          exact safe_pure DhcpOptions.over_nil
        next hfits =>
          rw [if_neg (by omega)]
          refine (safe_dhcpOption_over (by omega) s).bind fun t ht => ?_
          exact (ih (by omega) (by omega) t).mono fun u hu => ht.cons hu
      next hend =>
        rw [List.drop_eq_nil_of_le (by omega), dhcpTlvsFrom_nil]
        exact safe_pure DhcpOptions.over_nil

theorem safe_parseDhcpOptions_over (opts : List UInt8) (s : DhcpOptions) :
    Safe (DhcpOptions.Over (dhcpTlvs opts) s) (parseDhcpOptions opts s) := by
  have h : Safe (DhcpOptions.Over (dhcpTlvsFrom opts.length (opts.drop 0)) s) (parseDhcpOptionsFrom opts _ 0 s) :=
    safe_parseDhcpOptionsFrom_over opts (Nat.lt_succ_self _) (by simp) s
  simpa [dhcpTlvs, parseDhcpOptions] using h

end Options

/-! ## A wait -/

section Wait

variable {xid : UInt32} {wanted : UInt8} {frames : List Frame} {frame : Frame} {messages : List (List UInt8)}
variable {message packet : List UInt8} {f : DhcpField}

theorem safe_dhcpMessage (xid : UInt32) (packet : List UInt8) :
    Safe (fun r => ∀ m, r = some m → 240 ≤ m.length) (dhcpMessage xid packet) := by
  unfold dhcpMessage
  refine (safe_parseIpv4Udp packet).bind fun r _ => ?_
  cases r with
  | none => exact safe_pure (by simp)
  | some u =>
      dsimp only
      split
      · exact safe_pure (by simp)
      next hfixed =>
      refine (safe_readAt (by omega)).bind fun op _ => ?_
      split
      · exact safe_pure (by simp)
      refine (safe_readBe32At (by omega)).bind fun id _ => ?_
      split
      · exact safe_pure (by simp)
      refine (safe_readAt (by omega)).bind fun a _ => ?_
      refine (safe_readAt (by omega)).bind fun b _ => ?_
      refine (safe_readAt (by omega)).bind fun c _ => ?_
      refine (safe_readAt (by omega)).bind fun d _ => ?_
      split
      · exact safe_pure (by simp)
      · exact safe_pure (by grind)

theorem dhcpMessages_cons_none (h : frame.ethType = ethTypeIpv4 → dhcpMessage xid frame.data = .ok none) :
    dhcpMessages xid (frame :: frames) = dhcpMessages xid frames := by
  by_cases htype : frame.ethType = ethTypeIpv4 <;> simp [dhcpMessages, htype, h]

theorem dhcpMessages_cons_some (htype : frame.ethType = ethTypeIpv4)
    (h : dhcpMessage xid frame.data = .ok (some message)) :
    dhcpMessages xid (frame :: frames) = message :: dhcpMessages xid frames := by
  simp [dhcpMessages, htype, h]

theorem dhcpAccepted_cons_self (h : dhcpType message = wanted) :
    dhcpAccepted wanted (message :: messages) = some message := by
  simp [dhcpAccepted, h]

theorem dhcpTrace_cons_self (h : dhcpType message = wanted) : dhcpTrace wanted (message :: messages) f = none := by
  simp [dhcpTrace, dhcpRejected, h]

theorem dhcpAccepted_cons_of_ne (h : dhcpType message ≠ wanted) :
    dhcpAccepted wanted (message :: messages) = dhcpAccepted wanted messages := by
  simp [dhcpAccepted, h]

theorem dhcpTrace_cons_of_ne (h : dhcpType message ≠ wanted) :
    dhcpTrace wanted (message :: messages) f = (dhcpTrace wanted messages f).or (dhcpValue f message) := by
  cases hvalue : dhcpValue f message <;>
    simp [dhcpTrace, dhcpRejected, h, hvalue, List.getLast?_cons, Option.or_some]

/-- A wait ends with the address of the accepted message.  A result is what that message says of
it, or else what the last rejected message said, or else what it was before. -/
theorem waitDhcp_spec (xid : UInt32) (wanted : UInt8) (frames : List Frame) (s : DhcpOptions) :
    Safe (fun r => r.1 = (dhcpAccepted wanted (dhcpMessages xid frames)).map (fun m => readBe32 m 16) ∧
        ∀ f, r.2.get f = ((dhcpSaid wanted (dhcpMessages xid frames) f).or
          (dhcpTrace wanted (dhcpMessages xid frames) f)).getD (s.get f))
      (waitDhcp xid wanted frames s) := by
  induction frames generalizing s with
  | nil => exact safe_pure (by simp [dhcpMessages, dhcpAccepted, dhcpSaid, dhcpTrace, dhcpRejected])
  | cons frame frames ih =>
      unfold waitDhcp
      split
      next htype =>
        rw [dhcpMessages_cons_none fun h => absurd h htype]
        exact ih s
      next htype =>
        rw [not_not] at htype
        obtain ⟨r, hr, hfixed⟩ := safe_dhcpMessage xid frame.data
        rw [hr]
        cases r with
        | none =>
            rw [dhcpMessages_cons_none fun _ => hr]
            exact ih s
        | some message =>
            rw [dhcpMessages_cons_some htype hr]
            refine (safe_parseDhcpOptions_over _ _).bind fun t ht => ?_
            have hmsgType : t.msgType = dhcpType message := ht.type
            have hget (f : DhcpField) : t.get f = (dhcpValue f message).getD (s.get f) := by
              rw [ht.field, dhcpValue]
              cases f <;> rfl
            split
            next hwanted =>
              rw [hmsgType] at hwanted
              have hlong : 240 ≤ message.length := hfixed message rfl
              refine (safe_readBe32At (by omega)).bind fun yiaddr hyiaddr => safe_pure ⟨?_, fun f => ?_⟩
              · simp [dhcpAccepted_cons_self hwanted, hyiaddr]
              · simp [dhcpSaid, dhcpAccepted_cons_self hwanted, dhcpTrace_cons_self hwanted, hget]
            next hwanted =>
              rw [hmsgType] at hwanted
              refine (ih t).mono fun r hspec => ⟨?_, fun f => ?_⟩
              · rw [hspec.1, dhcpAccepted_cons_of_ne hwanted]
              · rw [hspec.2, hget, dhcpTrace_cons_of_ne hwanted, dhcpSaid, dhcpSaid, dhcpAccepted_cons_of_ne hwanted]
                simp only [Option.getD_or]

end Wait

/-! ## The lease -/

/-- The results are what the accepted message says; what it does not say is as in `unsaid`. -/
def FromAccepted (wanted : UInt8) (messages : List (List UInt8)) (unsaid : DhcpField → UInt32)
    (s : DhcpOptions) : Prop :=
  (dhcpAccepted wanted messages).isSome ∧ ∀ f, s.get f = (dhcpSaid wanted messages f).getD (unsaid f)

/-- What the accepted message does not say, the rejected ones have left as in `unsaid`. -/
def NoTrace (wanted : UInt8) (messages : List (List UInt8)) (start unsaid : DhcpField → UInt32) : Prop :=
  ∀ f, (dhcpSaid wanted messages f).isSome ∨ (dhcpTrace wanted messages f).getD (start f) = unsaid f

section Lease

variable {wanted : UInt8} {messages : List (List UInt8)} {start unsaid : DhcpField → UInt32} {s : DhcpOptions}

theorem fromAccepted_iff_noTrace (haccepted : (dhcpAccepted wanted messages).isSome)
    (hs : ∀ f, s.get f = ((dhcpSaid wanted messages f).or (dhcpTrace wanted messages f)).getD (start f)) :
    FromAccepted wanted messages unsaid s ↔ NoTrace wanted messages start unsaid := by
  rw [FromAccepted, and_iff_right haccepted]
  refine forall_congr' fun f => ?_
  rw [hs]
  cases dhcpSaid wanted messages f <;> simp

theorem NoTrace.congr_start {start' : DhcpField → UInt32} (h : ∀ f, start f = start' f) :
    NoTrace wanted messages start unsaid ↔ NoTrace wanted messages start' unsaid := by
  rw [funext h]

/-- A lease is what the accepted OFFER and the accepted ACK say, exactly if the rejected messages
left no trace: each result the accepted message does not give, no rejected one gave either (or
it gave the same value).  In the second wait a result is, before any message, what the OFFER
says of it; `unsaid` is what it should be if the ACK does not give it. -/
theorem dhcp_accepted_iff (net : DhcpInput) (unsaid : DhcpField → UInt32) :
    Safe (fun r => ∀ lease, r = some lease →
        ((FromAccepted 2 (dhcpMessages net.xid net.offers) (fun _ => 0) lease.offered ∧
            FromAccepted 5 (dhcpMessages net.xid net.acks) unsaid lease.acked) ↔
          NoTrace 2 (dhcpMessages net.xid net.offers) (fun _ => 0) (fun _ => 0) ∧
            NoTrace 5 (dhcpMessages net.xid net.acks)
              (fun f => (dhcpSaid 2 (dhcpMessages net.xid net.offers) f).getD 0) unsaid))
      (netstackConfigureIpv4Dhcp net) := by
  unfold netstackConfigureIpv4Dhcp
  split
  · exact safe_pure (by simp)
  refine (waitDhcp_spec net.xid 2 net.offers _).bind ?_
  rintro ⟨_ | offeredIp, offered⟩ ⟨hoffer, hoffered⟩
  · exact safe_pure (by simp)
  dsimp only
  split
  · exact safe_pure (by simp)
  refine (waitDhcp_spec net.xid 5 net.acks offered).bind ?_
  rintro ⟨_ | ip, acked⟩ ⟨hack, hacked⟩
  · exact safe_pure (by simp)
  refine safe_pure fun lease hlease => ?_
  obtain rfl := Option.some.inj hlease
  have hofferSome : (dhcpAccepted 2 (dhcpMessages net.xid net.offers)).isSome := by
    rw [← Option.isSome_map, ← hoffer, Option.isSome_some]
  have hackSome : (dhcpAccepted 5 (dhcpMessages net.xid net.acks)).isSome := by
    rw [← Option.isSome_map, ← hack, Option.isSome_some]
  have hfirst : FromAccepted 2 (dhcpMessages net.xid net.offers) (fun _ => 0) offered ↔
      NoTrace 2 (dhcpMessages net.xid net.offers) (fun _ => 0) fun _ => 0 :=
    fromAccepted_iff_noTrace hofferSome fun f => by rw [hoffered]; cases f <;> rfl
  have hsecond : FromAccepted 5 (dhcpMessages net.xid net.acks) unsaid acked ↔
      NoTrace 5 (dhcpMessages net.xid net.acks) offered.get unsaid :=
    fromAccepted_iff_noTrace hackSome hacked
  rw [← hfirst, hsecond]
  exact and_congr_right fun hfrom => NoTrace.congr_start hfrom.2

end Lease

/-! ## A refusal that leaves a router -/

/-- A message of the type from 10.0.0.1 to the broadcast address, with options. -/
def sampleDhcp (type : UInt8) (options : List UInt8) : List UInt8 :=
  [0x45, 0] ++ putBe16 (272 + options.length).toUInt16 ++ [0, 0, 0, 0, 64, 17, 0, 0, 10, 0, 0, 1, 255, 255, 255, 255] ++
    [0, 67, 0, 68] ++ putBe16 (252 + options.length).toUInt16 ++ [0, 0] ++
    [2, 1, 6, 0] ++ [0x4f, 0x5a, 0, 0] ++ List.replicate 8 0 ++ [10, 0, 0, 5] ++ List.replicate 216 0 ++
      [99, 130, 83, 99] ++ ([53, 1, type] ++ options ++ [255])

def sampleDhcpFrame (type : UInt8) (options : List UInt8) (h : options.length ≤ 100) : Frame where
  ethType := ethTypeIpv4
  data := sampleDhcp type options
  fits := by
    simp only [sampleDhcp, putBe16, List.length_append, List.length_cons, List.length_nil,
      List.length_replicate, netstackMtu]
    omega

/-- A refusal (type 6) names 10.0.0.9 as router; the OFFER and the ACK name none. -/
def sampleDhcpInput : DhcpInput where
  linkUp := true
  discoverSent := true
  requestSent := true
  xid := 0x4f5a0000
  offers := [sampleDhcpFrame 6 [3, 4, 10, 0, 0, 9] (by decide), sampleDhcpFrame 2 [] (by decide)]
  acks := [sampleDhcpFrame 5 [] (by decide)]

def sampleLease : DhcpLease where
  offered := ⟨2, 0, 0, 0x0a000009, 0⟩
  acked := ⟨5, 0, 0, 0x0a000009, 0⟩
  ip := 0x0a000005
  subnet := 0xffffff00
  gateway := 0x0a000009
  dns := 0x0a000009

theorem netstackConfigureIpv4Dhcp_sample : netstackConfigureIpv4Dhcp sampleDhcpInput = .ok (some sampleLease) := by
  decide +kernel

/-- The router of the refusal is configured, although no accepted message names one. -/
theorem dhcp_router_of_refusal :
    ¬ ∀ net lease, netstackConfigureIpv4Dhcp net = .ok (some lease) →
      FromAccepted 2 (dhcpMessages net.xid net.offers) (fun _ => 0) lease.offered ∧
        FromAccepted 5 (dhcpMessages net.xid net.acks) lease.offered.get lease.acked := by
  intro h
  obtain ⟨⟨-, hoffered⟩, -⟩ := h _ _ netstackConfigureIpv4Dhcp_sample
  have hrouter : dhcpSaid 2 (dhcpMessages sampleDhcpInput.xid sampleDhcpInput.offers) .router = none := by
    decide +kernel
  have hzero := hoffered .router
  rw [hrouter] at hzero
  exact absurd hzero (by decide)

end Orizon
