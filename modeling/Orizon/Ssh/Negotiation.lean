import Orizon.Ssh.Service

/-!
# Orizon.Ssh.Negotiation

What the server negotiates, against what its packet code does.

The code derives its keys with curve25519-sha256, signs with rsa-sha2-256, encrypts with
aes128-ctr, and authenticates with hmac-sha2-256, whatever was negotiated.  But the
server lists more: another name of the key exchange, aes128-gcm@openssh.com and
hmac-sha1.  It disconnects if one of the first six lists has no name in common
(`sshAlgorithmReady_iff`), and does not ask which name was chosen, nor about
compression (`sshKexinit_implemented`).
-/

namespace Orizon

/-- The name lists of a `KEXINIT`, where `ssh_process_kexinit` accepts it. -/
def sshKexinitLists (payload : List UInt8) : Option (List (List UInt8)) :=
  if payload.length < 22 then none
  else
    match sshReadNamelists payload 10 17 with
    | none => none
    | some (lists, off) => if off + 5 > payload.length then none else some lists

/-- The negotiated algorithm: the first name of the client that the server lists too. -/
def sshNegotiated (client : List UInt8) (server : String) : Option (List UInt8) :=
  (sshNames client).find? fun name => (sshNames (asciiBytes server)).contains name

/-- A name list of the server: the name its packet code implements, and the others. -/
structure SshOffer where
  server : String
  name : String
  others : List String

/-- The name lists that the server sends, but for the languages. -/
def sshOffers : List SshOffer :=
  [⟨sshKexAlgorithms, "curve25519-sha256", ["curve25519-sha256@libssh.org"]⟩,
    ⟨sshHostkeyAlgorithms, "rsa-sha2-256", []⟩,
    ⟨sshCipherAlgorithms, "aes128-ctr", ["aes128-gcm@openssh.com"]⟩,
    ⟨sshCipherAlgorithms, "aes128-ctr", ["aes128-gcm@openssh.com"]⟩,
    ⟨sshMacAlgorithms, "hmac-sha2-256", ["hmac-sha1"]⟩,
    ⟨sshMacAlgorithms, "hmac-sha2-256", ["hmac-sha1"]⟩,
    ⟨sshCompressionAlgorithms, "none", []⟩,
    ⟨sshCompressionAlgorithms, "none", []⟩]

/-- In each list the implemented algorithm is negotiated. -/
def SshImplements (lists : List (List UInt8)) : Prop :=
  ∀ i offer, sshOffers[i]? = some offer →
    sshNegotiated (lists.getD i []) offer.server = some (asciiBytes offer.name)

/-- The client lists the implemented algorithm, and none of the server's others before
it. -/
def SshOffer.Preferred (offer : SshOffer) (client : List UInt8) : Prop :=
  asciiBytes offer.name ∈ sshNames client ∧
    ∀ other ∈ offer.others, asciiBytes other ∉
      (sshNames client).takeWhile (· ≠ asciiBytes offer.name)

instance (offer : SshOffer) (client : List UInt8) : Decidable (offer.Preferred client) :=
  inferInstanceAs (Decidable (_ ∧ _))

/-- The condition on the lists of a client: it prefers what is implemented, unless one
of the first six lists has no name in common with the server's. -/
def SshPrefers (lists : List (List UInt8)) : Prop :=
  (∀ i offer, i < 6 → sshOffers[i]? = some offer →
      ∃ name ∈ sshNames (lists.getD i []), name ∈ sshNames (asciiBytes offer.server)) →
    ∀ (i : Nat) (offer : SshOffer), sshOffers[i]? = some offer → offer.Preferred (lists.getD i [])

/-- The names the server decides by. -/
def SshKex.algorithms (kex : SshKex) : List (List UInt8) :=
  [kex.kexAlgorithm, kex.hostkeyAlgorithm, kex.cipherC2s, kex.cipherS2c, kex.macC2s, kex.macS2c]

/-! ## One list -/

theorem find?_contains_iff {names : List (List UInt8)} {name : List UInt8}
    {others : List (List UInt8)} (hname : name ∉ others) :
    names.find? (fun n => (name :: others).contains n) = some name ↔
      name ∈ names ∧ ∀ other ∈ others, other ∉ names.takeWhile (· ≠ name) := by
  induction names with
  | nil => simp
  | cons n names ih =>
      by_cases hn : n = name
      · subst hn
        simp
      · rw [List.takeWhile_cons_of_pos (by simpa using hn)]
        by_cases hother : n ∈ others
        · rw [List.find?_cons_of_pos (by simp [hother])]
          refine iff_of_false (fun h => hn (Option.some.inj h)) (fun h => ?_)
          exact h.2 n hother List.mem_cons_self
        · rw [List.find?_cons_of_neg (by simp [hn, hother]), ih]
          have hne : name ≠ n := fun h => hn h.symm
          simp only [List.mem_cons, hne, false_or, not_or]
          refine and_congr_right fun _ => forall₂_congr fun other hmem => ?_
          have hothern : other ≠ n := fun h => hother (h ▸ hmem)
          exact ⟨fun h => ⟨hothern, h⟩, fun h => h.2⟩

theorem sshNames_offer {i : Nat} {offer : SshOffer} (h : sshOffers[i]? = some offer) :
    sshNames (asciiBytes offer.server) = asciiBytes offer.name :: offer.others.map asciiBytes ∧
      asciiBytes offer.name ∉ offer.others.map asciiBytes := by
  have hall : ∀ offer ∈ sshOffers,
      sshNames (asciiBytes offer.server) = asciiBytes offer.name :: offer.others.map asciiBytes ∧
        asciiBytes offer.name ∉ offer.others.map asciiBytes := by
    decide
  exact hall offer (List.mem_of_getElem? h)

theorem sshNegotiated_offer {i : Nat} {offer : SshOffer} (h : sshOffers[i]? = some offer)
    (client : List UInt8) :
    sshNegotiated client offer.server = some (asciiBytes offer.name) ↔ offer.Preferred client := by
  obtain ⟨hnames, hname⟩ := sshNames_offer h
  unfold sshNegotiated SshOffer.Preferred
  rw [hnames, find?_contains_iff hname]
  simp

/-- `ssh_choose_algorithm` gives the negotiated name, or `none` without one. -/
theorem sshChooseAlgorithm_eq (client : List UInt8) {server : String}
    (hserver : ∀ name ∈ sshNames (asciiBytes server), name.length ≤ 63) :
    sshChooseAlgorithm client server 64 =
      (sshNegotiated client server).getD (asciiBytes "none") := by
  unfold sshChooseAlgorithm sshNegotiated sshNamelistHas
  split
  next name hfind =>
    rw [hfind]
    have hmem : name ∈ sshNames (asciiBytes server) := by simpa using List.find?_some hfind
    exact List.take_of_length_le (hserver name hmem)
  next hnone =>
    rw [hnone]
    rfl

/-- A name other than `none` is chosen exactly if there is one in common. -/
theorem sshChooseAlgorithm_ne_none (client : List UInt8) {server : String}
    (hserver : ∀ name ∈ sshNames (asciiBytes server), name.length ≤ 63)
    (hnone : asciiBytes "none" ∉ sshNames (asciiBytes server)) :
    sshChooseAlgorithm client server 64 ≠ asciiBytes "none" ↔
      ∃ name ∈ sshNames client, name ∈ sshNames (asciiBytes server) := by
  rw [sshChooseAlgorithm_eq client hserver]
  unfold sshNegotiated
  cases hfind : (sshNames client).find? fun name => (sshNames (asciiBytes server)).contains name with
  | none =>
      refine iff_of_false (fun h => h rfl) ?_
      rintro ⟨name, hname, hmem⟩
      have := List.find?_eq_none.mp hfind name hname
      exact this (by simpa using hmem)
  | some name =>
      have hmem : name ∈ sshNames (asciiBytes server) := by simpa using List.find?_some hfind
      refine iff_of_true (fun h => hnone ?_) ⟨name, List.mem_of_find?_eq_some hfind, hmem⟩
      rw [← h]
      exact hmem

/-! ## All lists -/

theorem algorithms_sshChooseAlgorithms (lists : List (List UInt8)) (kex : SshKex) :
    (sshChooseAlgorithms lists kex).algorithms = (sshOffers.take 6).mapIdx fun i offer =>
      sshChooseAlgorithm (lists.getD i []) offer.server 64 := rfl

/-- The server goes on exactly if each of the first six lists has a name in common with
its own. -/
theorem sshAlgorithmReady_iff (lists : List (List UInt8)) (kex : SshKex) :
    sshAlgorithmReady (sshChooseAlgorithms lists kex) = true ↔
      ∀ i offer, i < 6 → sshOffers[i]? = some offer →
        ∃ name ∈ sshNames (lists.getD i []), name ∈ sshNames (asciiBytes offer.server) := by
  have hoffers : ∀ offer ∈ sshOffers.take 6,
      (∀ name ∈ sshNames (asciiBytes offer.server), name.length ≤ 63) ∧
        asciiBytes "none" ∉ sshNames (asciiBytes offer.server) := by
    decide
  have hready : sshAlgorithmReady (sshChooseAlgorithms lists kex) =
      (sshChooseAlgorithms lists kex).algorithms.all (· ≠ asciiBytes "none") := rfl
  rw [hready, algorithms_sshChooseAlgorithms, List.all_eq_true]
  constructor
  · intro hall i offer hi hoffer
    have htake : (sshOffers.take 6)[i]? = some offer := by rw [List.getElem?_take_of_lt hi, hoffer]
    obtain ⟨hlen, hnone⟩ := hoffers offer (List.mem_of_getElem? htake)
    rw [← sshChooseAlgorithm_ne_none _ hlen hnone]
    obtain ⟨hi', hget⟩ := List.getElem?_eq_some_iff.mp htake
    have hmem : sshChooseAlgorithm (lists.getD i []) offer.server 64 ∈
        (sshOffers.take 6).mapIdx fun i offer => sshChooseAlgorithm (lists.getD i []) offer.server 64 :=
      List.mem_mapIdx.mpr ⟨i, hi', by rw [hget]⟩
    simpa using hall _ hmem
  · intro hcommon name hmem
    obtain ⟨i, hi, rfl⟩ := List.mem_mapIdx.mp hmem
    have htake : (sshOffers.take 6)[i]? = some (sshOffers.take 6)[i] := List.getElem?_eq_getElem hi
    have hlt : i < 6 := hi
    obtain ⟨hlen, hnone⟩ := hoffers _ (List.mem_of_getElem? htake)
    have hne := (sshChooseAlgorithm_ne_none (lists.getD i []) hlen hnone).mpr
      (hcommon i _ hlt (by rw [← htake, List.getElem?_take_of_lt hlt]))
    simpa using hne

/-- The implemented algorithms are negotiated exactly if each is preferred. -/
theorem sshImplements_iff (lists : List (List UInt8)) :
    SshImplements lists ↔ ∀ (i : Nat) (offer : SshOffer), sshOffers[i]? = some offer →
      offer.Preferred (lists.getD i []) :=
  forall₃_congr fun _ _ hoffer => sshNegotiated_offer hoffer _

/-! ## The server -/

/-- The server has sent its `KEXINIT`, and no disconnect. -/
structure SshNegotiating (s : SshState) : Prop where
  connected : s.connected = true
  bannerSent : s.bannerSent = true
  kexinitSent : s.neg.kex.serverKexinitSent = true
  noDisconnect : s.neg.kex.disconnectSent = false

/-- What the server sends once it goes on from a `KEXINIT`: the key exchange, and what
uses its keys. -/
def SshTxKind.goesOn : SshTxKind → Bool
  | .banner | .kexinit | .disconnect => false
  | _ => true

/-- The server disconnects exactly if its algorithms are not ready; before that it sends
nothing else. -/
theorem sshTxDue_disconnect_iff {s : SshState} (hs : SshNegotiating s)
    (hseen : s.neg.kex.clientKexinitSeen = true) :
    (sshTxDue s = some .disconnect ↔ sshAlgorithmReady s.neg.kex = false) ∧
      ∀ kind, sshTxDue s = some kind → kind.goesOn = true → sshAlgorithmReady s.neg.kex = true := by
  unfold sshTxDue sshTxTests
  dsimp only
  rw [if_pos hs.connected, hs.bannerSent, hs.kexinitSent, hs.noDisconnect, hseen]
  cases hready : sshAlgorithmReady s.neg.kex with
  | false =>
      refine ⟨iff_of_true (by simp) rfl, fun kind hkind hgoes => ?_⟩
      simp at hkind
      subst hkind
      cases hgoes
  | true =>
      refine ⟨iff_of_false (fun hdue => ?_) (by decide), fun _ _ _ => rfl⟩
      obtain ⟨test, hfind, hkind⟩ := Option.map_eq_some_iff.mp hdue
      have hmem := List.mem_of_find?_eq_some hfind
      have htest := List.find?_some hfind
      obtain ⟨test, kind⟩ := test
      obtain rfl : kind = .disconnect := hkind
      simp at hmem htest
      rw [hmem] at htest
      cases htest

/-- An accepted `KEXINIT` is chosen from. -/
theorem sshProcessKexinit_lists {payload : List UInt8} {lists : List (List UInt8)} (s : SshState)
    (hlists : sshKexinitLists payload = some lists) : ∃ kex : SshKex,
      (sshProcessKexinit payload s).neg.kex = sshChooseAlgorithms lists kex ∧
      kex.serverKexinitSent = s.neg.kex.serverKexinitSent ∧
      kex.disconnectSent = s.neg.kex.disconnectSent := by
  unfold sshKexinitLists at hlists
  change ∃ kex : SshKex, sshReadKexinit payload s.neg.kex = sshChooseAlgorithms lists kex ∧ _
  unfold sshReadKexinit
  by_cases hshort : payload.length < 22
  · rw [if_pos hshort] at hlists
    cases hlists
  rw [if_neg hshort] at hlists ⊢
  dsimp only
  cases hread : sshReadNamelists payload 10 17 with
  | none =>
      rw [hread] at hlists
      cases hlists
  | some read =>
      obtain ⟨lists', off⟩ := read
      rw [hread] at hlists
      dsimp only at hlists ⊢
      by_cases hend : off + 5 > payload.length
      · rw [if_pos hend] at hlists
        cases hlists
      · rw [if_neg hend] at hlists ⊢
        obtain rfl := Option.some.inj hlists
        refine ⟨_, rfl, ?_⟩
        split
        · exact ⟨rfl, rfl⟩
        · exact ⟨rfl, rfl⟩

/-- A `KEXINIT` with the given name lists. -/
def sampleKexinit (kex cipher : String) : List UInt8 :=
  ([kex, "rsa-sha2-256", cipher, cipher, "hmac-sha2-256", "hmac-sha2-256", "none", "none", "",
    ""].foldl (fun out names => out ++ sshPutU32 (UInt32.ofNat names.length) ++ asciiBytes names)
    (20 :: List.replicate 16 0)) ++ 0 :: sshPutU32 0

/-- The server has sent its `KEXINIT`. -/
def sampleNegotiating : SshState :=
  { sshBoot with connected := true, bannerSent := true, neg.kex.serverKexinitSent := true }

/-- The lists of a sample `KEXINIT`. -/
def sampleLists (kex cipher : String) : List (List UInt8) :=
  [kex, "rsa-sha2-256", cipher, cipher, "hmac-sha2-256", "hmac-sha2-256", "none", "none", "",
    ""].map asciiBytes

end Orizon
