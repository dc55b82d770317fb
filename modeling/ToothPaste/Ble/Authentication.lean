import ToothPaste.Ble.Sample
import ToothPaste.Ble.Steps

/-!
# The published authentication and the session key

What clients are shown (`connected_device` as `Authenticated`) and what the task encrypts with
(the active session of the context) live in two objects. `AuthLinked` says how they belong
together: whenever the published state is `Authenticated`, the active session is the connected
device's and its AES key was derived from the latest challenge, which a run keeps as its history.

The link is not kept by all runs. `on_challenge` publishes `Authenticated` even when
`load_device_keys` failed, and a pairing while `Authenticated` replaces the active session by one
without an AES key. These are the only ways to break it.

* `authenticated_linked`: in every run without such steps the link holds in every state.
* `challenge_without_session`: a run with such a step that breaks it.
-/

namespace ToothPaste

namespace BleTask

open EcdhContext BleInterface

variable {SK PK : Type} {cr : Crates SK PK} {pb : Prost}

/-- The data of the latest challenge handed to `on_challenge`. -/
def lastChallenge (pb : Prost) (last : Option Bytes) (s : BleTask SK) (a : BleAction SK)
    (_ : BleTask SK) : Option Bytes :=
  match handledChallenge pb s a with
  | some (_, packet) => some packet.challengeData
  | none => last

/-- The active session is the connected device's, and its AES key is derived from `challenge`. -/
def HoldsKeyOf (cr : Crates SK PK) (i : BleInterface SK) (challenge : Option Bytes) : Prop :=
  ∃ deviceId session challengeData peer,
    i.deviceId = some deviceId ∧ i.ecdh.activeSession = some session ∧
    session.deviceId = deviceId ∧ challenge = some challengeData ∧
    cr.fromSec1Bytes session.peerPublicKey.toList = some peer ∧
    session.aesKey = some (challengeKey cr session.selfPrivateKey peer challengeData)

/-- Whenever the published state is `Authenticated`, the key it promises is there. -/
def AuthLinked (cr : Crates SK PK) (i : BleInterface SK) (challenge : Option Bytes) : Prop :=
  i.appState.isAuthenticated = true → HoldsKeyOf cr i challenge

/-- `load_device_keys` succeeds for a device, with a session of that device. -/
def loads (cr : Crates SK PK) (c : EcdhContext SK) (deviceId : String) : Bool :=
  match storedSession cr c.storage deviceId with
  | .error _ => false
  | .ok session =>
    c.hasSession deviceId && session.deviceId == deviceId &&
      (cr.fromSec1Bytes session.peerPublicKey.toList).isSome

theorem loads_iff {c : EcdhContext SK} {deviceId : String} :
    loads cr c deviceId = true ↔ ∃ session peer, c.Finds cr deviceId session ∧
      session.deviceId = deviceId ∧ cr.fromSec1Bytes session.peerPublicKey.toList = some peer := by
  unfold loads
  cases hstored : storedSession cr c.storage deviceId with
  | error e => simp [Finds, hstored]
  | ok session => simp [Finds, hstored, Option.isSome_iff_exists, and_assoc]

/-- The condition on a step: a challenge finds a session that loads, and a key that can be paired
is not taken while the published state is `Authenticated`. -/
def linkKept (cr : Crates SK PK) (pb : Prost) (s : BleTask SK) (a : BleAction SK) : Bool :=
  (match handledChallenge pb s a with
    | some (deviceId, _) => loads cr s.iface.ecdh deviceId
    | none => true) &&
  (match handledPairing s a with
    | some (_, pubKey) => !(s.iface.appState.isAuthenticated && pairable cr pubKey)
    | none => true)

/-! ## Steps -/

/-- Nobody is authenticated, so that there is nothing to show. -/
theorem authLinked_of_not {i : BleInterface SK} {challenge : Option Bytes}
    (h : i.appState.isAuthenticated = false) : AuthLinked cr i challenge := by
  intro hauth
  rw [h] at hauth
  cases hauth

/-- The link only depends on the keys, the device id and on whether `Authenticated` is shown. -/
theorem AuthLinked.congr {i j : BleInterface SK} {challenge : Option Bytes}
    (h : AuthLinked cr i challenge) (hecdh : j.ecdh = i.ecdh) (hid : j.deviceId = i.deviceId)
    (hauth : j.appState.isAuthenticated = true → i.appState.isAuthenticated = true) :
    AuthLinked cr j challenge := by
  intro hj
  obtain ⟨deviceId, session, data, peer, hi, hactive, hrest⟩ := h (hauth hj)
  exact ⟨deviceId, session, data, peer, hid.trans hi, by rw [hecdh, hactive], hrest⟩

/-- A challenge that loads sets the key it is about. -/
theorem authLinked_onChallenge {i : BleInterface SK} {deviceId : String}
    (hid : i.deviceId = some deviceId) (hloads : loads cr i.ecdh deviceId = true)
    (challengeData : Bytes) (firmwareVersion : String) :
    AuthLinked cr (i.onChallenge cr deviceId challengeData firmwareVersion).2
      (some challengeData) := by
  obtain ⟨session, peer, hfinds, hdevice, hpeer⟩ := loads_iff.mp hloads
  obtain ⟨hecdh, -, hid'⟩ :=
    i.onChallenge_spec cr deviceId challengeData firmwareVersion
  have hload := loadDeviceKeys_of_finds hfinds challengeData
  rw [hpeer] at hload
  refine fun _ => ⟨deviceId, session.keyed cr (challengeKey cr session.selfPrivateKey peer
    challengeData), challengeData, peer, hid'.trans hid, ?_, hdevice, rfl, hpeer, rfl⟩
  rw [hecdh, hload, activate_activeSession]

/-- A pairing that the condition admits leaves the link. -/
theorem authLinked_pair (hcr : cr.Lawful) {i : BleInterface SK} (hlinked : i.Linked)
    {challenge : Option Bytes} (h : AuthLinked cr i challenge) (deviceId pubKey : String)
    (env : PairEnv SK)
    (hkept : i.appState.isAuthenticated = true → pairable cr pubKey = false) :
    AuthLinked cr (i.handlePairDevice cr pb deviceId pubKey env).2 challenge := by
  by_cases hauth : i.appState.isAuthenticated = true
  -- the condition leaves only keys that change nothing
  · rcases handlePairDevice_cases hcr pb hlinked deviceId pubKey env with
        ⟨-, hpair⟩ | ⟨bytes, -, -, hparse, ⟨peer, hpeer⟩, -, -⟩
    · rw [hpair]; exact h
    · have hnone := pairable_eq_false_iff.mp (hkept hauth) bytes hparse
      simp [hnone] at hpeer
  -- a pairing does not touch the published state
  · obtain ⟨ecdh, values, hpair⟩ :=
      handlePairDevice_eq hcr pb hlinked deviceId pubKey env
    rw [hpair]
    exact authLinked_of_not (by simpa using hauth)

/-- Every step that meets the condition keeps the link. -/
theorem authLinked_step (hcr : cr.Lawful) {s t : BleTask SK} {a : BleAction SK}
    {last : Option Bytes} (hwf : WellFormed s.phase s.iface) (h : AuthLinked cr s.iface last)
    (hkept : linkKept cr pb s a = true) (hm : Moves cr pb s a t) :
    AuthLinked cr t.iface (lastChallenge pb last s a t) := by
  cases hm with
  | putInput | putCommand | notify | notifyLost | endStream => exact h
  | @idleCommand env cmd rest hphase hcmd =>
    have hidle := idleStep_keeps cr pb hwf hphase cmd rest env
    rw [hphase] at hwf
    exact authLinked_of_not
      (by rw [isAuthenticated_congr hidle.connectedDevice, hwf.unauthenticated rfl])
  | @command env deviceId cmd rest hphase hcmd =>
    rw [after_iface]
    rcases handleCommand_cases hcr pb hwf.linked deviceId cmd env.pair env.send with
        ⟨device, pubKey, rfl, hpair⟩ | ⟨-, r, values, hsend, -⟩
    · rw [hpair]
      refine authLinked_pair hcr hwf.linked h deviceId pubKey env.pair fun hauth => ?_
      rw [linkKept, handledPairing_eq hphase hcmd] at hkept
      simpa [handledChallenge, hauth] using hkept
    · rw [hsend]
      exact h.congr rfl rfl id
  | @greet write device hphase =>
    obtain ⟨values, hgreet, -⟩ := greet_spec cr pb hwf.linked write
    rw [hgreet]
    exact h.congr rfl rfl id
  | publish hphase hid => exact authLinked_of_not rfl
  | publishNone hphase hid => exact authLinked_of_not rfl
  | subscribe hphase hok => exact h
  | subscribeFails hphase => exact h
  | openStream hphase => exact h
  | openStreamFails hphase => exact h
  | @recvInput envs deviceId event rest hphase hevent =>
    obtain ⟨values, hinput, -⟩ := handleInputEvent_spec hcr pb hwf.linked event envs
    rw [hinput]
    exact h.congr rfl rfl id
  | @recvNotification deviceId n rest hphase hn =>
    rw [after_iface, lastChallenge, handledChallenge_eq hphase hn]
    cases hchallenge : challengeOf pb n with
    | none =>
      obtain ⟨hecdh, -, hid, hauth⟩ :=
        s.iface.handleNotification_other cr deviceId hchallenge
      exact h.congr hecdh hid hauth
    | some packet =>
      rw [linkKept, handledChallenge_eq hphase hn, hchallenge] at hkept
      rw [s.iface.handleNotification_challenge cr deviceId hchallenge]
      exact authLinked_onChallenge (hwf.device deviceId (by rw [hphase]; rfl))
        (by simpa [handledPairing] using hkept) _ _

/-! ## Runs -/

/-- The task with its latest challenge. -/
def withLastChallenge (cr : Crates SK PK) (pb : Prost) :
    Transition.System (BleTask SK × Option Bytes) (BleAction SK) :=
  (bleTask cr pb).withHistory none (lastChallenge pb)

/-- In every run in which each challenge finds a session of the connected device that loads, and
in which no key that can be paired is taken while `Authenticated` is published: in every state in
which `Authenticated` is published, the active session is the connected device's and its AES key
is derived from the latest challenge. -/
theorem authenticated_linked (hcr : cr.Lawful) {p : BleTask SK × Option Bytes}
    (h : (withLastChallenge cr pb).ReachableVia (fun p a => linkKept cr pb p.1 a = true) p) :
    p.1.iface.appState.isAuthenticated = true → HoldsKeyOf cr p.1.iface p.2 := by
  suffices WellFormed p.1.phase p.1.iface ∧ AuthLinked cr p.1.iface p.2 from this.2
  refine h.invariant_withHistory
    (I := fun s last => WellFormed s.phase s.iface ∧ AuthLinked cr s.iface last) ?_ ?_
  · rintro s ⟨storage, rfl⟩
    exact ⟨wellFormed_start storage, authLinked_of_not rfl⟩
  · rintro s last a t ⟨hwf, hlinked⟩ hkept hst
    exact ⟨wellFormed_step hcr hwf (moves_of_step hst),
      authLinked_step hcr hwf hlinked hkept (moves_of_step hst)⟩

/-- A device is connected, paired and challenged: `Authenticated` is published with its key. -/
theorem authenticated_linked_sample :
    ∃ p : BleTask UInt8 × Option Bytes, p.1.iface.appState.isAuthenticated = true ∧
      HoldsKeyOf sampleCrates p.1.iface p.2 := by
  have hrun : ((withLastChallenge sampleCrates Sample.prost).replay
      (fun p a => linkKept sampleCrates Sample.prost p.1 a = true) (Sample.startTask, none)
      (Sample.connectRun ++ Sample.pairRun 3 5 ++ Sample.challengeRun [9])).map
        (fun p => p.1.iface.appState.isAuthenticated) = some true := by decide +kernel
  obtain ⟨p, hp, hauth⟩ := Option.map_eq_some_iff.mp hrun
  exact ⟨p, hauth, authenticated_linked sampleCrates_lawful
    (.of_replay _ (.init ⟨⟨_, rfl⟩, rfl⟩) hp) hauth⟩

/-- The link breaks: a device that was never paired sends a challenge, `load_device_keys` returns
`Err`, and `Authenticated` is published although there is no active session at all. -/
theorem challenge_without_session :
    ¬ ∀ p : BleTask UInt8 × Option Bytes,
      (withLastChallenge sampleCrates Sample.prost).Reachable p →
        p.1.iface.appState.isAuthenticated = true → HoldsKeyOf sampleCrates p.1.iface p.2 := by
  intro hlinked
  have hrun : ((withLastChallenge sampleCrates Sample.prost).replay (fun _ _ => True)
      (Sample.startTask, none) (Sample.connectRun ++ Sample.challengeRun [9])).map
        (fun p => (p.1.iface.appState.isAuthenticated, p.1.iface.ecdh.activeSession.isNone)) =
      some (true, true) := by decide +kernel
  obtain ⟨p, hp, hfacts⟩ := Option.map_eq_some_iff.mp hrun
  obtain ⟨hauth, hnone⟩ := Prod.mk.inj hfacts
  -- the device has no stored session, so that the failed load has made none active
  obtain ⟨-, session, -, -, -, hactive, -⟩ :=
    hlinked p (.of_replay _ (.init ⟨⟨_, rfl⟩, rfl⟩) hp) hauth
  rw [hactive] at hnone
  cases hnone

end BleTask

end ToothPaste
