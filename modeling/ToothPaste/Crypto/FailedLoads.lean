import ToothPaste.Crates.Sample
import ToothPaste.Crypto.Spec
import ToothPaste.Lib.History
import ToothPaste.Lib.Transition

/-!
# Failed loads

`load_device_keys` can fail in five places. It fails in four of them before it touches the active
session, and in the last, where the AES key is derived, after it has replaced it. A context is used
here through its public methods, in any order, with the calls it has taken.

* `failed_loads_keep_iff`: in every run, the loads that fail leave the active session and its AES
  key as they were exactly when none of them finds a session whose peer key is no point.
* `failed_load_loses_key`: a load that fails and leaves no AES key.
-/

namespace ToothPaste

/-- A call of a method of `EcdhContext`, with what the method draws. -/
inductive ContextCall (SK : Type) where
  | generateDeviceKeys (deviceId : String) (peerPublicKey : ByteArr 65) (privateKey : SK)
  | pairNewDevice (peerKey : ByteArr 33) (deviceId : String) (privateKey : SK) (env : SaveEnv)
  | saveSession (env : SaveEnv)
  | loadDeviceKeys (deviceId : String) (challengeData : Bytes)
  | setActiveDevice (deviceId : String)
  | clearSession

namespace EcdhContext

variable {SK PK : Type} (cr : Crates SK PK)

/-- A call: whether it returned `Err`, and the context after it. -/
def call (c : EcdhContext SK) : ContextCall SK → Bool × EcdhContext SK
  | .generateDeviceKeys deviceId peerPublicKey privateKey =>
    let r := generateDeviceKeys cr c deviceId peerPublicKey privateKey
    (!r.1.isOk, r.2)
  | .pairNewDevice peerKey deviceId privateKey env =>
    let r := pairNewDevice cr c peerKey deviceId privateKey env
    (!r.1.isOk, r.2)
  | .saveSession env =>
    let r := saveSession cr c env
    (!r.1.isOk, r.2)
  | .loadDeviceKeys deviceId challengeData =>
    let r := loadDeviceKeys cr c deviceId challengeData
    (!r.1.isOk, r.2)
  | .setActiveDevice deviceId =>
    let r := setActiveDevice cr c deviceId
    (!r.1.isOk, r.2)
  | .clearSession => (false, c.clearSession)

/-- The device of a call that loads a session. -/
def loads : ContextCall SK → Option String
  | .loadDeviceKeys deviceId _ | .setActiveDevice deviceId => some deviceId
  | _ => none

/-- A context over any store, used through its methods. -/
def inUse : Transition.System (EcdhContext SK) (ContextCall SK) where
  Init c := ∃ storage, c = .new storage
  step c a := some (c.call cr a).2

/-- A call that was made, with the context before and after it. -/
structure CallRecord (SK : Type) where
  before : EcdhContext SK
  call : ContextCall SK
  failed : Bool
  after : EcdhContext SK

/-- The context with the calls made so far. -/
def withCalls : Transition.System (EcdhContext SK × List (CallRecord SK)) (ContextCall SK) :=
  (inUse cr).withHistory [] fun calls c a c' => calls ++ [⟨c, a, (c.call cr a).1, c'⟩]

/-! ## One load -/

/-- The active session and its AES key are the same, so that encryption and decryption are. -/
structure SameSession (c c' : EcdhContext SK) : Prop where
  session : c'.activeSession = c.activeSession
  key : c'.activeKey = c.activeKey
  encrypt : ∀ data nonce, c'.encryptBytes cr data nonce = c.encryptBytes cr data nonce
  decrypt : ∀ data, c'.decryptBytes cr data = c.decryptBytes cr data

theorem sameSession_iff (c c' : EcdhContext SK) :
    SameSession cr c c' ↔ c'.activeSession = c.activeSession := by
  refine ⟨SameSession.session, fun h => ?_⟩
  have hkey : c'.activeKey = c.activeKey := by rw [activeKey, activeKey, h]
  refine ⟨h, hkey, fun data nonce => ?_, fun data => ?_⟩
  · rw [encryptBytes, encryptBytes, hkey]
  · rw [decryptBytes, decryptBytes, hkey]

/-- The session that is stored for the device can be made active: its peer key is a point. A session
that is active already can be made so again. -/
def Loadable (c : EcdhContext SK) (deviceId : String) : Prop :=
  ∀ session, c.Finds cr deviceId session →
    cr.fromSec1Bytes session.peerPublicKey.toList ≠ none ∨ c.activeSession = some session

/-- A load that fails leaves the session as it was exactly when what it finds can be made
active. -/
theorem failed_load_iff (c : EcdhContext SK) (deviceId : String) (challengeData : Bytes) :
    ((loadDeviceKeys cr c deviceId challengeData).1.isOk = false →
      (loadDeviceKeys cr c deviceId challengeData).2.activeSession = c.activeSession) ↔
      c.Loadable cr deviceId := by
  rcases loadDeviceKeys_cases cr c deviceId challengeData with
      ⟨e, hnone, hload⟩ | ⟨e, session, hfinds, hpeer, hload⟩ | ⟨session, peer, hfinds, hpeer, hload⟩
  -- no session is found, and the context stays as it is
  · rw [hload]
    exact iff_of_true (fun _ => rfl) fun session hfinds => absurd hfinds (hnone session)
  -- a session is found and made active, and its peer key is no point
  · rw [hload, activate_activeSession]
    constructor
    · intro hkept session' hfinds'
      obtain rfl : session = session' := Except.ok.inj (hfinds.2.symm.trans hfinds'.2)
      exact .inr (hkept rfl).symm
    · intro hloadable _
      exact ((hloadable session hfinds).resolve_left (not_not_intro hpeer)).symm
  -- the load succeeds
  · rw [hload]
    refine iff_of_true nofun fun session' hfinds' => .inl ?_
    obtain rfl : session = session' := Except.ok.inj (hfinds.2.symm.trans hfinds'.2)
    simp [hpeer]

/-! ## Runs -/

/-- A call that was made: if it was a load and failed, it left the session as it was. -/
def FailedLoadKeeps (_ : List (CallRecord SK)) (r : CallRecord SK) : Prop :=
  ∀ deviceId, loads r.call = some deviceId → r.failed = true → SameSession cr r.before r.after

/-- A call that is to be made: if it is a load, the session it finds can be made active. -/
def LoadsValid (_ : List (CallRecord SK)) (r : CallRecord SK) : Prop :=
  ∀ deviceId, loads r.call = some deviceId → r.before.Loadable cr deviceId

variable {cr}

/-- Every call that was made ended as the method does. -/
theorem call_of_reachable {p : EcdhContext SK × List (CallRecord SK)}
    (h : (withCalls cr).Reachable p) :
    History.Each (fun _ r => (r.failed, r.after) = r.before.call cr r.call) p.2 := by
  refine h.invariant_withHistory (fun _ _ => History.each_nil) ?_
  intro c calls a c' hcalls _ hstep
  refine (History.each_concat _ _).mpr ⟨hcalls, ?_⟩
  obtain rfl := Option.some.inj hstep
  rfl

/-- The law for one call. -/
theorem failedLoadKeeps_iff {r : CallRecord SK}
    (hcall : (r.failed, r.after) = r.before.call cr r.call) (earlier : List (CallRecord SK)) :
    FailedLoadKeeps cr earlier r ↔ LoadsValid cr earlier r := by
  obtain ⟨before, call, failed, after⟩ := r
  obtain ⟨hfailed, hafter⟩ := Prod.mk.inj hcall
  simp only [FailedLoadKeeps, LoadsValid, sameSession_iff]
  cases call with
  | loadDeviceKeys deviceId challengeData =>
    have hload := failed_load_iff cr before deviceId challengeData
    dsimp only [EcdhContext.call] at hfailed hafter
    simp only [loads, Option.some.injEq, forall_eq', hfailed, hafter, Bool.not_eq_true']
    exact hload
  | setActiveDevice deviceId =>
    have hload := failed_load_iff cr before deviceId []
    have hok : (setActiveDevice cr before deviceId).1.isOk =
        (loadDeviceKeys cr before deviceId []).1.isOk := by
      unfold setActiveDevice
      cases loadDeviceKeys cr before deviceId [] with
      | mk result c => cases result <;> rfl
    dsimp only [EcdhContext.call] at hfailed hafter
    rw [hok] at hfailed
    simp only [loads, Option.some.injEq, forall_eq', hfailed, hafter, Bool.not_eq_true']
    exact hload
  | generateDeviceKeys | pairNewDevice | saveSession | clearSession => simp [loads]

/-- In every run of the methods: every load that failed left the active session and its AES key
exactly as they were, exactly when every load found no session, one whose peer key is a point, or
the active session itself. -/
theorem failed_loads_keep_iff {p : EcdhContext SK × List (CallRecord SK)}
    (h : (withCalls cr).Reachable p) :
    History.Each (FailedLoadKeeps cr) p.2 ↔ History.Each (LoadsValid cr) p.2 :=
  ((call_of_reachable h).mono fun earlier _ hcall => failedLoadKeeps_iff hcall earlier).iff_congr

/-- The random draws of a call whose flush completes. -/
def sampleEnv (n : UInt8) : SaveEnv := ⟨List.Vector.replicate 12 n, .completes⟩

/-- The context after the calls, over an empty store. -/
def afterCalls (calls : List (ContextCall UInt8)) :
    Option (EcdhContext UInt8 × List (CallRecord UInt8)) :=
  (withCalls sampleCrates).replay (fun _ _ => True)
    (.new (StorageService.empty sampleCrates (Sample.pad32 [1]) none), []) calls

theorem reachable_of_afterCalls {calls : List (ContextCall UInt8)}
    {p : EcdhContext UInt8 × List (CallRecord UInt8)} (hp : afterCalls calls = some p) :
    (withCalls sampleCrates).Reachable p :=
  .of_replay _ (.init ⟨⟨_, rfl⟩, rfl⟩) hp

/-- A device is paired, and a load of another one fails. -/
theorem failed_loads_keep_sample : ∃ p : EcdhContext UInt8 × List (CallRecord UInt8),
    p.2.map (fun r => (loads r.call, r.failed)) = [(none, false), (some "b", true)] ∧
    History.Each (FailedLoadKeeps sampleCrates) p.2 := by
  have hrun : (afterCalls [.pairNewDevice (Sample.compressed 4) "a" 5 (sampleEnv 1),
      .setActiveDevice "b"]).map (fun p => (p.2.map fun r => (loads r.call, r.failed),
        p.2.all fun r => (loads r.call).all fun id => !r.before.hasSession id)) =
      some ([(none, false), (some "b", true)], true) := by decide +kernel
  obtain ⟨p, hp, hfacts⟩ := Option.map_eq_some_iff.mp hrun
  obtain ⟨hcalls, hunknown⟩ := Prod.mk.inj hfacts
  refine ⟨p, hcalls, (failed_loads_keep_iff (reachable_of_afterCalls hp)).mpr ?_⟩
  rintro earlier r later heq id hid session ⟨hhas, -⟩
  have hr := List.all_eq_true.mp hunknown r (by simp [heq])
  simp [hid, hhas] at hr

/-- A device is paired and loaded; keys are generated for another one, with 65 bytes that are no
point, and saved; the first one is loaded again. The load of the other one fails, and the key of the
first one is gone. -/
theorem failed_load_loses_key : ¬ ∀ p, (withCalls sampleCrates).Reachable p →
    History.Each (FailedLoadKeeps sampleCrates) p.2 := by
  intro hclaim
  have hrun : (afterCalls [.pairNewDevice (Sample.compressed 4) "a" 5 (sampleEnv 1),
      .generateDeviceKeys "b" (List.Vector.replicate 65 0) 9, .saveSession (sampleEnv 2),
      .loadDeviceKeys "a" [7], .loadDeviceKeys "b" [7]]).bind (fun p =>
      p.2.getLast?.map fun r => (loads r.call, r.failed, r.before.activeKey.isSome,
        r.after.activeKey.isSome)) = some (some "b", true, true, false) := by decide +kernel
  obtain ⟨p, hp, hlast⟩ := Option.bind_eq_some_iff.mp hrun
  obtain ⟨r, hr, hfacts⟩ := Option.map_eq_some_iff.mp hlast
  obtain ⟨earlier, heq⟩ := List.getLast?_eq_some_iff.mp hr
  simp only [Prod.mk.injEq] at hfacts
  obtain ⟨hloads, hfailed, hbefore, hafter⟩ := hfacts
  have hkept := hclaim p (reachable_of_afterCalls hp) earlier r [] heq "b" hloads hfailed
  rw [hkept.key, hbefore] at hafter
  cases hafter

end EcdhContext

end ToothPaste
