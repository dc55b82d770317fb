import ToothPaste.Service.AutoConnect

/-!
# The timeout of the scan

`auto_connect_task` compares the time with `scan_timeout` only after a change was published and it
has found no device listed. So the first change that lists a device, or that comes after the
timeout, decides: with it the search ends, whenever it comes.

* `connects_in_time_iff`: in every run at most one `ConnectToDevice` is sent, for the first device
  listed. When the task is not kept waiting past the timeout, it is sent in time exactly when the
  change that decides does not list a device after the timeout.
* `connects_after_timeout`: a device is first listed long after the scan, and the task connects.
-/

namespace ToothPaste.AutoConnect

/-- Ten seconds after the scan was asked for. -/
def Timeline.deadline (T : Timeline) : Option Nanos := T.start.map (· + fromSecs 10)

/-- The first change that lists a device or comes after the deadline. -/
def decisive (deadline : Nanos) (changes : List Change) : Option Change :=
  changes.find? fun c => !c.devices.isEmpty || deadline < c.time

/-- The change that decides does not list a device after the deadline. -/
def Timeline.FoundInTime (T : Timeline) : Prop :=
  ∀ deadline ∈ T.deadline, ∀ c ∈ decisive deadline T.changes,
    c.devices ≠ [] → c.time ≤ deadline

/-- Nothing is sent after the deadline. -/
def Timeline.SendsInTime (T : Timeline) : Prop :=
  ∀ x ∈ T.sends, ∀ deadline ∈ T.deadline, x.time ≤ deadline

/-! ## Scheduling -/

/-- The task has a change to look at, or has looked and is about to look at the clock. -/
def HasToLook (s : AutoConnect) : Prop :=
  match s.phase with
  | .waiting _ => s.appState.HasChanged s.seen
  | .woken _ | .checking _ => True
  | _ => False

instance (s : AutoConnect) : Decidable s.HasToLook := by
  unfold HasToLook
  split <;> infer_instance

/-- The task has a command to send. -/
def HasToSend (s : AutoConnect) : Prop :=
  match s.phase with
  | .connecting _ => True
  | _ => False

instance (s : AutoConnect) : Decidable s.HasToSend := by
  unfold HasToSend
  split <;> infer_instance

/-- The condition on a step: the task is not kept waiting past the deadline while it has something
to look at or to send. What it has to look at does not stop listing devices before it looks, nor
start to after the deadline. -/
def Timely (p : AutoConnect × Timeline) : AutoConnectAction → Prop
  | .tick elapsed => p.1.HasToLook ∨ p.1.HasToSend →
      ∀ deadline ∈ p.2.deadline, p.1.now ≤ deadline → p.1.now + elapsed ≤ deadline
  | .publish newState => p.1.HasToLook →
      ∀ deadline ∈ p.2.deadline,
        (p.1.appState.value.devices ≠ [] → newState.devices ≠ []) ∧
        (newState.devices ≠ [] → p.1.appState.value.devices ≠ [] ∨ p.1.now ≤ deadline)
  | _ => True

instance (p : AutoConnect × Timeline) (a : AutoConnectAction) : Decidable (Timely p a) := by
  unfold Timely
  split <;> infer_instance

variable {s t : AutoConnect} {a : AutoConnectAction} {T : Timeline} {deadline : Nanos}
  {changes : List Change}

/-- The deadline is known once the scan was asked for. -/
theorem Timeline.deadline_eq {start : Nanos} (h : T.start = some start) :
    T.deadline = some (start + fromSecs 10) := by rw [Timeline.deadline, h, Option.map_some]

/-! ## The change that decides -/

/-- Another change decides only if none before it does. -/
theorem decisive_concat (c : Change) :
    decisive deadline (changes ++ [c]) =
      (decisive deadline changes).or
        (if c.devices ≠ [] ∨ deadline < c.time then some c else none) := by
  unfold decisive
  rw [List.find?_append]
  congr 1
  by_cases hdevices : c.devices = [] <;> by_cases htime : deadline < c.time <;>
    simp [hdevices, htime]

/-- What decides goes on to do so. -/
theorem decisive_concat_of_some {c : Change} (h : decisive deadline changes = some c)
    (c' : Change) : decisive deadline (changes ++ [c']) = some c := by
  rw [decisive_concat, h, Option.some_or]

/-- The first change that lists a device or is late decides. -/
theorem decisive_concat_of_none (h : decisive deadline changes = none) {c : Change}
    (hc : c.devices ≠ [] ∨ deadline < c.time) :
    decisive deadline (changes ++ [c]) = some c := by
  rw [decisive_concat, h, Option.none_or, if_pos hc]

/-- A change that lists no device in time does not. -/
theorem decisive_concat_none (h : decisive deadline changes = none) {c : Change}
    (hdevices : c.devices = []) (htime : c.time ≤ deadline) :
    decisive deadline (changes ++ [c]) = none := by
  rw [decisive_concat, h, Option.none_or, if_neg (by simp [hdevices, htime])]

/-- The search goes on. `unseen` is whether there is a change to look at, and the devices are those
that a look would find. Up to the deadline a look that finds none changes nothing; after it, the
change that decides is the one to look at. -/
def Searches (deadline now : Nanos) (unseen : Prop) (devices : List Device)
    (changes : List Change) : Prop :=
  (now ≤ deadline ∧ (decisive deadline changes = none ∧ (unseen → devices = []) ∨
    unseen ∧ devices ≠ [] ∧
      ∃ c, decisive deadline changes = some c ∧ c.devices ≠ [] ∧ c.time ≤ deadline)) ∨
  (deadline < now ∧ (decisive deadline changes = none ∧ ¬ unseen ∨
    unseen ∧ ∃ c, decisive deadline changes = some c ∧ deadline < c.time ∧
      (c.devices ≠ [] ↔ devices ≠ [])))

/-- The scan was asked for at this time, or not yet, and nothing has been sent. -/
structure Timeline.Quiet (T : Timeline) (start : Option Nanos) : Prop where
  start : T.start = start
  sends : T.sends = []
  failed : T.failed = false

/-- The task has returned: a channel was closed, or it was not to scan, or the change that decides
lists nothing, or what it lists was sent for, in time if it came in time. -/
inductive Ended (T : Timeline) : Prop
  | failed (hfailed : T.failed = true) (hsends : T.sends = [])
  | unscanned (hquiet : T.Quiet none)
  | gaveUp {start : Nanos} {c : Change} (hquiet : T.Quiet (some start))
      (hdecides : decisive (start + fromSecs 10) T.changes = some c) (hnone : c.devices = [])
  | sent {start : Nanos} {c : Change} {x : Sent} (hstart : T.start = some start)
      (hopen : T.failed = false) (hdecides : decisive (start + fromSecs 10) T.changes = some c)
      (hdevices : c.devices ≠ []) (hsends : T.sends = [x])
      (htime : x.time ≤ start + fromSecs 10 ↔ c.time ≤ start + fromSecs 10)

/-- What holds of the timeline in each phase. -/
def Follows (s : AutoConnect) (T : Timeline) : Prop :=
  match s.phase with
  | .sleeping _ | .scanning => T.Quiet none
  | .waiting start => T.Quiet (some start) ∧
      Searches (start + fromSecs 10) s.now (s.appState.HasChanged s.seen)
        s.appState.value.devices T.changes
  | .woken start => T.Quiet (some start) ∧
      Searches (start + fromSecs 10) s.now True s.appState.value.devices T.changes
  | .checking start => T.Quiet (some start) ∧
      (s.now ≤ start + fromSecs 10 ∧
          Searches (start + fromSecs 10) s.now (s.appState.HasChanged s.seen)
            s.appState.value.devices T.changes ∨
        start + fromSecs 10 < s.now ∧
          ∃ c, decisive (start + fromSecs 10) T.changes = some c ∧ c.devices = [])
  | .connecting _ => ∃ start c, T.Quiet (some start) ∧
      decisive (start + fromSecs 10) T.changes = some c ∧ c.devices ≠ [] ∧
      (s.now ≤ start + fromSecs 10 ↔ c.time ≤ start + fromSecs 10)
  | .returned => Ended T

/-- Time passes, up to the deadline if there is something to look at. -/
theorem Searches.tick {now now' : Nanos} {unseen : Prop} {devices : List Device}
    (h : Searches deadline now unseen devices changes) (hlater : now ≤ now')
    (htimely : unseen → now ≤ deadline → now' ≤ deadline) :
    Searches deadline now' unseen devices changes := by
  rcases h with ⟨hnow, h⟩ | ⟨hnow, h⟩
  · rcases h with ⟨hnone, hdevices⟩ | ⟨hunseen, hdecides⟩
    · by_cases hunseen : unseen
      · exact .inl ⟨htimely hunseen hnow, .inl ⟨hnone, hdevices⟩⟩
      · rcases Nat.lt_or_ge deadline now' with hpast | hbefore
        · exact .inr ⟨hpast, .inl ⟨hnone, hunseen⟩⟩
        · exact .inl ⟨hbefore, .inl ⟨hnone, hdevices⟩⟩
    · exact .inl ⟨htimely hunseen hnow, .inr ⟨hunseen, hdecides⟩⟩
  · exact .inr ⟨hnow.trans_le hlater, h⟩

/-- A change is published. One that was unseen goes on listing devices, or none after the
deadline. -/
theorem Searches.publish {now : Nanos} {unseen unseen' : Prop} {devices devices' : List Device}
    (h : Searches deadline now unseen devices changes) (hnew : unseen')
    (htimely : unseen → (devices ≠ [] → devices' ≠ []) ∧
      (devices' ≠ [] → devices ≠ [] ∨ now ≤ deadline)) :
    Searches deadline now unseen' devices' (changes ++ [⟨now, devices'⟩]) := by
  rcases h with ⟨hnow, ⟨hnone, -⟩ | ⟨hunseen, hdevices, c, hc, hlists, htime⟩⟩ |
    ⟨hnow, ⟨hnone, -⟩ | ⟨hunseen, c, hc, htime, hiff⟩⟩
  -- before the deadline the new change decides if it lists a device
  · by_cases hdevices' : devices' = []
    · exact .inl ⟨hnow, .inl ⟨decisive_concat_none hnone hdevices' hnow, fun _ => hdevices'⟩⟩
    · exact .inl ⟨hnow, .inr ⟨hnew, hdevices', _, decisive_concat_of_none hnone (.inl hdevices'),
        hdevices', hnow⟩⟩
  · exact .inl ⟨hnow, .inr ⟨hnew, (htimely hunseen).1 hdevices, c, decisive_concat_of_some hc _,
      hlists, htime⟩⟩
  -- after it the new change decides in any case
  · exact .inr ⟨hnow, .inr ⟨hnew, _, decisive_concat_of_none hnone (.inr hnow), hnow, Iff.rfl⟩⟩
  · refine .inr ⟨hnow, .inr ⟨hnew, c, decisive_concat_of_some hc _, htime, hiff.trans ⟨?_, ?_⟩⟩⟩
    · exact (htimely hunseen).1
    · exact fun hdevices' => ((htimely hunseen).2 hdevices').resolve_right hnow.not_ge

/-- What is published after the task has returned changes nothing. -/
theorem Ended.publish {T' : Timeline} (h : Ended T) (hstart : T'.start = T.start)
    (hsends : T'.sends = T.sends) (hfailed : T'.failed = T.failed) {c : Change}
    (hchanges : T'.changes = T.changes ++ [c]) : Ended T' := by
  have hquiet : ∀ {start}, T.Quiet start → T'.Quiet start := fun hq =>
    ⟨hstart.trans hq.start, hsends.trans hq.sends, hfailed.trans hq.failed⟩
  have hkept : ∀ {deadline c}, decisive deadline T.changes = some c →
      decisive deadline T'.changes = some c := fun hc => by
    rw [hchanges]
    exact decisive_concat_of_some hc _
  cases h with
  | failed hf hs => exact .failed (hfailed.trans hf) (hsends.trans hs)
  | unscanned hq => exact .unscanned (hquiet hq)
  | gaveUp hq hc hnone => exact .gaveUp (hquiet hq) (hkept hc) hnone
  | sent hs hf hc hdevices hx htime =>
    exact .sent (hstart.trans hs) (hfailed.trans hf) (hkept hc) hdevices (hsends.trans hx) htime

/-- A timeline with more changes or another look. -/
theorem Timeline.Quiet.congr {T' : Timeline} {start : Option Nanos} (h : T.Quiet start)
    (hstart : T'.start = T.start) (hsends : T'.sends = T.sends) (hfailed : T'.failed = T.failed) :
    T'.Quiet start :=
  ⟨hstart.trans h.start, hsends.trans h.sends, hfailed.trans h.failed⟩

/-- Time passes. -/
theorem follows_tick (h : Follows s T) {elapsed : Nanos}
    (htimely : Timely (s, T) (.tick elapsed)) :
    Follows { s with now := s.now + elapsed } T := by
  unfold Timely HasToLook HasToSend at htimely
  unfold Follows at h ⊢
  cases hphase : s.phase <;> simp only [hphase] at h htimely ⊢
  case sleeping | scanning | returned => exact h
  case waiting start =>
    obtain ⟨hquiet, hsearches⟩ := h
    exact ⟨hquiet, hsearches.tick (Nat.le_add_right _ _)
      fun hunseen => htimely (.inl hunseen) _ (Timeline.deadline_eq hquiet.start)⟩
  case woken start =>
    obtain ⟨hquiet, hsearches⟩ := h
    exact ⟨hquiet, hsearches.tick (Nat.le_add_right _ _)
      fun _ => htimely (.inl trivial) _ (Timeline.deadline_eq hquiet.start)⟩
  case checking start =>
    obtain ⟨hquiet, ⟨hnow, hsearches⟩ | ⟨hnow, hdecides⟩⟩ := h
    · have hstill := htimely (.inl trivial) _ (Timeline.deadline_eq hquiet.start)
      exact ⟨hquiet, .inl ⟨hstill hnow, hsearches.tick (Nat.le_add_right _ _) fun _ => hstill⟩⟩
    · exact ⟨hquiet, .inr ⟨hnow.trans_le (Nat.le_add_right _ _), hdecides⟩⟩
  case connecting device =>
    obtain ⟨start, c, hquiet, hdecides, hdevices, htime⟩ := h
    have hstill := htimely (.inr trivial) _ (Timeline.deadline_eq hquiet.start)
    refine ⟨start, c, hquiet, hdecides, hdevices, Iff.trans ⟨fun hnow => ?_, hstill⟩ htime⟩
    exact (Nat.le_add_right _ _).trans hnow

/-- Someone publishes a state. -/
theorem follows_publish (hseen : s.seen ≤ s.appState.version) (h : Follows s T)
    {newState : AppState} (htimely : Timely (s, T) (.publish newState)) :
    Follows { s with appState := s.appState.send newState }
      (T.record s (.publish newState)) := by
  have hnew : (s.appState.send newState).HasChanged s.seen := by
    unfold Watch.HasChanged Watch.send
    dsimp only
    omega
  unfold Timely HasToLook at htimely
  unfold Follows at h ⊢
  cases hphase : s.phase <;> simp only [hphase] at h htimely ⊢
  case sleeping | scanning => exact h.congr rfl rfl rfl
  case waiting start =>
    obtain ⟨hquiet, hsearches⟩ := h
    exact ⟨hquiet.congr rfl rfl rfl, hsearches.publish hnew
      fun hunseen => htimely hunseen _ (Timeline.deadline_eq hquiet.start)⟩
  case woken start =>
    obtain ⟨hquiet, hsearches⟩ := h
    exact ⟨hquiet.congr rfl rfl rfl, hsearches.publish trivial
      fun _ => htimely trivial _ (Timeline.deadline_eq hquiet.start)⟩
  case checking start =>
    obtain ⟨hquiet, ⟨hnow, hsearches⟩ | ⟨hnow, c, hc, hnone⟩⟩ := h
    · exact ⟨hquiet.congr rfl rfl rfl, .inl ⟨hnow, hsearches.publish hnew
        fun _ => htimely trivial _ (Timeline.deadline_eq hquiet.start)⟩⟩
    · exact ⟨hquiet.congr rfl rfl rfl, .inr ⟨hnow, c, decisive_concat_of_some hc _, hnone⟩⟩
  case connecting device =>
    obtain ⟨start, c, hquiet, hc, hrest⟩ := h
    exact ⟨start, c, hquiet.congr rfl rfl rfl, decisive_concat_of_some hc _, hrest⟩
  case returned => exact h.publish rfl rfl rfl rfl

/-- The scan is asked for. A change that has not been seen by then is the first one. -/
theorem follows_scanSent (h : Follows s T) (hphase : s.phase = .scanning) (ok : Bool) :
    Follows (s.goto (if ok then .waiting s.now else .returned)) (T.record s (.scanSent ok)) := by
  unfold Follows at h ⊢
  simp only [hphase] at h
  cases ok with
  | false => exact .unscanned (h.congr rfl rfl rfl)
  | true =>
    have hnow : s.now ≤ s.now + fromSecs 10 := Nat.le_add_right _ _
    have hnone : decisive (s.now + fromSecs 10) [] = none := rfl
    refine ⟨⟨rfl, h.sends, h.failed⟩, ?_⟩
    simp only [Timeline.record, goto]
    split_ifs with hunseen
    · by_cases hdevices : s.appState.value.devices = []
      · refine .inl ⟨hnow, .inl ⟨?_, fun _ => hdevices⟩⟩
        exact decisive_concat_none hnone hdevices hnow
      · refine .inl ⟨hnow, .inr ⟨hunseen, hdevices, ⟨s.now, _⟩, ?_, hdevices, hnow⟩⟩
        exact decisive_concat_of_none hnone (.inl hdevices)
    · exact .inl ⟨hnow, .inl ⟨hnone, fun hchanged => absurd hchanged hunseen⟩⟩

/-- The look finds a device: then the change that decides lists one. -/
theorem follows_found (h : Follows s T) {start : Nanos} (hphase : s.phase = .woken start)
    {device : Device} (hhead : s.appState.value.devices.head? = some device) :
    Follows (s.goto (.connecting device)) (T.record s .look) := by
  have hdevices : s.appState.value.devices ≠ [] := by
    intro hnone
    simp [hnone] at hhead
  unfold Follows at h
  simp only [hphase] at h
  obtain ⟨hquiet, hsearches⟩ := h
  rcases hsearches with ⟨hnow, ⟨-, hnone⟩ | ⟨-, -, c, hc, hlists, htime⟩⟩ |
    ⟨hnow, ⟨-, hnone⟩ | ⟨-, c, hc, htime, hiff⟩⟩
  · exact absurd (hnone trivial) hdevices
  · exact ⟨start, c, hquiet.congr rfl rfl rfl, hc, hlists, iff_of_true hnow htime⟩
  · exact absurd trivial hnone
  · exact ⟨start, c, hquiet.congr rfl rfl rfl, hc, hiff.mpr hdevices,
      iff_of_false hnow.not_ge htime.not_ge⟩

/-- The look finds none: then none has been listed in time. -/
theorem follows_foundNone (h : Follows s T) {start : Nanos} (hphase : s.phase = .woken start)
    (hhead : s.appState.value.devices.head? = none) :
    Follows (s.goto (.checking start)) (T.record s .look) := by
  have hdevices : s.appState.value.devices = [] := List.head?_eq_none_iff.mp hhead
  unfold Follows at h
  simp only [hphase] at h
  obtain ⟨hquiet, hsearches⟩ := h
  refine ⟨hquiet.congr rfl rfl rfl, ?_⟩
  rcases hsearches with ⟨hnow, ⟨hnone, -⟩ | ⟨-, hlists, -⟩⟩ |
    ⟨hnow, ⟨-, hnone⟩ | ⟨-, c, hc, -, hiff⟩⟩
  · exact .inl ⟨hnow, .inl ⟨hnow, .inl ⟨hnone, fun _ => hdevices⟩⟩⟩
  · exact absurd hdevices hlists
  · exact absurd trivial hnone
  · exact .inr ⟨hnow, c, hc, not_not.mp (mt hiff.mp (not_not.mpr hdevices))⟩

/-- The task looks at the clock: it gives up exactly after the deadline. -/
theorem follows_checkTimeout (h : Follows s T) {start : Nanos}
    (hphase : s.phase = .checking start) :
    Follows (s.goto (if s.now - start > scanTimeout then .returned else .waiting start)) T := by
  unfold Follows at h
  simp only [hphase] at h
  obtain ⟨hquiet, hdecides⟩ := h
  have hlate : s.now - start > scanTimeout ↔ start + fromSecs 10 < s.now :=
    Nat.lt_sub_iff_add_lt'
  rcases hdecides with ⟨hnow, hsearches⟩ | ⟨hnow, c, hc, hnone⟩
  · rw [if_neg (hlate.not.mpr hnow.not_gt)]
    exact ⟨hquiet, hsearches⟩
  -- the change that decides lists nothing, and the task gives up
  · rw [if_pos (hlate.mpr hnow)]
    exact .gaveUp hquiet hc hnone

/-- The command is sent, or the channel is closed. -/
theorem follows_connectSent (h : Follows s T) {device : Device}
    (hphase : s.phase = .connecting device) (ok : Bool) :
    Follows (s.goto .returned) (T.record s (.connectSent ok)) := by
  unfold Follows at h ⊢
  simp only [hphase] at h
  obtain ⟨start, c, hquiet, hc, hdevices, htime⟩ := h
  cases ok with
  | false =>
    simp only [Timeline.record, hphase]
    exact .failed rfl hquiet.sends
  | true =>
    simp only [Timeline.record, hphase, hquiet.sends, List.nil_append]
    exact .sent hquiet.start hquiet.failed hc hdevices rfl htime

/-- Every timely step keeps what holds of the timeline. -/
theorem follows_step (hseen : s.seen ≤ s.appState.version) (h : Follows s T)
    (htimely : Timely (s, T) a) (hm : s.Moves a t) : Follows t (T.record s a) := by
  cases hm with
  | tick => exact follows_tick h htimely
  | publish => exact follows_publish hseen h htimely
  | setTuiConnected => exact h
  | wake hphase =>
    unfold Follows at h
    simp only [hphase] at h
    cases htui : s.tuiConnected with
    | true => exact .unscanned h
    | false => exact h
  | scanSent hphase ok => exact follows_scanSent h hphase ok
  | changed hphase hunseen =>
    unfold Follows at h
    simp only [hphase, hunseen] at h
    exact h
  | changedFails hphase =>
    unfold Follows at h
    simp only [hphase] at h
    exact .failed rfl h.1.sends
  | found hphase hhead => exact follows_found h hphase hhead
  | foundNone hphase hhead => exact follows_foundNone h hphase hhead
  | checkTimeout hphase => exact follows_checkTimeout h hphase
  | connectSent hphase ok => exact follows_connectSent h hphase ok

/-- What has been seen has been published. -/
theorem seen_step (h : s.seen ≤ s.appState.version) (hm : s.Moves a t) :
    t.seen ≤ t.appState.version := by
  cases hm with
  | publish => exact h.trans (Nat.le_succ _)
  | changed => exact le_rfl
  | tick | setTuiConnected | wake | scanSent | changedFails | found | foundNone | checkTimeout
  | connectSent => exact h

/-- It holds in every run of timely steps. -/
theorem follows_of_reachable {p : AutoConnect × Timeline}
    (h : withTimeline.ReachableVia Timely p) : Follows p.1 p.2 := by
  have hinv := h.invariant_withHistory
    (I := fun s T => s.seen ≤ s.appState.version ∧ Follows s T)
    (by
      rintro s ⟨hphase, hseen⟩
      refine ⟨hseen, ?_⟩
      unfold Follows
      simp only [hphase]
      exact ⟨rfl, rfl, rfl⟩)
    fun s T a t ⟨hseen, hs⟩ htimely hstep =>
      ⟨seen_step hseen (moves_of_step hstep), follows_step hseen hs htimely (moves_of_step hstep)⟩
  exact hinv.2

/-! ## In time -/

/-- What is sent is sent for the change that decides, and in time exactly if it came in time. -/
theorem sends_of_follows (h : Follows s T) : T.sends = [] ∨
    ∃ start c x, T.start = some start ∧ T.failed = false ∧
      decisive (start + fromSecs 10) T.changes = some c ∧ c.devices ≠ [] ∧ T.sends = [x] ∧
      (x.time ≤ start + fromSecs 10 ↔ c.time ≤ start + fromSecs 10) := by
  unfold Follows at h
  cases hphase : s.phase <;> simp only [hphase] at h
  case sleeping | scanning => exact .inl h.sends
  case waiting | woken | checking => exact .inl h.1.sends
  case connecting =>
    obtain ⟨start, c, hquiet, -⟩ := h
    exact .inl hquiet.sends
  case returned =>
    cases h with
    | failed hfailed hsends => exact .inl hsends
    | unscanned hquiet | gaveUp hquiet => exact .inl hquiet.sends
    | sent hstart hopen hc hdevices hsends htime =>
      exact .inr ⟨_, _, _, hstart, hopen, hc, hdevices, hsends, htime⟩

/-- At rest the change that decides has been looked at, and answered if it lists a device. -/
theorem foundInTime_of_follows (h : Follows s T) (hlook : ¬ s.HasToLook) (hsend : ¬ s.HasToSend)
    (hintime : T.SendsInTime) : T.failed = true ∨ T.FoundInTime := by
  have hnothing : T.Quiet none → T.FoundInTime := fun hquiet deadline hdeadline => by
    rw [Timeline.deadline, hquiet.start] at hdeadline
    cases hdeadline
  have hdecided : ∀ {start}, T.start = some start →
      (∀ c ∈ decisive (start + fromSecs 10) T.changes,
        c.devices ≠ [] → c.time ≤ start + fromSecs 10) → T.FoundInTime :=
    fun hstart hall deadline hdeadline => by
      rw [Timeline.deadline_eq hstart] at hdeadline
      exact Option.some.inj hdeadline ▸ hall
  unfold HasToLook at hlook
  unfold HasToSend at hsend
  unfold Follows at h
  cases hphase : s.phase <;> simp only [hphase] at h hlook hsend
  case sleeping | scanning => exact .inr (hnothing h)
  case waiting start =>
    obtain ⟨hquiet, hsearches⟩ := h
    -- nothing that was published lists a device or is late
    have hnone : decisive (start + fromSecs 10) T.changes = none := by
      rcases hsearches with ⟨-, ⟨hnone, -⟩ | ⟨hunseen, -⟩⟩ | ⟨-, ⟨hnone, -⟩ | ⟨hunseen, -⟩⟩
      · exact hnone
      · exact absurd hunseen hlook
      · exact hnone
      · exact absurd hunseen hlook
    refine .inr (hdecided hquiet.start fun c hc => ?_)
    rw [hnone] at hc
    cases hc
  case woken | checking => exact absurd trivial hlook
  case connecting => exact absurd trivial hsend
  case returned =>
    cases h with
    | failed hfailed => exact .inl hfailed
    | unscanned hquiet => exact .inr (hnothing hquiet)
    | gaveUp hquiet hc hnone =>
      refine .inr (hdecided hquiet.start fun c hc' hdevices => ?_)
      obtain rfl := Option.some.inj (hc.symm.trans hc')
      exact absurd hnone hdevices
    | sent hstart hopen hc hdevices hsends htime =>
      refine .inr (hdecided hstart fun c hc' _ => ?_)
      obtain rfl := Option.some.inj (hc.symm.trans hc')
      exact htime.mp (hintime _ (hsends ▸ List.mem_singleton_self _) _
        (Timeline.deadline_eq hstart))

/-- For every sequence of states that are published, at any times, and however the task is
scheduled among them, at most one `ConnectToDevice` is sent, for the first device listed. When the
task is not kept waiting past the timeout, nothing is sent after it if the change that decides does
not list a device after it, or a channel is closed; and only then, once the task has looked at what
was published and has sent its command. -/
theorem connects_in_time_iff {p : AutoConnect × Timeline} (h : withTimeline.Reachable p) :
    p.2.ConnectsOnce ∧
    (withTimeline.ReachableVia Timely p →
      (p.2.FoundInTime ∨ p.2.failed = true → p.2.SendsInTime) ∧
      (¬ p.1.HasToLook → ¬ p.1.HasToSend →
        (p.2.SendsInTime ↔ p.2.FoundInTime ∨ p.2.failed = true))) := by
  refine ⟨connectsOnce_of_reachable h, fun htimely => ?_⟩
  have hfollows := follows_of_reachable htimely
  have hintime : p.2.FoundInTime ∨ p.2.failed = true → p.2.SendsInTime := by
    intro hfound x hx deadline hdeadline
    rcases sends_of_follows hfollows with
      hnone | ⟨start, c, x', hstart, hopen, hc, hdevices, hsends, htime⟩
    · rw [hnone] at hx
      cases hx
    · rw [hsends] at hx
      obtain rfl := List.mem_singleton.mp hx
      have hdeadline' := Timeline.deadline_eq hstart
      obtain rfl := Option.some.inj (hdeadline.symm.trans hdeadline')
      rcases hfound with hfound | hfailed
      · exact htime.mpr (hfound _ hdeadline' c hc hdevices)
      · rw [hopen] at hfailed
        cases hfailed
  exact ⟨hintime, fun hlook hsend =>
    ⟨fun hsent => (foundInTime_of_follows hfollows hlook hsend hsent).symm, hintime⟩⟩

/-- The state with a device listed, as a scan publishes it. -/
def listing (device : Device) : AppState := { AppState.initial with devices := [device] }

/-- A device that a scan finds. -/
def foundDevice : Device := ⟨"ToothPaste", "00:00:00:00:00:A1", "a1", .disconnected, -50⟩

/-- No client comes, and a device is first published some time after the scan. The task is
scheduled at once. -/
def foundAfter (elapsed : Nanos) : Option (AutoConnect × Timeline) :=
  withTimeline.replay Timely
    (⟨0, ⟨.initial, 0⟩, false, 0, .sleeping (fromSecs 5)⟩, ⟨none, [], [], [], false⟩)
    [.tick (fromSecs 5), .wake, .scanSent true, .tick elapsed, .publish (listing foundDevice),
      .changed, .look, .connectSent true]

/-- The run is one of timely steps. -/
theorem timeline_of_foundAfter {elapsed : Nanos} {start : Option Nanos} {changes : List Change}
    {sends : List Sent}
    (hrun : (foundAfter elapsed).map (fun p => (p.2.start, p.2.changes, p.2.sends)) =
      some (start, changes, sends)) :
    ∃ p, withTimeline.ReachableVia Timely p ∧ p.2.start = start ∧ p.2.changes = changes ∧
      p.2.sends = sends := by
  obtain ⟨p, hp, hfacts⟩ := Option.map_eq_some_iff.mp hrun
  simp only [Prod.mk.injEq] at hfacts
  exact ⟨p, .of_replay _ (.init ⟨⟨rfl, le_rfl⟩, rfl⟩) hp, hfacts⟩

/-- The device is found two seconds after the scan. -/
theorem connects_in_time_sample : ∃ p, withTimeline.ReachableVia Timely p ∧
    p.2.sends = [⟨fromSecs 7, foundDevice, [foundDevice]⟩] ∧ p.2.ConnectsOnce ∧
    p.2.SendsInTime := by
  have hrun : (foundAfter (fromSecs 2)).map (fun p => (p.2.start, p.2.changes, p.2.sends)) =
      some (some (fromSecs 5), [⟨fromSecs 7, [foundDevice]⟩],
        [⟨fromSecs 7, foundDevice, [foundDevice]⟩]) := by decide +kernel
  obtain ⟨p, htimely, hstart, hchanges, hsends⟩ := timeline_of_foundAfter hrun
  obtain ⟨honce, hintime⟩ := connects_in_time_iff (htimely.mono fun _ _ _ => trivial)
  refine ⟨p, htimely, hsends, honce, (hintime htimely).1 (.inl fun deadline hdeadline c hc _ => ?_)⟩
  rw [Timeline.deadline_eq hstart] at hdeadline
  obtain rfl := Option.some.inj hdeadline
  rw [hchanges] at hc
  obtain rfl := Option.some.inj hc
  decide

/-- The first state that lists a device is published 100 seconds after the scan, and the task
connects. -/
theorem connects_after_timeout :
    ¬ ∀ p, withTimeline.Reachable p → p.2.ConnectsOnce ∧ p.2.SendsInTime := by
  intro hclaim
  have hrun : (foundAfter (fromSecs 100)).map (fun p => (p.2.start, p.2.changes, p.2.sends)) =
      some (some (fromSecs 5), [⟨fromSecs 105, [foundDevice]⟩],
        [⟨fromSecs 105, foundDevice, [foundDevice]⟩]) := by decide +kernel
  obtain ⟨p, htimely, hstart, -, hsends⟩ := timeline_of_foundAfter hrun
  obtain ⟨-, hintime⟩ := hclaim p (htimely.mono fun _ _ _ => trivial)
  have htime := hintime _ (hsends ▸ List.mem_singleton_self _) _ (Timeline.deadline_eq hstart)
  exact absurd htime (by decide)

end ToothPaste.AutoConnect
