import ToothPaste.Lib.Utf8Slice
import ToothPaste.Tui.Navigation

/-!
# The side panel

`render_side_panel` of `tui/ui.rs`: the lines that it draws of the state of the application. The
names of the devices nearby are cut to 16 bytes by `truncate`, which panics where the cut is inside
a character, and with it the drawing of the panel.

* `side_panel_drawn_iff`: the panel is drawn exactly when no name is cut inside a character, and
  for every text and limit `truncate` returns the longest prefix within the limit exactly when it
  does not cut inside a character.
* `accented_name_panics`: a name with an accented letter across the cut.
-/

namespace ToothPaste

namespace Tui

open Utf8Slice

/-! ## Text -/

/-- `Color`, as far as the panel uses it. -/
inductive Color where
  | darkGray
  | green
  | red
  | yellow
  deriving DecidableEq

/-- `Span`: a text with its colour, if it has one of its own. -/
structure Span where
  content : String
  fg : Option Color
  bold : Bool
  deriving DecidableEq

/-- `Line`. -/
abbrev Line := List Span

/-- `Span::raw`. -/
def Span.raw (content : String) : Span := ⟨content, none, false⟩

/-- `Span::styled` with a colour. -/
def Span.styled (content : String) (fg : Color) : Span := ⟨content, some fg, false⟩

/-- `truncate`; `none` where it panics. -/
def truncate (s : String) (max : ℕ) : Option String :=
  if s.utf8ByteSize ≤ max then some s else sliceTo s max

/-- `{:<width}`: filled up with spaces on the right, to a number of characters. -/
def alignLeft (width : ℕ) (s : String) : String :=
  s ++ String.ofList (List.replicate (width - s.length) ' ')

/-- `{:>width}`. -/
def alignRight (width : ℕ) (s : String) : String :=
  String.ofList (List.replicate (width - s.length) ' ') ++ s

/-! ## Labels -/

/-- `auth_label`. -/
def authLabel (state : AppState) : String :=
  match state.connectedDevice with
  | some device =>
    match device.state with
    | .connected (.authenticated _ _) _ => "Authenticated"
    | .connected .notAuthenticated _ => "Authenticating…"
    | .connected .authenticationFailed _ => "Pairing required"
    | .disconnected => "Disconnected"
  | none => "—"

/-- `firmware_label`. -/
def firmwareLabel (state : AppState) : String :=
  match state.connectedDevice with
  | some device =>
    match device.state with
    | .connected _ firmwareVersion => firmwareVersion
    | .disconnected => "—"
  | none => "—"

/-- `capture_label`. -/
def captureLabel (enabled : Bool) : String := if enabled then "Enabled" else "Disabled"

/-- `rssi_color`. -/
def rssiColor (rssi : ℤ) : Color :=
  if rssi ≤ -80 then .red else if rssi ≤ -65 then .yellow else .green

/-! ## The panel -/

/-- The panel: the title and the colour of its border, and the lines in it. -/
structure SidePanel where
  title : String
  border : Color
  lines : List Line

/-- The line of one of the three captures. -/
def captureLine (label : String) (enabled : Bool) : Line :=
  [.styled label .darkGray, .styled (captureLabel enabled) (if enabled then .green else .red)]

/-- The service, its version and the captures. -/
def serviceLines (app : ToothPasteTUI) : List Line :=
  let state := app.appState
  let service := if app.serviceAvailable then ("● Running", Color.green)
    else ("○ Not running", Color.red)
  [[.styled "Service:  " .darkGray, .styled service.1 service.2],
    [.styled "Version   " .darkGray, .raw state.appVersion],
    captureLine "Key Capture:       " state.enableKeyCapture,
    captureLine "Clipboard Capture: " state.enableClipboardCapture,
    captureLine "Mouse Capture:     " state.enableMouseCapture,
    []]

/-- The connected device. -/
def connectedLines (state : AppState) : List Line :=
  match state.connectedDevice with
  | some device =>
    let auth := authLabel state
    let authColor := if auth = "Authenticated" then Color.green
      else if auth = "Pairing required" then Color.red
      else Color.yellow
    [[⟨"● Connected", some .green, true⟩],
      [.styled "  Name     " .darkGray, .raw device.name],
      [.styled "  Firmware " .darkGray, .raw (firmwareLabel state)],
      [.styled "  Auth     " .darkGray, .styled auth authColor]]
  | none => [[.styled "○ No device connected" .darkGray]]

/-- The bytes of a name that are shown. -/
def nearbyNameBytes : ℕ := 16

/-- The line of a device nearby. -/
def nearbyLine (device : Device) : Option Line :=
  (truncate device.name nearbyNameBytes).map fun name =>
    [.raw ("  " ++ alignLeft 16 name),
      .styled (alignRight 5 (toString device.signalStrength) ++ " dBm")
        (rssiColor device.signalStrength)]

/-- The devices nearby, if there are any. -/
def nearbyLines (devices : List Device) : Option (List Line) :=
  if devices = [] then some []
  else (devices.mapM nearbyLine).map fun lines =>
    [] :: [⟨s!"Nearby ({devices.length}):", none, true⟩] :: lines

/-- `render_side_panel`, up to the layout of its lines; `none` where it panics. -/
def renderSidePanel (app : ToothPasteTUI) : Option SidePanel :=
  (nearbyLines app.appState.devices).map fun nearby =>
    { title := " App State "
      border := .darkGray
      lines := serviceLines app ++ connectedLines app.appState ++ nearby }

/-! ## Where nothing panics -/

/-- The text is within the limit, or the limit is a character boundary of it. -/
def Truncatable (s : String) (max : ℕ) : Prop := s.utf8ByteSize ≤ max ∨ IsBoundary s max

instance (s : String) (max : ℕ) : Decidable (Truncatable s max) :=
  inferInstanceAs (Decidable (_ ∨ _))

theorem isSome_truncate {s : String} {max : ℕ} :
    (truncate s max).isSome = true ↔ Truncatable s max := by
  unfold truncate Truncatable
  split_ifs with hfits
  · simp [hfits]
  · rw [isSome_sliceTo, or_iff_right hfits]

/-- What is returned is the longest prefix within the limit. -/
theorem longestPrefix_of_truncate {s t : String} {max : ℕ} (h : truncate s max = some t) :
    LongestPrefix max s t := by
  unfold truncate at h
  split_ifs at h with hfits
  · obtain rfl := Option.some.inj h
    exact longestPrefix_self hfits
  · exact longestPrefix_of_sliceTo h

/-- Every device has a line exactly when no name is cut inside a character. -/
theorem isSome_mapM_nearbyLine {devices : List Device} :
    (devices.mapM nearbyLine).isSome = true ↔
      ∀ device ∈ devices, Truncatable device.name nearbyNameBytes := by
  induction devices with
  | nil => simp
  | cons device devices ih =>
    rw [List.forall_mem_cons, ← ih, ← isSome_truncate, List.mapM_cons, nearbyLine]
    cases truncate device.name nearbyNameBytes with
    | none => simp
    | some name => cases devices.mapM nearbyLine <;> simp

theorem isSome_renderSidePanel (app : ToothPasteTUI) :
    (renderSidePanel app).isSome = true ↔
      ∀ device ∈ app.appState.devices, Truncatable device.name nearbyNameBytes := by
  rw [renderSidePanel, Option.isSome_map, nearbyLines, ← isSome_mapM_nearbyLine]
  split_ifs with hnone
  · simp [hnone]
  · rw [Option.isSome_map]

/-- For every state of the client, the panel is drawn without a panic exactly when every device
nearby has a name of at most 16 bytes or one with a character boundary after 16 bytes. For every
text and every limit, `truncate` returns the longest prefix of the text within the limit exactly
when the text is within the limit or the limit is a character boundary of it. -/
theorem side_panel_drawn_iff (app : ToothPasteTUI) (s : String) (max : ℕ) :
    ((renderSidePanel app).isSome = true ↔
      ∀ device ∈ app.appState.devices, Truncatable device.name nearbyNameBytes) ∧
    ((∃ t, truncate s max = some t ∧ LongestPrefix max s t) ↔ Truncatable s max) := by
  refine ⟨isSome_renderSidePanel app, ?_⟩
  rw [← isSome_truncate, Option.isSome_iff_exists]
  constructor
  · rintro ⟨t, ht, -⟩
    exact ⟨t, ht⟩
  · rintro ⟨t, ht⟩
    exact ⟨t, ht, longestPrefix_of_truncate ht⟩

/-- A device whose name has the accented letter in its bytes 15 and 16. -/
def cafeDevice : Device where
  name := "ToothPaste (Café)"
  address := "00:00:00:00:00:A1"
  id := ""
  state := .disconnected
  signalStrength := -40

/-- The client that has been told of the device. -/
def cafeClient : ToothPasteTUI :=
  .new ⟨{ AppState.initial with devices := [cafeDevice] }, 0⟩ ⟨true, 0⟩

/-- The name is cut inside its accented letter, and the panel is not drawn. -/
theorem accented_name_panics :
    (¬ ∀ app : ToothPasteTUI, (renderSidePanel app).isSome = true) ∧
    ¬ ∀ (s : String) (max : ℕ), ∃ t, truncate s max = some t ∧ LongestPrefix max s t := by
  have hcut : ¬ Truncatable cafeDevice.name nearbyNameBytes := by decide +kernel
  constructor
  · intro hdrawn
    exact hcut ((isSome_renderSidePanel _).mp (hdrawn cafeClient) cafeDevice
      (List.mem_singleton_self _))
  · intro htruncate
    obtain ⟨t, ht, -⟩ := htruncate cafeDevice.name nearbyNameBytes
    exact hcut (isSome_truncate.mp (by rw [ht]; rfl))

end Tui

end ToothPaste
