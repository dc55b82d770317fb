import ToothPaste.Mcp.Server

/-!
# Connections that a tool asks for

`tool_connect` is the only tool that connects. It takes the device from a state that it reads, at
once or after a wait for one that lists a device, and may send its command long after.
-/

namespace ToothPaste

namespace Mcp

namespace ToolRun

/-- The run connects to listed devices only, where those of the states that it reads are listed by
then. -/
def AsksListed : ToolRun → (Device → Prop) → Prop
  | .ret _, _ => True
  | .sendCommand cmd next, listed =>
    (∀ device, cmd = .connectToDevice device → listed device) ∧
      ∀ sent, AsksListed (next sent) listed
  | .sendEvent _ next, listed => ∀ sent, AsksListed (next sent) listed
  | .borrow next, listed => ∀ (app : AppState) (more : Device → Prop),
    (∀ d, listed d → more d) → (∀ d ∈ app.devices, more d) → AsksListed (next app) more
  | .awaitDevice next, listed => ∀ (answer : Option Device) (more : Device → Prop),
    (∀ d, listed d → more d) → (∀ d ∈ answer, more d) → AsksListed (next answer) more
  | .awaitConnected _ next, listed => ∀ connected, AsksListed (next connected) listed
  | .lockSerial _ next, listed => ∀ lines, AsksListed (next lines) listed

variable {listed more : Device → Prop} {run next : ToolRun}

theorem AsksListed.mono (h : run.AsksListed listed) (hmore : ∀ d, listed d → more d) :
    run.AsksListed more := by
  induction run with
  | ret => trivial
  | sendCommand cmd next ih =>
    exact ⟨fun device hcmd => hmore device (h.1 device hcmd), fun sent => ih sent (h.2 sent)⟩
  | sendEvent event next ih => exact fun sent => ih sent (h sent)
  | borrow next ih => exact fun app more' hle => h app more' fun d hd => hle d (hmore d hd)
  | awaitDevice next ih =>
    exact fun answer more' hle => h answer more' fun d hd => hle d (hmore d hd)
  | awaitConnected device next ih => exact fun connected => ih connected (h connected)
  | lockSerial clear next ih => exact fun lines => ih lines (h lines)

theorem asksListed_doConnect {device : Device} (h : listed device) :
    (doConnect device).AsksListed listed := by
  refine ⟨fun d hd => AppCommand.connectToDevice.inj hd ▸ h, fun sent => ?_⟩
  cases sent with
  | true => exact fun _ => trivial
  | false => trivial

theorem asksListed_toolConnect : toolConnect.AsksListed listed := by
  intro app more hmore happ
  dsimp only
  split
  · trivial
  case h_2 _ _ device _ hdevice =>
    exact asksListed_doConnect (happ device (List.mem_of_head? hdevice))
  · refine ⟨nofun, fun sent => ?_⟩
    cases sent with
    | false => trivial
    | true =>
      intro answer more' hmore' hanswer
      cases answer with
      | none => trivial
      | some device => exact asksListed_doConnect (hanswer device rfl)

/-- What is sent one after the other, with no connection among it. -/
theorem asksListed_sendAll (result : ToolResult) {sends : List ChannelSend}
    (hsends : ∀ device, .command (.connectToDevice device) ∉ sends) :
    (sendAll result sends).AsksListed listed := by
  induction sends with
  | nil => trivial
  | cons x rest ih =>
    have hrest := ih fun device hmem => hsends device (List.mem_cons_of_mem _ hmem)
    have hnext : ∀ (e : RpcError) (sent : Bool),
        (if sent = true then sendAll result rest else .ret (.error e)).AsksListed listed :=
      fun e sent => by
        cases sent with
        | true => exact hrest
        | false => trivial
    cases x with
    | command cmd =>
      refine ⟨?_, hnext _⟩
      rintro device rfl
      exact absurd List.mem_cons_self (hsends device)
    | event event => exact hnext _

/-- The other tools do not connect. -/
theorem asksListed_toolRun (clock : Clock) (c : ToolCall) :
    (c.toolRun clock).AsksListed listed := by
  rw [ToolCall.toolRun]
  cases hrun : c.run clock with
  | error e => trivial
  | ok outcome =>
    refine asksListed_sendAll _ fun device hmem => ?_
    have hsends : c.sends clock = outcome.1 := by rw [ToolCall.sends, hrun]
    rw [← hsends] at hmem
    cases c with
    | typeText | mouseMove | mouseScroll => cases List.mem_singleton.mp hmem
    | mouseClick button =>
      simp [ToolCall.sends, ToolCall.run, toolMouseClick] at hmem
    | pressKey key =>
      cases hkey : parseKeyCombo key <;>
        simp [ToolCall.sends, ToolCall.run, toolPressKey, hkey] at hmem
    | mediaControl action =>
      cases hcode : mediaCode action <;>
        simp [ToolCall.sends, ToolCall.run, toolMediaControl, hcode] at hmem

/-- A call connects to listed devices only. -/
theorem asksListed_toolsCall (clock : Clock) (params : Json) :
    (toolsCall clock params).AsksListed listed := by
  unfold toolsCall
  split
  · trivial
  dsimp only
  -- the tools in the order of the dispatcher
  split
  · exact asksListed_toolConnect
  · exact asksListed_sendAll _ (by simp)
  · exact fun _ _ _ _ => trivial
  · split
    · trivial
    · exact asksListed_toolRun clock _
  · split
    · trivial
    · exact asksListed_toolRun clock _
  · split
    · trivial
    · trivial
    · exact asksListed_toolRun clock _
  · exact asksListed_toolRun clock _
  · split
    · trivial
    · exact asksListed_toolRun clock _
  · split
    · trivial
    · exact asksListed_toolRun clock _
  · exact fun _ => trivial
  · trivial

variable {SK PK : Type} {cr : Crates SK PK} {pb : Prost} {s t : Service SK}

/-- A step of a tool puts a connection to a listed device in the channel, if any. -/
theorem AsksListed.step (h : run.AsksListed listed)
    (happ : ∀ d ∈ s.task.iface.appState.devices, listed d)
    (hst : run.step cr pb s = some (t, next)) : next.AsksListed listed ∧
      ∀ device, .command (.connectToDevice device) ∈ run.puts s → listed device := by
  have hnone : ∀ device, .command (.connectToDevice device) ∈ ([] : List ChannelSend) →
      listed device := fun _ hmem => absurd hmem List.not_mem_nil
  cases moves_of_step hst with
  | borrow => exact ⟨h _ _ (fun _ hd => hd) happ, hnone⟩
  | commandRefused hstopped =>
    rw [ToolRun.puts, if_pos hstopped]
    exact ⟨h.2 _, hnone⟩
  | commandSent hopen =>
    rw [ToolRun.puts, if_neg hopen]
    refine ⟨h.2 _, fun device hmem => ?_⟩
    exact h.1 device (ChannelSend.command.inj (List.mem_singleton.mp hmem)).symm
  | eventRefused hstopped =>
    rw [ToolRun.puts, if_pos hstopped]
    exact ⟨h _, hnone⟩
  | eventSent hopen =>
    rw [ToolRun.puts, if_neg hopen]
    exact ⟨h _, fun device hmem => by cases List.mem_singleton.mp hmem⟩
  | awaitDevice hdevice =>
    refine ⟨h _ _ (fun _ hd => hd) fun d hd => ?_, hnone⟩
    exact Option.some.inj hd ▸ happ _ (List.mem_of_head? hdevice)
  | awaitConnected => exact ⟨h _, hnone⟩
  | lockSerial => exact ⟨h _, hnone⟩

/-- Nothing is read in a wait that times out. -/
theorem AsksListed.timeout (h : run.AsksListed listed) (hst : run.timeout = some next) :
    next.AsksListed listed := by
  cases run with
  | awaitDevice next =>
    obtain rfl := Option.some.inj hst
    exact h _ _ (fun _ hd => hd) nofun
  | awaitConnected device next =>
    obtain rfl := Option.some.inj hst
    exact h _
  | ret | borrow | sendCommand | sendEvent | lockSerial => cases hst

end ToolRun

end Mcp

end ToothPaste
