import ToothPaste.Lib.JsonSchema
import ToothPaste.Mcp.Serial
import ToothPaste.Mcp.Tools

/-!
# Tool calls and their schemas

The tools the MCP server advertises with the schemas of their arguments, and `tools_call`, which
reads the arguments of each tool by hand. A tool is a `ToolRun`: what it does, one await after the
other, with everything it can be answered.

* `dispatcher_agrees_iff`: a call whose arguments do not conform is rejected, and a rejected call
  has done nothing, exactly when the tool has a member it requires to be there, or the arguments
  are an object whose optional members are right.
* `button_ignored`: `mouse_click` clicks the left button for a button that is a number.
-/

namespace ToothPaste

namespace Mcp

/-! ## Runs -/

/-- What `tool_get_status` reports. -/
structure ToolStatus where
  connected : Bool
  deviceName : String
  firmwareVersion : String
  appVersion : String
  keyCaptureEnabled : Bool
  clipboardCaptureEnabled : Bool

/-- What a tool returns, before it is printed. -/
inductive ToolResult where
  | reply (reply : ToolReply)
  | alreadyConnected (name : String)
  | connectedTo (name : String)
  | disconnected
  | status (status : ToolStatus)
  | lines (lines : List String)

/-- What a tool does, one await after the other: `next` goes on with the answer. -/
inductive ToolRun where
  | ret (result : Except RpcError ToolResult)
  /-- `app_command_tx.send`; the channel takes the command or is closed. -/
  | sendCommand (cmd : AppCommand) (next : Bool → ToolRun)
  /-- `input_event_tx.send`. -/
  | sendEvent (event : InputEvent) (next : Bool → ToolRun)
  /-- `app_state_rx.borrow`. -/
  | borrow (next : AppState → ToolRun)
  /-- The loop of `tool_connect`: it ends with the first device that is seen, or in a timeout. -/
  | awaitDevice (next : Option Device → ToolRun)
  /-- The loop of `do_connect` for a device: it ends when one is connected, or in a timeout. -/
  | awaitConnected (device : Device) (next : Bool → ToolRun)
  /-- `serial_buffer.lock`, up to `drop`; the answer are the lines. -/
  | lockSerial (clear : Bool) (next : List String → ToolRun)

/-- The error of a command that cannot be sent. -/
def serviceChannelClosed : RpcError := ⟨-32603, "service channel closed"⟩

/-- The error of an event that cannot be sent. -/
def inputChannelClosed : RpcError := ⟨-32603, "input channel closed"⟩

/-- Everything is sent, one after the other, and then the tool returns. -/
def sendAll (result : ToolResult) : List ChannelSend → ToolRun
  | [] => .ret (.ok result)
  | .command cmd :: rest => .sendCommand cmd fun sent =>
    if sent then sendAll result rest else .ret (.error serviceChannelClosed)
  | .event event :: rest => .sendEvent event fun sent =>
    if sent then sendAll result rest else .ret (.error inputChannelClosed)

/-- The tools of `ToolCall`. -/
def ToolCall.toolRun (clock : Clock) (c : ToolCall) : ToolRun :=
  match c.run clock with
  | .error e => .ret (.error e)
  | .ok (sends, reply) => sendAll (.reply reply) sends

/-- The wait of `do_connect` for a connected device. -/
def awaitingConnected (device : Device) : ToolRun :=
  .awaitConnected device fun connected =>
    .ret (if connected then .ok (.connectedTo device.name)
      else .error ⟨-32603, "Connection timed out"⟩)

/-- `do_connect`. -/
def doConnect (device : Device) : ToolRun :=
  .sendCommand (.connectToDevice device) fun sent =>
    if sent then awaitingConnected device else .ret (.error serviceChannelClosed)

/-- The wait of `tool_connect` for a device. -/
def awaitingDevice : ToolRun :=
  .awaitDevice fun device =>
    match device with
    | some device => doConnect device
    | none => .ret (.error ⟨-32603, "No devices found within timeout"⟩)

/-- The scan of `tool_connect`. -/
def scanFirst : ToolRun :=
  .sendCommand .scanForDevices fun sent =>
    if sent then awaitingDevice else .ret (.error serviceChannelClosed)

/-- `tool_connect`. -/
def toolConnect : ToolRun :=
  .borrow fun s =>
    match s.connectedDevice, s.devices.head? with
    | some device, _ => .ret (.ok (.alreadyConnected device.name))
    | none, some device => doConnect device
    | none, none => scanFirst

/-- `tool_disconnect`. -/
def toolDisconnect : ToolRun := sendAll .disconnected [.command .disconnectDevice]

/-- `tool_get_status`. -/
def toolGetStatus : ToolRun :=
  .borrow fun s => .ret (.ok (.status
    { connected := s.connectedDevice.isSome
      deviceName := (s.connectedDevice.map Device.name).getD "none"
      firmwareVersion := (s.connectedDevice.bind fun device =>
        match device.state with
        | .connected _ firmwareVersion => some firmwareVersion
        | .disconnected => none).getD "unknown"
      appVersion := s.appVersion
      keyCaptureEnabled := s.enableKeyCapture
      clipboardCaptureEnabled := s.enableClipboardCapture }))

/-- `tools_call`. -/
def toolsCall (clock : Clock) (params : Json) : ToolRun :=
  match (params.get "name").asStr with
  | none => .ret (.error (invalidParams "missing tool name"))
  | some name =>
    let args := params.get "arguments"
    match name with
    | "connect" => toolConnect
    | "disconnect" => toolDisconnect
    | "get_status" => toolGetStatus
    | "type_text" =>
      match (args.get "text").asStr with
      | none => .ret (.error (invalidParams "missing text"))
      | some text => (ToolCall.typeText text).toolRun clock
    | "press_key" =>
      match (args.get "key").asStr with
      | none => .ret (.error (invalidParams "missing key"))
      | some key => (ToolCall.pressKey key).toolRun clock
    | "mouse_move" =>
      match (args.get "x").asF64, (args.get "y").asF64 with
      | none, _ => .ret (.error (invalidParams "missing x"))
      | some _, none => .ret (.error (invalidParams "missing y"))
      | some x, some y => (ToolCall.mouseMove x y).toolRun clock
    | "mouse_click" =>
      (ToolCall.mouseClick ((args.get "button").asStr.getD "left")).toolRun clock
    | "mouse_scroll" =>
      match (args.get "delta").asI64 with
      | none => .ret (.error (invalidParams "missing delta"))
      | some delta => (ToolCall.mouseScroll delta).toolRun clock
    | "media_control" =>
      match (args.get "action").asStr with
      | none => .ret (.error (invalidParams "missing action"))
      | some action => (ToolCall.mediaControl action).toolRun clock
    | "read_serial" =>
      .lockSerial ((args.get "clear").asBool.getD true) fun lines => .ret (.ok (.lines lines))
    | name => .ret (.error (invalidParams s!"unknown tool: {name}"))

/-! ## Schemas -/

/-- A tool as it is advertised. -/
structure Tool where
  name : String
  description : String
  inputSchema : ObjectSchema

/-- The schema of a tool without arguments. -/
def noArguments : ObjectSchema := ⟨[], []⟩

/-- `tools_list`. -/
def toolsList : List Tool :=
  [{ name := "connect"
     description := "Scan for ToothPaste devices and connect to the first one found."
     inputSchema := noArguments },
   { name := "disconnect"
     description := "Disconnect from the currently connected ToothPaste device."
     inputSchema := noArguments },
   { name := "get_status"
     description := "Get the current connection status and device information."
     inputSchema := noArguments },
   { name := "type_text"
     description := "Type a string as keyboard input on the connected device."
     inputSchema := ⟨[("text", ⟨.string, none, "Text to type"⟩)], ["text"]⟩ },
   { name := "press_key"
     description := "Press a key or key combination (e.g. \"Return\", \"ctrl+c\", " ++
       "\"alt+tab\", \"shift+f5\")."
     inputSchema := ⟨[("key", ⟨.string, none, "Key name or combo separated by '+'"⟩)], ["key"]⟩ },
   { name := "mouse_move"
     description := "Move the mouse cursor by a relative offset."
     inputSchema := ⟨[("x", ⟨.number, none, "Horizontal delta (positive = right)"⟩),
       ("y", ⟨.number, none, "Vertical delta (positive = down)"⟩)], ["x", "y"]⟩ },
   { name := "mouse_click"
     description := "Click a mouse button on the connected device."
     inputSchema := ⟨[("button", ⟨.string, some ["left", "right", "middle"],
       "Button to click (default: left)"⟩)], []⟩ },
   { name := "mouse_scroll"
     description := "Scroll the mouse wheel on the connected device."
     inputSchema := ⟨[("delta", ⟨.integer, none,
       "Scroll amount (positive = down, negative = up)"⟩)], ["delta"]⟩ },
   { name := "media_control"
     description := "Control media playback or system audio/brightness on the connected device."
     inputSchema := ⟨[("action", ⟨.string, some ["play_pause", "next_track", "prev_track",
       "volume_up", "volume_down", "mute_toggle", "brightness_up", "brightness_down"],
       "Media action to perform"⟩)], ["action"]⟩ },
   { name := "read_serial"
     description := "Read buffered SERIAL_DATA responses from the ToothPaste device (data sent " ++
       "to its USB serial port is echoed back over BLE). Use this to capture output from " ++
       "commands sent to the device."
     inputSchema := ⟨[("clear", ⟨.boolean, none,
       "Clear the buffer after reading (default: true)"⟩)], []⟩ }]

/-! ## Rejected calls -/

/-- What a run does to the channels and to the serial buffer. -/
inductive ToolEffect where
  | enqueued (x : ChannelSend)
  | locked (before after : List String)

namespace ToolRun

/-- What a run can do, and what it returns then, over everything its awaits can be answered. -/
inductive Returns : ToolRun → List ToolEffect → Except RpcError ToolResult → Prop
  | ret (result : Except RpcError ToolResult) : Returns (.ret result) [] result
  | commandSent {cmd : AppCommand} {next : Bool → ToolRun} {effects : List ToolEffect}
      {result : Except RpcError ToolResult} (hnext : Returns (next true) effects result) :
      Returns (.sendCommand cmd next) (.enqueued (.command cmd) :: effects) result
  | commandRefused {cmd : AppCommand} {next : Bool → ToolRun} {effects : List ToolEffect}
      {result : Except RpcError ToolResult} (hnext : Returns (next false) effects result) :
      Returns (.sendCommand cmd next) effects result
  | eventSent {event : InputEvent} {next : Bool → ToolRun} {effects : List ToolEffect}
      {result : Except RpcError ToolResult} (hnext : Returns (next true) effects result) :
      Returns (.sendEvent event next) (.enqueued (.event event) :: effects) result
  | eventRefused {event : InputEvent} {next : Bool → ToolRun} {effects : List ToolEffect}
      {result : Except RpcError ToolResult} (hnext : Returns (next false) effects result) :
      Returns (.sendEvent event next) effects result
  | borrow (s : AppState) {next : AppState → ToolRun} {effects : List ToolEffect}
      {result : Except RpcError ToolResult} (hnext : Returns (next s) effects result) :
      Returns (.borrow next) effects result
  | awaitDevice (device : Option Device) {next : Option Device → ToolRun}
      {effects : List ToolEffect} {result : Except RpcError ToolResult}
      (hnext : Returns (next device) effects result) :
      Returns (.awaitDevice next) effects result
  | awaitConnected {device : Device} (connected : Bool) {next : Bool → ToolRun}
      {effects : List ToolEffect} {result : Except RpcError ToolResult}
      (hnext : Returns (next connected) effects result) :
      Returns (.awaitConnected device next) effects result
  | lockSerial {clear : Bool} (buf : List String) {next : List String → ToolRun}
      {effects : List ToolEffect} {result : Except RpcError ToolResult}
      (hnext : Returns (next (toolReadSerial clear buf).1) effects result) :
      Returns (.lockSerial clear next) (.locked buf (toolReadSerial clear buf).2 :: effects) result

/-- The run rejects its arguments at once. -/
def Rejects (run : ToolRun) : Prop := ∃ message, run = .ret (.error (invalidParams message))

/-- Nothing was enqueued, and the serial buffer is as it was. -/
def Quiet (effects : List ToolEffect) : Prop :=
  ∀ effect ∈ effects, ∃ lines, effect = .locked lines lines

/-- Whatever its awaits are answered, the run does not end with the error of rejected arguments. -/
def NeverRejects : ToolRun → Prop
  | .ret result => ∀ e, result = .error e → e.code ≠ -32602
  | .sendCommand _ next => ∀ sent, NeverRejects (next sent)
  | .sendEvent _ next => ∀ sent, NeverRejects (next sent)
  | .borrow next => ∀ s, NeverRejects (next s)
  | .awaitDevice next => ∀ device, NeverRejects (next device)
  | .awaitConnected _ next => ∀ connected, NeverRejects (next connected)
  | .lockSerial _ next => ∀ lines, NeverRejects (next lines)

theorem NeverRejects.code_ne {run : ToolRun} (h : run.NeverRejects) {effects : List ToolEffect}
    {result : Except RpcError ToolResult} (hreturns : run.Returns effects result) {e : RpcError}
    (he : result = .error e) : e.code ≠ -32602 := by
  induction hreturns with
  | ret result => exact h e he
  | commandSent _ ih | commandRefused _ ih | eventSent _ ih | eventRefused _ ih | borrow _ _ ih
  | awaitDevice _ _ ih | awaitConnected _ _ ih | lockSerial _ _ ih => exact ih (h _) he

theorem NeverRejects.not_rejects {run : ToolRun} (h : run.NeverRejects) : ¬ run.Rejects := by
  rintro ⟨message, rfl⟩
  exact h _ rfl rfl

theorem neverRejects_sendAll (result : ToolResult) (sends : List ChannelSend) :
    (sendAll result sends).NeverRejects := by
  induction sends with
  | nil => exact nofun
  | cons x rest ih =>
    cases x <;> intro sent <;> cases sent
    · rintro _ ⟨⟩ ⟨⟩
    · exact ih
    · rintro _ ⟨⟩ ⟨⟩
    · exact ih

theorem neverRejects_doConnect (device : Device) : (doConnect device).NeverRejects := by
  rintro (_ | _)
  · rintro _ ⟨⟩ ⟨⟩
  · rintro (_ | _) _ ⟨⟩ ⟨⟩

theorem neverRejects_toolConnect : toolConnect.NeverRejects := by
  intro s
  dsimp only
  split
  · exact nofun
  · exact neverRejects_doConnect _
  · rintro (_ | _)
    · rintro _ ⟨⟩ ⟨⟩
    · rintro (_ | device)
      · rintro _ ⟨⟩ ⟨⟩
      · exact neverRejects_doConnect device

/-- A tool rejects its argument before it does anything, or not at all. -/
theorem rejects_or_neverRejects_toolRun (clock : Clock) (c : ToolCall) :
    (c.toolRun clock).Rejects ∨ (c.toolRun clock).NeverRejects := by
  unfold ToolCall.toolRun
  cases c with
  | typeText | mouseMove | mouseClick | mouseScroll => exact .inr (neverRejects_sendAll _ _)
  | pressKey key =>
    rw [ToolCall.run, toolPressKey]
    cases parseKeyCombo key with
    | none => exact .inl ⟨_, rfl⟩
    | some report => exact .inr (neverRejects_sendAll _ _)
  | mediaControl action =>
    rw [ToolCall.run, toolMediaControl]
    cases mediaCode action with
    | none => exact .inl ⟨_, rfl⟩
    | some code => exact .inr (neverRejects_sendAll _ _)

/-- A call is rejected before it does anything, or not at all. -/
theorem rejects_or_neverRejects (clock : Clock) (params : Json) :
    (toolsCall clock params).Rejects ∨ (toolsCall clock params).NeverRejects := by
  unfold toolsCall
  split
  · exact .inl ⟨_, rfl⟩
  dsimp only
  -- the tools in the order of the dispatcher: an argument that is missing rejects the call
  split
  · exact .inr neverRejects_toolConnect
  · exact .inr (neverRejects_sendAll _ _)
  · exact .inr fun s => nofun
  · split
    · exact .inl ⟨_, rfl⟩
    · exact rejects_or_neverRejects_toolRun clock _
  · split
    · exact .inl ⟨_, rfl⟩
    · exact rejects_or_neverRejects_toolRun clock _
  · split
    · exact .inl ⟨_, rfl⟩
    · exact .inl ⟨_, rfl⟩
    · exact rejects_or_neverRejects_toolRun clock _
  · exact rejects_or_neverRejects_toolRun clock _
  · split
    · exact .inl ⟨_, rfl⟩
    · exact rejects_or_neverRejects_toolRun clock _
  · split
    · exact .inl ⟨_, rfl⟩
    · exact rejects_or_neverRejects_toolRun clock _
  · exact .inr fun lines => nofun
  · exact .inl ⟨_, rfl⟩

/-- A call that returns the error of rejected arguments has done nothing. -/
theorem quiet_of_rejected (clock : Clock) (params : Json) {effects : List ToolEffect}
    {e : RpcError} (hreturns : (toolsCall clock params).Returns effects (.error e))
    (hcode : e.code = -32602) : Quiet effects := by
  rcases rejects_or_neverRejects clock params with ⟨message, hrun⟩ | hnever
  · rw [hrun] at hreturns
    cases hreturns
    exact nofun
  · exact absurd hcode (hnever.code_ne hreturns rfl)

end ToolRun

/-! ## Conforming arguments -/

/-- The arguments of a call, if it has any. -/
def argumentsOf : Json → Option Json
  | .object members => members.lookup "arguments"
  | _ => none

/-- The arguments as the schema is about them: none are an object without members. -/
def schemaArguments (params : Json) : Json := (argumentsOf params).getD (.object [])

/-- A call without arguments has the members of an object without members. -/
theorem get_schemaArguments (params : Json) (key : String) :
    (schemaArguments params).get key = (params.get "arguments").get key := by
  cases params with
  | object members =>
    rw [schemaArguments, argumentsOf, Json.get.eq_1]
    cases members.lookup "arguments" <;> rfl
  | null | bool | number | string | array => rfl

/-- The optional members are right: `button` names a button, and `clear` is a boolean. -/
def OptionalsValid (name : String) (members : List (String × Json)) : Prop :=
  (name = "mouse_click" → ∀ value, members.lookup "button" = some value →
    value = .string "left" ∨ value = .string "right" ∨ value = .string "middle") ∧
  (name = "read_serial" → ∀ value, members.lookup "clear" = some value → ∃ b, value = .bool b)

/-- The condition on the tool and its arguments: the tool requires a member, or the arguments are
absent or an object whose optional members are right. -/
def ArgumentsChecked (name : String) (arguments : Option Json) : Prop :=
  name ∈ ["type_text", "press_key", "mouse_move", "mouse_scroll", "media_control"] ∨
    arguments = none ∨ ∃ members, arguments = some (.object members) ∧ OptionalsValid name members

/-- The actions that have a code are those of the schema. -/
theorem mem_of_mediaCode {action : String} {code : UInt32} (h : mediaCode action = some code) :
    action ∈ ["play_pause", "next_track", "prev_track", "volume_up", "volume_down", "mute_toggle",
      "brightness_up", "brightness_down"] := by
  unfold mediaCode at h
  split at h <;> first | decide | cases h

/-- Arguments conform to the schema of one required member if the member is accepted. -/
theorem conforms_of_member {params : Json} {name : String} {schema : PropertySchema}
    (haccepts : schema.Accepts ((params.get "arguments").get name)) :
    ObjectSchema.Conforms ⟨[(name, schema)], [name]⟩ (schemaArguments params) := by
  refine ObjectSchema.conforms_of_accepts (by simp) (by simp) fun property hmem => ?_
  obtain rfl := List.mem_singleton.mp hmem
  rw [get_schemaArguments]
  exact haccepts

/-- A tool with required members rejects arguments that do not conform. -/
theorem conforms_of_not_rejects {tool : Tool} (htool : tool ∈ toolsList)
    (hname : tool.name ∈
      ["type_text", "press_key", "mouse_move", "mouse_scroll", "media_control"])
    {clock : Clock} {params : Json} (hparams : (params.get "name").asStr = some tool.name)
    (hrejects : ¬ (toolsCall clock params).Rejects) :
    tool.inputSchema.Conforms (schemaArguments params) := by
  simp only [toolsList, List.mem_cons, List.not_mem_nil, or_false] at htool
  rcases htool with rfl | rfl | rfl | rfl | rfl | rfl | rfl | rfl | rfl | rfl <;>
    try exact absurd hname (by decide)
  · -- `type_text`
    cases htext : ((params.get "arguments").get "text").asStr with
    | none => exact absurd ⟨"missing text", by simp only [toolsCall, hparams, htext]⟩ hrejects
    | some text => exact conforms_of_member ⟨⟨text, Json.asStr_eq_some_iff.mp htext⟩, nofun⟩
  · -- `press_key`
    cases hkey : ((params.get "arguments").get "key").asStr with
    | none => exact absurd ⟨"missing key", by simp only [toolsCall, hparams, hkey]⟩ hrejects
    | some key => exact conforms_of_member ⟨⟨key, Json.asStr_eq_some_iff.mp hkey⟩, nofun⟩
  · -- `mouse_move`
    cases hx : ((params.get "arguments").get "x").asF64 with
    | none => exact absurd ⟨"missing x", by simp only [toolsCall, hparams, hx]⟩ hrejects
    | some x =>
      cases hy : ((params.get "arguments").get "y").asF64 with
      | none => exact absurd ⟨"missing y", by simp only [toolsCall, hparams, hx, hy]⟩ hrejects
      | some y =>
        refine ObjectSchema.conforms_of_accepts (by simp) (by simp) fun property hmem => ?_
        rcases List.mem_pair.mp hmem with rfl | rfl <;> rw [get_schemaArguments]
        · exact ⟨Json.exists_of_asF64 hx, nofun⟩
        · exact ⟨Json.exists_of_asF64 hy, nofun⟩
  · -- `mouse_scroll`
    cases hdelta : ((params.get "arguments").get "delta").asI64 with
    | none => exact absurd ⟨"missing delta", by simp only [toolsCall, hparams, hdelta]⟩ hrejects
    | some delta => exact conforms_of_member ⟨Json.exists_of_asI64 hdelta, nofun⟩
  · -- `media_control`
    cases haction : ((params.get "arguments").get "action").asStr with
    | none => exact absurd ⟨"missing action", by simp only [toolsCall, hparams, haction]⟩ hrejects
    | some action =>
      cases hcode : mediaCode action with
      | none =>
        refine absurd ⟨s!"unknown action: {action}", ?_⟩ hrejects
        simp only [toolsCall, hparams, haction, ToolCall.toolRun, ToolCall.run, toolMediaControl,
          hcode]
      | some code =>
        refine conforms_of_member ?_
        rw [Json.asStr_eq_some_iff.mp haction]
        refine ⟨⟨action, rfl⟩, fun texts htexts => ⟨action, ?_, rfl⟩⟩
        exact Option.some.inj htexts ▸ mem_of_mediaCode hcode

/-- A tool without required members rejects nothing. -/
theorem neverRejects_optional (clock : Clock) {tool : Tool} (htool : tool ∈ toolsList)
    (hname : tool.name ∉
      ["type_text", "press_key", "mouse_move", "mouse_scroll", "media_control"])
    {params : Json} (hparams : (params.get "name").asStr = some tool.name) :
    (toolsCall clock params).NeverRejects := by
  simp only [toolsList, List.mem_cons, List.not_mem_nil, or_false] at htool
  rcases htool with rfl | rfl | rfl | rfl | rfl | rfl | rfl | rfl | rfl | rfl <;>
    try exact absurd (by decide) hname
  all_goals simp only [toolsCall, hparams]
  · exact ToolRun.neverRejects_toolConnect
  · exact ToolRun.neverRejects_sendAll _ _
  · exact fun s => nofun
  · exact ToolRun.neverRejects_sendAll _ _
  · exact fun lines => nofun

/-- The arguments of a tool without required members conform if they are an object whose optional
members are right. -/
theorem conforms_optional_iff {tool : Tool} (htool : tool ∈ toolsList)
    (hname : tool.name ∉
      ["type_text", "press_key", "mouse_move", "mouse_scroll", "media_control"]) (v : Json) :
    tool.inputSchema.Conforms v ↔ ∃ members, v = .object members ∧
      OptionalsValid tool.name members := by
  simp only [toolsList, List.mem_cons, List.not_mem_nil, or_false] at htool
  rcases htool with rfl | rfl | rfl | rfl | rfl | rfl | rfl | rfl | rfl | rfl <;>
    try exact absurd (by decide) hname
  all_goals
    refine exists_congr fun members => and_congr_right fun _ => ?_
    simp [noArguments, OptionalsValid, PropertySchema.Accepts, JsonType.Accepts]
  -- a button that is listed is a string
  refine forall_congr' fun value => imp_congr_right fun _ => and_iff_right_of_imp ?_
  rintro (rfl | rfl | rfl) <;> exact ⟨_, rfl⟩

/-- For every advertised tool and all arguments: arguments that do not conform to the schema are
rejected, and a call that returns the error of rejected arguments has enqueued nothing and left the
serial buffer as it was, exactly when the tool requires a member, or the arguments are absent or an
object whose optional members are right. -/
theorem dispatcher_agrees_iff (clock : Clock) {tool : Tool} (htool : tool ∈ toolsList)
    {params : Json} (hparams : (params.get "name").asStr = some tool.name) :
    ((¬ tool.inputSchema.Conforms (schemaArguments params) → (toolsCall clock params).Rejects) ∧
      ∀ effects e, (toolsCall clock params).Returns effects (.error e) → e.code = -32602 →
        ToolRun.Quiet effects) ↔
    ArgumentsChecked tool.name (argumentsOf params) := by
  rw [and_iff_left fun effects e => ToolRun.quiet_of_rejected clock params, ArgumentsChecked]
  by_cases hname : tool.name ∈
      ["type_text", "press_key", "mouse_move", "mouse_scroll", "media_control"]
  · refine iff_of_true (fun hnot => ?_) (.inl hname)
    by_contra hrejects
    exact hnot (conforms_of_not_rejects htool hname hparams hrejects)
  -- nothing is rejected, so that the arguments have to conform
  · have hnever := (neverRejects_optional clock htool hname hparams).not_rejects
    rw [or_iff_right hname, imp_iff_not hnever, not_not,
      conforms_optional_iff htool hname, schemaArguments]
    cases argumentsOf params with
    | none =>
      refine iff_of_true ⟨[], rfl, ?_, ?_⟩ (.inl rfl)
      · exact fun _ value hvalue => nomatch hvalue
      · exact fun _ value hvalue => nomatch hvalue
    | some arguments => simp [Option.getD_some]

/-- The parameters of a call. -/
def callParams (name : String) (arguments : Json) : Json :=
  .object [("name", .string name), ("arguments", arguments)]

/-- A call of `type_text` without its text is rejected. -/
theorem dispatcher_agrees_sample :
    (toolsCall ⟨0, 0⟩ (callParams "type_text" (.object []))).Rejects := by
  have htool : toolsList.get ⟨3, by decide⟩ ∈ toolsList := List.get_mem ..
  have hname : ((callParams "type_text" (.object [])).get "name").asStr =
      some (toolsList.get ⟨3, by decide⟩).name := rfl
  have hagrees := (dispatcher_agrees_iff ⟨0, 0⟩ htool hname).mpr (.inl (by decide))
  refine hagrees.1 ?_
  rintro ⟨members, heq, hrequired, -⟩
  obtain rfl : [] = members := Json.object.inj heq
  exact absurd (hrequired "text" (by decide)) (by decide)

/-- A click whose button is a number is not rejected: the left button is clicked. -/
theorem button_ignored :
    ¬ ∀ (clock : Clock) (tool : Tool), tool ∈ toolsList → ∀ params : Json,
      (params.get "name").asStr = some tool.name →
      ¬ tool.inputSchema.Conforms (schemaArguments params) → (toolsCall clock params).Rejects := by
  intro hclaim
  have hnot : ¬ (toolsList.get ⟨6, by decide⟩).inputSchema.Conforms
      (.object [("button", .number (.posInt 5))]) := by
    rintro ⟨members, heq, -, haccepts⟩
    obtain rfl : [("button", Json.number (.posInt 5))] = members := Json.object.inj heq
    obtain ⟨⟨text, htext⟩, -⟩ := haccepts _ (List.mem_singleton_self _) _ rfl
    cases htext
  obtain ⟨message, hrejected⟩ := hclaim ⟨0, 0⟩ (toolsList.get ⟨6, by decide⟩) (List.get_mem ..)
    (callParams "mouse_click" (.object [("button", .number (.posInt 5))])) rfl hnot
  cases hrejected

end Mcp

end ToothPaste
