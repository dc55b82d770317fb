import ToothPaste.Mcp.Dispatch

/-!
# Scrolling

The argument of `mouse_scroll` is read as a 64-bit integer, narrowed to 32 bits by `tools_call`,
widened for the input event and narrowed again by `run`, with no check on the way.

* `scroll_exact_iff`: a call is rejected, or scrolls by exactly its argument, exactly when the
  argument is not read as a 64-bit integer or fits into 32 bits.
* `scroll_wraps`: a call that scrolls by nothing.
-/

namespace ToothPaste

/-- A number fits into 32 bits exactly when narrowing it leaves it as it is. -/
theorem asI32_eq_self_iff (n : ℤ) : asI32 n = n ↔ -2 ^ 31 ≤ n ∧ n < 2 ^ 31 := by
  rw [asI32, Int.bmod_eq_iff (by decide)]
  omega

/-- Narrowing a second time changes nothing. -/
theorem asI32_asI32 (n : ℤ) : asI32 (asI32 n) = asI32 n := Int.bmod_bmod

namespace Mcp

/-- The run enqueues one event, and `run` sends it as a mouse packet whose wheel is `delta`. -/
def ScrollsBy (run : ToolRun) (delta : ℤ) : Prop :=
  ∃ event result packet, run = sendAll result [.event event] ∧
    inputPayloads event = [⟨.mouse, some (.mousePacket packet)⟩] ∧ packet.wheel = delta

/-- The event of a scroll is sent as one packet, with what is left of the delta. -/
theorem scrollsBy_toolRun (clock : Clock) (delta : ℤ) :
    ScrollsBy ((ToolCall.mouseScroll delta).toolRun clock) (asI32 delta) :=
  ⟨_, _, _, rfl, rfl, asI32_asI32 delta⟩

/-- A run scrolls by one delta at most. -/
theorem ScrollsBy.eq {run : ToolRun} {d e : ℤ} (hd : ScrollsBy run d) (he : ScrollsBy run e) :
    d = e := by
  obtain ⟨event, result, packet, rfl, hpacket, rfl⟩ := hd
  obtain ⟨event', result', packet', hrun, hpacket', rfl⟩ := he
  -- one event is sent as one packet
  simp only [sendAll, ToolRun.sendEvent.injEq] at hrun
  rw [← hrun.1, hpacket] at hpacket'
  simp only [List.cons.injEq, EncryptedData.mk.injEq, Option.some.injEq,
    PacketData.mousePacket.injEq, and_true, true_and] at hpacket'
  rw [hpacket']

/-- For every integer that is given to `mouse_scroll`: the call is rejected before it enqueues
anything, or what it enqueues is sent with exactly this integer, exactly when the argument is not
read as a 64-bit integer or fits into 32 bits. -/
theorem scroll_exact_iff (clock : Clock) {params : Json} {n : JsonNumber} {delta : ℤ}
    (hname : (params.get "name").asStr = some "mouse_scroll")
    (hargument : (params.get "arguments").get "delta" = .number n)
    (hdelta : n.intValue = some delta) :
    ((toolsCall clock params).Rejects ∨ ScrollsBy (toolsCall clock params) delta) ↔
      n.asI64 = none ∨ (-2 ^ 31 ≤ delta ∧ delta < 2 ^ 31) := by
  have hread : ((params.get "arguments").get "delta").asI64 = n.asI64 := by rw [hargument]; rfl
  cases hvalue : n.asI64 with
  -- `as_i64` reads nothing, and the call is rejected
  | none =>
    rw [hvalue] at hread
    exact iff_of_true (.inl ⟨"missing delta", by simp only [toolsCall, hname, hread]⟩) (.inl rfl)
  | some value =>
    obtain rfl : value = delta :=
      Option.some.inj ((JsonNumber.intValue_of_asI64 hvalue).symm.trans hdelta)
    have hrun : toolsCall clock params = (ToolCall.mouseScroll value).toolRun clock := by
      simp only [toolsCall, hname, hread, hvalue]
    have hscrolls := scrollsBy_toolRun clock value
    rw [hrun, or_iff_right (Option.some_ne_none value), ← asI32_eq_self_iff]
    constructor
    · rintro (⟨message, hrejects⟩ | hexact)
      · cases hrejects
      · exact hscrolls.eq hexact
    · intro hfits
      rw [hfits] at hscrolls
      exact .inr hscrolls

/-- The parameters of a call that scrolls by an integer. -/
def scrollParams (n : JsonNumber) : Json :=
  callParams "mouse_scroll" (.object [("delta", .number n)])

/-- A scroll of three lines up. -/
theorem scroll_exact_sample :
    (toolsCall ⟨0, 0⟩ (scrollParams (.negInt (-3)))).Rejects ∨
      ScrollsBy (toolsCall ⟨0, 0⟩ (scrollParams (.negInt (-3)))) (-3) :=
  (scroll_exact_iff ⟨0, 0⟩ rfl rfl rfl).mpr (.inr (by decide))

/-- A scroll of `2 ^ 32` is not rejected, and the wheel of its packet is zero. -/
theorem scroll_wraps : ¬ ∀ (clock : Clock) (n : JsonNumber) (delta : ℤ), n.intValue = some delta →
    (toolsCall clock (scrollParams n)).Rejects ∨
      ScrollsBy (toolsCall clock (scrollParams n)) delta := by
  intro hclaim
  rcases hclaim ⟨0, 0⟩ (.posInt 4294967296) 4294967296 rfl with ⟨message, hrejects⟩ | hexact
  · cases hrejects
  · have hzero : ScrollsBy (toolsCall ⟨0, 0⟩ (scrollParams (.posInt 4294967296))) 0 :=
      ⟨_, _, _, rfl, rfl, by decide⟩
    exact absurd (hexact.eq hzero) (by decide)

end Mcp

end ToothPaste
