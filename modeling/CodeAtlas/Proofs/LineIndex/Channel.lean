import CodeAtlas.LineIndex

/-!
# Channels of events

A channel carries events to one listener and keeps only so many of them. `Broadcasts` says what can
be relied on, in terms of how many events are kept and whether any were lost (`Contents`): a listener
is told once that events were lost, then it receives those that are kept, and it receives the end
only behind them. How many events a channel can keep is left open.

What counts for a listener is how much it has yet to receive, which is never nothing after an event
(`Broadcasts.backlog_send`) and gets one less with everything it receives
(`Broadcasts.receive_of_pos`). Channels that only count their events are an instance, with any
capacity (`CompilationChannel.broadcasts`).
-/

namespace CodeAtlas

/-! ## What is in a channel -/

/-- What is in a channel for its listener. -/
structure Contents where
  /-- The number of events that are kept. -/
  kept : Nat
  /-- Whether events were lost that the listener was not told of. -/
  lost : Bool
  /-- Whether no more events will come. -/
  closed : Bool
  deriving DecidableEq, Repr

/-- How many things can be received before the end. -/
def Contents.backlog (contents : Contents) : Nat :=
  contents.kept + if contents.lost then 1 else 0

/-- Nothing is left if no event is kept and none was lost. -/
theorem Contents.backlog_eq_zero_iff {contents : Contents} :
    contents.backlog = 0 ↔ contents.kept = 0 ∧ contents.lost = false := by
  unfold backlog
  cases contents.lost with
  | false => simp
  | true => simp

variable {χ : Type} [EventChannel χ]

/-! ## What a channel does -/

/-- What a channel does, as far as its listener can tell. -/
structure Broadcasts (contents : χ → Contents) : Prop where
  /-- An event is kept, in the place of the oldest one if there is no other. -/
  send : ∀ channel,
    contents (EventChannel.send channel) =
      { contents channel with kept := (contents channel).kept + 1 } ∨
    contents (EventChannel.send channel) = { contents channel with lost := true }
  /-- Closing leaves what is in the channel. -/
  close : ∀ channel,
    contents (EventChannel.close channel) = { contents channel with closed := true }
  /-- The listener is told once that events were lost. -/
  receive_lagged : ∀ channel, (contents channel).lost = true →
    ∃ rest, EventChannel.receive channel = some (.lagged, rest) ∧
      contents rest = { contents channel with lost := false }
  /-- Then it receives the events that are kept. -/
  receive_event : ∀ channel, (contents channel).lost = false → 0 < (contents channel).kept →
    ∃ rest, EventChannel.receive channel = some (.event, rest) ∧
      contents rest = { contents channel with kept := (contents channel).kept - 1 }
  /-- It receives the end when no more events will come and none are left. -/
  receive_closed : ∀ channel, (contents channel).lost = false → (contents channel).kept = 0 →
    (contents channel).closed = true →
    ∃ rest, EventChannel.receive channel = some (.closed, rest) ∧
      contents rest = contents channel
  /-- It waits while none are left and more may come. -/
  receive_none : ∀ channel, (contents channel).lost = false → (contents channel).kept = 0 →
    (contents channel).closed = false → EventChannel.receive channel = none

namespace Broadcasts

variable {contents : χ → Contents}

/-- Something is left in a channel to which an event was sent. -/
theorem backlog_send (h : Broadcasts contents) (channel : χ) :
    0 < (contents (EventChannel.send channel)).backlog := by
  unfold Contents.backlog
  rcases h.send channel with hsend | hsend
  · rw [hsend]
    exact Nat.lt_of_lt_of_le (Nat.succ_pos _) (Nat.le_add_right _ _)
  · rw [hsend]
    exact Nat.lt_of_lt_of_le Nat.one_pos (Nat.le_add_left _ _)

/-- Closing leaves the number of things to be received. -/
theorem backlog_close (h : Broadcasts contents) (channel : χ) :
    (contents (EventChannel.close channel)).backlog = (contents channel).backlog := by
  rw [h.close]
  rfl

/-- As long as something is left, it is received, and there is one thing less. -/
theorem receive_of_pos (h : Broadcasts contents) {channel : χ}
    (hpos : 0 < (contents channel).backlog) :
    ∃ received rest, EventChannel.receive channel = some (received, rest) ∧ received ≠ .closed ∧
      (contents rest).backlog + 1 = (contents channel).backlog ∧
      (contents rest).closed = (contents channel).closed := by
  unfold Contents.backlog at hpos ⊢
  cases hlost : (contents channel).lost with
  | true =>
    obtain ⟨rest, hreceive, hrest⟩ := h.receive_lagged channel hlost
    refine ⟨.lagged, rest, hreceive, by decide, ?_⟩
    rw [hrest]
    exact ⟨rfl, rfl⟩
  | false =>
    rw [hlost] at hpos
    have hkept : 0 < (contents channel).kept := hpos
    obtain ⟨rest, hreceive, hrest⟩ := h.receive_event channel hlost hkept
    refine ⟨.event, rest, hreceive, by decide, ?_⟩
    rw [hrest, hlost]
    exact ⟨Nat.succ_pred_eq_of_pos hkept, rfl⟩

/-- When nothing is left, the end is received or nothing, and the channel has what it had. -/
theorem receive_of_zero (h : Broadcasts contents) {channel : χ}
    (hzero : (contents channel).backlog = 0) :
    (EventChannel.receive channel = none ∧ (contents channel).closed = false) ∨
      ∃ rest, EventChannel.receive channel = some (.closed, rest) ∧
        contents rest = contents channel := by
  obtain ⟨hkept, hlost⟩ := Contents.backlog_eq_zero_iff.mp hzero
  cases hclosed : (contents channel).closed with
  | false => exact .inl ⟨h.receive_none channel hlost hkept hclosed, rfl⟩
  | true => exact .inr (h.receive_closed channel hlost hkept hclosed)

end Broadcasts

/-! ## Channels that count -/

/-- What is in a channel that counts its events. -/
def CompilationChannel.contents (channel : CompilationChannel) : Contents :=
  ⟨channel.kept, channel.lost, channel.closed⟩

/-- A channel that counts its events does what is asked of a channel, whatever its capacity. -/
theorem CompilationChannel.broadcasts : Broadcasts CompilationChannel.contents where
  send channel := by
    show (send channel).contents = _ ∨ (send channel).contents = _
    unfold send
    split
    · exact .inl rfl
    · exact .inr rfl
  close channel := rfl
  receive_lagged channel hlost := by
    refine ⟨{ channel with lost := false }, ?_, rfl⟩
    show channel.receive = _
    unfold receive
    exact if_pos hlost
  receive_event channel hlost hkept := by
    have hlost : channel.lost = false := hlost
    refine ⟨{ channel with kept := channel.kept - 1 }, ?_, rfl⟩
    show channel.receive = _
    unfold receive
    rw [hlost, if_neg Bool.false_ne_true, if_pos (show 0 < channel.kept from hkept)]
  receive_closed channel hlost hkept hclosed := by
    have hlost : channel.lost = false := hlost
    have hkept : channel.kept = 0 := hkept
    have hclosed : channel.closed = true := hclosed
    refine ⟨channel, ?_, rfl⟩
    show channel.receive = _
    unfold receive
    rw [hlost, if_neg Bool.false_ne_true, hkept, if_neg (Nat.lt_irrefl 0), if_pos hclosed]
  receive_none channel hlost hkept hclosed := by
    have hlost : channel.lost = false := hlost
    have hkept : channel.kept = 0 := hkept
    have hclosed : channel.closed = false := hclosed
    show channel.receive = _
    unfold receive
    rw [hlost, if_neg Bool.false_ne_true, hkept, if_neg (Nat.lt_irrefl 0), hclosed,
      if_neg Bool.false_ne_true]

end CodeAtlas
