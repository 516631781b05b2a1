import CodeAtlas.Proofs.LineIndex
import CodeAtlas.Proofs.LineIndex.Channel
import Mathlib.Data.List.Induction

/-!
# Line breaks and finished compilations

Lookups and a listener share one index. The listener clears it for everything that it receives, but
in between others may go on: events are sent, lookups look at what is kept and keep what they have
computed, each at a time of its own, and the channel is closed. `SharedIndex.step` makes one such
move, and `SharedIndex.run` any sequence of them.

`SharedIndex.listener_clears` holds for every channel that tells its listener that events were lost,
then hands on those it keeps, and ends behind them (`Broadcasts`), whatever number it keeps at most.
An event leaves the listener with something to do (`SharedIndex.not_settled_send`), and only a clear
settles it (`SharedIndex.not_settled_step`). So when there is nothing to do any more, no line breaks
are left that were kept before the last event. Without events the listener changes nothing. On a
closed channel it ends, and what it receives until then is what was left in the channel and the end.
-/

namespace CodeAtlas

variable {χ : Type} [EventChannel χ]

/-! ## Moves -/

/-- What the listener does next. -/
inductive Listener
  /-- It waits for what it receives. -/
  | waiting
  /-- It clears the line breaks. -/
  | clearing
  /-- It has received the end. -/
  | ended
  deriving DecidableEq, Repr

/-- Line breaks that a lookup has computed and not kept yet. -/
structure Computed where
  /-- The index of the file. -/
  file : UInt32
  /-- Its line breaks. -/
  breaks : List Nat

/-- An index that lookups share with a listener. -/
structure SharedIndex (χ : Type) where
  /-- The index. -/
  index : LineIndex
  /-- The channel of the listener. -/
  channel : χ
  /-- What was computed by lookups under way, the oldest first. -/
  computed : List Computed
  /-- The listener. -/
  listener : Listener

namespace SharedIndex

/-- A move. -/
inductive Move
  /-- A compilation has finished. -/
  | send
  /-- No more compilations will finish. -/
  | close
  /-- A lookup looks at what is kept, and computes the line breaks of its file if there are none. -/
  | look (question : LineIndex.Question)
  /-- The lookup at a place among those under way keeps what it has computed, unless line breaks of
  its file are kept by now. -/
  | keep (place : Nat)
  /-- Someone other than the listener clears all line breaks. -/
  | clear
  /-- The listener receives something. -/
  | receive
  /-- The listener clears all line breaks for what it has received. -/
  | react

/-- Whether a move is an event. -/
def Move.isSend : Move → Bool
  | send => true
  | _ => false

/-- Whether a move is the listener's. -/
def Move.isListeners : Move → Bool
  | receive => true
  | react => true
  | _ => false

end SharedIndex

/-- What a lookup computes that misses the index. -/
def LineIndex.missing (index : LineIndex) (question : Question) : Option Computed :=
  match index.breaks.get? question.file with
  | some _ => none
  | none => question.content.map fun text => ⟨question.file, lineBreaks text⟩

/-- The index with line breaks of a file, unless it has some. -/
def LineIndex.keep (index : LineIndex) (own : Computed) : LineIndex :=
  match index.breaks.get? own.file with
  | some _ => index
  | none => ⟨index.breaks.insert own.file own.breaks⟩

namespace SharedIndex

/-- The next state. A move that cannot be made changes nothing. -/
def step (s : SharedIndex χ) : Move → SharedIndex χ
  | .send => { s with channel := EventChannel.send s.channel }
  | .close => { s with channel := EventChannel.close s.channel }
  | .look question => { s with computed := s.computed ++ (s.index.missing question).toList }
  | .keep place =>
    match s.computed[place]? with
    | none => s
    | some own => { s with index := s.index.keep own, computed := s.computed.eraseIdx place }
  | .clear => { s with index := s.index.clear }
  | .receive =>
    match s.listener, EventChannel.receive s.channel with
    | .waiting, some (.closed, rest) => { s with channel := rest, listener := .ended }
    | .waiting, some (_, rest) => { s with channel := rest, listener := .clearing }
    | _, _ => s
  | .react =>
    match s.listener with
    | .clearing => { s with index := s.index.clear, listener := .waiting }
    | _ => s

/-- The state after moves. -/
def run (s : SharedIndex χ) (moves : List Move) : SharedIndex χ :=
  moves.foldl step s

/-- Moves in two parts. -/
theorem run_append (s : SharedIndex χ) (first second : List Move) :
    s.run (first ++ second) = (s.run first).run second :=
  List.foldl_append

/-- What was computed for a file is kept if nothing is kept for it. -/
theorem get?_keep (index : LineIndex) (own : Computed) (file : UInt32) :
    (index.keep own).breaks.get? file =
      if file = own.file then (index.breaks.get? file).or (some own.breaks)
      else index.breaks.get? file := by
  unfold LineIndex.keep
  cases hkept : index.breaks.get? own.file with
  | some breaks =>
    by_cases hfile : file = own.file
    · rw [if_pos hfile, hfile, hkept]
      rfl
    · rw [if_neg hfile]
  | none =>
    have hinsert := Table.get?_insert index.breaks own.file file own.breaks
    by_cases hfile : file = own.file
    · rw [if_pos hfile] at hinsert ⊢
      rw [hinsert, hfile, hkept]
      rfl
    · rw [if_neg hfile] at hinsert ⊢
      exact hinsert

/-! ## Lookups and the listener on their own -/

/-- A lookup keeps what it computes, if it computes anything. -/
theorem breaksFor_index (index : LineIndex) (question : LineIndex.Question) :
    (index.breaksFor question.file question.sources question.ids).index =
      match index.missing question with
      | none => index
      | some own => index.keep own := by
  unfold LineIndex.breaksFor LineIndex.missing LineIndex.Question.content
  cases hkept : index.breaks.get? question.file with
  | some breaks => rfl
  | none =>
    cases contentOf question.file question.sources question.ids with
    | none => rfl
    | some text =>
      simp only [Option.map_some, LineIndex.keep, hkept]

/-- A lookup that nothing comes between leaves the index that a lookup leaves. -/
theorem step_look_keep (s : SharedIndex χ) (question : LineIndex.Question)
    (wanted : LineIndex.Wanted) :
    ((s.step (.look question)).step (.keep s.computed.length)).index =
      (s.index.ask question wanted).index := by
  rw [LineIndex.ask_index, breaksFor_index]
  unfold step
  dsimp only
  cases s.index.missing question with
  | none =>
    have hpast : (s.computed ++ none.toList)[s.computed.length]? = none := by
      rw [Option.toList_none, List.append_nil]
      exact List.getElem?_eq_none (Nat.le_refl _)
    rw [hpast]
  | some own =>
    have hlast : (s.computed ++ (some own).toList)[s.computed.length]? = some own :=
      List.getElem?_concat_length
    rw [hlast]

/-- Rounds of the listener: in each it receives, and then it clears. -/
def rounds : Nat → List Move
  | 0 => []
  | count + 1 => .receive :: .react :: rounds count

/-- A listener that has ended makes no more moves. -/
theorem run_rounds_of_ended {s : SharedIndex χ} (h : s.listener = .ended) (count : Nat) :
    s.run (rounds count) = s := by
  induction count with
  | zero => rfl
  | succ count ih =>
    have hreceive : s.step .receive = s := by
      unfold step
      rw [h]
    have hreact : s.step .react = s := by
      unfold step
      rw [h]
    have hround : s.run (rounds (count + 1)) = ((s.step .receive).step .react).run (rounds count) :=
      rfl
    rw [hround, hreceive, hreact, ih]

/-- The rounds of a listener that no one else comes between are what it does on its own. -/
theorem run_rounds {s : SharedIndex χ} (h : s.listener = .waiting) (count : Nat) :
    (s.run (rounds count)).index = (listenFor count s.index s.channel).index := by
  induction count generalizing s with
  | zero => rfl
  | succ count ih =>
    have hround : s.run (rounds (count + 1)) = ((s.step .receive).step .react).run (rounds count) :=
      rfl
    rw [hround, listenFor]
    cases hreceive : EventChannel.receive s.channel with
    | none =>
      -- There is nothing yet, so that this round and all others change nothing.
      have hstep : (s.step .receive).step .react = s := by
        simp only [step, h, hreceive]
      have hnone : (listenFor count s.index s.channel).index = s.index := by
        cases count with
        | zero => rfl
        | succ count =>
          rw [listenFor, hreceive]
      rw [hstep, ih h, hnone]
    | some next =>
      obtain ⟨received, rest⟩ := next
      cases received with
      | closed =>
        -- The listener has ended, and the rounds that follow are empty.
        have hstep : (s.step .receive).step .react = { s with channel := rest, listener := .ended } := by
          simp only [step, h, hreceive]
        rw [hstep, run_rounds_of_ended rfl]
      | event =>
        have hstep : (s.step .receive).step .react =
            { s with index := s.index.clear, channel := rest, listener := .waiting } := by
          simp only [step, h, hreceive]
        rw [hstep, ih rfl]
      | lagged =>
        have hstep : (s.step .receive).step .react =
            { s with index := s.index.clear, channel := rest, listener := .waiting } := by
          simp only [step, h, hreceive]
        rw [hstep, ih rfl]

/-! ## What the listener owes -/

section

variable {contents : χ → Contents}

/-- The listener has received all that was sent, and has cleared the line breaks for it. -/
structure Settled (contents : χ → Contents) (s : SharedIndex χ) : Prop where
  /-- Nothing is left in the channel. -/
  received : (contents s.channel).backlog = 0
  /-- The listener is not about to clear. -/
  cleared : s.listener ≠ .clearing

/-- What becomes of a listener that is to receive. Unless it waits, nothing does. A listener that
waits receives what is left, if anything is, and it ends at the end of the channel. -/
theorem step_receive (h : Broadcasts contents) (s : SharedIndex χ) :
    (s.listener ≠ .waiting ∧ s.step .receive = s) ∨
    (s.listener = .waiting ∧ ∃ rest,
      s.step .receive = { s with channel := rest, listener := .clearing } ∧
      (contents rest).backlog + 1 = (contents s.channel).backlog ∧
      (contents rest).closed = (contents s.channel).closed) ∨
    (s.listener = .waiting ∧ (contents s.channel).backlog = 0 ∧
      (contents s.channel).closed = false ∧ s.step .receive = s) ∨
    (s.listener = .waiting ∧ (contents s.channel).backlog = 0 ∧ ∃ rest,
      s.step .receive = { s with channel := rest, listener := .ended } ∧
      contents rest = contents s.channel) := by
  unfold step
  cases hlistener : s.listener with
  | clearing => exact .inl ⟨Listener.noConfusion, rfl⟩
  | ended => exact .inl ⟨Listener.noConfusion, rfl⟩
  | waiting =>
    right
    -- Whether anything is left decides what a listener that waits receives.
    by_cases hzero : (contents s.channel).backlog = 0
    · right
      rcases h.receive_of_zero hzero with ⟨hnone, hopen⟩ | ⟨rest, hreceive, hrest⟩
      · rw [hnone]
        exact .inl ⟨rfl, hzero, hopen, rfl⟩
      · rw [hreceive]
        exact .inr ⟨rfl, hzero, rest, rfl, hrest⟩
    · left
      obtain ⟨received, rest, hreceive, hevent, hrest⟩ :=
        h.receive_of_pos (Nat.pos_of_ne_zero hzero)
      rw [hreceive]
      refine ⟨rfl, rest, ?_, hrest⟩
      cases received with
      | closed => exact absurd rfl hevent
      | event => rfl
      | lagged => rfl

/-- A move that is not the listener's leaves the listener. -/
theorem listener_step {move : Move} (h : move.isListeners = false) (s : SharedIndex χ) :
    (s.step move).listener = s.listener := by
  cases move with
  | keep place =>
    unfold step
    dsimp only
    split <;> rfl
  | receive => cases h
  | react => cases h
  | send => rfl
  | close => rfl
  | look question => rfl
  | clear => rfl

/-- A move that is neither an event nor the listener's leaves what is left in the channel. -/
theorem backlog_step (h : Broadcasts contents) {move : Move} (hsend : move.isSend = false)
    (hmove : move.isListeners = false) (s : SharedIndex χ) :
    (contents (s.step move).channel).backlog = (contents s.channel).backlog := by
  cases move with
  | keep place =>
    unfold step
    dsimp only
    split <;> rfl
  | close => exact h.backlog_close s.channel
  | send => cases hsend
  | receive => cases hmove
  | react => cases hmove
  | look question => rfl
  | clear => rfl

/-- After an event, the listener has something to do. -/
theorem not_settled_send (h : Broadcasts contents) (s : SharedIndex χ) :
    ¬Settled contents (s.step .send) := by
  intro hsettled
  have hpos : 0 < (contents (EventChannel.send s.channel)).backlog := h.backlog_send s.channel
  have hzero : (contents (EventChannel.send s.channel)).backlog = 0 := hsettled.received
  omega

/-- The listener keeps having something to do until the index is cleared. -/
theorem not_settled_step (h : Broadcasts contents) {s : SharedIndex χ}
    (hs : ¬Settled contents s) (move : Move) :
    ¬Settled contents (s.step move) ∨ (s.step move).index = .empty := by
  cases hmove : move.isListeners with
  | false =>
    cases hsend : move.isSend with
    | true =>
      cases move with
      | send => exact .inl (not_settled_send h s)
      | _ => cases hsend
    | false =>
      -- Neither the channel nor the listener is any different.
      refine .inl fun hsettled => hs ⟨?_, ?_⟩
      · rw [← backlog_step h hsend hmove s]
        exact hsettled.received
      · rw [← listener_step hmove s]
        exact hsettled.cleared
  | true =>
    cases move with
    | receive =>
      left
      rcases step_receive h s with ⟨-, hstep⟩ | ⟨-, rest, hstep, -⟩ | ⟨-, -, -, hstep⟩ |
        ⟨hwaiting, hzero, -⟩
      · rwa [hstep]
      · rw [hstep]
        exact fun hsettled => hsettled.cleared rfl
      · rwa [hstep]
      · -- A listener that waits and has nothing left to receive has nothing to do.
        refine absurd ⟨hzero, ?_⟩ hs
        rw [hwaiting]
        exact Listener.noConfusion
    | react =>
      -- This is the clear, if the listener was about to.
      unfold step
      cases hlistener : s.listener with
      | clearing => exact .inr rfl
      | waiting => exact .inl hs
      | ended => exact .inl hs
    | _ => cases hmove

/-- If the listener had something to do and has nothing to do any more, the index was cleared in
between. -/
theorem exists_cleared (h : Broadcasts contents) {s : SharedIndex χ} {moves : List Move}
    (hs : ¬Settled contents s) (hend : Settled contents (s.run moves)) :
    ∃ early late, moves = early ++ late ∧ (s.run early).index = .empty := by
  induction moves generalizing s with
  | nil => exact absurd hend hs
  | cons move rest ih =>
    rcases not_settled_step h hs move with hstep | hcleared
    · obtain ⟨early, late, hrest, hearly⟩ := ih hstep hend
      exact ⟨move :: early, late, by rw [hrest]; rfl, hearly⟩
    · exact ⟨[move], rest, rfl, hcleared⟩

/-- Line breaks that a move leaves were there before, or the move is that of a lookup that keeps
them. -/
theorem get?_step {s : SharedIndex χ} {move : Move} {file : UInt32} {breaks : List Nat}
    (h : (s.step move).index.breaks.get? file = some breaks) :
    s.index.breaks.get? file = some breaks ∨
      s.index.breaks.get? file = none ∧
        ∃ place, move = .keep place ∧ s.computed[place]? = some ⟨file, breaks⟩ := by
  cases move with
  | send => exact .inl h
  | close => exact .inl h
  | look question => exact .inl h
  | clear => cases h
  | receive =>
    have hindex : (s.step .receive).index = s.index := by
      unfold step
      dsimp only
      split <;> rfl
    rw [hindex] at h
    exact .inl h
  | react =>
    unfold step at h
    dsimp only at h
    split at h
    · cases h
    · exact .inl h
  | keep place =>
    unfold step at h
    dsimp only at h
    split at h
    · exact .inl h
    · rename_i own hown
      have hkeep : (s.index.keep own).breaks.get? file = some breaks := h
      rw [get?_keep] at hkeep
      split at hkeep
      · rename_i hfile
        cases hbefore : s.index.breaks.get? file with
        | some before =>
          rw [hbefore] at hkeep
          exact .inl hkeep
        | none =>
          rw [hbefore] at hkeep
          have hbreaks : own.breaks = breaks := Option.some.inj hkeep
          refine .inr ⟨rfl, place, rfl, ?_⟩
          rw [hown, hfile, ← hbreaks]
      · exact .inl hkeep

/-- Line breaks that are there after moves and were not there before were kept by one of them. -/
theorem exists_keep {s : SharedIndex χ} {moves : List Move} {file : UInt32} {breaks : List Nat}
    (hbefore : s.index.breaks.get? file = none)
    (hafter : (s.run moves).index.breaks.get? file = some breaks) :
    ∃ front place back, moves = front ++ .keep place :: back ∧
      (s.run front).index.breaks.get? file = none ∧
      (s.run front).computed[place]? = some ⟨file, breaks⟩ := by
  induction moves using List.reverseRecOn with
  | nil =>
    have hnone : s.index.breaks.get? file = some breaks := hafter
    rw [hbefore] at hnone
    cases hnone
  | append_singleton rest move ih =>
    rw [run_append] at hafter
    -- The last move has kept them, or they were there before it.
    rcases get?_step hafter with hkept | ⟨hnone, place, rfl, hcomputed⟩
    · obtain ⟨front, place, back, hrest, hfront⟩ := ih hkept
      refine ⟨front, place, back ++ [move], ?_, hfront⟩
      rw [hrest, List.append_assoc, List.cons_append]
    · exact ⟨rest, place, [], rfl, hnone, hcomputed⟩

/-! ## Without events -/

/-- A listener that has nothing to do stays so without an event. -/
theorem Settled.step (h : Broadcasts contents) {s : SharedIndex χ} (hs : Settled contents s)
    {move : Move} (hsend : move.isSend = false) : Settled contents (s.step move) := by
  cases hmove : move.isListeners with
  | false =>
    refine ⟨?_, ?_⟩
    · rw [backlog_step h hsend hmove]
      exact hs.received
    · rw [listener_step hmove]
      exact hs.cleared
  | true =>
    cases move with
    | receive =>
      rcases step_receive h s with ⟨-, hstep⟩ | ⟨-, rest, -, hrest, -⟩ | ⟨-, -, -, hstep⟩ |
        ⟨-, hzero, rest, hstep, hrest⟩
      · rwa [hstep]
      · -- Nothing was left to receive.
        rw [hs.received] at hrest
        cases hrest
      · rwa [hstep]
      · rw [hstep]
        exact ⟨(congrArg Contents.backlog hrest).trans hzero, Listener.noConfusion⟩
    | react =>
      have hstep : s.step .react = s := by
        unfold SharedIndex.step
        cases hlistener : s.listener with
        | clearing => exact absurd hlistener hs.cleared
        | waiting => rfl
        | ended => rfl
      rwa [hstep]
    | _ => cases hmove

/-- A listener that has nothing to do changes neither the index nor the lookups under way. -/
theorem Settled.step_listeners {s : SharedIndex χ} (hs : Settled contents s) {move : Move}
    (hmove : move.isListeners = true) :
    (s.step move).index = s.index ∧ (s.step move).computed = s.computed := by
  cases move with
  | receive =>
    unfold SharedIndex.step
    dsimp only
    split <;> exact ⟨rfl, rfl⟩
  | react =>
    unfold SharedIndex.step
    cases hlistener : s.listener with
    | clearing => exact absurd hlistener hs.cleared
    | waiting => exact ⟨rfl, rfl⟩
    | ended => exact ⟨rfl, rfl⟩
  | _ => cases hmove

/-- What a move that is not the listener's does to the index and to the lookups under way depends on
nothing else. -/
theorem step_congr {s s' : SharedIndex χ} (hindex : s.index = s'.index)
    (hcomputed : s.computed = s'.computed) {move : Move} (hmove : move.isListeners = false) :
    (s.step move).index = (s'.step move).index ∧
      (s.step move).computed = (s'.step move).computed := by
  cases move with
  | send => exact ⟨hindex, hcomputed⟩
  | close => exact ⟨hindex, hcomputed⟩
  | clear => exact ⟨rfl, hcomputed⟩
  | look question =>
    refine ⟨hindex, ?_⟩
    show s.computed ++ (s.index.missing question).toList = _
    rw [hcomputed, hindex]
    rfl
  | keep place =>
    unfold step
    dsimp only
    rw [hcomputed, hindex]
    cases s'.computed[place]? with
    | none => exact ⟨hindex, hcomputed⟩
    | some own => exact ⟨rfl, rfl⟩
  | receive => cases hmove
  | react => cases hmove

/-- Without events, the index is what it would be without a listener. -/
theorem index_run_of_no_send (h : Broadcasts contents) {s s' : SharedIndex χ}
    (hs : Settled contents s) (hindex : s.index = s'.index) (hcomputed : s.computed = s'.computed)
    {moves : List Move} (hsend : ∀ move ∈ moves, move.isSend = false) :
    (s.run moves).index = (s'.run (moves.filter fun move => !move.isListeners)).index := by
  induction moves generalizing s s' with
  | nil => exact hindex
  | cons move rest ih =>
    obtain ⟨hfirst, hrest⟩ := List.forall_mem_cons.mp hsend
    have hsettled : Settled contents (s.step move) := hs.step h hfirst
    cases hmove : move.isListeners with
    | true =>
      obtain ⟨hsame, hown⟩ := hs.step_listeners hmove
      rw [List.filter_cons_of_neg (by rw [hmove]; decide)]
      exact ih hsettled (hsame.trans hindex) (hown.trans hcomputed) hrest
    | false =>
      obtain ⟨hsame, hown⟩ := step_congr hindex hcomputed hmove
      rw [List.filter_cons_of_pos (by rw [hmove]; decide)]
      exact ih hsettled hsame hown hrest

/-! ## The end of the listener -/

/-- How many things the listener has yet to receive on a closed channel, with the end. -/
def left (contents : χ → Contents) (s : SharedIndex χ) : Nat :=
  match s.listener with
  | .ended => 0
  | _ => (contents s.channel).backlog + 1

/-- Whether the listener receives in a move, which it does when it waits. -/
def receivesIn (s : SharedIndex χ) : Move → Bool
  | .receive => s.listener == .waiting
  | _ => false

/-- How often the listener receives. -/
def receives (s : SharedIndex χ) : List Move → Nat
  | [] => 0
  | move :: rest => (s.receivesIn move).toNat + (s.step move).receives rest

omit [EventChannel χ] in
/-- As long as the listener has not ended, it has yet to receive what is left and the end. -/
theorem left_of_ne_ended {s : SharedIndex χ} (h : s.listener ≠ .ended) :
    s.left contents = (contents s.channel).backlog + 1 := by
  unfold left
  cases hlistener : s.listener with
  | waiting => rfl
  | clearing => rfl
  | ended => exact absurd hlistener h

omit [EventChannel χ] in
/-- The listener has nothing more to receive if and only if it has ended. -/
theorem left_eq_zero_iff {s : SharedIndex χ} : s.left contents = 0 ↔ s.listener = .ended := by
  unfold left
  cases s.listener with
  | waiting => exact ⟨fun h => absurd h (Nat.succ_ne_zero _), Listener.noConfusion⟩
  | clearing => exact ⟨fun h => absurd h (Nat.succ_ne_zero _), Listener.noConfusion⟩
  | ended => exact ⟨fun _ => rfl, fun _ => rfl⟩

/-- A closed channel stays closed. -/
theorem closed_step (h : Broadcasts contents) {s : SharedIndex χ} (move : Move)
    (hclosed : (contents s.channel).closed = true) :
    (contents (s.step move).channel).closed = true := by
  cases move with
  | send =>
    show (contents (EventChannel.send s.channel)).closed = true
    rcases h.send s.channel with hsend | hsend
    · rw [hsend]
      exact hclosed
    · rw [hsend]
      exact hclosed
  | close =>
    show (contents (EventChannel.close s.channel)).closed = true
    rw [h.close]
  | look question => exact hclosed
  | clear => exact hclosed
  | keep place =>
    unfold step
    dsimp only
    split <;> exact hclosed
  | receive =>
    rcases step_receive h s with ⟨-, hstep⟩ | ⟨-, rest, hstep, -, hrest⟩ | ⟨-, -, -, hstep⟩ |
      ⟨-, -, rest, hstep, hrest⟩
    · rwa [hstep]
    · rw [hstep]
      exact hrest.trans hclosed
    · rwa [hstep]
    · rw [hstep]
      exact (congrArg Contents.closed hrest).trans hclosed
  | react =>
    unfold step
    dsimp only
    split <;> exact hclosed

/-- On a closed channel, the listener has one thing less to receive whenever it receives. -/
theorem left_step (h : Broadcasts contents) {s : SharedIndex χ} {move : Move}
    (hclosed : (contents s.channel).closed = true) (hsend : move.isSend = false) :
    (s.receivesIn move).toNat + (s.step move).left contents = s.left contents := by
  cases hmove : move.isListeners with
  | false =>
    have hlistener := listener_step hmove s
    have hbacklog := backlog_step h hsend hmove s
    have hreceives : s.receivesIn move = false := by
      cases move with
      | receive => cases hmove
      | _ => rfl
    unfold left
    rw [hreceives, hlistener, hbacklog]
    exact Nat.zero_add _
  | true =>
    cases move with
    | react =>
      unfold step
      cases hlistener : s.listener with
      | clearing =>
        have hbefore : s.left contents = (contents s.channel).backlog + 1 :=
          left_of_ne_ended (by rw [hlistener]; exact Listener.noConfusion)
        rw [hbefore]
        exact Nat.zero_add _
      | waiting => exact Nat.zero_add _
      | ended => exact Nat.zero_add _
    | receive =>
      rcases step_receive h s with ⟨hbusy, hstep⟩ | ⟨hwaiting, rest, hstep, hrest, -⟩ |
        ⟨-, -, hopen, -⟩ | ⟨hwaiting, hzero, rest, hstep, -⟩
      · have hreceives : s.receivesIn .receive = false := beq_eq_false_iff_ne.mpr hbusy
        rw [hstep, hreceives]
        exact Nat.zero_add _
      · have hreceives : s.receivesIn .receive = true := beq_iff_eq.mpr hwaiting
        have hbefore : s.left contents = (contents s.channel).backlog + 1 :=
          left_of_ne_ended (by rw [hwaiting]; exact Listener.noConfusion)
        have hafter : (s.step .receive).left contents = (contents rest).backlog + 1 := by
          rw [hstep]
          rfl
        rw [hreceives, hafter, hbefore, ← hrest]
        exact Nat.add_comm _ _
      · rw [hclosed] at hopen
        cases hopen
      · have hreceives : s.receivesIn .receive = true := beq_iff_eq.mpr hwaiting
        have hbefore : s.left contents = (contents s.channel).backlog + 1 :=
          left_of_ne_ended (by rw [hwaiting]; exact Listener.noConfusion)
        have hafter : (s.step .receive).left contents = 0 := by
          rw [hstep]
          rfl
        rw [hreceives, hafter, hbefore, hzero]
        rfl
    | _ => cases hmove

/-- On a closed channel, what the listener receives and what it has yet to receive are together
always the same. -/
theorem receives_add_left (h : Broadcasts contents) {s : SharedIndex χ} {moves : List Move}
    (hclosed : (contents s.channel).closed = true) (hsend : ∀ move ∈ moves, move.isSend = false) :
    s.receives moves + (s.run moves).left contents = s.left contents := by
  induction moves generalizing s with
  | nil => exact Nat.zero_add _
  | cons move rest ih =>
    obtain ⟨hfirst, hrest⟩ := List.forall_mem_cons.mp hsend
    calc s.receives (move :: rest) + (s.run (move :: rest)).left contents
        = (s.receivesIn move).toNat +
            ((s.step move).receives rest + ((s.step move).run rest).left contents) :=
          Nat.add_assoc _ _ _
      _ = (s.receivesIn move).toNat + (s.step move).left contents := by
          rw [ih (closed_step h move hclosed) hrest]
      _ = s.left contents := left_step h hclosed hfirst

/-- A listener that makes as many rounds on a closed channel as there is left to receive ends. -/
theorem listener_run_rounds (h : Broadcasts contents) {s : SharedIndex χ}
    (hclosed : (contents s.channel).closed = true) (hwaiting : s.listener = .waiting) {count : Nat}
    (hcount : (contents s.channel).backlog + 1 ≤ count) :
    (s.run (rounds count)).listener = .ended := by
  induction count generalizing s with
  | zero => omega
  | succ count ih =>
    have hround : s.run (rounds (count + 1)) = ((s.step .receive).step .react).run (rounds count) :=
      rfl
    rw [hround]
    rcases step_receive h s with ⟨hbusy, -⟩ | ⟨-, rest, hstep, hrest, hopen⟩ | ⟨-, -, hopen, -⟩ |
      ⟨-, -, rest, hstep, -⟩
    · exact absurd hwaiting hbusy
    · rw [hstep]
      refine ih (hopen.trans hclosed) rfl ?_
      show (contents rest).backlog + 1 ≤ count
      omega
    · rw [hclosed] at hopen
      cases hopen
    · rw [hstep]
      exact congrArg listener (run_rounds_of_ended rfl count)

/-! ## The whole -/

/-- A listener on any channel that broadcasts, whatever number of events it keeps, and in any
sequence of events, lookups and other moves between its own, leaves no line breaks behind a finished
compilation.

When it has received all that was sent and has cleared for it, then the index was empty at some
point behind each event, the last one among them, and what is kept was put there by lookups behind
that point. Without events, the index is what it would be without the listener. On a closed channel,
the listener receives what was left in it and the end, no more, and then it has ended. On its own, it
is the loop that `listenFor` runs. -/
theorem listener_clears (h : Broadcasts contents) (s : SharedIndex χ) :
    (∀ before after, Settled contents (s.run (before ++ .send :: after)) →
      ∃ early late, after = early ++ late ∧
        (s.run (before ++ .send :: early)).index = .empty ∧
        ∀ file breaks,
          (s.run (before ++ .send :: after)).index.breaks.get? file = some breaks →
          ∃ front place back, late = front ++ .keep place :: back ∧
            (s.run (before ++ .send :: early ++ front)).index.breaks.get? file = none ∧
            (s.run (before ++ .send :: early ++ front)).computed[place]? =
              some ⟨file, breaks⟩) ∧
    (Settled contents s → ∀ moves : List Move, (∀ move ∈ moves, move.isSend = false) →
      (s.run moves).index = (s.run (moves.filter fun move => !move.isListeners)).index) ∧
    ((contents s.channel).closed = true → s.listener ≠ .ended →
      ∀ moves : List Move, (∀ move ∈ moves, move.isSend = false) →
        s.receives moves ≤ (contents s.channel).backlog + 1 ∧
        (s.receives moves = (contents s.channel).backlog + 1 ↔
          (s.run moves).listener = .ended)) ∧
    (s.listener = .waiting → ∀ count,
      (s.run (rounds count)).index = (listenFor count s.index s.channel).index ∧
      ((contents s.channel).closed = true → (contents s.channel).backlog + 1 ≤ count →
        (s.run (rounds count)).listener = .ended)) := by
  refine ⟨fun before after hsettled => ?_, fun hs moves hsend => ?_,
    fun hclosed hlistener moves hsend => ?_, fun hwaiting count => ?_⟩
  · -- The event leaves the listener with something to do, and at the end it has nothing to do.
    have hsplit : s.run (before ++ .send :: after) = ((s.run before).step .send).run after :=
      run_append s before (.send :: after)
    rw [hsplit] at hsettled ⊢
    obtain ⟨early, late, rfl, hcleared⟩ :=
      exists_cleared h (not_settled_send h (s.run before)) hsettled
    have hearly : s.run (before ++ .send :: early) = ((s.run before).step .send).run early :=
      run_append s before (.send :: early)
    refine ⟨early, late, rfl, hearly ▸ hcleared, fun file breaks hkept => ?_⟩
    -- The index was empty behind `early`, so that what is kept was put there by one of `late`.
    rw [run_append, ← hearly] at hkept
    have hnone : (s.run (before ++ .send :: early)).index.breaks.get? file = none := by
      rw [hearly, hcleared]
      rfl
    obtain ⟨front, place, back, hlate, hfront, hcomputed⟩ := exists_keep hnone hkept
    rw [← run_append] at hfront hcomputed
    exact ⟨front, place, back, hlate, hfront, hcomputed⟩
  · exact index_run_of_no_send h hs rfl rfl hsend
  · have htotal := receives_add_left h hclosed hsend
    rw [left_of_ne_ended hlistener] at htotal
    have hended : (s.run moves).left contents = 0 ↔ (s.run moves).listener = .ended :=
      left_eq_zero_iff
    refine ⟨by omega, ?_⟩
    rw [← hended]
    omega
  · exact ⟨run_rounds hwaiting count, fun hclosed hcount =>
      listener_run_rounds h hclosed hwaiting hcount⟩

end

/-- No line breaks are kept, and the listener waits at a channel that keeps one event. -/
def narrow : SharedIndex CompilationChannel :=
  ⟨.empty, .ofCapacity 1, [], .waiting⟩

/-- A lookup, then two compilations of which the channel keeps one, and the listener: it is told that
one was lost, receives the other, and clears the line breaks. -/
theorem listener_clears_narrow :
    (narrow.run [.look (.sole "a\nb"), .keep 0]).index.isCached singleFile = true ∧
      (narrow.run ([.look (.sole "a\nb"), .keep 0, .send] ++
        [.send, .receive, .react, .receive, .react])).index.isCached singleFile = false := by
  refine ⟨rfl, ?_⟩
  obtain ⟨early, late, hmoves, -, hkept⟩ :=
    (listener_clears CompilationChannel.broadcasts narrow).1 [.look (.sole "a\nb"), .keep 0, .send]
      [.receive, .react, .receive, .react] ⟨rfl, Listener.noConfusion⟩
  rw [Bool.eq_false_iff]
  intro hcached
  obtain ⟨breaks, hfile⟩ := LineIndex.isCached_eq_true_iff.mp hcached
  -- No lookup keeps anything behind the last event.
  obtain ⟨front, place, back, rfl, -⟩ := hkept singleFile breaks hfile
  have hmem : Move.keep place ∈ [Move.receive, .react, .receive, .react] := by
    rw [hmoves]
    exact List.mem_append_right _ (List.mem_append_right _ List.mem_cons_self)
  simp at hmem

end SharedIndex

end CodeAtlas
