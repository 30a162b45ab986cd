import Mathlib.Data.List.Basic
import TransitionEngine.Monitor.Sink

/-!
# What a channel delivers

The two ends of a channel act in any order. While the receiver is there, what it has taken and what is queued
are together the events that were accepted, in the order in which they were recorded; all others were refused,
and counted as dropped. When the receiver is gone, everything is refused.
-/

namespace TransitionEngine.Channel

variable {α : Type} {capacity : Nat}

/-- What one of the ends does. -/
inductive Act (α : Type) where
  | record (event : α)
  | next
  | drain
  | close

def Act.event? : Act α → Option α
  | .record event => some event
  | _ => none

/-- The events that are recorded, in order. -/
def eventsOf (acts : List (Act α)) : List α :=
  acts.filterMap Act.event?

theorem eventsOf_cons (act : Act α) (rest : List (Act α)) :
    eventsOf (act :: rest) = act.event?.toList ++ eventsOf rest := by
  cases act <;> rfl

def empty (capacity : Nat) : Channel α :=
  ⟨capacity, [], true, 0⟩

theorem new_of_pos (hcapacity : 0 < capacity) : Channel.new (α := α) ⟨capacity⟩ = .ok (empty capacity) := by
  rw [Channel.new, ChannelConfig.validate, if_neg (Nat.ne_of_gt hcapacity)]
  rfl

/-- Whether the count of the dropped events goes up with this one. -/
def refuses (channel : Channel α) (event : α) : Bool :=
  channel.dropped < (channel.record event).dropped

theorem record_cases (channel : Channel α) (event : α) :
    (channel.isOpen = true ∧ channel.queue.length < channel.capacity ∧
        channel.refuses event = false ∧
        channel.record event = { channel with queue := channel.queue ++ [event] }) ∨
      ((channel.isOpen = true → channel.capacity ≤ channel.queue.length) ∧
        channel.refuses event = true ∧
        channel.record event = { channel with dropped := channel.dropped + 1 }) := by
  cases haccepts : channel.isOpen && channel.queue.length < channel.capacity with
  | true =>
      have hrecord : channel.record event = { channel with queue := channel.queue ++ [event] } :=
        if_pos haccepts
      obtain ⟨hopen, hroom⟩ := Bool.and_eq_true_iff.1 haccepts
      exact .inl ⟨hopen, of_decide_eq_true hroom, by simp [refuses, hrecord], hrecord⟩
  | false =>
      have hrecord : channel.record event = { channel with dropped := channel.dropped + 1 } :=
        if_neg (Bool.eq_false_iff.1 haccepts)
      refine .inr ⟨fun hopen => ?_, by simp [refuses, hrecord], hrecord⟩
      simpa [hopen] using haccepts

/-- A channel, with what went in and what came out so far. -/
structure Traffic (α : Type) where
  channel : Channel α
  /-- The events that were recorded, with whether they were refused. -/
  recorded : List (α × Bool)
  received : List α

namespace Traffic

def start (channel : Channel α) : Traffic α :=
  ⟨channel, [], []⟩

def act (traffic : Traffic α) : Act α → Traffic α
  | .record event =>
      { traffic with
        channel := traffic.channel.record event
        recorded := traffic.recorded ++ [(event, traffic.channel.refuses event)] }
  | .next =>
      let (event?, channel) := traffic.channel.next
      { traffic with channel, received := traffic.received ++ event?.toList }
  | .drain =>
      let (events, channel) := traffic.channel.drain
      { traffic with channel, received := traffic.received ++ events }
  | .close => { traffic with channel := traffic.channel.close }

def run (traffic : Traffic α) (acts : List (Act α)) : Traffic α :=
  acts.foldl act traffic

def accepted (traffic : Traffic α) : List α :=
  (traffic.recorded.filter fun entry => !entry.2).map Prod.fst

def refused (traffic : Traffic α) : List α :=
  (traffic.recorded.filter fun entry => entry.2).map Prod.fst

variable {traffic : Traffic α}

/-- Draining takes the next event as often as one is queued. -/
theorem act_drain (traffic : Traffic α) :
    traffic.act .drain = traffic.run (List.replicate traffic.channel.queue.length .next) := by
  obtain ⟨⟨capacity, queue, isOpen, dropped⟩, recorded, received⟩ := traffic
  induction queue generalizing received with
  | nil => simp [act, drain, run]
  | cons event rest ih =>
      rw [List.length_cons, List.replicate_succ, run, List.foldl_cons, ← run]
      refine Eq.trans ?_ (ih (received ++ [event]))
      simp [act, drain]

/-! ### What every act keeps -/

/-- The account of a channel of this capacity is in order. -/
structure IsBalanced (capacity : Nat) (traffic : Traffic α) : Prop where
  capacity_eq : traffic.channel.capacity = capacity
  queue_le : traffic.channel.queue.length ≤ capacity
  dropped_eq : traffic.channel.dropped = traffic.refused.length
  received_prefix : traffic.received <+: traffic.accepted
  received_append : traffic.channel.isOpen = true →
    traffic.received ++ traffic.channel.queue = traffic.accepted
  queue_eq : traffic.channel.isOpen = false → traffic.channel.queue = []

theorem isBalanced_start (capacity : Nat) :
    (start (empty (α := α) capacity)).IsBalanced capacity where
  capacity_eq := rfl
  queue_le := Nat.zero_le capacity
  dropped_eq := rfl
  received_prefix := List.nil_prefix
  received_append _ := rfl
  queue_eq _ := rfl

/-- What is taken off the front of the queue goes to the receiver. -/
theorem IsBalanced.take {channel : Channel α} {recorded : List (α × Bool)} {received taken rest : List α}
    (hbalanced : (Traffic.mk channel recorded received).IsBalanced capacity)
    (hqueue : channel.queue = taken ++ rest) :
    (Traffic.mk { channel with queue := rest } recorded (received ++ taken)).IsBalanced capacity := by
  obtain ⟨hcapacity, hlength, hdropped, hprefix, happend, hclosed⟩ := hbalanced
  have hboth : channel.isOpen = true → (received ++ taken) ++ rest =
      (Traffic.mk channel recorded received).accepted := by
    intro hopen
    rw [List.append_assoc, ← hqueue]
    exact happend hopen
  refine ⟨hcapacity, ?_, hdropped, ?_, hboth, fun hgone => ?_⟩
  · simp only [hqueue, List.length_append] at hlength
    exact Nat.le_of_add_left_le hlength
  · cases hopen : channel.isOpen with
    | true => exact ⟨rest, hboth hopen⟩
    | false =>
        have htaken : taken = [] := (List.append_eq_nil_iff.1 (hqueue ▸ hclosed hopen)).1
        rw [htaken, List.append_nil]
        exact hprefix
  · exact (List.append_eq_nil_iff.1 (hqueue ▸ hclosed hgone)).2

theorem IsBalanced.act (hbalanced : traffic.IsBalanced capacity) (act : Act α) :
    (traffic.act act).IsBalanced capacity := by
  obtain ⟨channel, recorded, received⟩ := traffic
  cases act with
  | record event =>
      obtain ⟨rfl, hqueue, hdropped, hprefix, happend, hclosed⟩ := hbalanced
      rcases channel.record_cases event with
        ⟨hopen, hroom, haccepted, hrecord⟩ | ⟨-, hrefused, hrecord⟩
      · simp only [Traffic.act, hrecord, haccepted]
        refine ⟨rfl, ?_, ?_, ?_, fun _ => ?_, fun hgone => ?_⟩
        · rw [List.length_append]
          exact hroom
        · simpa [refused] using hdropped
        · refine hprefix.trans ?_
          simp [accepted]
        · simpa [accepted] using congrArg (· ++ [event]) (happend hopen)
        · rw [hopen] at hgone
          cases hgone
      · simp only [Traffic.act, hrecord, hrefused]
        refine ⟨rfl, hqueue, ?_, ?_, fun hopen => ?_, hclosed⟩
        · simpa [refused] using hdropped
        · simpa [accepted] using hprefix
        · simpa [accepted] using happend hopen
  | next =>
      cases hnext : channel.queue with
      | nil => simpa [Traffic.act, Channel.next, hnext] using hbalanced
      | cons event rest =>
          have htaken : channel.queue = [event] ++ rest := hnext
          have hbehind := hbalanced.take htaken
          simpa [Traffic.act, Channel.next, hnext] using hbehind
  | drain => exact hbalanced.take (List.append_nil _).symm
  | close =>
      obtain ⟨hcapacity, -, hdropped, hprefix, -, -⟩ := hbalanced
      exact ⟨hcapacity, Nat.zero_le _, hdropped, hprefix, nofun, fun _ => rfl⟩

theorem isBalanced_run (hbalanced : traffic.IsBalanced capacity) (acts : List (Act α)) :
    (traffic.run acts).IsBalanced capacity := by
  induction acts generalizing traffic with
  | nil => exact hbalanced
  | cons act rest ih => exact ih (hbalanced.act act)

/-! ### The events that are recorded, and the receiver -/

theorem recorded_run (traffic : Traffic α) (acts : List (Act α)) :
    (traffic.run acts).recorded.map Prod.fst = traffic.recorded.map Prod.fst ++ eventsOf acts := by
  induction acts generalizing traffic with
  | nil => exact (List.append_nil _).symm
  | cons act rest ih =>
      have hstep : (traffic.act act).recorded.map Prod.fst =
          traffic.recorded.map Prod.fst ++ act.event?.toList := by
        cases act <;> simp [Traffic.act, Act.event?]
      rw [eventsOf_cons, ← List.append_assoc, ← hstep]
      exact ih (traffic.act act)

theorem isOpen_run (traffic : Traffic α) (acts : List (Act α)) :
    (traffic.run acts).channel.isOpen = true ↔
      traffic.channel.isOpen = true ∧ .close ∉ acts := by
  induction acts generalizing traffic with
  | nil => simp [run]
  | cons act rest ih =>
      refine (ih (traffic.act act)).trans ?_
      cases act with
      | record event =>
          rcases traffic.channel.record_cases event with ⟨-, -, -, hrecord⟩ | ⟨-, -, hrecord⟩ <;>
            simp [Traffic.act, hrecord]
      | next => cases hnext : traffic.channel.queue <;> simp [Traffic.act, Channel.next, hnext]
      | drain => simp [Traffic.act, Channel.drain]
      | close => simp [Traffic.act, Channel.close]

theorem length_recorded (traffic : Traffic α) :
    traffic.recorded.length = traffic.accepted.length + traffic.refused.length := by
  rw [accepted, refused, List.length_map, List.length_map, Nat.add_comm]
  exact List.length_eq_length_filter_add Prod.snd

/-- Without a receiver every event is refused, and none is received. -/
theorem run_of_closed (hbalanced : traffic.IsBalanced capacity)
    (hclosed : traffic.channel.isOpen = false) (later : List (Act α)) :
    (traffic.run later).received = traffic.received ∧
      (traffic.run later).channel.dropped = traffic.channel.dropped + (eventsOf later).length := by
  induction later generalizing traffic with
  | nil => exact ⟨rfl, rfl⟩
  | cons act rest ih =>
      have hstep : (traffic.act act).channel.isOpen = false ∧
          (traffic.act act).received = traffic.received ∧
          (traffic.act act).channel.dropped =
            traffic.channel.dropped + act.event?.toList.length := by
        have hqueue := hbalanced.queue_eq hclosed
        cases act with
        | record event =>
            rcases traffic.channel.record_cases event with ⟨hopen, -⟩ | ⟨-, -, hrecord⟩
            · rw [hclosed] at hopen
              cases hopen
            · simp [Traffic.act, hrecord, hclosed, Act.event?]
        | next => simp [Traffic.act, Channel.next, hqueue, hclosed, Act.event?]
        | drain => simp [Traffic.act, Channel.drain, hqueue, hclosed, Act.event?]
        | close => simp [Traffic.act, Channel.close, Act.event?]
      obtain ⟨hstill, hreceived, hdropped⟩ := hstep
      obtain ⟨hlater, hcount⟩ := ih (hbalanced.act act) hstill
      refine ⟨hlater.trans hreceived, hcount.trans ?_⟩
      rw [hdropped, eventsOf_cons, List.length_append, Nat.add_assoc]

theorem refuses_iff (hbalanced : traffic.IsBalanced capacity) (event : α) :
    traffic.channel.refuses event = true ↔
      traffic.channel.queue.length = capacity ∨ traffic.channel.isOpen = false := by
  have hcapacity := hbalanced.capacity_eq
  have hqueue := hbalanced.queue_le
  rcases traffic.channel.record_cases event with ⟨hopen, hroom, haccepted, -⟩ | ⟨hfull, hrefused, -⟩
  · simp only [haccepted, hopen]
    simpa using Nat.ne_of_lt (hcapacity ▸ hroom)
  · refine iff_of_true hrefused ?_
    cases hopen : traffic.channel.isOpen with
    | true => exact .inl (Nat.le_antisymm hqueue (hcapacity ▸ hfull hopen))
    | false => exact .inr rfl

/-- While there is a receiver, an event that was recorded was received, is queued or was dropped. -/
theorem length_recorded_eq (hbalanced : traffic.IsBalanced capacity)
    (hopen : traffic.channel.isOpen = true) :
    traffic.recorded.length =
      traffic.received.length + traffic.channel.queue.length + traffic.channel.dropped := by
  rw [length_recorded, hbalanced.dropped_eq, ← hbalanced.received_append hopen, List.length_append]

end Traffic

/-- However the acts of the two ends follow one another, an event is refused exactly when as many are queued as
there is room for, or when the receiver is gone, and the refused events are counted. While the receiver is
there, what it got and then what is queued are the accepted events in the order of their recording, so each
recorded event was received, is queued or was dropped. Once it is gone every event is counted as dropped, and
none is received. A drain is nothing but single takes, between which others may act. -/
theorem loses_only_what_it_counts {capacity : Nat} (hcapacity : 0 < capacity) :
    ∃ channel : Channel α, Channel.new ⟨capacity⟩ = .ok channel ∧
      ∀ acts : List (Act α),
        let traffic := (Traffic.start channel).run acts
        traffic.recorded.map Prod.fst = eventsOf acts ∧
          (∀ event, traffic.channel.refuses event = true ↔
            traffic.channel.queue.length = capacity ∨ .close ∈ acts) ∧
          traffic.channel.dropped = traffic.refused.length ∧
          traffic.received <+: traffic.accepted ∧
          (.close ∉ acts →
            traffic.received ++ traffic.channel.queue = traffic.accepted ∧
              traffic.recorded.length = traffic.received.length + traffic.channel.queue.length +
                traffic.channel.dropped ∧
              traffic.channel.queue.length ≤ capacity) ∧
          (.close ∈ acts → ∀ later,
            (traffic.run later).received = traffic.received ∧
              (traffic.run later).channel.dropped =
                traffic.channel.dropped + (eventsOf later).length) ∧
          traffic.act .drain = traffic.run (List.replicate traffic.channel.queue.length .next) := by
  refine ⟨empty capacity, new_of_pos hcapacity, fun acts => ?_⟩
  have hbalanced := Traffic.isBalanced_run (Traffic.isBalanced_start capacity) acts
  have hopen : ((Traffic.start (empty capacity)).run acts).channel.isOpen = true ↔ .close ∉ acts :=
    (Traffic.isOpen_run _ acts).trans (and_iff_right rfl)
  have hclosed : ((Traffic.start (empty capacity)).run acts).channel.isOpen = false ↔ .close ∈ acts := by
    rw [← Bool.not_eq_true, hopen, not_not]
  refine ⟨Traffic.recorded_run _ acts, fun event => ?_, hbalanced.dropped_eq, hbalanced.received_prefix,
    fun hkept => ?_, fun hclose later => ?_, Traffic.act_drain _⟩
  · rw [Traffic.refuses_iff hbalanced event, hclosed]
  · have hopen := hopen.2 hkept
    exact ⟨hbalanced.received_append hopen, Traffic.length_recorded_eq hbalanced hopen,
      hbalanced.queue_le⟩
  · exact Traffic.run_of_closed hbalanced (hclosed.2 hclose) later

/-- A channel with room for two: of three events the last is refused, and after one was taken the next is
accepted again. When the receiver is gone, what is recorded is dropped. -/
theorem loses_only_what_it_counts_two : ∃ channel : Channel EventPayload,
    Channel.new ⟨2⟩ = .ok channel ∧
      let kept := (Traffic.start channel).run
        [.record .reset, .record (.restored 1), .record (.restored 2), .next, .record (.restored 3)]
      let left := (Traffic.start channel).run [.record .reset, .close]
      kept.received ++ kept.channel.queue = [.reset, .restored 1, .restored 3] ∧
        kept.channel.dropped = 1 ∧ kept.channel.refuses .reset = true ∧
        (left.run [.record .reset, .drain]).received = [] ∧
        (left.run [.record .reset, .drain]).channel.dropped = 1 := by
  obtain ⟨channel, hnew, htraffic⟩ :=
    @loses_only_what_it_counts EventPayload 2 (by decide)
  obtain rfl : empty 2 = channel := Except.ok.inj hnew
  obtain ⟨-, hrefuses, hdropped, -, hkept, -⟩ := htraffic
    [.record .reset, .record (.restored 1), .record (.restored 2), .next, .record (.restored 3)]
  obtain ⟨-, -, -, -, -, hleft, -⟩ := htraffic [.record .reset, .close]
  obtain ⟨hreceived, hcounted⟩ := hleft (by simp) [.record .reset, .drain]
  refine ⟨_, hnew, (hkept (by simp)).1, hdropped, (hrefuses _).2 (.inl rfl), hreceived, hcounted⟩

end TransitionEngine.Channel
