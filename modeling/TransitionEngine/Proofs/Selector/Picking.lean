import Mathlib.Data.Nat.Init
import TransitionEngine.Proofs.Runner.Quiescence

/-!
# What is picked

Both selectors of the engine pick one of the candidates, and stop only when there is none. Picking in
turn also leaves nobody out: each time it wraps around it begins with the first candidate, and up to
the next time it goes through the candidates in ascending order. So who stays a candidate from one wrap
to the next is picked once between them, however the other candidates come and go.
-/

namespace TransitionEngine

variable {Outside State : Type}

namespace RuleId

@[simp]
theorem before_self (id : RuleId) : id.before id = false := by
  simp [before]

theorem before_trans {first second third : RuleId} (hfirst : first.before second = true)
    (hsecond : second.before third = true) : first.before third = true := by
  rw [before_iff] at *
  omega

theorem eq_or_before {left right : RuleId} (hnot : right.before left = false) :
    left = right ∨ left.before right = true := by
  obtain ⟨ruleset, rule⟩ := left
  obtain ⟨ruleset', rule'⟩ := right
  rw [Bool.eq_false_iff, ne_eq, before_iff] at hnot
  rw [before_iff, mk.injEq]
  dsimp only at hnot ⊢
  omega

/-- The ids stand in strictly ascending order. -/
def Ascending (ids : List RuleId) : Prop :=
  ids.Pairwise fun earlier later => earlier.before later = true

/-- Of the ids in front of a later one none comes after it. -/
theorem Ascending.not_before {front rest : List RuleId} {id other : RuleId}
    (hascending : Ascending (front ++ id :: rest)) (hmem : other ∈ id :: rest) :
    other.before id = false := by
  obtain ⟨-, hids, -⟩ := List.pairwise_append.1 hascending
  rcases List.mem_cons.1 hmem with rfl | hmem
  · exact before_self other
  · have hbefore := List.rel_of_pairwise_cons hids hmem
    rw [Bool.eq_false_iff]
    intro hafter
    have hself := before_trans hbefore hafter
    rw [before_self] at hself
    cases hself

end RuleId

/-- Positions are counted upwards. -/
theorem zipIdx_ascending {α : Type} (list : List α) :
    list.zipIdx.Pairwise fun earlier later => earlier.2 < later.2 := by
  rw [← List.pairwise_map (f := Prod.snd), List.zipIdx_map_snd]
  exact List.pairwise_lt_range'

theorem Controller.ascending_activeRules (controller : Controller Outside) :
    RuleId.Ascending controller.activeRules := by
  rw [RuleId.Ascending, activeRules, List.pairwise_flatMap]
  constructor
  · rintro ⟨ruleset, position⟩ -
    rw [List.pairwise_map]
    refine ((zipIdx_ascending ruleset.rules).filter _).imp fun hlt => ?_
    exact RuleId.before_iff.2 (.inr ⟨rfl, hlt⟩)
  · refine (zipIdx_ascending controller.rulesets).imp fun {first second} hlt => ?_
    rintro _ hfirst _ hsecond
    obtain ⟨_, -, rfl⟩ := List.mem_map.1 hfirst
    obtain ⟨_, -, rfl⟩ := List.mem_map.1 hsecond
    exact RuleId.before_iff.2 (.inl hlt)

namespace Selector

/-- What the selector picks is a candidate. -/
def IsFaithful (selector : Selector Outside State) : Prop :=
  ∀ state candidates rulesets id, (selector state candidates rulesets).1 = some id → id ∈ candidates

/-- What round robin may pick after the last pick. -/
inductive Follows (last : Option RuleId) (candidates : List RuleId) (pick : RuleId) : Prop
  | onwards {previous : RuleId} (hlast : last = some previous)
      (hbefore : previous.before pick = true)
      (hnext : ∀ id ∈ candidates, previous.before id = true → id.before pick = false)
  | around (hlast : ∀ previous, last = some previous →
        ∀ id ∈ candidates, previous.before id = false)
      (hfirst : ∀ id ∈ candidates, id.before pick = false)

section RoundRobin

variable {last : Option RuleId} {candidates : List RuleId} {rulesets : List (Ruleset Outside)}
  {pick : RuleId}

theorem fst_roundRobin (last : Option RuleId) (candidates : List RuleId)
    (rulesets : List (Ruleset Outside)) : (roundRobin last candidates rulesets).1 =
      (last.bind fun last => candidates.find? (last.before ·)).or candidates.head? := by
  unfold roundRobin
  dsimp only
  cases (last.bind fun last => candidates.find? (last.before ·)).or candidates.head? <;> rfl

/-- The last pick is forgotten only for another. -/
theorem snd_roundRobin (last : Option RuleId) (candidates : List RuleId)
    (rulesets : List (Ruleset Outside)) : (roundRobin last candidates rulesets).2 =
      (roundRobin last candidates rulesets).1.or last := by
  unfold roundRobin
  dsimp only
  cases (last.bind fun last => candidates.find? (last.before ·)).or candidates.head? <;> rfl

theorem follows_of_roundRobin (hascending : RuleId.Ascending candidates)
    (hpick : (roundRobin last candidates rulesets).1 = some pick) :
    Follows last candidates pick := by
  rw [fst_roundRobin] at hpick
  rcases Option.or_eq_some_iff.1 hpick with hfound | ⟨hnone, hhead⟩
  · obtain ⟨previous, rfl, hfound⟩ := Option.bind_eq_some_iff.1 hfound
    obtain ⟨hbefore, front, rest, rfl, hfront⟩ := List.find?_eq_some_iff_append.1 hfound
    refine .onwards rfl hbefore fun id hmem hafter => ?_
    rcases List.mem_append.1 hmem with hmem | hmem
    · have hskipped := hfront id hmem
      rw [hafter] at hskipped
      cases hskipped
    · exact hascending.not_before hmem
  · obtain ⟨rest, rfl⟩ := List.head?_eq_some_iff.1 hhead
    have hhead : RuleId.Ascending ([] ++ pick :: rest) := hascending
    refine .around ?_ fun id hmem => hhead.not_before hmem
    rintro previous rfl id hmem
    rw [Option.bind_some, List.find?_eq_none] at hnone
    exact Bool.eq_false_iff.2 (hnone id hmem)

theorem isFaithful_roundRobin : (roundRobin : Selector Outside _).IsFaithful := by
  intro last candidates rulesets id hpick
  rw [fst_roundRobin] at hpick
  rcases Option.or_eq_some_iff.1 hpick with hfound | ⟨-, hhead⟩
  · obtain ⟨previous, -, hfound⟩ := Option.bind_eq_some_iff.1 hfound
    exact List.mem_of_find?_eq_some hfound
  · exact List.mem_of_head? hhead

theorem isFaithful_seeded : (seeded : Selector Outside _).IsFaithful := by
  intro state candidates rulesets id hpick
  rw [seeded] at hpick
  split at hpick
  · cases hpick
  · exact List.mem_of_getElem? hpick

end RoundRobin

/-- The selectors that the engine comes with. -/
inductive IsProvided : {State : Type} → Selector Outside State → Prop
  | roundRobin : IsProvided roundRobin
  | seeded : IsProvided seeded

theorem IsProvided.isEager {selector : Selector Outside State} (hprovided : selector.IsProvided) :
    selector.IsEager := by
  cases hprovided with
  | roundRobin => exact isEager_roundRobin
  | seeded => exact isEager_seeded

theorem IsProvided.isFaithful {selector : Selector Outside State}
    (hprovided : selector.IsProvided) : selector.IsFaithful := by
  cases hprovided with
  | roundRobin => exact isFaithful_roundRobin
  | seeded => exact isFaithful_seeded

/-! ### Call after call -/

/-- What a selector is called with. -/
structure Offer (Outside : Type) where
  candidates : List RuleId
  rulesets : List (Ruleset Outside)

/-- The state of the selector in front of a call. -/
def stateAt (selector : Selector Outside State) (start : State) (offers : Nat → Offer Outside) :
    Nat → State
  | 0 => start
  | call + 1 => (selector (selector.stateAt start offers call) (offers call).candidates
      (offers call).rulesets).2

def pickAt (selector : Selector Outside State) (start : State) (offers : Nat → Offer Outside)
    (call : Nat) : Option RuleId :=
  (selector (selector.stateAt start offers call) (offers call).candidates
    (offers call).rulesets).1

/-- The last pick in front of a call, if there is one. -/
def lastPick (picks : Nat → Option RuleId) : Nat → Option RuleId
  | 0 => none
  | call + 1 => (picks call).or (lastPick picks call)

/-- The call picks something that does not come after the last pick. -/
def WrapsAround (picks : Nat → Option RuleId) (call : Nat) : Prop :=
  ∃ last pick, lastPick picks call = some last ∧ picks call = some pick ∧ last.before pick = false

section Turns

variable {start : Option RuleId} {offers : Nat → Offer Outside} {first next call : Nat}
  {id last pick : RuleId}

theorem exists_pick (start : Option RuleId) (hmem : id ∈ (offers call).candidates) :
    ∃ pick, pickAt roundRobin start offers call = some pick := by
  rw [← Option.ne_none_iff_exists']
  intro hnone
  rw [isEager_roundRobin _ _ _ hnone] at hmem
  cases hmem

/-- What round robin keeps from call to call is its last pick. -/
theorem stateAt_roundRobin (start : Option RuleId) (offers : Nat → Offer Outside) (call : Nat) :
    stateAt roundRobin start offers call =
      (lastPick (pickAt roundRobin start offers) call).or start := by
  induction call with
  | zero => rfl
  | succ call ih => rw [stateAt, snd_roundRobin, lastPick, Option.or_assoc, ← ih, pickAt]

theorem lastPick_succ {picks : Nat → Option RuleId} (hpick : picks call = some pick) :
    lastPick picks (call + 1) = some pick := by
  rw [lastPick, hpick, Option.some_or]

variable (hascending : ∀ call, RuleId.Ascending (offers call).candidates)

include hascending

theorem follows_lastPick (hlast : lastPick (pickAt roundRobin start offers) call = some last)
    (hpick : pickAt roundRobin start offers call = some pick) :
    Follows (some last) (offers call).candidates pick := by
  have hstate := stateAt_roundRobin start offers call
  rw [hlast, Option.some_or] at hstate
  rw [pickAt, hstate] at hpick
  exact follows_of_roundRobin (hascending call) hpick

/-- Where round robin wraps around, no candidate comes after the last pick, and it begins with the first
of all. -/
theorem WrapsAround.around (hwraps : WrapsAround (pickAt roundRobin start offers) call)
    (hmem : id ∈ (offers call).candidates) :
    (∀ last, lastPick (pickAt roundRobin start offers) call = some last → last.before id = false) ∧
      ∀ pick, pickAt roundRobin start offers call = some pick → id.before pick = false := by
  obtain ⟨last, pick, hlast, hpick, hwrapped⟩ := hwraps
  cases follows_lastPick hascending hlast hpick with
  | onwards hprevious hbefore =>
      obtain rfl := Option.some.inj hprevious
      rw [hbefore] at hwrapped
      cases hwrapped
  | around hbeyond hfirst =>
      rw [hlast, hpick]
      constructor
      · rintro _ ⟨⟩
        exact hbeyond last rfl id hmem
      · rintro _ ⟨⟩
        exact hfirst id hmem

/-- Where it does not, it goes on to the next candidate. -/
theorem onwards_of_not_wrapsAround
    (hwraps : ¬WrapsAround (pickAt roundRobin start offers) call)
    (hlast : lastPick (pickAt roundRobin start offers) call = some last)
    (hpick : pickAt roundRobin start offers call = some pick) :
    last.before pick = true ∧ ∀ id ∈ (offers call).candidates, last.before id = true →
      id.before pick = false := by
  have hbefore : last.before pick = true := by
    by_contra hnot
    exact hwraps ⟨last, pick, hlast, hpick, Bool.eq_false_iff.2 hnot⟩
  cases follows_lastPick hascending hlast hpick with
  | onwards hprevious _ hnext =>
      obtain rfl := Option.some.inj hprevious
      exact ⟨hbefore, hnext⟩
  | around _ hfirst => exact ⟨hbefore, fun id hmem _ => hfirst id hmem⟩

section Round

variable (honwards : ∀ call, first < call → call < next →
    ¬WrapsAround (pickAt roundRobin start offers) call)

include honwards

theorem exists_lastPick {earlier : Nat} (hfirst : first ≤ earlier)
    (hpick : pickAt roundRobin start offers earlier = some pick) (hlater : earlier < call)
    (hnext : call ≤ next) :
    ∃ last, lastPick (pickAt roundRobin start offers) call = some last ∧
      (pick = last ∨ pick.before last = true) := by
  induction call, hlater using Nat.le_induction with
  | base => exact ⟨pick, lastPick_succ hpick, .inl rfl⟩
  | succ call hlater ih =>
      obtain ⟨last, hlast, hascends⟩ := ih (by omega)
      cases hpicked : pickAt roundRobin start offers call with
      | none =>
          rw [lastPick, hpicked, Option.none_or]
          exact ⟨last, hlast, hascends⟩
      | some picked =>
          obtain ⟨hbefore, -⟩ := onwards_of_not_wrapsAround hascending
            (honwards call (by omega) (by omega)) hlast hpicked
          refine ⟨picked, lastPick_succ hpicked, .inr ?_⟩
          rcases hascends with rfl | hascends
          · exact hbefore
          · exact RuleId.before_trans hascends hbefore

/-- From one wrap to the next the picks ascend, so none is made twice. -/
theorem pick_ne_of_lt {earlier later : Nat} (hfirst : first ≤ earlier) (hlt : earlier < later)
    (hnext : later < next) (hearlier : pickAt roundRobin start offers earlier = some id) :
    pickAt roundRobin start offers later ≠ some id := by
  intro hlater
  obtain ⟨last, hlast, hascends⟩ :=
    exists_lastPick hascending honwards hfirst hearlier hlt (Nat.le_of_lt hnext)
  obtain ⟨hbefore, -⟩ := onwards_of_not_wrapsAround hascending
    (honwards later (by omega) hnext) hlast hlater
  have hself : id.before id = true := by
    rcases hascends with rfl | hascends
    · exact hbefore
    · exact RuleId.before_trans hascends hbefore
  rw [RuleId.before_self] at hself
  cases hself

/-- In front of each call of a round, who is a candidate throughout was picked or still lies ahead. -/
theorem picked_or_ahead (hwraps : WrapsAround (pickAt roundRobin start offers) first)
    (hmem : ∀ call, first ≤ call → call ≤ next → id ∈ (offers call).candidates)
    (hfirst : first < call) (hnext : call ≤ next) :
    (∃ earlier, (first ≤ earlier ∧ earlier < call) ∧
        pickAt roundRobin start offers earlier = some id) ∨
      ∃ last, lastPick (pickAt roundRobin start offers) call = some last ∧
        last.before id = true := by
  -- What a call picks is the candidate itself or comes before it, unless it was picked already.
  have hreached {call : Nat} (hfirst : first ≤ call) {pick : RuleId}
      (hpick : pickAt roundRobin start offers call = some pick)
      (hnot : id.before pick = false) :
      (∃ earlier, (first ≤ earlier ∧ earlier < call + 1) ∧
          pickAt roundRobin start offers earlier = some id) ∨
        ∃ last, lastPick (pickAt roundRobin start offers) (call + 1) = some last ∧
          last.before id = true := by
    rcases RuleId.eq_or_before hnot with rfl | hbefore
    · exact .inl ⟨call, ⟨hfirst, call.lt_succ_self⟩, hpick⟩
    · exact .inr ⟨pick, lastPick_succ hpick, hbefore⟩
  induction call, hfirst using Nat.le_induction with
  | base =>
      have hcandidate := hmem first (Nat.le_refl first) (by omega)
      obtain ⟨pick, hpick⟩ := exists_pick start hcandidate
      exact hreached (Nat.le_refl first) hpick ((hwraps.around hascending hcandidate).2 pick hpick)
  | succ call hlater ih =>
      rcases ih (by omega) with ⟨earlier, ⟨hfirst, hearlier⟩, hpicked⟩ | ⟨last, hlast, hahead⟩
      · exact .inl ⟨earlier, ⟨hfirst, by omega⟩, hpicked⟩
      · have hcandidate := hmem call (by omega) (by omega)
        obtain ⟨pick, hpick⟩ := exists_pick start hcandidate
        obtain ⟨-, honto⟩ := onwards_of_not_wrapsAround hascending
          (honwards call (by omega) (by omega)) hlast hpick
        exact hreached (by omega) hpick (honto id hcandidate hahead)

end Round

end Turns

/-- Nobody is left out in turn. Between a wrap and the next, whoever is a candidate all the time is picked
exactly once, whatever happens to the others. Each pick is a candidate, there is none only when there is no
candidate, and the last pick is kept; and the active rules of a controller are such candidates. -/
theorem roundRobin_picks_in_turn (start : Option RuleId) (offers : Nat → Offer Outside)
    (hascending : ∀ call, RuleId.Ascending (offers call).candidates) :
    let picks := pickAt roundRobin start offers
    (∀ first next, first < next → WrapsAround picks first → WrapsAround picks next →
        (∀ call, first < call → call < next → ¬WrapsAround picks call) →
          ∀ id, (∀ call, first ≤ call → call ≤ next → id ∈ (offers call).candidates) →
            ∃! call, (first ≤ call ∧ call < next) ∧ picks call = some id) ∧
      (∀ call id, picks call = some id → id ∈ (offers call).candidates) ∧
      (∀ call, picks call = none ↔ (offers call).candidates = []) ∧
      (∀ call, stateAt roundRobin start offers call = (lastPick picks call).or start) ∧
      ∀ controller : Controller Outside, RuleId.Ascending controller.activeRules := by
  refine ⟨?_, ?_, ?_, stateAt_roundRobin start offers, Controller.ascending_activeRules⟩
  · intro first next hlt hwraps hnext honwards id hmem
    rcases picked_or_ahead hascending honwards hwraps hmem hlt (Nat.le_refl next) with
      ⟨call, hbetween, hpicked⟩ | ⟨last, hlast, hahead⟩
    · refine ⟨call, ⟨hbetween, hpicked⟩, fun other ⟨hother, hpicked'⟩ => ?_⟩
      rcases Nat.lt_trichotomy other call with hless | hsame | hmore
      · exact absurd hpicked
          (pick_ne_of_lt hascending honwards hother.1 hless hbetween.2 hpicked')
      · exact hsame
      · exact absurd hpicked'
          (pick_ne_of_lt hascending honwards hbetween.1 hmore hother.2 hpicked)
    · -- At the next wrap nobody lies ahead any more.
      have hcandidate := hmem next (Nat.le_of_lt hlt) (Nat.le_refl next)
      have hbeyond := (hnext.around hascending hcandidate).1 last hlast
      rw [hahead] at hbeyond
      cases hbeyond
  · intro call id hpick
    exact isFaithful_roundRobin _ _ _ id hpick
  · intro call
    constructor
    · exact isEager_roundRobin _ _ _
    · intro hnone
      rw [Option.eq_none_iff_forall_ne_some]
      intro id hpick
      have hmem := isFaithful_roundRobin _ _ _ id hpick
      rw [hnone] at hmem
      cases hmem

/-- Of three candidates the one in the middle is there at every other call only. -/
def comeAndGo (call : Nat) : Offer Unit :=
  if call % 2 = 0 then ⟨[⟨0, 0⟩, ⟨1, 0⟩, ⟨1, 1⟩], []⟩ else ⟨[⟨0, 0⟩, ⟨1, 1⟩], []⟩

/-- The third candidate is picked once in the round that begins with the third call, though the second
one is offered there and never picked. -/
theorem roundRobin_picks_in_turn_comeAndGo :
    (List.range 5).map (pickAt roundRobin none comeAndGo) =
        [some ⟨0, 0⟩, some ⟨1, 1⟩, some ⟨0, 0⟩, some ⟨1, 1⟩, some ⟨0, 0⟩] ∧
      ∃! call, (2 ≤ call ∧ call < 4) ∧ pickAt roundRobin none comeAndGo call = some ⟨1, 1⟩ := by
  have hascending (call : Nat) : RuleId.Ascending (comeAndGo call).candidates := by
    rw [comeAndGo]
    split <;> simp [RuleId.Ascending, RuleId.before]
  have hwraps (call : Nat) (hcall : call = 2 ∨ call = 4) :
      WrapsAround (pickAt roundRobin none comeAndGo) call := by
    rcases hcall with rfl | rfl <;> exact ⟨⟨1, 1⟩, ⟨0, 0⟩, rfl, rfl, rfl⟩
  have honwards (call : Nat) (hafter : 2 < call) (hbefore : call < 4) :
      ¬WrapsAround (pickAt roundRobin none comeAndGo) call := by
    obtain rfl : call = 3 := by omega
    rintro ⟨_, _, ⟨⟩, ⟨⟩, ⟨⟩⟩
  have hmem (call : Nat) : (⟨1, 1⟩ : RuleId) ∈ (comeAndGo call).candidates := by
    rw [comeAndGo]
    split <;> simp
  obtain ⟨hturns, -⟩ := roundRobin_picks_in_turn none comeAndGo hascending
  exact ⟨rfl, hturns 2 4 (by omega) (hwraps 2 (.inl rfl)) (hwraps 4 (.inr rfl)) honwards ⟨1, 1⟩
    fun call _ _ => hmem call⟩

end Selector

end TransitionEngine
