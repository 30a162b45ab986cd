import Mathlib.Data.List.Forall2

/-!
# Success

When a computation of several parts succeeds, each of its parts has succeeded, and the other way
round.
-/

namespace TransitionEngine.Success

variable {ε α β γ : Type}

theorem bind_eq_ok_iff {first : Except ε α} {next : α → Except ε β} {result : β} :
    (first >>= next) = .ok result ↔ ∃ value, first = .ok value ∧ next value = .ok result := by
  cases first <;> simp [bind, Except.bind]

theorem bind_eq_error_iff {first : Except ε α} {next : α → Except ε β} {error : ε} :
    (first >>= next) = .error error ↔
      first = .error error ∨ ∃ value, first = .ok value ∧ next value = .error error := by
  cases first <;> simp [bind, Except.bind]

theorem map_eq_ok_iff {first : Except ε α} {f : α → β} {result : β} :
    first.map f = .ok result ↔ ∃ value, first = .ok value ∧ f value = result := by
  cases first <;> simp [Except.map]

theorem map_eq_error_iff {first : Except ε α} {f : α → β} {error : ε} :
    first.map f = .error error ↔ first = .error error := by
  cases first <;> simp [Except.map]

theorem mapError_eq_ok_iff {δ : Type} {first : Except ε α} {f : ε → δ} {result : α} :
    first.mapError f = .ok result ↔ first = .ok result := by
  cases first <;> simp [Except.mapError]

theorem mapM_eq_ok_iff {f : α → Except ε β} {inputs : List α} {results : List β} :
    inputs.mapM f = .ok results ↔
      List.Forall₂ (fun input result => f input = .ok result) inputs results := by
  induction inputs generalizing results with
  | nil => cases results <;> simp [pure, Except.pure]
  | cons input rest ih =>
      rw [List.mapM_cons]
      simp only [bind_eq_ok_iff, ih, pure, Except.pure, Except.ok.injEq]
      constructor
      · rintro ⟨result, hresult, others, hothers, rfl⟩
        exact .cons hresult hothers
      · intro hall
        cases hall with
        | cons hresult hothers => exact ⟨_, hresult, _, hothers, rfl⟩

/-- The error of a failure is that of one of its parts. -/
theorem exists_of_mapM_eq_error {f : α → Except ε β} {inputs : List α} {error : ε}
    (hfailed : inputs.mapM f = .error error) : ∃ input ∈ inputs, f input = .error error := by
  induction inputs with
  | nil => cases hfailed
  | cons input rest ih =>
      rw [List.mapM_cons] at hfailed
      rcases bind_eq_error_iff.1 hfailed with hfirst | ⟨result, -, hothers⟩
      · exact ⟨input, List.mem_cons_self .., hfirst⟩
      · rcases bind_eq_error_iff.1 hothers with hrest | ⟨results, -, hdone⟩
        · obtain ⟨other, hother, hfails⟩ := ih hrest
          exact ⟨other, List.mem_cons_of_mem _ hother, hfails⟩
        · cases hdone

/-- The first part that fails gives its error, whatever comes behind it. -/
theorem mapM_append_of_error {f : α → Except ε β} {earlier : List α} {failing : α} {error : ε}
    (hearlier : ∀ input ∈ earlier, ∃ result, f input = .ok result) (hfails : f failing = .error error)
    (later : List α) : (earlier ++ failing :: later).mapM f = .error error := by
  induction earlier with
  | nil =>
      rw [List.nil_append, List.mapM_cons, hfails]
      rfl
  | cons input rest ih =>
      obtain ⟨⟨result, hresult⟩, hrest⟩ := List.forall_mem_cons.1 hearlier
      rw [List.cons_append, List.mapM_cons, hresult, ih hrest]
      rfl

theorem mapM_congr_of_forall₂ {f : α → Except ε γ} {g : β → Except ε γ} {left : List α}
    {right : List β} (hsame : List.Forall₂ (fun l r => f l = g r) left right) :
    left.mapM f = right.mapM g := by
  induction hsame with
  | nil => rfl
  | cons hhead _ ih => rw [List.mapM_cons, List.mapM_cons, hhead, ih]

/-- A fold whose step first computes something from the element alone: these computations all
succeed, and so does the fold over their results. -/
theorem foldlM_bind_eq_ok_iff {f : α → Except ε β} {step : γ → β → Except ε γ} {inputs : List α}
    {start result : γ} :
    inputs.foldlM (fun state input => f input >>= step state) start = .ok result ↔
      ∃ values, inputs.mapM f = .ok values ∧ values.foldlM step start = .ok result := by
  induction inputs generalizing start with
  | nil => simp [pure, Except.pure]
  | cons input rest ih =>
      rw [List.foldlM_cons, List.mapM_cons]
      simp only [bind_eq_ok_iff, ih, pure, Except.pure, Except.ok.injEq]
      constructor
      · rintro ⟨state, ⟨value, hvalue, hstep⟩, values, hvalues, hfold⟩
        refine ⟨_, ⟨value, hvalue, values, hvalues, rfl⟩, ?_⟩
        exact bind_eq_ok_iff.2 ⟨state, hstep, hfold⟩
      · rintro ⟨-, ⟨value, hvalue, values, hvalues, rfl⟩, hfold⟩
        obtain ⟨state, hstep, hfold⟩ := bind_eq_ok_iff.1 hfold
        exact ⟨state, ⟨value, hvalue, hstep⟩, values, hvalues, hfold⟩

/-- Such a fold fails where one of these computations does, or where the step refuses a result of one. -/
theorem exists_of_foldlM_bind_eq_error {f : α → Except ε β} {step : γ → β → Except ε γ}
    {inputs : List α} {start : γ} {error : ε}
    (hfailed : inputs.foldlM (fun state input => f input >>= step state) start = .error error) :
    (∃ input ∈ inputs, f input = .error error) ∨
      ∃ earlier input later values state value, inputs = earlier ++ input :: later ∧
        earlier.mapM f = .ok values ∧ values.foldlM step start = .ok state ∧
        f input = .ok value ∧ step state value = .error error := by
  induction inputs generalizing start with
  | nil => cases hfailed
  | cons input rest ih =>
      rw [List.foldlM_cons] at hfailed
      rcases bind_eq_error_iff.1 hfailed with hfirst | ⟨next, hfirst, hrest⟩
      · rcases bind_eq_error_iff.1 hfirst with hvalue | ⟨value, hvalue, hstep⟩
        · exact .inl ⟨input, List.mem_cons_self .., hvalue⟩
        · exact .inr ⟨[], input, rest, [], start, value, rfl, rfl, rfl, hvalue, hstep⟩
      · rcases ih hrest with ⟨other, hother, hfails⟩ |
          ⟨earlier, failing, later, values, state, refused, hsplit, hvalues, hfold, hrefused⟩
        · exact .inl ⟨other, List.mem_cons_of_mem _ hother, hfails⟩
        · obtain ⟨value, hvalue, hnext⟩ := bind_eq_ok_iff.1 hfirst
          refine .inr ⟨input :: earlier, failing, later, value :: values, state, refused,
            congrArg _ hsplit, ?_, ?_, hrefused⟩
          · rw [List.mapM_cons, hvalue, hvalues]
            rfl
          · rw [List.foldlM_cons, hnext]
            exact hfold

/-- What every step of a fold keeps, the fold keeps. -/
theorem foldlM_preserves {P : γ → Prop} {step : γ → α → Except ε γ} {inputs : List α}
    {start result : γ} (hfold : inputs.foldlM step start = .ok result) (hstart : P start)
    (hstep : ∀ state, ∀ input ∈ inputs, ∀ next, P state → step state input = .ok next → P next) :
    P result := by
  induction inputs generalizing start with
  | nil => rwa [← Except.ok.inj hfold]
  | cons input rest ih =>
      rw [List.foldlM_cons] at hfold
      obtain ⟨next, hnext, hrest⟩ := bind_eq_ok_iff.1 hfold
      refine ih hrest (hstep start input (List.mem_cons_self ..) next hstart hnext) ?_
      exact fun state other hother => hstep state other (List.mem_cons_of_mem _ hother)

theorem exists_forall₂ {R : α → β → Prop} {inputs : List α}
    (hexists : ∀ input ∈ inputs, ∃ result, R input result) :
    ∃ results, List.Forall₂ R inputs results := by
  induction inputs with
  | nil => exact ⟨[], .nil⟩
  | cons input rest ih =>
      obtain ⟨result, hresult⟩ := hexists input (List.mem_cons_self ..)
      obtain ⟨others, hothers⟩ := ih fun other hother => hexists other (List.mem_cons_of_mem _ hother)
      exact ⟨result :: others, .cons hresult hothers⟩

theorem exists_of_mem_right {R : α → β → Prop} {left : List α} {right : List β}
    (hall : List.Forall₂ R left right) {result : β} (hmem : result ∈ right) :
    ∃ input ∈ left, R input result := by
  induction hall with
  | nil => simp at hmem
  | cons hhead _ ih =>
      rcases List.mem_cons.1 hmem with rfl | hmem
      · exact ⟨_, List.mem_cons_self .., hhead⟩
      · obtain ⟨input, hinput, hrel⟩ := ih hmem
        exact ⟨input, List.mem_cons_of_mem _ hinput, hrel⟩

theorem exists_of_mem_left {R : α → β → Prop} {left : List α} {right : List β}
    (hall : List.Forall₂ R left right) {input : α} (hmem : input ∈ left) :
    ∃ result ∈ right, R input result := by
  induction hall with
  | nil => simp at hmem
  | cons hhead _ ih =>
      rcases List.mem_cons.1 hmem with rfl | hmem
      · exact ⟨_, List.mem_cons_self .., hhead⟩
      · obtain ⟨result, hresult, hrel⟩ := ih hmem
        exact ⟨result, List.mem_cons_of_mem _ hresult, hrel⟩

theorem exists_getElem?_of_forall₂ {R : α → β → Prop} {left : List α} {right : List β}
    (hall : List.Forall₂ R left right) {position : Nat} {result : β}
    (hget : right[position]? = some result) :
    ∃ input, left[position]? = some input ∧ R input result := by
  induction hall generalizing position with
  | nil => simp at hget
  | cons hhead _ ih =>
      cases position with
      | zero =>
          rw [List.getElem?_cons_zero] at hget
          exact ⟨_, List.getElem?_cons_zero, Option.some.inj hget ▸ hhead⟩
      | succ position =>
          rw [List.getElem?_cons_succ] at hget ⊢
          exact ih hget

end TransitionEngine.Success
