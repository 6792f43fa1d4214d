import UpdateAgent.Proofs.Program
import Mathlib.Data.Option.Basic

/-!
# Programs side by side

Two programs are parallel if they go the same way as long as their surroundings treat them alike:
their calls are alike, and from like replies they come to like results (`Parallel`). In surroundings
that treat like calls alike each of them does what the other does (`Comes.parallel`), and nothing
else, since in given surroundings a program has no choice (`Comes.unique`).
-/

namespace UpdateAgent

open Program

/-- Both go again, from related states, or both finish with related results. -/
inductive Next.Both {σ σ' β β' : Type} (S : σ → σ' → Prop) (T : β → β' → Prop) :
    Next σ β → Next σ' β' → Prop
  | again {s : σ} {s' : σ'} (h : S s s') : Both S T (.again s) (.again s')
  | finish {b : β} {b' : β'} (h : T b b') : Both S T (.finish b) (.finish b')

namespace Program

variable {I : Interface} {ω ω' α α' β β' σ σ' : Type}

/-! ## How far a program has come -/

/-- What a program has come to: a result or its next call. -/
inductive Point (I : Interface) (α : Type)
  | result (a : α)
  | call (c : I.Call)

/-- A program may come there by these calls. -/
def Comes (p : Program I α) (trace : List (Exchange I)) : Point I α → Prop
  | .result a => Runs p trace a
  | .call c => Asks p trace c

section

variable {p : Program I α} {answer : Surroundings I ω} {w w₁ w₂ : ω} {t t' : List (Exchange I)}

/-- In the same surroundings a program that returns has one run. -/
theorem Runs.unique {a a' : α} (h : Runs p t a) (hanswered : Answered answer w t w₁)
    (h' : Runs p t' a') (hanswered' : Answered answer w t' w₂) : t = t' ∧ a = a' ∧ w₁ = w₂ := by
  -- The surroundings go along: to a call in one state they have one reply, and one state after it.
  induction h using Runs.by_turns generalizing w w₁ w₂ t' with
  | done a =>
    cases h'
    cases hanswered
    cases hanswered'
    exact ⟨rfl, rfl, rfl⟩
  | call r rest ih =>
    cases h' with
    | call r' rest' =>
      obtain _ | ⟨this, hanswered⟩ := hanswered
      obtain _ | ⟨this', hanswered'⟩ := hanswered'
      cases this.symm.trans this'
      obtain ⟨rfl, rfl, rfl⟩ := ih hanswered rest' hanswered'
      exact ⟨rfl, rfl, rfl⟩
  | loop this rest ihthis ihrest =>
    obtain ⟨turn', n', rest', hturn', hrest', rfl⟩ := runs_loop_turn.mp h'
    obtain ⟨w₃, hanswers, hanswered⟩ := answered_of_append hanswered
    obtain ⟨w₄, hanswers', hanswered'⟩ := answered_of_append hanswered'
    obtain ⟨rfl, rfl, rfl⟩ := ihthis hanswers hturn' hanswers'
    obtain ⟨rfl, rfl, rfl⟩ := ihrest hanswered hrest' hanswered'
    exact ⟨rfl, rfl, rfl⟩

/-- A program that returns makes no call after those of its run. -/
theorem Asks.length_lt {a : α} {c : I.Call} (h : Asks p t c) (hanswered : Answered answer w t w₁)
    (h' : Runs p t' a) (hanswered' : Answered answer w t' w₂) : t.length < t'.length := by
  induction h using Asks.by_turns generalizing w w₂ t' with
  | now =>
    cases h'
    exact Nat.succ_pos _
  | later r rest ih =>
    cases h' with
    | call r' rest' =>
      obtain _ | ⟨this, hanswered⟩ := hanswered
      obtain _ | ⟨this', hanswered'⟩ := hanswered'
      cases this.symm.trans this'
      exact Nat.succ_lt_succ (ih hanswered rest' hanswered')
  | within this ih =>
    obtain ⟨turn', n', rest', hturn', hrest', rfl⟩ := runs_loop_turn.mp h'
    obtain ⟨w₄, hanswers', -⟩ := answered_of_append hanswered'
    have hlt := ih hanswered hturn' hanswers'
    rw [List.length_append]
    omega
  | after this rest ih =>
    obtain ⟨turn', n', rest', hturn', hrest', rfl⟩ := runs_loop_turn.mp h'
    obtain ⟨w₃, hanswers, hanswered⟩ := answered_of_append hanswered
    obtain ⟨w₄, hanswers', hanswered'⟩ := answered_of_append hanswered'
    obtain ⟨rfl, rfl, rfl⟩ := this.unique hanswers hturn' hanswers'
    rw [List.length_append, List.length_append]
    exact Nat.add_lt_add_left (ih hanswered hrest' hanswered') _

theorem Asks.unique {c c' : I.Call} (h : Asks p t c) (hanswered : Answered answer w t w₁)
    (h' : Asks p t' c') (hanswered' : Answered answer w t' w₂) (hlength : t.length = t'.length) :
    t = t' ∧ c = c' := by
  induction h using Asks.by_turns generalizing w w₂ t' with
  | now =>
    obtain rfl := List.length_eq_zero_iff.mp hlength.symm
    cases h'
    exact ⟨rfl, rfl⟩
  | later r rest ih =>
    cases h' with
    | now => cases hlength
    | later r' rest' =>
      obtain _ | ⟨this, hanswered⟩ := hanswered
      obtain _ | ⟨this', hanswered'⟩ := hanswered'
      cases this.symm.trans this'
      obtain ⟨rfl, rfl⟩ := ih hanswered rest' hanswered' (Nat.succ.inj hlength)
      exact ⟨rfl, rfl⟩
  | within this ih =>
    rcases asks_loop_turn.mp h' with this' | ⟨turn', n', rest', hturn', hrest', rfl⟩
    · exact ih hanswered this' hanswered' hlength
    · -- A turn that has ended is longer than one that has not.
      obtain ⟨w₄, hanswers', -⟩ := answered_of_append hanswered'
      have hlt := this.length_lt hanswered hturn' hanswers'
      rw [List.length_append] at hlength
      omega
  | after this rest ih =>
    obtain ⟨w₃, hanswers, hanswered⟩ := answered_of_append hanswered
    rw [List.length_append] at hlength
    rcases asks_loop_turn.mp h' with this' | ⟨turn', n', rest', hturn', hrest', rfl⟩
    · have hlt := this'.length_lt hanswered' this hanswers
      omega
    · obtain ⟨w₄, hanswers', hanswered'⟩ := answered_of_append hanswered'
      obtain ⟨rfl, rfl, rfl⟩ := this.unique hanswers hturn' hanswers'
      rw [List.length_append] at hlength
      obtain ⟨rfl, rfl⟩ := ih hanswered hrest' hanswered' (Nat.add_left_cancel hlength)
      exact ⟨rfl, rfl⟩

/-- In the same surroundings a program comes by as many calls to one point. -/
theorem Comes.unique {o o' : Point I α} (h : Comes p t o) (hanswered : Answered answer w t w₁)
    (h' : Comes p t' o') (hanswered' : Answered answer w t' w₂) (hlength : t.length = t'.length) :
    t = t' ∧ o = o' := by
  match o, o', h, h' with
  | .result a, .result a', h, h' =>
    obtain ⟨rfl, rfl, -⟩ := Runs.unique h hanswered h' hanswered'
    exact ⟨rfl, rfl⟩
  | .result a, .call c, h, h' =>
    have hlt := Asks.length_lt h' hanswered' h hanswered
    omega
  | .call c, .result a, h, h' =>
    have hlt := Asks.length_lt h hanswered h' hanswered'
    omega
  | .call c, .call c', h, h' =>
    obtain ⟨rfl, rfl⟩ := Asks.unique h hanswered h' hanswered' hlength
    exact ⟨rfl, rfl⟩

end

/-! ## Parallel programs -/

section

variable {C : I.Call → I.Call → Prop} {E : Exchange I → Exchange I → Prop}

/-- The programs make calls that are alike, and if the replies are alike as well they go on so. The
states of a loop are related whenever it goes again. -/
inductive Parallel (C : I.Call → I.Call → Prop) (E : Exchange I → Exchange I → Prop) :
    {α α' : Type} → (α → α' → Prop) → Program I α → Program I α' → Prop
  | done {α α' : Type} {R : α → α' → Prop} {a : α} {a' : α'} (h : R a a') :
      Parallel C E R (.done a) (.done a')
  | call {α α' : Type} {R : α → α' → Prop} {c c' : I.Call} {k : I.Reply c → Program I α}
      {k' : I.Reply c' → Program I α'} (like : C c c')
      (rest : ∀ r r', E ⟨c, r⟩ ⟨c', r'⟩ → Parallel C E R (k r) (k' r')) :
      Parallel C E R (.call c k) (.call c' k')
  | loop {α α' σ σ' β β' : Type} {R : α → α' → Prop} {S : σ → σ' → Prop} {T : β → β' → Prop}
      {body : σ → Program I (Next σ β)} {body' : σ' → Program I (Next σ' β')} {s : σ} {s' : σ'}
      {k : β → Program I α} {k' : β' → Program I α'}
      (turn : ∀ s s', S s s' → Parallel C E (Next.Both S T) (body s) (body' s')) (start : S s s')
      (rest : ∀ b b', T b b' → Parallel C E R (k b) (k' b')) :
      Parallel C E R (.loop body s k) (.loop body' s' k')

variable {R : α → α' → Prop} {Q : β → β' → Prop} {S : σ → σ' → Prop}

theorem parallel_pure {a : α} {a' : α'} (h : R a a') :
    Parallel C E R (pure a : Program I α) (pure a' : Program I α') :=
  .done h

theorem parallel_request {c c' : I.Call} (h : C c c') :
    Parallel C E (fun r r' => E ⟨c, r⟩ ⟨c', r'⟩) (request I c) (request I c') :=
  .call h fun _ _ hr => .done hr

theorem Parallel.mono {R' : α → α' → Prop} {p : Program I α} {p' : Program I α'}
    (hp : Parallel C E R p p') (h : ∀ a a', R a a' → R' a a') : Parallel C E R' p p' := by
  induction hp with
  | done ha => exact .done (h _ _ ha)
  | call like _ ih => exact .call like fun r r' hr => ih r r' hr h
  | loop turn start _ _ ih => exact .loop turn start fun b b' hb => ih b b' hb h

theorem parallel_bind {p : Program I α} {p' : Program I α'} {f : α → Program I β}
    {f' : α' → Program I β'} (hp : Parallel C E R p p')
    (hf : ∀ a a', R a a' → Parallel C E Q (f a) (f' a')) :
    Parallel C E Q (p >>= f) (p' >>= f') := by
  induction hp with
  | done ha => exact hf _ _ ha
  | call like _ ih => exact .call like fun r r' hr => ih r r' hr hf
  | loop turn start _ _ ih => exact .loop turn start fun b b' hb => ih b b' hb hf

theorem parallel_iterate {body : σ → Program I (Next σ β)} {body' : σ' → Program I (Next σ' β')}
    (hbody : ∀ s s', S s s' → Parallel C E (Next.Both S Q) (body s) (body' s')) {s : σ} {s' : σ'}
    (hs : S s s') : Parallel C E Q (iterate s body) (iterate s' body') :=
  .loop hbody hs fun _ _ hb => .done hb

theorem both_flip {T : β → β' → Prop} {n : Next σ β} {n' : Next σ' β'}
    (h : Next.Both S T n n') : Next.Both (flip S) (flip T) n' n := by
  cases h with
  | again h => exact .again h
  | finish h => exact .finish h

theorem Parallel.flip {p : Program I α} {p' : Program I α'} (hp : Parallel C E R p p') :
    Parallel (flip C) (flip E) (flip R) p' p := by
  induction hp with
  | done h => exact .done h
  | call like _ ih => exact .call like fun r r' hr => ih r' r hr
  | @loop _ _ _ _ _ _ _ S T _ _ _ _ _ _ _ start _ ihturn ihrest =>
    refine .loop (S := fun s s' => S s' s) (T := fun b b' => T b' b) (fun s s' hs => ?_) start
      fun b b' hb => ihrest b' b hb
    exact (ihturn s' s hs).mono fun n n' hn => both_flip hn

/-- What loops with parallel turns do after a turn. -/
theorem parallel_goOn {T : β → β' → Prop} {body : σ → Program I (Next σ β)}
    {body' : σ' → Program I (Next σ' β')} {k : β → Program I α} {k' : β' → Program I α'}
    (turn : ∀ s s', S s s' → Parallel C E (Next.Both S T) (body s) (body' s'))
    (rest : ∀ b b', T b b' → Parallel C E R (k b) (k' b')) {n : Next σ β} {n' : Next σ' β'}
    (h : Next.Both S T n n') : Parallel C E R (goOn body k n) (goOn body' k' n') := by
  cases h with
  | again hs => exact .loop turn hs rest
  | finish hb => exact rest _ _ hb

/-! ## What parallel programs do -/

/-- The surroundings treat like calls alike, whatever like states they are in. -/
structure Surroundings.Indifferent (C : I.Call → I.Call → Prop)
    (E : Exchange I → Exchange I → Prop) (W : ω → ω' → Prop) (answer : Surroundings I ω)
    (answer' : Surroundings I ω') : Prop where
  reply : ∀ c c' w w', C c c' → W w w' →
    Option.Rel (fun r r' => E ⟨c, r⟩ ⟨c', r'⟩) (answer c w).1 (answer' c' w').1
  state : ∀ c c' w w', C c c' → W w w' → W (answer c w).2 (answer' c' w').2

variable {W : ω → ω' → Prop} {answer : Surroundings I ω} {answer' : Surroundings I ω'}

/-- A call that the one surroundings answer is answered alike by the others. -/
theorem Surroundings.Indifferent.answers (h : Surroundings.Indifferent C E W answer answer')
    {c c' : I.Call} (hc : C c c') {w w₁ : ω} {w' : ω'} (hw : W w w') {r : I.Reply c}
    (hr : answer c w = (some r, w₁)) :
    ∃ r' w₁', answer' c' w' = (some r', w₁') ∧ E ⟨c, r⟩ ⟨c', r'⟩ ∧ W w₁ w₁' := by
  have hreply := h.reply c c' w w' hc hw
  have hstate := h.state c c' w w' hc hw
  rw [hr] at hreply hstate
  rcases hanswer : answer' c' w' with ⟨_ | r', w₁'⟩
  · rw [hanswer] at hreply
    cases hreply
  · rw [hanswer] at hreply hstate
    cases hreply with
    | some hlike => exact ⟨r', w₁', rfl, hlike, hstate⟩

theorem Surroundings.Indifferent.flip (h : Surroundings.Indifferent C E W answer answer') :
    Surroundings.Indifferent (flip C) (flip E) (flip W) answer' answer := by
  constructor
  · intro c c' w w' hc hw
    have hreply := h.reply c' c w' w hc hw
    generalize (answer c' w').1 = r at hreply ⊢
    generalize (answer' c w).1 = r' at hreply ⊢
    cases hreply with
    | some hr => exact .some hr
    | none => exact .none
  · intro c c' w w' hc hw
    exact h.state c' c w' w hc hw

theorem Runs.parallel {p : Program I α} {trace : List (Exchange I)} {a : α} {w w₁ : ω}
    (hruns : Runs p trace a) (hanswered : Answered answer w trace w₁)
    (h : Surroundings.Indifferent C E W answer answer') {w' : ω'} (hw : W w w')
    {p' : Program I α'} (hp : Parallel C E R p p') :
    ∃ trace' a' w₁', Runs p' trace' a' ∧ Answered answer' w' trace' w₁' ∧
      List.Forall₂ E trace trace' ∧ R a a' ∧ W w₁ w₁' := by
  -- On the run: the other program is led through it call by call, and its surroundings with it.
  induction hruns using Runs.by_turns generalizing α' w w₁ w' with
  | done a =>
    cases hp with
    | done ha =>
      cases hanswered
      exact ⟨[], _, w', .done _, .nil w', .nil, ha, hw⟩
  | call r rest ih =>
    cases hp with
    | call like hrest =>
      obtain _ | ⟨this, hanswered⟩ := hanswered
      obtain ⟨r', w₂', hr', hlike, hw₂⟩ := h.answers like hw this
      obtain ⟨trace', a', w₁', hruns', hanswered', htrace, ha, hw₁⟩ :=
        ih hanswered hw₂ (hrest r r' hlike)
      exact ⟨_, a', w₁', .call r' hruns', .cons hr' hanswered', .cons hlike htrace, ha, hw₁⟩
  | loop this rest ihthis ihrest =>
    cases hp with
    | loop turn start hrest =>
      obtain ⟨w₂, hanswers, hanswered⟩ := answered_of_append hanswered
      obtain ⟨turn', n', w₂', hturn', hanswers', hlike, hn, hw₂⟩ :=
        ihthis hanswers hw (turn _ _ start)
      obtain ⟨rest', a', w₁', hruns', hanswered', htrace, ha, hw₁⟩ :=
        ihrest hanswered hw₂ (parallel_goOn turn hrest hn)
      exact ⟨_, a', w₁', runs_loop_turn.mpr ⟨_, _, _, hturn', hruns', rfl⟩,
        hanswers'.append hanswered', List.rel_append hlike htrace, ha, hw₁⟩

theorem Asks.parallel {p : Program I α} {trace : List (Exchange I)} {c : I.Call} {w w₁ : ω}
    (hasks : Asks p trace c) (hanswered : Answered answer w trace w₁)
    (h : Surroundings.Indifferent C E W answer answer') {w' : ω'} (hw : W w w')
    {p' : Program I α'} (hp : Parallel C E R p p') :
    ∃ trace' c' w₁', Asks p' trace' c' ∧ Answered answer' w' trace' w₁' ∧
      List.Forall₂ E trace trace' ∧ C c c' := by
  induction hasks using Asks.by_turns generalizing α' w w' with
  | now =>
    cases hp with
    | call like =>
      cases hanswered
      exact ⟨[], _, w', .now, .nil w', .nil, like⟩
  | later r rest ih =>
    cases hp with
    | call like hrest =>
      obtain _ | ⟨this, hanswered⟩ := hanswered
      obtain ⟨r', w₂', hr', hlike, hw₂⟩ := h.answers like hw this
      obtain ⟨trace', c', w₁', hasks', hanswered', htrace, hc⟩ :=
        ih hanswered hw₂ (hrest r r' hlike)
      exact ⟨_, c', w₁', .later r' hasks', .cons hr' hanswered', .cons hlike htrace, hc⟩
  | within this ih =>
    cases hp with
    | loop turn start hrest =>
      obtain ⟨trace', c', w₁', hasks', hanswered', htrace, hc⟩ := ih hanswered hw (turn _ _ start)
      exact ⟨trace', c', w₁', .within hasks', hanswered', htrace, hc⟩
  | after this rest ih =>
    cases hp with
    | loop turn start hrest =>
      obtain ⟨w₂, hanswers, hanswered⟩ := answered_of_append hanswered
      obtain ⟨turn', n', w₂', hturn', hanswers', hlike, hn, hw₂⟩ :=
        this.parallel hanswers h hw (turn _ _ start)
      obtain ⟨rest', c', w₁', hasks', hanswered', htrace, hc⟩ :=
        ih hanswered hw₂ (parallel_goOn turn hrest hn)
      exact ⟨_, c', w₁', asks_loop_turn.mpr (.inr ⟨_, _, _, hturn', hasks', rfl⟩),
        hanswers'.append hanswered', List.rel_append hlike htrace, hc⟩

/-- Points that are alike. -/
inductive Point.Alike (C : I.Call → I.Call → Prop) (R : α → α' → Prop) :
    Point I α → Point I α' → Prop
  | result {a : α} {a' : α'} (h : R a a') : Alike C R (.result a) (.result a')
  | call {c c' : I.Call} (h : C c c') : Alike C R (.call c) (.call c')

theorem Comes.parallel {p : Program I α} {trace : List (Exchange I)} {o : Point I α} {w w₁ : ω}
    (hcomes : Comes p trace o) (hanswered : Answered answer w trace w₁)
    (h : Surroundings.Indifferent C E W answer answer') {w' : ω'} (hw : W w w')
    {p' : Program I α'} (hp : Parallel C E R p p') :
    ∃ trace' o' w₁', Comes p' trace' o' ∧ Answered answer' w' trace' w₁' ∧
      List.Forall₂ E trace trace' ∧ Point.Alike C R o o' := by
  cases o with
  | result a =>
    obtain ⟨trace', a', w₁', hruns, hanswered', htrace, ha, -⟩ :=
      Runs.parallel hcomes hanswered h hw hp
    exact ⟨trace', .result a', w₁', hruns, hanswered', htrace, .result ha⟩
  | call c =>
    obtain ⟨trace', c', w₁', hasks, hanswered', htrace, hc⟩ :=
      Asks.parallel hcomes hanswered h hw hp
    exact ⟨trace', .call c', w₁', hasks, hanswered', htrace, .call hc⟩

/-- Each in its surroundings, the programs do the same: how far the one comes the other comes as
well (`left`, `right`), and as many calls bring them to points that are alike (`level`). -/
structure Abreast (C : I.Call → I.Call → Prop) (E : Exchange I → Exchange I → Prop)
    (R : α → α' → Prop) (answer : Surroundings I ω) (w : ω) (p : Program I α)
    (answer' : Surroundings I ω') (w' : ω') (p' : Program I α') : Prop where
  left : ∀ {trace o w₁}, Comes p trace o → Answered answer w trace w₁ →
    ∃ trace' o' w₁', Comes p' trace' o' ∧ Answered answer' w' trace' w₁' ∧
      trace.length = trace'.length
  right : ∀ {trace' o' w₁'}, Comes p' trace' o' → Answered answer' w' trace' w₁' →
    ∃ trace o w₁, Comes p trace o ∧ Answered answer w trace w₁ ∧ trace.length = trace'.length
  level : ∀ {trace trace' o o' w₁ w₁'}, Comes p trace o → Answered answer w trace w₁ →
    Comes p' trace' o' → Answered answer' w' trace' w₁' → trace.length = trace'.length →
      List.Forall₂ E trace trace' ∧ Point.Alike C R o o'

theorem Parallel.abreast {p : Program I α} {p' : Program I α'} (hp : Parallel C E R p p')
    (h : Surroundings.Indifferent C E W answer answer') {w : ω} {w' : ω'} (hw : W w w') :
    Abreast C E R answer w p answer' w' p' := by
  constructor
  · intro trace o w₁ hcomes hanswered
    obtain ⟨trace', o', w₁', hcomes', hanswered', htrace, -⟩ := hcomes.parallel hanswered h hw hp
    exact ⟨trace', o', w₁', hcomes', hanswered', htrace.length_eq⟩
  · intro trace' o' w₁' hcomes' hanswered'
    obtain ⟨trace, o, w₁, hcomes, hanswered, htrace, -⟩ :=
      hcomes'.parallel hanswered' h.flip hw hp.flip
    exact ⟨trace, o, w₁, hcomes, hanswered, htrace.length_eq.symm⟩
  · intro trace trace' o o' w₁ w₁' hcomes hanswered hcomes' hanswered' hlength
    -- The other program does something that is alike, and that is all that it does.
    obtain ⟨trace₂, o₂, w₂, hcomes₂, hanswered₂, htrace, ho⟩ := hcomes.parallel hanswered h hw hp
    have hlength₂ : trace₂.length = trace'.length := htrace.length_eq.symm.trans hlength
    obtain ⟨rfl, rfl⟩ := hcomes₂.unique hanswered₂ hcomes' hanswered' hlength₂
    exact ⟨htrace, ho⟩

end

end Program

end UpdateAgent
