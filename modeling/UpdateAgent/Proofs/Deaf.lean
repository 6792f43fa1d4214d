import UpdateAgent.Proofs.Program

/-!
# Programs that go on from a reply as if it had not come

A program is deaf to some replies if they leave it where it was, so that it makes the same call
again. It can get such a reply only at the head of a loop that goes again with the same state
(`Deaf`), so a program is deaf part by part. Whatever follows such a reply then follows without it
as well (`Deaf.vain`).
-/

namespace UpdateAgent.Program

variable {I : Interface} {α β σ : Type} {Makes : I.Call → Prop} {Vain : Exchange I → Prop}

/-! ## Programs that do the same -/

/-- The programs make the same calls, after the same replies, and have the same results. -/
structure Agree (p q : Program I α) : Prop where
  runs : ∀ trace a, Runs p trace a ↔ Runs q trace a
  asks : ∀ trace c, Asks p trace c ↔ Asks q trace c

theorem Agree.refl (p : Program I α) : Agree p p :=
  ⟨fun _ _ => Iff.rfl, fun _ _ => Iff.rfl⟩

theorem runs_call_cons {c : I.Call} {k : I.Reply c → Program I α} {r : I.Reply c}
    {trace : List (Exchange I)} {a : α} :
    Runs (call c k) (⟨c, r⟩ :: trace) a ↔ Runs (k r) trace a := by
  constructor
  · intro h
    cases h with
    | call r rest => exact rest
  · exact .call r

theorem asks_call_cons {c c' : I.Call} {k : I.Reply c → Program I α} {r : I.Reply c}
    {trace : List (Exchange I)} :
    Asks (call c k) (⟨c, r⟩ :: trace) c' ↔ Asks (k r) trace c' := by
  constructor
  · intro h
    cases h with
    | later r rest => exact rest
  · exact .later r

/-- A loop does its first turn and then goes on. -/
theorem agree_loop (body : σ → Program I (Next σ β)) (s : σ) (k : β → Program I α) :
    Agree (loop body s k) (body s >>= goOn body k) := by
  constructor
  · intro trace a
    rw [runs_loop_turn, runs_bind]
  · intro trace c
    rw [asks_loop_turn, asks_bind]

/-! ## Deaf programs -/

/-- The program makes only such calls, and gets a reply that is in vain only where a loop goes again
after it as if nothing had happened. -/
inductive Deaf (Makes : I.Call → Prop) (Vain : Exchange I → Prop) :
    {α : Type} → Program I α → Prop
  | done {α : Type} (a : α) : Deaf Makes Vain (.done a)
  | call {α : Type} {c : I.Call} {k : I.Reply c → Program I α} (makes : Makes c)
      (heeds : ∀ r, ¬ Vain ⟨c, r⟩) (rest : ∀ r, Deaf Makes Vain (k r)) :
      Deaf Makes Vain (.call c k)
  | loop {α σ β : Type} {body : σ → Program I (Next σ β)} {s : σ} {k : β → Program I α}
      {c : σ → I.Call} {f : (s : σ) → I.Reply (c s) → Program I (Next σ β)}
      (head : ∀ s, body s = .call (c s) (f s)) (makes : ∀ s, Makes (c s))
      (again : ∀ s r, Vain ⟨c s, r⟩ → f s r = .done (.again s))
      (turn : ∀ s r, Deaf Makes Vain (f s r)) (rest : ∀ b, Deaf Makes Vain (k b)) :
      Deaf Makes Vain (.loop body s k)

theorem deaf_pure (a : α) : Deaf Makes Vain (pure a : Program I α) :=
  .done a

theorem deaf_request {c : I.Call} (hmakes : Makes c) (hheeds : ∀ r, ¬ Vain ⟨c, r⟩) :
    Deaf Makes Vain (request I c) :=
  .call hmakes hheeds fun r => .done r

theorem deaf_bind {p : Program I α} {f : α → Program I β} (hp : Deaf Makes Vain p)
    (hf : ∀ a, Deaf Makes Vain (f a)) : Deaf Makes Vain (p >>= f) := by
  induction hp with
  | done a => exact hf a
  | call makes heeds _ ih => exact .call makes heeds fun r => ih r hf
  | loop head makes again turn _ _ ih => exact .loop head makes again turn fun b => ih b hf

theorem deaf_discard {p : Program I α} (hp : Deaf Makes Vain p) :
    Deaf Makes Vain (discard p : Program I Unit) :=
  deaf_bind hp fun _ => deaf_pure ()

/-- A loop is deaf whose turns begin with a call and go again after a reply in vain. -/
theorem deaf_iterate {body : σ → Program I (Next σ β)} {c : σ → I.Call}
    {f : (s : σ) → I.Reply (c s) → Program I (Next σ β)}
    (hbody : ∀ s, body s = request I (c s) >>= f s) (hmakes : ∀ s, Makes (c s))
    (hagain : ∀ s r, Vain ⟨c s, r⟩ → f s r = pure (.again s))
    (hturn : ∀ s r, Deaf Makes Vain (f s r)) (s : σ) : Deaf Makes Vain (iterate s body) :=
  .loop hbody hmakes hagain hturn fun b => .done b

/-- So is one whose turns are deaf themselves, if each begins with a call. -/
theorem deaf_iterate_of_call {body : σ → Program I (Next σ β)}
    (hcall : ∀ s, ∃ c k, body s = call c k) (hbody : ∀ s, Deaf Makes Vain (body s)) (s : σ) :
    Deaf Makes Vain (iterate s body) := by
  choose c f hhead using hcall
  have hturn : ∀ s, Makes (c s) ∧ (∀ r, ¬ Vain ⟨c s, r⟩) ∧ ∀ r, Deaf Makes Vain (f s r) := by
    intro s
    have h := hbody s
    rw [hhead s] at h
    cases h with
    | call makes heeds rest => exact ⟨makes, heeds, rest⟩
  exact deaf_iterate hhead (fun s => (hturn s).1) (fun s r hr => absurd hr ((hturn s).2.1 r))
    (fun s => (hturn s).2.2) s

/-! ## What a deaf program does -/

/-- A deaf program makes no call, or one after which it is deaf again, and after a reply in vain to
which it does what it would have done. -/
theorem Deaf.first {p : Program I α} (hp : Deaf Makes Vain p) :
    (∃ a, p = Program.done a) ∨ ∃ c k, Agree p (Program.call c k) ∧ Makes c ∧
      (∀ r, Deaf Makes Vain (k r)) ∧ ∀ r, Vain ⟨c, r⟩ → Agree (k r) p := by
  cases hp with
  | done a => exact .inl ⟨a, rfl⟩
  | call makes heeds rest =>
    exact .inr ⟨_, _, .refl _, makes, rest, fun r hr => absurd hr (heeds r)⟩
  | @loop _ _ _ body s k c f head makes again turn rest =>
    have hagree := agree_loop body s k
    rw [head s] at hagree
    refine .inr ⟨c s, fun r => f s r >>= goOn body k, hagree, makes s, ?_, ?_⟩
    · intro r
      refine deaf_bind (turn s r) ?_
      intro n
      cases n with
      | again s' => exact .loop head makes again turn rest
      | finish b => exact rest b
    · intro r hr
      show Agree (f s r >>= goOn body k) (.loop body s k)
      rw [again s r hr]
      exact .refl _

/-- Every call of a deaf program is one that it may make. -/
theorem Deaf.makes {p : Program I α} (hp : Deaf Makes Vain p) {trace : List (Exchange I)}
    {c : I.Call} (h : Asks p trace c) : Makes c := by
  induction trace generalizing p with
  | nil =>
    rcases hp.first with ⟨a, rfl⟩ | ⟨c', k, hagree, hmakes, -, -⟩
    · cases h
    · cases (hagree.asks _ _).mp h
      exact hmakes
  | cons e trace ih =>
    rcases hp.first with ⟨a, rfl⟩ | ⟨c', k, hagree, -, hrest, -⟩
    · cases h
    · cases (hagree.asks _ _).mp h with
      | later r h => exact ih (hrest r) h

/-- What comes after a reply in vain comes without it as well. -/
theorem Deaf.vain {p : Program I α} (hp : Deaf Makes Vain p) {before : List (Exchange I)}
    {e : Exchange I} (hasks : Asks p before e.call) (he : Vain e) :
    (∀ rest a, Runs p (before ++ e :: rest) a ↔ Runs p (before ++ rest) a) ∧
      ∀ rest c, Asks p (before ++ e :: rest) c ↔ Asks p (before ++ rest) c := by
  -- On the calls before the reply, each of which leads to a deaf program.
  induction before generalizing p with
  | nil =>
    rcases hp.first with ⟨a, rfl⟩ | ⟨c, k, hagree, -, -, hvain⟩
    · cases hasks
    · obtain ⟨c', r⟩ := e
      cases (hagree.asks _ _).mp hasks
      have hsame := hvain r he
      constructor
      · intro rest a
        rw [List.nil_append, List.nil_append, hagree.runs, runs_call_cons, hsame.runs]
      · intro rest c'
        rw [List.nil_append, List.nil_append, hagree.asks, asks_call_cons, hsame.asks]
  | cons e' before ih =>
    rcases hp.first with ⟨a, rfl⟩ | ⟨c, k, hagree, -, hrest, -⟩
    · cases hasks
    · cases (hagree.asks _ _).mp hasks with
      | later r hasks =>
        obtain ⟨hruns, hafter⟩ := ih (hrest r) hasks
        constructor
        · intro rest a
          rw [List.cons_append, List.cons_append, hagree.runs, hagree.runs, runs_call_cons,
            runs_call_cons, hruns]
        · intro rest c'
          rw [List.cons_append, List.cons_append, hagree.asks, hagree.asks, asks_call_cons,
            asks_call_cons, hafter]

end UpdateAgent.Program
