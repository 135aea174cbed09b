import Tutoring.Program

/-!
# Logs and contracts of programs

A program meets whatever its collaborators answer, so what holds of it is said over its log: the
calls it has made, each with its reply, the latest one first.

* `Program.After`: the program that is left once a log has been gone through.
* `Program.Meets`: a program keeps to a contract. It makes a call only where the contract allows
  the call after the log so far, and it ends as the contract says, provided that the replies are
  such as the contract lets it rely on. The definition follows the tree of calls, so a contract of
  a whole task is put together from those of its steps (`Task.meets_bind`).
* `Program.After.meets`: a contract that holds at the start holds of every program that is left.
-/

namespace Tutoring

/-- A call with the reply that it got. -/
structure Event where
  call : Call
  reply : call.Reply

/-- The calls made so far, the latest one first. -/
abbrev Log := List Event

/-- A failure tells which one it is. -/
theorem Call.failed?_injective {c : Call} {f f' : Failure} {r : c.Reply} (h : c.failed? f = some r)
    (h' : c.failed? f' = some r) : f' = f := by
  cases c with
  | issueCredential => cases h
  | _ => exact Except.error.inj (Option.some.inj (h'.trans h.symm))

/-- What a program relies on, and what it keeps to in return. -/
structure Contract where
  /-- The replies that may come. -/
  rely : Event → Prop
  /-- The calls that may be made after a log. -/
  guar : Log → Call → Prop

/-- Every reply of the log is one that may come. -/
def Contract.Relied (K : Contract) (log : Log) : Prop := ∀ e ∈ log, K.rely e

namespace Program

variable {α β : Type} {K K' : Contract} {Q Q' : Log → α → Prop} {p q : Program α} {log : Log}

/-- `p.After log q`: with the replies of the log, the program `p` has come to go on as `q`. -/
inductive After (p : Program α) : Log → Program α → Prop
  | start : After p [] p
  | reply {log : Log} {c : Call} {next : c.Reply → Program α} (r : c.Reply)
      (h : After p log (.call c next)) : After p (⟨c, r⟩ :: log) (next r)

/-- The calls of a program are as the contract allows after the log, and it ends as wanted. -/
def Meets (K : Contract) (Q : Log → α → Prop) : Program α → Log → Prop
  | .done a, log => Q log a
  | .call c next, log =>
    K.guar log c ∧ ∀ r, K.rely ⟨c, r⟩ → (next r).Meets K Q (⟨c, r⟩ :: log)

@[simp] theorem meets_call {c : Call} {next : c.Reply → Program α} :
    (call c next).Meets K Q log ↔
      K.guar log c ∧ ∀ r, K.rely ⟨c, r⟩ → (next r).Meets K Q (⟨c, r⟩ :: log) := Iff.rfl

/-- The first part of a program has to end where the second part can go on. -/
theorem meets_bind {f : α → Program β} {R : Log → β → Prop} :
    (p >>= f).Meets K R log ↔ p.Meets K (fun log a => (f a).Meets K R log) log := by
  induction p generalizing log with
  | done a => rfl
  | call c next ih =>
    rw [call_bind, meets_call, meets_call]
    exact and_congr_right fun _ => forall_congr' fun r => imp_congr_right fun _ => ih r

/-- A contract may be weakened: rely on less, allow more, want less in the end. -/
theorem Meets.mono (h : p.Meets K Q log) (rely : ∀ e, K'.rely e → K.rely e)
    (guar : ∀ log c, K.guar log c → K'.guar log c) (post : ∀ log a, Q log a → Q' log a) :
    p.Meets K' Q' log := by
  induction p generalizing log with
  | done a => exact post log a h
  | call c next ih =>
    obtain ⟨hc, hr⟩ := h
    exact ⟨guar log c hc, fun r he => ih r (hr r (rely _ he))⟩

theorem meets_congr (h : ∀ log a, Q log a ↔ Q' log a) :
    p.Meets K Q log ↔ p.Meets K Q' log := by
  rw [show Q = Q' from funext fun log => funext fun a => propext (h log a)]

/-- Two contracts that a program keeps to may be relied on together. -/
theorem Meets.both (h : p.Meets K Q log) (h' : p.Meets K' Q' log) :
    p.Meets ⟨fun e => K.rely e ∧ K'.rely e, fun log c => K.guar log c ∧ K'.guar log c⟩
      (fun log a => Q log a ∧ Q' log a) log := by
  induction p generalizing log with
  | done a => exact ⟨h, h'⟩
  | call c next ih =>
    exact ⟨⟨h.1, h'.1⟩, fun r he => ih r (h.2 r he.1) (h'.2 r he.2)⟩

/-- A program that keeps to a contract still does so when it has come some way. -/
theorem After.meets (h : p.After log q) (spec : p.Meets K Q []) (relied : K.Relied log) :
    q.Meets K Q log := by
  induction h with
  | start => exact spec
  | reply r _ ih =>
    obtain ⟨he, hlog⟩ := List.forall_mem_cons.1 relied
    exact (ih hlog).2 r he

/-- Every call of a log was allowed when it was made. -/
theorem After.allowed (h : p.After log q) (spec : p.Meets K Q []) (relied : K.Relied log) :
    ∀ e ∈ log, ∃ earlier, K.guar earlier e.call := by
  induction h with
  | start => exact fun _ he => nomatch he
  | @reply log c next r before ih =>
    obtain ⟨_, hlog⟩ := List.forall_mem_cons.1 relied
    exact List.forall_mem_cons.2 ⟨⟨log, (before.meets spec hlog).1⟩, ih hlog⟩

theorem After.guar {c : Call} {next : c.Reply → Program α} (h : p.After log (.call c next))
    (spec : p.Meets K Q []) (relied : K.Relied log) : K.guar log c :=
  (h.meets spec relied).1

theorem After.post {a : α} (h : p.After log (.done a)) (spec : p.Meets K Q [])
    (relied : K.Relied log) : Q log a :=
  h.meets spec relied

/-- What every allowed call keeps holds of every log. -/
theorem After.invariant {I : Log → Prop} (h : p.After log q) (spec : p.Meets K Q [])
    (relied : K.Relied log) (start : I [])
    (step : ∀ log e, I log → K.guar log e.call → K.rely e → I (e :: log)) : I log := by
  induction h with
  | start => exact start
  | @reply log c next r before ih =>
    obtain ⟨he, hlog⟩ := List.forall_mem_cons.1 relied
    exact step log ⟨c, r⟩ (ih hlog) (before.guar spec hlog) he

/-- What every allowed call keeps holds at every call, and in the end. -/
theorem Meets.keeping {I : Log → Prop} (h : p.Meets K Q log) (start : I log)
    (step : ∀ log e, I log → K.guar log e.call → K.rely e → I (e :: log)) :
    p.Meets ⟨K.rely, fun log c => K.guar log c ∧ I log⟩ (fun log a => Q log a ∧ I log) log := by
  induction p generalizing log with
  | done a => exact ⟨h, start⟩
  | call c next ih =>
    obtain ⟨allowed, rest⟩ := h
    exact ⟨⟨allowed, start⟩, fun r he => ih r (rest r he) (step log _ start allowed he)⟩

/-- Every call of a log was once the next one to be made. -/
theorem After.pending {newer older : Log} {e : Event} (h : p.After (newer ++ e :: older) q) :
    ∃ next : e.call.Reply → Program α, p.After older (.call e.call next) := by
  induction newer generalizing q with
  | nil =>
    cases h with
    | reply _ before => exact ⟨_, before⟩
  | cons _ newer ih =>
    cases h with
    | reply _ before => exact ih before

/-- The log tells how a program goes on. -/
theorem After.unique {q' : Program α} (h : p.After log q) (h' : p.After log q') : q = q' := by
  induction h generalizing q' with
  | start =>
    cases h'
    rfl
  | reply r _ ih =>
    cases h' with
    | reply _ h₁ =>
      cases ih h₁
      rfl

end Program

/-! ## Tasks -/

namespace Task

variable {ε ε' α β : Type} {K : Contract} {Q : Log → α → Prop} {E : Log → ε → Prop} {log : Log}

/-- How a task may end: with a value or with an error. -/
def Ends (Q : Log → α → Prop) (E : Log → ε → Prop) (log : Log) : Except ε α → Prop
  | .ok a => Q log a
  | .error e => E log e

/-- A task keeps to a contract; `Q` is wanted of its value and `E` of its error. -/
def Meets (K : Contract) (t : Task ε α) (Q : Log → α → Prop) (E : Log → ε → Prop) (log : Log) :
    Prop :=
  Program.Meets K (Ends Q E) t.run log

@[simp] theorem meets_pure (a : α) : Meets K (pure a : Task ε α) Q E log ↔ Q log a := Iff.rfl

@[simp] theorem meets_throw (e : ε) : Meets K (throw e : Task ε α) Q E log ↔ E log e := Iff.rfl

@[simp] theorem meets_bind {t : Task ε α} {f : α → Task ε β} {R : Log → β → Prop} :
    Meets K (t >>= f) R E log ↔ Meets K t (fun log a => Meets K (f a) R E log) E log := by
  unfold Meets
  rw [ExceptT.run_bind, Program.meets_bind]
  refine Program.meets_congr fun log r => ?_
  cases r <;> rfl

@[simp] theorem meets_map {t : Task ε α} {f : α → β} {R : Log → β → Prop} :
    Meets K (f <$> t) R E log ↔ Meets K t (fun log a => R log (f a)) E log := by
  rw [map_eq_pure_bind, meets_bind]
  rfl

/-- One call, whose reply is the latest one afterwards. -/
@[simp] theorem meets_ask {c : Call} {wrap : c.Error → ε} {Q : Log → c.Answer → Prop} :
    @Meets ε (no_index c.Answer) K (ask c wrap) Q E log ↔
      K.guar log c ∧ (∀ a, K.rely ⟨c, .ok a⟩ → Q (⟨c, .ok a⟩ :: log) a) ∧
        ∀ e, K.rely ⟨c, .error e⟩ → E (⟨c, .error e⟩ :: log) (wrap e) := by
  refine and_congr_right fun _ => ⟨fun h => ⟨fun a => h (.ok a), fun e => h (.error e)⟩, ?_⟩
  rintro ⟨hok, herror⟩ (e | a)
  · exact herror e
  · exact hok a

@[simp] theorem meets_demand {e : ε} {o : Option α} :
    Meets K (demand e o) Q E log ↔ (∀ a, o = some a → Q log a) ∧ (o = none → E log e) := by
  cases o <;> simp [demand]

@[simp] theorem meets_check {r : Except ε α} :
    Meets K (check r) Q E log ↔ (∀ a, r = .ok a → Q log a) ∧ ∀ e, r = .error e → E log e := by
  show Ends Q E log r ↔ _
  cases r <;> simp [Ends]

theorem check_bind_of_ok {r : Except ε α} {a : α} (h : r = .ok a) (f : α → Task ε β) :
    check r >>= f = f a := by
  rw [h]
  rfl

@[simp] theorem meets_ite {c : Prop} [Decidable c] {t u : Task ε α} :
    Meets K (if c then t else u) Q E log ↔
      (c → Meets K t Q E log) ∧ (¬c → Meets K u Q E log) := by
  by_cases h : c <;> simp [h]

@[simp] theorem meets_adapt {f : ε → ε'} {t : Task ε α} {E' : Log → ε' → Prop} :
    Meets K (ExceptT.adapt f t : Task ε' α) Q E' log ↔
      Meets K t Q (fun log e => E' log (f e)) log := by
  have split : (ExceptT.adapt f t : Task ε' α).run = t.run >>= fun r => pure (r.mapError f) := rfl
  unfold Meets
  rw [split, Program.meets_bind]
  refine Program.meets_congr fun log r => ?_
  cases r <;> rfl

theorem Meets.mono {K' : Contract} {t : Task ε α} {Q' : Log → α → Prop} {E' : Log → ε → Prop}
    (h : Meets K t Q E log) (rely : ∀ e, K'.rely e → K.rely e)
    (guar : ∀ log c, K.guar log c → K'.guar log c) (ok : ∀ log a, Q log a → Q' log a)
    (error : ∀ log e, E log e → E' log e) : Meets K' t Q' E' log := by
  refine Program.Meets.mono h rely guar ?_
  rintro log (e | a) hr
  · exact error log e hr
  · exact ok log a hr

theorem Meets.both {K' : Contract} {t : Task ε α} {Q' : Log → α → Prop} {E' : Log → ε → Prop}
    (h : Meets K t Q E log) (h' : Meets K' t Q' E' log) :
    Meets ⟨fun e => K.rely e ∧ K'.rely e, fun log c => K.guar log c ∧ K'.guar log c⟩ t
      (fun log a => Q log a ∧ Q' log a) (fun log e => E log e ∧ E' log e) log := by
  refine Program.Meets.mono (Program.Meets.both h h') (fun _ he => he) (fun _ _ hc => hc) ?_
  rintro log (e | a) hr
  · exact hr
  · exact hr

/-- What the calls of a task keep to, however it ends. -/
theorem Meets.calls {K' : Contract} {t : Task ε α} (h : Meets K t Q E log)
    (rely : ∀ e, K'.rely e → K.rely e) (guar : ∀ log c, K.guar log c → K'.guar log c) :
    Program.Meets K' (fun _ _ => True) t.run log :=
  Program.Meets.mono h rely guar fun _ _ _ => trivial

end Task

end Tutoring
