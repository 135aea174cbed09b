import Tutoring.Database
import Tutoring.Proofs.Contract

/-!
# Runs against a scripted database

What a program does where its stores are a database whose outcomes are laid down.

* `Program.runOn`: a run on collaborators that may leave a call without a reply.
* `Script.run`: the result, if there is one, and the script afterwards.
* `Script.calls`: the calls that reach the database, in their order.
* `Script.sent_run`: for each of these calls one statement is sent, the one of the call.
* `Program.Meets.run`: a program that keeps to a contract ends as the contract says, after a log
  whose replies were read from the outcomes.
-/

namespace Tutoring

namespace Program

section RunOn

variable {α σ : Type} {reply : (c : Call) → OptionT (StateM σ) c.Reply} {x y : σ} {c : Call}
  {next : c.Reply → Program α}

/-- Runs a program on collaborators that may leave a call without a reply. Then there is no
result. -/
def runOn (reply : (c : Call) → OptionT (StateM σ) c.Reply) (x : σ) (p : Program α) :
    Option α × σ :=
  p.interpret reply x

@[simp] theorem runOn_done (a : α) : (done a).runOn reply x = (some a, x) := rfl

theorem runOn_answered {r : c.Reply} (h : reply c x = (some r, y)) :
    (call c next).runOn reply x = (next r).runOn reply y := by
  simp only [runOn, interpret, Bind.bind, OptionT.bind, OptionT.mk, StateT.bind, h]

theorem runOn_unanswered (h : reply c x = (none, y)) :
    (call c next).runOn reply x = (none, y) := by
  simp only [runOn, interpret, Bind.bind, OptionT.bind, OptionT.mk, StateT.bind, h]
  rfl

end RunOn

end Program

namespace Database

/-- The reply to a call of a store, read from the outcome of its statement. -/
def reply? (c : Call) (o : Outcome) : Option c.Reply :=
  match answer c o with
  | some (.ok a) => some (.ok a)
  | some (.error .unknownTime) => none
  | some (.error f) => c.failed? (failure c f)
  | none => none

section Reply

variable {c : Call} {q : Statement} {o : Outcome}

/-- Every outcome of a statement is an answer or a fault. -/
theorem answer_store (store : statement? c = some q) (o : Outcome) : ∃ x, answer c o = some x := by
  cases c with
  | issueCredential => cases store
  | _ => exact ⟨_, rfl⟩

theorem failed?_store (store : statement? c = some q) (f : Failure) :
    ∃ e, c.failed? f = some (.error e) := by
  cases c with
  | issueCredential => cases store
  | _ => exact ⟨_, rfl⟩

/-- Only a call of a store is answered by an outcome. -/
theorem store_of_answer {x : Reading c.Answer} (h : answer c o = some x) :
    ∃ q, statement? c = some q := by
  cases c with
  | issueCredential => cases h
  | _ => exact ⟨_, rfl⟩

theorem store_of_failed? {f : Failure} {r : c.Reply} (h : c.failed? f = some r) :
    ∃ q, statement? c = some q := by
  cases c with
  | issueCredential => cases h
  | _ => exact ⟨_, rfl⟩

theorem reply?_of_ok {a : c.Answer} (h : answer c o = some (.ok a)) :
    reply? c o = some (.ok a) := by
  unfold reply?
  rw [h]

/-- A time that the calendar does not have is no reply at all. -/
theorem reply?_of_unknownTime (h : answer c o = some (.error .unknownTime)) :
    reply? c o = none := by
  unfold reply?
  rw [h]

/-- A fault that is reported becomes the failure of the call. -/
theorem reply?_of_fault {f : Fault} (h : answer c o = some (.error f))
    (reported : f ≠ .unknownTime) : reply? c o = c.failed? (failure c f) := by
  unfold reply?
  rw [h]
  cases f with
  | unknownTime => exact absurd rfl reported
  | _ => rfl

end Reply

namespace Script

/-- The outcome at a position. Where none is laid down, the statement is refused. -/
def outcome (s : Script) (k : Nat) : Outcome :=
  s.outcomes.getD k (.refused "no outcome laid down")

variable {α : Type} {s : Script} {now : Timestamp} {c : Call} {q : Statement}

theorem outcome_zero (s : Script) : s.outcome 0 = s.next := by
  unfold outcome next
  cases s.outcomes <;> rfl

@[simp] theorem outcome_advance (s : Script) (q : Statement) (k : Nat) :
    (s.advance q).outcome k = s.outcome (k + 1) := by
  unfold outcome advance
  cases s.outcomes <;> rfl

@[simp] theorem sent_advance : (s.advance q).sent = s.sent ++ [q] := rfl

@[simp] theorem meetings_advance : (s.advance q).meetings = s.meetings := rfl

/-- A call of a store takes one outcome, and its statement is sent. -/
theorem reply_statement (now : Timestamp) (s : Script) (h : statement? c = some q) :
    reply now c s = (reply? c s.next, s.advance q) := by
  obtain ⟨x, hx⟩ := answer_store h s.next
  unfold reply?
  cases c with
  | issueCredential => cases h
  | _ =>
    simp only [reply, h, hx]
    obtain f | a := x
    · cases f <;> rfl
    · rfl

/-- A call without a statement goes to the provider of meetings, whatever the database is. -/
theorem reply_meeting (now : Timestamp) (m : Meetings) (h : statement? c = none) :
    ∃ r? m', ∀ s : Script, s.meetings = m → reply now c s = (r?, { s with meetings := m' }) := by
  cases c with
  | issueCredential room identity =>
    refine ⟨(m.grant now room identity).1, (m.grant now room identity).2, ?_⟩
    rintro s rfl
    rfl
  | _ => cases h

/-- Runs a program. There is no result where a point in time would be needed that the calendar does
not have. -/
def run (now : Timestamp) (s : Script) (p : Program α) : Option α × Script :=
  p.runOn (reply now) s

/-- The calls that reach the database, in their order. -/
def calls (now : Timestamp) (s : Script) : Program α → List Call
  | .done _ => []
  | .call c next =>
    let later := match reply now c s with
      | (some r, t) => calls now t (next r)
      | (none, _) => []
    if (statement? c).isSome then c :: later else later

section Call

variable {next : c.Reply → Program α} {r : c.Reply} {t : Script}

@[simp] theorem run_done (a : α) : s.run now (.done a) = (some a, s) := rfl

theorem run_answered (h : reply now c s = (some r, t)) :
    s.run now (.call c next) = t.run now (next r) := Program.runOn_answered h

theorem run_unanswered (h : reply now c s = (none, t)) :
    s.run now (.call c next) = (none, t) := Program.runOn_unanswered h

@[simp] theorem calls_done (a : α) : s.calls now (.done a) = [] := rfl

/-- The first call, whatever comes of it. -/
theorem calls_statement (h : statement? c = some q) :
    (s.calls now (.call c next))[0]? = some c := by
  simp only [calls, h, Option.isSome_some, if_true]
  rfl

/-- A call of a store takes one outcome, and what follows the others. -/
theorem calls_answered (h : statement? c = some q) (read : reply? c s.next = some r) :
    s.calls now (.call c next) = c :: (s.advance q).calls now (next r) := by
  simp only [calls, reply_statement now s h, read, h, Option.isSome_some, if_true]

/-- Nothing follows a call that gets no reply. -/
theorem calls_unanswered (h : statement? c = some q) (read : reply? c s.next = none) :
    s.calls now (.call c next) = [c] := by
  simp only [calls, reply_statement now s h, read, h, Option.isSome_some, if_true]

/-- A call of the provider of meetings takes no outcome. -/
theorem calls_granted (h : statement? c = none) (replied : reply now c s = (some r, t)) :
    s.calls now (.call c next) = t.calls now (next r) := by
  simp [calls, replied, h]

theorem calls_ungranted (h : statement? c = none) (replied : reply now c s = (none, t)) :
    s.calls now (.call c next) = [] := by
  simp [calls, replied, h]

end Call

/-- **One statement is sent for each call of a store**, in the order of the calls, with the
arguments of the call as its parameters. -/
theorem sent_run (now : Timestamp) (s : Script) (p : Program α) :
    (s.run now p).2.sent = s.sent ++ (s.calls now p).filterMap statement? := by
  induction p generalizing s with
  | done a => simp
  | call c next ih =>
    cases h : statement? c with
    | some q =>
      have replied := reply_statement now s h
      cases read : reply? c s.next with
      | some r =>
        rw [read] at replied
        rw [run_answered replied, calls_answered h read, List.filterMap_cons_some h, ih]
        simp
      | none =>
        rw [read] at replied
        rw [run_unanswered replied, calls_unanswered h read, List.filterMap_cons_some h]
        rfl
    | none =>
      obtain ⟨r?, m, grants⟩ := reply_meeting now s.meetings h
      have replied := grants s rfl
      cases r? with
      | some r => rw [run_answered replied, calls_granted h replied, ih]
      | none =>
        rw [run_unanswered replied, calls_ungranted h replied]
        simp

end Script

end Database

open Database

/-- A program that keeps to a contract ends as the contract says, when the contract lets it rely on
every reply that can be read from an outcome. -/
theorem Program.Meets.run {α : Type} {K : Contract} {Q : Log → α → Prop} {p : Program α}
    {log : Log} {now : Timestamp} {s : Script} {a : α} (h : p.Meets K Q log)
    (stores : ∀ c o r, reply? c o = some r → K.rely ⟨c, r⟩)
    (meetings : ∀ c r, statement? c = none → K.rely ⟨c, r⟩)
    (ends : (s.run now p).1 = some a) :
    ∃ log', Q log' a ∧ log <:+ log' ∧ ∀ k c, (s.calls now p)[k]? = some c →
      ∃ r, ⟨c, r⟩ ∈ log' ∧ reply? c (s.outcome k) = some r := by
  induction p generalizing s log with
  | done b =>
    obtain rfl := Option.some.inj ends
    exact ⟨log, h, List.suffix_refl log, fun k c found => by simp at found⟩
  | call c next ih =>
    obtain ⟨-, rest⟩ := h
    cases statement : statement? c with
    | some q =>
      have replied := Script.reply_statement now s statement
      cases read : reply? c s.next with
      | none =>
        rw [read] at replied
        rw [Script.run_unanswered replied] at ends
        cases ends
      | some r =>
        rw [read] at replied
        rw [Script.run_answered replied] at ends
        obtain ⟨log', post, old, later⟩ := ih r (rest r (stores _ _ _ read)) ends
        refine ⟨log', post, (List.suffix_cons _ _).trans old, ?_⟩
        rw [Script.calls_answered statement read]
        intro k c' found
        cases k with
        | zero =>
          obtain rfl := Option.some.inj found
          exact ⟨r, old.subset List.mem_cons_self, by rw [Script.outcome_zero, read]⟩
        | succ k =>
          rw [← Script.outcome_advance s q]
          exact later k c' found
    | none =>
      obtain ⟨r?, m, grants⟩ := Script.reply_meeting now s.meetings statement
      have replied := grants s rfl
      cases r? with
      | none =>
        rw [Script.run_unanswered replied] at ends
        cases ends
      | some r =>
        rw [Script.run_answered replied] at ends
        obtain ⟨log', post, old, later⟩ := ih r (rest r (meetings _ _ statement)) ends
        rw [Script.calls_granted statement replied]
        exact ⟨log', post, (List.suffix_cons _ _).trans old, later⟩

end Tutoring
