import Mathlib.Data.List.Forall2
import Tutoring.Proofs.Faults
import Tutoring.Proofs.Likeness

/-!
# Failures of the database are not told

Over a database, whatever a statement fails with and however an unknown name is spelled stays on the
server.

* `Database.Agree`: outcomes of a statement that are the same up to the text of a refusal and the
  spelling of unknown names.
* `Database.reply_masked`: such outcomes are read alike.
* `Program.Alike.run`: on such outcomes the runs of two programs that are alike are alike.
* `Http.database_failures_are_masked`: the same statements are sent, and the response is the same;
  if a statement fails, it is always the same one.
-/

namespace Tutoring

/-! ## Outcomes that differ in what is masked -/

namespace Database

/-- The column of a name in the rows of a call, and whether a text is a known name. -/
def names? : Call → Option (Nat × (String → Bool))
  | .findMachineByName _ | .findMachine _ => some (1, fun s => (MachineName.ofText? s).isSome)
  | .findMachineState _ _ | .nextStates _ _ => some (1, fun s => (StateName.ofText? s).isSome)
  | .findItem _ => some (3, fun s => (StateName.ofText? s).isSome)
  | _ => none

/-- The rows have the same cells, up to the spelling of an unknown name. -/
def Row.Agrees (names? : Option (Nat × (String → Bool))) (row row' : Row) : Prop :=
  ∀ n, row'[n]? = row[n]? ∨ ∃ known s s', names? = some (n, known) ∧
    row[n]? = some (.text s) ∧ row'[n]? = some (.text s') ∧ known s = false ∧ known s' = false

/-- The outcomes are the same, up to the text of a refusal and the spelling of unknown names. -/
inductive Outcome.Agrees (names? : Option (Nat × (String → Bool))) : Outcome → Outcome → Prop
  | rows {rs rs' : List Row} (h : List.Forall₂ (Row.Agrees names?) rs rs') :
      Agrees names? (.rows rs) (.rows rs')
  | affected (count : Nat) : Agrees names? (.affected count) (.affected count)
  | refused (text text' : String) : Agrees names? (.refused text) (.refused text')

/-- Two outcomes of the statement of a call agree. What undoes a booking may have any outcome. -/
def Agree (c : Call) (o o' : Outcome) : Prop := c.undoes = true ∨ Outcome.Agrees (names? c) o o'

/-- What two readings have in common: both are values that are related, or both are faults that can
be reported, or neither of them can. -/
inductive Reading.Alike {α α' : Type} (Q : α → α' → Prop) : Reading α → Reading α' → Prop
  | ok {a : α} {a' : α'} (h : Q a a') : Alike Q (.ok a) (.ok a')
  | fault {f f' : Fault} (h : f = .unknownTime ↔ f' = .unknownTime) :
      Alike Q (.error f) (.error f')

namespace Reading.Alike

variable {α α' β β' : Type} {Q : α → α' → Prop} {R : β → β' → Prop}

theorem refl {Q : α → α → Prop} (h : ∀ a, Q a a) (x : Reading α) : Alike Q x x := by
  cases x with
  | ok a => exact .ok (h a)
  | error f => exact .fault .rfl

theorem mono {Q' : α → α' → Prop} {x : Reading α} {x' : Reading α'} (h : Alike Q x x')
    (weaker : ∀ a a', Q a a' → Q' a a') : Alike Q' x x' := by
  cases h with
  | ok h => exact .ok (weaker _ _ h)
  | fault h => exact .fault h

/-- Readings that are alike go on alike. -/
theorem bind {x : Reading α} {x' : Reading α'} {f : α → Reading β} {f' : α' → Reading β'}
    (h : Alike Q x x') (onward : ∀ a a', Q a a' → Alike R (f a) (f' a')) :
    Alike R (x >>= f) (x' >>= f') := by
  cases h with
  | ok h => exact onward _ _ h
  | fault h => exact .fault h

/-- Lists are read alike if their members are. -/
theorem mapM {f : α → Reading β} {f' : α' → Reading β'} {as : List α} {as' : List α'}
    (h : List.Forall₂ Q as as') (reads : ∀ a a', Q a a' → Alike R (f a) (f' a')) :
    Alike (List.Forall₂ R) (as.mapM f) (as'.mapM f') := by
  induction h with
  | nil => exact .ok .nil
  | cons head _ ih =>
    rw [List.mapM_cons, List.mapM_cons]
    exact .bind (reads _ _ head) fun b b' hb => .bind ih fun bs bs' hbs => .ok (.cons hb hbs)

end Reading.Alike

/-- Two spellings of a name: the same, or both of them unknown. -/
def Spelled (known : String → Bool) (s s' : String) : Prop :=
  s' = s ∨ (known s = false ∧ known s' = false)

section Rows

variable {names : Option (Nat × (String → Bool))} {known : String → Bool} {row row' : Row}
  {n : Nat} {column : String}

/-- Rows agree in all cells but the one of the name. -/
theorem Row.Agrees.get (h : Row.Agrees names row row') (other : ∀ known, names ≠ some (n, known)) :
    row'[n]? = row[n]? := by
  obtain same | ⟨known, _, _, named, -⟩ := h n
  · exact same
  · exact absurd named (other known)

theorem Row.Agrees.eq (h : Row.Agrees none row row') : row' = row :=
  List.ext_getElem? fun _ => h.get fun _ => nofun

theorem Row.Agrees.id {entity : Entity} (h : Row.Agrees names row row')
    (other : ∀ known, names ≠ some (n, known)) :
    Reading.Alike Eq (row.id n column : Reading (Id entity)) (row'.id n column) := by
  rw [show (row'.id n column : Reading (Id entity)) = row.id n column by
    rw [Row.id, Row.int, Row.cell, h.get other]
    rfl]
  exact .refl (fun _ => rfl) _

theorem Row.Agrees.text (h : Row.Agrees (some (n, known)) row row') :
    Reading.Alike (Spelled known) (row.text n column) (row'.text n column) := by
  unfold Row.text Row.cell
  obtain same | ⟨_, s, s', ⟨rfl⟩, hs, hs', unknown, unknown'⟩ := h n
  · rw [same]
    exact .refl (fun _ => .inl rfl) _
  · rw [hs, hs']
    exact .ok (.inr ⟨unknown, unknown'⟩)

theorem Spelled.readStateName {s s' : String}
    (h : Spelled (fun s => (StateName.ofText? s).isSome) s s') :
    Reading.Alike Eq (readStateName s) (readStateName s') := by
  obtain rfl | ⟨unknown, unknown'⟩ := h
  · exact .refl (fun _ => rfl) _
  · unfold Database.readStateName StateName.read
    rw [Option.isSome_eq_false_iff, Option.isNone_iff_eq_none] at unknown unknown'
    rw [unknown, unknown']
    exact .fault (iff_of_false nofun nofun)

theorem Spelled.readMachineName {s s' : String}
    (h : Spelled (fun s => (MachineName.ofText? s).isSome) s s') :
    Reading.Alike Eq (readMachineName s) (readMachineName s') := by
  obtain rfl | ⟨unknown, unknown'⟩ := h
  · exact .refl (fun _ => rfl) _
  · unfold Database.readMachineName MachineName.read
    rw [Option.isSome_eq_false_iff, Option.isNone_iff_eq_none] at unknown unknown'
    rw [unknown, unknown']
    exact .fault (iff_of_false nofun nofun)

theorem Row.Agrees.readMachine
    (h : Row.Agrees (some (1, fun s => (MachineName.ofText? s).isSome)) row row') :
    Reading.Alike Eq (readMachine row) (readMachine row') := by
  refine .bind (h.id (by simp)) ?_
  rintro id _ rfl
  refine .bind h.text fun name name' spelled => ?_
  refine .bind (h.id (by simp)) ?_
  rintro start _ rfl
  refine .bind spelled.readMachineName ?_
  rintro name _ rfl
  exact .ok rfl

/-- Rows of states, up to the spelling of unknown names. -/
def StateRows (x x' : StateId × String) : Prop :=
  x'.1 = x.1 ∧ Spelled (fun s => (StateName.ofText? s).isSome) x.2 x'.2

theorem Row.Agrees.readStateRow
    (h : Row.Agrees (some (1, fun s => (StateName.ofText? s).isSome)) row row') :
    Reading.Alike StateRows (readStateRow row) (readStateRow row') := by
  refine .bind (h.id (by simp)) ?_
  rintro id _ rfl
  refine .bind h.text fun name name' spelled => ?_
  exact .ok ⟨rfl, spelled⟩

theorem StateRows.readState {x x' : StateId × String} (h : StateRows x x') :
    Reading.Alike Eq (readState x) (readState x') := by
  obtain ⟨id, name⟩ := x
  obtain ⟨_, name'⟩ := x'
  obtain ⟨rfl, spelled⟩ := h
  refine .bind spelled.readStateName ?_
  rintro name _ rfl
  exact .ok rfl

theorem Row.Agrees.readItem
    (h : Row.Agrees (some (3, fun s => (StateName.ofText? s).isSome)) row row') :
    Reading.Alike Eq (readItem row) (readItem row') := by
  refine .bind (h.id (by simp)) ?_
  rintro id _ rfl
  refine .bind (h.id (by simp)) ?_
  rintro machine _ rfl
  refine .bind (h.id (by simp)) ?_
  rintro state _ rfl
  refine .bind h.text fun name name' spelled => ?_
  refine .bind spelled.readStateName ?_
  rintro name _ rfl
  exact .ok rfl

end Rows

section Outcomes

variable {names : Option (Nat × (String → Bool))} {o o' : Outcome}

theorem Outcome.Agrees.all (h : Outcome.Agrees names o o') :
    Reading.Alike (List.Forall₂ (Row.Agrees names)) o.all o'.all := by
  cases h with
  | rows h => exact .ok h
  | affected => exact .ok .nil
  | refused => exact .fault (iff_of_false nofun nofun)

/-- The first row is read alike, if there is one. -/
theorem Outcome.Agrees.find? {α : Type} {Q : α → α → Prop} {read : Row → Reading α}
    (h : Outcome.Agrees names o o')
    (reads : ∀ row row', Row.Agrees names row row' → Reading.Alike Q (read row) (read row')) :
    Reading.Alike (Option.Rel Q) (o.find? read) (o'.find? read) := by
  have heads : Reading.Alike (Option.Rel (Row.Agrees names)) o.first? o'.first? := by
    refine .bind h.all fun rs rs' rows => ?_
    cases rows with
    | nil => exact .ok .none
    | cons head _ => exact .ok (.some head)
  refine .bind heads fun row? row'? h => ?_
  cases h with
  | none => exact .ok .none
  | some h => exact .bind (reads _ _ h) fun _ _ related => .ok (.some related)

/-- Without a column of names, outcomes agree if they are the same or both refusals. -/
theorem Outcome.Agrees.cases (h : Outcome.Agrees none o o') :
    o' = o ∨ ∃ text text', o = .refused text ∧ o' = .refused text' := by
  cases h with
  | @rows rs rs' h =>
    refine .inl (congrArg Outcome.rows ?_)
    have same : List.Forall₂ Eq rs rs' := h.imp fun _ _ agrees => agrees.eq.symm
    exact (List.forall₂_eq_eq_eq ▸ same : rs = rs').symm
  | affected count => exact .inl rfl
  | refused text text' => exact .inr ⟨text, text', rfl, rfl⟩

theorem answer_refused {c : Call} {text : String} {x : Reading c.Answer}
    (h : answer c (.refused text) = some x) : x = .error (.refused text) := by
  cases c with
  | issueCredential => cases h
  | _ =>
    obtain rfl := Option.some.inj h
    rfl

/-- Outcomes that agree are read alike. -/
theorem answer_agrees {c : Call} {x x' : Reading c.Answer}
    (agrees : Outcome.Agrees (names? c) o o') (h : answer c o = some x)
    (h' : answer c o' = some x') : Reading.Alike Eq x x' := by
  have nameless (none_named : names? c = none) : Reading.Alike Eq x x' := by
    rw [none_named] at agrees
    obtain rfl | ⟨text, text', rfl, rfl⟩ := agrees.cases
    · obtain rfl := Option.some.inj (h.symm.trans h')
      exact .refl (fun _ => rfl) x
    · rw [answer_refused h, answer_refused h']
      exact .fault (iff_of_false nofun nofun)
  have found {α : Type} {x x' : Reading (Option α)} (h : Reading.Alike (Option.Rel Eq) x x') :
      Reading.Alike Eq x x' :=
    h.mono fun a a' same => by cases same <;> simp_all
  cases c with
  | findMachineByName | findMachine =>
    obtain rfl := Option.some.inj h
    obtain rfl := Option.some.inj h'
    exact found (agrees.find? fun _ _ row => row.readMachine)
  | findMachineState =>
    obtain rfl := Option.some.inj h
    obtain rfl := Option.some.inj h'
    exact found (agrees.find? fun _ _ row => row.readStateRow.bind fun _ _ h => h.readState)
  | findItem =>
    obtain rfl := Option.some.inj h
    obtain rfl := Option.some.inj h'
    exact found (agrees.find? fun _ _ row => row.readItem)
  | nextStates =>
    obtain rfl := Option.some.inj h
    obtain rfl := Option.some.inj h'
    refine .mono (agrees.all.bind fun _ _ rows => .bind (.mapM rows fun _ _ row =>
      row.readStateRow) fun _ _ states => .mapM states fun _ _ h => h.readState) ?_
    intro states states' same
    exact (List.forall₂_eq_eq_eq ▸ same : states = states')
  | _ => exact nameless rfl

end Outcomes

/-! ## Runs on outcomes that agree -/

/-- Two databases whose failures are all one: they may word them as they like. -/
def masked : Likeness where
  time := Eq
  failure f f' := f.code = .databaseError ∧ f'.code = .databaseError

theorem masked_answers (c : Call) (a : c.Answer) : masked.Answers c a a := by
  cases c with
  | findLesson id =>
    cases a with
    | none => exact .none
    | some l => exact .some ⟨l.createdAt, rfl, rfl⟩
  | _ => exact rfl

/-- Every reply is like itself. -/
theorem masked_replies {c : Call} (r : c.Reply) : masked.Replies c r r := by
  cases r with
  | ok a => exact .ok (masked_answers c a)
  | error e => exact .error (.inl rfl)

/-- Outcomes that agree lead to replies that are alike. -/
theorem reply_masked {c : Call} {q : Statement} {o o' : Outcome} (store : statement? c = some q)
    (h : Agree c o o') : Option.Rel (masked.Replies c) (reply? c o) (reply? c o') := by
  obtain undoes | agrees := h
  · have replied (o : Outcome) : ∃ r, reply? c o = some r := by
      cases c with
      | deleteItem | releaseSlot => cases o <;> exact ⟨_, rfl⟩
      | _ => cases undoes
    obtain ⟨r, hr⟩ := replied o
    obtain ⟨r', hr'⟩ := replied o'
    rw [hr, hr']
    exact .some (.undo undoes)
  · obtain ⟨x, hx⟩ := answer_store store o
    obtain ⟨x', hx'⟩ := answer_store store o'
    cases answer_agrees agrees hx hx' with
    | ok same =>
      obtain rfl := same
      rw [reply?_of_ok hx, reply?_of_ok hx']
      exact .some (.ok (masked_answers c _))
    | @fault f f' same =>
      by_cases lost : f = .unknownTime
      · rw [lost] at hx
        rw [same.1 lost] at hx'
        rw [reply?_of_unknownTime hx, reply?_of_unknownTime hx']
        exact .none
      · obtain ⟨e, he⟩ := failed?_store store (failure c f)
        obtain ⟨e', he'⟩ := failed?_store store (failure c f')
        rw [reply?_of_fault hx lost, reply?_of_fault hx' (mt same.2 lost), he, he']
        exact .some (.error (.inr ⟨_, _, ⟨failure_code c f, failure_code c f'⟩, he, he'⟩))

end Database

section Run

open Database

theorem eq_of_rel {α : Type} {x y : Option α} (h : Option.Rel Eq x y) : x = y := by
  cases h with
  | some h => exact congrArg some h
  | none => rfl

variable {α α' : Type} {Q : α → α' → Prop} {p : Program α} {p' : Program α'} {now : Timestamp}

/-- Programs that are alike, on outcomes that agree: their results are related, and they send the
same statements. -/
theorem Program.Alike.run (h : Program.Alike masked Q p p') {s s' : Script}
    (sent : s'.sent = s.sent) (meetings : s'.meetings = s.meetings)
    (agree : ∀ k c, (s.calls now p)[k]? = some c → Agree c (s.outcome k) (s'.outcome k)) :
    Option.Rel Q (s.run now p).1 (s'.run now p').1 ∧
      (s'.run now p').2.sent = (s.run now p).2.sent ∧
      (s'.run now p').2.meetings = (s.run now p).2.meetings := by
  induction h generalizing s s' with
  | done h => exact ⟨.some h, sent, meetings⟩
  | @call c next next' h ih =>
    cases store : statement? c with
    | some q =>
      have replied := Script.reply_statement now s store
      have replied' := Script.reply_statement now s' store
      have sent_next : (s'.advance q).sent = (s.advance q).sent := by
        rw [Script.sent_advance, Script.sent_advance, sent]
      have read := reply_masked store (agree 0 c (Script.calls_statement store))
      rw [Script.outcome_zero, Script.outcome_zero] at read
      cases hr : reply? c s.next with
      | none =>
        cases hr' : reply? c s'.next with
        | some r' =>
          rw [hr, hr'] at read
          cases read
        | none =>
          rw [hr] at replied
          rw [hr'] at replied'
          rw [Script.run_unanswered replied, Script.run_unanswered replied']
          exact ⟨.none, sent_next, meetings⟩
      | some r =>
        cases hr' : reply? c s'.next with
        | none =>
          rw [hr, hr'] at read
          cases read
        | some r' =>
          rw [hr, hr'] at read
          rw [hr] at replied
          rw [hr'] at replied'
          rw [Script.run_answered replied, Script.run_answered replied']
          cases read with
          | some alike =>
            refine ih r r' alike sent_next meetings fun k c' found => ?_
            rw [Script.outcome_advance, Script.outcome_advance]
            refine agree (k + 1) c' ?_
            rw [Script.calls_answered store hr]
            exact found
    | none =>
      obtain ⟨r?, m, grants⟩ := Script.reply_meeting now s.meetings store
      have replied := grants s rfl
      have replied' := grants s' meetings
      cases r? with
      | none =>
        rw [Script.run_unanswered replied, Script.run_unanswered replied']
        exact ⟨.none, sent, rfl⟩
      | some r =>
        rw [Script.run_answered replied, Script.run_answered replied']
        refine ih r r (masked_replies r) sent rfl fun k c' found => ?_
        refine agree k c' ?_
        rw [Script.calls_granted store replied]
        exact found

end Run

namespace Http

open Database

theorem errorResponse_masked {e e' : LessonError} (h : masked.LessonErrors e e') :
    errorResponse e' = errorResponse e := by
  have same_code {e e' : LessonError} (h : e.code = .databaseError)
      (h' : e'.code = .databaseError) : errorResponse e' = errorResponse e := by
    rw [errorResponse_of_database h, errorResponse_of_database h']
  cases h with
  | same => rfl
  | store h => exact same_code h.1 h.2
  | transition h =>
    cases h with
    | same => rfl
    | store h => exact same_code h.1 h.2

theorem eq_of_masked_results {q : LessonRequest} {a a' : q.Answer} (h : masked.Results q a a') :
    a' = a := by
  cases q with
  | get user lesson =>
    obtain ⟨l, ⟨booked, rfl, rfl⟩, rfl⟩ := h
    rfl
  | _ => exact Eq.symm h

/-- A request is carried out alike on replies that differ in what is masked, and its responses are
the same. -/
theorem carriedOut_masked (room : LessonId → String) (q : LessonRequest) :
    Program.Alike masked Eq (q.carriedOut room) (q.carriedOut room) := by
  refine Program.Alike.bind (q.alike room) ?_
  rintro _ _ (h | h)
  · rw [eq_of_masked_results h]
    exact .done rfl
  · show Program.Alike masked Eq (.done (errorResponse _)) (.done (errorResponse _))
    rw [errorResponse_masked h]
    exact .done rfl

/-- The service answers a request alike. -/
theorem respond_masked (s : Service) (r : Request) :
    Program.Alike masked Eq (s.respond r) (s.respond r) := by
  rcases s.respond_cases r with ⟨response, shape⟩ | ⟨q, shape⟩
  · rw [shape]
    exact .done rfl
  · rw [shape, map_eq_pure_bind]
    refine .bind (carriedOut_masked s.room q) ?_
    rintro response _ rfl
    exact .done rfl

/-- **Failures of the database are masked.** Take any request over a database.
* A database that words its refusals differently, spells unknown names differently, and answers what
  undoes a booking as it likes, is sent the same statements, and the client gets the same response;
  or there is no response in either case, since a time is none of the calendar.
* If a statement fails, or what comes back cannot be read, then the client is told that there is an
  error inside, and no more, whatever statement it is; what undoes a booking is excepted. -/
theorem database_failures_are_masked (server : Service) (r : Request) (now : Timestamp)
    (s : Script) :
    (∀ s' : Script, s'.sent = s.sent → s'.meetings = s.meetings →
      (∀ k c, (s.calls now (server.respond r))[k]? = some c →
        Agree c (s.outcome k) (s'.outcome k)) →
      (s'.run now (server.respond r)).1 = (s.run now (server.respond r)).1 ∧
        (s'.run now (server.respond r)).2.sent = (s.run now (server.respond r)).2.sent ∧
        (s'.run now (server.respond r)).2.meetings = (s.run now (server.respond r)).2.meetings) ∧
    (∀ k c f, (s.calls now (server.respond r))[k]? = some c → c.undoes = false →
      Database.answer c (s.outcome k) = some (.error f) →
      ∀ response, (s.run now (server.respond r)).1 = some response →
        response = .shown r.method databaseRefusal) := by
  constructor
  · intro s' sent meetings agree
    obtain ⟨results, same⟩ := (respond_masked server r).run sent meetings agree
    exact ⟨(eq_of_rel results).symm, same⟩
  · intro k c f called plain fault response responds
    exact respond_broken called plain fault responds

/-- However the database words its refusal, a client sees the same. -/
example (text : String) :
    (Script.run .epoch ⟨[.refused text], [], .recording none []⟩
      (Service.respond ⟨fun _ => .ok (.ofInt 1), fun _ => "", .epoch⟩ .approval)).1 =
      some databaseRefusal := rfl

end Http

end Tutoring
