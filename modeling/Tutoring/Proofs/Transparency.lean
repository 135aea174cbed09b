import Mathlib.Data.List.Forall2
import Tutoring.Proofs.Requests
import Tutoring.Proofs.Rows
import Tutoring.Rehearsal

/-!
# A database in place of stores in memory

The same requests, one after the other, once on stores in memory and once on a database that answers
each statement with the rows of what the stores answered. The results are the same, but for the time
of booking in a view: that is shown as the database has kept it.

* `session`: requests, one after the other, with their results.
* `storeEvents`: the calls of stores in memory, with their replies.
* `Event.Encoded`: an outcome that stands for the reply to a call.
* `Mirrors`: a script is where stores in memory are. A program keeps to it, as long as the outcomes
  stand for the replies (`Program.Alike.mirrored`), and so does a session (`session_mirrored`).
* `exists_outcomes`: there is such a database for every session.
* `databases_are_transparent`: the results, and the statements that are sent. Where bookings are
  made at whole microseconds, the results are the same (`results_eq_of_whole`).
-/

namespace Tutoring

/-! ## Stores in memory -/

namespace Rehearsal

open Database

variable {α : Type} {now : Timestamp} {c : Call} {q : Statement} {next : c.Reply → Program α}
  {r r' : Rehearsal} {answer : c.Reply}

/-- A call of stores in memory is answered. -/
theorem reply_store (now : Timestamp) (w : World) (m : Meetings) (h : statement? c = some q) :
    ∃ meet a w', w.step meet c = (.ok a, w') ∧
      reply now c ⟨w, [], m⟩ = (some (.ok a), ⟨w', [], m⟩) := by
  cases c with
  | issueCredential => cases h
  | _ => exact ⟨fun _ _ => .error (.unavailable ""), _, _, rfl, rfl⟩

/-- A call of the provider of meetings has the same reply, whichever stores there are. -/
theorem reply_meeting (now : Timestamp) (w : World) (m : Meetings) (h : statement? c = none) :
    ∃ r? m', reply now c ⟨w, [], m⟩ = (r?, ⟨w, [], m'⟩) ∧
      ∀ s : Script, s.meetings = m → Script.reply now c s = (r?, { s with meetings := m' }) := by
  cases c with
  | issueCredential room identity =>
    refine ⟨(m.grant now room identity).1, (m.grant now room identity).2, rfl, ?_⟩
    rintro s rfl
    rfl
  | _ => cases h

/-- The calls of stores that a program makes, with their replies, the first one first. -/
def events (now : Timestamp) (r : Rehearsal) : Program α → List Event
  | .done _ => []
  | .call c next =>
    match reply now c r with
    | (some answer, r') =>
      let later := events now r' (next answer)
      if (statement? c).isSome then ⟨c, answer⟩ :: later else later
    | (none, _) => []

@[simp] theorem events_done (a : α) : events now r (.done a) = [] := rfl

theorem events_store (h : statement? c = some q) (replied : reply now c r = (some answer, r')) :
    events now r (.call c next) = ⟨c, answer⟩ :: events now r' (next answer) := by
  simp [events, replied, h]

theorem events_granted (h : statement? c = none) (replied : reply now c r = (some answer, r')) :
    events now r (.call c next) = events now r' (next answer) := by
  simp [events, replied, h]

theorem events_ungranted (replied : reply now c r = (none, r')) :
    events now r (.call c next) = [] := by
  simp [events, replied]

end Rehearsal

/-! ## Sessions -/

/-- A request that was made, with its result. There is none where a point in time would be needed
that the calendar does not have. -/
structure Handled where
  request : LessonRequest
  result? : Option (Except LessonError request.Answer)

section Session

variable {σ : Type}

/-- Makes requests, one after the other. Each comes at a time of its own. -/
def session (reply : Timestamp → (c : Call) → OptionT (StateM σ) c.Reply)
    (room : LessonId → String) : List (Timestamp × LessonRequest) → σ → List Handled × σ
  | [], x => ([], x)
  | (now, q) :: later, x =>
    let first := (q.program room).runOn (reply now) x
    let rest := session reply room later first.2
    (⟨q, first.1⟩ :: rest.1, rest.2)

/-- The calls of stores in memory while requests are made, with their replies. -/
def storeEvents (room : LessonId → String) :
    List (Timestamp × LessonRequest) → Rehearsal → List Event
  | [], _ => []
  | (now, q) :: later, r =>
    r.events now (q.program room) ++
      storeEvents room later ((q.program room).runOn (Rehearsal.reply now) r).2

end Session

/-! ## Dates -/

/-- This holds of the time of a booking. -/
def LessonRequest.Dated (P : Timestamp → Prop) : LessonRequest → Prop
  | book now _ => P now
  | get _ _ | join _ _ | move _ _ _ => True

/-- This holds of the times of the lessons that are stored. -/
def datedTerms (P : Timestamp → Prop) : Contract := ⟨fun _ => True, fun _ c => c.Dated P⟩

/-- A lesson is stored by a booking, with its time. -/
theorem LessonRequest.meets_dated {P : Timestamp → Prop} (room : LessonId → String)
    (q : LessonRequest) (dated : q.Dated P) :
    (q.program room).Meets (datedTerms P) (fun _ _ => True) [] := by
  cases q with
  | book now b =>
    refine (bookLesson_calls now b).calls (fun _ h => h) fun _ c hc => ?_
    cases c with
    | insertLesson draft =>
      obtain ⟨-, rfl⟩ := hc
      exact dated
    | _ => trivial
  | get user lesson =>
    refine (getLesson_meets (fun _ => True) user lesson).calls (fun _ h => h) fun _ c hc => ?_
    cases c with
    | insertLesson => exact hc.elim
    | _ => trivial
  | join user lesson =>
    refine (joinLesson_meets (fun _ => True) room user lesson).calls (fun _ h => h)
      fun _ c hc => ?_
    cases c with
    | insertLesson => exact hc.elim
    | _ => trivial
  | move user lesson name =>
    refine (moveLesson_meets (fun _ => True) room user lesson name).calls (fun _ h => h)
      fun _ c hc => ?_
    cases c with
    | insertLesson => exact hc.elim
    | _ => trivial

/-! ## Databases that mirror stores in memory -/

open Database

/-- The outcome stands for the reply to the call. -/
def Event.Encoded (e : Event) (o : Outcome) : Prop :=
  ∃ a, e.reply = .ok a ∧ Encodes e.call a o

theorem Event.encoded_ok {c : Call} {a : c.Answer} {o : Outcome} :
    Event.Encoded ⟨c, .ok a⟩ o ↔ Encodes c a o := by
  constructor
  · rintro ⟨b, same, stands⟩
    obtain rfl : a = b := Except.ok.inj same
    exact stands
  · exact fun stands => ⟨a, rfl, stands⟩

/-- A script is where stores in memory are: a statement was sent for each of these calls, and these
outcomes are left. -/
structure Mirrors (P : Timestamp → Prop) (before : List Event) (left : List Outcome)
    (r : Rehearsal) (s : Script) : Prop where
  calm : r.cues = []
  dated : r.world.Dated P
  meetings : s.meetings = r.meetings
  outcomes : s.outcomes = left
  sent : s.sent.map some = before.map (statement? ·.call)

section Mirrored

variable {P : Timestamp → Prop} {α α' : Type} {Q : α → α' → Prop} {p : Program α}
  {p' : Program α'} {now : Timestamp} {room : LessonId → String} {before : List Event}
  {laid left : List Outcome} {r : Rehearsal} {s : Script} {log : Log} {w w' : World}
  {m m' : Meetings}

/-- A call of a store takes one outcome, and its statement is sent. -/
theorem Mirrors.advance {c : Call} {a : c.Answer} {q : Statement} {o : Outcome}
    (h : Mirrors P before (o :: left) ⟨w, [], m⟩ s) (statement : statement? c = some q)
    (dated : w'.Dated P) :
    Mirrors P (before ++ [⟨c, .ok a⟩]) left ⟨w', [], m⟩ (s.advance q) where
  calm := rfl
  dated := dated
  meetings := h.meetings
  outcomes := congrArg List.tail h.outcomes
  sent := by simp [h.sent, statement]

/-- Replies of the provider of meetings are the same. -/
theorem stored_meeting {c : Call} (h : statement? c = none) (answer : c.Reply) :
    (stored P).Replies c answer answer := by
  cases c with
  | issueCredential =>
    cases answer with
    | ok a => exact .ok rfl
    | error e => exact .error (.inl rfl)
  | _ => cases h

/-- **A database mirrors stores in memory.** A program makes the same calls on both and ends alike,
if the outcomes stand for what the stores answer. -/
theorem Program.Alike.mirrored (storable : ∀ t, P t → t.Storable)
    (h : Program.Alike (stored P) Q p p')
    (calls : p.Meets (datedTerms P) (fun _ _ => True) log)
    (mirrors : Mirrors P before (laid ++ left) r s)
    (encoded : List.Forall₂ Event.Encoded (r.events now p) laid) :
    Option.Rel Q (p.runOn (Rehearsal.reply now) r).1 (p'.runOn (Script.reply now) s).1 ∧
      Mirrors P (before ++ r.events now p) left (p.runOn (Rehearsal.reply now) r).2
        (p'.runOn (Script.reply now) s).2 := by
  induction h generalizing before laid r s log with
  | done h =>
    cases encoded
    refine ⟨.some h, ?_⟩
    rw [Rehearsal.events_done, List.append_nil]
    exact mirrors
  | @call c next next' _ ih =>
    obtain ⟨w, cues, m⟩ := r
    obtain rfl : cues = [] := mirrors.calm
    obtain ⟨stamped, onward⟩ := calls
    cases statement : statement? c with
    | some q =>
      -- What is read from the next outcome is like what the store answered, so both go on alike.
      obtain ⟨meet, a, w', step, replied⟩ := Rehearsal.reply_store now w m statement
      have effect : w.Effect ⟨c, .ok a⟩ w' := by
        have served : w.Reacts c (w.step meet c).1 (w.step meet c).2 := .served meet
        rw [step] at served
        exact served.effect
      rw [Rehearsal.events_store statement replied] at encoded ⊢
      cases encoded with
      | @cons _ o _ laid stands rest =>
        have next_eq : s.next = o := by rw [Script.next, mirrors.outcomes]; rfl
        obtain ⟨b, read, alike⟩ := answer_encoded storable mirrors.dated (congrArg Prod.fst step)
          (Event.encoded_ok.1 stands)
        have replied' := Script.reply_statement now s statement
        rw [next_eq, reply?_of_ok read] at replied'
        rw [Program.runOn_answered replied, Program.runOn_answered replied', List.append_cons]
        exact ih _ _ (.ok alike) (onward _ trivial)
          (mirrors.advance statement (mirrors.dated.effect effect stamped)) rest
    | none =>
      -- The provider of meetings does not know which stores there are.
      obtain ⟨r?, m', replied, replies⟩ := Rehearsal.reply_meeting now w m statement
      have replied' := replies s mirrors.meetings
      have granted : Mirrors P before (laid ++ left) ⟨w, [], m'⟩ { s with meetings := m' } :=
        { mirrors with calm := rfl, meetings := rfl }
      cases r? with
      | some answer =>
        rw [Rehearsal.events_granted statement replied] at encoded ⊢
        rw [Program.runOn_answered replied, Program.runOn_answered replied']
        exact ih _ _ (stored_meeting statement answer) (onward _ trivial) granted encoded
      | none =>
        rw [Rehearsal.events_ungranted replied] at encoded ⊢
        cases encoded
        rw [Program.runOn_unanswered replied, Program.runOn_unanswered replied', List.append_nil]
        exact ⟨.none, granted⟩

/-- Results of a request that are alike. -/
inductive Handled.Alike (L : Likeness) : Handled → Handled → Prop
  | mk {q : LessonRequest} {x x' : Option (Except LessonError q.Answer)}
      (h : Option.Rel (Task.EndsAlike L.LessonErrors (L.Results q)) x x') : Alike L ⟨q, x⟩ ⟨q, x'⟩

/-- What holds of one request holds of a whole session. -/
theorem session_mirrored {requests : List (Timestamp × LessonRequest)}
    (storable : ∀ t, P t → t.Storable) (dated : ∀ x ∈ requests, x.2.Dated P)
    (mirrors : Mirrors P before (laid ++ left) r s)
    (encoded : List.Forall₂ Event.Encoded (storeEvents room requests r) laid) :
    List.Forall₂ (Handled.Alike (stored P)) (session Rehearsal.reply room requests r).1
        (session Script.reply room requests s).1 ∧
      Mirrors P (before ++ storeEvents room requests r) left
        (session Rehearsal.reply room requests r).2 (session Script.reply room requests s).2 := by
  induction requests generalizing before laid r s with
  | nil =>
    cases encoded
    refine ⟨.nil, ?_⟩
    rw [storeEvents, List.append_nil]
    exact mirrors
  | cons x later ih =>
    obtain ⟨now, q⟩ := x
    obtain ⟨dated_first, dated_later⟩ := List.forall_mem_cons.1 dated
    rw [storeEvents] at encoded
    -- The outcomes of the first request come first.
    have first := (List.forall₂_take_append _ _ _ encoded.flip).flip
    have rest := (List.forall₂_drop_append _ _ _ encoded.flip).flip
    rw [← List.take_append_drop (r.events now (q.program room)).length laid,
      List.append_assoc] at mirrors
    obtain ⟨result, onward⟩ :=
      (q.alike room).mirrored storable (q.meets_dated room dated_first) mirrors first
    obtain ⟨results, ends⟩ := ih dated_later onward rest
    rw [List.append_assoc] at ends
    exact ⟨.cons (.mk result) results, ends⟩

/-! ## What a database makes of results -/

/-- What a database makes of the answer to a request: a view shows the time of booking as it was
kept. -/
def LessonRequest.kept : (q : LessonRequest) → q.Answer → q.Answer
  | get _ _, v => { v with lesson := { v.lesson with createdAt := v.lesson.createdAt.kept } }
  | book _ _, a | join _ _, a | move _ _ _, a => a

/-- What a database makes of a result. -/
def Handled.kept (h : Handled) : Handled :=
  ⟨h.request, h.result?.map (Except.map h.request.kept)⟩

theorem eq_of_stored_errors {e e' : LessonError} (h : (stored P).LessonErrors e e') : e' = e := by
  cases h with
  | same => rfl
  | store h => exact h.elim
  | transition h =>
    cases h with
    | same => rfl
    | store h => exact h.elim

theorem kept_of_stored_results {q : LessonRequest} {a a' : q.Answer}
    (h : (stored P).Results q a a') : a' = q.kept a := by
  cases q with
  | get user lesson =>
    obtain ⟨l, ⟨booked, ⟨-, rfl⟩, rfl⟩, rfl⟩ := h
    rfl
  | _ => exact Eq.symm h

theorem Handled.Alike.kept {h h' : Handled} (alike : Handled.Alike (stored P) h h') :
    h.kept = h' := by
  obtain ⟨alike⟩ := alike
  cases alike with
  | none => rfl
  | some same =>
    cases same with
    | ok same => rw [kept_of_stored_results same]; rfl
    | error same => rw [eq_of_stored_errors same]; rfl

/-- Where the times of bookings are kept as they are, nothing changes. -/
theorem Handled.Alike.kept_eq {h h' : Handled} (fixed : ∀ t, P t → t.kept = t)
    (alike : Handled.Alike (stored P) h h') : h.kept = h := by
  obtain @⟨q, _, _, alike⟩ := alike
  cases alike with
  | none => rfl
  | some same =>
    cases same with
    | error same => rfl
    | @ok a a' same =>
      cases q with
      | get user lesson =>
        obtain ⟨l, ⟨booked, ⟨known, -⟩, -⟩, -⟩ := same
        have kept_view : LessonRequest.kept (.get user lesson) a = a := by
          rw [LessonRequest.kept, fixed _ known]
        exact congrArg (fun v => Handled.mk _ (some (.ok v))) kept_view
      | _ => rfl

/-! ## Statements -/

/-- The arguments of a call of a store, as values. -/
def Call.arguments : Call → List Parameter
  | findUser id => [key id]
  | findTeacher id => [key id]
  | findTeacherByUser user => [key user]
  | findCategory id => [key id]
  | findSkill teacher category => [key teacher, key category]
  | findSlot id | reserveSlot id | releaseSlot id => [key id]
  | insertLesson draft => draftParameters draft
  | findLesson id => [key id]
  | findMachineByName name => [.text name.toText]
  | findMachine id => [key id]
  | findMachineState machine name => [key machine, .text name.toText]
  | transitionExists machine source target => [key machine, key source, key target]
  | nextStates machine source => [key machine, key source]
  | insertItem machine state => [key machine, key state]
  | deleteItem id | findItem id => [key id]
  | swapState id expected next => [key id, key expected, key next]
  | issueCredential room identity => [.text room, .text identity]

/-- The numbers of the placeholders in a statement, in the order in which they come. -/
def placeholders : List Char → List Nat
  | [] => []
  | '$' :: rest => Nat.ofDigitChars 10 (rest.takeWhile Char.isDigit) 0 :: placeholders rest
  | _ :: rest => placeholders rest

/-- The placeholders of a statement are numbered like the arguments of the call. -/
theorem placeholders_eq_arguments {c : Call} {q : Statement} (h : statement? c = some q) :
    placeholders q.sql.toList ⊆ List.range' 1 c.arguments.length ∧
      List.range' 1 c.arguments.length ⊆ placeholders q.sql.toList := by
  cases c with
  | issueCredential => cases h
  | _ =>
    obtain rfl := Option.some.inj h
    simp only [Call.arguments, draftParameters, List.length_cons, List.length_nil,
      String.toList_append]
    -- As lists of characters the texts are evaluated fast.
    repeat rw [String.toList_ofList]
    decide +kernel

/-- The statement is the one of the call, and its placeholders stand for the arguments of the call,
each for the one at its number. -/
structure Sends (c : Call) (q : Statement) : Prop where
  statement : statement? c = some q
  parameters : q.parameters = c.arguments
  placeholder : ∀ n, n ∈ placeholders q.sql.toList ↔ 1 ≤ n ∧ n ≤ c.arguments.length

theorem sends_of_statement {c : Call} {q : Statement} (h : statement? c = some q) : Sends c q where
  statement := h
  parameters := by
    cases c with
    | issueCredential => cases h
    | _ =>
      obtain rfl := Option.some.inj h
      rfl
  placeholder n := by
    obtain ⟨used, supplied⟩ := placeholders_eq_arguments h
    constructor
    · intro hn
      have bounds := List.mem_range'_1.1 (used hn)
      omega
    · intro hn
      exact supplied (List.mem_range'_1.2 (by omega))

/-- One statement was sent for each call. -/
theorem Mirrors.sends (h : Mirrors P before left r s) :
    List.Forall₂ (fun e q => Sends e.call q) before s.sent := by
  have same : List.Forall₂ Eq (before.map (statement? ·.call)) (s.sent.map some) := by
    rw [h.sent, List.forall₂_eq_eq_eq]
  rw [List.forall₂_map_left_iff, List.forall₂_map_right_iff] at same
  exact same.imp fun _ _ => sends_of_statement

end Mirrored

/-! ## Sessions on a database -/

section Transparent

variable {P : Timestamp → Prop} {room : LessonId → String}
  {requests : List (Timestamp × LessonRequest)} {w : World} {m : Meetings} {outcomes : List Outcome}

theorem session_mirrored_start (storable : ∀ t, P t → t.Storable) (dated : w.Dated P)
    (clock : ∀ x ∈ requests, x.2.Dated P)
    (encoded : List.Forall₂ Event.Encoded (storeEvents room requests ⟨w, [], m⟩) outcomes) :
    List.Forall₂ (Handled.Alike (stored P)) (session Rehearsal.reply room requests ⟨w, [], m⟩).1
        (session Script.reply room requests ⟨outcomes, [], m⟩).1 ∧
      Mirrors P (storeEvents room requests ⟨w, [], m⟩) []
        (session Rehearsal.reply room requests ⟨w, [], m⟩).2
        (session Script.reply room requests ⟨outcomes, [], m⟩).2 := by
  have start : Mirrors P [] (outcomes ++ []) ⟨w, [], m⟩ ⟨outcomes, [], m⟩ :=
    ⟨rfl, dated, rfl, (List.append_nil _).symm, rfl⟩
  exact session_mirrored storable clock start encoded

/-- Where all bookings are made at whole microseconds, nobody can tell the database from stores in
memory. -/
theorem results_eq_of_whole (dated : w.Dated Timestamp.Whole)
    (clock : ∀ x ∈ requests, x.2.Dated Timestamp.Whole)
    (encoded : List.Forall₂ Event.Encoded (storeEvents room requests ⟨w, [], m⟩) outcomes) :
    (session Script.reply room requests ⟨outcomes, [], m⟩).1 =
      (session Rehearsal.reply room requests ⟨w, [], m⟩).1 := by
  obtain ⟨results, -⟩ := session_mirrored_start (fun _ h => h.storable) dated clock encoded
  have same : List.Forall₂ Eq (session Rehearsal.reply room requests ⟨w, [], m⟩).1
      (session Script.reply room requests ⟨outcomes, [], m⟩).1 :=
    results.imp fun _ _ alike => (alike.kept_eq fun _ h => h.kept_eq).symm.trans alike.kept
  rw [List.forall₂_eq_eq_eq] at same
  exact same.symm

/-! ### Such a database exists -/

/-- Every answer of a store can be written as an outcome. -/
theorem exists_encodes {c : Call} {q : Statement} (h : statement? c = some q) (a : c.Answer) :
    ∃ o, Encodes c a o := by
  cases c with
  | issueCredential => cases h
  | releaseSlot | deleteItem => exact ⟨.affected 1, 1, rfl⟩
  | _ => exact ⟨_, rfl⟩

theorem Rehearsal.exists_outcomes {α : Type} (now : Timestamp) (p : Program α) (w : World)
    (m : Meetings) : ∃ outcomes w' m',
      List.Forall₂ Event.Encoded (events now ⟨w, [], m⟩ p) outcomes ∧
        (p.runOn (reply now) ⟨w, [], m⟩).2 = ⟨w', [], m'⟩ := by
  induction p generalizing w m with
  | done a => exact ⟨[], w, m, .nil, rfl⟩
  | call c next ih =>
    cases statement : statement? c with
    | some q =>
      obtain ⟨_, a, w', -, replied⟩ := reply_store now w m statement
      obtain ⟨o, stands⟩ := exists_encodes statement a
      obtain ⟨outcomes, w'', m', encoded, ends⟩ := ih (.ok a) w' m
      rw [events_store statement replied, Program.runOn_answered replied]
      exact ⟨o :: outcomes, w'', m', .cons (Event.encoded_ok.2 stands) encoded, ends⟩
    | none =>
      obtain ⟨r?, m', replied, -⟩ := reply_meeting now w m statement
      cases r? with
      | some answer =>
        rw [events_granted statement replied, Program.runOn_answered replied]
        exact ih answer w m'
      | none =>
        rw [events_ungranted replied, Program.runOn_unanswered replied]
        exact ⟨[], w, m', .nil, rfl⟩

/-- For each session there are outcomes that stand for what the stores in memory answer. -/
theorem exists_outcomes (room : LessonId → String) (requests : List (Timestamp × LessonRequest))
    (w : World) (m : Meetings) :
    ∃ outcomes, List.Forall₂ Event.Encoded (storeEvents room requests ⟨w, [], m⟩) outcomes := by
  induction requests generalizing w m with
  | nil => exact ⟨[], .nil⟩
  | cons x later ih =>
    obtain ⟨now, q⟩ := x
    obtain ⟨first, w', m', encoded, ends⟩ := Rehearsal.exists_outcomes now (q.program room) w m
    obtain ⟨rest, encoded'⟩ := ih w' m'
    refine ⟨first ++ rest, ?_⟩
    rw [storeEvents, ends]
    exact List.rel_append encoded encoded'

end Transparent

/-! ### One look -/

/-- The small world, where the lesson was booked at another time. -/
def World.bookedAt (t : Timestamp) : World :=
  { World.sample with
    lessons := Table.empty.insert (.ofInt 1)
      ⟨⟨.ofInt 1, .ofInt 1, .ofInt 1, .ofInt 1, .ofInt 1, t⟩, .ofInt 1⟩ }

theorem World.bookedAt_dated {P : Timestamp → Prop} {t : Timestamp} (ht : P t) :
    (World.bookedAt t).Dated P where
  slot id s hs := by
    change World.sample.slots.get? id = some s at hs
    unfold World.sample at hs
    simp only [Table.get?_insert] at hs
    split at hs
    · cases hs
      exact ⟨rfl, rfl⟩
    · split at hs
      · cases hs
        exact ⟨rfl, rfl⟩
      · cases hs
  lesson id l hl := by
    rw [World.bookedAt, Table.get?_insert] at hl
    split at hl
    · cases hl
      exact ht
    · cases hl

/-- The student looks at the lesson. -/
def oneLook : List (Timestamp × LessonRequest) := [(.epoch, .get (.ofInt 1) (.ofInt 1))]

/-- What a database answers to the look. -/
def lookOutcomes (t : Timestamp) : List Outcome :=
  [.rows [userRow ⟨.ofInt 1, "student"⟩],
    .rows [lessonRow ⟨⟨.ofInt 1, .ofInt 1, .ofInt 1, .ofInt 1, .ofInt 1, t⟩, .ofInt 1⟩],
    .rows [],
    .rows [itemRow (⟨.ofInt 1, .ofInt 1, StateName.planned.id⟩, ⟨StateName.planned.id, .planned⟩)],
    .rows [itemRow (⟨.ofInt 1, .ofInt 1, StateName.planned.id⟩, ⟨StateName.planned.id, .planned⟩)],
    .rows ((World.sample.catalog.nextStates (.ofInt 1) StateName.planned.id).map stateRow)]

theorem lookOutcomes_encoded (room : LessonId → String) (t : Timestamp) (m : Meetings) :
    List.Forall₂ Event.Encoded (storeEvents room oneLook ⟨World.bookedAt t, [], m⟩)
      (lookOutcomes t) :=
  .cons ⟨_, rfl, rfl⟩ <| .cons ⟨_, rfl, rfl⟩ <| .cons ⟨_, rfl, rfl⟩ <| .cons ⟨_, rfl, rfl⟩ <|
    .cons ⟨_, rfl, rfl⟩ <| .cons ⟨_, rfl, rfl⟩ .nil

/-- The time of booking that is shown in a view. -/
def Handled.bookedAt? : Handled → Option Timestamp
  | ⟨.get _ _, some (.ok v)⟩ => some v.lesson.createdAt
  | _ => none

/-- A time at the start of 2020 that is no whole microsecond. -/
def Timestamp.fine : Timestamp :=
  ⟨1577836800, 123456789, by decide, by decide, by decide, by decide⟩

/-- The leap second at the end of the calendar. -/
def Timestamp.last : Timestamp :=
  ⟨Timestamp.greatest, 1000000000, by decide, by decide, by decide, by decide⟩

/-! ### The theorem -/

/-- **A database is transparent.** Take requests that are made one after the other, on stores in
memory and on a database that answers each statement with the rows of what the stores answered.
* Each request has the same result on both, but for the time of booking in a view: that is the one
  that the database has kept.
* For each call of the stores one statement is sent, in the order of the calls, with the arguments
  of the call for its placeholders. No outcome is left over, and the provider of meetings is in the
  same state. -/
theorem databases_are_transparent (room : LessonId → String)
    (requests : List (Timestamp × LessonRequest)) (w : World) (m : Meetings)
    (outcomes : List Outcome) (dated : w.Dated Timestamp.Storable)
    (clock : ∀ x ∈ requests, x.2.Dated Timestamp.Storable)
    (encoded : List.Forall₂ Event.Encoded (storeEvents room requests ⟨w, [], m⟩) outcomes) :
    (session Script.reply room requests ⟨outcomes, [], m⟩).1 =
        (session Rehearsal.reply room requests ⟨w, [], m⟩).1.map Handled.kept ∧
      List.Forall₂ (fun e q => Sends e.call q) (storeEvents room requests ⟨w, [], m⟩)
        (session Script.reply room requests ⟨outcomes, [], m⟩).2.sent ∧
      (session Script.reply room requests ⟨outcomes, [], m⟩).2.outcomes = [] ∧
      (session Script.reply room requests ⟨outcomes, [], m⟩).2.meetings =
        (session Rehearsal.reply room requests ⟨w, [], m⟩).2.meetings := by
  obtain ⟨results, mirrors⟩ := session_mirrored_start (fun _ h => h) dated clock encoded
  refine ⟨?_, mirrors.sends, mirrors.outcomes, mirrors.meetings⟩
  have kept : List.Forall₂ Eq
      ((session Rehearsal.reply room requests ⟨w, [], m⟩).1.map Handled.kept)
      (session Script.reply room requests ⟨outcomes, [], m⟩).1 :=
    List.forall₂_map_left_iff.2 (results.imp fun _ _ alike => alike.kept)
  rw [List.forall₂_eq_eq_eq] at kept
  exact kept.symm

/-- A lesson that was booked at no whole microsecond is looked at. -/
theorem databases_are_transparent_fine :
    (World.bookedAt .fine).Dated Timestamp.Storable ∧
      List.Forall₂ Event.Encoded
        (storeEvents (fun _ => "") oneLook ⟨.bookedAt .fine, [], .recording none []⟩)
        (lookOutcomes .fine) ∧
      (session Script.reply (fun _ => "") oneLook ⟨lookOutcomes .fine, [], .recording none []⟩).1 =
        (session Rehearsal.reply (fun _ => "") oneLook
          ⟨.bookedAt .fine, [], .recording none []⟩).1.map Handled.kept ∧
      (session Script.reply (fun _ => "") oneLook
        ⟨lookOutcomes .fine, [], .recording none []⟩).2.sent.length = 6 := by
  have dated : (World.bookedAt .fine).Dated Timestamp.Storable := World.bookedAt_dated (by rfl)
  have encoded := lookOutcomes_encoded (fun _ => "") .fine (.recording none [])
  obtain ⟨results, sent, -⟩ := databases_are_transparent (fun _ => "") oneLook (.bookedAt .fine)
    (.recording none []) (lookOutcomes .fine) dated (by simp [oneLook, LessonRequest.Dated]) encoded
  exact ⟨dated, encoded, results, sent.length_eq.symm⟩

/-- **Times of bookings do not always come back.** What is finer than a microsecond is lost, and the
leap second at the end of the calendar cannot be read. -/
theorem times_are_cut :
    (List.Forall₂ Event.Encoded
        (storeEvents (fun _ => "") oneLook ⟨.bookedAt .fine, [], .recording none []⟩)
        (lookOutcomes .fine) ∧
      (session Script.reply (fun _ => "") oneLook
          ⟨lookOutcomes .fine, [], .recording none []⟩).1 ≠
        (session Rehearsal.reply (fun _ => "") oneLook
          ⟨.bookedAt .fine, [], .recording none []⟩).1) ∧
    (List.Forall₂ Event.Encoded
        (storeEvents (fun _ => "") oneLook ⟨.bookedAt .last, [], .recording none []⟩)
        (lookOutcomes .last) ∧
      (session Script.reply (fun _ => "") oneLook
          ⟨lookOutcomes .last, [], .recording none []⟩).1 ≠
        (session Rehearsal.reply (fun _ => "") oneLook
          ⟨.bookedAt .last, [], .recording none []⟩).1) := by
  have differ {made made' : List Handled}
      (h : made.map Handled.bookedAt? ≠ made'.map Handled.bookedAt?) : made ≠ made' :=
    fun same => h (congrArg _ same)
  exact ⟨⟨lookOutcomes_encoded _ _ _, differ (by decide)⟩,
    lookOutcomes_encoded _ _ _, differ (by decide)⟩

end Tutoring
