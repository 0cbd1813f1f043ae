import Courier.Proofs.Dispatch.Confluence
import Courier.Proofs.Dispatch.Traffic

/-!
# What callers are not told

A failure of keeping records has a text that is not meant for callers: it may quote the statement
that the database could not carry out. Whoever asks for a send gets one of two fixed texts instead,
`Dispatcher.recordFailed` or `Dispatcher.historyUnavailable`.

That nothing of the text gets through is a statement about two runs. In each turn of a run failures
may befall the operations of the store (`BesetTurn`). Two runs are compared that differ in nothing
but the texts of such failures (`BesetTurn.Alike`). A step lemma for each half of a send
(`Dispatcher.start_of_alike`, `Dispatcher.finish_of_alike`) says that both come to the same, and by
induction so do the runs. Main statement: `Desk.run_keeps_failures_to_itself`.
-/

namespace Courier

/-! ## Failures that cannot be told apart -/

/-- Two failures are the same to callers: they are equal, or both come from keeping records. -/
def Failure.Alike (f g : Failure) : Prop :=
  f = g ∨ f.isPersistence = true ∧ g.isPersistence = true

/-- A failure of keeping records does not stop the program. -/
theorem Failure.not_isInterrupt_of_isPersistence {f : Failure} (h : f.isPersistence = true) :
    f.isInterrupt = false := by
  cases f with
  | mishap m =>
    refine Bool.eq_false_iff.mpr fun stops => ?_
    exact Bool.false_ne_true ((Mishap.none_of_isInterrupt stops).2.symm.trans h)
  | _ => rfl

/-- Two answers are equal, or failures that are the same to callers. -/
inductive Agree {α : Type} : Except Failure α → Except Failure α → Prop
  | ok (a : α) : Agree (.ok a) (.ok a)
  | error {f g : Failure} (h : f.Alike g) : Agree (.error f) (.error g)

theorem Agree.refl {α : Type} (answer : Except Failure α) : Agree answer answer := by
  cases answer with
  | ok a => exact .ok a
  | error f => exact .error (.inl rfl)

/-- Failures befall the same operations of a store, and are the same to callers. -/
structure Faults.Alike (faults faults' : Faults) : Prop where
  append : Option.Rel Failure.Alike faults.append faults'.append
  move : Option.Rel Failure.Alike faults.move faults'.move
  preference : Option.Rel Failure.Alike faults.preference faults'.preference

/-! ## Stores -/

namespace Store

variable {faults faults' : Faults} {α : Type}

/-- The store with other failures in force. -/
def beset (s : Store) (faults : Faults) : Store := { s with faults := faults }

theorem preference?_of_alike (h : faults.Alike faults') (s : Store) (recipient : String) :
    Agree ((s.beset faults).preference? recipient).answer
      ((s.beset faults').preference? recipient).answer := by
  have hfaults := h.preference
  unfold preference? beset
  dsimp only
  generalize faults.preference = f at hfaults ⊢
  generalize faults'.preference = g at hfaults ⊢
  cases hfaults with
  | none => exact .refl _
  | some alike => exact .error alike

/-- The failures in force are no part of what an operation leaves behind. -/
theorem settle_mk (backing : Backing) (faults : Faults) (answer : Except Failure (Backing × α)) :
    settle ⟨backing, faults⟩ answer =
      ((settle ⟨backing, {}⟩ answer).1.beset faults, (settle ⟨backing, {}⟩ answer).2) := by
  cases answer <;> rfl

/-- Under failures that are alike an operation comes to the same but for the failures, if it does
nothing when its failure is in force and looks at no other. -/
theorem operation_of_alike {operation : Store → Store × Reply α} {fault : Faults → Option Failure}
    (hindered : ∀ s f, fault s.faults = some f → operation s = (s, .quiet (.error f)))
    (free : ∀ (s : Store) faults, fault faults = none →
      operation (s.beset faults) = ((operation (s.beset {})).1.beset faults,
        (operation (s.beset {})).2))
    (h : Option.Rel Failure.Alike (fault faults) (fault faults')) (s : Store) :
    Agree (operation (s.beset faults)).2.answer (operation (s.beset faults')).2.answer ∧
      (operation (s.beset faults)).1.beset {} = (operation (s.beset faults')).1.beset {} := by
  cases hf : fault faults with
  | some f =>
    cases hg : fault faults' with
    | some g =>
      rw [hf, hg] at h
      cases h with
      | some alike =>
        rw [hindered (s.beset faults) f hf, hindered (s.beset faults') g hg]
        exact ⟨.error alike, rfl⟩
    | none =>
      rw [hf, hg] at h
      cases h
  | none =>
    cases hg : fault faults' with
    | some g =>
      rw [hf, hg] at h
      cases h
    | none =>
      rw [free s faults hf, free s faults' hg]
      exact ⟨.refl _, rfl⟩

theorem append_of_alike (h : faults.Alike faults') (s : Store) (r : Record) :
    Agree ((s.beset faults).append r).2.answer ((s.beset faults').append r).2.answer ∧
      ((s.beset faults).append r).1.beset {} = ((s.beset faults').append r).1.beset {} := by
  refine operation_of_alike (fun s f hf => append_of_fault hf r) (fun s faults hf => ?_) h.append s
  unfold append
  rw [show (s.beset faults).faults.append = none from hf]
  dsimp only [beset]
  split
  · rw [settle_mk s.backing faults]
    rfl
  · rw [settle_mk s.backing faults]
    rfl

theorem move_of_alike (h : faults.Alike faults') (s : Store) (id : String) (m : Record.Move) :
    Agree ((s.beset faults).move id m).2.answer ((s.beset faults').move id m).2.answer ∧
      ((s.beset faults).move id m).1.beset {} = ((s.beset faults').move id m).1.beset {} := by
  refine operation_of_alike (fun s f hf => move_of_fault hf id m) (fun s faults hf => ?_) h.move s
  unfold move
  rw [show (s.beset faults).faults.move = none from hf]
  dsimp only [beset]
  split
  · rw [settle_mk s.backing faults]
    rfl
  · rw [settle_mk s.backing faults]
    rfl

end Store

/-! ## The halves of a send -/

namespace Dispatcher

variable {q : Request} {s : Surroundings} {faults faults' : Faults} {flight : Flight}
  {c : Completion} {clock : Except Failure Reading}

/-- The dispatcher with other failures in force at its store. -/
def beset (d : Dispatcher) (faults : Faults) : Dispatcher :=
  { d with store := d.store.beset faults }

/-- A send that cannot go on ends the same for failures that are the same to callers. -/
theorem unexpected_of_alike {f g : Failure} (h : f.Alike g) (eventType recipient : String)
    (id : Option String) :
    (unexpected eventType recipient id f).1 = (unexpected eventType recipient id g).1 := by
  rcases h with rfl | ⟨hf, hg⟩
  · rfl
  · have going := Failure.not_isInterrupt_of_isPersistence hf
    have going' := Failure.not_isInterrupt_of_isPersistence hg
    simp [unexpected, toldError, going, going', hf, hg]

/-- How a send ends that meets a failure of keeping records. -/
theorem unexpected_of_isPersistence {f : Failure} (h : f.isPersistence = true)
    (eventType recipient : String) (id : Option String) :
    (unexpected eventType recipient id f).1 = .receipt ⟨false, id, some historyUnavailable⟩ := by
  have going := Failure.not_isInterrupt_of_isPersistence h
  simp [unexpected, toldError, going, h]

/-- How far a send has come after its first half, by its plan and the answer to the append. -/
theorem progress_start (d : Dispatcher) (q : Request) (s : Surroundings) :
    (d.start q s).2.1 = match (d.plan q s).1 with
      | .declined reason => .ended (.receipt ⟨false, none, some reason⟩)
      | .failed f => .ended (unexpected q.eventType q.recipient none f).1
      | .ready r _ => match (d.store.append r).2.answer with
        | .error f =>
          if f.isInterrupt then .ended (.stopped f)
          else .ended (.receipt ⟨false, none, some recordFailed⟩)
        | .ok _ => .flying ⟨r⟩ := by
  unfold start
  rcases d.plan q s with ⟨plan, log⟩
  cases plan with
  | declined reason => rfl
  | failed f => rfl
  | ready r template =>
    dsimp only
    cases (d.store.append r).2.answer with
    | ok kept => rfl
    | error f =>
      dsimp only
      split <;> rfl

/-- What comes of a request is the same under failures that are alike, or a failure that is the same
to callers. -/
theorem plan_of_alike (h : faults.Alike faults') (d : Dispatcher) (q : Request)
    (s : Surroundings) :
    ((d.beset faults).plan q s).1 = ((d.beset faults').plan q s).1 ∨
      ∃ f g, f.Alike g ∧ ((d.beset faults).plan q s).1 = .failed f ∧
        ((d.beset faults').plan q s).1 = .failed g := by
  have hasked := Store.preference?_of_alike h d.store q.recipient
  unfold plan
  dsimp only [beset]
  generalize ((d.store.beset faults).preference? q.recipient) = asked at hasked ⊢
  generalize ((d.store.beset faults').preference? q.recipient) = asked' at hasked ⊢
  obtain ⟨answer, log⟩ := asked
  obtain ⟨answer', log'⟩ := asked'
  cases hasked with
  | error alike => exact .inr ⟨_, _, alike, rfl, rfl⟩
  | ok p =>
    left
    dsimp only
    split
    · rfl
    · split <;> rfl

/-- The first half of a send comes to the same under failures that are alike. -/
theorem start_of_alike (h : faults.Alike faults') (d : Dispatcher) (q : Request)
    (s : Surroundings) :
    ((d.beset faults).start q s).2.1 = ((d.beset faults').start q s).2.1 ∧
      ((d.beset faults).start q s).1.beset {} = ((d.beset faults').start q s).1.beset {} := by
  rw [progress_start, progress_start]
  rcases plan_of_alike h d q s with same | ⟨f, g, alike, hf, hg⟩
  · cases hrecord : recordOf? ((d.beset faults).plan q s).1 with
    | none =>
      have hrecord' := hrecord
      rw [same] at hrecord'
      rw [start_of_no_record hrecord, start_of_no_record hrecord', ← same]
      generalize ((d.beset faults).plan q s).1 = plan at hrecord ⊢
      cases plan with
      | declined reason => exact ⟨rfl, rfl⟩
      | failed f => exact ⟨rfl, rfl⟩
      | ready r template => cases hrecord
    | some r =>
      have hrecord' := hrecord
      rw [same] at hrecord'
      obtain ⟨hanswer, hstore⟩ := Store.append_of_alike h d.store r
      rw [start_of_record hrecord, start_of_record hrecord', ← same]
      generalize ((d.beset faults).plan q s).1 = plan at hrecord ⊢
      cases plan with
      | declined reason => cases hrecord
      | failed f => cases hrecord
      | ready r' template =>
        obtain rfl : r' = r := Option.some.inj hrecord
        refine ⟨?_, congrArg (fun store => { d with store := store }) hstore⟩
        dsimp only [beset]
        generalize ((d.store.beset faults).append r').2.answer = answer at hanswer ⊢
        generalize ((d.store.beset faults').append r').2.answer = answer' at hanswer ⊢
        cases hanswer with
        | ok kept => rfl
        | error alike =>
          dsimp only
          rcases alike with rfl | ⟨hf, hg⟩
          · rfl
          · rw [Failure.not_isInterrupt_of_isPersistence hf,
              Failure.not_isInterrupt_of_isPersistence hg]
            rfl
  · have hrecord : recordOf? ((d.beset faults).plan q s).1 = none := by rw [hf]; rfl
    have hrecord' : recordOf? ((d.beset faults').plan q s).1 = none := by rw [hg]; rfl
    rw [start_of_no_record hrecord, start_of_no_record hrecord', hf, hg]
    exact ⟨congrArg Progress.ended (unexpected_of_alike alike _ _ none), rfl⟩

/-- What the end of a transport call asks of the store comes from a report and a time. -/
theorem of_moveOf? {m : Record.Move} (h : moveOf? c clock = some m) :
    ∃ report now, c.report? = some report ∧ clock = .ok now ∧ m = moveFor report now := by
  unfold moveOf? at h
  split at h
  · rename_i report now hreport
    exact ⟨report, now, hreport, rfl, (Option.some.inj h).symm⟩
  · cases h

/-- How a send ends whose transport came to a report, by the answer to the request to record it. -/
theorem ending_conclude (d : Dispatcher) (flight : Flight) (report : Delivery)
    (clock : Except Failure Reading) :
    (d.conclude flight report clock).2.1 = match d.recording flight report clock with
      | .error f =>
        (unexpected flight.record.eventType flight.record.recipient (some flight.record.id) f).1
      | .ok updated => .receipt (settled flight.record updated report).1 := by
  cases h : d.recording flight report clock with
  | error f => exact (conclude_of_error h).2
  | ok updated =>
    obtain ⟨_, _, _, _, hending⟩ := conclude_of_ok h
    exact hending

/-- The second half of a send comes to the same under failures that are alike. -/
theorem finish_of_alike (h : faults.Alike faults') (d : Dispatcher) (flight : Flight)
    (c : Completion) (clock : Except Failure Reading) :
    ((d.beset faults).finish flight c clock).2.1 = ((d.beset faults').finish flight c clock).2.1 ∧
      ((d.beset faults).finish flight c clock).1.beset {} =
        ((d.beset faults').finish flight c clock).1.beset {} := by
  cases hmove : moveOf? c clock with
  | none =>
    have same : ((d.beset faults).finish flight c clock).2 =
        ((d.beset faults').finish flight c clock).2 :=
      finish_congr rfl fun m hm => by rw [hmove] at hm; cases hm
    rw [finish_of_no_move hmove, finish_of_no_move hmove]
    exact ⟨congrArg Prod.fst same, rfl⟩
  | some m =>
    obtain ⟨hanswer, hstore⟩ := Store.move_of_alike h d.store flight.record.id m
    rw [finish_of_move hmove, finish_of_move hmove]
    refine ⟨?_, congrArg (fun store => { d with store := store }) hstore⟩
    obtain ⟨report, now, hreport, rfl, rfl⟩ := of_moveOf? hmove
    rw [finish_of_report hreport, finish_of_report hreport, ending_conclude, ending_conclude]
    dsimp only [recording, beset]
    generalize ((d.store.beset faults).move flight.record.id _).2.answer = answer at hanswer ⊢
    generalize ((d.store.beset faults').move flight.record.id _).2.answer = answer' at hanswer ⊢
    cases hanswer with
    | ok updated => rfl
    | error alike => exact unexpected_of_alike alike _ _ _

/-! ## Failures of keeping records -/

/-- A failure of keeping records hits a send that is being started, and the caller is told a fixed
text: it comes from the preferences, or from appending the record. -/
inductive HitAtStart (d : Dispatcher) (q : Request) (s : Surroundings) : String → Prop
  | preference {f : Failure} (asked : (d.store.preference? q.recipient).answer = .error f)
      (keeping : f.isPersistence = true) : HitAtStart d q s historyUnavailable
  | append {r : Record} {f : Failure} (ready : recordOf? (d.plan q s).1 = some r)
      (appended : (d.store.append r).2.answer = .error f) (keeping : f.isPersistence = true) :
      HitAtStart d q s recordFailed

/-- A failure of keeping records hits a send whose transport call came to a report: it comes from
moving the record. -/
def HitAtEnd (d : Dispatcher) (flight : Flight) (l : Landing) : Prop :=
  ∃ m f, moveOf? l.completion l.clock = some m ∧
    (d.store.move flight.record.id m).2.answer = .error f ∧ f.isPersistence = true

/-- A send that is hit while it is being started ends with a fixed text and without a record. -/
theorem HitAtStart.progress {d : Dispatcher} {text : String} (h : d.HitAtStart q s text) :
    (d.start q s).2.1 = .ended (.receipt ⟨false, none, some text⟩) := by
  rw [progress_start]
  cases h with
  | @preference f asked keeping =>
    have hplan : (d.plan q s).1 = .failed f := by
      unfold plan
      dsimp only
      rw [asked]
    rw [hplan]
    exact congrArg Progress.ended (unexpected_of_isPersistence keeping _ _ none)
  | append ready appended keeping =>
    generalize (d.plan q s).1 = plan at ready ⊢
    cases plan with
    | declined reason => cases ready
    | failed f => cases ready
    | ready r template =>
      cases ready
      dsimp only
      rw [appended]
      dsimp only
      rw [Failure.not_isInterrupt_of_isPersistence keeping]
      rfl

/-- A send that is hit at the end of its transport call ends with a fixed text. -/
theorem HitAtEnd.ending {d : Dispatcher} {l : Landing} (h : d.HitAtEnd flight l) :
    (d.finish flight l.completion l.clock).2.1 =
      .receipt ⟨false, some flight.record.id, some historyUnavailable⟩ := by
  obtain ⟨m, f, hmove, moved, keeping⟩ := h
  obtain ⟨report, now, hreport, hclock, rfl⟩ := of_moveOf? hmove
  have hrecord : d.recording flight report l.clock = .error f := by
    rw [hclock]
    exact moved
  rw [finish_of_report hreport, ending_conclude, hrecord]
  exact unexpected_of_isPersistence keeping _ _ _

end Dispatcher

/-! ## Runs -/

/-- What happens in a turn, and the failures that befall the store in it. -/
structure BesetTurn where
  faults : Faults := {}
  turn : Traffic.Turn

/-- The same happens in two turns, under failures that are the same to callers. -/
structure BesetTurn.Alike (t t' : BesetTurn) : Prop where
  faults : t.faults.Alike t'.faults
  turn : t.turn = t'.turn

/-- A dispatcher with the sends started so far, each as far as it has come. -/
structure Desk where
  dispatcher : Dispatcher
  sends : List Progress := []

namespace Desk

/-- The desk after a turn, at whose end no failures are in force. -/
def after (k : Desk) (t : BesetTurn) : Desk :=
  let d := k.dispatcher.beset t.faults
  match t.turn with
  | .start q s => ⟨(d.start q s).1.beset {}, k.sends ++ [(d.start q s).2.1]⟩
  | .land i l =>
    match k.sends[i]? with
    | some (.flying flight) =>
      ⟨(d.finish flight l.completion l.clock).1.beset {},
        k.sends.set i (.ended (d.finish flight l.completion l.clock).2.1)⟩
    | _ => ⟨d.beset {}, k.sends⟩
  | .markDelivered id clock => ⟨(d.markDelivered id clock).1.beset {}, k.sends⟩
  | .putPreference p => ⟨(d.putPreference p).1.beset {}, k.sends⟩
  | .register templates => ⟨(d.register templates).1.beset {}, k.sends⟩

/-- The desk after a run of turns. -/
def run (k : Desk) (turns : List BesetTurn) : Desk := turns.foldl after k

variable {t t' : BesetTurn} {turns turns' : List BesetTurn}

/-- Confirming a delivery leaves the same behind under failures that are alike. -/
theorem markDelivered_of_alike {faults faults' : Faults} (h : faults.Alike faults')
    (d : Dispatcher) (id : String) (clock : Except Failure Reading) :
    ((d.beset faults).markDelivered id clock).1.beset {} =
      ((d.beset faults').markDelivered id clock).1.beset {} := by
  cases clock with
  | error f => rfl
  | ok now =>
    obtain ⟨_, hstore⟩ := Store.move_of_alike h d.store id ⟨Status.delivered.name, now, none⟩
    exact congrArg (fun store => { d with store := store }) hstore

/-- Keeping preferences does not depend on the failures in force. -/
theorem putPreference_beset (faults : Faults) (d : Dispatcher) (p : Preference) :
    ((d.beset faults).putPreference p).1.beset {} = (d.putPreference p).1.beset {} := by
  obtain ⟨⟨backing, _⟩, _, _, _, _⟩ := d
  cases backing with
  | memory history shelf => rfl
  | database db =>
    simp only [Dispatcher.putPreference, Dispatcher.beset, Store.putPreference, Store.beset]
    cases db.putPreference p <;> rfl

/-- A turn comes to the same under failures that are alike. -/
theorem after_of_alike (h : t.Alike t') (k : Desk) : k.after t = k.after t' := by
  obtain ⟨faults, turn⟩ := t
  obtain ⟨faults', turn'⟩ := t'
  obtain ⟨alike, rfl⟩ := h
  cases turn with
  | start q s =>
    obtain ⟨hprogress, hdispatcher⟩ := Dispatcher.start_of_alike alike k.dispatcher q s
    simp only [after, hprogress, hdispatcher]
  | land i l =>
    simp only [after]
    split
    · rename_i flight _
      obtain ⟨hending, hdispatcher⟩ :=
        Dispatcher.finish_of_alike alike k.dispatcher flight l.completion l.clock
      rw [hending, hdispatcher]
    · rfl
  | markDelivered id clock => simp only [after, markDelivered_of_alike alike]
  | putPreference p => simp only [after, putPreference_beset]
  | register templates => rfl

/-- Runs come to the same under failures that are alike. -/
theorem run_of_alike (h : List.Forall₂ BesetTurn.Alike turns turns') (k : Desk) :
    k.run turns = k.run turns' := by
  induction h generalizing k with
  | nil => rfl
  | @cons t t' rest rest' alike _ ih =>
    have step : k.after t = k.after t' := after_of_alike alike k
    calc k.run (t :: rest) = (k.after t).run rest := rfl
      _ = (k.after t').run rest' := by rw [step]; exact ih _
      _ = k.run (t' :: rest') := rfl

/-- A turn is discreet if every send that a failure of keeping records hits in it ends with a fixed
text: one for appending the record, and another for all else. -/
structure Discreet (k : Desk) (t : BesetTurn) : Prop where
  start : ∀ q s text, t.turn = .start q s →
    (k.dispatcher.beset t.faults).HitAtStart q s text →
      (k.after t).sends = k.sends ++ [.ended (.receipt ⟨false, none, some text⟩)]
  land : ∀ i l flight, t.turn = .land i l → k.sends[i]? = some (.flying flight) →
    (k.dispatcher.beset t.faults).HitAtEnd flight l →
      (k.after t).sends = k.sends.set i (.ended (.receipt ⟨false, some flight.record.id,
        some Dispatcher.historyUnavailable⟩))

theorem discreet (k : Desk) (t : BesetTurn) : k.Discreet t := by
  obtain ⟨faults, turn⟩ := t
  constructor
  · rintro q s text rfl hit
    simp only [after, hit.progress]
  · rintro i l flight rfl flying hit
    simp only [after, flying, hit.ending]

/-- Runs in which the same happens under failures that differ at most in what keeping records has to
say of itself come to the same at every point: in how each send ends, in the records of those in
flight, and in all that is kept. And whoever's send is hit by a failure of keeping records is told
one of two fixed texts. -/
theorem run_keeps_failures_to_itself (h : List.Forall₂ BesetTurn.Alike turns turns') (k : Desk)
    (n : Nat) : k.run (turns.take n) = k.run (turns'.take n) ∧
      ∀ t, turns[n]? = some t → (k.run (turns.take n)).Discreet t :=
  ⟨run_of_alike (List.forall₂_take n h) k, fun t _ => discreet _ t⟩

/-- Failures befall the preferences, the append and the move of three sends. -/
theorem run_keeps_failures_to_itself_three :
    let template : Template := { id := "t", eventType := "offer-letter", subject := "Offer" }
    let k : Desk := ⟨{ store := .inDatabase, registry := [template] }, []⟩
    let now := Except.ok (Reading.ofInstant Record.morning)
    let send : Traffic.Turn := .start ⟨"ada", "offer-letter", [], []⟩ ⟨now, fun _ => .ok "n1"⟩
    let turns := fun failure : Failure => ([
      ⟨{ preference := some failure }, send⟩, ⟨{ append := some failure }, send⟩, ⟨{}, send⟩,
      ⟨{ move := some failure }, .land 2 ⟨.reported .accepted, now⟩⟩] : List BesetTurn)
    let secret := Failure.persistence "SELECT * FROM passwords"
    let other := Failure.mishap ⟨.integrity, none⟩
    List.Forall₂ BesetTurn.Alike (turns secret) (turns other) ∧
      (k.run ((turns secret).take 4) = k.run ((turns other).take 4) ∧
        ∀ t, (turns secret)[4]? = some t → (k.run ((turns secret).take 4)).Discreet t) ∧
      (k.run (turns secret)).sends.map (fun p => match p with
        | .ended (.receipt r) => r.error
        | _ => none) = [some "notification history unavailable",
          some "failed to record notification", some "notification history unavailable"] := by
  intro template k now send turns secret other
  have alike : secret.Alike other := .inr ⟨rfl, rfl⟩
  have turnsAlike : List.Forall₂ BesetTurn.Alike (turns secret) (turns other) := by
    refine .cons ⟨⟨.none, .none, .some alike⟩, rfl⟩ (.cons ⟨⟨.some alike, .none, .none⟩, rfl⟩ ?_)
    exact .cons ⟨⟨.none, .none, .none⟩, rfl⟩ (.cons ⟨⟨.none, .some alike, .none⟩, rfl⟩ .nil)
  exact ⟨turnsAlike, run_keeps_failures_to_itself turnsAlike k 4, by decide +kernel⟩

end Desk

end Courier
