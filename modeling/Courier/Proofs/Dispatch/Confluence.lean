import Courier.Proofs.Dispatch.Landing
import Courier.Proofs.Store.Independence

/-!
# Sends in any order

Sends that share a dispatcher are started in a given order, and their transport calls end in any
order, also before later sends are started (`Round.Turn`). Starting a send and finishing an earlier
one are independent, and so is finishing two of them, because they move different records
(`Dispatcher.independent_start_finish`, `Dispatcher.independent_finish_finish`). So the first send
can be finished at once, wherever its end stands among the turns, and the others are none the wiser
(`Round.Ahead`). Main statement: every round comes to what sending one after the other comes to
(`Round.run_eq_oneByOne`), in every ending and in everything that is kept.
-/

namespace Courier

namespace Dispatcher

variable {d d' : Dispatcher} {q : Request} {s : Surroundings} {flight other : Flight}
  {c c' : Completion} {clock clock' : Except Failure Reading} {m : Record.Move} {r : Record}

/-! ## What the halves of a send depend on -/

/-- What the end of a transport call asks of the store, if anything. -/
def moveOf? (c : Completion) (clock : Except Failure Reading) : Option Record.Move :=
  match c.report?, clock with
  | some report, .ok now => some (moveFor report now)
  | _, _ => none

/-- Without a move, finishing a send changes nothing. -/
theorem finish_of_no_move (h : moveOf? c clock = none) (d : Dispatcher) (flight : Flight) :
    (d.finish flight c clock).1 = d := by
  cases hreport : c.report? with
  | none => exact finish_of_no_report hreport
  | some report =>
    rw [finish_of_report hreport]
    cases clock with
    | error f => rfl
    | ok now => simp [moveOf?, hreport] at h

/-- With a move, finishing a send moves the record. -/
theorem finish_of_move (h : moveOf? c clock = some m) (d : Dispatcher) (flight : Flight) :
    (d.finish flight c clock).1 = { d with store := (d.store.move flight.record.id m).1 } := by
  cases hreport : c.report? with
  | none => simp [moveOf?, hreport] at h
  | some report =>
    rw [finish_of_report hreport]
    cases clock with
    | error f => simp [moveOf?, hreport] at h
    | ok now =>
      obtain rfl : moveFor report now = m := by simpa [moveOf?, hreport] using h
      unfold conclude
      dsimp only
      cases (d.store.move flight.record.id (moveFor report now)).2.answer <;> rfl

/-- How a send is told to have ended depends on the time limit and on the answer to the move. -/
theorem finish_congr (limit : d'.timeout = d.timeout)
    (same : ∀ m, moveOf? c clock = some m →
      (d'.store.move flight.record.id m).2 = (d.store.move flight.record.id m).2) :
    (d'.finish flight c clock).2 = (d.finish flight c clock).2 := by
  have told : ∀ report, c.report? = some report →
      (d'.conclude flight report clock).2 = (d.conclude flight report clock).2 := by
    intro report hreport
    cases clock with
    | error f => rfl
    | ok now =>
      have hmove := same (moveFor report now) (by simp [moveOf?, hreport])
      unfold conclude
      dsimp only
      rw [hmove]
      cases (d.store.move flight.record.id (moveFor report now)).2.answer <;> rfl
  cases hreport : c.report? with
  | some report =>
    rw [finish_of_report hreport, finish_of_report hreport]
    exact told report hreport
  | none =>
    cases c with
    | reported report => cases hreport
    | raised f =>
      unfold Completion.report? at hreport
      unfold finish
      dsimp only at hreport ⊢
      split at hreport
      · rename_i stopped
        rw [if_pos stopped, if_pos stopped]
      · cases hreport
    | timedOut => simp only [finish, limit]
    | cancelled => rfl

theorem timeout_finish (d : Dispatcher) (flight : Flight) (c : Completion)
    (clock : Except Failure Reading) : (d.finish flight c clock).1.timeout = d.timeout := by
  cases h : moveOf? c clock with
  | none => rw [finish_of_no_move h]
  | some m => rw [finish_of_move h]

theorem plan_congr
    (preference : d'.store.preference? q.recipient = d.store.preference? q.recipient)
    (registry : d'.registry = d.registry) : d'.plan q s = d.plan q s := by
  unfold plan
  rw [preference, registry]

/-- What a request asks of the store. -/
def recordOf? : Plan → Option Record
  | .ready r _ => some r
  | .declined _ | .failed _ => none

/-- Without a record, starting a send changes nothing. -/
theorem start_of_no_record (h : recordOf? (d.plan q s).1 = none) : (d.start q s).1 = d := by
  unfold start
  dsimp only
  split
  · rfl
  · rfl
  · rename_i hready
    rw [hready] at h
    cases h

/-- With a record, starting a send appends it. -/
theorem start_of_record (h : recordOf? (d.plan q s).1 = some r) :
    (d.start q s).1 = { d with store := (d.store.append r).1 } := by
  unfold start
  dsimp only
  split
  · rename_i hplan
    rw [hplan] at h
    cases h
  · rename_i hplan
    rw [hplan] at h
    cases h
  · rename_i hplan
    rw [hplan] at h
    obtain rfl := Option.some.inj h
    split
    · split <;> rfl
    · rfl

/-- How far a send is told to have come depends on its plan and on the answer to the append. -/
theorem start_congr (plan : d'.plan q s = d.plan q s)
    (same : ∀ r, recordOf? (d.plan q s).1 = some r →
      (d'.store.append r).2 = (d.store.append r).2) :
    (d'.start q s).2 = (d.start q s).2 := by
  unfold start
  rw [plan]
  dsimp only
  split
  · rfl
  · rfl
  · rename_i r _ _ hplan
    rw [same r (by rw [hplan]; rfl)]
    split
    · split <;> rfl
    · rfl

theorem timeout_start (d : Dispatcher) (q : Request) (s : Surroundings) :
    (d.start q s).1.timeout = d.timeout := by
  cases h : recordOf? (d.plan q s).1 with
  | none => rw [start_of_no_record h]
  | some r => rw [start_of_record h]

/-! ## Independence -/

/-- A transport call that ends without a move is independent of all that leaves the time limit
alone. -/
theorem independent_of_no_move {β : Type} {b : Dispatcher → Dispatcher × β}
    (h : moveOf? c clock = none) (limit : (b d).1.timeout = d.timeout) :
    Independent (fun d => d.finish flight c clock) b d where
  first := finish_congr limit fun m hm => by rw [h] at hm; cases hm
  second := by simp only [finish_of_no_move h]
  state := by simp only [finish_of_no_move h]

/-- Finishing two sends with different records is independent. -/
theorem independent_finish_finish (hne : flight.record.id ≠ other.record.id) (c c' : Completion)
    (clock clock' : Except Failure Reading) (d : Dispatcher) :
    Independent (fun d => d.finish flight c clock) (fun d => d.finish other c' clock') d := by
  cases h : moveOf? c clock with
  | none => exact independent_of_no_move h (timeout_finish d other c' clock')
  | some m =>
    cases h' : moveOf? c' clock' with
    | none => exact (independent_of_no_move h' (timeout_finish d flight c clock)).symm
    | some m' =>
      have stores := Store.independent_move_move hne m m' d.store
      have moved := finish_of_move h
      have moved' := finish_of_move h'
      constructor
      · refine finish_congr (timeout_finish d other c' clock') fun m₀ hm₀ => ?_
        obtain rfl : m = m₀ := Option.some.inj (h.symm.trans hm₀)
        rw [moved']
        exact stores.first
      · refine finish_congr (timeout_finish d flight c clock) fun m₀ hm₀ => ?_
        obtain rfl : m' = m₀ := Option.some.inj (h'.symm.trans hm₀)
        rw [moved]
        exact stores.second
      · simp only [moved, moved']
        rw [stores.state]

/-- Starting a send and finishing one whose record is there already are independent. -/
theorem independent_start_finish (has : d.store.Has flight.record.id) (q : Request)
    (s : Surroundings) (c : Completion) (clock : Except Failure Reading) :
    Independent (fun d => d.start q s) (fun d => d.finish flight c clock) d := by
  cases h : moveOf? c clock with
  | none => exact (independent_of_no_move h (timeout_start d q s)).symm
  | some m =>
    have moved := finish_of_move h
    have plan : (d.finish flight c clock).1.plan q s = d.plan q s := by
      rw [moved]
      exact plan_congr (Store.preference?_move d.store flight.record.id m q.recipient) rfl
    cases hrecord : recordOf? (d.plan q s).1 with
    | none =>
      have same := start_of_no_record hrecord
      have hrecord' := hrecord
      rw [← plan] at hrecord'
      constructor
      · refine start_congr plan fun r hr => ?_
        rw [hrecord] at hr
        cases hr
      · simp only [same]
      · simp only [same, start_of_no_record hrecord']
    | some r =>
      have appended := start_of_record hrecord
      have stores := Store.independent_append_move has r m
      have hrecord' := hrecord
      rw [← plan] at hrecord'
      constructor
      · refine start_congr plan fun r₀ hr₀ => ?_
        obtain rfl : r = r₀ := Option.some.inj (hrecord.symm.trans hr₀)
        rw [moved]
        exact stores.first
      · refine finish_congr (timeout_start d q s) fun m₀ hm₀ => ?_
        obtain rfl : m = m₀ := Option.some.inj (h.symm.trans hm₀)
        rw [appended]
        exact stores.second
      · rw [start_of_record hrecord', moved, moved, appended]
        exact congrArg (fun store => { d with store := store }) stores.state

/-! ## Records that are there -/

theorem has_finish {id : String} (has : d.store.Has id) (flight : Flight) (c : Completion)
    (clock : Except Failure Reading) : (d.finish flight c clock).1.store.Has id := by
  cases h : moveOf? c clock with
  | none => rwa [finish_of_no_move h]
  | some m =>
    rw [finish_of_move h]
    exact has.move flight.record.id m

theorem has_start {id : String} (has : d.store.Has id) (q : Request) (s : Surroundings) :
    (d.start q s).1.store.Has id := by
  cases h : recordOf? (d.plan q s).1 with
  | none => rwa [start_of_no_record h]
  | some r =>
    rw [start_of_record h]
    exact has.append r

/-- The record of a send in flight was not there before, and is there now. -/
theorem has_of_flying (h : (d.start q s).2.1 = .flying flight) :
    ¬d.store.Has flight.record.id ∧ (d.start q s).1.store.Has flight.record.id := by
  have hstart : d.start q s = ((d.start q s).1, .flying flight, (d.start q s).2.2) := by rw [← h]
  obtain ⟨_, _, ⟨kept, hkept⟩, hd⟩ := of_flying hstart
  obtain ⟨fresh, has⟩ := Store.has_append_iff hkept
  rw [hd]
  exact ⟨fresh, (has _).mpr (.inr rfl)⟩

end Dispatcher

/-! ## Rounds -/

/-- A send with all that it is going to meet: the surroundings in which it is started, and the end
of its transport call, should it come to one. -/
structure Journey where
  request : Request
  surroundings : Surroundings
  landing : Landing

namespace Dispatcher

/-- A send from its start to its end. -/
def travel (d : Dispatcher) (j : Journey) : Dispatcher × Ending :=
  let (started, progress, _) := d.start j.request j.surroundings
  match progress with
  | .ended e => (started, e)
  | .flying flight =>
    let (finished, e, _) := started.finish flight j.landing.completion j.landing.clock
    (finished, e)

/-- Sends one after the other, and how each of them ends. -/
def oneByOne (d : Dispatcher) : List Journey → Dispatcher × List Ending
  | [] => (d, [])
  | j :: rest =>
    let (next, e) := d.travel j
    let (last, endings) := next.oneByOne rest
    (last, e :: endings)

end Dispatcher

/-- Sends that share a dispatcher, as far as they have come, in the order in which they were
started. -/
structure Round where
  dispatcher : Dispatcher
  progress : List Progress := []

namespace Round

/-- What may happen next. -/
inductive Turn where
  /-- The next send is started. -/
  | start
  /-- The transport call of a send ends. -/
  | finish (i : Nat)
deriving DecidableEq, Repr

/-- The round after a turn. There is nothing to start after the last send, and nothing to finish of
a send that is not in flight. -/
def after (journeys : List Journey) (r : Round) : Turn → Round
  | .start =>
    match journeys[r.progress.length]? with
    | none => r
    | some j =>
      let (d, progress, _) := r.dispatcher.start j.request j.surroundings
      ⟨d, r.progress ++ [progress]⟩
  | .finish i =>
    match journeys[i]?, r.progress[i]? with
    | some j, some (.flying flight) =>
      let (d, e, _) := r.dispatcher.finish flight j.landing.completion j.landing.clock
      ⟨d, r.progress.set i (.ended e)⟩
    | _, _ => r

theorem after_start {journeys : List Journey} {r : Round} {j : Journey}
    (hj : journeys[r.progress.length]? = some j) : r.after journeys .start =
      ⟨(r.dispatcher.start j.request j.surroundings).1,
        r.progress ++ [(r.dispatcher.start j.request j.surroundings).2.1]⟩ := by
  simp only [after, hj]

theorem after_finish {journeys : List Journey} {r : Round} {i : Nat} {j : Journey}
    {flight : Flight} (hj : journeys[i]? = some j) (hp : r.progress[i]? = some (.flying flight)) :
    r.after journeys (.finish i) =
      ⟨(r.dispatcher.finish flight j.landing.completion j.landing.clock).1, r.progress.set i
        (.ended (r.dispatcher.finish flight j.landing.completion j.landing.clock).2.1)⟩ := by
  simp only [after, hj, hp]

theorem after_finish_of_none {journeys : List Journey} {r : Round} {i : Nat}
    (h : ¬∃ j flight, journeys[i]? = some j ∧ r.progress[i]? = some (.flying flight)) :
    r.after journeys (.finish i) = r := by
  unfold after
  dsimp only
  split
  · rename_i j flight hj hp
    exact absurd ⟨j, flight, hj, hp⟩ h
  · rfl

/-- The round after turns. -/
def run (journeys : List Journey) (r : Round) (turns : List Turn) : Round :=
  turns.foldl (after journeys) r

/-- Turns see as many sends to their end: each is started, and finished some time after that. -/
def Complete (sends : Nat) (turns : List Turn) : Prop :=
  ∀ i < sends, ∃ before rest, turns = before ++ .finish i :: rest ∧ i < before.count .start

/-! ## The first send -/

variable {j : Journey} {r r' : Round} {flight : Flight} {e : Ending}

/-- A round with one more send before all others, which has ended. -/
def behind (e : Ending) (r : Round) : Round := ⟨r.dispatcher, .ended e :: r.progress⟩

/-- A turn as seen by all sends but the first. -/
def Turn.past : Turn → Option Turn
  | start => some start
  | finish 0 => none
  | finish (i + 1) => some (finish i)

/-- Once it has ended, the first send has no part in what happens. -/
theorem after_behind (j : Journey) (journeys : List Journey) (e : Ending) (r : Round)
    (turn : Turn) : (r.behind e).after (j :: journeys) turn =
      (turn.past.elim r (r.after journeys)).behind e := by
  cases turn with
  | start =>
    simp only [after, behind, Turn.past, Option.elim, List.length_cons, List.getElem?_cons_succ]
    cases journeys[r.progress.length]? <;> rfl
  | finish i =>
    cases i with
    | zero => rfl
    | succ i =>
      simp only [after, behind, Turn.past, Option.elim, List.getElem?_cons_succ]
      cases journeys[i]? with
      | none => rfl
      | some j' =>
        cases r.progress[i]? with
        | none => rfl
        | some p => cases p <;> rfl

theorem run_cons (journeys : List Journey) (r : Round) (turn : Turn) (turns : List Turn) :
    r.run journeys (turn :: turns) = (r.after journeys turn).run journeys turns := rfl

theorem run_behind (j : Journey) (journeys : List Journey) (e : Ending) (r : Round)
    (turns : List Turn) : (r.behind e).run (j :: journeys) turns =
      (r.run journeys (turns.filterMap Turn.past)).behind e := by
  induction turns generalizing r with
  | nil => rfl
  | cons turn turns ih =>
    rw [run_cons, after_behind, ih]
    cases hpast : turn.past with
    | none => rw [List.filterMap_cons_none hpast]; rfl
    | some turn' => rw [List.filterMap_cons_some hpast]; rfl

/-- A round with the first send in flight goes along with a round of the other sends in which the
first one was finished beforehand. -/
structure Ahead (j : Journey) (flight : Flight) (e : Ending) (r r' : Round) : Prop where
  progress : r.progress = .flying flight :: r'.progress
  has : r.dispatcher.store.Has flight.record.id
  others : ∀ g, .flying g ∈ r'.progress → flight.record.id ≠ g.record.id
  dispatcher : (r.dispatcher.finish flight j.landing.completion j.landing.clock).1 = r'.dispatcher
  ending : (r.dispatcher.finish flight j.landing.completion j.landing.clock).2.1 = e

namespace Ahead

/-- The two rounds meet as soon as the first send is finished. -/
theorem finish (h : Ahead j flight e r r') (journeys : List Journey) :
    r.after (j :: journeys) (.finish 0) = r'.behind e := by
  have hfirst : r.progress[0]? = some (.flying flight) := by rw [h.progress]; rfl
  rw [after_finish List.getElem?_cons_zero hfirst, h.progress, h.dispatcher, h.ending]
  rfl

/-- Starting another send keeps the rounds together. -/
theorem start (h : Ahead j flight e r r') (journeys : List Journey) :
    Ahead j flight e (r.after (j :: journeys) .start) (r'.after journeys .start) := by
  have hlength : r.progress.length = r'.progress.length + 1 := by
    rw [h.progress, List.length_cons]
  cases hj : journeys[r'.progress.length]? with
  | none =>
    have same : r.after (j :: journeys) .start = r := by
      simp only [after, hlength, List.getElem?_cons_succ, hj]
    have same' : r'.after journeys .start = r' := by simp only [after, hj]
    rw [same, same']
    exact h
  | some next =>
    have hnext : (j :: journeys)[r.progress.length]? = some next := by
      rw [hlength, List.getElem?_cons_succ, hj]
    have independent := Dispatcher.independent_start_finish h.has next.request
      next.surroundings j.landing.completion j.landing.clock
    have answer := independent.first
    rw [h.dispatcher] at answer
    rw [after_start hnext, after_start hj, answer]
    refine ⟨by rw [h.progress, List.cons_append], Dispatcher.has_start h.has _ _, ?_, ?_, ?_⟩
    · intro g hg
      rcases List.mem_append.mp hg with hg | hg
      · exact h.others g hg
      · have hflying := (List.mem_singleton.mp hg).symm
        rintro hid
        exact (Dispatcher.has_of_flying hflying).1 (hid ▸ h.has)
    · rw [← h.dispatcher]
      exact independent.state
    · rw [← h.ending]
      exact congrArg Prod.fst independent.second

/-- Finishing another send keeps the rounds together. -/
theorem finish_succ (h : Ahead j flight e r r') (journeys : List Journey) (i : Nat) :
    Ahead j flight e (r.after (j :: journeys) (.finish (i + 1)))
      (r'.after journeys (.finish i)) := by
  have hprogress : r.progress[i + 1]? = r'.progress[i]? := by
    rw [h.progress, List.getElem?_cons_succ]
  by_cases going : ∃ next g, journeys[i]? = some next ∧ r'.progress[i]? = some (.flying g)
  · obtain ⟨next, g, hj, hg⟩ := going
    have hne := h.others g (List.mem_of_getElem? hg)
    have independent := Dispatcher.independent_finish_finish hne j.landing.completion
      next.landing.completion j.landing.clock next.landing.clock r.dispatcher
    have answer := independent.second
    have hnext : (j :: journeys)[i + 1]? = some next := by rw [List.getElem?_cons_succ, hj]
    rw [h.dispatcher] at answer
    rw [after_finish hnext (hprogress.trans hg), after_finish hj hg, answer]
    refine ⟨by rw [h.progress, List.set_cons_succ], Dispatcher.has_finish h.has _ _ _, ?_, ?_, ?_⟩
    · intro g' hg'
      rcases List.mem_or_eq_of_mem_set hg' with hg' | hg'
      · exact h.others g' hg'
      · cases hg'
    · rw [← h.dispatcher]
      exact independent.state.symm
    · rw [← h.ending]
      exact congrArg Prod.fst independent.first
  · have going' : ¬∃ next g, (j :: journeys)[i + 1]? = some next ∧
        r.progress[i + 1]? = some (.flying g) := by
      rwa [hprogress, List.getElem?_cons_succ]
    rw [after_finish_of_none going, after_finish_of_none going']
    exact h

/-- The first send may as well be finished at once. -/
theorem run {turns : List Turn} (h : Ahead j flight e r r') (journeys : List Journey)
    (finished : .finish 0 ∈ turns) :
    r.run (j :: journeys) turns = (r'.run journeys (turns.filterMap Turn.past)).behind e := by
  induction turns generalizing r r' with
  | nil => cases finished
  | cons turn turns ih =>
    rw [run_cons]
    cases turn with
    | start =>
      rw [ih (h.start journeys) (by simpa using finished)]
      rfl
    | finish i =>
      cases i with
      | zero =>
        rw [h.finish journeys, run_behind]
        rfl
      | succ i =>
        rw [ih (h.finish_succ journeys i) (by simpa using finished)]
        rfl

end Ahead

/-! ## All sends -/

theorem run_append (journeys : List Journey) (r : Round) (turns more : List Turn) :
    r.run journeys (turns ++ more) = (r.run journeys turns).run journeys more :=
  List.foldl_append

/-- Nothing happens before the first send is started. -/
theorem run_of_no_start (journeys : List Journey) (d : Dispatcher) {turns : List Turn}
    (h : .start ∉ turns) : run journeys ⟨d, []⟩ turns = ⟨d, []⟩ := by
  induction turns with
  | nil => rfl
  | cons turn turns ih =>
    rw [List.mem_cons, not_or] at h
    cases turn with
    | start => exact absurd rfl h.1
    | finish i =>
      rw [run_cons, after_finish_of_none (by simp), ih h.2]

/-- Without sends nothing happens at all. -/
theorem run_nil (r : Round) (turns : List Turn) : r.run [] turns = r := by
  induction turns with
  | nil => rfl
  | cons turn turns ih =>
    have same : r.after [] turn = r := by cases turn <;> rfl
    rw [run_cons, same, ih]

theorem count_start_past (turns : List Turn) :
    (turns.filterMap Turn.past).count .start = turns.count .start := by
  induction turns with
  | nil => rfl
  | cons turn turns ih =>
    cases turn with
    | start => simp [Turn.past, ih]
    | finish i =>
      have none : (Turn.finish i :: turns).count .start = turns.count .start := by simp
      rw [none]
      cases i with
      | zero => exact ih
      | succ i => simpa [Turn.past] using ih

/-- What comes after a start comes after the first start. -/
theorem exists_of_append_eq {before rest first more : List Turn} {i : Nat}
    (h : first ++ .finish i :: more = before ++ .start :: rest) (early : .start ∉ before)
    (started : 0 < first.count .start) :
    ∃ between, first = before ++ .start :: between ∧ rest = between ++ .finish i :: more := by
  have hmem : .start ∈ first := List.count_pos_iff.mp started
  rcases List.append_eq_append_iff.mp h with ⟨tail, hbefore, _⟩ | ⟨tail, hfirst, htail⟩
  · exact absurd (hbefore ▸ List.mem_append_left tail hmem) early
  · cases tail with
    | nil => cases htail
    | cons turn between =>
      obtain ⟨rfl, hrest⟩ := List.cons.inj htail
      exact ⟨between, hfirst, hrest⟩

/-- Turns that see several sends to their end start the first one, finish it later, and see the
others to their end after its start. -/
theorem Complete.split {sends : Nat} {turns : List Turn} (h : Complete (sends + 1) turns) :
    ∃ before rest, turns = before ++ .start :: rest ∧ .start ∉ before ∧ .finish 0 ∈ rest ∧
      Complete sends (rest.filterMap Turn.past) := by
  obtain ⟨first, more, hturns, started⟩ := h 0 (Nat.succ_pos sends)
  have hstart : .start ∈ turns := by
    rw [hturns]
    exact List.mem_append_left _ (List.count_pos_iff.mp started)
  obtain ⟨before, rest, hsplit, early⟩ := List.eq_append_cons_of_mem hstart
  refine ⟨before, rest, hsplit, early, ?_, fun i hi => ?_⟩
  · obtain ⟨between, _, hrest⟩ := exists_of_append_eq (hturns.symm.trans hsplit) early started
    rw [hrest]
    exact List.mem_append_right _ List.mem_cons_self
  · obtain ⟨first, more, hturns, started⟩ := h (i + 1) (Nat.succ_lt_succ hi)
    obtain ⟨between, hfirst, hrest⟩ :=
      exists_of_append_eq (hturns.symm.trans hsplit) early (Nat.zero_lt_of_lt started)
    refine ⟨between.filterMap Turn.past, more.filterMap Turn.past, ?_, ?_⟩
    · rw [hrest, List.filterMap_append]
      rfl
    · have none : before.count .start = 0 := List.count_eq_zero.mpr early
      rw [hfirst, List.count_append, none, List.count_cons_self] at started
      rw [count_start_past]
      omega

/-- Turns that start all sends and then finish them in any order see them to their end. -/
theorem complete_of_perm {sends : Nat} {order : List Nat} (h : order.Perm (List.range sends)) :
    Complete sends (List.replicate sends .start ++ order.map .finish) := by
  intro i hi
  have hmem : i ∈ order := h.mem_iff.mpr (List.mem_range.mpr hi)
  obtain ⟨before, rest, rfl⟩ := List.append_of_mem hmem
  refine ⟨List.replicate sends .start ++ before.map .finish, rest.map .finish, by simp, ?_⟩
  rw [List.count_append, List.count_replicate_self]
  omega

/-- However their ends fall among their starts, sends that share a dispatcher end as they end when
they are sent one after the other, and leave the dispatcher as it is then: nobody can tell the order
from receipts, records or statistics. -/
theorem run_eq_oneByOne {journeys : List Journey} {turns : List Turn}
    (complete : Complete journeys.length turns) (d : Dispatcher) :
    run journeys ⟨d, []⟩ turns =
      ⟨(d.oneByOne journeys).1, (d.oneByOne journeys).2.map .ended⟩ := by
  induction journeys generalizing turns d with
  | nil => exact run_nil ⟨d, []⟩ turns
  | cons j journeys ih =>
    obtain ⟨before, rest, rfl, early, finished, complete'⟩ := complete.split
    have first : (j :: journeys)[(⟨d, []⟩ : Round).progress.length]? = some j := rfl
    rw [run_append, run_of_no_start _ _ early, run_cons, after_start first]
    cases hprogress : (d.start j.request j.surroundings).2.1 with
    | ended e =>
      have hrun := run_behind j journeys e ⟨(d.start j.request j.surroundings).1, []⟩ rest
      rw [ih complete'] at hrun
      simp only [Dispatcher.oneByOne, Dispatcher.travel, hprogress]
      exact hrun
    | flying flight =>
      have ahead : Ahead j flight _ ⟨(d.start j.request j.surroundings).1, [.flying flight]⟩
          ⟨_, []⟩ :=
        ⟨rfl, (Dispatcher.has_of_flying hprogress).2, by simp, rfl, rfl⟩
      have hrun := ahead.run journeys finished
      rw [ih complete'] at hrun
      simp only [Dispatcher.oneByOne, Dispatcher.travel, hprogress]
      exact hrun

/-- Three sends over a database, of which the second fails and the third takes too long: finished
from the last to the first, and finished in part before the last is started. -/
theorem run_eq_oneByOne_three :
    let template : Template := { id := "t", eventType := "offer-letter", subject := "Offer" }
    let d : Dispatcher := { store := .inDatabase, registry := [template] }
    let now := Except.ok (Reading.ofInstant Record.morning)
    let journey := fun recipient id completion =>
      (⟨⟨recipient, "offer-letter", [], []⟩, ⟨now, fun _ => .ok id⟩, ⟨completion, now⟩⟩ : Journey)
    let journeys := [journey "ada" "n1" (.reported .accepted),
      journey "bob" "n2" (.reported (.refused (some "no such mailbox"))),
      journey "cyd" "n3" .timedOut]
    let late := List.replicate 3 Turn.start ++ [2, 1, 0].map .finish
    let early := [Turn.start, .start, .finish 1, .start, .finish 0, .finish 2]
    Complete 3 late ∧ Complete 3 early ∧
      run journeys ⟨d, []⟩ late = run journeys ⟨d, []⟩ early ∧
      ((run journeys ⟨d, []⟩ late).dispatcher.store.all.answer.toOption.map fun records =>
        records.map Record.status) = some [.sent, .failed, .pending] := by
  intro template d now journey journeys late early
  have completeLate : Complete 3 late := complete_of_perm (by decide)
  have completeEarly : Complete 3 early := by
    intro i hi
    match i, hi with
    | 0, _ => exact ⟨[.start, .start, .finish 1, .start], [.finish 2], rfl, by decide⟩
    | 1, _ => exact ⟨[.start, .start], [.start, .finish 0, .finish 2], rfl, by decide⟩
    | 2, _ => exact ⟨[.start, .start, .finish 1, .start, .finish 0], [], rfl, by decide⟩
  have hlate := @run_eq_oneByOne journeys late completeLate d
  have hearly := @run_eq_oneByOne journeys early completeEarly d
  exact ⟨completeLate, completeEarly, hlate.trans hearly.symm, by decide +kernel⟩

end Round

end Courier
