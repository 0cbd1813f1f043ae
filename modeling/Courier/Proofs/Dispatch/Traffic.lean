import Courier.Proofs.Dispatch.Landing
import Courier.Proofs.History.Growth

/-!
# Sends in flight

Any number of sends share a dispatcher. What happens comes in turns (`Traffic.Turn`): a send is
started, a transport call that is under way comes to an end, a delivery is confirmed, or preferences
and templates change. A run is any list of turns, so every interleaving is one. The transport calls
are kept in the order in which they were made, each with the dispatcher as it was when the send
started and when the transport was called.

Every state of a run keeps an invariant (`Traffic.Sound`), and any later state has gone on from it
(`Traffic.Progress`). Main statement: `Traffic.run_serves_each_call_once`.
-/

namespace Courier

/-- A dispatcher works if nothing hinders its store and no two records there have the same
identifier. -/
def Dispatcher.Works (d : Dispatcher) : Prop :=
  d.store.faults = {} ∧ ∃ h, d.store.Keeps h ∧ h.Distinct

/-- A dispatcher with the transport calls made so far. -/
structure Traffic where
  dispatcher : Dispatcher
  calls : List TransportCall := []

namespace Traffic

/-- What may happen next. -/
inductive Turn where
  | start (q : Request) (s : Surroundings)
  /-- A transport call that is under way ends. -/
  | land (call : Nat) (landing : Landing)
  | markDelivered (id : String) (clock : Except Failure Reading)
  | putPreference (p : Preference)
  | register (templates : Registry)

/-- The traffic after a turn. Everything up to the transport call happens in one turn; a call that
is not under way cannot end. -/
def after (t : Traffic) : Turn → Traffic
  | .start q s =>
    match t.dispatcher.start q s with
    | (d, .ended _, _) => { t with dispatcher := d }
    | (d, .flying flight, _) => ⟨d, t.calls ++ [⟨q, t.dispatcher, d, flight.record, none⟩]⟩
  | .land call landing =>
    match t.calls[call]? with
    | none => t
    | some c =>
      if c.landing.isSome then t
      else
        ⟨(t.dispatcher.finish ⟨c.record⟩ landing.completion landing.clock).1,
          t.calls.set call (c.ended landing)⟩
  | .markDelivered id clock => { t with dispatcher := (t.dispatcher.markDelivered id clock).1 }
  | .putPreference p => { t with dispatcher := (t.dispatcher.putPreference p).1 }
  | .register templates => { t with dispatcher := (t.dispatcher.register templates).1 }

/-- The traffic after a run of turns. -/
def run (t : Traffic) (turns : List Turn) : Traffic := turns.foldl after t

theorem run_append (t : Traffic) (turns more : List Turn) :
    t.run (turns ++ more) = (t.run turns).run more := List.foldl_append

/-! ## Invariants -/

/-- The dispatcher keeps a history without hindrance, each record with a transport call has the
status that the call explains, and no record has two calls. -/
structure Sound (t : Traffic) (h : History) : Prop where
  keeps : t.dispatcher.store.Keeps h
  working : t.dispatcher.store.faults = {}
  distinct : h.Distinct
  once : (t.calls.map fun c => c.record.id).Nodup
  explained : ∀ c ∈ t.calls, ∃ r, h.find? c.record.id = some r ∧ c.Explains r.status
  proper : ∀ c ∈ t.calls, c.Proper

/-- Some traffic has gone on from an earlier state: the history has grown, calls have only been
added, for new records, or ended, and a pending record without a call has stayed so. -/
structure Progress (t : Traffic) (h : History) (t' : Traffic) (h' : History) : Prop where
  grows : h.Grows h'
  calls : ∃ older newer, t'.calls = older ++ newer ∧
    List.Forall₂ TransportCall.Later t.calls older ∧ ∀ c ∈ newer, h.has c.record.id = false
  uncalled : ∀ r ∈ h.records, r.status = .pending → (∀ c ∈ t.calls, c.record.id ≠ r.id) →
    ∀ r' ∈ h'.records, r'.id = r.id → r'.status = .pending

variable {t t' t'' : Traffic} {h h' h'' : History}

namespace Progress

theorem refl (t : Traffic) {h : History} (distinct : h.Distinct) : Progress t h t h where
  grows := .refl h
  calls := ⟨t.calls, [], by simp, List.forall₂_same.mpr fun c _ => .inl rfl, by simp⟩
  uncalled r hr hstatus _ r' hr' hid := by rwa [distinct.eq_of_id hr' hr hid]

theorem trans (p : Progress t h t' h') (p' : Progress t' h' t'' h'') : Progress t h t'' h'' where
  grows := p.grows.trans p'.grows
  calls := by
    obtain ⟨older, newer, hcalls, hold, hnew⟩ := p.calls
    obtain ⟨older', newer', hcalls', hold', hnew'⟩ := p'.calls
    rw [hcalls] at hold'
    obtain ⟨first, second, rfl, hfirst, hsecond⟩ := Matching.of_append_left hold'
    refine ⟨first, second ++ newer', by rw [hcalls', List.append_assoc],
      Matching.trans hold hfirst fun _ _ _ => TransportCall.Later.trans, fun c hc => ?_⟩
    rcases List.mem_append.mp hc with hc | hc
    · obtain ⟨c₀, hc₀, hlater⟩ := Matching.exists_left hsecond hc
      rw [hlater.record]
      exact hnew c₀ hc₀
    · exact p.grows.has_eq_false (hnew' c hc)
  uncalled r hr hstatus huncalled r'' hr'' hid := by
    obtain ⟨r', hr', hlater⟩ := p.grows.exists_later hr
    have hstatus' := p.uncalled r hr hstatus huncalled r' hr' hlater.id
    refine p'.uncalled r' hr' hstatus' (fun c hc => ?_) r'' hr'' (hid.trans hlater.id.symm)
    obtain ⟨older, newer, hcalls, hold, hnew⟩ := p.calls
    rw [hcalls] at hc
    rw [hlater.id]
    rcases List.mem_append.mp hc with hc | hc
    · obtain ⟨c₀, hc₀, hlater⟩ := Matching.exists_left hold hc
      rw [hlater.record]
      exact huncalled c₀ hc₀
    · rintro hid
      have := History.has_iff.mpr ⟨r, hr, hid.symm⟩
      rw [hnew c hc] at this
      cases this

end Progress

/-! ## Starting a send -/

theorem Sound.not_called (k : Sound t h) {id : String} (free : h.has id = false) :
    ∀ c ∈ t.calls, c.record.id ≠ id := by
  rintro c hc rfl
  obtain ⟨r, hfind, _⟩ := k.explained c hc
  rw [History.has_eq_false_iff.mp free] at hfind
  cases hfind

/-- A transport call for a record that has just been appended. -/
theorem Sound.call (k : Sound t h) {d : Dispatcher} {c : TransportCall} {kept : Record}
    (keeps : d.store.Keeps ⟨h.records ++ [kept]⟩) (working : d.store.faults = {})
    (free : h.has kept.id = false) (pending : kept.status = .pending) (hid : c.record.id = kept.id)
    (underway : c.landing = none) (proper : c.Proper) :
    Sound ⟨d, t.calls ++ [c]⟩ ⟨h.records ++ [kept]⟩ ∧
      Progress t h ⟨d, t.calls ++ [c]⟩ ⟨h.records ++ [kept]⟩ := by
  have distinct : History.Distinct ⟨h.records ++ [kept]⟩ :=
    k.distinct.append (History.append_ok_iff.mpr ⟨free, rfl⟩)
  have uncalled := k.not_called free
  refine ⟨⟨keeps, working, distinct, ?_, ?_, ?_⟩, ⟨.append h kept, ?_, ?_⟩⟩
  · rw [List.map_append, List.nodup_append]
    refine ⟨k.once, by simp, ?_⟩
    rintro id hold id' hnew rfl
    obtain ⟨c', hc', rfl⟩ := List.mem_map.mp hold
    exact uncalled c' hc' (by simpa [hid] using hnew)
  · intro c' hc'
    rcases List.mem_append.mp hc' with hc' | hc'
    · obtain ⟨r, hfind, explains⟩ := k.explained c' hc'
      exact ⟨r, History.find?_append_of_some hfind, explains⟩
    · obtain rfl := List.mem_singleton.mp hc'
      refine ⟨kept, ?_, ?_⟩
      · rw [hid]
        exact History.find?_append_new free
      · rw [pending]
        exact TransportCall.explains_pending (by simp [TransportCall.verdict?, underway])
  · intro c' hc'
    rcases List.mem_append.mp hc' with hc' | hc'
    · exact k.proper c' hc'
    · rwa [List.mem_singleton.mp hc']
  · refine ⟨t.calls, [c], rfl, List.forall₂_same.mpr fun c _ => .inl rfl, fun c' hc' => ?_⟩
    rw [List.mem_singleton.mp hc', hid, free]
  · intro r hr hstatus _ r' hr' hsame
    rwa [distinct.eq_of_id hr' (List.mem_append_left _ hr) hsame]

/-- Starting a send changes nothing, or appends a pending record and calls the transport for it. -/
theorem Sound.start (k : Sound t h) (q : Request) (s : Surroundings) :
    ∃ h', Sound (t.after (.start q s)) h' ∧ Progress t h (t.after (.start q s)) h' := by
  rcases hs : t.dispatcher.start q s with ⟨d, e | flight, log⟩
  · obtain ⟨rfl, _⟩ := Dispatcher.of_ended hs
    have hsame : t.after (.start q s) = t := by simp only [after, hs]
    rw [hsame]
    exact ⟨h, k, .refl t k.distinct⟩
  · obtain ⟨admits, ⟨now, _, hnew⟩, ⟨kept, hkept⟩, hd⟩ := Dispatcher.of_flying hs
    obtain ⟨free, ⟨metadata, hmetadata⟩, keeps⟩ := k.keeps.of_append hkept
    have hid : flight.record.id = kept.id := by rw [hmetadata]
    have hstatus : kept.status = .pending := by rw [hmetadata, hnew.status]
    have working : d.store.faults = {} := by
      rw [hd]
      exact (Store.faults_append _ _).trans k.working
    rw [hid] at free
    replace keeps : d.store.Keeps ⟨h.records ++ [kept]⟩ := by rwa [hd]
    have proper : TransportCall.Proper ⟨q, t.dispatcher, d, flight.record, none⟩ := by
      refine ⟨admits, hnew.recipient, kept, ?_, hstatus⟩
      rw [keeps.find?, hid]
      exact congrArg Except.ok (History.find?_append_new free)
    simp only [after, hs]
    exact ⟨_, k.call keeps working free hstatus hid rfl proper⟩

/-! ## Moving a record -/

/-- A record is moved, and the transport call for it explains its new status. A pending record is
moved by the end of its call only. -/
theorem Sound.moved (k : Sound t h) {d : Dispatcher} {calls : List TransportCall} {id : String}
    {m : Record.Move} {r' : Record} (hm : h.move id m = .ok (h', r')) (keeps : d.store.Keeps h')
    (working : d.store.faults = {}) (later : List.Forall₂ TransportCall.Later t.calls calls)
    (own : ∀ c ∈ calls, c.record.id = id → c.Explains r'.status)
    (others : ∀ c ∈ calls, c.record.id ≠ id → c ∈ t.calls)
    (cause : ∀ r, h.find? id = some r → r.status = .pending → ∃ c ∈ t.calls, c.record.id = id) :
    Sound ⟨d, calls⟩ h' ∧ Progress t h ⟨d, calls⟩ h' := by
  refine ⟨⟨keeps, working, k.distinct.move hm, ?_, ?_, ?_⟩,
    ⟨.move k.distinct hm, ⟨calls, [], by simp, later, by simp⟩, ?_⟩⟩
  · exact TransportCall.once_of_later k.once later
  · intro c hc
    by_cases hid : c.record.id = id
    · exact ⟨r', by rw [hid]; exact History.find?_of_move hm, own c hc hid⟩
    · obtain ⟨r, hfind, explains⟩ := k.explained c (others c hc hid)
      exact ⟨r, by rwa [History.find?_of_move_of_ne hm (Ne.symm hid)], explains⟩
  · intro c hc
    obtain ⟨c₀, hc₀, hlater⟩ := Matching.exists_left later hc
    exact (k.proper c₀ hc₀).later hlater
  · obtain ⟨r₀, hfind, hafter, rfl⟩ := History.of_move hm
    intro r hr hstatus uncalled s hs hsame
    have hmoved : r'.id = r₀.id := Record.id_of_after hafter
    have hne : r.id ≠ r'.id := by
      intro hid
      obtain rfl := k.distinct.eq_of_id hr (History.mem_of_find? hfind) (hid.trans hmoved)
      obtain ⟨c, hc, hcall⟩ := cause r hfind hstatus
      exact uncalled c hc (hcall.trans (History.id_of_find? hfind).symm)
    rcases History.mem_replaced hs with rfl | ⟨hs, _⟩
    · exact absurd hsame.symm hne
    · rwa [k.distinct.eq_of_id hs hr hsame]

/-- A dispatcher with a working store records a verdict, and does nothing if there is none. -/
theorem finish_cases {d : Dispatcher} {record r : Record} (keeps : d.store.Keeps h)
    (working : d.store.faults = {}) (hfind : h.find? record.id = some r)
    (pending : r.status = .pending) (l : Landing) :
    l.verdict? = none ∧ (d.finish ⟨record⟩ l.completion l.clock).1 = d ∨
      ∃ (report : Delivery) (m : Record.Move) (h' : History) (r' : Record),
        l.verdict? = some report.status ∧ r'.status = report.status ∧
        h.move record.id m = .ok (h', r') ∧
        (d.finish ⟨record⟩ l.completion l.clock).1.store.Keeps h' ∧
          (d.finish ⟨record⟩ l.completion l.clock).1.store.faults = {} := by
  have hworking : d.store.faults.move = none := by rw [working, Faults.move_none]
  cases hreport : l.completion.report? with
  | none => exact .inl ⟨by simp [Landing.verdict?, hreport], Dispatcher.finish_of_no_report hreport⟩
  | some report =>
    rw [Dispatcher.finish_of_report hreport]
    cases hclock : l.clock with
    | error f =>
      have hrecord : d.recording ⟨record⟩ report (.error f) = .error f := rfl
      exact .inl ⟨by simp [Landing.verdict?, hreport, hclock],
        (Dispatcher.conclude_of_error hrecord).1⟩
    | ok now =>
      have hmove := History.move_of_find? (Dispatcher.moveFor report now) hfind
      rw [Dispatcher.after_moveFor pending report now] at hmove
      cases htime : now.toInstant? with
      | none =>
        rw [htime] at hmove
        have hrecord : d.recording ⟨record⟩ report (.ok now) = .error .beyondCalendar :=
          keeps.answer_move_error hworking hmove
        exact .inl ⟨by simp [Landing.verdict?, hreport, hclock, htime],
          (Dispatcher.conclude_of_error hrecord).1⟩
      | some a =>
        rw [htime] at hmove
        obtain ⟨hanswer, keeps'⟩ := keeps.move_ok hworking hmove
        have hrecord : d.recording ⟨record⟩ report (.ok now) = .ok _ := hanswer
        obtain ⟨_, hnow, _, hd, _⟩ := Dispatcher.conclude_of_ok hrecord
        cases hnow
        refine .inr ⟨report, _, _, _, by simp [Landing.verdict?, hreport, hclock, htime], rfl,
          hmove, ?_⟩
        rw [hd]
        exact ⟨keeps', (Store.faults_move _ _ _).trans working⟩

/-! ## The end of a transport call -/

section land

variable {i : Nat} {c : TransportCall} {l : Landing}

theorem later_set (hc : t.calls[i]? = some c) (underway : c.landing = none) :
    List.Forall₂ TransportCall.Later t.calls (t.calls.set i (c.ended l)) :=
  Matching.set (fun _ => .inl rfl) (.inr ⟨underway, l, rfl⟩) hc

/-- A transport call that ends without a verdict changes nothing for its record. -/
theorem Sound.landed (k : Sound t h) (hc : t.calls[i]? = some c) (underway : c.landing = none)
    (none : l.verdict? = none) :
    Sound ⟨t.dispatcher, t.calls.set i (c.ended l)⟩ h ∧
      Progress t h ⟨t.dispatcher, t.calls.set i (c.ended l)⟩ h := by
  have later := later_set (l := l) hc underway
  refine ⟨⟨k.keeps, k.working, k.distinct, ?_, ?_, ?_⟩,
    ⟨.refl h, ⟨_, [], by simp, later, by simp⟩, (Progress.refl t k.distinct).uncalled⟩⟩
  · exact TransportCall.once_of_later k.once later
  · intro c' hc'
    rcases List.mem_or_eq_of_mem_set hc' with hc' | rfl
    · exact k.explained c' hc'
    · obtain ⟨r, hfind, explains⟩ := k.explained c (List.mem_of_getElem? hc)
      refine ⟨r, hfind, ?_⟩
      rw [explains.eq_pending (by simp [TransportCall.verdict?, underway])]
      exact TransportCall.explains_pending none
  · intro c' hc'
    obtain ⟨c₀, hc₀, hlater⟩ := Matching.exists_left later hc'
    exact (k.proper c₀ hc₀).later hlater

/-- A transport call that is under way ends: its record takes the verdict if there is one. -/
theorem Sound.land (k : Sound t h) (i : Nat) (l : Landing) :
    ∃ h', Sound (t.after (.land i l)) h' ∧ Progress t h (t.after (.land i l)) h' := by
  unfold after
  dsimp only
  split
  · exact ⟨h, k, .refl t k.distinct⟩
  · rename_i c hc
    split
    · exact ⟨h, k, .refl t k.distinct⟩
    · rename_i hlanding
      have underway : c.landing = none := by simpa using hlanding
      obtain ⟨r, hfind, explains⟩ := k.explained c (List.mem_of_getElem? hc)
      have pending : r.status = .pending :=
        explains.eq_pending (by simp [TransportCall.verdict?, underway])
      rcases finish_cases k.keeps k.working hfind pending l with
        ⟨hnone, hsame⟩ | ⟨report, m, h', r', hverdict, hstatus, hm, keeps, working⟩
      · rw [hsame]
        exact ⟨h, k.landed hc underway hnone⟩
      · have later := later_set (l := l) hc underway
        refine ⟨h', k.moved hm keeps working later ?_ ?_ ?_⟩
        · intro c' hc' hid
          have hmem : c.ended l ∈ t.calls.set i (c.ended l) :=
            List.mem_set (List.getElem?_eq_some_iff.mp hc).1 _
          have hsame : c' = c.ended l :=
            List.inj_on_of_nodup_map (TransportCall.once_of_later k.once later) hc' hmem hid
          rw [hsame, hstatus]
          exact TransportCall.explains_report hverdict
        · intro c' hc' hne
          rcases List.mem_or_eq_of_mem_set hc' with hc' | rfl
          · exact hc'
          · exact absurd rfl hne
        · exact fun _ _ _ => ⟨c, List.mem_of_getElem? hc, rfl⟩

end land

/-! ## Other turns -/

/-- A turn that leaves the history alone and calls nobody. -/
theorem Sound.withDispatcher (k : Sound t h) {d : Dispatcher} (keeps : d.store.Keeps h)
    (working : d.store.faults = {}) :
    Sound { t with dispatcher := d } h ∧ Progress t h { t with dispatcher := d } h :=
  ⟨⟨keeps, working, k.distinct, k.once, k.explained, k.proper⟩,
    ⟨.refl h, (Progress.refl t k.distinct).calls, (Progress.refl t k.distinct).uncalled⟩⟩

/-- A confirmed delivery moves a record that was sent, or none. -/
theorem Sound.markDelivered (k : Sound t h) (id : String) (clock : Except Failure Reading) :
    ∃ h', Sound (t.after (.markDelivered id clock)) h' ∧
      Progress t h (t.after (.markDelivered id clock)) h' := by
  cases clock with
  | error f => exact ⟨h, k, .refl t k.distinct⟩
  | ok now =>
    have hworking := k.working
    simp only [after, Dispatcher.markDelivered]
    cases hm : (t.dispatcher.store.move id ⟨Status.delivered.name, now, none⟩).2.answer with
    | error f =>
      rw [Store.move_error hm]
      exact ⟨h, k, .refl t k.distinct⟩
    | ok r' =>
      obtain ⟨h', hmove, keeps⟩ := k.keeps.of_move hm
      obtain ⟨r, hfind, hafter, _⟩ := History.of_move hmove
      obtain ⟨status, _, hstatus, _, allowed, rfl⟩ := Record.after_eq_moved hafter
      obtain rfl : Status.delivered = status := Option.some.inj hstatus
      have hsent : r.status = .sent := by
        rcases Status.mayBecome_iff.mp allowed with ⟨_, h⟩ | ⟨_, h⟩ | ⟨h, _⟩
        · cases h
        · cases h
        · exact h
      refine ⟨h', k.moved hmove keeps ((Store.faults_move _ _ _).trans k.working)
        (List.forall₂_same.mpr fun _ _ => .inl rfl) ?_ (fun _ hc _ => hc) ?_⟩
      · rintro c hc rfl
        obtain ⟨r₀, hfind₀, explains⟩ := k.explained c hc
        obtain rfl : r = r₀ := Option.some.inj (hfind.symm.trans hfind₀)
        rw [hsent] at explains
        exact explains.delivered
      · intro r₀ hfind₀ hpending
        obtain rfl : r = r₀ := Option.some.inj (hfind.symm.trans hfind₀)
        rw [hsent] at hpending
        cases hpending

theorem Sound.putPreference (k : Sound t h) (p : Preference) :
    Sound (t.after (.putPreference p)) h ∧ Progress t h (t.after (.putPreference p)) h :=
  k.withDispatcher (k.keeps.putPreference p) ((Store.faults_putPreference _ _).trans k.working)

theorem Sound.register (k : Sound t h) (templates : Registry) :
    Sound (t.after (.register templates)) h ∧ Progress t h (t.after (.register templates)) h :=
  k.withDispatcher k.keeps k.working

/-! ## Runs -/

/-- One turn keeps the invariant and goes on from the state before. -/
theorem Sound.after (k : Sound t h) (turn : Turn) :
    ∃ h', Sound (t.after turn) h' ∧ Progress t h (t.after turn) h' := by
  cases turn with
  | start q s => exact k.start q s
  | land i l => exact k.land i l
  | markDelivered id clock => exact k.markDelivered id clock
  | putPreference p => exact ⟨h, k.putPreference p⟩
  | register templates => exact ⟨h, k.register templates⟩

/-- What one turn keeps, a run keeps. -/
theorem Sound.run (k : Sound t h) (turns : List Turn) :
    ∃ h', Sound (t.run turns) h' ∧ Progress t h (t.run turns) h' := by
  induction turns generalizing t h with
  | nil => exact ⟨h, k, .refl t k.distinct⟩
  | cons turn rest ih =>
    obtain ⟨h₁, k₁, p₁⟩ := k.after turn
    obtain ⟨h₂, k₂, p₂⟩ := ih k₁
    exact ⟨h₂, k₂, p₁.trans p₂⟩

/-- A call of the transport belongs to a run if it was made in one of its turns, by a send that was
started then. -/
def Made (t : Traffic) (turns : List Turn) (c : TransportCall) : Prop :=
  ∃ before s rest, turns = before ++ .start c.request s :: rest ∧
    c.atStart = (t.run before).dispatcher ∧
    c.atCall = (t.run (before ++ [.start c.request s])).dispatcher

theorem Made.append {turns : List Turn} {c : TransportCall} (m : t.Made turns c)
    (more : List Turn) : t.Made (turns ++ more) c := by
  obtain ⟨before, s, rest, rfl, hstart, hcall⟩ := m
  exact ⟨before, s, rest ++ more, by simp, hstart, hcall⟩

theorem Made.later {turns : List Turn} {c c' : TransportCall} (m : t.Made turns c)
    (h : c.Later c') : t.Made turns c' := by
  rcases h with rfl | ⟨_, l, rfl⟩ <;> exact m

/-- The calls after a turn are those from before, and the one that a send has made that was started
in this turn. -/
theorem of_mem_after {turn : Turn} {c : TransportCall} (hc : c ∈ (t.after turn).calls) :
    (∃ c₀ ∈ t.calls, c₀.Later c) ∨ ∃ s, turn = .start c.request s ∧
      c.atStart = t.dispatcher ∧ c.atCall = (t.after turn).dispatcher := by
  cases turn with
  | start q s =>
    rcases hs : t.dispatcher.start q s with ⟨d, e | flight, log⟩
    · simp only [after, hs] at hc
      exact .inl ⟨c, hc, .inl rfl⟩
    · simp only [after, hs] at hc ⊢
      rcases List.mem_append.mp hc with hc | hc
      · exact .inl ⟨c, hc, .inl rfl⟩
      · obtain rfl := List.mem_singleton.mp hc
        exact .inr ⟨s, rfl, rfl, rfl⟩
  | land i l =>
    unfold after at hc
    dsimp only at hc
    split at hc
    · exact .inl ⟨c, hc, .inl rfl⟩
    · rename_i c₀ hc₀
      split at hc
      · exact .inl ⟨c, hc, .inl rfl⟩
      · rename_i hlanding
        obtain ⟨c₁, hc₁, hlater⟩ :=
          Matching.exists_left (later_set hc₀ (by simpa using hlanding)) hc
        exact .inl ⟨c₁, hc₁, hlater⟩
  | markDelivered id clock => exact .inl ⟨c, hc, .inl rfl⟩
  | putPreference p => exact .inl ⟨c, hc, .inl rfl⟩
  | register templates => exact .inl ⟨c, hc, .inl rfl⟩

/-- Every call was made by a send of the run. -/
theorem made_of_mem {d : Dispatcher} {turns : List Turn} {c : TransportCall}
    (hc : c ∈ (run ⟨d, []⟩ turns).calls) : Made ⟨d, []⟩ turns c := by
  induction turns using List.reverseRecOn generalizing c with
  | nil => cases hc
  | append_singleton turns turn ih =>
    rw [run_append] at hc
    rcases of_mem_after hc with ⟨c₀, hc₀, hlater⟩ | ⟨s, rfl, hstart, hcall⟩
    · exact ((ih hc₀).append [turn]).later hlater
    · exact ⟨turns, s, [], rfl, hstart, by rw [run_append]; exact hcall⟩

/-- The store holds a record under an identifier. -/
def Stores (t : Traffic) (id : String) (r : Record) : Prop :=
  (t.dispatcher.store.find? id).answer = .ok (some r)

theorem Sound.stores_iff (k : Sound t h) {id : String} {r : Record} :
    t.Stores id r ↔ h.find? id = some r := by
  unfold Stores
  rw [k.keeps.find?]
  simp

theorem Progress.exists_call (p : Progress t h t' h') {c : TransportCall} (hc : c ∈ t.calls) :
    ∃ c' ∈ t'.calls, c.Later c' := by
  obtain ⟨older, newer, hcalls, hold, _⟩ := p.calls
  obtain ⟨c', hc', later⟩ := Matching.exists_right hold hc
  exact ⟨c', by rw [hcalls]; exact List.mem_append_left _ hc', later⟩

/-- A record that is no longer pending was moved by the end of its own call. -/
theorem Progress.exists_ended (p : Progress t h t' h') (k : Sound t h) (k' : Sound t' h')
    {id : String} {r r' : Record} (hr : t.Stores id r) (hr' : t'.Stores id r')
    (pending : r.status = .pending) (gone : r'.status ≠ .pending) :
    ∃ c ∈ t.calls, c.record.id = id ∧ c.landing = none ∧
      ∃ l, c.ended l ∈ t'.calls ∧ (c.ended l).Explains r'.status := by
  have hfind := k.stores_iff.mp hr
  have hfind' := k'.stores_iff.mp hr'
  have hid := History.id_of_find? hfind
  obtain ⟨c, hc, hcall⟩ : ∃ c ∈ t.calls, c.record.id = r.id := by
    by_contra uncalled
    refine gone (p.uncalled r (History.mem_of_find? hfind) pending (fun c hc hcall => ?_) r'
      (History.mem_of_find? hfind') ((History.id_of_find? hfind').trans hid.symm))
    exact uncalled ⟨c, hc, hcall⟩
  obtain ⟨c', hmem, later⟩ := p.exists_call hc
  obtain ⟨r'', hfound, explains'⟩ := k'.explained c' hmem
  obtain rfl : r' = r'' := by
    rw [later.record, hcall, hid, hfind'] at hfound
    exact Option.some.inj hfound
  rcases later with rfl | ⟨underway, l, rfl⟩
  · obtain ⟨r₀, hfound₀, explains⟩ := k.explained c' hc
    obtain rfl : r = r₀ := by
      rw [hcall, hid, hfind] at hfound₀
      exact Option.some.inj hfound₀
    rw [pending] at explains
    exact absurd (explains'.eq_pending explains.verdict?_eq_none) gone
  · exact ⟨c, hc, hcall.trans hid, underway, l, hmem, explains'⟩

/-- The record of a call that was given up is pending ever after. -/
theorem Progress.pending_of_givenUp (p : Progress t h t' h') (k' : Sound t' h')
    {c : TransportCall} (hc : c ∈ t.calls) (givenUp : c.GivenUp) :
    ∃ r, t'.Stores c.record.id r ∧ r.status = .pending := by
  obtain ⟨c', hmem, later⟩ := p.exists_call hc
  rcases later with rfl | ⟨underway, _⟩
  · obtain ⟨r, hfind, explains⟩ := k'.explained c' hmem
    exact ⟨r, k'.stores_iff.mpr hfind, explains.eq_pending givenUp.verdict?_eq_none⟩
  · obtain ⟨l, hlanding, _⟩ := givenUp
    rw [underway] at hlanding
    cases hlanding

theorem Sound.of_works {d : Dispatcher} (works : d.Works) : ∃ h, Sound ⟨d, []⟩ h := by
  obtain ⟨working, h, keeps, distinct⟩ := works
  exact ⟨h, keeps, working, distinct, List.nodup_nil, by simp, by simp⟩

/-- What holds at any point `t` of a run of turns, and at any later point `t'`. -/
structure Orderly (d : Dispatcher) (turns : List Turn) (t t' : Traffic) : Prop where
  /-- No two transport calls are for one record. -/
  once : (t.calls.map fun c => c.record.id).Nodup
  made : ∀ c ∈ t.calls, Made ⟨d, []⟩ turns c
  proper : ∀ c ∈ t.calls, c.Proper
  explained : ∀ c ∈ t.calls, ∃ r, t.Stores c.record.id r ∧ c.Explains r.status
  /-- A record leaves pending through the end of its own call only. -/
  ended : ∀ id r r', t.Stores id r → t'.Stores id r' → r.status = .pending →
    r'.status ≠ .pending → ∃ c ∈ t.calls, c.record.id = id ∧ c.landing = none ∧
      ∃ l, c.ended l ∈ t'.calls ∧ (c.ended l).Explains r'.status
  /-- A record whose call was given up is pending for good. -/
  givenUp : ∀ c ∈ t.calls, c.GivenUp → ∃ r, t'.Stores c.record.id r ∧ r.status = .pending

/-- Whatever happens to a dispatcher with a working store, and in whichever order: the transport is
called once at most for a record, in a turn in which preferences and templates admit the request
and the store holds the record, pending; and the status of the record at any time is what has become
of its call. -/
theorem run_serves_each_call_once {d : Dispatcher} (works : d.Works) (turns more : List Turn) :
    Orderly d turns (run ⟨d, []⟩ turns) (run ⟨d, []⟩ (turns ++ more)) := by
  obtain ⟨h₀, k₀⟩ := Sound.of_works works
  obtain ⟨h, k, _⟩ := k₀.run turns
  obtain ⟨h', k', p⟩ := k.run more
  rw [run_append]
  refine ⟨k.once, fun c => made_of_mem, k.proper, fun c hc => ?_,
    fun id r r' => p.exists_ended k k', fun c => p.pending_of_givenUp k'⟩
  obtain ⟨r, hfind, explains⟩ := k.explained c hc
  exact ⟨r, k.stores_iff.mpr hfind, explains⟩

/-- Two sends at once on a database: the second is taken over and confirmed, and the first takes too
long. -/
theorem run_serves_two_calls_at_once :
    let template : Template := { id := "t", eventType := "offer-letter", subject := "Offer" }
    let d : Dispatcher := { store := .inDatabase, registry := [template] }
    let now := Except.ok (Reading.ofInstant Record.morning)
    let turns := [Turn.start ⟨"ada", "offer-letter", [], []⟩ ⟨now, fun _ => .ok "n1"⟩,
      .start ⟨"bob", "offer-letter", [], []⟩ ⟨now, fun _ => .ok "n2"⟩,
      .land 1 ⟨.reported .accepted, now⟩]
    let more := [Turn.land 0 ⟨.timedOut, now⟩, .markDelivered "n2" now]
    d.Works ∧ ((run ⟨d, []⟩ turns).calls.map fun c => c.record.id) = ["n1", "n2"] ∧
      Orderly d turns (run ⟨d, []⟩ turns) (run ⟨d, []⟩ (turns ++ more)) := by
  intro template d now turns more
  have works : d.Works := ⟨rfl, {}, Store.keeps_inDatabase, List.nodup_nil⟩
  exact ⟨works, by decide +kernel, run_serves_each_call_once works turns more⟩

end Traffic

end Courier
