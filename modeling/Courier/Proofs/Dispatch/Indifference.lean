import Courier.Proofs.Dispatch.Discretion
import Courier.Proofs.Preference.Rereading

/-!
# Settings without a say

Preferences hold settings that have no say in what is delivered: the quiet hours, the frequency, the
switches that bar no event type, and every switch that is not off. A switch that is off bars its own
event type only, so it has no say either over a recipient who is sent nothing of that type.

That these settings have no say is a statement about two runs, in which the same happens except that
other preferences are kept, with the same address and main switch for the same recipient
(`Preference.SameSay`). Whatever is asked of the preferences on the way of a send is answered alike
(`Store.consulted`), and the records do not depend on the preferences beside them. So each turn comes to
the same (`Desk.after_of_sameSay`). Main statement: `Desk.run_heeds_no_other_setting`.
-/

namespace Courier

variable {asked : String → String → Prop}

/-! ## Preferences -/

/-- Two sets of preferences of one recipient, with the same address and the same main switch. Of the
switches of the event types that the recipient is asked for, each has the same position in both, or is
off in neither. All else may differ. -/
structure Preference.SameSay (asked : String → String → Prop) (p p' : Preference) : Prop where
  recipient : p'.recipient = p.recipient
  address : p'.address = p.address
  enabled : p'.enabled = p.enabled
  switches : ∀ eventType name, asked p.recipient eventType →
    Event.switch? eventType = some name →
      p'.switch? name = p.switch? name ∨ p'.switch? name ≠ some false ∧ p.switch? name ≠ some false

namespace Preference.SameSay

variable {p p' : Preference}

theorem refl (p : Preference) : p.SameSay asked p := ⟨rfl, rfl, rfl, fun _ _ _ _ => .inl rfl⟩

theorem bars_eq (h : p.SameSay asked p') {eventType : String}
    (hasked : asked p.recipient eventType) : p'.bars eventType = p.bars eventType := by
  unfold bars
  cases hswitch : Event.switch? eventType with
  | none => rfl
  | some name =>
    dsimp only
    rcases h.switches eventType name hasked hswitch with same | ⟨on', on⟩
    · rw [same]
    · rw [beq_false_of_ne on', beq_false_of_ne on]

theorem decision_eq (h : p.SameSay asked p') {eventType : String}
    (hasked : asked p.recipient eventType) :
    decision (some p') eventType = decision (some p) eventType := by
  rw [decision, decision, h.enabled, h.bars_eq hasked]

/-- Reading accepted preferences back changes nothing but the address. -/
theorem toPreference (h : p.SameSay asked p') (accepted : p.IsAccepted)
    (accepted' : p'.IsAccepted) :
    (∃ address, (PreferenceRow.ofPreference p).toPreference = .ok { p with address := address } ∧
      (PreferenceRow.ofPreference p').toPreference = .ok { p' with address := address }) ∨
      ∃ f, (PreferenceRow.ofPreference p).toPreference = .error f ∧
        (PreferenceRow.ofPreference p').toPreference = .error f := by
  rw [PreferenceRow.toPreference_ofPreference accepted,
    PreferenceRow.toPreference_ofPreference accepted', h.address]
  cases (normalAddress (.text p.address)).within "email" with
  | ok address => exact .inl ⟨address, rfl, rfl⟩
  | wrong issues => exact .inr ⟨_, rfl, rfl⟩

theorem withAddress (h : p.SameSay asked p') (address : String) :
    SameSay asked { p with address := address } { p' with address := address } :=
  ⟨h.recipient, rfl, h.enabled, h.switches⟩

end Preference.SameSay

namespace Shelf

variable {shelf shelf' : Shelf}

theorem forall₂_put (h : List.Forall₂ (Preference.SameSay asked) shelf shelf') {p p' : Preference}
    (hp : p.SameSay asked p') :
    List.Forall₂ (Preference.SameSay asked) (shelf.put p) (shelf'.put p') := by
  induction h with
  | nil => exact .cons hp .nil
  | @cons q q' rest rest' hq hrest ih =>
    rw [put, put, hq.recipient, hp.recipient]
    split
    · exact .cons hp hrest
    · exact .cons hq ih

theorem rel_get? (h : List.Forall₂ (Preference.SameSay asked) shelf shelf') (recipient : String) :
    Option.Rel (Preference.SameSay asked) (shelf.get? recipient) (shelf'.get? recipient) :=
  Matching.find? (fun _ _ hq => by rw [hq.recipient]) h

theorem recipient_of_get? {recipient : String} {p : Preference}
    (h : shelf.get? recipient = some p) : p.recipient = recipient := by
  simpa using List.find?_some h

end Shelf

namespace PreferenceRow

/-- Two rows are the same, or of accepted preferences that differ in what has no say. -/
inductive SameSay (asked : String → String → Prop) : PreferenceRow → PreferenceRow → Prop
  | same (row : PreferenceRow) : SameSay asked row row
  | ofPreferences {p p' : Preference} (accepted : p.IsAccepted) (accepted' : p'.IsAccepted)
      (h : p.SameSay asked p') : SameSay asked (ofPreference p) (ofPreference p')

variable {rows rows' : List PreferenceRow} {row row' : PreferenceRow}

theorem SameSay.recipient (h : row.SameSay asked row') : row'.recipient = row.recipient := by
  cases h with
  | same => rfl
  | ofPreferences _ _ h => exact h.recipient

theorem forall₂_put (h : List.Forall₂ (SameSay asked) rows rows') {p p' : Preference}
    (hp : (ofPreference p).SameSay asked (ofPreference p')) :
    List.Forall₂ (SameSay asked) (put rows p) (put rows' p') := by
  have recipient : p'.recipient = p.recipient := hp.recipient
  induction h with
  | nil => exact .cons hp .nil
  | @cons row row' rest rest' hrow hrest ih =>
    rw [put, put, hrow.recipient, recipient]
    split
    · rename_i same
      have same : row.recipient = p.recipient := by simpa using same
      rw [apply_eq_ofPreference same,
        apply_eq_ofPreference (hrow.recipient.trans (same.trans recipient.symm))]
      exact .cons hp hrest
    · exact .cons hrow ih

theorem rel_find? (h : List.Forall₂ (SameSay asked) rows rows') (recipient : String) :
    Option.Rel (SameSay asked) (find? rows recipient) (find? rows' recipient) :=
  Matching.find? (fun _ _ hrow => by rw [hrow.recipient]) h

theorem recipient_of_find? {recipient : String} (h : find? rows recipient = some row) :
    row.recipient = recipient := by
  simpa using List.find?_some h

end PreferenceRow

/-! ## Stores -/

/-- Two answers about the preferences of a recipient that cannot be told apart by who asks for the
address and for the decision on the event types that the recipient is asked for. -/
inductive Consulted (asked : String → String → Prop) (recipient : String) :
    Reply (Option Preference) → Reply (Option Preference) → Prop
  | same (reply : Reply (Option Preference)) : Consulted asked recipient reply reply
  | preferences {p p' : Option Preference} (log : List Log.Entry)
      (address : p'.map Preference.address = p.map Preference.address)
      (decision : ∀ eventType, asked recipient eventType →
        Preference.decision p' eventType = Preference.decision p eventType) :
      Consulted asked recipient ⟨.ok p, log⟩ ⟨.ok p', log⟩

theorem Consulted.of_sameSay {p p' : Preference} (h : p.SameSay asked p') (log : List Log.Entry) :
    Consulted asked p.recipient ⟨.ok (some p), log⟩ ⟨.ok (some p'), log⟩ :=
  .preferences log (congrArg some h.address) fun _ hasked => h.decision_eq hasked

/-- What is read back from two rows cannot be told apart either. -/
theorem PreferenceRow.SameSay.consulted {row row' : PreferenceRow} (h : row.SameSay asked row')
    (errand : Errand) :
    Consulted asked row.recipient (errand.reply (row.toPreference >>= fun p => pure (some p)))
      (errand.reply (row'.toPreference >>= fun p => pure (some p))) := by
  cases h with
  | same => exact .same _
  | ofPreferences accepted accepted' hsay =>
    rcases hsay.toPreference accepted accepted' with ⟨address, hread, hread'⟩ | ⟨f, hread, hread'⟩
    · rw [hread, hread']
      exact .of_sameSay (hsay.withAddress address) []
    · rw [hread, hread']
      exact .same _

/-- Two stores with the same records under the same failures, and with preferences that match one by
one. -/
inductive Store.SameSay (asked : String → String → Prop) : Store → Store → Prop
  | memory {shelf shelf' : Shelf} (h : History) (faults : Faults)
      (shelves : List.Forall₂ (Preference.SameSay asked) shelf shelf') :
      SameSay asked ⟨.memory h shelf, faults⟩ ⟨.memory h shelf', faults⟩
  | database {table table' : Option (List PreferenceRow)} (rows : Option (List Row))
      (faults : Faults)
      (tables : Option.Rel (List.Forall₂ (PreferenceRow.SameSay asked)) table table') :
      SameSay asked ⟨.database ⟨rows, table⟩, faults⟩ ⟨.database ⟨rows, table'⟩, faults⟩

namespace Store.SameSay

variable {s s' : Store}

theorem refl (s : Store) : s.SameSay asked s := by
  obtain ⟨backing, faults⟩ := s
  cases backing with
  | memory h shelf => exact .memory h faults (List.forall₂_same.mpr fun p _ => .refl p)
  | database db =>
    obtain ⟨rows, table⟩ := db
    refine .database rows faults ?_
    cases table with
    | none => exact .none
    | some table => exact .some (List.forall₂_same.mpr fun row _ => .same row)

theorem beset (h : s.SameSay asked s') (faults : Faults) :
    (s.beset faults).SameSay asked (s'.beset faults) := by
  cases h with
  | memory h _ shelves => exact .memory h faults shelves
  | database rows _ tables => exact .database rows faults tables

/-- Asking for preferences comes to the same. -/
theorem consulted (h : s.SameSay asked s') (recipient : String) :
    Consulted asked recipient (s.preference? recipient) (s'.preference? recipient) := by
  cases h with
  | memory h faults shelves =>
    unfold preference?
    dsimp only
    split
    · exact .same _
    · have found := Shelf.rel_get? shelves recipient
      generalize hp : Shelf.get? _ recipient = p at found ⊢
      generalize Shelf.get? _ recipient = p' at found ⊢
      cases found with
      | none => exact .same _
      | some hsay =>
        obtain rfl := Shelf.recipient_of_get? hp
        exact .of_sameSay hsay []
  | database rows faults tables =>
    unfold preference?
    dsimp only
    split
    · exact .same _
    · cases tables with
      | none => exact .same _
      | @some table table' tables =>
        have found := PreferenceRow.rel_find? tables recipient
        unfold Database.preference? Database.preferenceRows
        dsimp only [bind, Except.bind]
        generalize hrow : PreferenceRow.find? table recipient = row at found ⊢
        generalize PreferenceRow.find? table' recipient = row' at found ⊢
        cases found with
        | none => exact .same _
        | some hsay =>
          obtain rfl := PreferenceRow.recipient_of_find? hrow
          exact hsay.consulted _

/-- Appending a record comes to the same. -/
theorem append (h : s.SameSay asked s') (r : Record) :
    (s'.append r).2 = (s.append r).2 ∧ (s.append r).1.SameSay asked (s'.append r).1 := by
  cases hfault : s.faults.append with
  | some f =>
    have hfault' : s'.faults.append = some f := by cases h <;> exact hfault
    rw [append_of_fault hfault, append_of_fault hfault']
    exact ⟨rfl, h⟩
  | none =>
    cases h with
    | @memory shelf shelf' h faults shelves =>
      have appended : ∀ p, Store.append ⟨.memory h p, faults⟩ r = _ :=
        fun p => append_memory hfault r h.records
      rw [appended, appended]
      exact ⟨rfl, .memory _ faults shelves⟩
    | database rows faults tables =>
      cases rows with
      | none =>
        rw [append_without_table hfault, append_without_table hfault]
        exact ⟨rfl, .database none faults tables⟩
      | some rows =>
        have appended : ∀ table, Store.append ⟨.database ⟨some rows, table⟩, faults⟩ r = _ :=
          fun table => append_database hfault r rows
        rw [appended, appended]
        exact ⟨rfl, .database _ faults tables⟩

/-- Moving a record comes to the same. -/
theorem move (h : s.SameSay asked s') (id : String) (m : Record.Move) :
    (s'.move id m).2 = (s.move id m).2 ∧ (s.move id m).1.SameSay asked (s'.move id m).1 := by
  cases hfault : s.faults.move with
  | some f =>
    have hfault' : s'.faults.move = some f := by cases h <;> exact hfault
    rw [move_of_fault hfault, move_of_fault hfault']
    exact ⟨rfl, h⟩
  | none =>
    cases h with
    | memory h faults shelves =>
      have moved : ∀ p, Store.move ⟨.memory h p, faults⟩ id m = _ :=
        fun p => move_memory hfault id m h.records
      rw [moved, moved]
      exact ⟨rfl, .memory _ faults shelves⟩
    | database rows faults tables =>
      cases rows with
      | none =>
        rw [move_without_table hfault, move_without_table hfault]
        exact ⟨rfl, .database none faults tables⟩
      | some rows =>
        have moved : ∀ table, Store.move ⟨.database ⟨some rows, table⟩, faults⟩ id m = _ :=
          fun table => move_database hfault id m rows
        rw [moved, moved]
        exact ⟨rfl, .database _ faults tables⟩

/-- Keeping preferences keeps stores alike, if they differ in what has no say and in rows too. -/
theorem putPreference (h : s.SameSay asked s') {p p' : Preference} (hp : p.SameSay asked p')
    (hrow : (PreferenceRow.ofPreference p).SameSay asked (.ofPreference p')) :
    (s.putPreference p).1.SameSay asked (s'.putPreference p').1 := by
  cases h with
  | memory h faults shelves => exact .memory h faults (Shelf.forall₂_put shelves hp)
  | database rows faults tables =>
    cases tables with
    | none => exact .database rows faults .none
    | some tables => exact .database rows faults (.some (PreferenceRow.forall₂_put tables hrow))

end Store.SameSay

/-! ## Dispatchers -/

/-- Two dispatchers that differ in their stores only, and those in preferences only. -/
structure Dispatcher.SameSay (asked : String → String → Prop) (d d' : Dispatcher) : Prop where
  store : d.store.SameSay asked d'.store
  rest : d' = { d with store := d'.store }

namespace Dispatcher

variable {q : Request} {s : Surroundings}

/-- A new record holds nothing of the preferences but the address. -/
theorem newRecord_congr {p p' : Option Preference}
    (h : p'.map Preference.address = p.map Preference.address) (template : Template) (m : Message)
    (id : String) (now : Reading) :
    newRecord q p' template m id now = newRecord q p template m id now := by
  cases p with
  | none =>
    cases p' with
    | none => rfl
    | some p' => cases h
  | some p =>
    cases p' with
    | none => cases h
    | some p' =>
      have address : p'.address = p.address := Option.some.inj h
      simp only [newRecord, address]

theorem draft_congr {p p' : Option Preference}
    (h : p'.map Preference.address = p.map Preference.address) {template : Template} :
    draft q p' template s = draft q p template s := by
  simp only [draft, newRecord_congr h]

namespace SameSay

variable {d d' : Dispatcher}

theorem withStore (h : d.SameSay asked d') {store store' : Store}
    (stores : store.SameSay asked store') :
    SameSay asked { d with store := store } { d' with store := store' } := by
  refine ⟨stores, ?_⟩
  rw [h.rest]

theorem beset (h : d.SameSay asked d') (faults : Faults) :
    (d.beset faults).SameSay asked (d'.beset faults) :=
  h.withStore (h.store.beset faults)

/-- What comes of a request is the same. -/
theorem plan_eq (h : d.SameSay asked d') (hasked : asked q.recipient q.eventType) :
    d'.plan q s = d.plan q s := by
  have registry : d'.registry = d.registry := by rw [h.rest]
  have consulted := h.store.consulted q.recipient
  unfold plan
  dsimp only
  rw [registry]
  generalize d.store.preference? q.recipient = reply at consulted ⊢
  generalize d'.store.preference? q.recipient = reply' at consulted ⊢
  cases consulted with
  | same => rfl
  | preferences log address decision =>
    dsimp only
    rw [decision _ hasked]
    split
    · rfl
    · split
      · rfl
      · rw [draft_congr address]

/-- The first half of a send comes to the same. -/
theorem start (h : d.SameSay asked d') (hasked : asked q.recipient q.eventType) :
    (d'.start q s).2 = (d.start q s).2 ∧ (d.start q s).1.SameSay asked (d'.start q s).1 := by
  have plan : d'.plan q s = d.plan q s := h.plan_eq hasked
  refine ⟨start_congr plan fun r _ => (h.store.append r).1, ?_⟩
  cases hrecord : recordOf? (d.plan q s).1 with
  | none =>
    rw [start_of_no_record hrecord, start_of_no_record (plan ▸ hrecord)]
    exact h
  | some r =>
    rw [start_of_record hrecord, start_of_record (plan ▸ hrecord)]
    exact h.withStore (h.store.append r).2

/-- The second half of a send comes to the same. -/
theorem finish (h : d.SameSay asked d') (flight : Flight) (c : Completion)
    (clock : Except Failure Reading) :
    (d'.finish flight c clock).2 = (d.finish flight c clock).2 ∧
      (d.finish flight c clock).1.SameSay asked (d'.finish flight c clock).1 := by
  have limit : d'.timeout = d.timeout := by rw [h.rest]
  refine ⟨finish_congr limit fun m _ => (h.store.move flight.record.id m).1, ?_⟩
  cases hmove : moveOf? c clock with
  | none =>
    rw [finish_of_no_move hmove, finish_of_no_move hmove]
    exact h
  | some m =>
    rw [finish_of_move hmove, finish_of_move hmove]
    exact h.withStore (h.store.move flight.record.id m).2

theorem markDelivered (h : d.SameSay asked d') (id : String) (clock : Except Failure Reading) :
    (d.markDelivered id clock).1.SameSay asked (d'.markDelivered id clock).1 := by
  cases clock with
  | error f => exact h
  | ok now => exact h.withStore (h.store.move id _).2

theorem putPreference (h : d.SameSay asked d') {p p' : Preference} (hp : p.SameSay asked p')
    (hrow : (PreferenceRow.ofPreference p).SameSay asked (.ofPreference p')) :
    (d.putPreference p).1.SameSay asked (d'.putPreference p').1 :=
  h.withStore (h.store.putPreference hp hrow)

theorem register (h : d.SameSay asked d') (templates : Registry) :
    (d.register templates).1.SameSay asked (d'.register templates).1 := by
  refine ⟨h.store, ?_⟩
  rw [h.rest]
  rfl

end SameSay

/-- Whatever may be asked about the records of two dispatchers has the same answer. -/
structure SameHistory (d d' : Dispatcher) : Prop where
  history : ∀ recipient limit, d'.history recipient limit = d.history recipient limit
  stats : ∀ recipient, d'.stats recipient = d.stats recipient
  find : ∀ id, d'.store.find? id = d.store.find? id
  all : ∀ recipient, d'.store.all recipient = d.store.all recipient
  pending : ∀ cutoff, d'.store.pendingBefore cutoff = d.store.pendingBefore cutoff

theorem SameSay.sameHistory {d d' : Dispatcher} (h : d.SameSay asked d') : d.SameHistory d' := by
  obtain ⟨store, rest⟩ := h
  rw [rest]
  generalize d'.store = store' at store
  obtain ⟨store₀, _, _, _, _⟩ := d
  cases store <;> exact ⟨fun _ _ => rfl, fun _ => rfl, fun _ => rfl, fun _ => rfl, fun _ => rfl⟩

end Dispatcher

/-! ## Runs -/

/-- A recipient is sent something of an event type in the course of turns. -/
def Asked (turns : List BesetTurn) (recipient eventType : String) : Prop :=
  ∃ t ∈ turns, ∃ q s, t.turn = .start q s ∧ q.recipient = recipient ∧ q.eventType = eventType

/-- The same happens in two turns, or accepted preferences are kept that differ in what has no
say. -/
inductive BesetTurn.SameSay (asked : String → String → Prop) : BesetTurn → BesetTurn → Prop
  | same (t : BesetTurn) : SameSay asked t t
  | putPreference (faults : Faults) {p p' : Preference} (accepted : p.IsAccepted)
      (accepted' : p'.IsAccepted) (h : p.SameSay asked p') :
      SameSay asked ⟨faults, .putPreference p⟩ ⟨faults, .putPreference p'⟩

namespace Desk

variable {t t' : BesetTurn} {turns turns' : List BesetTurn} {k k' : Desk}

/-- The record that is handed to the transport in a turn, if a send gets that far in it. -/
def handedIn (k : Desk) (t : BesetTurn) : List Record :=
  match t.turn with
  | .start q s =>
    match ((k.dispatcher.beset t.faults).start q s).2.1 with
    | .flying flight => [flight.record]
    | .ended _ => []
  | _ => []

/-- The records that are handed to the transport in the course of turns, in their order. -/
def handed (k : Desk) : List BesetTurn → List Record
  | [] => []
  | t :: rest => k.handedIn t ++ (k.after t).handed rest

/-- Two desks with the same sends over dispatchers that differ in preferences only. -/
structure SameSay (asked : String → String → Prop) (k k' : Desk) : Prop where
  dispatcher : k.dispatcher.SameSay asked k'.dispatcher
  sends : k'.sends = k.sends

/-- A turn comes to the same. -/
theorem after_of_sameSay (h : k.SameSay asked k') (ht : t.SameSay asked t')
    (hasked : ∀ q s, t.turn = .start q s → asked q.recipient q.eventType) :
    (k.after t).SameSay asked (k'.after t') ∧ k'.handedIn t' = k.handedIn t := by
  obtain ⟨hd, hsends⟩ := h
  cases ht with
  | putPreference faults accepted accepted' hp =>
    have kept := (hd.beset faults).putPreference hp (.ofPreferences accepted accepted' hp)
    exact ⟨⟨kept.beset {}, hsends⟩, rfl⟩
  | same =>
    obtain ⟨faults, turn⟩ := t
    have begun := hd.beset faults
    cases turn with
    | start q s =>
      obtain ⟨told, next⟩ := begun.start (s := s) (hasked q s rfl)
      simp only [after, handedIn, told, hsends, and_true]
      exact ⟨next.beset {}, rfl⟩
    | land i l =>
      refine ⟨?_, rfl⟩
      simp only [after, hsends]
      split
      · rename_i flight _
        obtain ⟨told, next⟩ := begun.finish flight l.completion l.clock
        rw [told]
        exact ⟨next.beset {}, rfl⟩
      · exact ⟨begun.beset {}, rfl⟩
    | markDelivered id clock => exact ⟨⟨(begun.markDelivered id clock).beset {}, hsends⟩, rfl⟩
    | putPreference p =>
      exact ⟨⟨(begun.putPreference (.refl p) (.same _)).beset {}, hsends⟩, rfl⟩
    | register templates => exact ⟨⟨(begun.register templates).beset {}, hsends⟩, rfl⟩

/-- Runs come to the same. -/
theorem run_of_sameSay (h : List.Forall₂ (BesetTurn.SameSay asked) turns turns')
    (hasked : ∀ t ∈ turns, ∀ q s, t.turn = .start q s → asked q.recipient q.eventType)
    (hk : k.SameSay asked k') :
    (k.run turns).SameSay asked (k'.run turns') ∧ k'.handed turns' = k.handed turns := by
  induction h generalizing k k' with
  | nil => exact ⟨hk, rfl⟩
  | @cons t t' rest rest' ht _ ih =>
    obtain ⟨hnext, hnow⟩ := after_of_sameSay hk ht (hasked t List.mem_cons_self)
    obtain ⟨hrun, hlater⟩ := ih (fun u hu => hasked u (List.mem_cons_of_mem _ hu)) hnext
    refine ⟨hrun, ?_⟩
    rw [handed, handed, hnow, hlater]

/-- Runs in which the same happens, but for preferences that differ in what has no say over the event
types that their recipient is sent, come to the same at every point: in how each send ends, in what the
transport is handed and in which order, and in all that can be asked about the records. -/
theorem run_heeds_no_other_setting
    (h : List.Forall₂ (BesetTurn.SameSay (Asked turns)) turns turns') (k : Desk) (n : Nat) :
    (k.run (turns'.take n)).sends = (k.run (turns.take n)).sends ∧
      k.handed (turns'.take n) = k.handed (turns.take n) ∧
      (k.run (turns.take n)).dispatcher.SameHistory (k.run (turns'.take n)).dispatcher := by
  have hasked : ∀ t ∈ turns.take n, ∀ q s, t.turn = .start q s →
      Asked turns q.recipient q.eventType :=
    fun t ht q s hturn => ⟨t, List.mem_of_mem_take ht, q, s, hturn, rfl, rfl⟩
  have begun : k.SameSay (Asked turns) k := ⟨⟨.refl k.dispatcher.store, rfl⟩, rfl⟩
  obtain ⟨run, handed⟩ := run_of_sameSay (List.forall₂_take n h) hasked begun
  exact ⟨run.sends, handed, run.dispatcher.sameHistory⟩

/-- Quiet hours, another frequency, an inert switch, the switch of an event type that is not sent and a
switch that is on do not keep a send back that goes through without them. -/
theorem run_heeds_no_other_setting_offer :
    let template : Template := { id := "t", eventType := "offer-letter", subject := "Offer" }
    let k : Desk := ⟨{ store := .inDatabase, registry := [template] }, []⟩
    let now := Except.ok (Reading.ofInstant Record.morning)
    let bare : Preference := { recipient := "ada", address := "ada@example.org" }
    let full : Preference := { bare with
      switches := [("rejection", false), ("weekly_digest", false), ("offer_letter", true)]
      frequency := .weekly
      quietHours := { enabled := true } }
    let turns := fun p : Preference => ([⟨{}, .putPreference p⟩,
      ⟨{}, .start ⟨"ada", "offer-letter", [], []⟩ ⟨now, fun _ => .ok "n1"⟩⟩,
      ⟨{}, .land 0 ⟨.reported .accepted, now⟩⟩] : List BesetTurn)
    List.Forall₂ (BesetTurn.SameSay (Asked (turns bare))) (turns bare) (turns full) ∧
      ((k.run ((turns full).take 3)).sends = (k.run ((turns bare).take 3)).sends ∧
        k.handed ((turns full).take 3) = k.handed ((turns bare).take 3) ∧
        (k.run ((turns bare).take 3)).dispatcher.SameHistory
          (k.run ((turns full).take 3)).dispatcher) ∧
      (k.handed (turns full)).map Record.address = ["ada@example.org"] := by
  intro template k now bare full turns
  have sameSay : bare.SameSay (Asked (turns bare)) full := by
    refine ⟨rfl, rfl, rfl, ?_⟩
    rintro eventType name ⟨t, ht, q, s, hturn, _, rfl⟩ hswitch
    -- the only event type that is sent is the one with the switch that is on
    obtain rfl : q = ⟨"ada", "offer-letter", [], []⟩ := by
      simp only [turns, List.mem_cons, List.not_mem_nil, or_false] at ht
      rcases ht with rfl | rfl | rfl <;> cases hturn
      rfl
    obtain rfl : "offer_letter" = name := Option.some.inj hswitch
    exact .inr (by decide)
  have accepted : bare.IsAccepted := Preference.isAccepted_of_toOption (v := bare.toJson.toValue)
    (by decide +kernel)
  have accepted' : full.IsAccepted := Preference.isAccepted_of_toOption (v := full.toJson.toValue)
    (by decide +kernel)
  have turnsAlike : List.Forall₂ (BesetTurn.SameSay (Asked (turns bare))) (turns bare)
      (turns full) := .cons (.putPreference {} accepted accepted' sameSay)
        (.cons (.same _) (.cons (.same _) .nil))
  exact ⟨turnsAlike, run_heeds_no_other_setting turnsAlike k 3, by decide +kernel⟩

end Desk

end Courier
