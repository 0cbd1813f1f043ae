import Courier.Proofs.Command.Address
import Courier.Proofs.Dispatch.Calls
import Courier.Proofs.Dispatch.Rows

/-!
# The command that sends

A run of the command that sends, over the database of a file, from the words of the command line to
the rows that are in the file afterwards (`SendEffect`). The exit status tells success exactly if
there is one row more and it is that of a sent record, and what is printed then names that record;
it tells arguments that are no good only if both tables are as they were. Rows that were there stay
in every case. Main statement: `Command.run_send_effect`, for any settings that name the file and
any rows in it.
-/

namespace Courier

/-- What a run of the command that sends makes of two tables, by its exit status and the results that
it prints. -/
structure SendEffect (recipient : String) (address : Option String) (before after : Tables)
    (exit : Nat) (results : List String) : Prop where
  succeeds_iff : exit = 0 ↔
    ∃ row, after.records = before.records ++ [row] ∧ row.status = Status.sent.name
  printed : ∀ row, after.records = before.records ++ [row] → row.status = Status.sent.name →
    results = [(Receipt.toJson ⟨true, some row.id, none⟩).page ++ "\n"]
  refused : exit = 2 → after = before
  records : ∃ added, after.records = before.records ++ added ∧ added.length ≤ 1
  preferences : KeepsAddress recipient address before.preferences after.preferences

namespace SendEffect

open Dispatcher (Adds)

variable {recipient : String} {address : Option String} {before after : Tables} {exit : Nat}
  {results : List String} {added : List Row} {receipt : Receipt}

/-- A run without success may leave the tables as they were. -/
theorem unchanged (failed : exit ≠ 0) :
    SendEffect recipient address before before exit results where
  succeeds_iff := by simp [failed]
  printed := fun row h => by simp at h
  refused := fun _ => rfl
  records := ⟨[], by simp, by simp⟩
  preferences := .unchanged

/-- A run in which a send comes to an end adds the rows that the send adds. -/
theorem of_adds (adds : Adds (.receipt receipt) added)
    (records : after.records = before.records ++ added)
    (preferences : KeepsAddress recipient address before.preferences after.preferences) :
    SendEffect recipient address before after (if receipt.success then 0 else 1)
      [receipt.toJson.page ++ "\n"] := by
  have added_iff : ∀ row, after.records = before.records ++ [row] ↔ added = [row] := by
    intro row
    rw [records, List.append_cancel_left_eq]
  refine ⟨?_, fun row => ?_, fun h => ?_, ⟨added, records, ?_⟩, preferences⟩
  · simp only [added_iff]
    cases adds with
    | nothing failed => simp [failed]
    | unsent failed unsent => simp [failed, unsent]
    | sent sent => simp [sent]
  · rw [added_iff]
    cases adds with
    | nothing => simp
    | unsent failed unsent =>
      rintro ⟨⟩ sent
      exact absurd sent unsent
    | sent =>
      rintro ⟨⟩ _
      rfl
  · split at h <;> cases h
  · cases adds <;> simp

end SendEffect

theorem Assignment.harmless_addAll (option : String) : ∀ (arguments : List String) (bag : Bag),
    Harmless (addAll option bag arguments)
  | [], _ => .ok _
  | argument :: rest, bag => by
    rw [addAll]
    split
    · exact harmless_addAll option rest _
    · exact .error rfl

namespace Command

/-! ## What is printed -/

/-- The text of a result among the events. -/
def Event.result? : Event → Option String
  | .result text => some text
  | _ => none

/-- The results among events, in order. -/
def results (events : List Event) : List String := events.filterMap Event.result?

@[simp] theorem results_append (events more : List Event) :
    results (events ++ more) = results events ++ results more :=
  List.filterMap_append

@[simp] theorem results_log (entries : List Log.Entry) : results (entries.map .log) = [] := by
  simp [results, Event.result?]

@[simp] theorem results_warning (warnings : List SettingsWarning) :
    results (warnings.map .warning) = [] := by
  simp [results, Event.result?]

@[simp] theorem results_printed (j : Json) : results [printed j] = [j.page ++ "\n"] := rfl

/-! ## Requests -/

theorem harmless_requestOf (recipient eventType : String) (values metadata : List String) :
    Harmless (requestOf recipient eventType values metadata) :=
  (Assignment.harmless_addAll "--var" values []).bind fun _ =>
    (Assignment.harmless_addAll "--meta" metadata []).bind fun _ => .ok _

theorem recipient_of_requestOf {recipient eventType : String} {values metadata : List String}
    {q : Request} (h : requestOf recipient eventType values metadata = .ok q) :
    recipient = q.recipient := by
  unfold requestOf at h
  cases hvalues : Assignment.bag "--var" values with
  | error f => simp [hvalues, bind, Except.bind] at h
  | ok bag =>
    cases hmetadata : Assignment.bag "--meta" metadata with
    | error f => simp [hvalues, hmetadata, bind, Except.bind] at h
    | ok more =>
      simp [hvalues, hmetadata, bind, Except.bind, pure, Except.pure] at h
      rw [← h]

/-! ## Failures -/

/-- A failure that stops nothing does not end in success. -/
theorem exit_failed_ne_zero {f : Failure} (h : f.isInterrupt = false) : (failed f).1 ≠ 0 := by
  unfold failed
  split
  · exact one_ne_zero
  · split
    · exact two_ne_zero
    · rw [if_neg (by simp [h])]
      exact one_ne_zero

@[simp] theorem results_failed (f : Failure) : results (failed f).2 = [] := by
  unfold failed
  split
  · rfl
  · split
    · rfl
    · split <;> rfl

/-- Nothing and nobody around a run stops the program. -/
structure Scene.Uninterrupted (scene : Scene) : Prop where
  mishap : ∀ m, scene.mishap = some m → m.isInterrupt = false
  clock : Harmless scene.surroundings.clock
  later : Harmless scene.later
  newId : ∀ now, Harmless (scene.surroundings.newId now)
  network : scene.network.Uninterrupted

variable {scene : Scene} {d : Depot} {disk : Disk} {path : Path} {before : Tables}

/-- A depot on a file is not stopped within a send either. -/
theorem Scene.Uninterrupted.dispatcher (u : scene.Uninterrupted) (on : d.On disk path before) :
    d.dispatcher.Uninterrupted scene.surroundings
      (fun r => (d.transport.call scene.network d.dispatcher.timeout r).1) scene.later where
  start := by
    rintro f (hf | hf | hf | ⟨now, hf⟩)
    · rw [on.store] at hf
      cases hf
    · rw [on.store] at hf
      cases hf
    · exact u.clock f hf
    · exact u.newId now f hf
  transport := fun r => (d.transport.goesOn_call u.network _ r).2
  finish := by
    rintro f (hf | hf)
    · rw [on.store] at hf
      cases hf
    · exact u.later f hf

/-- A send over a depot comes to an end, and adds rows to those of the depot. -/
theorem Scene.Uninterrupted.exists_adds (u : scene.Uninterrupted) (on : d.On disk path before)
    (q : Request) : ∃ added,
      (d.send scene.network q scene.surroundings scene.later).1.On disk path
        { before with records := before.records ++ added } ∧
      Dispatcher.Adds (d.send scene.network q scene.surroundings scene.later).2.1 added := by
  obtain ⟨added, hstore, adds⟩ := Dispatcher.adds_of_attempt (u.dispatcher on)
    (fun r => (d.transport.goesOn_call u.network _ r).1) on.store q
  obtain ⟨hafter, hending⟩ :=
    d.dispatcher.send_eq_attempt d.transport scene.network q scene.surroundings scene.later
  rw [← hafter] at hstore
  rw [← hending] at adds
  exact ⟨added, ⟨on.database, hstore, on.takes⟩, adds⟩

/-! ## Deeds -/

/-- The exit status that a deed leads to. -/
def Deed.exit (deed : Deed) : Nat :=
  match deed.answer with
  | .ok exit => exit
  | .error f => (failed f).1

/-- A deed on a depot with the rows of two tables leaves a depot with those of others. -/
structure Deed.Sends (deed : Deed) (disk : Disk) (path : Path) (recipient : String)
    (address : Option String) (before after : Tables) : Prop where
  on : deed.depot.On disk path after
  effect : SendEffect recipient address before after deed.exit (results deed.events)

theorem exists_sends_of_deliver (u : scene.Uninterrupted) (on : d.On disk path before) (q : Request)
    (address : Option String) : ∃ after,
      (deliver scene d q address).Sends disk path q.recipient address before after := by
  obtain ⟨preferences, keeping⟩ := exists_keeping on q.recipient address
  rcases hkept : keepAddress d q.recipient address with ⟨d', kept⟩
  rw [hkept] at keeping
  cases hanswer : kept.answer with
  | error f =>
    have same := keeping.failed f hanswer
    subst same
    have deed : deliver scene d q address =
        { depot := d', events := kept.log.map .log, answer := .error f } := by
      simp only [deliver, hkept, hanswer]
    rw [deed]
    exact ⟨before, keeping.on, .unchanged (exit_failed_ne_zero (keeping.harmless f hanswer))⟩
  | ok _ =>
    obtain ⟨added, on', adds⟩ := u.exists_adds keeping.on q
    rcases hsend : d'.send scene.network q scene.surroundings scene.later with ⟨d'', ending, log⟩
    rw [hsend] at on' adds
    obtain ⟨receipt, rfl⟩ := adds.exists_receipt
    have deed : deliver scene d q address =
        { depot := d'', events := kept.log.map .log ++ log.map .log ++ [printed receipt.toJson]
          answer := .ok (if receipt.success then 0 else 1) } := by
      simp only [deliver, hkept, hanswer, hsend]
    have effect : SendEffect q.recipient address before ⟨before.records ++ added, preferences⟩ _ _ :=
      .of_adds adds rfl keeping.keeps
    rw [deed]
    refine ⟨_, on', ?_⟩
    simpa [Deed.exit] using effect

/-- Doing what the command that sends asks for. -/
theorem exists_sends_of_perform (u : scene.Uninterrupted) (on : d.On disk path before)
    (s : Settings) (recipient eventType : String) (values metadata : List String)
    (address : Option String) : ∃ after,
      (perform scene d s (.send recipient eventType values metadata address)).Sends disk path
        recipient address before after := by
  unfold perform
  dsimp only
  cases hrequest : requestOf recipient eventType values metadata with
  | error f =>
    exact ⟨before, on, .unchanged (exit_failed_ne_zero (harmless_requestOf _ _ _ _ f hrequest))⟩
  | ok q =>
    obtain rfl := recipient_of_requestOf hrequest
    exact exists_sends_of_deliver u on q address

/-! ## Runs -/

theorem exit_ofDepot (ready : Outcome) (scene : Scene) (s : Settings) (c : Command) (d : Depot) :
    (ready.ofDepot scene s c d).exit = (perform scene d s c).exit := by
  cases hanswer : (perform scene d s c).answer <;>
    simp only [Outcome.ofDepot, Deed.exit, hanswer]

/-- What is printed in the end is what was printed before and what the deed prints. -/
theorem results_ofDepot (ready : Outcome) (scene : Scene) (s : Settings) (c : Command) (d : Depot)
    (quiet : results (noticeFor c d) = []) : results (ready.ofDepot scene s c d).events =
      results ready.events ++ results (perform scene d s c).events := by
  unfold Outcome.ofDepot
  dsimp only
  split <;> simp [quiet, results_failed]

/-- A failure before there is a depot, with all rows in their place. -/
theorem effect_of_failure {recipient : String} {address : Option String} {t : Tables}
    {f : Failure} (stopless : f.isInterrupt = false) (ready : Outcome)
    (same : ready.disk.tables path = t) : SendEffect recipient address t
      ((ready.ofFailure f).disk.tables path) (ready.ofFailure f).exit
      (results (ready.ofFailure f).events) := by
  have disk : (ready.ofFailure f).disk.tables path = t := same
  have exit : (ready.ofFailure f).exit ≠ 0 := exit_failed_ne_zero stopless
  rw [disk]
  exact .unchanged exit

theorem sound_depotFor (u : scene.Uninterrupted) {s : Settings} (named : s.Names path)
    (e : Environment) : Depot.Sound scene.disk path (depotFor scene s e) := by
  unfold depotFor
  split
  · rename_i m hmishap
    exact .of_error rfl (u.mishap m hmishap)
  · exact Depot.sound_create named scene.disk e

/-- What comes after a depot is there, if nothing was printed before. -/
theorem effect_of_depot (u : scene.Uninterrupted) {ready : Outcome}
    (on : d.On ready.disk path before) (silent : results ready.events = []) (s : Settings)
    (recipient eventType : String) (values metadata : List String) (address : Option String) :
    let o := ready.ofDepot scene s (.send recipient eventType values metadata address) d
    SendEffect recipient address before (o.disk.tables path) o.exit (results o.events) := by
  intro o
  obtain ⟨after, on', effect⟩ := exists_sends_of_perform u on s recipient eventType values metadata
    address
  have saved : o.disk.tables path = after := on'.tables_saved
  rw [saved, exit_ofDepot, results_ofDepot _ _ _ _ _ rfl, silent]
  exact effect

/-- A run of the command that sends over the database in the file of a path, whatever is in it, if
nothing stops the program. -/
theorem run_send_effect {words : List String} {i : Invocation} {recipient eventType : String}
    {values metadata : List String} {address : Option String} (u : scene.Uninterrupted)
    (hread : Invocation.read words = .ok i)
    (hcommand : i.command = .send recipient eventType values metadata address)
    (named : ∀ s e, (Settings.load scene.disk (some i.config) scene.environment).answer =
      .ok (s, e) → s.Names path) :
    SendEffect recipient address (scene.disk.tables path) ((run scene words).disk.tables path)
      (run scene words).exit (results (run scene words).events) := by
  have hrun : run scene words = carryOut scene i := by
    rw [run, hread]
  rw [hrun]
  unfold carryOut
  dsimp only
  split
  · rename_i f hload
    exact effect_of_failure (Settings.harmless_load _ _ _ f hload) _ rfl
  · rename_i s e hload
    split
    · exact effect_of_failure rfl _ rfl
    · have setup := sound_depotFor u (named s e hload) e
      split
      · rename_i f hmade
        exact effect_of_failure (setup.harmless f hmade) _ setup.tables
      · rename_i d hmade
        rw [hcommand]
        refine effect_of_depot u (setup.on d hmade) ?_ s recipient eventType values metadata address
        rw [results_append, results_warning, results_log, List.append_nil]

/-- Preferences that are there before. -/
def quietPreference : Preference :=
  { recipient := "bob", address := "bob@example.org", enabled := false }

/-- A scene with a file of settings that ask for the log in place of a network, and with a database
in which there are preferences of somebody. -/
def deskScene : Scene where
  disk := ⟨[(⟨0, ["c.yaml"]⟩, .file "transport:\n  type: log\n".toUTF8.toList),
    (⟨0, ["n.db"]⟩, .database { preferences := some [.ofPreference quietPreference] })]⟩
  environment := fun name => if name == "DATABASE_URL" then some "sqlite:///n.db" else none
  surroundings := ⟨.ok (.ofInstant Record.morning), fun _ => .ok "n1"⟩

/-- The words of a command line that announces an interview. -/
def interviewWords : List String :=
  ["--config", "c.yaml", "--log-level", "ERROR", "send", "--recipient", "ada", "--event-type",
    "interview-scheduled", "--email", "ada@Example.org"]

/-- An interview is announced to somebody new. -/
theorem run_send_effect_interview :
    deskScene.Uninterrupted ∧ (run deskScene interviewWords).exit = 0 ∧
      SendEffect "ada" (some "ada@Example.org") (deskScene.disk.tables ⟨0, ["n.db"]⟩)
        ((run deskScene interviewWords).disk.tables ⟨0, ["n.db"]⟩)
        (run deskScene interviewWords).exit (results (run deskScene interviewWords).events) := by
  have u : deskScene.Uninterrupted :=
    { mishap := fun m h => by cases h
      clock := .ok _
      later := .ok _
      newId := fun _ => .ok _
      network := {
        mail := fun step m h => by cases h; rfl
        provider := fun post m h => by cases h; rfl } }
  refine ⟨u, by decide +kernel, ?_⟩
  have hread : Invocation.read interviewWords = .ok {
      config := ⟨0, ["c.yaml"]⟩
      level := some "ERROR"
      command := .send "ada" "interview-scheduled" [] [] (some "ada@Example.org") } := by
    decide +kernel
  exact run_send_effect u hread rfl fun s e h => Settings.names_of_load h rfl rfl rfl

end Command

end Courier
