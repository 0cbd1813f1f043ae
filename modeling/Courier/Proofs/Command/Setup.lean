import Courier.Depot
import Courier.Proofs.Database.File
import Courier.Proofs.Loading
import Courier.Proofs.Settings.Runnable
import Courier.Proofs.Store.Independence

/-!
# Setting up

What setting up a depot on the database of a file does to the disk and may fail with. The rows of
the database stay as they are, whatever becomes of the depot; without a depot nothing has stopped
the program; and a depot keeps its records among the rows that were there (`Depot.sound_create`).
-/

namespace Courier

/-! ## Failures of loading -/

theorem Disk.Escapes.isInterrupt {d : Disk} {path : Path} {f : Failure}
    (h : d.Escapes Yaml.interpret path f) : f.isInterrupt = false := by
  cases h with
  | undecodable => rfl
  | interpreter found broken => exact Yaml.isInterrupt_of_interpret broken

theorem Template.harmless_load (d : Disk) (path : Path) : Harmless (load d path).answer := by
  intro f hf
  by_cases promised : ∃ fault, f = .templates fault
  · obtain ⟨fault, rfl⟩ := promised
    rfl
  · cases escapes_of_loadWith hf fun fault same => promised ⟨fault, same⟩ with
    | nullByte => rfl
    | file broken => exact broken.isInterrupt

namespace Settings

theorem harmless_load (d : Disk) (path : Option Path) (get : Environment.Variables) :
    Harmless (load d path get).answer := by
  intro f hf
  by_cases promised : ∃ report, f = .settings report
  · obtain ⟨report, rfl⟩ := promised
    rfl
  · cases escapes_of_loadWith hf fun report same => promised ⟨report, same⟩ with
    | nameTooLong | unprintable => rfl
    | file _ broken => exact broken.isInterrupt

/-- Settings name a database in the file of a path. -/
def Names (s : Settings) (path : Path) : Prop :=
  ∃ url a, Text.given s.storage.databaseUrl = some url ∧ Address.check url = .ok a ∧
    a.file? = some path

/-- Where the environment names a database, settings name that one, whatever their file says. -/
theorem names_of_load {disk : Disk} {config : Option Path} {get : Environment.Variables}
    {s : Settings} {e : Environment} {url : String} {a : Address} {path : Path}
    (h : (load disk config get).answer = .ok (s, e))
    (given : Text.given (get "DATABASE_URL") = some url) (hcheck : Address.check url = .ok a)
    (hfile : a.file? = some path) : s.Names path := by
  obtain ⟨bag, hcombine⟩ := exists_combine_of_load h
  obtain ⟨own, _, henv, rfl, _⟩ := combine_eq_ok_iff.mp hcombine
  obtain ⟨_, rfl⟩ := Environment.read_eq_ok_iff.mp henv
  refine ⟨url, a, ?_, hcheck, hfile⟩
  have overruled := @databaseUrl_overruled own (Environment.ofVariables get) url given
  rw [overruled]
  exact Text.given_eq_some_iff.mpr ⟨rfl, (Text.given_eq_some_iff.mp given).2⟩

end Settings

/-! ## Depots -/

namespace Depot

variable {d : Depot} {disk : Disk} {path : Path} {t : Tables} {s : Settings} {e : Environment}
  {database : Option OpenDatabase}

/-- A depot on the database in the file of a path, with the rows of two tables. -/
structure On (d : Depot) (disk : Disk) (path : Path) (t : Tables) : Prop where
  database : ∃ o, d.database = some o ∧ o.file = some path
  store : d.dispatcher.store = Store.ofRows {} (some t.preferences) t.records
  takes : disk.Takes path

/-- What the file holds in the end are the rows of the depot. -/
theorem On.tables_saved (h : d.On disk path t) : (d.saved disk).tables path = t := by
  obtain ⟨o, hdatabase, hfile⟩ := h.database
  have saved : d.saved disk = o.saved disk ⟨some t.records, some t.preferences⟩ := by
    simp only [Depot.saved, hdatabase, h.store, Store.ofRows]
  rw [saved]
  exact OpenDatabase.tables_saved hfile h.takes _

theorem harmless_loadTemplates (disk : Disk) (s : Settings) :
    Harmless (loadTemplates disk s).answer := by
  unfold loadTemplates
  split
  · exact Template.harmless_load disk _
  · exact .ok _

theorem harmless_assemble (templates : List Template) (database : Option OpenDatabase)
    (s : Settings) (e : Environment) : Harmless (assemble templates database s e).answer := by
  unfold assemble
  split
  · exact .error rfl
  · dsimp only
    split
    · rename_i f hcreate
      unfold Dispatcher.create at hcreate
      split at hcreate
      · cases hcreate
        exact .error rfl
      · cases hcreate
    · exact .ok _

/-- An assembled depot keeps its records where it was told to. -/
theorem of_assemble {templates : List Template}
    (h : (assemble templates database s e).answer = .ok d) :
    d.database = database ∧ d.dispatcher.store = storeOn database := by
  unfold assemble at h
  split at h
  · cases h
  · dsimp only at h
    split at h
    · cases h
    · rename_i made hcreate
      unfold Dispatcher.create at hcreate
      split at hcreate
      · cases hcreate
      · cases hcreate
        cases h
        exact ⟨rfl, rfl⟩

/-- Setting up a depot on the file of a path changes no row of it, whatever becomes of the depot.
Without a depot nothing stops the program; with one, it keeps its records among the rows of the
file. -/
structure Sound (disk : Disk) (path : Path) (setup : Disk × Reply Depot) : Prop where
  tables : setup.1.tables path = disk.tables path
  harmless : Harmless setup.2.answer
  on : ∀ d, setup.2.answer = .ok d → d.On setup.1 path (disk.tables path)

theorem Sound.of_error {disk' : Disk} {f : Failure} {log : List Log.Entry}
    (htables : disk'.tables path = disk.tables path) (hf : f.isInterrupt = false) :
    Sound disk path (disk', ⟨.error f, log⟩) where
  tables := htables
  harmless := .error hf
  on := fun d h => by cases h

/-- Setting up a depot as settings ask that name a file. -/
theorem sound_create (named : s.Names path) (disk : Disk) (e : Environment) :
    Sound disk path (create disk s e) := by
  obtain ⟨url, a, hurl, hcheck, hfile⟩ := named
  have opening := OpenDatabase.sound_create hcheck hfile disk
  unfold create
  dsimp only
  split
  · rename_i f hloaded
    exact .of_error rfl (harmless_loadTemplates disk s f hloaded)
  · rename_i templates _
    have hopen : openDatabase disk s =
        ((OpenDatabase.create disk url).1, (OpenDatabase.create disk url).2.map some) := by
      rw [openDatabase, hurl]
    rw [hopen]
    dsimp only [Reply.map]
    cases hopened : (OpenDatabase.create disk url).2.answer with
    | error f => exact .of_error opening.tables (opening.harmless f hopened)
    | ok o =>
      obtain ⟨ofile, odatabase, takes⟩ := opening.on o hopened
      refine ⟨opening.tables, harmless_assemble templates (some o) s e, fun d h => ?_⟩
      obtain ⟨hdatabase, hstore⟩ := of_assemble h
      refine ⟨⟨o, hdatabase, ofile⟩, ?_, takes⟩
      rw [hstore, storeOn, odatabase, opening.tables]
      rfl

end Depot

end Courier
