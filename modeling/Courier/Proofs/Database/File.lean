import Courier.Database.Opening
import Courier.Proofs.Disk.Writing
import Courier.Proofs.Store.Failing

/-!
# Databases in files

What a file holds of a database are the rows of its two tables; a table that is missing, or a file
that is missing, has none (`Disk.tables`). Opening the database may make directories, the file and
the tables, but it changes no row. If it succeeds, the database has both tables with the rows of the
file, and what is saved of it later are the rows in the file from then on
(`OpenDatabase.sound_create`, `OpenDatabase.tables_saved`).
-/

namespace Courier

/-- The rows of the two tables of a database. -/
structure Tables where
  records : List Row := []
  preferences : List PreferenceRow := []

/-- The rows of a database. A table that is missing has none. -/
def Database.tables (db : Database) : Tables := ⟨db.records.getD [], db.preferences.getD []⟩

/-- The rows of the database in the file that a path leads to. If it leads to no database, there are
none. -/
def Disk.tables (d : Disk) (path : Path) : Tables :=
  match d.itemAt? path.ground with
  | some (.database db) => db.tables
  | _ => {}

namespace Disk

variable {d d' : Disk} {path : Path}

theorem tables_of_find {db : Database} (h : d.find path = .ok (.database db)) :
    d.tables path = db.tables := by
  rw [tables, (find_eq_ok_iff.mp h).2]

/-- Making directories changes no row. -/
theorem Grown.tables (h : d.Grown d') (path : Path) : d'.tables path = d.tables path := by
  unfold Disk.tables
  rcases h path.ground with same | ⟨none, made⟩
  · rw [same]
  · rw [none, made]

theorem Takes.tables_write (t : d.Takes path) (db : Database) :
    (d.write path (.database db)).tables path = db.tables := by
  rw [tables, t.itemAt?_write]

end Disk

namespace OpenDatabase

variable {d d' : Disk} {path : Path} {url : String} {db : Database} {log : List Log.Entry}

/-- A database that can be opened has the rows of its file, and the file can be written. -/
theorem of_fileOn (h : fileOn d path = .ok db) : d.Takes path ∧ db.tables = d.tables path := by
  unfold fileOn at h
  split at h
  · rename_i found hfind
    cases h
    obtain ⟨hplace, hitem⟩ := Disk.find_eq_ok_iff.mp hfind
    refine ⟨⟨hplace, ?_⟩, (Disk.tables_of_find hfind).symm⟩
    rw [hitem]
    exact fun he => by cases he
  · rename_i hfind
    cases h
    obtain ⟨hplace, hitem⟩ := Disk.find_eq_ok_iff.mp hfind
    refine ⟨⟨hplace, ?_⟩, ?_⟩
    · rw [hitem]
      exact fun he => by cases he
    · rw [Disk.tables, hitem]
      rfl
  · cases h
  · cases h
  · rename_i hfind
    split at h
    · rename_i around
      cases h
      obtain ⟨hplace, hitem⟩ := Disk.place_of_missing hfind around
      refine ⟨⟨hplace, ?_⟩, ?_⟩
      · rw [hitem]
        exact fun he => by cases he
      · rw [Disk.tables, hitem]
        rfl
    · cases h
  · cases h

/-- A database that is open on the file of a path: it has both tables, with the rows of the file,
and the file can be written. -/
structure On (o : OpenDatabase) (d : Disk) (path : Path) : Prop where
  file : o.file = some path
  database : o.database = ⟨some (d.tables path).records, some (d.tables path).preferences⟩
  takes : d.Takes path

/-- What is saved of a database is what the file holds. -/
theorem tables_saved {o : OpenDatabase} (file : o.file = some path) (takes : d.Takes path)
    (now : Database) : (o.saved d now).tables path = now.tables := by
  rw [saved, file]
  exact takes.tables_write now

/-- Opening a database on the file of a path changes none of its rows, whatever becomes of it.
Without success nothing stops the program; with success the database is open on the file. -/
structure Sound (d : Disk) (path : Path) (opening : Disk × Reply OpenDatabase) : Prop where
  tables : opening.1.tables path = d.tables path
  harmless : Harmless opening.2.answer
  on : ∀ o, opening.2.answer = .ok o → o.On opening.1 path

theorem Sound.of_error {f : Failure} (hd : d.Grown d') (hf : f.isInterrupt = false) :
    Sound d path (d', ⟨.error f, log⟩) where
  tables := hd.tables path
  harmless := .error hf
  on := fun o h => by cases h

theorem Sound.of_grown {opening : Disk × Reply OpenDatabase} (hd : d.Grown d')
    (h : Sound d' path opening) : Sound d path opening :=
  ⟨h.tables.trans (hd.tables path), h.harmless, h.on⟩

theorem sound_connect {a : Address} (hcheck : Address.check url = .ok a)
    (hfile : a.file? = some path) (d : Disk) (log : List Log.Entry) :
    Sound d path (connect d url log) := by
  unfold connect
  rw [hcheck]
  dsimp only
  rw [hfile]
  dsimp only
  cases hopen : fileOn d path with
  | error reason => exact .of_error (.refl d) rfl
  | ok db =>
    obtain ⟨takes, tables⟩ := of_fileOn hopen
    have written := takes.tables_write db.withTables
    have same : db.withTables.tables = db.tables := rfl
    rw [same, tables] at written
    refine ⟨written, .ok _, fun o h => ?_⟩
    cases h
    refine ⟨rfl, ?_, takes.write fun he => by cases he⟩
    dsimp only
    rw [written, ← tables]
    rfl

/-- Opening the database of an address that names a file. -/
theorem sound_create {a : Address} (hcheck : Address.check url = .ok a)
    (hfile : a.file? = some path) (d : Disk) : Sound d path (create d url) := by
  unfold create
  split
  · exact .of_error (.refl d) rfl
  · dsimp only
    split
    · exact sound_connect hcheck hfile d _
    · rename_i directory _
      have grown := d.grown_withDirectories directory
      split
      · exact sound_connect hcheck hfile d _
      · split
        · exact (sound_connect hcheck hfile _ _).of_grown grown
        · exact .of_error grown rfl

end OpenDatabase

end Courier
