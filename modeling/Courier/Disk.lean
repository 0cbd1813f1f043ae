import Courier.Database.Document
import Courier.Disk.Fault

/-!
# The disk

What the program sees of the disk: directories, files with bytes in them, and databases. A path is
followed name by name from the directory at hand, and two periods lead one directory up; so a path
can fail to lead anywhere, or lead through something that is no directory. Names and paths beyond a
certain length are not followed at all.
-/

namespace Courier

/-- Something on the disk. -/
inductive Disk.Item where
  | directory
  | file (bytes : List UInt8)
  | database (db : Database)
deriving Repr, Inhabited

/-- What is on the disk, by path. The directory at hand, those above it and the root are always
there. -/
structure Disk where
  items : List (Path × Disk.Item) := []
deriving Repr, Inhabited

namespace Disk

/-- Whether a place is a directory without anybody having made it. -/
def isGiven (place : Path) : Bool := place.names.all (· == "..")

/-- What lies at a place. -/
def itemAt? (d : Disk) (place : Path) : Option Item :=
  if isGiven place then some .directory else d.items.lookup place

/-- The most bytes of a name. -/
def nameLimit : Nat := 255

/-- The most bytes of a path. -/
def pathLimit : Nat := 4095

/-- The place that names lead to from a place. -/
def walk (d : Disk) (place : Path) : List String → Except Fault Path
  | [] => .ok place
  | name :: rest =>
    match d.itemAt? place with
    | some .directory =>
      if nameLimit < name.utf8ByteSize then .error .nameTooLong
      else d.walk (place.enter name) rest
    | some _ => .error .notADirectory
    | none => .error .missing

/-- The place that a path leads to, whether or not something lies there. -/
def place (d : Disk) (path : Path) : Except Fault Path :=
  if path.names.any fun name => name.toList.contains '\x00' then .error .nullByte
  else if pathLimit < path.text.utf8ByteSize then .error .nameTooLong
  else d.walk ⟨min path.root 1, []⟩ path.names

/-- What a path leads to. -/
def find (d : Disk) (path : Path) : Except Fault Item := do
  match d.itemAt? (← d.place path) with
  | some item => return item
  | none => throw .missing

/-- Whether a path leads to a directory. -/
def hasDirectory (d : Disk) (path : Path) : Bool :=
  match d.find path with
  | .ok .directory => true
  | _ => false

/-- Whether a path leads to anything. -/
def has (d : Disk) (path : Path) : Bool := (d.find path).isOk

/-- Whether a path leads to a file. -/
def hasFile (d : Disk) (path : Path) : Bool :=
  match d.find path with
  | .ok .directory | .error _ => false
  | .ok _ => true

/-- The bytes of a file. -/
def bytes (d : Disk) (path : Path) : Except Fault (List UInt8) := do
  match ← d.find path with
  | .directory => throw .isADirectory
  | .file bytes => return bytes
  | .database db => return db.fileText.toUTF8.toList

/-- The text of a file, each of its lines ended by a line feed. -/
def text (d : Disk) (path : Path) : Except TextFault String := do
  let bytes ← (d.bytes path).mapError .file
  let text ← (Utf8.decode bytes).mapError .bytes
  return String.ofList (Utf8.lines text.toList)

/-- The disk with an item at a place, in place of what was there. -/
def put (d : Disk) (place : Path) (item : Item) : Disk :=
  ⟨(place, item) :: d.items.filter fun e => e.1 != place⟩

/-- The disk with an item at the place that a path leads to, if the way there can be followed. -/
def write (d : Disk) (path : Path) (item : Item) : Disk :=
  match d.place path with
  | .ok place => d.put place item
  | .error _ => d

/-- The disk with directories on the whole way to a path, as far as nothing is in the way. -/
def withDirectories (d : Disk) (path : Path) : Disk :=
  (path.parents ++ [path]).foldl (fun d p =>
    match d.place p with
    | .ok place => if (d.itemAt? place).isNone then d.put place .directory else d
    | .error _ => d) d

/-- The disk with an item at a path and directories on the way to it. -/
def withItem (d : Disk) (path : Path) (item : Item) : Disk :=
  (d.withDirectories path.parent).write path item

/-- The paths of all that was put below the directory at hand, in order. -/
def listing (d : Disk) : List String :=
  ((d.items.filter fun e => e.1.root = 0 && e.1.names.head? != some "..").map fun e =>
    e.1.text).mergeSort (· ≤ ·)

@[simp] theorem itemAt?_put (d : Disk) {place : Path} (item : Item) (h : isGiven place = false) :
    (d.put place item).itemAt? place = some item := by
  simp [itemAt?, put, h]

theorem itemAt?_put_of_ne (d : Disk) {place other : Path} (item : Item) (h : other ≠ place) :
    (d.put place item).itemAt? other = d.itemAt? other := by
  have off : (other == place) = false := by simpa using h
  have filtered : ∀ items : List (Path × Item),
      (items.filter fun e => e.1 != place).lookup other = items.lookup other := by
    intro items
    induction items with
    | nil => rfl
    | cons e rest ih =>
      obtain ⟨key, kept⟩ := e
      by_cases he : key = place
      · simp [List.filter, List.lookup_cons, he, off, ih]
      · have keep : (key != place) = true := by simpa using he
        simp [List.filter, keep, List.lookup_cons, ih]
  simp [itemAt?, put, List.lookup_cons, off, filtered]

end Disk

end Courier
