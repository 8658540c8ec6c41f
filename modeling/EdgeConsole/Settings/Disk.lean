import EdgeConsole.Text.Utf8

/-!
# Disks

The part of a file system that settings live in: folders and files under a root folder. A path lists
the names from the root on.

A disk may refuse what is asked of it, and that does not always show in what stands on it: a folder
may be closed to whoever asks, and space may run out while a file is written. What has been done by
then stays done. So whatever may fail comes with a flag that tells whether it did not, and with the
disk as it is afterwards in either case.

Main definitions: `Disk.read?`, `Disk.makeFolders`, `Disk.opened?`, `Disk.write`, `Disk.save`.
-/

namespace EdgeConsole.Settings

/-- What a file holds. -/
structure Content where
  bytes : List UInt8
deriving DecidableEq, Repr

namespace Content

/-- The content of a file that holds a text. -/
def text (s : String) : Content := ⟨Text.Utf8.encode s.toList⟩

/-- The text that a file holds, if its bytes are one. -/
def text? (c : Content) : Option String := (Text.Utf8.decode? c.bytes).map String.ofList

/-- The first bytes of a content. -/
def start (c : Content) (n : Nat) : Content := ⟨c.bytes.take n⟩

end Content

/-- What stands at a path. -/
inductive Entry
  | file (c : Content)
  | folder
deriving DecidableEq, Repr

/-- The names on the way from the root. -/
abbrev Path : Type := List String

/-- The names of a path that is written with slashes. -/
def Path.ofText (s : String) : Path :=
  (s.splitOn "/").filter fun name => name != "" && name != "."

/-- The entries below the root, each path once, and what the disk refuses besides. -/
structure Disk where
  entries : List (Path × Entry)
  /-- Where no folder can be made and no file can be opened for writing. -/
  locked : List Path := []
  /-- Of which files no more than so many bytes can be written. -/
  limits : List (Path × Nat) := []
deriving DecidableEq, Repr

namespace Disk

/-- A disk with nothing but its root. -/
def empty : Disk := { entries := [] }

/-- What stands at a path. The root is a folder. -/
def find? (d : Disk) (p : Path) : Option Entry :=
  if p = [] then some .folder else (d.entries.find? (·.1 == p)).map (·.2)

/-- How many bytes of a file can be written, if not any number. -/
def limit? (d : Disk) (p : Path) : Option Nat := (d.limits.find? (·.1 == p)).map (·.2)

/-- Puts an entry at a path. -/
def put (d : Disk) (p : Path) (e : Entry) : Disk :=
  { d with entries := (p, e) :: d.entries.filter (·.1 != p) }

@[simp] theorem locked_put (d : Disk) (p : Path) (e : Entry) : (d.put p e).locked = d.locked := rfl

theorem find?_put_self {d : Disk} {p : Path} (h : p ≠ []) (e : Entry) :
    (d.put p e).find? p = some e := by
  simp [find?, put, h]

/-- An entry is put at its path and nowhere else. -/
theorem find?_put_of_ne {d : Disk} {p q : Path} (h : q ≠ p) (e : Entry) :
    (d.put p e).find? q = d.find? q := by
  unfold find? put
  split
  · rfl
  · have hp : (p == q) = false := by simpa using fun hpq => h hpq.symm
    rw [List.find?_cons_of_neg (by simp [hp]), List.find?_filter]
    congr 2
    funext x
    by_cases hx : x.1 = q <;> simp [hx, h]

/-- The content of the file at a path. -/
def read? (d : Disk) (p : Path) : Option Content :=
  match d.find? p with
  | some (.file c) => some c
  | _ => none

/-- Makes the folders that are lacking on the way along the names after `base`. If one of them
cannot be made, those before it are there all the same. -/
def makeFoldersFrom (base : Path) : List String → Disk → Bool × Disk
  | [], d => (true, d)
  | name :: rest, d =>
    let p := base ++ [name]
    match d.find? p with
    | some (.file _) => (false, d)
    | some .folder => makeFoldersFrom p rest d
    | none => if p ∈ d.locked then (false, d) else makeFoldersFrom p rest (d.put p .folder)

/-- Makes a folder and those that it stands in. -/
def makeFolders (d : Disk) (p : Path) : Bool × Disk :=
  makeFoldersFrom [] p d

/-- Opens a file for writing, which makes or empties it. It needs its folder, and never replaces a
folder. -/
def opened? (d : Disk) (p : Path) : Option Disk :=
  match d.find? p, d.find? p.dropLast with
  | some .folder, _ => none
  | _, some .folder => if p ∈ d.locked then none else some (d.put p (.file ⟨[]⟩))
  | _, _ => none

/-- Writes a file that has been opened, as far as its bytes can be written. -/
def write (d : Disk) (p : Path) (c : Content) : Bool × Disk :=
  match d.limit? p with
  | none => (true, d.put p (.file c))
  | some n =>
    if n < c.bytes.length then (false, d.put p (.file (c.start n)))
    else (true, d.put p (.file c))

/-- Saves a file after making the folders that it stands in. -/
def save (d : Disk) (p : Path) (c : Content) : Bool × Disk :=
  match d.makeFolders p.dropLast with
  | (false, d) => (false, d)
  | (true, d) =>
    match d.opened? p with
    | none => (false, d)
    | some d => d.write p c

end Disk

end EdgeConsole.Settings
