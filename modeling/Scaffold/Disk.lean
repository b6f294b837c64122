import Scaffold.Path
import Scaffold.Text.Quoted

/-!
# A disk of folders and files

A disk says for each place, a list of names from the top, whether a folder or a file is there. A
path is followed name by name: every name but the last must lead to a folder, and double dots lead
to the folder above, so that `a/../b` leads nowhere where there is no `a`.

* `Disk.get?` is what stands at a place, and the view through which a disk is seen;
  `Disk.get?_put` and `Disk.get?_remove` say what a new entry and a removal do to it.
* `Disk.locate` is the place a path leads to; nothing need be there yet.
* `Disk.read`, `Disk.write` and `Disk.makeFolder` work on the place a path leads to.
-/

namespace Scaffold

inductive Disk.Entry where
  | folder
  | file (contents : Bytes)
deriving Repr, DecidableEq, Inhabited

/-- The entries below the top, each place at most once. -/
structure Disk where
  entries : List (List String × Disk.Entry) := []
deriving Repr, Inhabited

namespace Disk

/-- Why a path cannot be used as it was meant to be. -/
inductive Fault where
  | missing
  | taken
  | notFolder
  | isFolder
deriving Repr, DecidableEq, Inhabited

namespace Fault

def number : Fault → Nat
  | .missing => 2
  | .taken => 17
  | .notFolder => 20
  | .isFolder => 21

def reason : Fault → String
  | .missing => "No such file or directory"
  | .taken => "File exists"
  | .notFolder => "Not a directory"
  | .isFolder => "Is a directory"

/-- What is said of a fault at a path. -/
def message (f : Fault) (p : Path) : String :=
  s!"[Errno {f.number}] {f.reason}: {Text.Quoted.ofString p.toString}"

end Fault

/-- What stands at a place. The top is always a folder. -/
def get? (d : Disk) (place : List String) : Option Entry :=
  match place with
  | [] => some .folder
  | place => d.entries.lookup place

/-- The disk with an entry at a place. -/
def put (d : Disk) (place : List String) (e : Entry) : Disk :=
  ⟨(place, e) :: d.entries.filter (·.1 != place)⟩

theorem lookup_filter (entries : List (List String × Entry)) (keeps : List String → Bool)
    (place : List String) :
    (entries.filter (keeps ·.1)).lookup place =
      if keeps place then entries.lookup place else none := by
  induction entries with
  | nil => simp
  | cons head tail ih =>
    obtain ⟨name, value⟩ := head
    by_cases hn : place = name
    · subst hn
      cases hk : keeps place <;> simp [hk, ih]
    · cases hk : keeps name <;> simp [List.lookup_cons, beq_false_of_ne hn, hk, ih]

theorem get?_put (d : Disk) (place other : List String) (e : Entry) :
    (d.put place e).get? other =
      if other = [] then some .folder else if other = place then some e else d.get? other := by
  cases other with
  | nil => rfl
  | cons name names =>
    by_cases h : name :: names = place
    · simp [get?, put, ← h]
    · have kept := lookup_filter d.entries (· != place) (name :: names)
      rw [if_pos (bne_iff_ne.mpr h)] at kept
      simp [get?, put, List.lookup_cons, beq_false_of_ne h, h, kept]

/-- The disk without a place and all that stands below it. -/
def remove (d : Disk) (place : List String) : Disk :=
  ⟨d.entries.filter fun e => !place.isPrefixOf e.1⟩

theorem get?_remove (d : Disk) (place other : List String) :
    (d.remove place).get? other =
      if other = [] then some .folder else if place <+: other then none else d.get? other := by
  cases other with
  | nil => rfl
  | cons name names =>
    refine (lookup_filter d.entries (!place.isPrefixOf ·) (name :: names)).trans ?_
    rw [if_neg (List.cons_ne_nil name names)]
    simp only [← List.isPrefixOf_iff_prefix]
    cases place.isPrefixOf (name :: names) with
    | true => rfl
    | false => rfl

/-- Follows names from the place `here`. -/
def follow (d : Disk) (here : List String) : List String → Except Fault (List String)
  | [] => .ok here
  | name :: names =>
    match d.get? here with
    | none => .error .missing
    | some (.file _) => .error .notFolder
    | some .folder => follow d (if name == ".." then here.dropLast else here ++ [name]) names

/-- The place a path leads to, seen from the working folder `cwd`. -/
def locate (d : Disk) (cwd p : Path) : Except Fault (List String) :=
  d.follow [] (cwd.join p).names

/-- What a path leads to, if it leads to anything. -/
def entry? (d : Disk) (cwd p : Path) : Option Entry :=
  match d.locate cwd p with
  | .ok place => d.get? place
  | .error _ => none

def read (d : Disk) (cwd p : Path) : Except Fault Bytes := do
  match d.get? (← d.locate cwd p) with
  | none => throw .missing
  | some .folder => throw .isFolder
  | some (.file contents) => return contents

/-- The disk with a file of these contents where the path leads. -/
def write (d : Disk) (cwd p : Path) (contents : Bytes) : Except Fault Disk := do
  let place ← d.locate cwd p
  match d.get? place with
  | some .folder => throw .isFolder
  | _ => return d.put place (.file contents)

/-- The disk with a new folder where the path leads. -/
def makeFolder (d : Disk) (cwd p : Path) : Except Fault Disk := do
  let place ← d.locate cwd p
  match d.get? place with
  | some _ => throw .taken
  | none => return d.put place .folder

end Disk

end Scaffold
