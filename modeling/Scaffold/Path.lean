/-!
# Paths

A path is a root and a list of names. Empty names and single dots are dropped when a path is read;
double dots are kept. A path may start with no slash, with one, or with exactly two.

* `Path.join` puts a path behind another; an absolute one replaces it.
* `Path.resolve` gives the names of a path from the top of the file system, without double dots.
* `Path.between` is the shortest way from one resolved path to another.
-/

namespace Scaffold

inductive Path.Root where
  | none
  | single
  | double
deriving Repr, DecidableEq, Inhabited

structure Path where
  root : Path.Root := .none
  names : List String := []
deriving Repr, DecidableEq, Inhabited

namespace Path

/-- The pieces of a text between slashes. -/
def pieces : List Char → List (List Char)
  | [] => [[]]
  | c :: cs =>
    if c == '/' then [] :: pieces cs
    else
      match pieces cs with
      | p :: ps => (c :: p) :: ps
      | [] => [[c]]

def rootOf : List Char → Root
  | '/' :: '/' :: '/' :: _ => .single
  | '/' :: '/' :: _ => .double
  | '/' :: _ => .single
  | _ => .none

/-- The piece is a name, and not one of those that a path leaves out. -/
def isName (piece : List Char) : Bool :=
  piece != [] && piece != ['.']

def ofString (s : String) : Path :=
  ⟨rootOf s.toList, ((pieces s.toList).filter isName).map String.ofList⟩

def Root.text : Root → String
  | .none => ""
  | .single => "/"
  | .double => "//"

def toString (p : Path) : String :=
  if p.root == .none && p.names.isEmpty then "." else p.root.text ++ "/".intercalate p.names

instance : ToString Path := ⟨toString⟩

def isAbsolute (p : Path) : Bool :=
  p.root != .none

/-- The second path as seen from the first. -/
def join (p q : Path) : Path :=
  if q.isAbsolute then q else ⟨p.root, p.names ++ q.names⟩

/-- The path without its last name. -/
def parent (p : Path) : Path :=
  ⟨p.root, p.names.dropLast⟩

/-- The paths above a path, the nearest first. -/
def parents (p : Path) : List Path :=
  (List.range p.names.length).reverse.map fun n => ⟨p.root, p.names.take n⟩

/-- The last name, or the empty text. -/
def name (p : Path) : String :=
  p.names.getLastD ""

/-- A name before and from its last dot. A dot at either end of the name divides nothing. -/
def splitName (name : List Char) : List Char × List Char :=
  let back := name.reverse.takeWhile (· != '.')
  let stem := name.take (name.length - back.length - 1)
  if back.isEmpty || stem.isEmpty then (name, [])
  else (stem, '.' :: back.reverse)

def stem (p : Path) : String :=
  String.ofList (splitName p.name.toList).1

/-- The last dot of the name and what follows it. -/
def extension (p : Path) : String :=
  String.ofList (splitName p.name.toList).2

/-- One more name behind resolved ones, kept in reverse; double dots go up and stop at the top. -/
def climb (reversed : List String) (name : String) : List String :=
  if name == ".." then reversed.tail else name :: reversed

/-- Names from the top without double dots. -/
def normalize (names : List String) : List String :=
  (names.foldl climb []).reverse

/-- The names of a path from the top of the file system, seen from the directory `cwd`. -/
def resolve (cwd p : Path) : List String :=
  normalize (cwd.join p).names

/-- The number of names two lists have in common at the front. -/
def common : List String → List String → Nat
  | a :: as, b :: bs => if a == b then common as bs + 1 else 0
  | _, _ => 0

/-- The shortest way from the resolved path `start` to the resolved path `goal`. -/
def between (start goal : List String) : List String :=
  let n := common start goal
  List.replicate (start.length - n) ".." ++ goal.drop n

/-- The text by which a module at `module` is imported from a file in `folder`. -/
def specifier (cwd module folder : Path) : String :=
  match between (cwd.resolve folder) (cwd.resolve module) with
  | [] => "."
  | names =>
    let way := "/".intercalate names
    if way.startsWith "." then way else "./" ++ way

end Path

end Scaffold
