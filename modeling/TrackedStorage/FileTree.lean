import TrackedStorage.Bytes

set_option autoImplicit false

namespace TrackedStorage

inductive Entry where
  | folder
  | file (content : Bytes)
  /-- A device that never has room for a byte. -/
  | fullDevice
  deriving DecidableEq

/-- The names that lead from the root to an entry. -/
abbrev Location := List Bytes

inductive Place where
  | found (location : Location) (entry : Entry)
  /-- A free name in an existing folder. -/
  | vacant (location : Location)
  | nowhere
  deriving DecidableEq

inductive Outlet where
  | file (location : Location)
  | fullDevice
  deriving DecidableEq

/-- A file system, seen from one of its folders. -/
structure FileTree where
  /-- The latest entry for a location comes first. The root is not listed. -/
  entries : List (Location × Entry)
  /-- The folder in which relative paths start. -/
  start : Location
  deriving DecidableEq

namespace FileTree

/-- A name of more bytes than this is refused. -/
def maxNameLength : Nat := 255

/-- A path of more bytes than this is refused. -/
def maxPathLength : Nat := 4095

/-- A tree whose starting folder is empty. -/
def blank : FileTree where
  entries :=
    [([Bytes.ofText "work"], .folder), ([Bytes.ofText "dev"], .folder),
      ([Bytes.ofText "dev", Bytes.ofText "full"], .fullDevice)]
  start := [Bytes.ofText "work"]

def lookup (tree : FileTree) (location : Location) : Option Entry :=
  tree.entries.lookup location

def put (tree : FileTree) (location : Location) (entry : Entry) : FileTree :=
  { tree with entries := (location, entry) :: tree.entries.filter (·.1 != location) }

/-- Follows names from a folder. Only a folder leads on to anything, were it itself. -/
def follow (tree : FileTree) (folder : Location) : List Bytes → Place
  | [] => .found folder .folder
  | name :: rest =>
      if name = [] ∨ name = Bytes.ofText "." then tree.follow folder rest
      else if name = Bytes.ofText ".." then tree.follow folder.dropLast rest
      else if maxNameLength < name.length then .nowhere
      else
        let location := folder ++ [name]
        match tree.lookup location with
        | some .folder => tree.follow location rest
        | some entry => if rest = [] then .found location entry else .nowhere
        | none => if rest = [] then .vacant location else .nowhere

/-- Where a path leads, which ends at its first NUL. The empty path leads nowhere. -/
def find (tree : FileTree) (path : Bytes) : Place :=
  let path := path.beforeNul
  let names := path.split (· == 47)
  if path = [] ∨ maxPathLength < path.length then .nowhere
  else if path.head? = some 47 then tree.follow [] names
  else tree.follow tree.start names

/-- The text that can be read from a path. A folder and a device can be opened, but have none: one
gives nothing, and the other zeros without end, which never make a line. -/
def read? (tree : FileTree) (path : Bytes) : Option Bytes :=
  match tree.find path with
  | .found _ (.file content) => some content
  | .found _ .folder | .found _ .fullDevice => some []
  | .vacant _ | .nowhere => none

/-- Opens a path for writing: a file is created, or emptied if it exists. -/
def create? (tree : FileTree) (path : Bytes) : Option (Outlet × FileTree) :=
  match tree.find path with
  | .found location (.file _) | .vacant location =>
      some (.file location, tree.put location (.file []))
  | .found _ .fullDevice => some (.fullDevice, tree)
  | _ => none

def writeFile (tree : FileTree) (path content : Bytes) : FileTree :=
  match tree.create? path with
  | some (.file location, tree) => tree.put location (.file content)
  | _ => tree

/-- Makes the folders named by `names`, one inside the other, after those in `front`. -/
def makeFolders (tree : FileTree) (front : List Bytes) : List Bytes → FileTree
  | [] => tree
  | name :: rest =>
      let names := front ++ [name]
      match tree.follow tree.start names with
      | .vacant location => (tree.put location .folder).makeFolders names rest
      | _ => tree.makeFolders names rest

/-- Makes every folder along a relative path that is not there yet. -/
def makeFolder (tree : FileTree) (path : Bytes) : FileTree :=
  tree.makeFolders [] (path.split (· == 47))

theorem lookup_put_self (tree : FileTree) (location : Location) (entry : Entry) :
    (tree.put location entry).lookup location = some entry := by
  simp [lookup, put]

theorem lookup_put_of_ne (tree : FileTree) {location other : Location} (entry : Entry)
    (differs : other ≠ location) :
    (tree.put location entry).lookup other = tree.lookup other := by
  simp only [lookup, put, List.lookup_cons]
  rw [beq_false_of_ne differs]
  induction tree.entries with
  | nil => rfl
  | cons head rest ih =>
      obtain ⟨place, held⟩ := head
      by_cases same : place = location
      · subst same
        simp [List.lookup_cons, beq_false_of_ne differs] at ih ⊢
        exact ih
      · simp only [List.filter_cons, bne_iff_ne, ne_eq, same, not_false_eq_true, ↓reduceIte,
          List.lookup_cons] at ih ⊢
        rw [ih]

/-- Names that lead to a file, or to a free name, lead to the file that is put there. -/
theorem follow_put {tree : FileTree} {location folder : Location} {names : List Bytes}
    (leads : (∃ old, tree.follow folder names = .found location (.file old)) ∨
      tree.follow folder names = .vacant location) (content : Bytes) :
    tree.lookup location ≠ some .folder ∧
      (tree.put location (.file content)).follow folder names =
        .found location (.file content) := by
  induction names generalizing folder with
  | nil => simp [follow] at leads
  | cons name rest ih =>
      simp only [follow] at leads ⊢
      by_cases stays : name = [] ∨ name = Bytes.ofText "."
      · simp only [if_pos stays] at leads ⊢
        exact ih leads
      · by_cases up : name = Bytes.ofText ".."
        · simp only [if_neg stays, if_pos up] at leads ⊢
          exact ih leads
        · by_cases long : maxNameLength < name.length
          · simp [stays, up, long] at leads
          · simp only [stays, up, long, ↓reduceIte] at leads ⊢
            cases found : tree.lookup (folder ++ [name]) with
            | none =>
                simp only [found] at leads
                by_cases last : rest = []
                · simp only [last, ↓reduceIte, Place.vacant.injEq, reduceCtorEq, exists_false,
                    false_or] at leads
                  subst leads
                  simp [found, lookup_put_self, last]
                · simp [last] at leads
            | some entry =>
                cases entry with
                | folder =>
                    simp only [found] at leads
                    have later := ih leads
                    have differs : folder ++ [name] ≠ location := by
                      rintro rfl
                      exact later.1 found
                    rw [lookup_put_of_ne tree _ differs, found]
                    exact later
                | file old =>
                    simp only [found] at leads
                    by_cases last : rest = []
                    · simp only [last, ↓reduceIte, Place.found.injEq, exists_and_left, reduceCtorEq,
                        or_false] at leads
                      obtain ⟨same, -⟩ := leads
                      subst same
                      simp [found, lookup_put_self, last]
                    · simp [last] at leads
                | fullDevice =>
                    simp only [found] at leads
                    by_cases last : rest = [] <;> simp [last] at leads

theorem find_put {tree : FileTree} {location : Location} {path : Bytes}
    (leads : (∃ old, tree.find path = .found location (.file old)) ∨
      tree.find path = .vacant location) (content : Bytes) :
    (tree.put location (.file content)).find path = .found location (.file content) := by
  unfold find at leads ⊢
  dsimp only at leads ⊢
  by_cases unusable : path.beforeNul = [] ∨ maxPathLength < path.beforeNul.length
  · simp [unusable] at leads
  · by_cases absolute : path.beforeNul.head? = some 47
    · simp only [if_neg unusable, if_pos absolute] at leads ⊢
      exact (follow_put leads content).2
    · simp only [if_neg unusable, if_neg absolute] at leads ⊢
      exact (follow_put leads content).2

/-- What is put where a path was opened for writing is read back through it. -/
theorem read?_put_of_create? {tree opened : FileTree} {path : Bytes} {location : Location}
    (created : tree.create? path = some (.file location, opened)) (content : Bytes) :
    (opened.put location (.file content)).read? path = some content := by
  have emptied : opened.find path = .found location (.file []) := by
    unfold create? at created
    split at created
    · rename_i old found
      cases created
      exact find_put (.inl ⟨_, found⟩) []
    · rename_i found
      cases created
      exact find_put (.inr found) []
    · cases created
    · cases created
  have filled := find_put (.inl ⟨_, emptied⟩) content
  rw [read?, filled]

end FileTree

end TrackedStorage
