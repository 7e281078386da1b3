import ProblemMatcher.Proofs.File.Contents
import ProblemMatcher.Settings.Load

/-!
# The settings file that counts

The walk goes from a directory to those above it and ends at the first one with a settings file. It
does not get there if on the way a path is too long to be looked up.

1. `IsFirst`, `IsBarred`: which settings file is met first, and what bars the way to it.
2. `nearestOf_cons`: what the walk does at one directory.
3. `nearestOf_cases`: the walk is barred or finds the first settings file, by induction on the
   directories. `not_isBarred_of_short`: ordinary paths do not bar it.
-/

namespace ProblemMatcher.Settings

variable {t : FileTree} {directories : List Path} {directory : Path} {bytes : List UInt8}

/-- No settings file is in the directory. -/
def LacksFile (t : FileTree) (directory : Path) : Prop :=
  ∀ bytes, ¬ t.Holds (directory.join fileName) bytes

/-- The first settings file met in some directories is that of the directory, and holds the
bytes. -/
inductive IsFirst (t : FileTree) : List Path → Path → List UInt8 → Prop
  | here {directory : Path} {above : List Path} {bytes : List UInt8} :
      t.Holds (directory.join fileName) bytes → IsFirst t (directory :: above) directory bytes
  | above {below : Path} {above : List Path} {directory : Path} {bytes : List UInt8} :
      LacksFile t below → IsFirst t above directory bytes →
      IsFirst t (below :: above) directory bytes

/-- Before a settings file is met in some directories, one would have to be looked up under a path
that is too long. -/
inductive IsBarred (t : FileTree) : List Path → Prop
  | here {directory : Path} {above : List Path} :
      t.IsOverlong (directory.join fileName) → IsBarred t (directory :: above)
  | above {below : Path} {above : List Path} :
      LacksFile t below → IsBarred t above → IsBarred t (below :: above)

/-- The directories that are searched, the nearest first. -/
def walk (start : Path) : List Path :=
  start :: start.parents

/-! ## The walk -/

theorem not_isFirst_nil : ¬ IsFirst t [] directory bytes := nofun

theorem IsFirst.holds (h : IsFirst t directories directory bytes) :
    t.Holds (directory.join fileName) bytes := by
  induction h with
  | here hholds => exact hholds
  | above _ _ ih => exact ih

/-- There is at most one settings file that counts. -/
theorem IsFirst.unique {other : Path} {content : List UInt8}
    (h : IsFirst t directories directory bytes) (h' : IsFirst t directories other content) :
    directory = other ∧ bytes = content := by
  induction h with
  | here hholds =>
    cases h' with
    | here hholds' => exact ⟨rfl, hholds.unique hholds'⟩
    | above hlacks _ => exact absurd hholds (hlacks _)
  | above hlacks _ ih =>
    cases h' with
    | here hholds' => exact absurd hholds' (hlacks _)
    | above _ h' => exact ih h'

/-- What the walk does at a directory. -/
theorem nearestOf_cons (t : FileTree) (directory : Path) (above : List Path) :
    (∃ bytes, t.Holds (directory.join fileName) bytes) ∧
        nearestOf t (directory :: above) = .ok (some directory) ∨
      t.IsOverlong (directory.join fileName) ∧
        nearestOf t (directory :: above) =
          .error (.unreachable .nameTooLong (directory.join fileName)) ∨
      (LacksFile t directory ∧ ¬ t.IsOverlong (directory.join fileName)) ∧
        nearestOf t (directory :: above) = nearestOf t above := by
  rw [nearestOf]
  by_cases hfile : ∃ bytes, t.Holds (directory.join fileName) bytes
  · left
    rw [FileTree.isFile_eq_true.mpr hfile]
    exact ⟨hfile, rfl⟩
  · right
    by_cases hlong : t.IsOverlong (directory.join fileName)
    · left
      rw [FileTree.isFile_eq_error.mpr ⟨rfl, hlong⟩]
      exact ⟨hlong, rfl⟩
    · right
      have hlacks : LacksFile t directory := fun bytes hbytes => hfile ⟨bytes, hbytes⟩
      rw [FileTree.isFile_eq_false.mpr ⟨hlacks, hlong⟩]
      exact ⟨⟨hlacks, hlong⟩, rfl⟩

theorem isBarred_cons_iff {above : List Path} (hlacks : LacksFile t directory)
    (hlong : ¬ t.IsOverlong (directory.join fileName)) :
    IsBarred t (directory :: above) ↔ IsBarred t above := by
  constructor
  · intro h
    cases h with
    | here hlong' => exact absurd hlong' hlong
    | above _ h => exact h
  · exact .above hlacks

theorem isFirst_cons_iff {below : Path} {above : List Path} (hlacks : LacksFile t below) :
    IsFirst t (below :: above) directory bytes ↔ IsFirst t above directory bytes := by
  constructor
  · intro h
    cases h with
    | here hholds => exact absurd hholds (hlacks bytes)
    | above _ h => exact h
  · exact .above hlacks

/-- **The walk** is barred, or finds the first settings file, or there is none. -/
theorem nearestOf_cases (t : FileTree) (directories : List Path) :
    IsBarred t directories ∧ (∃ fault, nearestOf t directories = .error fault) ∨
      ¬ IsBarred t directories ∧
        ((∃ directory bytes, IsFirst t directories directory bytes ∧
            nearestOf t directories = .ok (some directory)) ∨
          (∀ directory bytes, ¬ IsFirst t directories directory bytes) ∧
            nearestOf t directories = .ok none) := by
  induction directories with
  | nil => exact Or.inr ⟨nofun, Or.inr ⟨fun _ _ => not_isFirst_nil, rfl⟩⟩
  | cons directory above ih =>
    -- A file or a path that is too long ends the walk here; else it goes on with the ones above.
    rcases nearestOf_cons t directory above with ⟨⟨bytes, hbytes⟩, h⟩ | ⟨hlong, h⟩ |
      ⟨⟨hlacks, hlong⟩, h⟩
    · refine Or.inr ⟨fun hbarred => ?_, Or.inl ⟨directory, bytes, .here hbytes, h⟩⟩
      cases hbarred with
      | here hlong => exact hbytes.not_isOverlong hlong
      | above hlacks _ => exact hlacks bytes hbytes
    · exact Or.inl ⟨.here hlong, _, h⟩
    · simp only [h, isBarred_cons_iff hlacks hlong, isFirst_cons_iff hlacks]
      exact ih

/-- Short names on a short path bar no way. -/
theorem not_isBarred_of_short
    (h : ∀ directory ∈ directories,
      (directory.join fileName).toString.utf8ByteSize ≤ FileTree.maxPathBytes ∧
        ∀ name ∈ (directory.join fileName).names, name.utf8ByteSize ≤ FileTree.maxNameBytes) :
    ¬ IsBarred t directories := by
  intro hbarred
  induction hbarred with
  | here hlong =>
    obtain ⟨hpath, hnames⟩ := h _ List.mem_cons_self
    rcases hlong.exists_long with hlong | ⟨name, hname, hlong⟩
    · omega
    · exact absurd (hnames name hname) (Nat.not_le_of_lt hlong)
  | above _ _ ih => exact ih fun directory hmem => h directory (List.mem_cons_of_mem _ hmem)

end ProblemMatcher.Settings
