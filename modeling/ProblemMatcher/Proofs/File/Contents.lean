import ProblemMatcher.File.Tree
import ProblemMatcher.Proofs.Attempt
import ProblemMatcher.Proofs.Text.Utf8

/-!
# What can be read at a path

1. `isFile_eq_true`, `isFile_eq_false`, `isFile_eq_error`: whether a path leads to a file, and when
   even that cannot be told.
2. `readBytes_eq_ok`, `readText_eq_ok`: what is read is what the file holds, decoded and with its
   breaks made line feeds.
3. `exists_of_readText`: text that cannot be read is at no file, or at one that is not encoded in
   UTF-8.
-/

namespace ProblemMatcher.FileTree

variable {t : FileTree} {p : Path} {bytes : List UInt8} {text : List Char}

/-- The path leads to a file with the bytes. -/
def Holds (t : FileTree) (p : Path) (bytes : List UInt8) : Prop :=
  hasNul p = false ∧ ∃ place, t.resolve p = .ok (place, .file bytes)

/-- The path, or a name on it, is longer than any that can be looked up. -/
def IsOverlong (t : FileTree) (p : Path) : Prop :=
  hasNul p = false ∧ t.resolve p = .error .nameTooLong

/-- A file at the path, if there is one, is the encoding of a text. -/
def IsText (t : FileTree) (p : Path) : Prop :=
  ∀ bytes, t.Holds p bytes → ∃ text, bytes = Text.encodeUtf8 text

/-! ## Files -/

theorem Holds.unique {other : List UInt8} (h : t.Holds p bytes) (h' : t.Holds p other) :
    bytes = other := by
  obtain ⟨-, place, hplace⟩ := h
  obtain ⟨-, place', hplace'⟩ := h'
  rw [hplace] at hplace'
  cases hplace'
  rfl

theorem Holds.not_isOverlong (h : t.Holds p bytes) : ¬ t.IsOverlong p := by
  rintro ⟨-, hlong⟩
  obtain ⟨-, place, hplace⟩ := h
  rw [hplace] at hlong
  cases hlong

theorem isFile_eq_true : t.isFile p = .ok true ↔ ∃ bytes, t.Holds p bytes := by
  unfold isFile Holds
  by_cases hnul : hasNul p = true
  · rw [if_pos hnul]
    simp [hnul]
  · rw [if_neg hnul]
    rw [Bool.not_eq_true] at hnul
    constructor
    · intro h
      split at h
      · rename_i place bytes hresolve
        exact ⟨bytes, hnul, place, hresolve⟩
      · cases h
      · cases h
    · rintro ⟨bytes, -, place, hresolve⟩
      rw [hresolve]

theorem isFile_eq_error {fault : FileFault} :
    t.isFile p = .error fault ↔ fault = .nameTooLong ∧ t.IsOverlong p := by
  unfold isFile IsOverlong
  by_cases hnul : hasNul p = true
  · rw [if_pos hnul]
    simp [hnul]
  · rw [if_neg hnul]
    rw [Bool.not_eq_true] at hnul
    constructor
    · intro h
      split at h
      · cases h
      · rename_i hresolve
        cases h
        exact ⟨rfl, hnul, hresolve⟩
      · cases h
    · rintro ⟨rfl, -, hresolve⟩
      rw [hresolve]

theorem isFile_eq_false :
    t.isFile p = .ok false ↔ (∀ bytes, ¬ t.Holds p bytes) ∧ ¬ t.IsOverlong p := by
  constructor
  · intro h
    refine ⟨fun bytes hbytes => ?_, fun hlong => ?_⟩
    · rw [isFile_eq_true.mpr ⟨bytes, hbytes⟩] at h
      cases h
    · rw [isFile_eq_error.mpr ⟨rfl, hlong⟩] at h
      cases h
  · rintro ⟨hfile, hlong⟩
    cases h : t.isFile p with
    | error fault => exact absurd (isFile_eq_error.mp h).2 hlong
    | ok found =>
      cases found with
      | false => rfl
      | true =>
        obtain ⟨bytes, hbytes⟩ := isFile_eq_true.mp h
        exact absurd hbytes (hfile bytes)

theorem exists_long_of_follow {place names : List String}
    (h : t.follow place names = .error .nameTooLong) :
    ∃ name ∈ names, maxNameBytes < name.utf8ByteSize := by
  induction names generalizing place with
  | nil =>
    unfold follow at h
    split at h <;> cases h
  | cons name rest ih =>
    unfold follow at h
    split at h
    · split_ifs at h with hup hname
      · obtain ⟨long, hlong, hsize⟩ := ih h
        exact ⟨long, List.mem_cons_of_mem _ hlong, hsize⟩
      · exact ⟨name, List.mem_cons_self, hname⟩
      · obtain ⟨long, hlong, hsize⟩ := ih h
        exact ⟨long, List.mem_cons_of_mem _ hlong, hsize⟩
    · cases h
    · cases h

/-- A path can be looked up if it is short as a whole and each name on it is. -/
theorem IsOverlong.exists_long (h : t.IsOverlong p) :
    maxPathBytes < p.toString.utf8ByteSize ∨
      ∃ name ∈ p.names, maxNameBytes < name.utf8ByteSize := by
  obtain ⟨-, h⟩ := h
  unfold resolve at h
  by_cases hpath : maxPathBytes < p.toString.utf8ByteSize
  · exact Or.inl hpath
  · rw [if_neg hpath] at h
    exact Or.inr (exists_long_of_follow h)

/-- A long name on a path to follow from a directory. -/
theorem isOverlong_of_long {name : String} {rest : List String}
    (hplace : t.at? t.workingDirectory = some .directory)
    (hname : maxNameBytes < name.utf8ByteSize) (hnul : hasNul ⟨"", name :: rest⟩ = false) :
    t.IsOverlong ⟨"", name :: rest⟩ := by
  have hup : name ≠ ".." := by
    rintro rfl
    exact absurd hname (by decide)
  refine ⟨hnul, ?_⟩
  unfold resolve
  split_ifs with hpath habsolute
  · rfl
  · exact absurd habsolute (by simp [Path.isAbsolute])
  · unfold follow
    rw [hplace]
    dsimp only
    rw [if_neg hup, if_pos hname]

/-! ## Bytes and text -/

theorem readBytes_eq_ok : t.readBytes p = .ok bytes ↔ t.Holds p bytes := by
  unfold readBytes Holds
  by_cases hnul : hasNul p = true
  · rw [if_pos hnul]
    simp [hnul]
  · rw [if_neg hnul]
    rw [Bool.not_eq_true] at hnul
    constructor
    · intro h
      split at h
      · rename_i place content hresolve
        cases h
        exact ⟨hnul, place, hresolve⟩
      · cases h
      · cases h
    · rintro ⟨-, place, hresolve⟩
      rw [hresolve]

theorem exists_of_readBytes {why : ReadFault} (hnul : hasNul p = false)
    (h : t.readBytes p = .error why) : ∃ fault, why = .file fault p := by
  unfold readBytes at h
  rw [if_neg (by simp [hnul])] at h
  split at h
  · cases h
  · cases h
    exact ⟨_, rfl⟩
  · cases h
    exact ⟨_, rfl⟩

theorem readText_eq_ok : t.readText p = .ok text ↔
    ∃ decoded, t.Holds p (Text.encodeUtf8 decoded) ∧ text = Text.normalizeBreaks decoded := by
  unfold readText
  constructor
  · intro h
    split at h
    · cases h
    · rename_i bytes hbytes
      split at h
      · rename_i decoded hdecoded
        cases h
        rw [Text.decodeUtf8_eq_ok.mp hdecoded] at hbytes
        exact ⟨decoded, readBytes_eq_ok.mp hbytes, rfl⟩
      · cases h
  · rintro ⟨decoded, hbytes, rfl⟩
    rw [readBytes_eq_ok.mpr hbytes]
    dsimp only
    rw [Text.decodeUtf8_eq_ok.mpr rfl]

theorem isText_of_readText (h : t.readText p = .ok text) : t.IsText p := by
  obtain ⟨decoded, hdecoded, -⟩ := readText_eq_ok.mp h
  exact fun bytes hbytes => ⟨decoded, hbytes.unique hdecoded⟩

/-- There is no file to read, or what it holds is no text. -/
theorem exists_of_readText {why : ReadFault} (hnul : hasNul p = false)
    (h : t.readText p = .error why) :
    (∀ bytes, ¬ t.Holds p bytes) ∧ (∃ fault, why = .file fault p) ∨
      ¬ t.IsText p ∧ ∃ fault, why = .notUtf8 fault := by
  unfold readText at h
  split at h
  · rename_i why hbytes
    cases h
    refine Or.inl ⟨fun bytes hholds => ?_, exists_of_readBytes hnul hbytes⟩
    rw [readBytes_eq_ok.mpr hholds] at hbytes
    cases hbytes
  · rename_i bytes hbytes
    split at h
    · cases h
    · rename_i fault hdecoded
      cases h
      refine Or.inr ⟨fun htext => ?_, fault, rfl⟩
      obtain ⟨text, rfl⟩ := htext bytes (readBytes_eq_ok.mp hbytes)
      rw [Text.decodeUtf8_eq_ok.mpr rfl] at hdecoded
      cases hdecoded

end ProblemMatcher.FileTree
