import ProblemMatcher.Proofs.Settings.Nearest

/-!
# Which settings count

Settings are read from the settings file that is met first and from nothing else. Each of them is
the usual one unless the file gives it a value that it can have.

1. `load_of_isBarred`, `load_of_isFirst`, `load_of_not_isFirst`: loading is the walk, and then
   reading the bytes it has found.
2. `ofBytes_eq_ok`: what the bytes of a file give; `isChoice_ofTable`: what a table gives, key by
   key.
3. `load_returns`: loading gives settings exactly when the walk is not barred and the file can be
   used (`IsUsable`), and the usual settings where nothing else is given. `load_breaks_off` has a
   file, or a directory, for each way to fail.
4. `load_nearest`: no other file matters.
-/

namespace ProblemMatcher.Settings

variable {t : FileTree} {start directory : Path} {bytes : List UInt8} {doc table : Toml.Table}
  {s : Settings}

/-! ## What a file says -/

/-- The bytes are the encoding of a document in TOML that can be read. -/
def IsDocument (bytes : List UInt8) (doc : Toml.Table) : Prop :=
  ∃ text, bytes = Text.encodeUtf8 text ∧ Toml.parse text = .ok doc

/-- The table of settings in a document; it is empty if it is missing or the one around it is. -/
inductive IsSection (doc : Toml.Table) : Toml.Table → Prop
  | outside : doc.get? "tool".toList = none → IsSection doc []
  | missing {tool : Toml.Table} : doc.get? "tool".toList = some (.table tool) →
      tool.get? "regexpreview".toList = none → IsSection doc []
  | found {tool table : Toml.Table} : doc.get? "tool".toList = some (.table tool) →
      tool.get? "regexpreview".toList = some (.table table) → IsSection doc table

/-- The bytes are the encoding of a text that is no TOML, or of a document in which the table of
settings and the one around it are tables as far as they are there. -/
def IsUsable (bytes : List UInt8) : Prop :=
  (∃ text, bytes = Text.encodeUtf8 text ∧ Toml.parse text = .error .malformed) ∨
    ∃ doc table, IsDocument bytes doc ∧ IsSection doc table

/-- The value for `inject`: what stands under its first name, or under its second one if nothing
stands under the first. -/
def GivesInject (table : Toml.Table) (v : Toml.Value) : Prop :=
  table.get? "autoInjectGlobalMultiline".toList = some v ∨
    table.get? "autoInjectGlobalMultiline".toList = none ∧
      table.get? "auto-inject-global-multiline".toList = some v

/-- Each setting is what the table says under the setting's own names, if that is a value for it,
and the usual one if not. -/
structure IsChoice (directory : Path) (table : Toml.Table) (s : Settings) : Prop where
  inject : ∀ b, GivesInject table (.bool b) → s.inject = b
  inject_usual : (∀ b, ¬ GivesInject table (.bool b)) → s.inject = true
  maxChars : ∀ n : ℤ, 0 < n → table.get? "max-input-chars".toList = some (.int n) → s.maxChars = n
  maxChars_usual : (∀ n : ℤ, 0 < n → table.get? "max-input-chars".toList ≠ some (.int n)) →
    s.maxChars = 1000000
  sample : ∀ text, table.get? "sample".toList = some (.str text) →
    s.sample = some (directory.join (.ofString (String.ofList text)))
  sample_usual : (∀ text, table.get? "sample".toList ≠ some (.str text)) → s.sample = none

theorem injectValue?_eq_some {v : Toml.Value} :
    injectValue? table = some v ↔ GivesInject table v := by
  unfold injectValue? GivesInject
  cases table.get? "autoInjectGlobalMultiline".toList with
  | some w => simp only [reduceCtorEq, false_and, or_false]
  | none => simp only [reduceCtorEq, true_and, false_or]

theorem isChoice_ofTable (directory : Path) (table : Toml.Table) :
    IsChoice directory table (ofTable directory table) where
  inject b h := by
    unfold ofTable
    dsimp only
    rw [injectValue?_eq_some.mpr h]
  inject_usual h := by
    unfold ofTable
    dsimp only
    split
    · rename_i b hb
      exact absurd (injectValue?_eq_some.mp hb) (h b)
    · rfl
  maxChars n hpos h := by
    unfold ofTable
    dsimp only
    rw [h]
    exact if_pos hpos
  maxChars_usual h := by
    unfold ofTable
    dsimp only
    split
    · rename_i n hn
      exact if_neg fun hpos => h n hpos hn
    · rfl
  sample text h := by
    unfold ofTable
    dsimp only
    rw [h]
  sample_usual h := by
    unfold ofTable
    dsimp only
    split
    · rename_i text htext
      exact absurd htext (h text)
    · rfl

/-- In such settings the part that is looked at is a beginning of the text. -/
theorem IsChoice.maxChars_pos (h : IsChoice directory table s) : 0 < s.maxChars := by
  by_cases hgiven : ∃ n : ℤ, 0 < n ∧ table.get? "max-input-chars".toList = some (.int n)
  · obtain ⟨n, hpos, hn⟩ := hgiven
    rw [h.maxChars n hpos hn]
    exact hpos
  · rw [h.maxChars_usual fun n hpos hn => hgiven ⟨n, hpos, hn⟩]
    decide

theorem subtable_eq_ok {name : String} {u : Toml.Table} : subtable table name = .ok u ↔
    table.get? name.toList = none ∧ u = [] ∨ table.get? name.toList = some (.table u) := by
  unfold subtable
  split
  · rename_i hnone
    simp [hnone, eq_comm]
  · rename_i v hv
    simp [hv]
  · rename_i v hother hv
    simp only [hv, reduceCtorEq, false_and, Option.some.injEq, false_or, false_iff]
    exact hother u

theorem ofDocument_eq_ok : ofDocument directory doc = .ok s ↔
    ∃ table, IsSection doc table ∧ s = ofTable directory table := by
  unfold ofDocument
  simp only [bind_eq_ok, subtable_eq_ok, pure, Except.pure, Except.ok.injEq]
  constructor
  · rintro ⟨tool, ⟨htool, rfl⟩ | htool, table, htable, rfl⟩
    · rcases htable with ⟨-, rfl⟩ | htable
      · exact ⟨[], .outside htool, rfl⟩
      · cases htable
    · rcases htable with ⟨htable, rfl⟩ | htable
      · exact ⟨[], .missing htool htable, rfl⟩
      · exact ⟨table, .found htool htable, rfl⟩
  · rintro ⟨table, htable, rfl⟩
    cases htable with
    | outside htool => exact ⟨[], Or.inl ⟨htool, rfl⟩, [], Or.inl ⟨rfl, rfl⟩, rfl⟩
    | missing htool hmissing => exact ⟨_, Or.inr htool, [], Or.inl ⟨hmissing, rfl⟩, rfl⟩
    | found htool hfound => exact ⟨_, Or.inr htool, _, Or.inr hfound, rfl⟩

/-- What the bytes of a file give. -/
theorem ofBytes_eq_ok : ofBytes directory bytes = .ok s ↔
    (∃ text, bytes = Text.encodeUtf8 text ∧ Toml.parse text = .error .malformed ∧ s = {}) ∨
      ∃ doc table, IsDocument bytes doc ∧ IsSection doc table ∧ s = ofTable directory table := by
  unfold ofBytes IsDocument
  simp only [← Text.decodeUtf8_eq_ok]
  cases Text.decodeUtf8 bytes with
  | error fault => simp
  | ok text =>
    cases hparse : Toml.parse text with
    | ok doc =>
      simp [hparse, ofDocument_eq_ok]
    | error fault =>
      cases fault <;> simp [hparse, eq_comm]

theorem exists_ofBytes_iff : (∃ s, ofBytes directory bytes = .ok s) ↔ IsUsable bytes := by
  simp only [ofBytes_eq_ok, IsUsable]
  constructor
  · rintro ⟨s, ⟨text, hbytes, hparse, -⟩ | ⟨doc, table, hdoc, htable, -⟩⟩
    · exact Or.inl ⟨text, hbytes, hparse⟩
    · exact Or.inr ⟨doc, table, hdoc, htable⟩
  · rintro (⟨text, hbytes, hparse⟩ | ⟨doc, table, hdoc, htable⟩)
    · exact ⟨{}, Or.inl ⟨text, hbytes, hparse, rfl⟩⟩
    · exact ⟨_, Or.inr ⟨doc, table, hdoc, htable, rfl⟩⟩

theorem ofBytes_of_isDocument (hdoc : IsDocument bytes doc) (htable : IsSection doc table) :
    ofBytes directory bytes = .ok (ofTable directory table) :=
  ofBytes_eq_ok.mpr (Or.inr ⟨doc, table, hdoc, htable, rfl⟩)

theorem eq_usual_of_ofBytes (h : ofBytes directory bytes = .ok s)
    (hnone : ∀ doc, ¬ IsDocument bytes doc) : s = {} := by
  rcases ofBytes_eq_ok.mp h with ⟨-, -, -, rfl⟩ | ⟨doc, -, hdoc, -⟩
  · rfl
  · exact absurd hdoc (hnone doc)

/-! ## Loading -/

theorem load_of_isBarred (h : IsBarred t (walk start)) : ∃ fault, load t start = .error fault := by
  rcases nearestOf_cases t (walk start) with ⟨-, fault, hfault⟩ | ⟨hbarred, -⟩
  · refine ⟨fault, ?_⟩
    unfold load nearest
    rw [walk] at hfault
    rw [hfault]
    rfl
  · exact absurd h hbarred

theorem not_isBarred_of_load (h : load t start = .ok s) : ¬ IsBarred t (walk start) := by
  intro hbarred
  obtain ⟨fault, hfault⟩ := load_of_isBarred hbarred
  rw [hfault] at h
  cases h

theorem load_of_isOverlong (h : t.IsOverlong (start.join fileName)) :
    load t start = .error (.unreachable .nameTooLong (start.join fileName)) := by
  unfold load nearest
  rcases nearestOf_cons t start start.parents with
    ⟨⟨bytes, hbytes⟩, -⟩ | ⟨-, hfault⟩ | ⟨⟨-, hlong⟩, -⟩
  · exact absurd h hbytes.not_isOverlong
  · rw [hfault]
    rfl
  · exact absurd h hlong

theorem load_of_not_isFirst (hbarred : ¬ IsBarred t (walk start))
    (h : ∀ directory bytes, ¬ IsFirst t (walk start) directory bytes) : load t start = .ok {} := by
  rcases nearestOf_cases t (walk start) with
    ⟨hbarred', -⟩ | ⟨-, ⟨directory, bytes, hfirst, -⟩ | ⟨-, hnone⟩⟩
  · exact absurd hbarred' hbarred
  · exact absurd hfirst (h directory bytes)
  · unfold load nearest
    rw [walk] at hnone
    rw [hnone]
    rfl

/-- Only the bytes of the file that is met first are read. -/
theorem load_of_isFirst (hbarred : ¬ IsBarred t (walk start))
    (h : IsFirst t (walk start) directory bytes) : load t start = ofBytes directory bytes := by
  rcases nearestOf_cases t (walk start) with
    ⟨hbarred', -⟩ | ⟨-, ⟨other, content, hfirst, hsome⟩ | ⟨hnone, -⟩⟩
  · exact absurd hbarred' hbarred
  · obtain ⟨rfl, rfl⟩ := h.unique hfirst
    unfold load nearest
    rw [walk] at hsome
    rw [hsome]
    dsimp only [bind, Except.bind]
    rw [FileTree.readBytes_eq_ok.mpr h.holds]
  · exact absurd h (hnone directory bytes)

theorem exists_load_iff : (∃ s, load t start = .ok s) ↔ ¬ IsBarred t (walk start) ∧
    ∀ directory bytes, IsFirst t (walk start) directory bytes → IsUsable bytes := by
  constructor
  · rintro ⟨s, hs⟩
    have hbarred := not_isBarred_of_load hs
    refine ⟨hbarred, fun directory bytes hfirst => ?_⟩
    rw [load_of_isFirst hbarred hfirst] at hs
    exact exists_ofBytes_iff.mp ⟨s, hs⟩
  · rintro ⟨hbarred, husable⟩
    -- Without a file there is nothing to be used.
    by_cases hfile : ∃ directory bytes, IsFirst t (walk start) directory bytes
    · obtain ⟨directory, bytes, hfirst⟩ := hfile
      rw [load_of_isFirst hbarred hfirst]
      exact exists_ofBytes_iff.mpr (husable directory bytes hfirst)
    · refine ⟨{}, load_of_not_isFirst hbarred ?_⟩
      exact fun directory bytes hfirst => hfile ⟨directory, bytes, hfirst⟩

/-- **When settings can be had**: exactly when the walk is not barred and the file that is met
first, if there is one, can be used. They are the usual ones if there is no file, if it is no
document in TOML, and if it has no table of settings; of a table, each setting is the usual one
that has no value or one that it cannot have. -/
theorem load_returns (t : FileTree) (start : Path) :
    ((∃ s, load t start = .ok s) ↔ ¬ IsBarred t (walk start) ∧
      ∀ directory bytes, IsFirst t (walk start) directory bytes → IsUsable bytes) ∧
    ∀ s, load t start = .ok s →
      ((∀ directory bytes, ¬ IsFirst t (walk start) directory bytes) → s = {}) ∧
      ∀ directory bytes, IsFirst t (walk start) directory bytes →
        ((∀ doc, ¬ IsDocument bytes doc) → s = {}) ∧
        ∀ doc table, IsDocument bytes doc → IsSection doc table →
          (table = [] → s = {}) ∧ IsChoice directory table s := by
  refine ⟨exists_load_iff, fun s hs => ⟨fun hnone => ?_, fun directory bytes hfirst => ?_⟩⟩
  · rw [load_of_not_isFirst (not_isBarred_of_load hs) hnone] at hs
    exact (Except.ok.inj hs).symm
  · rw [load_of_isFirst (not_isBarred_of_load hs) hfirst] at hs
    refine ⟨eq_usual_of_ofBytes hs, fun doc table hdoc htable => ?_⟩
    rw [ofBytes_of_isDocument hdoc htable] at hs
    obtain rfl := Except.ok.inj hs
    refine ⟨?_, isChoice_ofTable directory table⟩
    rintro rfl
    rfl

/-- A document with a table of settings and nothing else. -/
def withTable (table : Toml.Table) : Toml.Table :=
  [("tool".toList, .table [("regexpreview".toList, .table table)])]

theorem isSection_withTable (table : Toml.Table) : IsSection (withTable table) table :=
  .found rfl rfl

/-- A file with values of the wrong type, apart from the sample. -/
def halfWrong : List Char :=
  ("[tool.regexpreview]\nautoInjectGlobalMultiline = 0\nmax-input-chars = true\n" ++
    "sample = \"x\"\n").toList

def halfWrongTable : Toml.Table := [
  ("autoInjectGlobalMultiline".toList, .int 0),
  ("max-input-chars".toList, .bool true),
  ("sample".toList, .str ['x'])]

theorem isDocument_halfWrong :
    IsDocument (Text.encodeUtf8 halfWrong) (withTable halfWrongTable) :=
  ⟨halfWrong, rfl, by cbv⟩

/-- The working directory has such a file, and a directory below has a directory of its name. -/
def halfWrongTree : FileTree where
  entries := [
    (["pyproject.toml"], .file (Text.encodeUtf8 halfWrong)),
    (["sub", "pyproject.toml"], .directory)]

theorem isFirst_halfWrong :
    IsFirst halfWrongTree (walk ⟨"", ["sub"]⟩) ⟨"", []⟩ (Text.encodeUtf8 halfWrong) :=
  .above (FileTree.isFile_eq_false.mp (by decide +kernel)).1
    (.here (FileTree.readBytes_eq_ok.mp (by decide +kernel)))

/-- Its sample is taken, and the other settings are the usual ones. -/
theorem load_returns_halfWrong : ∃ s, load halfWrongTree ⟨"", ["sub"]⟩ = .ok s ∧
    IsChoice ⟨"", []⟩ halfWrongTable s ∧ s = { sample := some ⟨"", ["x"]⟩ } := by
  obtain ⟨hiff, hall⟩ := load_returns halfWrongTree ⟨"", ["sub"]⟩
  have htable := isSection_withTable halfWrongTable
  obtain ⟨s, hs⟩ := hiff.mpr ⟨not_isBarred_of_short (by decide +kernel), fun directory bytes h => by
    obtain ⟨rfl, rfl⟩ := isFirst_halfWrong.unique h
    exact Or.inr ⟨_, _, isDocument_halfWrong, htable⟩⟩
  have hchoice := (((hall s hs).2 _ _ isFirst_halfWrong).2 _ _ isDocument_halfWrong htable).2
  refine ⟨s, hs, hchoice, ?_⟩
  have hload : load halfWrongTree ⟨"", ["sub"]⟩ = .ok { sample := some ⟨"", ["x"]⟩ } := by
    decide +kernel
  exact Except.ok.inj (hs.symm.trans hload)

/-- A working directory with a settings file that holds the bytes. -/
def holding (bytes : List UInt8) : FileTree where
  entries := [(["pyproject.toml"], .file bytes)]

/-- A name of some letters. -/
def longName (n : Nat) : String := String.ofList (List.replicate n 'a')

theorem utf8ByteSize_longName (n : Nat) : (longName n).utf8ByteSize = n := by
  rw [← String.size_toByteArray, longName, String.toByteArray_ofList, List.utf8Encode]
  simp only [List.flatMap_replicate, List.size_toByteArray, List.length_flatten,
    List.map_replicate, List.sum_replicate, String.length_utf8EncodeChar, smul_eq_mul]
  exact Nat.mul_one n

theorem isOverlong_longName (bytes : List UInt8) {n : Nat} (h : FileTree.maxNameBytes < n) :
    (holding bytes).IsOverlong ⟨"", [longName n, "pyproject.toml"]⟩ := by
  refine FileTree.isOverlong_of_long rfl ?_ ?_
  · rwa [utf8ByteSize_longName]
  · simp [FileTree.hasNul, longName]

/-- Bytes that are no text, a value in the place of either table, values nested too deep, and a
name that is too long to be looked up: settings cannot be had. -/
theorem load_breaks_off :
    load (holding [0xFF]) {} = .error (.notUtf8 ⟨.badStart, 0, 1, 0xFF⟩) ∧
      load (holding (Text.encodeUtf8 "tool = 1\n".toList)) {} = .error (.notTable "int") ∧
      load (holding (Text.encodeUtf8 "[tool]\nregexpreview = \"x\"\n".toList)) {} =
        .error (.notTable "str") ∧
      load (holding (Text.encodeUtf8 ("a = ".toList ++ List.replicate 496 '['))) {} =
        .error .tooDeep ∧
      load (holding []) ⟨"", [longName 256]⟩ =
        .error (.unreachable .nameTooLong ⟨"", [longName 256, "pyproject.toml"]⟩) :=
  ⟨by decide +kernel, by decide +kernel, by decide +kernel, by decide +kernel,
    load_of_isOverlong (isOverlong_longName [] (by decide))⟩

/-- **No other file matters**: when the file that is met first is a document whose table of
settings is a table or missing, settings can be had exactly if the walk is not barred. They are
what the table says, wherever and whenever this file is met first, and leave of a text its
beginning, as much as they allow. -/
theorem load_nearest (hfirst : IsFirst t (walk start) directory bytes)
    (hdoc : IsDocument bytes doc) (htable : IsSection doc table) :
    ((∃ s, load t start = .ok s) ↔ ¬ IsBarred t (walk start)) ∧
    ∀ s, load t start = .ok s → IsChoice directory table s ∧
      (∀ t' start', IsFirst t' (walk start') directory bytes → ¬ IsBarred t' (walk start') →
        load t' start' = .ok s) ∧
      ∀ text, s.bound text <+: text ∧
        ((s.bound text).length : ℤ) = min (text.length : ℤ) s.maxChars := by
  have hbytes : ofBytes directory bytes = .ok (ofTable directory table) :=
    ofBytes_of_isDocument hdoc htable
  constructor
  · refine ⟨fun ⟨s, hs⟩ => not_isBarred_of_load hs, fun hbarred => ?_⟩
    rw [load_of_isFirst hbarred hfirst]
    exact ⟨_, hbytes⟩
  · intro s hs
    rw [load_of_isFirst (not_isBarred_of_load hs) hfirst, hbytes] at hs
    obtain rfl := Except.ok.inj hs
    have hchoice := isChoice_ofTable directory table
    refine ⟨hchoice, fun t' start' hfirst' hbarred' => ?_, fun text => ?_⟩
    · rw [load_of_isFirst hbarred' hfirst', hbytes]
    · obtain ⟨n, hn⟩ := Int.eq_ofNat_of_zero_le hchoice.maxChars_pos.le
      rw [bound_eq_take hn, List.length_take, hn]
      exact ⟨List.take_prefix n text, by omega⟩

/-- Two settings. -/
def nearby : List Char :=
  "[tool.regexpreview]\nmax-input-chars = 3\nsample = \"x\"\n".toList

def nearbyTable : Toml.Table := [
  ("max-input-chars".toList, .int 3),
  ("sample".toList, .str ['x'])]

theorem isDocument_nearby : IsDocument (Text.encodeUtf8 nearby) (withTable nearbyTable) :=
  ⟨nearby, rfl, by cbv⟩

/-- The file between a directory of its name and a file that is no TOML. -/
def surrounded : FileTree where
  entries := [
    (["sub", "deep", "pyproject.toml"], .directory),
    (["sub", "pyproject.toml"], .file (Text.encodeUtf8 nearby)),
    (["pyproject.toml"], .file [0x5D])]

/-- The file and no other. -/
def alone : FileTree where
  entries := [(["sub", "pyproject.toml"], .file (Text.encodeUtf8 nearby))]

theorem isFirst_nearby
    (hlacks : t.isFile ⟨"", ["sub", "deep", "pyproject.toml"]⟩ = .ok false)
    (hholds : t.readBytes ⟨"", ["sub", "pyproject.toml"]⟩ = .ok (Text.encodeUtf8 nearby)) :
    IsFirst t (walk ⟨"", ["sub", "deep"]⟩) ⟨"", ["sub"]⟩ (Text.encodeUtf8 nearby) :=
  .above (FileTree.isFile_eq_false.mp hlacks).1 (.here (FileTree.readBytes_eq_ok.mp hholds))

/-- The same settings are had from both trees. -/
theorem load_nearest_surrounded : ∃ s, load surrounded ⟨"", ["sub", "deep"]⟩ = .ok s ∧
    load alone ⟨"", ["sub", "deep"]⟩ = .ok s ∧ IsChoice ⟨"", ["sub"]⟩ nearbyTable s := by
  have hfirst := isFirst_nearby (t := surrounded) (by decide +kernel) (by decide +kernel)
  have hfirst' := isFirst_nearby (t := alone) (by decide +kernel) (by decide +kernel)
  have hshort : ∀ t, ¬ IsBarred t (walk ⟨"", ["sub", "deep"]⟩) := fun t =>
    not_isBarred_of_short (by decide +kernel)
  obtain ⟨hiff, hall⟩ := load_nearest hfirst isDocument_nearby (isSection_withTable _)
  obtain ⟨s, hs⟩ := hiff.mpr (hshort surrounded)
  obtain ⟨hchoice, hsame, -⟩ := hall s hs
  exact ⟨s, hs, hsame alone _ hfirst' (hshort alone), hchoice⟩

/-- From a directory with a name that is too long the file is not found, although it is the first
one above and nothing is wrong with it. -/
theorem not_load_longName :
    IsFirst (holding (Text.encodeUtf8 nearby)) (walk ⟨"", [longName 256]⟩) ⟨"", []⟩
        (Text.encodeUtf8 nearby) ∧
      IsDocument (Text.encodeUtf8 nearby) (withTable nearbyTable) ∧
      load (holding (Text.encodeUtf8 nearby)) ⟨"", [longName 256]⟩ =
        .error (.unreachable .nameTooLong ⟨"", [longName 256, "pyproject.toml"]⟩) := by
  refine ⟨.above ?_ (.here (FileTree.readBytes_eq_ok.mp (by decide +kernel))), isDocument_nearby,
    load_of_isOverlong (isOverlong_longName _ (by decide))⟩
  exact fun bytes hbytes => hbytes.not_isOverlong (isOverlong_longName _ (by decide))

end ProblemMatcher.Settings
