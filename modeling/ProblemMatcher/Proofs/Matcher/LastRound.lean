import ProblemMatcher.Proofs.Matcher.GroupAccount
import ProblemMatcher.Proofs.Regex.Rounds

/-!
# The last round of a pattern that repeats

The last pattern of a matcher may match one line or more, and its groups then tell of one line among
several. The group that repeats the pattern has the last of them. A group of the pattern that every
way through the pattern passes has been captured in that line; any other group may tell of a line
before it.

1. `Match.span?`, `Matcher.wrapper`: the groups of a match, and the group that repeats a pattern.
2. `trails_root`: the joined pattern ends with the repetition.
3. `captured_in_last_round`: where the groups of the last pattern have been captured.
-/

namespace ProblemMatcher

open ProblemMatcher.Regex

/-- The stretch of the text that a group has captured, the whole match being group 0. -/
def Regex.Match.span? (found : Match) : Nat → Option (Nat × Nat)
  | 0 => some (found.start, found.stop)
  | index + 1 => found.groups[index]?.join

/-- The groups of a match are those of the marks that it ends with. -/
theorem Regex.exists_marks_of_search [Engine] {r : Regex} {text : Array Char} {pos : Nat}
    {found : Match} (h : r.search text pos = .ok (some found)) :
    ∃ marks, r.root.matchAt text found.start = some (found.stop, marks) ∧
      ∀ group, 1 ≤ group → group ≤ r.groupCount → found.span? group = marks.span? group := by
  obtain ⟨marks, hmatch, -, hgroups⟩ := exists_of_search h
  refine ⟨marks, hmatch, fun group hpos hle => ?_⟩
  obtain ⟨index, rfl⟩ : ∃ index, group = index + 1 := ⟨group - 1, by omega⟩
  show found.groups[index]?.join = _
  rw [hgroups, List.getElem?_map, List.getElem?_range (by omega)]
  rfl

namespace Matcher

/-- The last pattern repeats, and compiles by itself to `own`. -/
structure RepeatsLast (m : Matcher) (last : Fragment) (own : Regex) : Prop where
  isLast : m.fragments.getLast? = some last
  loop : last.loop = true
  own : Regex.compile? (stripAnchors last.source) = .ok (some own)

/-- The group that is put around the last pattern if it repeats. -/
def wrapper (m : Matcher) : Nat :=
  m.groupsBeforeLast + 1

variable {m : Matcher} {c : CompiledMatcher} {regex own : Regex} {last : Fragment}

namespace RepeatsLast

theorem exists_initial (h : m.RepeatsLast last own) : ∃ initial, m.fragments = initial ++ [last] :=
  List.getLast?_eq_some_iff.mp h.isLast

theorem groups? (h : m.RepeatsLast last own) : last.groups? = some own.groupCount :=
  Fragment.groups?_of_compile? h.own

theorem isUsable (h : m.RepeatsLast last own) : last.isUsable = true := by
  rw [Fragment.isUsable, h.groups?]
  rfl

theorem groups (h : m.RepeatsLast last own) : last.groups = own.groupCount := by
  rw [Fragment.groups, h.groups?]
  rfl

theorem lastLoops (h : m.RepeatsLast last own) : m.lastLoops = true := by
  rw [Matcher.lastLoops, h.isLast, Option.any_some, h.isUsable, h.loop]
  rfl

/-- A field that the last pattern declares has the group it says, behind the wrapper. -/
theorem get?_offsets (h : m.RepeatsLast last own) (hcompile : m.compile = .ok c) {field : Field}
    {k : Int} (hk : 0 ≤ k) (hfield : last.fields.get? field = some k) :
    c.offsets.get? field = some (k + m.wrapper) := by
  obtain ⟨initial, hm⟩ := h.exists_initial
  have hdeclares : LastDeclares m.fragments field initial.length k := by
    refine ⟨⟨last, by simp [hm], h.isUsable, hfield⟩, fun later f hlater hf => ?_⟩
    have hlt := (List.getElem?_eq_some_iff.mp hf).1
    rw [hm, List.length_append, List.length_singleton] at hlt
    omega
  have hlength : initial.length + 1 = m.fragments.length := by simp [hm]
  rw [(resolvesFields_of_compile hcompile).looped field _ k hdeclares hk h.lastLoops hlength,
    wrapper]
  push_cast
  congr 1
  omega

end RepeatsLast

/-- The joined pattern ends with the repetition of the last pattern, and the groups outside it come
before it. -/
theorem trails_root {r r' : Reader} (hnumbered : r.IsNumbered) {loop : Node}
    (hloop : loop.items = [loop]) {last : LastItem} (htop : r'.top = r.top.push loop last) :
    Trails (r.groupCount + 1) loop r'.result.root := by
  have hbelow := hnumbered.top
  refine Trails.choice fun branch hbranch => ?_
  rw [htop, Frame.branch_push, hloop] at hbranch
  rcases List.mem_cons.mp (List.mem_reverse.mp hbranch) with rfl | hbranch
  · -- the branch being read ends with the repetition
    exact Or.inr ⟨r.top.branch, rfl, hbelow.branch⟩
  · exact Or.inl (hbelow.branches branch hbranch)

/-- The tree of a matcher whose last pattern repeats: it ends with the repetition of the wrapper, in
which stands a tree with the groups of the pattern, numbered on from the wrapper. -/
theorem exists_trails (h : m.CompilesTo c regex) (hlast : m.RepeatsLast last own)
    (hquiet : regex.flags.verbose = false ∨ m.fragments.length ≤ 1) :
    ∃ body, Trails m.wrapper (.loop 1 none .greedy (.group m.wrapper body)) regex.root ∧
      own.root.Renumbers m.wrapper body ∧ (∀ g ∈ body.groups, m.wrapper < g) ∧
      regex.groupCount = m.wrapper + own.groupCount := by
  obtain ⟨initial, hm⟩ := hlast.exists_initial
  obtain ⟨parsed, hparsed, hown⟩ := parse_of_compile? hlast.own
  have hpiece : parse .plain (last.piece false).toList = .ok parsed := by
    rw [Fragment.piece, if_pos hlast.isUsable]
    exact hparsed
  obtain ⟨r, r', body, hnumbered, hbefore, hbody, hcount, htop, hregex⟩ :=
    exists_looped h hm hquiet hlast.isUsable hlast.loop hpiece
  have hwrapper : r.groupCount + 1 = m.wrapper := by
    rw [wrapper, groupsBeforeLast, hbefore, hm, List.length_append, List.length_singleton,
      Nat.add_sub_cancel, groupsBefore_append (Nat.le_refl _), groupsBefore_length]
  have htrails := trails_root hnumbered rfl htop
  rw [hwrapper] at htrails hbody
  refine ⟨body, ?_, ?_, fun g hg => ?_, ?_⟩
  · rw [hregex]
    exact htrails
  · rw [hown]
    exact hbody
  · -- the groups of the pattern are numbered on from the wrapper
    rw [hbody.groups] at hg
    obtain ⟨k, hk, rfl⟩ := List.mem_map.mp hg
    have hpos := (staysBelow_root hparsed k hk).1
    omega
  · rw [hregex, ← hlast.groups, ← hwrapper]
    show r'.groupCount = _
    omega

/-- **Where the groups of a pattern that repeats have been captured.** If nothing in the last
pattern looks around, what one of its groups has captured lies in the last round, which ends with
the match, or wholly before it; and a group that every way through the pattern passes has been
captured in the last round. A field that the pattern declares is read from the group it says. -/
theorem captured_in_last_round [Engine] (hcompile : m.compile = .ok c)
    (hregex : c.regex = some regex) (hlast : m.RepeatsLast last own)
    (hlook : own.root.looksAround = false)
    (hquiet : regex.flags.verbose = false ∨ m.fragments.length ≤ 1) {text : Array Char} {pos : Nat}
    {found : Match} (hsearch : regex.search text pos = .ok (some found)) :
    (∀ k, 1 ≤ k → k ≤ own.groupCount → ∀ start stop,
      found.span? (m.wrapper + k) = some (start, stop) →
        ∃ first, found.span? m.wrapper = some (first, found.stop) ∧
          (first ≤ start ∧ stop ≤ found.stop ∨ stop ≤ first) ∧
          (own.root.passes k = true → first ≤ start ∧ stop ≤ found.stop)) ∧
      ∀ field k, last.fields.get? field = some k → 0 ≤ k →
        c.offsets.get? field = some (k + m.wrapper) := by
  refine ⟨?_, fun field k hfield hk => hlast.get?_offsets hcompile hk hfield⟩
  obtain ⟨body, htrails, hbody, hgroups, hcount⟩ :=
    exists_trails (compilesTo_of_compile hcompile hregex) hlast hquiet
  obtain ⟨marks, hmatch, hspans⟩ := exists_marks_of_search hsearch
  have hwrapper : 1 ≤ m.wrapper := Nat.le_add_left 1 _
  have hblind : body.looksAround = false := hbody.looksAround.trans hlook
  intro k hpos hle start stop hspan
  rw [hspans _ (by omega) (by omega)] at hspan
  rcases htrails.isLastRound_of_matchAt hwrapper hblind hgroups hmatch with
    hnone | ⟨first, hround⟩
  · -- The match has taken an alternative without the repetition.
    rw [hnone _ (Nat.le_add_right _ _)] at hspan
    cases hspan
  · have hbehind : m.wrapper < m.wrapper + k := by omega
    refine ⟨first, ?_, hround.captured _ hbehind start stop hspan, fun hpasses => ?_⟩
    · rw [hspans _ hwrapper (by omega)]
      exact hround.round
    · have hpassed : body.passes (m.wrapper + k) = true := by
        rw [Nat.add_comm, hbody.passes, hpasses]
      obtain ⟨start', stop', hspan', hplaces⟩ := hround.passed _ hbehind hpassed
      rw [hspan] at hspan'
      cases hspan'
      exact hplaces

/-- Lines of output that may begin with a line number and a column. -/
def optionalPlace : Fragment where
  source := "(?:(\\d+),(\\d+) )?(\\w+)"
  fields := .ofList [(.line, 1), (.column, 2), (.message, 3)]
  loop := true

/-- A file, and then such lines. -/
def placesOfFile : Matcher where
  fragments := [{ source := "(f)", fields := .ofList [(.file, 1)] }, optionalPlace]

/-- The first match of the joined pattern in a text, and whether the pattern skips blanks. -/
def firstMatch? [Engine] (m : Matcher) (text : String) : Option (Bool × Match) :=
  match m.compile with
  | .ok { regex := some regex, .. } =>
    match regex.search text.toList.toArray with
    | .ok (some found) => some (regex.flags.verbose, found)
    | _ => none
  | _ => none

theorem exists_of_firstMatch? [Engine] {text : String} {verbose : Bool} {found : Match}
    (h : m.firstMatch? text = some (verbose, found)) :
    ∃ c regex, m.compile = .ok c ∧ c.regex = some regex ∧ regex.flags.verbose = verbose ∧
      regex.search text.toList.toArray = .ok (some found) := by
  unfold firstMatch? at h
  split at h
  · rename_i source groupCount offsets regex hcompile
    split at h
    · rename_i found' hsearch
      cases h
      exact ⟨_, regex, hcompile, rfl, rfl, hsearch⟩
    · cases h
  · cases h

/-- Two such lines, of which only the first one has a number and a column: the match, the file, the
last line, and the number, the column and the message. -/
def twoPlaces : Match where
  start := 0
  stop := 9
  groups := [some (0, 1), some (8, 9), some (2, 3), some (4, 5), some (8, 9)]

theorem firstMatch?_placesOfFile :
    placesOfFile.firstMatch? "f\n1,2 a\nb" = some (false, twoPlaces) := by
  decide +kernel

theorem repeatsLast_placesOfFile :
    ∃ own, placesOfFile.RepeatsLast optionalPlace own ∧ own.root.looksAround = false ∧
      own.groupCount = 3 ∧ own.root.passes 3 = true :=
  ⟨_, ⟨rfl, rfl, rfl⟩, rfl, rfl, rfl⟩

theorem captured_in_last_round_placesOfFile :
    ∃ c regex own first, placesOfFile.compile = .ok c ∧ c.regex = some regex ∧
      placesOfFile.RepeatsLast optionalPlace own ∧ own.root.looksAround = false ∧
      regex.flags.verbose = false ∧
      regex.search "f\n1,2 a\nb".toList.toArray = .ok (some twoPlaces) ∧
      twoPlaces.span? placesOfFile.wrapper = some (first, 9) ∧
      twoPlaces.span? (placesOfFile.wrapper + 3) = some (8, 9) ∧ first ≤ 8 ∧
      c.offsets.get? .message = some (3 + placesOfFile.wrapper) := by
  obtain ⟨c, regex, hcompile, hregex, hquiet, hsearch⟩ :=
    exists_of_firstMatch? firstMatch?_placesOfFile
  obtain ⟨own, hlast, hlook, hcount, hpasses⟩ := repeatsLast_placesOfFile
  have hspan : twoPlaces.span? (placesOfFile.wrapper + 3) = some (8, 9) := by decide +kernel
  obtain ⟨hplaces, hfields⟩ :=
    captured_in_last_round hcompile hregex hlast hlook (Or.inl hquiet) hsearch
  obtain ⟨first, hwrapper, -, hinside⟩ := hplaces 3 (by decide) (by omega) 8 9 hspan
  exact ⟨c, regex, own, first, hcompile, hregex, hlast, hlook, hquiet, hsearch, hwrapper, hspan,
    (hinside hpasses).1, hfields .message 3 rfl (by decide)⟩

/-- A group that the last round leaves alone keeps what an earlier one has captured. -/
theorem not_captured_in_last_round_placesOfFile :
    ¬∀ (m : Matcher) (c : CompiledMatcher) (regex own : Regex) (last : Fragment)
        (text : Array Char) (pos : Nat) (found : Match), m.compile = .ok c →
        c.regex = some regex → m.RepeatsLast last own → own.root.looksAround = false →
        regex.search text pos = .ok (some found) → ∀ k, 1 ≤ k → k ≤ own.groupCount →
          ∀ start stop, found.span? (m.wrapper + k) = some (start, stop) →
            ∃ first stop', found.span? m.wrapper = some (first, stop') ∧
              first ≤ start ∧ stop ≤ stop' := by
  intro h
  obtain ⟨c, regex, hcompile, hregex, -, hsearch⟩ := exists_of_firstMatch? firstMatch?_placesOfFile
  obtain ⟨own, hlast, hlook, hcount, -⟩ := repeatsLast_placesOfFile
  have hspan : twoPlaces.span? (placesOfFile.wrapper + 1) = some (2, 3) := by decide +kernel
  have hwrapper : twoPlaces.span? placesOfFile.wrapper = some (8, 9) := by decide +kernel
  obtain ⟨first, stop', hwrapper', hfirst, -⟩ :=
    h _ c regex own _ _ _ _ hcompile hregex hlast hlook hsearch 1 (by decide) (by omega) 2 3 hspan
  rw [hwrapper] at hwrapper'
  cases hwrapper'
  omega

end Matcher

end ProblemMatcher
