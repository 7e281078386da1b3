import ProblemMatcher.Proofs.Matcher.Composite
import ProblemMatcher.Proofs.Regex.Mirror
import ProblemMatcher.Proofs.Regex.RunEnds
import ProblemMatcher.Proofs.Regex.Segment

/-!
# Joined patterns and consecutive lines

A matcher is meant to match one line for each of its patterns. Its joined pattern does, as long as
nothing in a pattern reaches across the seams: no alternatives outside all groups, no modes turned
on, and nothing that looks around. Then every match of the joined pattern is made of lines, each of
which the pattern by itself matches from end to end.

1. `matchesWhole_of_mem`: a pattern by itself, on the part of the text that it takes up.
2. `read_lines`: the joined pattern is a sequence of the patterns, with line feeds between them.
3. `matchesLines_of_isSelfContained`: matches of the joined pattern are made of lines.
-/

namespace ProblemMatcher

open ProblemMatcher.Regex

namespace Regex

/-- The regular expression matches at a place of the text and ends at another. -/
def MatchesSpan [Engine] (r : Regex) (text : Array Char) (start stop : Nat) : Prop :=
  ∃ marks, r.root.matchAt text start = some (stop, marks)

/-- Succeeds at the end of the text only. -/
def doneAtEnd (text : Array Char) : Continuation := fun s =>
  if s.pos = text.size then done s else s.fail

/-- The regular expression matches the text from its start to its end. -/
def matchesWhole [Engine] (r : Regex) (text : Array Char) : Bool :=
  r.least ≤ text.size &&
    (r.root.run text false none (doneAtEnd text) (.start 0)).stop?.isSome

theorem mem_ends_of_matchesSpan [Engine] {r : Regex} (hlocal : r.root.isLocal = true)
    {text : Array Char} {start stop : Nat} (h : r.MatchesSpan text start stop) :
    stop ∈ r.root.ends text start := by
  obtain ⟨marks, hmatch⟩ := h
  have hrun := Node.run_answers hlocal answers_done (follows_none text some) false (.start start)
  change _ = (r.root.ends text start).findSome? some at hrun
  unfold Node.matchAt at hmatch
  split at hmatch
  · rename_i s hs
    cases hmatch
    rw [hs] at hrun
    obtain ⟨end_, hmem, hend⟩ := List.exists_of_findSome?_eq_some hrun.symm
    cases hend
    exact hmem
  · cases hmatch

theorem matchesWhole_of_mem [Engine] {r : Regex} (hlocal : r.root.isLocal = true)
    {groups : Nat → Width} (hleast : r.least = (r.root.width groups).least) {text : Array Char}
    (h : text.size ∈ r.root.ends text 0) : r.matchesWhole text = true := by
  have hanswers : Answers (doneAtEnd text) fun pos => if pos = text.size then some pos else none := by
    intro s
    show (doneAtEnd text s).stop? = if s.pos = text.size then some s.pos else none
    unfold doneAtEnd
    split_ifs <;> rfl
  have hrun := Node.run_answers hlocal hanswers (follows_none text _) false (.start 0)
  have hwidth := (Node.ends_advances text groups r.root 0 _ h).1
  rw [matchesWhole, hrun, Bool.and_eq_true, decide_eq_true_eq, hleast]
  refine ⟨by omega, ?_⟩
  rw [List.findSome?_isSome_iff]
  exact ⟨text.size, h, by rw [if_pos rfl]; rfl⟩

/-- No alternatives stand outside all groups of the pattern. -/
def hasOneBranch (source : String) : Bool :=
  match Reader.readAll source.toList with
  | .ok r => r.top.branches.isEmpty
  | .error _ => false

theorem slice_append {text : Array Char} {start middle stop : Nat} (h : start ≤ middle)
    (h' : middle ≤ stop) :
    slice text start middle ++ slice text middle stop = slice text start stop := by
  rw [slice, slice, slice, ← String.ofList_append, ← Array.toList_append,
    Array.extract_append_extract, Nat.min_eq_left h, Nat.max_eq_right h']

theorem slice_singleton {text : Array Char} {pos : Nat} {c : Char} (h : text[pos]? = some c) :
    slice text pos (pos + 1) = String.ofList [c] := by
  obtain ⟨hpos, hc⟩ := Array.getElem?_eq_some_iff.mp h
  have hsingle : text.extract pos (pos + 1) = #[c] := by
    refine Array.ext ?_ fun i hi hi' => ?_
    · rw [Array.size_extract]
      show min (pos + 1) text.size - pos = 1
      omega
    · obtain rfl : i = 0 := Nat.lt_one_iff.mp hi'
      rw [Array.getElem_extract]
      exact hc
  rw [slice, hsingle]

/-! ## Patterns that are closed -/

end Regex

namespace Fragment

/-- The pattern by itself matches a text from end to end. -/
def matchesWhole [Engine] (f : Fragment) (line : String) : Bool :=
  match Regex.compile? (Matcher.stripAnchors f.source) with
  | .ok (some regex) => regex.matchesWhole line.toList.toArray
  | _ => false

/-- The pattern looks at nothing but what it takes up, and nothing in it is open to what stands
before and after it. -/
def isSelfContained (f : Fragment) : Bool :=
  match Regex.compile? (Matcher.stripAnchors f.source) with
  | .ok (some regex) => regex.root.isLocal && hasOneBranch (Matcher.stripAnchors f.source)
  | _ => false

/-- The trees that the pattern by itself is a sequence of, up to the numbers of groups. -/
def nodes (f : Fragment) : List Node :=
  match Reader.readAll (Matcher.stripAnchors f.source).toList with
  | .ok r => r.top.branch.map Node.form
  | .error _ => []

variable {f : Fragment} {alone : Reader}

/-- A self-contained pattern, and where the reader of it ends. -/
structure ReadsBy (f : Fragment) (alone : Reader) : Prop where
  isEnd : alone.IsEnd (f.piece false).toList
  parses : parse .plain (f.piece false).toList = .ok alone.result
  compiles : Regex.compile? (Matcher.stripAnchors f.source) =
    .ok (some (ofParsed (Matcher.stripAnchors f.source) alone.result))
  branches : alone.top.branches = []
  isLocal : alone.result.root.isLocal = true
  nodes : f.nodes = alone.top.branch.map Node.form

theorem exists_readsBy (h : f.isSelfContained = true) : ∃ alone, f.ReadsBy alone := by
  unfold isSelfContained at h
  split at h
  · rename_i regex hregex
    rw [Bool.and_eq_true] at h
    obtain ⟨parsed, hparsed, rfl⟩ := parse_of_compile? hregex
    have hpiece : f.piece false = Matcher.stripAnchors f.source := by
      unfold piece isUsable
      rw [groups?_of_compile? hregex]
      rfl
    rw [← hpiece] at hparsed
    obtain ⟨a, alone, -, -, hend, rfl⟩ := reads_of_parse hparsed
    have hall := hend.readAll
    rw [hpiece] at hall
    refine ⟨alone, hend, hparsed, hregex, ?_, h.1, ?_⟩
    · have hone := h.2
      rw [hasOneBranch, hall] at hone
      exact List.isEmpty_iff.mp hone
    · rw [nodes, hall]
  · cases h

theorem ReadsBy.unique (h : f.ReadsBy alone) {alone' : Reader}
    (hend : alone'.IsEnd (f.piece false).toList) : alone' = alone := by
  have hall := h.isEnd.readAll
  rw [hend.readAll] at hall
  exact Except.ok.inj hall

theorem ReadsBy.root (h : f.ReadsBy alone) :
    alone.result.root = .sequence alone.top.branch := by
  show Node.choice (alone.top.branch :: alone.top.branches).reverse = _
  rw [h.branches]
  rfl

theorem ReadsBy.kind (h : f.ReadsBy alone) : alone.top.kind = .whole := by
  rw [← Reader.root_of_outer_nil h.isEnd.outer, h.isEnd.isGrounded.kind]

theorem ReadsBy.isBlind (h : f.ReadsBy alone) : alone.top.IsBlind := by
  have hroot := Node.isBlind_of_isLocal h.isLocal
  rw [h.root, Node.isConjunctive_isBlind.sequence] at hroot
  refine ⟨by rw [h.kind]; rfl, ?_, Frame.isBlind_branch hroot, fun _ => h.branches⟩
  rw [h.branches]
  nofun

theorem ReadsBy.isLocal_nodes (h : f.ReadsBy alone) : f.nodes.all Node.isLocal = true := by
  rw [h.nodes, ← Node.isConjunctive_isLocal.sequence, ← Node.form_sequence, Node.isLocal_form,
    ← h.root]
  exact h.isLocal

theorem ReadsBy.ends (h : f.ReadsBy alone) (text : Array Char) :
    alone.result.root.ends text = (Node.sequence f.nodes).ends text := by
  rw [h.nodes, ← Node.form_sequence, Node.ends_form, h.root]

/-- What the trees of the pattern take up in a text, the pattern by itself matches. -/
theorem matchesWhole_of_mem [Engine] (hself : f.isSelfContained = true) {text : Array Char}
    {start stop : Nat} (h : stop ∈ (Node.sequence f.nodes).ends text start)
    (hstart : start ≤ text.size) : f.matchesWhole (slice text start stop) = true := by
  obtain ⟨alone, halone⟩ := exists_readsBy hself
  obtain ⟨hahead, hwithin⟩ := Node.ends_ahead _ _ _ _ h
  rw [Nat.max_eq_right hstart] at hwithin
  rw [← halone.ends] at h
  -- the line is a segment of the text, and the tree sees nothing beyond it
  have htransfer : Node.FoundInside start stop (alone.result.root.ends text (start + 0))
      (alone.result.root.ends (text.extract start stop) 0) :=
    Node.ends_transfer hwithin halone.isLocal Node.transfer_foundInside
      (Or.inr fun _ _ => Node.foundInside_take_one) hahead
  obtain ⟨pos, hpos, hstop⟩ := htransfer stop h (Nat.le_refl stop)
  have hline : (slice text start stop).toList.toArray = text.extract start stop := by
    rw [slice, String.toList_ofList, Array.toArray_toList]
  have hsize : (text.extract start stop).size = pos := by
    rw [Array.size_extract]
    omega
  rw [← hsize] at hpos
  unfold matchesWhole
  rw [halone.compiles, hline]
  exact Regex.matchesWhole_of_mem halone.isLocal rfl hpos

end Fragment

namespace Matcher

/-- Whatever the joined pattern matches is made of lines, one for each pattern, which the patterns
by themselves match. -/
def MatchesLines [Engine] (m : Matcher) : Prop :=
  ∀ c regex text start stop, m.compile = .ok c → c.regex = some regex →
    regex.MatchesSpan text start stop →
      ∃ lines, slice text start stop = "\n".intercalate lines ∧
        List.Forall₂ (fun f line => f.matchesWhole line) m.fragments lines

/-! ## Reading the joined pattern -/

/-- The tree of the escaped line feed between two patterns. -/
def seamNode : Node :=
  .one (.ofCode 10 .exact)

/-- The trees of patterns that each end in a line feed. -/
def lineNodes (fragments : List Fragment) : List Node :=
  fragments.flatMap fun f => f.nodes ++ [seamNode]

/-- The reader is done with some patterns of the joined one. Up to the numbers of groups, it has
read the given trees. -/
structure AtLine (nodes : List Node) (r : Reader) : Prop where
  outer : r.outer = []
  kind : r.top.kind = .whole
  flags : Flags.plain.Alike r.top.flags
  branches : r.top.branches = []
  nodes : r.top.branch.map Node.form = nodes

theorem atLine_start : AtLine [] (Reader.start { multiline := true }) :=
  ⟨rfl, rfl, ⟨rfl, rfl, rfl, rfl⟩, rfl, rfl⟩

variable {f : Fragment} {alone r r' settled : Reader} {nodes : List Node} {ahead : Nat}

theorem AtLine.mirrors (h : AtLine nodes r) :
    Mirrors (r.top.items.map Node.form) (Reader.start .plain).top r.top where
  kind := congrArg FrameKind.form h.kind
  flags := h.flags
  content _ := ⟨congrArg _ h.branches, rfl⟩

/-- One more pattern has been read. -/
theorem AtLine.alongside (h : AtLine nodes r) (halone : f.ReadsBy alone)
    (halong : Alongside (Mirrors (r.top.items.map Node.form)) ahead r.outer alone settled)
    (hflags : Flags.plain.Alike settled.inline) : AtLine (nodes ++ f.nodes) settled := by
  obtain ⟨hbranches, hitems⟩ := halong.top.content halone.isBlind
  rw [Frame.before, if_pos halone.kind] at hitems
  rw [halone.branches, List.map_nil, List.map_eq_nil_iff] at hbranches
  obtain ⟨before, hinline⟩ := halong.inline
  rw [hinline] at hflags
  -- the pattern turns nothing on that trees depend on
  have halike : Flags.plain.Alike alone.top.flags := by
    rw [halone.isEnd.flags]
    exact hflags.of_union.2
  have hkind := halong.top.kind
  rw [halone.kind] at hkind
  refine ⟨(halong.outer_eq halone.isEnd.outer).trans h.outer, ?_, halike.trans halong.top.flags,
    hbranches, ?_⟩
  · cases hsettled : settled.top.kind with
    | whole => rfl
    | _ => rw [hsettled] at hkind; cases hkind
  · rw [Frame.branch_form, hitems, List.reverse_append, List.flatMap_append, ← Frame.branch_form,
      ← Frame.branch_form, h.nodes, halone.nodes]

theorem AtLine.lineFeed (h : AtLine nodes settled) :
    AtLine (nodes ++ [seamNode]) (settled.literal 10) := by
  refine ⟨h.outer, h.kind, h.flags, h.branches, ?_⟩
  have hrule : settled.top.rule = .exact := if_neg (by rw [h.flags.ignoreCase]; decide)
  rw [Reader.literal, hrule]
  show (settled.top.push seamNode .item).branch.map Node.form = _
  rw [Frame.branch_push, List.map_append, h.nodes]
  rfl

theorem AtLine.root (h : AtLine nodes settled) :
    settled.result.root.form = .sequence nodes := by
  show (Node.choice (settled.top.branch :: settled.top.branches).reverse).form = _
  rw [h.branches, ← h.nodes]
  exact Node.form_sequence _

theorem isLocal_lineNodes {fragments : List Fragment}
    (hself : ∀ f ∈ fragments, f.isSelfContained = true) :
    (lineNodes fragments).all Node.isLocal = true := by
  rw [lineNodes, List.all_flatMap, List.all_eq_true]
  intro f hf
  obtain ⟨alone, halone⟩ := Fragment.exists_readsBy (hself f hf)
  rw [List.all_append, halone.isLocal_nodes]
  rfl

/-- **The joined pattern is read line by line.** -/
theorem read_lines {fragments : List Fragment} (hself : ∀ f ∈ fragments, f.isSelfContained = true)
    (hmode : r.mode = .ready) (h : AtLine nodes r) (hr : r.read (seamTokens fragments) = .ok r')
    (hflags : Flags.plain.Alike r'.inline) :
    r'.mode = .ready ∧ AtLine (nodes ++ lineNodes fragments) r' := by
  induction fragments generalizing r nodes with
  | nil =>
    cases hr
    refine ⟨hmode, ?_⟩
    rwa [lineNodes, List.flatMap_nil, List.append_nil]
  | cons f rest ih =>
    obtain ⟨r₁, hf, hrest⟩ := Reader.read_append.mp (show r.read (_ ++ seamTokens rest) = _ from hr)
    obtain ⟨on, hon⟩ := Reader.inline_of_read hrest
    have hflags₁ : Flags.plain.Alike r₁.inline := by
      rw [hon] at hflags
      exact hflags.of_union.1
    obtain ⟨alone, halone⟩ := Fragment.exists_readsBy (hself f List.mem_cons_self)
    obtain ⟨alone', settled, halong, hend, -, rfl⟩ :=
      Alongside.read_seam (mirrors_correspondence _) halone.parses hmode h.mirrors hf hflags₁.verbose
    obtain rfl := halone.unique hend
    have hline := (h.alongside halone halong hflags₁).lineFeed
    obtain ⟨hmode', hlines⟩ :=
      ih (fun g hg => hself g (List.mem_cons_of_mem _ hg)) rfl hline hrest
    refine ⟨hmode', ?_⟩
    rw [lineNodes, List.flatMap_cons, ← lineNodes, ← List.append_assoc, ← List.append_assoc]
    exact hlines

/-! ## Matches of the joined pattern -/

theorem mem_ends_seamNode {text : Array Char} {pos stop : Nat}
    (h : stop ∈ seamNode.ends text pos) : stop = pos + 1 ∧ text[pos]? = some '\n' := by
  change stop ∈ Node.oneEnd text (.ofCode 10 .exact) pos at h
  unfold Node.oneEnd at h
  split_ifs at h with hc
  · refine ⟨List.mem_singleton.mp h, ?_⟩
    cases hchar : text[pos]? with
    | none =>
      rw [hchar] at hc
      cases hc
    | some c =>
      rw [hchar, Option.any_some, Node.holds_of_literal? rfl, beq_iff_eq] at hc
      exact congrArg some (Char.toNat_inj.mp hc)
  · cases h

theorem exists_lines [Engine] {initial : List Fragment} {last : Fragment} {text : Array Char}
    {start stop : Nat} (hself : ∀ f ∈ initial ++ [last], f.isSelfContained = true)
    (hstart : initial = [] → start ≤ text.size)
    (h : stop ∈ (Node.sequence (lineNodes initial ++ last.nodes)).ends text start) :
    ∃ lines, lines ≠ [] ∧ slice text start stop = "\n".intercalate lines ∧
      List.Forall₂ (fun f line => f.matchesWhole line) (initial ++ [last]) lines := by
  induction initial generalizing start with
  | nil =>
    rw [lineNodes, List.flatMap_nil, List.nil_append] at h
    have hlast := Fragment.matchesWhole_of_mem (hself last List.mem_cons_self) h (hstart rfl)
    refine ⟨[slice text start stop], List.cons_ne_nil _ _, ?_, .cons hlast .nil⟩
    rw [String.intercalate_singleton]
  | cons f rest ih =>
    rw [lineNodes, List.flatMap_cons, List.append_assoc, List.append_assoc,
      Node.ends_sequence_append] at h
    obtain ⟨middle, hmiddle, h⟩ := List.mem_flatMap.mp h
    rw [List.singleton_append, Node.ends_sequence_cons] at h
    obtain ⟨next, hnext, h⟩ := List.mem_flatMap.mp h
    obtain ⟨rfl, hfeed⟩ := mem_ends_seamNode hnext
    obtain ⟨hsize, -⟩ := Array.getElem?_eq_some_iff.mp hfeed
    have hahead := (Node.ends_ahead _ _ _ _ hmiddle).1
    have hahead' := (Node.ends_ahead _ _ _ _ h).1
    have hline := Fragment.matchesWhole_of_mem (hself f List.mem_cons_self) hmiddle (by omega)
    obtain ⟨lines, hne, hslice, hlines⟩ :=
      ih (fun g hg => hself g (List.mem_cons_of_mem _ hg)) (fun _ => hsize) h
    refine ⟨slice text start middle :: lines, List.cons_ne_nil _ _, ?_, .cons hline hlines⟩
    -- the first line, the line feed, and the other lines
    calc slice text start stop
      _ = slice text start middle ++ slice text middle stop :=
        (slice_append hahead (by omega)).symm
      _ = slice text start middle ++ (slice text middle (middle + 1) ++
            slice text (middle + 1) stop) := by rw [slice_append (Nat.le_succ middle) hahead']
      _ = slice text start middle ++ "\n" ++ "\n".intercalate lines := by
        rw [slice_singleton hfeed, hslice, String.append_assoc]
      _ = "\n".intercalate (slice text start middle :: lines) :=
        (String.intercalate_cons_of_ne_nil hne).symm

variable {m : Matcher} {c : CompiledMatcher} {regex : Regex}

/-- **Matches of the joined pattern are made of lines.** Patterns that are self-contained are
joined, and the result has no modes on that trees depend on. Then each match is made of lines, each
of which the pattern for it matches by itself. -/
theorem matchesLines_of_isSelfContained [Engine] (h : m.compile = .ok c)
    (hregex : c.regex = some regex) (hlong : 2 ≤ m.fragments.length)
    (hloop : ∀ f ∈ m.fragments, f.loop = false)
    (hself : ∀ f ∈ m.fragments, f.isSelfContained = true) (hflags : Flags.plain.Alike regex.flags) :
    m.MatchesLines := by
  obtain ⟨hjudged, husable, -, parsed, hparsed, rfl⟩ := compilesTo_of_compile h hregex
  obtain ⟨initial, last, hm⟩ := exists_last husable
  rw [hm] at hself hloop hlong
  have hinitial : ∀ f ∈ initial, f.isSelfContained = true := fun f hf => hself f (by simp [hf])
  obtain ⟨r', settled, hr, hsettle, -, rfl⟩ := parse_eq_ok.mp hparsed
  rw [tokens_compositeSource hm fun f hf => hjudged f (by simp [hm, hf]),
    hloop last (by simp)] at hr
  obtain ⟨r, hseams, hr'⟩ := Reader.read_append.mp hr
  have hmodes : Flags.plain.Alike (settled.given.union settled.inline) :=
    ⟨hflags.verbose, hflags.ignoreCase, hflags.dotAll, hflags.ascii⟩
  have hsettled := hmodes.of_union.2
  have hinline : Flags.plain.Alike r.inline := by
    obtain ⟨on, hon⟩ := Reader.inline_of_settle hsettle
    obtain ⟨on', hon'⟩ := Reader.inline_of_read hr'
    rw [hon, hon'] at hsettled
    exact hsettled.of_union.1.of_union.1
  obtain ⟨hmode, hat⟩ := read_lines hinitial rfl atLine_start hseams hinline
  obtain ⟨alone, halone⟩ := Fragment.exists_readsBy (hself last (by simp))
  obtain ⟨alone', halong, hend, -⟩ :=
    Alongside.read_end (mirrors_correspondence _) halone.parses hmode hat.mirrors hr' hsettle
  obtain rfl := halone.unique hend
  have hroot := (hat.alongside halone halong hsettled).root
  rw [List.nil_append] at hroot
  have hlocal : settled.result.root.isLocal = true := by
    rw [← Node.isLocal_form, hroot, Node.isConjunctive_isLocal.sequence, List.all_append,
      isLocal_lineNodes hinitial, halone.isLocal_nodes]
    rfl
  intro c' regex' text start stop h' hregex' hspan
  rw [h] at h'
  cases h'
  rw [hregex] at hregex'
  cases hregex'
  have hmem := mem_ends_of_matchesSpan hlocal hspan
  change stop ∈ settled.result.root.ends text start at hmem
  rw [← Node.ends_form, hroot] at hmem
  have hne : initial ≠ [] := by
    rintro rfl
    exact Nat.not_succ_le_self 1 hlong
  obtain ⟨lines, -, hslice, hlines⟩ := exists_lines hself (fun hnil => absurd hnil hne) hmem
  rw [hm]
  exact ⟨lines, hslice, hlines⟩

/-- A matcher of patterns that supply nothing. -/
def ofSources (sources : List String) : Matcher where
  fragments := sources.map fun source => { source }

/-- An atomic group, a name, a repetition for good and reluctant ones. -/
def selfContained : Matcher :=
  ofSources ["^(?>a+|b)(?P<x>c|de)$", "f*+(?:g(h)?){1,2}?", "[^ ]{2}"]

theorem matchesLines_selfContained :
    ∃ c regex, selfContained.compile = .ok c ∧ c.regex = some regex ∧
      regex.MatchesSpan "aac\nfgh\nxy".toList.toArray 0 10 ∧ selfContained.MatchesLines := by
  obtain ⟨c, regex, h, hregex, hspan, hflags⟩ :
      ∃ c regex, selfContained.compile = .ok c ∧ c.regex = some regex ∧
        regex.MatchesSpan "aac\nfgh\nxy".toList.toArray 0 10 ∧ Flags.plain.Alike regex.flags :=
    ⟨_, _, rfl, rfl, ⟨_, rfl⟩, ⟨rfl, rfl, rfl, rfl⟩⟩
  refine ⟨c, regex, h, hregex, hspan, matchesLines_of_isSelfContained h hregex ?_ ?_ ?_ hflags⟩
  · decide
  · decide
  · decide

/-! ## Matches that are not made of lines -/

/-- A line feed can be found for each seam, so that the patterns match what is between. -/
def isMadeOfLines [Engine] : List Fragment → List Char → Bool
  | [], text => text.isEmpty
  | [f], text => f.matchesWhole (String.ofList text)
  | f :: rest, text =>
    (List.range text.length).any fun k =>
      text[k]? == some '\n' && f.matchesWhole (String.ofList (text.take k)) &&
        isMadeOfLines rest (text.drop (k + 1))

theorem isMadeOfLines_of_lines [Engine] {fragments : List Fragment} {lines : List String}
    (h : List.Forall₂ (fun f line => f.matchesWhole line) fragments lines) :
    isMadeOfLines fragments ("\n".intercalate lines).toList = true := by
  induction h with
  | nil => rfl
  | @cons f line rest lines hline hrest ih =>
    cases hrest with
    | nil =>
      rw [String.intercalate_singleton, isMadeOfLines, String.ofList_toList]
      exact hline
    | @cons next line' rest lines hnext hrest =>
      have htext : ("\n".intercalate (line :: line' :: lines)).toList =
          line.toList ++ '\n' :: ("\n".intercalate (line' :: lines)).toList := by
        rw [String.intercalate_cons_cons, String.toList_append, String.toList_append,
          List.append_assoc]
        rfl
      rw [htext]
      -- the text is cut behind the first line
      generalize ("\n".intercalate (line' :: lines)).toList = more at ih
      show ((List.range _).any fun k => _) = true
      rw [List.any_eq_true]
      exact ⟨line.toList.length, by simp, by simp [ih, hline]⟩

/-- Its joined pattern matches at the start of the text, and the match is not made of lines. -/
def hasStrayMatch [Engine] (m : Matcher) (text : String) : Bool :=
  match m.compile with
  | .ok { regex := some regex, .. } =>
    match regex.root.matchAt text.toList.toArray 0 with
    | some (stop, _) => !isMadeOfLines m.fragments (slice text.toList.toArray 0 stop).toList
    | none => false
  | _ => false

theorem not_matchesLines_of_hasStrayMatch [Engine] {text : String}
    (h : m.hasStrayMatch text = true) :
    ¬m.MatchesLines := by
  intro hlines
  unfold hasStrayMatch at h
  split at h
  · rename_i source groupCount offsets regex hcompile
    split at h
    · rename_i stop marks hmatch
      obtain ⟨lines, hslice, hall⟩ :=
        hlines _ regex text.toList.toArray 0 stop hcompile rfl ⟨marks, hmatch⟩
      rw [hslice, isMadeOfLines_of_lines hall] at h
      cases h
    · cases h
  · cases h

/-- Each condition is needed, with either release of the engine: no alternatives outside all groups,
no modes that the first pattern turns on for the second one as well, and trees that look at nothing
but what they take up. -/
theorem not_matchesLines_openPatterns :
    (∀ [Engine], ¬(ofSources ["a|b", "c"]).MatchesLines) ∧
      (∀ [Engine], ¬(ofSources ["(?i)a", "b"]).MatchesLines) ∧
      (∀ [Engine], ¬(ofSources ["(?s)a", "."]).MatchesLines) ∧
      (∀ [Engine], ¬(ofSources ["(?a)a", "\\W"]).MatchesLines) ∧
      (∀ [Engine], ¬(ofSources ["(?x)a", "b c"]).MatchesLines) ∧
      (∀ [Engine], ¬(ofSources ["(x)?", "(y)(?(1)b|c)"]).MatchesLines) ∧
      (∀ [Engine], ¬(ofSources ["(?>(?>abb\\n|a)b|abb)", "c"]).MatchesLines) ∧
      (∀ [Engine], ¬(ofSources ["(?:(?:abb\\n|a)?+b|abb){1}+", "c"]).MatchesLines) := by
  have hstray : ∀ {m : Matcher} (text : String),
      (∀ release, @hasStrayMatch ⟨release⟩ m text = true) → ∀ [Engine], ¬m.MatchesLines :=
    fun _ h engine => not_matchesLines_of_hasStrayMatch (h engine.release)
  refine ⟨hstray "a" ?_, hstray "a\nB" ?_, hstray "a\n\n" ?_, hstray "a\né" ?_, hstray "a\nbc" ?_,
    hstray "\nyc" ?_, hstray "abb\nc" ?_, hstray "abb\nc" ?_⟩
  all_goals
    intro release
    cases release <;> decide +kernel

end Matcher

end ProblemMatcher
