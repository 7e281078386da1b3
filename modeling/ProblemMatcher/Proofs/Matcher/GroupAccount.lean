import ProblemMatcher.Proofs.Matcher.Composite
import ProblemMatcher.Proofs.Regex.Numbering
import ProblemMatcher.Proofs.Regex.Renumbering

/-!
# Groups of the joined pattern

The groups of a compiled matcher are summed up over patterns that are compiled one by one, while
its regular expression comes from the joined source. The two numbers agree unless the joined
pattern skips blanks and comments. There a pattern may end in a comment that is open, which then
goes on into the pattern after it and hides that pattern's groups.

1. `read_seamTokens`: all patterns but the last.
2. `read_looped`: the last one inside the group that repeats it.
3. `exists_atSeam`, `exists_looped`: what is read before the last pattern, and with it.
4. `groupCount_agrees`: the two numbers, and how a comment sets them apart.
-/

namespace ProblemMatcher

open ProblemMatcher.Regex

/-! ## Frames that skip blanks alike -/

/-- Blanks and comments are skipped in both frames or in neither. -/
def SkipsAlike (g f : Frame) : Prop :=
  f.flags.verbose = g.flags.verbose

theorem skipsAlike_correspondence {ahead : Nat} : Correspondence ahead SkipsAlike where
  verbose := id
  leaf _ h _ := h
  backref _ _ h := h
  opened h _ := h
  scope on off h := by
    show (Flags.within _ on off).verbose = (Flags.within _ on off).verbose
    rw [Flags.verbose_within, Flags.verbose_within, h]
  nextBranch h := by
    show (Frame.nextBranch _).flags.verbose = (Frame.nextBranch _).flags.verbose
    rw [Frame.nextBranch_flags, Frame.nextBranch_flags, h]
  closed _ _ _ h _ := h
  repeated _ _ h _ _ := by
    show (Frame.repeated _ _ _).flags.verbose = (Frame.repeated _ _ _).flags.verbose
    rw [Frame.repeated_flags, Frame.repeated_flags, h]
  withGreed _ h _ _ := h
  turnOn on h := by
    show (Flags.union _ on).verbose = (Flags.union _ on).verbose
    rw [Flags.union, Flags.union, h]

/-- A comment is read only where comments are skipped. -/
theorem verbose_of_comment {given : Flags} {tokens : List Token} {r : Reader}
    (hr : (Reader.start given).read tokens = .ok r) (hmode : r.mode = .comment) :
    r.top.flags.verbose = true := by
  have hstart : Alongside SkipsAlike 0 [] (Reader.start given) (Reader.start given) :=
    .mk rfl rfl rfl ⟨[], rfl, .nil⟩ ⟨.plain, rfl⟩ nofun nofun
  exact (hstart.read skipsAlike_correspondence hr hr).comment hmode

namespace Matcher

/-! ## Across the seams -/

/-- The reader is between two patterns of the joined one, where nothing is skipped. -/
structure AtSeam (r : Reader) : Prop where
  mode : r.mode = .ready
  outer : r.outer = []
  verbose : r.top.flags.verbose = false

theorem atSeam_start : AtSeam (Reader.start { multiline := true }) :=
  ⟨rfl, rfl, rfl⟩

theorem read_seamTokens {fragments : List Fragment} (hjudged : ∀ f ∈ fragments, f.IsJudged)
    {r r' : Reader} (h : AtSeam r) (hr : r.read (seamTokens fragments) = .ok r')
    (hverbose : r'.inline.verbose = false) :
    AtSeam r' ∧ r'.groupCount = r.groupCount + (fragments.map Fragment.groups).sum := by
  induction fragments generalizing r with
  | nil =>
    cases hr
    exact ⟨h, rfl⟩
  | cons f rest ih =>
    obtain ⟨r₁, hf, hrest⟩ := Reader.read_append.mp (show r.read (_ ++ seamTokens rest) = _ from hr)
    -- modes are only ever added, so blanks were not skipped before either
    have hverbose₁ := Reader.verbose_of_read hrest hverbose
    obtain ⟨parsed, hparsed, hgroups⟩ := Fragment.piece_parses (hjudged f List.mem_cons_self)
    obtain ⟨alone, settled, halong, hend, hresult, rfl⟩ :=
      Alongside.read_seam skipsAlike_correspondence hparsed h.mode h.verbose hf hverbose₁
    have hseam : AtSeam (settled.literal 10) := by
      refine ⟨rfl, (halong.outer_eq hend.outer).trans h.outer, ?_⟩
      obtain ⟨before, hbefore⟩ := halong.inline
      have hinline : settled.inline.verbose = false := hverbose₁
      rw [hbefore, Flags.verbose_union, Bool.or_eq_false_iff] at hinline
      show settled.top.flags.verbose = false
      rw [halong.top, hend.flags, hinline.2]
    obtain ⟨hseam', hcount⟩ :=
      ih (fun g hg => hjudged g (List.mem_cons_of_mem _ hg)) hseam hrest
    refine ⟨hseam', ?_⟩
    have hsettled : settled.groupCount = parsed.groupCount + r.groupCount := by
      rw [halong.groupCount, ← hresult]
      rfl
    rw [hcount, List.map_cons, List.sum_cons, ← hgroups]
    show settled.groupCount + _ = _
    omega

/-! ## The pattern that repeats -/

/-- What stands after a pattern that repeats. -/
def loopEnd : List Token :=
  [.escape 'n', .char '?', .char ')', .char '+']

theorem tokens_looped {f : Fragment} (hjudged : f.IsJudged) (husable : f.isUsable = true) :
    f.tokens true = .char '(' :: (f.tokens false ++ loopEnd) := by
  have hopen : ∀ cs, Token.ofChars ('(' :: cs) = .char '(' :: Token.ofChars cs :=
    fun cs => Token.ofChars_append (show .loneBackslash ∉ Token.ofChars ['('] by decide) cs
  have htokens := Fragment.not_mem_tokens hjudged
  unfold Fragment.tokens Fragment.piece at htokens ⊢
  simp only [husable, if_true, Bool.false_eq_true, if_false] at htokens ⊢
  rw [loopSource, String.toList_append, String.toList_append]
  show Token.ofChars ('(' :: ((stripAnchors f.source).toList ++ "\\n?)+".toList)) = _
  rw [hopen, Token.ofChars_append htokens]
  rfl

/-- No pattern begins with a question mark. -/
theorem head_ne_question {f : Fragment} (hjudged : f.IsJudged) {t : Token} {rest : List Token}
    (h : f.tokens false ++ loopEnd = t :: rest) : t ≠ .loneBackslash ∧ t ≠ .char '?' := by
  obtain ⟨parsed, hparsed, -⟩ := Fragment.piece_parses hjudged
  obtain ⟨a, alone, ha, -⟩ := reads_of_parse hparsed
  change Reader.read _ (f.tokens false) = _ at ha
  cases hf : f.tokens false with
  | nil =>
    rw [hf] at h
    cases h
    exact ⟨nofun, by decide⟩
  | cons first more =>
    rw [hf] at h ha
    cases h
    obtain ⟨r₁, hstep, -⟩ := Reader.read_cons.mp ha
    -- a pattern that began with one would not be well formed by itself
    constructor
    · rintro rfl
      cases hstep
    · rintro rfl
      cases hstep

/-- So the parenthesis before a pattern opens a group that captures. -/
theorem read_groupStart {f : Fragment} (hjudged : f.IsJudged) {r : Reader}
    (hmode : r.mode = .ready) :
    r.read (.char '(' :: (f.tokens false ++ loopEnd)) =
      r.openCapture.read (f.tokens false ++ loopEnd) := by
  have hopen : r.step (.char '(') = .ok { r with mode := .groupStart } := by
    rw [Reader.step, if_neg (by decide), hmode]
    exact Reader.readItem_char r '('
  obtain ⟨t, rest, hts⟩ : ∃ t rest, f.tokens false ++ loopEnd = t :: rest := by
    cases f.tokens false with
    | nil => exact ⟨_, _, rfl⟩
    | cons first more => exact ⟨_, _, rfl⟩
  obtain ⟨hlone, hquestion⟩ := head_ne_question hjudged hts
  have hstep : { r with mode := .groupStart : Reader }.step t = r.openCapture.step t := by
    rw [Reader.step, Reader.step, if_neg hlone, if_neg hlone]
    exact if_neg hquestion
  rw [hts, Reader.read, List.foldlM_cons, hopen, Reader.read, List.foldlM_cons]
  show { r with mode := .groupStart : Reader }.read (t :: rest) = _
  rw [Reader.read, List.foldlM_cons, hstep]

/-- The tokens that close and repeat the group make the last item optional and open no other
group. -/
theorem read_closing {r r' : Reader} (hmode : r.mode = .ready)
    (h : r.read [.char '?', .char ')', .char '+'] = .ok r') :
    ∃ parent outer back, r.outer = parent :: outer ∧
      r'.top = (parent.push ((r.top.repeated 0 (some 1)).closed back)).repeated 1 none ∧
      r'.outer = outer ∧ r'.groupCount = r.groupCount ∧ r'.mode = .afterRepeat := by
  obtain ⟨r₁, hoptional, h⟩ := Reader.read_cons.mp h
  obtain ⟨r₂, hclose, h⟩ := Reader.read_cons.mp h
  obtain ⟨r₃, hrepeat, h⟩ := Reader.read_cons.mp h
  cases h
  have hoptional' : r.repeatLast 0 (some 1) = .ok r₁ := by
    rw [← hoptional, Reader.step, if_neg (by decide), hmode]
    exact (Reader.readItem_char r '?').symm
  obtain ⟨-, hr₁⟩ := Reader.eq_of_repeatLast hoptional'
  have hmode₁ : r₁.mode = .afterRepeat := by rw [hr₁]
  have hclose' : r₁.close = .ok r₂ := by
    rw [← hclose, Reader.step, if_neg (by decide), hmode₁]
    exact (Reader.readItem_char r₁ ')').symm
  obtain ⟨parent, outer, back, houter, -, htop, houter', hmode₂, hcount₂, -⟩ :=
    Reader.eq_of_close hclose'
  have hrepeat' : r₂.repeatLast 1 none = .ok r' := by
    rw [← hrepeat, Reader.step, if_neg (by decide), hmode₂]
    exact (Reader.readItem_char r₂ '+').symm
  obtain ⟨-, hr'⟩ := Reader.eq_of_repeatLast hrepeat'
  subst hr₁
  refine ⟨parent, outer, back, houter, ?_, ?_, ?_, ?_⟩
  · rw [hr', ← htop]
  · rw [hr', ← houter']
  · rw [hr', ← hcount₂]
  · rw [hr']

/-- The last pattern in the group that repeats it. The tree in the group has the groups of the
pattern, numbered on from that group. -/
theorem read_looped {f : Fragment} (hjudged : f.IsJudged) {parsed : Parsed}
    (hparsed : parse .plain (f.piece false).toList = .ok parsed) {r r' : Reader}
    (hblank : r.top.flags.verbose = false)
    (h : r.openCapture.read (f.tokens false ++ loopEnd) = .ok r')
    (hverbose : r'.inline.verbose = false) :
    r'.groupCount = r.groupCount + f.groups + 1 ∧ r'.mode = .afterRepeat ∧
      ∃ body, parsed.root.Renumbers (r.groupCount + 1) body ∧ r'.outer = r.outer ∧
        r'.top = r.top.push (.loop 1 none .greedy (.group (r.groupCount + 1) body))
          .repetition := by
  have hgroups : parsed.groupCount = f.groups := by
    obtain ⟨parsed', hparsed', hgroups⟩ := Fragment.piece_parses hjudged
    rw [hparsed] at hparsed'
    cases hparsed'
    exact hgroups
  have hsplit : f.tokens false ++ loopEnd =
      f.tokens false ++ [.escape 'n'] ++ [.char '?', .char ')', .char '+'] := by
    rw [List.append_assoc]
    rfl
  rw [hsplit] at h
  obtain ⟨r₁, hseam, hclosing⟩ := Reader.read_append.mp h
  have htop : Regex.Renumbers (r.groupCount + 1) (Reader.start .plain).top r.openCapture.top :=
    .fresh hblank .whole
  obtain ⟨alone, settled, halong, hend, hresult, rfl⟩ :=
    Alongside.read_seam (renumbers_correspondence _) hparsed rfl htop hseam
      (Reader.verbose_of_read hclosing hverbose)
  obtain ⟨parent, outer, back, houter, htop', houter', hcount, hmode⟩ := read_closing rfl hclosing
  have hsettled : settled.groupCount = parsed.groupCount + (r.groupCount + 1) := by
    rw [halong.groupCount, ← hresult]
    rfl
  refine ⟨?_, hmode, ?_⟩
  · rw [hcount, ← hgroups]
    show settled.groupCount = _
    omega
  · -- the group closed is the one opened in front of the pattern
    have houter'' : parent :: outer = r.top :: r.outer :=
      houter.symm.trans (halong.outer_eq hend.outer)
    cases houter''
    have hwhole : alone.top.kind = .whole := by
      rw [← Reader.root_of_outer_nil hend.outer]
      exact hend.isGrounded.kind
    have hkind : settled.top.kind = .capture (r.groupCount + 1) :=
      halong.top.kind.eq_capture hwhole
    refine ⟨((settled.literal 10).top.repeated 0 (some 1)).body, ?_, houter', ?_⟩
    · rw [← hresult]
      exact halong.top.body_push (.loop 0 (some 1) .greedy (.one _)) rfl .repetition
    · have hclosed : ((settled.literal 10).top.repeated 0 (some 1)).closed back =
          .group (r.groupCount + 1) ((settled.literal 10).top.repeated 0 (some 1)).body := by
        have hkind' : ((settled.literal 10).top.repeated 0 (some 1)).kind = settled.top.kind := rfl
        rw [Frame.closed, hkind', hkind]
      rw [htop', hclosed]
      rfl

/-! ## The two numbers -/

variable {m : Matcher} {c : CompiledMatcher} {regex : Regex}

/-- A matcher of one pattern that repeats turns no modes on, since its first token opens a group. -/
theorem inline_openCapture {given : Flags} {r' : Reader} {tokens : List Token}
    (h : (Reader.start given).openCapture.read tokens = .ok r') : r'.inline = .plain := by
  have hkeeps : (Reader.start given).openCapture.Keeps given .plain :=
    ⟨⟨rfl, (Flags.union_plain given).symm⟩, Or.inl (List.cons_ne_nil _ _), rfl, rfl⟩
  exact (Reader.read_induction Reader.Keeps.act hkeeps h).inline_eq

/-- A pattern that does not repeat contributes the same wherever it stands. -/
theorem tokens_of_not_looped {f : Fragment} (h : (f.isUsable && f.loop) = false) :
    f.tokens f.loop = f.tokens false := by
  unfold Fragment.tokens Fragment.piece
  cases hloop : f.loop with
  | false => rfl
  | true =>
    rw [hloop, Bool.and_true] at h
    simp [h]

/-- The joined pattern as far as its last pattern, and the rest of it. -/
theorem exists_atSeam (h : m.CompilesTo c regex) {initial : List Fragment} {last : Fragment}
    (hm : m.fragments = initial ++ [last])
    (hquiet : regex.flags.verbose = false ∨ m.fragments.length ≤ 1) :
    ∃ r r' settled, AtSeam r ∧ r.IsNumbered ∧ r.groupCount = (initial.map Fragment.groups).sum ∧
      r.read (last.tokens last.loop) = .ok r' ∧ r'.settle = .ok settled ∧
      regex = ofParsed m.compositeSource settled.result ∧
      (r'.inline.verbose = false ∨ r = Reader.start { multiline := true }) := by
  obtain ⟨hjudged, -, -, parsed, hparsed, rfl⟩ := h
  have hinitial : ∀ f ∈ initial, f.IsJudged := fun f hf => hjudged f (by simp [hm, hf])
  obtain ⟨r', settled, hr, hsettle, -, hresult⟩ := parse_eq_ok.mp hparsed
  rw [tokens_compositeSource hm hinitial] at hr
  obtain ⟨r, hseams, hr'⟩ := Reader.read_append.mp hr
  have hoff : r'.inline.verbose = false ∨ r = Reader.start { multiline := true } := by
    rcases hquiet with hverbose | hlength
    · left
      have hsettled : (settled.given.union settled.inline).verbose = false := by
        change parsed.flags.verbose = false at hverbose
        rw [← hresult] at hverbose
        exact hverbose
      rw [Flags.verbose_union, Bool.or_eq_false_iff] at hsettled
      exact Reader.verbose_of_settle hsettle hsettled.2
    · right
      obtain rfl : initial = [] := by
        rw [hm, List.length_append, List.length_singleton] at hlength
        exact List.eq_nil_of_length_eq_zero (by omega)
      cases hseams
      rfl
  have hseam : r.inline.verbose = false := by
    rcases hoff with hverbose | rfl
    · exact Reader.verbose_of_read hr' hverbose
    · rfl
  obtain ⟨hat, hbefore⟩ := read_seamTokens hinitial atSeam_start hseams hseam
  refine ⟨r, r', settled, hat, (Reader.isNumbered_start _).read hseams, ?_, hr', hsettle, ?_, hoff⟩
  · rw [hbefore]
    exact Nat.zero_add _
  · rw [hresult]

/-- The joined pattern whose last pattern repeats: the patterns before it, then a group of its own
that repeats a tree with the groups of the last pattern, numbered on from that group. -/
theorem exists_looped (h : m.CompilesTo c regex) {initial : List Fragment} {last : Fragment}
    (hm : m.fragments = initial ++ [last])
    (hquiet : regex.flags.verbose = false ∨ m.fragments.length ≤ 1)
    (husable : last.isUsable = true) (hloop : last.loop = true) {own : Parsed}
    (hown : parse .plain (last.piece false).toList = .ok own) :
    ∃ (r r' : Reader) (body : Node), r.IsNumbered ∧
      r.groupCount = (initial.map Fragment.groups).sum ∧
      own.root.Renumbers (r.groupCount + 1) body ∧
      r'.groupCount = r.groupCount + last.groups + 1 ∧
      r'.top = r.top.push (.loop 1 none .greedy (.group (r.groupCount + 1) body)) .repetition ∧
      regex = ofParsed m.compositeSource r'.result := by
  have hlast : last.IsJudged := h.isJudged last (by simp [hm])
  obtain ⟨r, r', settled, hat, hnumbered, hbefore, hr', hsettle, hregex, hoff⟩ :=
    exists_atSeam h hm hquiet
  rw [hloop, tokens_looped hlast husable, read_groupStart hlast hat.mode] at hr'
  have hverbose : r'.inline.verbose = false := by
    rcases hoff with hverbose | rfl
    · exact hverbose
    · rw [inline_openCapture hr']
      rfl
  obtain ⟨hcount, hmode, body, hbody, -, htop⟩ := read_looped hlast hown hat.verbose hr' hverbose
  have hsettled : settled = r' := by
    rw [Reader.settle, hmode] at hsettle
    exact (Except.ok.inj hsettle).symm
  subst hsettled
  exact ⟨r, settled, body, hnumbered, hbefore, hbody, hcount, htop, hregex⟩

theorem groupCount_of_quiet (h : m.CompilesTo c regex)
    (hquiet : regex.flags.verbose = false ∨ m.fragments.length ≤ 1) :
    regex.groupCount = c.groupCount := by
  obtain ⟨initial, last, hm⟩ := exists_last h.isUsable
  have hlast : last.IsJudged := h.isJudged last (by simp [hm])
  obtain ⟨own, hown, hgroups⟩ := Fragment.piece_parses hlast
  rw [h.groupCount, totalGroups, hm, lastLoops_append hm, List.map_append, List.sum_append]
  cases hloops : last.isUsable && last.loop with
  | false =>
    obtain ⟨r, r', settled, hat, -, hbefore, hr', hsettle, rfl, -⟩ := exists_atSeam h hm hquiet
    rw [tokens_of_not_looped hloops] at hr'
    obtain ⟨alone, halong, -, hresult⟩ :=
      Alongside.read_end skipsAlike_correspondence hown hat.mode hat.verbose hr' hsettle
    have hsettled : settled.groupCount = own.groupCount + r.groupCount := by
      rw [← hresult]
      exact halong.groupCount
    show settled.groupCount = _
    rw [hsettled, hbefore, hgroups]
    simp [Nat.add_comm]
  | true =>
    rw [Bool.and_eq_true] at hloops
    obtain ⟨r, r', body, -, hbefore, -, hcount, -, rfl⟩ :=
      exists_looped h hm hquiet hloops.1 hloops.2 hown
    show r'.groupCount = _
    rw [hcount, hbefore]
    simp

/-! ## Longer matchers -/

/-- The matcher with more patterns after its own. -/
def followedBy (m : Matcher) (more : List Fragment) : Matcher :=
  { m with fragments := m.fragments ++ more }

/-- The groups counted are those of the regular expression, if there is one. -/
def Accounts (m : Matcher) : Prop :=
  ∀ c regex, m.compile = .ok c → c.regex = some regex → regex.groupCount = c.groupCount

/-- Unless the last pattern repeats, its end is a seam once more patterns follow. -/
theorem tokens_followedBy {initial more : List Fragment} {last : Fragment}
    (hjudged : ∀ f ∈ m.fragments ++ initial, f.IsJudged)
    (husable : m.fragments.any Fragment.isUsable = true) (hloops : m.lastLoops = false)
    (hmore : more = initial ++ [last]) :
    Token.ofChars (m.followedBy more).compositeSource.toList =
      Token.ofChars m.compositeSource.toList ++ .escape 'n' ::
        (seamTokens initial ++ last.tokens last.loop) := by
  obtain ⟨own, end_, hm⟩ := exists_last husable
  have hown : ∀ f ∈ own, f.IsJudged := fun f hf => hjudged f (by simp [hm, hf])
  have hall : (m.followedBy more).fragments = m.fragments ++ initial ++ [last] := by
    rw [followedBy, hmore, List.append_assoc]
  rw [lastLoops_append hm] at hloops
  rw [tokens_compositeSource hall hjudged, tokens_compositeSource hm hown, hm,
    tokens_of_not_looped hloops]
  simp [seamTokens]

/-- After a pattern that skips no blanks, no modes are turned on any more. -/
theorem keeps_of_quiet {given : Flags} {tokens : List Token} {r settled r' : Reader}
    (hr : (Reader.start given).read tokens = .ok r) (hsettle : r.settle = .ok settled)
    (hcheck : settled.check = .ok ()) (hquiet : settled.result.flags.verbose = false)
    (h : r.step (.escape 'n') = .ok r') : r'.Keeps settled.given settled.inline := by
  have hground := (Reader.isGrounded_start given).read hr
  have hcomment : r.mode ≠ .comment := by
    intro hmode
    obtain rfl := Reader.settle_of_comment hmode hsettle
    have hflags : settled.top.flags = settled.given.union settled.inline := by
      rw [← Reader.root_of_outer_nil (Reader.outer_of_check hcheck), hground.flags]
    have hon := verbose_of_comment hr hmode
    rw [hflags] at hon
    exact Bool.noConfusion (hon.symm.trans hquiet)
  rw [Reader.step_lineFeed_of_settle hcomment hsettle] at h
  cases h
  exact ⟨(hground.settle hsettle).effect (Reader.effect_push _ _ _), Or.inr (Bool.and_false _), rfl,
    rfl⟩

theorem quiet_followedBy {c' : CompiledMatcher} {regex' : Regex} {more : List Fragment}
    (h : m.CompilesTo c regex) (hloops : m.lastLoops = false)
    (hquiet : regex.flags.verbose = false) (h' : (m.followedBy more).CompilesTo c' regex') :
    regex'.flags.verbose = false := by
  obtain ⟨-, husable, -, parsed, hparsed, rfl⟩ := h
  obtain ⟨hjudged, -, -, parsed', hparsed', rfl⟩ := h'
  -- without more patterns both joined patterns are the same
  rcases List.eq_nil_or_concat more with rfl | ⟨initial, last, hmore⟩
  · have hsame : m.followedBy [] = m := by simp [followedBy]
    rw [hsame, hparsed] at hparsed'
    cases hparsed'
    exact hquiet
  · rw [List.concat_eq_append] at hmore
    obtain ⟨r, settled, hr, hsettle, hcheck, rfl⟩ := parse_eq_ok.mp hparsed
    obtain ⟨r', settled', hr', hsettle', -, rfl⟩ := parse_eq_ok.mp hparsed'
    have hall : ∀ f ∈ m.fragments ++ initial, f.IsJudged := by
      intro f hf
      refine hjudged f ?_
      rw [followedBy, hmore, ← List.append_assoc]
      exact List.mem_append_left _ hf
    rw [tokens_followedBy hall husable hloops hmore] at hr'
    obtain ⟨r₁, hr₁, hrest⟩ := Reader.read_append.mp hr'
    rw [hr] at hr₁
    cases hr₁
    obtain ⟨r₂, hstep, hrest⟩ := Reader.read_cons.mp hrest
    have hkeeps := keeps_of_quiet hr hsettle hcheck hquiet hstep
    obtain ⟨-, -, hgiven, hinline⟩ :=
      Reader.settle_induction Reader.Keeps.act (Reader.read_induction Reader.Keeps.act hkeeps hrest)
        hsettle'
    show (settled'.given.union settled'.inline).verbose = false
    rw [hgiven, hinline]
    exact hquiet

/-- A pattern that counts one group, none of which is left in a comment. -/
def hidden : Fragment :=
  { source := "#()" }

theorem read_comment {r : Reader} (hmode : r.mode = .comment) (tokens : List Token)
    (h : ∀ t ∈ tokens, t ≠ .loneBackslash ∧ t ≠ .char '\n') : r.read tokens = .ok r := by
  induction tokens with
  | nil => rfl
  | cons t rest ih =>
    obtain ⟨hlone, hfeed⟩ := h t List.mem_cons_self
    have hstep : r.step t = .ok r := by
      rw [Reader.step, if_neg hlone, hmode]
      exact congrArg Except.ok (if_neg hfeed)
    exact Reader.read_cons.mpr ⟨r, hstep, ih fun t ht => h t (List.mem_cons_of_mem _ ht)⟩

theorem isJudged_hidden : hidden.IsJudged :=
  ⟨_, rfl⟩

theorem tokens_hidden : hidden.tokens hidden.loop = [.char '#', .char '(', .char ')'] :=
  rfl

/-- Where blanks are skipped, an open comment hides the next pattern. -/
theorem read_hidden {given : Flags} {tokens : List Token} {r settled : Reader}
    (hr : (Reader.start given).read tokens = .ok r) (hsettle : r.settle = .ok settled)
    (hcheck : settled.check = .ok ()) (hverbose : settled.result.flags.verbose = true) :
    ∃ r', r.read (.escape 'n' :: hidden.tokens hidden.loop) = .ok r' ∧ r'.settle = .ok r' ∧
      r'.check = .ok () ∧ r'.groupCount = settled.groupCount := by
  rw [tokens_hidden]
  -- the comment is open already, or the pattern's own number sign opens it
  by_cases hcomment : r.mode = .comment
  · obtain rfl := Reader.settle_of_comment hcomment hsettle
    exact ⟨settled, read_comment hcomment _ (by decide), hsettle, hcheck, rfl⟩
  · have hground : settled.IsGrounded :=
      Reader.settle_induction (fun _ _ _ h hx => h.effect (Reader.effect_act hx))
        ((Reader.isGrounded_start given).read hr) hsettle
    have htop : settled.top.flags.verbose = true := by
      rw [← Reader.root_of_outer_nil (Reader.outer_of_check hcheck), hground.flags]
      exact hverbose
    have hopen : (settled.literal 10).step (.char '#') =
        .ok { settled.literal 10 with mode := .comment } := by
      have htop' : (settled.literal 10).top.flags.verbose = true := htop
      have htext : (settled.literal 10).step (.char '#') =
          (settled.literal 10).act (.text '#') := Reader.readItem_char _ '#'
      rw [htext]
      simp only [Reader.act]
      rw [htop']
      rfl
    refine ⟨{ settled.literal 10 with mode := .comment }, ?_, rfl, hcheck, rfl⟩
    refine Reader.read_cons.mpr ⟨_, Reader.step_lineFeed_of_settle hcomment hsettle, ?_⟩
    exact Reader.read_cons.mpr ⟨_, hopen, read_comment rfl _ (by decide)⟩

theorem exists_hidden (h : m.CompilesTo c regex) (hloops : m.lastLoops = false)
    (hverbose : regex.flags.verbose = true) :
    ∃ c' regex', (m.followedBy [hidden]).compile = .ok c' ∧ c'.regex = some regex' ∧
      regex'.groupCount = regex.groupCount ∧ c'.groupCount = c.groupCount + 1 := by
  obtain ⟨hjudged, husable, hcount, parsed, hparsed, rfl⟩ := h
  obtain ⟨r, settled, hr, hsettle, hcheck, rfl⟩ := parse_eq_ok.mp hparsed
  obtain ⟨r', hr', hsettle', hcheck', hgroups⟩ := read_hidden hr hsettle hcheck hverbose
  have hparsed' : parse { multiline := true } (m.followedBy [hidden]).compositeSource.toList =
      .ok r'.result := by
    refine parse_eq_ok.mpr ⟨r', r', ?_, hsettle', hcheck', rfl⟩
    rw [tokens_followedBy (by simpa using hjudged) husable hloops (List.nil_append [hidden]).symm]
    exact Reader.read_append.mpr ⟨r, hr, hr'⟩
  have hjudged' : ∀ f ∈ (m.followedBy [hidden]).fragments, f.IsJudged := by
    intro f hf
    rcases List.mem_append.mp hf with hf | hf
    · exact hjudged f hf
    · rw [List.mem_singleton.mp hf]
      exact isJudged_hidden
  have husable' : (m.followedBy [hidden]).fragments.any Fragment.isUsable = true := by
    simp [followedBy, husable]
  obtain ⟨c', hc', hcount', hregex'⟩ := compile_of_parses hjudged' husable' hparsed'
  refine ⟨c', _, hc', hregex', hgroups, ?_⟩
  have hfragments : (m.followedBy [hidden]).fragments = m.fragments ++ [hidden] := rfl
  have hloops' : (m.followedBy [hidden]).lastLoops = false := by
    rw [lastLoops_append hfragments]
    rfl
  have hone : hidden.groups = 1 := rfl
  rw [hcount', hcount, totalGroups, totalGroups, hloops, hloops']
  simp [followedBy, hone]

/-- **Groups are counted right unless blanks are skipped.** A compiled matcher has as many groups
as its regular expression if that does not skip blanks, or if there is one pattern only. And for
a matcher whose last pattern does not repeat, not skipping blanks is what it takes for this to hold
of every longer matcher that begins with it. -/
theorem groupCount_agrees (h : m.compile = .ok c) (hregex : c.regex = some regex) :
    ((regex.flags.verbose = false ∨ m.fragments.length ≤ 1) → regex.groupCount = c.groupCount) ∧
      (m.lastLoops = false →
        ((∀ more, (m.followedBy more).Accounts) ↔ regex.flags.verbose = false)) := by
  have hto := compilesTo_of_compile h hregex
  refine ⟨groupCount_of_quiet hto, fun hloops => ⟨fun hall => ?_, fun hquiet more c' regex' => ?_⟩⟩
  · cases hverbose : regex.flags.verbose with
    | false => rfl
    | true =>
      obtain ⟨c', regex', h', hregex', hsame, hmore⟩ := exists_hidden hto hloops hverbose
      have hown : regex.groupCount = c.groupCount :=
        hall [] c regex (by rw [followedBy, List.append_nil]; exact h) hregex
      have hlonger : regex'.groupCount = c'.groupCount := hall [hidden] c' regex' h' hregex'
      omega
  · intro h' hregex'
    have hto' := compilesTo_of_compile h' hregex'
    exact groupCount_of_quiet hto' (Or.inl (quiet_followedBy hto hloops hquiet hto'))

/-- A named group, a comment inside a scope of its own, and a repetition at the end. -/
def scopedComment : Matcher where
  fragments := [
    { source := "^(?P<a>x)|(?x: # (\n (y))$" },
    { source := "(z)(?#()(?<=(w))", loop := true }]

theorem groupCount_agrees_scopedComment :
    ∃ c regex, scopedComment.compile = .ok c ∧ c.regex = some regex ∧
      regex.flags.verbose = false ∧ c.groupCount = 5 ∧ regex.groupCount = c.groupCount := by
  obtain ⟨c, regex, h, hregex, hverbose, hcount⟩ :
      ∃ c regex, scopedComment.compile = .ok c ∧ c.regex = some regex ∧
        regex.flags.verbose = false ∧ c.groupCount = 5 := ⟨_, _, rfl, rfl, rfl, rfl⟩
  exact ⟨c, regex, h, hregex, hverbose, hcount, (groupCount_agrees h hregex).1 (Or.inl hverbose)⟩

/-- A comment that the first pattern leaves open hides the group of the second. -/
theorem not_accounts_openComment :
    ¬ Matcher.Accounts { fragments := [{ source := "(?x)a#" }, { source := "(b)" }] } := by
  intro h
  have hcount := h _ _ rfl rfl
  revert hcount
  decide

end Matcher

end ProblemMatcher
