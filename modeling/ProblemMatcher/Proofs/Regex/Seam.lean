import ProblemMatcher.Proofs.Regex.Root

/-!
# Reading across a seam

A pattern that is well formed by itself is read as part of a longer one, and an escaped line feed
follows it. If the longer pattern has not turned on the skipping of blanks, no comment is open
where the part ends. So the line feed is read as an item, in the frame the part began in, and what
the part amounts to inside the longer pattern is what it amounts to by itself.

1. `ofChars_append`: tokens of the part do not reach across the seam.
2. `read_seam`: the part and the line feed after it.
3. `read_end`: the part at the end of the longer pattern.
-/

namespace ProblemMatcher.Regex

/-! ## Tokens -/

namespace Token

/-- Unless a text ends in a lone backslash, its tokens are those of any longer text too. -/
theorem ofChars_append {first : List Char} (h : .loneBackslash ∉ ofChars first)
    (second : List Char) : ofChars (first ++ second) = ofChars first ++ ofChars second := by
  fun_induction ofChars first with
  | case1 => rfl
  | case2 => exact absurd (List.mem_singleton_self _) h
  | case3 c hc =>
    cases second with
    | nil => simp [ofChars, hc]
    | cons d rest => simp [ofChars, hc]
  | case4 d rest ih =>
    have hrest : .loneBackslash ∉ ofChars rest := fun hmem => h (List.mem_cons_of_mem _ hmem)
    simp [ofChars, ih hrest]
  | case5 c d rest hc ih =>
    have hrest : .loneBackslash ∉ ofChars (d :: rest) := fun hmem => h (List.mem_cons_of_mem _ hmem)
    rw [List.cons_append, List.cons_append, ofChars, if_neg hc, ← List.cons_append, ih hrest]
    rfl

end Token

namespace Reader

theorem not_mem_of_read {r r' : Reader} {tokens : List Token} (h : r.read tokens = .ok r') :
    .loneBackslash ∉ tokens := by
  induction tokens generalizing r with
  | nil => exact List.not_mem_nil
  | cons t rest ih =>
    obtain ⟨middle, ht, h⟩ := read_cons.mp h
    rw [List.mem_cons, not_or]
    refine ⟨?_, ih h⟩
    rintro rfl
    cases ht

/-- Outside comments, what the end of a pattern ends, a line feed ends. -/
theorem step_lineFeed_of_settle {r settled : Reader} (hcomment : r.mode ≠ .comment)
    (h : r.settle = .ok settled) : r.step (.escape 'n') = .ok (settled.literal 10) := by
  rcases step_lineFeed hcomment with ⟨cause, hfails⟩ | hstep
  · rw [hfails r rfl] at h
    cases h
  · rw [hstep r rfl, h]
    rfl

theorem settle_of_comment {r settled : Reader} (hcomment : r.mode = .comment)
    (h : r.settle = .ok settled) : settled = r := by
  rw [settle, hcomment] at h
  exact (Except.ok.inj h).symm

theorem outer_of_check {r : Reader} (h : r.check = .ok ()) : r.outer = [] := by
  unfold check at h
  split_ifs at h with houter
  · cases h
  all_goals simpa using houter

/-! ## Modes that are turned on stay on -/

theorem Effect.inline_eq {r r' : Reader} (h : Effect r r') :
    ∃ on, r'.inline = r.inline.union on := by
  cases h with
  | inside _ inline | enter _ inline | leave _ inline =>
    exact ⟨.plain, by rw [inline, Flags.union_plain]⟩
  | turnOn _ on inline => exact ⟨on, inline⟩

theorem inline_act {before : Reader} (r : Reader) (x : Action) (r' : Reader)
    (h : ∃ on, r.inline = before.inline.union on) (hx : r.act x = .ok r') :
    ∃ on, r'.inline = before.inline.union on := by
  obtain ⟨on, hr⟩ := h
  obtain ⟨more, hr'⟩ := (effect_act hx).inline_eq
  exact ⟨on.union more, by rw [hr', hr, Flags.union_assoc]⟩

theorem inline_of_read {r r' : Reader} {tokens : List Token} (hr : r.read tokens = .ok r') :
    ∃ on, r'.inline = r.inline.union on :=
  read_induction inline_act ⟨.plain, (Flags.union_plain _).symm⟩ hr

theorem inline_of_settle {r r' : Reader} (hr : r.settle = .ok r') :
    ∃ on, r'.inline = r.inline.union on :=
  settle_induction inline_act ⟨.plain, (Flags.union_plain _).symm⟩ hr

theorem verbose_of_union {r r' : Reader} (h : ∃ on, r'.inline = r.inline.union on)
    (hoff : r'.inline.verbose = false) : r.inline.verbose = false := by
  obtain ⟨on, hon⟩ := h
  rw [hon, Flags.verbose_union, Bool.or_eq_false_iff] at hoff
  exact hoff.1

theorem verbose_of_read {r r' : Reader} {tokens : List Token} (hr : r.read tokens = .ok r')
    (hoff : r'.inline.verbose = false) : r.inline.verbose = false :=
  verbose_of_union (inline_of_read hr) hoff

theorem verbose_of_settle {r r' : Reader} (hr : r.settle = .ok r')
    (hoff : r'.inline.verbose = false) : r.inline.verbose = false :=
  verbose_of_union (inline_of_settle hr) hoff

end Reader

/-! ## A pattern by itself -/

theorem parse_eq_ok {given : Flags} {source : List Char} {parsed : Parsed} :
    parse given source = .ok parsed ↔
      ∃ r settled, (Reader.start given).read (Token.ofChars source) = .ok r ∧
        r.settle = .ok settled ∧ settled.check = .ok () ∧ settled.result = parsed := by
  constructor
  · intro h
    obtain ⟨r, hr, h⟩ := bind_eq_ok.mp h
    obtain ⟨settled, hsettled, h⟩ := bind_eq_ok.mp h
    obtain ⟨settled', hsettle, h'⟩ := bind_eq_ok.mp hsettled
    obtain ⟨done, hcheck, h'⟩ := bind_eq_ok.mp h'
    cases h'
    exact ⟨r, _, hr, hsettle, hcheck, Except.ok.inj h⟩
  · rintro ⟨r, settled, hr, hsettle, hcheck, rfl⟩
    refine bind_eq_ok.mpr ⟨r, hr, bind_eq_ok.mpr ⟨settled, ?_, rfl⟩⟩
    exact bind_eq_ok.mpr ⟨settled, hsettle, bind_eq_ok.mpr ⟨(), hcheck, rfl⟩⟩

/-- Reads a pattern by itself up to its end. -/
def Reader.readAll (source : List Char) : Except Rejection Reader :=
  (Reader.start .plain).read (Token.ofChars source) >>= Reader.finish

/-- A reader at the end of a pattern that is well formed by itself. -/
structure Reader.IsEnd (alone : Reader) (source : List Char) : Prop where
  readAll : Reader.readAll source = .ok alone
  isGrounded : alone.IsGrounded
  given : alone.given = .plain
  outer : alone.outer = []

theorem Reader.IsEnd.flags {alone : Reader} {source : List Char} (h : alone.IsEnd source) :
    alone.top.flags = alone.inline := by
  rw [← Reader.root_of_outer_nil h.outer, h.isGrounded.flags, h.given, Flags.plain_union]

theorem reads_of_parse {source : List Char} {parsed : Parsed}
    (h : parse .plain source = .ok parsed) :
    ∃ a alone, (Reader.start .plain).read (Token.ofChars source) = .ok a ∧
      a.settle = .ok alone ∧ alone.IsEnd source ∧ alone.result = parsed := by
  obtain ⟨a, alone, ha, hsettle, hcheck, hresult⟩ := parse_eq_ok.mp h
  have hg := ((Reader.isGrounded_start .plain).read ha).settle hsettle
  have hgiven : alone.given = .plain := Reader.settle_induction Reader.given_act
    (Reader.read_induction Reader.given_act rfl ha) hsettle
  have hall : Reader.readAll source = .ok alone :=
    bind_eq_ok.mpr ⟨a, ha, bind_eq_ok.mpr ⟨alone, hsettle, bind_eq_ok.mpr ⟨(), hcheck, rfl⟩⟩⟩
  exact ⟨a, alone, ha, hsettle, ⟨hall, hg, hgiven, Reader.outer_of_check hcheck⟩, hresult⟩

namespace Alongside

variable {F : Frame → Frame → Prop} {p : List Char} {parsed : Parsed} {r r' : Reader}

/-- A pattern inside a longer one, up to the escaped line feed that follows it. -/
theorem read_seam (hF : Correspondence r.groupCount F) (hp : parse .plain p = .ok parsed)
    (hmode : r.mode = .ready) (htop : F (Reader.start .plain).top r.top)
    (hr : r.read (Token.ofChars p ++ [.escape 'n']) = .ok r')
    (hverbose : r'.inline.verbose = false) :
    ∃ alone settled, Alongside F r.groupCount r.outer alone settled ∧ alone.IsEnd p ∧
      alone.result = parsed ∧ r' = settled.literal 10 := by
  obtain ⟨a, alone, ha, hsettle, hend, hresult⟩ := reads_of_parse hp
  obtain ⟨middle, hmiddle, hlast⟩ := Reader.read_append.mp hr
  obtain ⟨r'', hstep, hr''⟩ := Reader.read_cons.mp hlast
  cases hr''
  have h := (start .plain hmode htop).read hF ha hmiddle
  -- a comment is open only where blanks are skipped, and the longer pattern never does that
  have hcomment : a.mode ≠ .comment := by
    intro hmode
    obtain rfl := Reader.settle_of_comment hmode hsettle
    obtain ⟨before, hbefore⟩ := h.inline
    have hoff := Reader.verbose_of_read hlast hverbose
    rw [hbefore, Flags.verbose_union, ← hend.flags, h.comment hmode, Bool.or_true] at hoff
    cases hoff
  obtain ⟨settled, hsettled, hr'⟩ := h.lineFeed hF hcomment hsettle hstep
  exact ⟨alone, settled, hsettled, hend, hresult, hr'⟩

/-- A pattern that ends together with a longer one. -/
theorem read_end (hF : Correspondence r.groupCount F) (hp : parse .plain p = .ok parsed)
    (hmode : r.mode = .ready) (htop : F (Reader.start .plain).top r.top)
    (hr : r.read (Token.ofChars p) = .ok r') {settled : Reader} (hs : r'.settle = .ok settled) :
    ∃ alone, Alongside F r.groupCount r.outer alone settled ∧ alone.IsEnd p ∧
      alone.result = parsed := by
  obtain ⟨a, alone, ha, hsettle, hend, hresult⟩ := reads_of_parse hp
  exact ⟨alone, ((start .plain hmode htop).read hF ha hr).settle hF hsettle hs, hend, hresult⟩

end Alongside

end ProblemMatcher.Regex
