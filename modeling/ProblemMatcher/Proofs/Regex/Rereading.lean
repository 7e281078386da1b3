import ProblemMatcher.Proofs.Regex.Root
import ProblemMatcher.Proofs.Regex.Seam
import ProblemMatcher.Proofs.Regex.Twins
import ProblemMatcher.Proofs.Regex.Widths

/-!
# Reading a pattern again

A pattern that could be read under some modes is read again under more of them. As long as nothing
has been read, the two readings may differ in what they skip: the pattern may still turn on what the
second reading has been given from the start. What it has turned on by the time something is read is
what it turns on altogether, and from then on the two readings are twins.

1. `Paired`: where the second reading is while the first one is at a given point.
2. `Paired.act`, `Paired.read`: an action, and a run.
3. `parse_again`: modes in force already change nothing when they are given.
4. `parse_more`: modes that matter for places, dots and cases never make a pattern malformed.
-/

namespace ProblemMatcher.Regex

open ProblemMatcher.Text

namespace Reader

variable {P : Flags → Flags → Prop} {N : Node → Node → Prop} {B : List Node → List Node → Prop}
variable {given given' inline : Flags} {a b a' : Reader}

/-- The reader as it is if it was given other modes and nothing has been read. -/
def under (r : Reader) (given : Flags) : Reader :=
  r.reframe given { r.top with flags := given.union r.inline } r.outer

theorem isUnderway_push (r : Reader) (node : Node) (last : LastItem) :
    (r.push node last).IsUnderway :=
  Or.inr (Bool.and_false _)

theorem isUnderway_enter (r : Reader) (kind : FrameKind) (flags : Flags) :
    (r.enter kind flags).IsUnderway :=
  Or.inl (List.cons_ne_nil _ _)

/-- An action that is the first to read something has turned nothing on, and one that reads nothing
does the same under more modes. -/
def LeadsTo (a : Reader) (x : Action) (a' : Reader) : Prop :=
  (a'.IsUnderway ∧ a'.inline = a.inline) ∨
    (¬a'.IsUnderway ∧ ∀ given', a.given.union given' = given' →
      (a.under given').act x = .ok (a'.under given'))

theorem text_unread (hflags : a.top.flags = a.given.union a.inline) (hunread : ¬a.IsUnderway)
    {c : Char} (ha : a.act (.text c) = .ok a') : a.LeadsTo (.text c) a' := by
  by_cases hv : a.top.flags.verbose = true
  · -- more modes from the start can only add to what is skipped
    have hskip : ∀ given', a.given.union given' = given' →
        (a.under given').top.flags.verbose = true := by
      intro given' hmore
      rw [hflags, Flags.verbose_union, Bool.or_eq_true] at hv
      show (given'.union a.inline).verbose = true
      rw [← hmore, Flags.verbose_union, Flags.verbose_union, Bool.or_eq_true, Bool.or_eq_true]
      exact hv.imp_left Or.inl
    by_cases hblank : isAsciiBlank c = true
    · simp only [act_text, hv, hblank, Bool.and_self, if_true] at ha
      cases ha
      refine Or.inr ⟨hunread, fun given' hmore => ?_⟩
      simp only [act_text, hskip given' hmore, hblank, Bool.and_self, if_true]
      rfl
    · by_cases hcomment : c = '#'
      · simp only [act_text, hv, hcomment] at ha
        cases ha
        refine Or.inr ⟨hunread, fun given' hmore => ?_⟩
        simp only [act_text, hskip given' hmore, hcomment]
        rfl
      · simp only [act_text, hblank, hcomment, Bool.and_false, decide_false] at ha
        cases ha
        exact Or.inl ⟨isUnderway_push _ _ _, rfl⟩
  · simp only [act_text, hv, Bool.false_and] at ha
    cases ha
    exact Or.inl ⟨isUnderway_push _ _ _, rfl⟩

theorem greed_unread (hitems : a.top.items = []) (hunread : ¬a.IsUnderway) {greed : Greed}
    (ha : a.act (.greed greed) = .ok a') : a.LeadsTo (.greed greed) a' := by
  rw [act_greed] at ha
  split_ifs at ha with hmode
  · cases ha
    have hsame : (a.setGreed greed).top.isFresh = a.top.isFresh := by
      simp only [setGreed, Frame.isFresh, hitems]
    refine Or.inr ⟨?_, fun given' _ => if_pos hmode⟩
    rw [IsUnderway, hsame]
    exact hunread
  · cases ha

/-- While nothing has been read, an action reads something, and then turns nothing on, or it does
the same under more modes. -/
theorem act_unread (hg : a.IsGrounded) (hunread : ¬a.IsUnderway) {x : Action}
    (ha : a.act x = .ok a') : a.LeadsTo x a' := by
  obtain ⟨houter, hfresh⟩ := not_or.mp hunread
  rw [not_not] at houter
  rw [Bool.not_eq_false] at hfresh
  have hitems : a.top.items = [] := by
    rw [Frame.isFresh, Bool.and_eq_true] at hfresh
    exact List.isEmpty_iff.mp hfresh.2
  have hflags : a.top.flags = a.given.union a.inline := by
    rw [← root_of_outer_nil houter, hg.flags]
  cases x with
  | go mode free =>
    cases ha
    exact Or.inr ⟨hunread, fun _ _ => rfl⟩
  | reject cause => cases ha
  | literal code | set items negated | dot | place which =>
    cases ha
    exact Or.inl ⟨isUnderway_push _ _ _, rfl⟩
  | text c => exact text_unread hflags hunread ha
  | refer index =>
    obtain rfl := eq_of_refer ha
    exact Or.inl ⟨isUnderway_push _ _ _, rfl⟩
  | referNamed name =>
    obtain ⟨index, rfl⟩ := eq_of_referNamed ha
    exact Or.inl ⟨isUnderway_push _ _ _, rfl⟩
  | capture | plain | atomic | scope on off =>
    cases ha
    exact Or.inl ⟨isUnderway_enter _ _ _, rfl⟩
  | named name =>
    obtain ⟨names, rfl⟩ := eq_of_openNamed ha
    exact Or.inl ⟨isUnderway_enter _ _ _, rfl⟩
  | look behind negated =>
    cases ha
    obtain ⟨lookbehindFrom, outermost, h⟩ := openLook_eq a behind negated
    rw [h]
    exact Or.inl ⟨isUnderway_enter _ _ _, rfl⟩
  | condition name =>
    obtain ⟨index, furthest, rfl⟩ := eq_of_openCondition ha
    exact Or.inl ⟨isUnderway_enter _ _ _, rfl⟩
  | branch =>
    obtain rfl := eq_of_nextBranch ha
    have hkind : a.top.kind = .whole := by rw [← root_of_outer_nil houter, hg.kind]
    refine Or.inl ⟨Or.inr ?_, rfl⟩
    simp [Frame.nextBranch, hkind, Frame.isFresh]
  -- no group is open, so there is nothing to close
  | close =>
    rw [act, close, houter] at ha
    dsimp only at ha
    split_ifs at ha
    cases ha
  | loop least most => exact absurd hitems (eq_of_repeatLast ha).1
  | greed greed => exact greed_unread hitems hunread ha
  | turnOn on =>
    obtain ⟨-, -, rfl⟩ := eq_of_turnOn ha
    refine Or.inr ⟨?_, fun given' _ => ?_⟩
    · exact hunread
    · rw [act, turnOn_eq (r := a.under given') houter hfresh on]
      simp only [under, reframe, Flags.union_assoc]

theorem twin_of_unread (hunread : ¬a.IsUnderway)
    (hflags : P a.top.flags (given'.union a.inline)) : Twin P N B given' a (a.under given') := by
  obtain ⟨houter, hfresh⟩ := not_or.mp hunread
  rw [Bool.not_eq_false, Frame.isFresh, Bool.and_eq_true, List.isEmpty_iff, List.isEmpty_iff]
    at hfresh
  refine .mk ⟨.same _, hflags, ?_, ?_, rfl⟩ ?_
  · rw [hfresh.1]
    exact .nil
  · rw [hfresh.2]
    exact .nil
  · rw [not_not.mp houter]
    exact .nil

/-- Where the second reading is while the first one is at a given point. -/
inductive Paired (P : Flags → Flags → Prop) (N : Node → Node → Prop)
    (B : List Node → List Node → Prop) (given : Flags) (a : Reader) : Reader → Prop
  | unread (h : ¬a.IsUnderway) : Paired P N B given a (a.under given)
  | underway {b : Reader} (h : Twin P N B given a b) : Paired P N B given a b

/-- The first reading: it is given `given`, and altogether it turns on `inline`. -/
structure Turns (given inline : Flags) (a : Reader) : Prop where
  isGrounded : a.IsGrounded
  given_eq : a.given = given
  inline_eq : a.IsUnderway → a.inline = inline

/-- What a run turns on altogether is known once something has been read. -/
theorem Turns.of_later {later : Reader} (h : later.Turns given inline) (hg : a.IsGrounded)
    (hgiven : a.given = given)
    (hkeeps : ∀ inline, a.Keeps given inline → later.Keeps given inline) :
    a.Turns given inline := by
  refine ⟨hg, hgiven, fun hunderway => ?_⟩
  have hlater := hkeeps a.inline ⟨hg, hunderway, hgiven, rfl⟩
  rw [← hlater.inline_eq, h.inline_eq hlater.isUnderway]

theorem Paired.mode (h : Paired P N B given' a b) : b.mode = a.mode := by
  cases h with
  | unread => rfl
  | underway h => cases h; rfl

theorem Paired.act (hC : Congruence P N B) (hmore : given.union given' = given')
    (hP : P (given.union inline) (given'.union inline)) (h : Paired P N B given' a b)
    (hg : a.IsGrounded) (ha' : a'.Turns given inline) {x : Action} (ha : a.act x = .ok a') :
    ∃ b', b.act x = .ok b' ∧ Paired P N B given' a' b' := by
  have hgiven : a.given = given := (effect_act ha).given_eq.symm.trans ha'.given_eq
  cases h with
  | underway h =>
    obtain ⟨b', hb, h'⟩ := h.act hC ha
    exact ⟨b', hb, .underway h'⟩
  | unread hunread =>
    rcases act_unread hg hunread ha with ⟨hunderway, hinline⟩ | ⟨hunread', hsame⟩
    · obtain ⟨houter, -⟩ := not_or.mp hunread
      rw [not_not] at houter
      -- the first thing read; the modes of both readings are known from here to the end
      have hflags : P a.top.flags (given'.union a.inline) := by
        rw [← root_of_outer_nil houter, hg.flags, hgiven, ← hinline, ha'.inline_eq hunderway]
        exact hP
      obtain ⟨b', hb, h'⟩ := (twin_of_unread hunread hflags).act hC ha
      exact ⟨b', hb, .underway h'⟩
    · exact ⟨_, hsame given' (hgiven ▸ hmore), .unread hunread'⟩

/-! ## A run -/

theorem Turns.of_play {acts : List Action} (h : a'.Turns given inline) (hg : a.IsGrounded)
    (ha : a.play acts = .ok a') : a.Turns given inline := by
  have hgiven : a'.given = a.given := play_induction given_act rfl ha
  exact h.of_later hg (hgiven.symm.trans h.given_eq) fun _ hkeeps =>
    play_induction Keeps.act hkeeps ha

theorem Paired.play (hC : Congruence P N B) (hmore : given.union given' = given')
    (hP : P (given.union inline) (given'.union inline)) {acts : List Action}
    (h : Paired P N B given' a b) (hg : a.IsGrounded) (ha' : a'.Turns given inline)
    (ha : a.play acts = .ok a') :
    ∃ b', b.play acts = .ok b' ∧ Paired P N B given' a' b' := by
  induction acts generalizing a b with
  | nil =>
    cases ha
    exact ⟨b, rfl, h⟩
  | cons x rest ih =>
    obtain ⟨middle, hx, hrest⟩ := play_cons.mp ha
    have hmiddle : middle.IsGrounded := hg.effect (effect_act hx)
    obtain ⟨next, hnext, h⟩ := h.act hC hmore hP hg (ha'.of_play hmiddle hrest) hx
    obtain ⟨b', hb', h'⟩ := ih h hmiddle hrest
    exact ⟨b', play_cons.mpr ⟨next, hnext, hb'⟩, h'⟩

theorem Paired.step (hC : Congruence P N B) (hmore : given.union given' = given')
    (hP : P (given.union inline) (given'.union inline)) {t : Token}
    (h : Paired P N B given' a b) (hg : a.IsGrounded) (ha' : a'.Turns given inline)
    (ha : a.step t = .ok a') : ∃ b', b.step t = .ok b' ∧ Paired P N B given' a' b' := by
  obtain ⟨acts, hacts⟩ := step_isPlayed a.mode t
  rw [hacts a rfl] at ha
  rw [hacts b h.mode]
  exact h.play hC hmore hP hg ha' ha

theorem Paired.settle (hC : Congruence P N B) (hmore : given.union given' = given')
    (hP : P (given.union inline) (given'.union inline)) (h : Paired P N B given' a b)
    (hg : a.IsGrounded) (ha' : a'.Turns given inline) (ha : a.settle = .ok a') :
    ∃ b', b.settle = .ok b' ∧ Paired P N B given' a' b' := by
  obtain ⟨acts, hacts⟩ := settle_isPlayed a.mode
  rw [hacts a rfl] at ha
  rw [hacts b h.mode]
  exact h.play hC hmore hP hg ha' ha

theorem Turns.of_read {tokens : List Token} (h : a'.Turns given inline) (hg : a.IsGrounded)
    (ha : a.read tokens = .ok a') : a.Turns given inline := by
  have hgiven : a'.given = a.given := read_induction given_act rfl ha
  exact h.of_later hg (hgiven.symm.trans h.given_eq) fun _ hkeeps =>
    read_induction Keeps.act hkeeps ha

theorem Paired.read (hC : Congruence P N B) (hmore : given.union given' = given')
    (hP : P (given.union inline) (given'.union inline)) {tokens : List Token}
    (h : Paired P N B given' a b) (hg : a.IsGrounded) (ha' : a'.Turns given inline)
    (ha : a.read tokens = .ok a') : ∃ b', b.read tokens = .ok b' ∧ Paired P N B given' a' b' := by
  induction tokens generalizing a b with
  | nil =>
    cases ha
    exact ⟨b, rfl, h⟩
  | cons t rest ih =>
    obtain ⟨middle, ht, hrest⟩ := read_cons.mp ha
    have hmiddle : middle.IsGrounded :=
      step_induction (fun _ _ _ h hx => h.effect (effect_act hx)) hg ht
    obtain ⟨next, hnext, h⟩ := h.step hC hmore hP hg (ha'.of_read hmiddle hrest) ht
    obtain ⟨b', hb', h'⟩ := ih h hmiddle hrest
    exact ⟨b', read_cons.mpr ⟨next, hnext, hb'⟩, h'⟩

/-! ## The end of the pattern -/

/-- Both readings end with the same counts, and with trees that are related. -/
theorem Paired.ending (hC : Congruence P N B) (h : Paired P N B given' a b) :
    ∃ top outer, b = a.reframe given' top outer ∧ outer.isEmpty = a.outer.isEmpty ∧
      N a.top.body top.body := by
  cases h with
  | unread => exact ⟨_, _, rfl, rfl, hC.refl _⟩
  | underway h =>
    cases h with
    | mk htop houter => exact ⟨_, _, rfl, isEmpty_of_forall₂ houter, htop.body hC⟩

theorem check_eq_ok {r : Reader} :
    r.check = .ok () ↔ r.outer.isEmpty = true ∧ r.hasConflict = false ∧
      r.furthestCondition ≤ r.groupCount ∧ r.unfixedLookbehind = false ∧
      ((r.given.union r.inline).template && r.hasLoop) = false ∧ r.wideLookbehind = false := by
  unfold check fail
  constructor
  · intro h
    split_ifs at h with houter hconflict hcount hunfixed hloop hwide
    refine ⟨?_, ?_, Nat.not_lt.mp hcount, ?_, ?_, ?_⟩
    · rwa [Bool.not_eq_true, Bool.not_eq_false'] at houter
    · rwa [Bool.not_eq_true] at hconflict
    · rwa [Bool.not_eq_true] at hunfixed
    · rwa [Bool.not_eq_true] at hloop
    · rwa [Bool.not_eq_true] at hwide
  · rintro ⟨houter, hconflict, hcount, hunfixed, hloop, hwide⟩
    simp [houter, hconflict, Nat.not_lt.mpr hcount, hunfixed, hloop, hwide]

theorem check_reframe {top : Frame} {outer : List Frame} (h : a.check = .ok ())
    (houter : outer.isEmpty = a.outer.isEmpty)
    (halphabet : ((given'.union a.inline).ascii && (given'.union a.inline).unicode) = false)
    (htemplate : (given'.union a.inline).template = (a.given.union a.inline).template) :
    (a.reframe given' top outer).check = .ok () := by
  obtain ⟨hnil, -, hfurthest, hunfixed, hloop, hwide⟩ := check_eq_ok.mp h
  refine check_eq_ok.mpr ⟨houter.trans hnil, halphabet, hfurthest, hunfixed, ?_, hwide⟩
  rw [← htemplate] at hloop
  exact hloop

/-- Where the first reading gets to the end of the pattern, the second one does too. -/
theorem reread (hC : Congruence P N B) (hmore : given.union given' = given') {source : List Char}
    {r settled : Reader} (hr : (start given).read (Token.ofChars source) = .ok r)
    (hsettle : r.settle = .ok settled)
    (hP : P (given.union settled.inline) (given'.union settled.inline)) :
    ∃ r' settled', (start given').read (Token.ofChars source) = .ok r' ∧
      r'.settle = .ok settled' ∧ Paired P N B given' settled settled' := by
  have hg := (isGrounded_start given).read hr
  have hgiven : r.given = given := read_induction given_act rfl hr
  have hgiven' : settled.given = given := settle_induction given_act hgiven hsettle
  have hturns : settled.Turns given settled.inline :=
    ⟨hg.settle hsettle, hgiven', fun _ => rfl⟩
  have hturns' : r.Turns given settled.inline :=
    hturns.of_later hg hgiven fun _ hkeeps => settle_induction Keeps.act hkeeps hsettle
  -- the second reading starts as the first one does, only under its own modes
  have hstart : Paired P N B given' (start given) (start given') := by
    have hunread : ¬(start given).IsUnderway := not_or.mpr ⟨not_not.mpr rfl, nofun⟩
    have hunder : (start given).under given' = start given' := by
      rw [under, show (start given).inline = .plain from rfl, Flags.union_plain]
      rfl
    exact hunder ▸ .unread hunread
  obtain ⟨r', hr', h⟩ := hstart.read hC hmore hP (isGrounded_start given) hturns' hr
  obtain ⟨settled', hsettle', h⟩ := h.settle hC hmore hP hg hturns hsettle
  exact ⟨r', settled', hr', hsettle', h⟩

end Reader

/-! ## Modes -/

namespace Flags

variable {given given' inline : Flags}

/-- Modes under which a pattern can be read again that ended up in the modes `f`: they leave the
blanks, the alphabet and the repetitions as they are. -/
structure Suits (given f : Flags) : Prop where
  verbose : given.verbose = true → f.verbose = true
  ascii : given.ascii = true → f.ascii = true
  unicode : given.unicode = true → f.unicode = true
  template : given.template = true → f.template = true

theorem on_of_or {given later : Bool} (h : (given || later) = later) (hon : given = true) :
    later = true := by
  rw [← h, hon]
  rfl

/-- Modes that are in force in the end anyway. -/
theorem Suits.of_union {f : Flags} (h : given.union f = f) : given.Suits f where
  verbose := on_of_or (congrArg Flags.verbose h)
  ascii := on_of_or (congrArg Flags.ascii h)
  unicode := on_of_or (congrArg Flags.unicode h)
  template := on_of_or (congrArg Flags.template h)

/-- A mode that is on later anyway may be given from the start. -/
theorem or_of_later {before given inline : Bool} (hmore : (before || given) = given)
    (hlater : given = true → (before || inline) = true) :
    (given || inline) = (before || inline) := by
  cases before <;> cases given <;> cases inline <;> simp_all

theorem Suits.no_conflict (hmore : given.union given' = given')
    (hnone : ((given.union inline).ascii && (given.union inline).unicode) = false)
    (hs : given'.Suits (given.union inline).settled) :
    ((given'.union inline).ascii && (given'.union inline).unicode) = false := by
  have hascii : (given'.union inline).ascii = (given.union inline).ascii :=
    or_of_later (congrArg Flags.ascii hmore) hs.ascii
  rw [hascii]
  cases ha : (given.union inline).ascii with
  | false => rfl
  | true =>
    rw [ha, Bool.true_and] at hnone
    obtain ⟨-, hinline⟩ := Bool.or_eq_false_iff.mp hnone
    -- the pattern ended up without the Unicode alphabet
    have hgiven' : given'.unicode = false := by
      rw [← Bool.not_eq_true]
      intro hon
      have hoff := hs.unicode hon
      simp only [settled, ha] at hoff
      cases hoff
    show (given'.unicode || inline.unicode) = false
    rw [hgiven', hinline]
    rfl

theorem alike_of_later (hmore : given.union given' = given')
    (hlater : given'.union (given.union inline).settled = (given.union inline).settled) :
    (given.union inline).Alike (given'.union inline) ∧
      (given'.union inline).multiline = (given.union inline).multiline := by
  refine ⟨⟨?_, ?_, ?_, ?_⟩, ?_⟩
  · exact or_of_later (congrArg verbose hmore) (on_of_or (congrArg verbose hlater))
  · exact or_of_later (congrArg ignoreCase hmore) (on_of_or (congrArg ignoreCase hlater))
  · exact or_of_later (congrArg dotAll hmore) (on_of_or (congrArg dotAll hlater))
  · exact or_of_later (congrArg ascii hmore) (on_of_or (congrArg ascii hlater))
  · exact or_of_later (congrArg multiline hmore) (on_of_or (congrArg multiline hlater))

theorem settled_union (hmore : given.union given' = given') :
    (given'.union (given.union inline).settled).settled = (given'.union inline).settled := by
  rw [← hmore]
  simp only [union, settled]
  grind

/-- The modes given are in force in the end. -/
theorem union_settled
    (hnone : ((given.union inline).ascii && (given.union inline).unicode) = false) :
    given.union (given.union inline).settled = (given.union inline).settled := by
  -- the Unicode alphabet is on in the end unless the other one is
  have hunicode : (given.unicode || !(given.ascii || inline.ascii)) =
      !(given.ascii || inline.ascii) := by
    change ((given.ascii || inline.ascii) && (given.unicode || inline.unicode)) = false at hnone
    cases hon : given.unicode with
    | false => rfl
    | true =>
      rw [hon, Bool.true_or, Bool.and_true] at hnone
      rw [hnone]
      rfl
  simp only [union, settled, hunicode, ← Bool.or_assoc, Bool.or_self]

end Flags

/-! ## Two relations of trees -/

/-- Trees of the same width, read under modes with the same blanks. -/
theorem congruence_width : Congruence (fun a b => b.verbose = a.verbose)
    (fun node node' => ∀ groups, node'.width groups = node.width groups)
    (fun branch branch' => ∀ groups, Node.total groups branch' = Node.total groups branch) where
  verbose h := h
  union on h := by rw [Flags.verbose_union, Flags.verbose_union, h]
  within on off h := by rw [Flags.verbose_within, Flags.verbose_within, h]
  leaf _ hleaf groups := by cases hleaf <;> rfl
  backref index _ groups := rfl
  width groups h := h groups
  refl node groups := rfl
  branch {nodes nodes'} h groups := by
    rw [Node.total_flatMap_items, Node.total_flatMap_items]
    induction h with
    | nil => rfl
    | cons hnode _ ih => rw [Node.total_cons, Node.total_cons, hnode, ih]
  sequence h groups := by rw [Node.width_sequence, Node.width_sequence, h]
  choice {branches branches'} h groups := by
    have htotals : branches'.map (Node.total groups) = branches.map (Node.total groups) := by
      induction h with
      | nil => rfl
      | cons hbranch _ ih => rw [List.map_cons, List.map_cons, hbranch, ih]
    rw [Node.width_choice, Node.width_choice, htotals]
  wrap {node node' wrap} h hwrap groups := by
    cases hwrap with
    | group | scope | atomic => exact h groups
    | look => rfl
    | loop least most => rw [Node.width, Node.width, h]
    | greed greed => rw [Node.width_withGreed, Node.width_withGreed, h]
  given index hyes hno groups := by rw [Node.width, Node.width, hyes, hno]

/-- The same trees, read under modes that are the same in all that trees depend on. -/
theorem congruence_eq : Congruence (fun a b => a.Alike b ∧ b.multiline = a.multiline) Eq Eq where
  verbose h := h.1.verbose
  union on h := ⟨h.1.union on, by rw [Flags.multiline_union, Flags.multiline_union, h.2]⟩
  within on off h :=
    ⟨h.1.within on off, by rw [Flags.multiline_within, Flags.multiline_within, h.2]⟩
  leaf h hleaf := by
    cases hleaf <;> dsimp only
    case literal => rw [Frame.rule_of_alike h.1]
    case set => rw [Frame.rule_of_alike h.1, h.1.ascii]
    case dot => rw [h.1.dotAll]
    case place => rw [h.1.ascii, h.2]
  backref index h := by rw [Frame.rule_of_alike h.1]
  width groups h := by rw [h]
  refl node := rfl
  branch h := by
    rw [List.forall₂_eq_eq_eq] at h
    rw [h]
  sequence h := by rw [h]
  choice h := by
    rw [List.forall₂_eq_eq_eq] at h
    rw [h]
  wrap h hwrap := by rw [h]
  given index hyes hno := by rw [hyes, hno]

/-! ## Patterns -/

variable {given given' : Flags} {source : List Char} {parsed : Parsed}

theorem given_of_reads {r settled : Reader}
    (hr : (Reader.start given).read (Token.ofChars source) = .ok r)
    (hsettle : r.settle = .ok settled) : settled.given = given :=
  Reader.settle_induction Reader.given_act (Reader.read_induction Reader.given_act rfl hr) hsettle

theorem union_flags_of_parse (h : parse given source = .ok parsed) :
    given.union parsed.flags = parsed.flags := by
  obtain ⟨r, settled, hr, hsettle, hcheck, rfl⟩ := parse_eq_ok.mp h
  have hgiven : settled.given = given := given_of_reads hr hsettle
  subst hgiven
  exact Flags.union_settled (Reader.check_eq_ok.mp hcheck).2.1

theorem check_again {settled : Reader} (hcheck : settled.check = .ok ())
    (hmore : settled.given.union given' = given') (hs : given'.Suits settled.result.flags)
    (top : Frame) {outer : List Frame} (houter : outer.isEmpty = settled.outer.isEmpty) :
    (settled.reframe given' top outer).check = .ok () := by
  have hconflict : settled.hasConflict = false := (Reader.check_eq_ok.mp hcheck).2.1
  refine Reader.check_reframe hcheck houter (hs.no_conflict hmore hconflict) ?_
  exact Flags.or_of_later (congrArg Flags.template hmore) hs.template

/-- A pattern can be read under more modes, if they leave the blanks, the alphabet and the
repetitions as they are. -/
theorem parse_more (h : parse given source = .ok parsed) (hmore : given.union given' = given')
    (hs : given'.Suits parsed.flags) :
    ∃ parsed', parse given' source = .ok parsed' ∧
      parsed'.flags = (given'.union parsed.flags).settled ∧
      parsed'.groupCount = parsed.groupCount ∧ parsed'.least = parsed.least := by
  obtain ⟨r, settled, hr, hsettle, hcheck, rfl⟩ := parse_eq_ok.mp h
  have hgiven : settled.given = given := given_of_reads hr hsettle
  subst hgiven
  have hverbose := Flags.or_of_later (congrArg Flags.verbose hmore) hs.verbose
  obtain ⟨r', settled', hr', hsettle', hpaired⟩ :=
    Reader.reread congruence_width hmore hr hsettle hverbose
  obtain ⟨top, outer, rfl, houter, hwidth⟩ := hpaired.ending congruence_width
  have hcheck' := check_again hcheck hmore hs top houter
  refine ⟨_, parse_eq_ok.mpr ⟨r', _, hr', hsettle', hcheck', rfl⟩, ?_, rfl, ?_⟩
  · exact (Flags.settled_union hmore).symm
  · exact congrArg Width.least (hwidth settled.groupWidth)

/-- Giving a pattern modes that are in force in it anyway changes nothing. -/
theorem parse_again (h : parse given source = .ok parsed) (hmore : given.union given' = given')
    (hlater : given'.union parsed.flags = parsed.flags) : parse given' source = .ok parsed := by
  obtain ⟨r, settled, hr, hsettle, hcheck, rfl⟩ := parse_eq_ok.mp h
  have hgiven : settled.given = given := given_of_reads hr hsettle
  subst hgiven
  obtain ⟨r', settled', hr', hsettle', hpaired⟩ :=
    Reader.reread congruence_eq hmore hr hsettle (Flags.alike_of_later hmore hlater)
  obtain ⟨top, outer, rfl, houter, hbody⟩ := hpaired.ending congruence_eq
  have hcheck' := check_again hcheck hmore (.of_union hlater) top houter
  have hflags : (given'.union settled.inline).settled = settled.result.flags := by
    rw [← Flags.settled_union hmore]
    show (given'.union settled.result.flags).settled = settled.result.flags
    rw [hlater]
    rfl
  have hresult : (settled.reframe given' top outer).result = settled.result := by
    show Parsed.mk top.body settled.groupCount (given'.union settled.inline).settled
      (top.body.width settled.groupWidth).least = settled.result
    rw [hflags, ← hbody]
    rfl
  exact parse_eq_ok.mpr ⟨r', _, hr', hsettle', hcheck', hresult⟩

end ProblemMatcher.Regex
