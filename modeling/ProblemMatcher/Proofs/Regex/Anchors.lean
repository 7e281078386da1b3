import ProblemMatcher.Proofs.Regex.Captures
import ProblemMatcher.Proofs.Regex.Rereading
import ProblemMatcher.Proofs.Regex.Simulation

/-!
# A pattern without the anchors at its ends

A pattern that begins with a caret is read as well without it, and so is one that ends in a dollar
sign that is not escaped. Neither changes the groups, what stands in them or the modes.

1. `Frame.Begun`: without the caret the frame of the whole pattern lacks one item, on which nothing
   depends, and all other frames are the same. `Frame.BegunAlike` adds that they capture the same.
   So the reading without the caret follows the other one (`parse_of_caret`).
2. `Mode.isSound`: a group number is never read inside a class; kept by every step.
3. `step_dollar`: where a dollar sign can be followed by the end of the pattern, the end can stand in
   its place (`parse_of_dollar`).
-/

namespace ProblemMatcher.Regex

/-! ## A caret in front -/

namespace Frame

variable {f : Frame}

theorem nextBranch_kind_ne_whole (h : f.kind ≠ .whole) : f.nextBranch.kind ≠ .whole := by
  unfold nextBranch
  split
  · nofun
  · exact h

theorem nextBranch_of_whole (h : f.kind = .whole) :
    f.nextBranch = { f with branches := f.branch :: f.branches, items := [], last := .nothing } := by
  unfold nextBranch
  rw [h]

theorem repeated_last (least : Nat) (most : Option Nat) (h : f.items ≠ []) :
    (f.repeated least most).last = .repetition := by
  unfold repeated
  split
  · rfl
  · contradiction

end Frame

/-- Frames at the same point, of which the first began with an item that the second lacks, if it is
the frame of the whole pattern. -/
inductive Frame.Begun (g f : Frame) : Prop
  | inner (kind : g.kind ≠ .whole) (same : f = g)
  | whole (kind : g.kind = .whole) (kind' : f.kind = .whole) (flags : f.flags = g.flags)
    (begun : g.isFresh = false) (last : g.last = .item → f.last = .item ∧ f.items ≠ [])

namespace Frame.Begun

variable {g f : Frame}

theorem flags_eq (h : Begun g f) : f.flags = g.flags := by
  cases h with
  | inner kind same => rw [same]
  | whole kind kind' flags begun last => exact flags

theorem push (h : Begun g f) (node : Node) {node' : Node} (last : LastItem)
    (hnode : g.kind ≠ .whole → f = g → node' = node) :
    Begun (g.push node last) (f.push node' last) := by
  cases h with
  | inner kind same =>
    refine .inner kind ?_
    rw [hnode kind same, same]
  | whole kind kind' flags begun _ =>
    exact .whole kind kind' flags (Bool.and_false _) fun hlast => ⟨hlast, List.cons_ne_nil _ _⟩

theorem opened {kind : FrameKind} {flags flags' : Flags} (hkind : kind ≠ .whole)
    (h : flags' = flags) : Begun { kind, flags } { kind, flags := flags' } :=
  .inner hkind (by rw [h])

/-- Whatever can be read after the first item can be read without it. -/
theorem simulation : Simulation Begun where
  verbose h := by rw [h.flags_eq]
  leaf last h _ := h.push _ last fun _ same => by rw [same]
  backref index h := h.push _ .item fun _ same => by rw [same]
  opened h hkind := opened hkind h.flags_eq
  scope on off h := opened nofun (by rw [h.flags_eq])
  -- a new branch of the whole pattern is empty in both frames, and from there on they agree
  nextBranch {g f} h hopen := by
    cases h with
    | inner kind same =>
      subst same
      exact ⟨hopen, .inner (Frame.nextBranch_kind_ne_whole kind) rfl⟩
    | whole kind kind' flags begun last =>
      refine ⟨fun index yes hgiven => ?_, ?_⟩
      · rw [kind'] at hgiven
        cases hgiven
      · rw [Frame.nextBranch_of_whole kind, Frame.nextBranch_of_whole kind']
        exact .whole kind kind' flags rfl nofun
  ends h hwhole := by
    cases h with
    | inner kind same =>
      subst same
      exact ⟨kind, fun _ => rfl, fun _ _ => rfl⟩
    | whole kind => exact absurd kind hwhole
  closed back h hparent hwhole := by
    cases h with
    | inner kind same =>
      subst same
      exact hparent.push _ .item fun _ _ => rfl
    | whole kind => exact absurd kind hwhole
  repeated {g f} least most h hitem hne := by
    cases h with
    | inner kind same =>
      subst same
      exact ⟨hitem, hne, .inner (by rwa [Frame.repeated_kind]) rfl⟩
    | whole kind kind' flags begun last =>
      obtain ⟨hitem', hne'⟩ := last hitem
      refine ⟨hitem', hne', .whole ?_ ?_ ?_ ?_ ?_⟩
      · rw [Frame.repeated_kind, kind]
      · rw [Frame.repeated_kind, kind']
      · rw [Frame.repeated_flags, Frame.repeated_flags, flags]
      · exact Frame.isFresh_of_items_ne_nil (Frame.repeated_items_ne_nil hne)
      · rw [Frame.repeated_last least most hne]
        nofun
  withGreed {g f} greed h := by
    cases h with
    | inner kind same =>
      subst same
      exact .inner kind rfl
    | whole kind kind' flags begun last =>
      refine .whole kind kind' flags ((Frame.withGreed_isFresh g greed).trans begun) fun hlast => ?_
      obtain ⟨hlast', hne⟩ := last hlast
      exact ⟨hlast', fun hnil => hne ((Frame.withGreed_items f greed).mp hnil)⟩
  -- the caret has been read, so the first reader can turn on nothing at the top any more
  turnOn on h hfresh := by
    cases h with
    | inner kind same =>
      subst same
      exact ⟨hfresh, .inner kind rfl⟩
    | whole kind kind' flags begun last =>
      rw [begun] at hfresh
      cases hfresh

end Frame.Begun

/-- Frames at the same point, as in `Begun`, with the same in their groups. -/
structure Frame.BegunAlike (g f : Frame) : Prop where
  begun : g.Begun f
  captures : f.body.captures = g.body.captures

/-- An item that is no group adds nothing to what is captured; all else that is done keeps it. -/
theorem Frame.BegunAlike.simulation : Simulation BegunAlike where
  verbose h := Begun.simulation.verbose h.begun
  leaf {g f leaf} last h hleaf := by
    refine ⟨Begun.simulation.leaf last h.begun hleaf, ?_⟩
    rw [captures_push, captures_push, h.captures, hleaf.captures_eq_nil, hleaf.captures_eq_nil]
  backref {g f} index h := by
    refine ⟨Begun.simulation.backref index h.begun, ?_⟩
    rw [captures_push, captures_push, h.captures]
    rfl
  opened h hkind := ⟨Begun.simulation.opened h.begun hkind, rfl⟩
  scope on off h := ⟨Begun.simulation.scope on off h.begun, rfl⟩
  nextBranch {g f} h hopen := by
    obtain ⟨hopen', hnext⟩ := Begun.simulation.nextBranch h.begun hopen
    refine ⟨hopen', hnext, ?_⟩
    cases h.begun with
    | inner kind same => rw [same]
    | whole kind kind' =>
      rw [f.captures_nextBranch (by rw [kind']; nofun), g.captures_nextBranch (by rw [kind]; nofun),
        h.captures]
  ends h := Begun.simulation.ends h.begun
  closed {g f parent parent'} back h hparent hwhole := by
    refine ⟨Begun.simulation.closed back h.begun hparent.begun hwhole, ?_⟩
    cases h.begun with
    | inner kind same => rw [captures_push, captures_push, hparent.captures, same]
    | whole kind => exact absurd kind hwhole
  repeated {g f} least most h hitem hne := by
    obtain ⟨hitem', hne', hrepeated⟩ := Begun.simulation.repeated least most h.begun hitem hne
    refine ⟨hitem', hne', hrepeated, ?_⟩
    rw [captures_repeated, captures_repeated, h.captures]
  withGreed {g f} greed h := by
    refine ⟨Begun.simulation.withGreed greed h.begun, ?_⟩
    rw [captures_withGreed, captures_withGreed, h.captures]
  turnOn on h hfresh := by
    obtain ⟨hfresh', hon⟩ := Begun.simulation.turnOn on h.begun hfresh
    exact ⟨hfresh', hon, h.captures⟩

variable {given : Flags} {source : List Char} {parsed : Parsed}

theorem Token.ofChars_cons {c : Char} (hc : c ≠ '\\') (rest : List Char) :
    ofChars (c :: rest) = .char c :: ofChars rest := by
  cases rest with
  | nil =>
    unfold ofChars
    rw [if_neg hc]
  | cons d rest => rw [ofChars, if_neg hc]

/-- What has read the caret alone is followed by what has read nothing. -/
theorem Reader.follows_of_caret {r : Reader} (h : (start given).step (.char '^') = .ok r) :
    Follows Frame.BegunAlike given r (start given) := by
  rw [step, if_neg (by decide)] at h
  change (start given).readItem _ = _ at h
  rw [readItem_char] at h
  cases h
  have hbegun : Frame.BegunAlike ((start given).top.push (.place
      (if given.multiline then .lineStart else .firstLineStart)) .place) (start given).top := by
    refine ⟨.whole rfl rfl rfl rfl fun hlast => ?_, rfl⟩
    cases hlast
  exact .mk hbegun .nil

/-- A pattern that begins with a caret can be read without it. -/
theorem parse_of_caret (h : parse given ('^' :: source) = .ok parsed) :
    ∃ parsed', parse given source = .ok parsed' ∧ parsed.KeepsGroups parsed' := by
  obtain ⟨r, settled, hr, hsettle, hcheck, rfl⟩ := parse_eq_ok.mp h
  have hgiven : settled.given = given := given_of_reads hr hsettle
  rw [Token.ofChars_cons (by decide)] at hr
  obtain ⟨middle, hcaret, hr⟩ := Reader.read_cons.mp hr
  have hfollows := Reader.follows_of_caret hcaret
  obtain ⟨r', hr', hfollows⟩ := hfollows.read Frame.BegunAlike.simulation hr
  obtain ⟨settled', hsettle', hfollows⟩ := hfollows.settle Frame.BegunAlike.simulation hsettle
  cases hfollows with
  | @mk top outer htop houter =>
    -- the checks at the end look at counts and modes, which are the same without the caret
    have hconflict := (Reader.check_eq_ok.mp hcheck).2.1
    have hcheck' : (settled.reframe given top outer).check = .ok () := by
      refine Reader.check_reframe hcheck (isEmpty_of_forall₂ houter) ?_ ?_
      · rw [← hgiven]
        exact hconflict
      · rw [← hgiven]
    refine ⟨_, parse_eq_ok.mpr ⟨r', _, hr', hsettle', hcheck', rfl⟩, rfl, htop.captures, ?_⟩
    show (given.union settled.inline).settled = (settled.given.union settled.inline).settled
    rw [hgiven]

/-! ## Group numbers stand outside of classes -/

/-- What is read is not a group number inside a class. -/
def Mode.isSound : Mode → Bool
  | .escape (.number _ _) (some _) => false
  | _ => true

theorem Mode.isSound_escape_none (rest : EscapeRest) : (Mode.escape rest none).isSound = true := by
  cases rest <;> rfl

namespace Reader

/-- The function never leaves a reader with a group number inside a class. -/
def IsSound (f : Reader → Except Rejection Reader) : Prop :=
  ∀ ⦃r r' : Reader⦄, f r = .ok r' → r'.mode.isSound = true

theorem IsSound.ite {f g : Reader → Except Rejection Reader} {c : Reader → Prop}
    [∀ r, Decidable (c r)] (hf : IsSound f) (hg : IsSound g) :
    IsSound fun r => if c r then f r else g r := by
  intro r r' h
  dsimp only at h
  split_ifs at h
  · exact hf h
  · exact hg h

theorem isSound_fail (fault : Fault) : IsSound fun _ => fail fault := by
  intro r r' h
  cases h

theorem isSound_ok {f : Reader → Reader} (hf : ∀ r, (f r).mode.isSound = true) :
    IsSound fun r => .ok (f r) := by
  intro r r' h
  cases h
  exact hf r

theorem isSound_repeatLast (least : Nat) (most : Option Nat) :
    IsSound (·.repeatLast least most) := by
  intro r r' h
  rw [(eq_of_repeatLast h).2]
  rfl

theorem isSound_escapeItem (c : Char) : IsSound (·.escapeItem c) := by
  intro r r' h
  change r.escapeItem c = .ok r' at h
  unfold escapeItem at h
  split at h
  · cases h
    rfl
  · cases h
    rfl
  · cases h
    rfl
  · cases h
    exact Mode.isSound_escape_none _
  · split_ifs at h
    · cases h
      rfl
    · cases h
    · cases h
      rfl

theorem isSound_readItem (t : Token) : IsSound (·.readItem t) := by
  cases t with
  | loneBackslash => exact isSound_fail _
  | escape c => exact isSound_escapeItem c
  | char c =>
    have hbranch : IsSound (·.nextBranch) := by
      intro r r' h
      rw [eq_of_nextBranch h]
      rfl
    have hclose : IsSound (·.close) := by
      intro r r' h
      obtain ⟨-, -, -, -, -, -, -, hmode, -⟩ := eq_of_close h
      rw [hmode]
      rfl
    have hok : ∀ {f : Reader → Reader}, (∀ r, (f r).mode.isSound = true) →
        IsSound fun r => .ok (f r) := isSound_ok
    unfold readItem
    exact hbranch.ite <| hclose.ite <| (hok fun _ => rfl).ite <| (hok fun _ => rfl).ite <|
      (hok fun _ => rfl).ite <| (isSound_repeatLast _ _).ite <| (isSound_repeatLast _ _).ite <|
      (isSound_repeatLast _ _).ite <| (hok fun _ => rfl).ite <| (hok fun _ => rfl).ite <|
      (hok fun _ => rfl).ite <| (hok fun _ => rfl).ite <| (hok fun _ => rfl).ite (hok fun _ => rfl)

theorem mode_of_member {r r' : Reader} {cls : ClassState} {item : ClassItem}
    (h : r.member cls item = .ok r') : ∃ cls', r'.mode = .inClass cls' := by
  rcases member_eq cls item with ⟨fault, hfails⟩ | ⟨cls', hmember⟩
  · rw [hfails] at h
    cases h
  · rw [hmember] at h
    cases h
    exact ⟨cls', rfl⟩

theorem isSound_member (cls : ClassState) (item : ClassItem) : IsSound (·.member cls item) := by
  intro r r' h
  obtain ⟨cls', hmode⟩ := mode_of_member h
  rw [hmode]
  rfl

theorem isSound_escapeMember (cls : ClassState) (c : Char) : IsSound (·.escapeMember cls c) := by
  -- in a class, a digit begins an octal escape and never a group number
  have hlong : ∀ rest, longEscape? c = some rest →
      (Mode.escape rest (some cls)).isSound = true := by
    intro rest h
    unfold longEscape? at h
    split at h <;> cases h <;> rfl
  intro r r' h
  change r.escapeMember cls c = .ok r' at h
  unfold escapeMember at h
  split at h
  · exact isSound_member _ _ h
  · exact isSound_member _ _ h
  · rename_i rest hrest _ _
    cases h
    exact hlong rest hrest
  · split_ifs at h
    · exact isSound_member _ _ h
    · split at h
      · cases h
        rfl
      · cases h
    · split at h
      · cases h
        rfl
      · exact isSound_member _ _ h

theorem isSound_readMember (cls : ClassState) (t : Token) : IsSound (·.readMember cls t) := by
  intro r r' h
  change r.readMember cls t = .ok r' at h
  unfold readMember at h
  split at h
  · cases h
  · cases h
    rfl
  · cases h
    rfl
  · cases h
    rfl
  · exact isSound_member _ _ h
  · exact isSound_escapeMember _ _ h
  · split at h
    · cases h
      rfl
    · exact isSound_member _ _ h
    · exact isSound_escapeMember _ _ h
    · cases h
  · split_ifs at h
    · cases h
      rfl
    · exact isSound_member _ _ h
  · exact isSound_escapeMember _ _ h

theorem isSound_deliver (cls : Option ClassState) (code : Nat) : IsSound (·.deliver cls code) := by
  cases cls with
  | none => exact isSound_ok fun _ => rfl
  | some cls => exact isSound_member cls _

theorem isSound_resume (rest : EscapeRest) (cls : Option ClassState) (t : Token) :
    IsSound fun r => r.endEscape rest cls >>= (·.resume t) := by
  intro r r' h
  obtain ⟨ended, -, h⟩ := bind_eq_ok.mp h
  unfold resume at h
  split at h
  · exact isSound_readMember _ _ h
  · exact isSound_readItem _ h

/-- An escape that goes on stays in the class it began in. -/
theorem isSound_readEscape {rest : EscapeRest} {cls : Option ClassState}
    (hsound : (Mode.escape rest cls).isSound = true) (t : Token) :
    IsSound (·.readEscape rest cls t) := by
  intro r r' h
  change r.readEscape rest cls t = .ok r' at h
  unfold readEscape at h
  split at h
  · split at h
    · cases h
    · dsimp only at h
      split_ifs at h
      · cases h
      · exact isSound_deliver _ _ h
      · cases h
        rfl
  · split at h
    · cases h
      rfl
    · exact isSound_resume _ _ _ h
  · split_ifs at h
    · cases h
      cases cls with
      | none => rfl
      | some cls => exact hsound
    · exact isSound_resume _ _ _ h
  · split at h
    · split at h
      · dsimp only at h
        split_ifs at h
        · cases h
        · exact isSound_deliver _ _ h
      · exact isSound_resume _ _ _ h
    · exact isSound_resume _ _ _ h
  · cases h
    rfl
  · split at h
    · exact isSound_deliver _ _ h
    · cases h
  · cases h
    rfl
  · exact isSound_resume _ _ _ h
  · exact isSound_resume _ _ _ h
  · cases h

theorem isSound_readBrace (least : List Char) (most : Option (List Char)) (t : Token) :
    IsSound (·.readBrace least most t) := by
  intro r r' h
  change r.readBrace least most t = .ok r' at h
  unfold readBrace at h
  split at h
  · cases h
    rfl
  · split_ifs at h
    · split at h
      · cases h
        rfl
      · cases h
        rfl
    · simp only [closeBrace] at h
      split at h
      · cases h
        rfl
      · split_ifs at h
        · cases h
        · exact isSound_repeatLast _ _ h
      · exact isSound_repeatLast _ _ h
    · exact isSound_readItem _ h
  · exact isSound_readItem _ h

theorem isSound_readGroupKind (t : Token) : IsSound (·.readGroupKind t) := by
  intro r r' h
  change r.readGroupKind t = .ok r' at h
  unfold readGroupKind at h
  split at h
  case h_10 =>
    split at h
    · cases h
      rfl
    · cases h
  case h_11 => cases h
  all_goals
    cases h
    rfl

theorem isSound_readGroupName (use : NameUse) (read : List Char) (t : Token) :
    IsSound (·.readGroupName use read t) := by
  intro r r' h
  change r.readGroupName use read t = .ok r' at h
  unfold readGroupName at h
  dsimp only at h
  split_ifs at h
  · cases h
  · cases use with
    | capture =>
      obtain ⟨names, rfl⟩ := eq_of_openNamed h
      rfl
    | backref =>
      obtain ⟨index, rfl⟩ := eq_of_referNamed h
      rfl
    | condition =>
      obtain ⟨index, furthest, rfl⟩ := eq_of_openCondition h
      rfl
  · cases h
    rfl

theorem isSound_readTurnOn (on : Flags) (t : Token) : IsSound (·.readTurnOn on t) := by
  intro r r' h
  change r.readTurnOn on t = .ok r' at h
  by_cases hclose : t = .char ')'
  · subst hclose
    obtain ⟨-, -, rfl⟩ := eq_of_turnOn h
    rfl
  · unfold readTurnOn at h
    split at h
    · contradiction
    · split_ifs at h
      · cases h
      · cases h
        rfl
    · split_ifs at h
      · cases h
      · cases h
        rfl
    · split at h
      · dsimp only at h
        split_ifs at h
        · cases h
        · cases h
          rfl
      · cases h
    · cases h

theorem isSound_readTurnOff (on off : Flags) (isFirst : Bool) (t : Token) :
    IsSound (·.readTurnOff on off isFirst t) := by
  intro r r' h
  change r.readTurnOff on off isFirst t = .ok r' at h
  unfold readTurnOff at h
  split at h
  · split_ifs at h
    · cases h
    · cases h
      rfl
    · split at h
      · split_ifs at h
        · cases h
        · cases h
          rfl
      · cases h
  · cases h

/-- A step keeps group numbers out of classes. -/
theorem isSound_step {r r' : Reader} {t : Token} (hsound : r.mode.isSound = true)
    (h : r.step t = .ok r') : r'.mode.isSound = true := by
  by_cases hlone : t = .loneBackslash
  · rw [step, if_pos hlone] at h
    cases h
  · rw [step, if_neg hlone] at h
    split at h
    · exact isSound_readItem _ h
    · split_ifs at h
      · cases h
        rfl
      · cases h
        rfl
      · exact isSound_readItem _ h
    · split_ifs at h
      · cases h
        rfl
      · cases h
        exact hsound
    · exact isSound_readBrace _ _ _ h
    · cases h
    · split_ifs at h
      · cases h
        rfl
      · exact isSound_readItem _ h
    · exact isSound_readGroupKind _ h
    · split_ifs at h
      · cases h
        rfl
      · cases h
        exact hsound
    · split_ifs at h
      · cases h
        rfl
      · cases h
        rfl
      · cases h
    · split_ifs at h
      · cases h
        rfl
      · cases h
        rfl
      · cases h
    · exact isSound_readGroupName _ _ _ h
    · exact isSound_readTurnOn _ _ h
    · exact isSound_readTurnOff _ _ _ _ h
    · rename_i hmode
      rw [hmode] at hsound
      exact isSound_readEscape hsound _ h
    · exact isSound_readMember _ _ h

/-- A run keeps group numbers out of classes. -/
theorem isSound_read {r r' : Reader} {tokens : List Token} (hsound : r.mode.isSound = true)
    (h : r.read tokens = .ok r') : r'.mode.isSound = true := by
  induction tokens generalizing r with
  | nil =>
    cases h
    exact hsound
  | cons t rest ih =>
    obtain ⟨middle, ht, h⟩ := read_cons.mp h
    exact ih (isSound_step hsound ht) h

/-! ## A dollar sign at the end -/

theorem readItem_dollar (r : Reader) : ∃ which, r.readItem (.char '$') = .ok (r.place which) := by
  rw [readItem_char]
  exact ⟨_, rfl⟩

theorem mode_of_readMember_dollar {r r' : Reader} {cls : ClassState}
    (h : r.readMember cls (.char '$') = .ok r') : ∃ cls', r'.mode = .inClass cls' := by
  have hbracket : ('$' = ']') = False := by decide
  unfold readMember at h
  cases hstage : cls.stage with
  | start | next =>
    simp only [hstage, hbracket, decide_false, Bool.false_and, Bool.false_eq_true, if_false] at h
    exact mode_of_member h
  | after item | dash item =>
    simp only [hstage] at h
    exact mode_of_member h

theorem settle_of_inClass {r : Reader} (h : ∃ cls, r.mode = .inClass cls) :
    r.settle = fail .unterminatedGroup := by
  obtain ⟨cls, hmode⟩ := h
  rw [settle, hmode]

/-- The reader at the end of the pattern is the one before the dollar sign at its end, apart from
the place that the dollar sign stands for. -/
def EndsAlike (settled ended : Reader) : Prop :=
  settled = ended ∨ ∃ which, settled = ended.place which

/-- Where an item may stand, the dollar sign is one. -/
theorem endsAlike_of_readItem {r r' settled : Reader} (h : r.readItem (.char '$') = .ok r')
    (hs : r'.settle = .ok settled) : EndsAlike settled r := by
  obtain ⟨which, hwhich⟩ := readItem_dollar r
  rw [hwhich] at h
  cases h
  cases hs
  exact Or.inr ⟨which, rfl⟩

/-- An escape of open length ends before a dollar sign as it does before the end of the pattern. -/
theorem resume_dollar {r r' settled : Reader} {rest : EscapeRest} {cls : Option ClassState}
    (hsound : (Mode.escape rest cls).isSound = true) (hmode : r.mode = .escape rest cls)
    (h : r.endEscape rest cls >>= (·.resume (.char '$')) = .ok r') (hs : r'.settle = .ok settled) :
    ∃ ended, r.settle = .ok ended ∧ EndsAlike settled ended := by
  obtain ⟨ended, hended, hresume⟩ := bind_eq_ok.mp h
  -- outside of a class the dollar sign is then read as a place
  have hitem : ended.mode = .ready → EndsAlike settled ended := by
    intro hready
    rw [resume, hready] at hresume
    exact endsAlike_of_readItem hresume hs
  cases cls with
  | none =>
    refine ⟨ended, ?_, hitem ?_⟩
    · rw [settle, hmode]
      exact hended
    · unfold endEscape at hended
      split at hended
      · split_ifs at hended
        · cases hended
        · cases hended
          rfl
      · rw [eq_of_refer hended]
        rfl
      · rw [eq_of_refer hended]
        rfl
      · cases hended
  -- inside of a class the end of the pattern is an error, with the dollar sign and without it
  | some cls =>
    cases rest with
    | hex | nameStart | name => cases hended
    | number first second => cases hsound
    | octal left value =>
      exfalso
      unfold endEscape at hended
      dsimp only at hended
      split_ifs at hended
      · cases hended
      · obtain ⟨cls', hmode'⟩ := mode_of_member hended
        rw [resume, hmode'] at hresume
        rw [settle_of_inClass (mode_of_readMember_dollar hresume)] at hs
        cases hs

theorem settle_of_name {r settled : Reader} {read : List Char} {cls : Option ClassState}
    (h : r.mode = .escape (.name read) cls) : r.settle ≠ .ok settled := by
  rw [settle, h]
  intro hsettle
  cases cls with
  | none | some cls => cases hsettle

/-- Where a dollar sign can be followed by the end of the pattern, the end can stand in its place. -/
theorem step_dollar {r r' settled : Reader} (hsound : r.mode.isSound = true)
    (h : r.step (.char '$') = .ok r') (hs : r'.settle = .ok settled) (houter : settled.outer = []) :
    ∃ ended, r.settle = .ok ended ∧ EndsAlike settled ended := by
  rw [step, if_neg (by decide)] at h
  cases hmode : r.mode with
  | ready =>
    rw [hmode] at h
    exact ⟨r, by rw [settle, hmode], endsAlike_of_readItem h hs⟩
  | afterRepeat =>
    rw [hmode] at h
    exact ⟨r, by rw [settle, hmode], endsAlike_of_readItem h hs⟩
  | comment =>
    rw [hmode] at h
    cases h
    exact ⟨settled, hs, Or.inl rfl⟩
  | brace least most =>
    rw [hmode] at h
    refine ⟨_, by rw [settle, hmode], endsAlike_of_readItem ?_ hs⟩
    cases most with
    | none | some digits => exact h
  -- the parenthesis before the dollar sign stays open
  | groupStart =>
    rw [hmode] at h
    obtain ⟨which, hwhich⟩ := readItem_dollar r.openCapture
    change r.openCapture.readItem (.char '$') = .ok r' at h
    rw [hwhich] at h
    cases h
    cases hs
    cases houter
  | escape rest cls =>
    rw [hmode] at h hsound
    cases rest with
    | hex | nameStart => cases h
    | name read =>
      cases h
      exact absurd hs (settle_of_name rfl)
    | octal left value =>
      cases left with
      | zero | succ left => exact resume_dollar hsound hmode h hs
    | number first second =>
      cases second with
      | none | some second => exact resume_dollar hsound hmode h hs
  -- so does a class
  | inClass cls =>
    rw [hmode] at h
    rw [settle_of_inClass (mode_of_readMember_dollar h)] at hs
    cases hs
  | groupComment =>
    rw [hmode] at h
    dsimp only at h
    rw [if_neg (by decide)] at h
    cases h
    rw [settle, hmode] at hs
    cases hs
  | groupName use read =>
    rw [hmode] at h
    cases use with
    | capture | backref | condition =>
      cases h
      cases hs
  | rejected | groupKind | groupNamed | lookbehindKind | turnOn | turnOff =>
    rw [hmode] at h
    cases h

theorem EndsAlike.check {settled ended : Reader} (h : EndsAlike settled ended) :
    ended.check = settled.check := by
  rcases h with rfl | ⟨which, rfl⟩
  · rfl
  · rfl

theorem EndsAlike.keepsGroups {settled ended : Reader} (h : EndsAlike settled ended) :
    settled.result.KeepsGroups ended.result := by
  rcases h with rfl | ⟨which, rfl⟩
  · exact .refl _
  · refine ⟨rfl, ?_, rfl⟩
    show _ = (ended.top.push (.place which) .place).body.captures
    rw [Frame.captures_push]
    exact (List.append_nil _).symm

end Reader

/-- A pattern that ends in a dollar sign can be read without it, if that does not leave a lone
backslash at the end. -/
theorem parse_of_dollar (hlone : .loneBackslash ∉ Token.ofChars source)
    (h : parse given (source ++ ['$']) = .ok parsed) :
    ∃ parsed', parse given source = .ok parsed' ∧ parsed.KeepsGroups parsed' := by
  obtain ⟨r', settled, hr', hsettle, hcheck, rfl⟩ := parse_eq_ok.mp h
  rw [Token.ofChars_append hlone, Token.ofChars_cons (by decide)] at hr'
  obtain ⟨r, hr, hdollar⟩ := Reader.read_append.mp hr'
  obtain ⟨middle, hstep, hmiddle⟩ := Reader.read_cons.mp hdollar
  cases hmiddle
  obtain ⟨ended, hended, halike⟩ := Reader.step_dollar (Reader.isSound_read rfl hr) hstep hsettle
    (Reader.outer_of_check hcheck)
  exact ⟨ended.result, parse_eq_ok.mpr ⟨r, ended, hr, hended, halike.check.trans hcheck, rfl⟩,
    halike.keepsGroups⟩

end ProblemMatcher.Regex
