import ProblemMatcher.Proofs.Attempt
import ProblemMatcher.Regex

/-!
# What a token does to a reader

`Reader.step` looks at a reader in two ways: at its mode, to see what a token means, and at the
rest, to carry the token out. Here the two are taken apart. An `Action` is one thing that can be
done to a reader, and which actions a token calls for is settled by the mode alone. So two readers
in the same mode take a token by the same actions, and what an action keeps, every step keeps.

1. `IsPlayed`: the functions that are a fixed list of actions, closed under choice and sequence.
2. `isPlayed_readItem`, …: each part of the reader is such a function.
3. `step_isPlayed`, `settle_isPlayed`: so are a step and the end of the pattern, in a given mode.
4. `read_induction`: what an action keeps, a run keeps.
-/

namespace ProblemMatcher.Regex

open ProblemMatcher.Text

/-- A reader can be put into the mode whatever it has read. A comment needs a place where comments
are skipped, and what follows a repetition needs a repetition. -/
def Mode.isFree : Mode → Bool
  | .comment | .afterRepeat => false
  | _ => true

/-- One thing that can be done to a reader. -/
inductive Action
  /-- Nothing but the mode changes. -/
  | go (mode : Mode) (free : mode.isFree = true)
  | reject (cause : Rejection)
  | literal (code : Nat)
  /-- A character that stands for itself, unless blanks and comments are skipped. -/
  | text (c : Char)
  | set (items : List ClassItem) (negated : Bool)
  | dot
  /-- Which place it is depends on what ends a line and on the alphabet. -/
  | place (which : (multiline ascii : Bool) → Place)
  | refer (index : Nat)
  | referNamed (name : List Char)
  | capture
  | named (name : List Char)
  | plain
  | atomic
  | scope (on off : Flags)
  | look (behind negated : Bool)
  | condition (name : List Char)
  | branch
  | close
  | loop (least : Nat) (most : Option Nat)
  /-- Right after a repetition only. -/
  | greed (greed : Greed)
  | turnOn (on : Flags)

namespace Reader

def act (r : Reader) : Action → Except Rejection Reader
  | .go mode _ => .ok { r with mode }
  | .reject cause => .error cause
  | .literal code => .ok (r.literal code)
  | .text c =>
    if r.top.flags.verbose && isAsciiBlank c then .ok { r with mode := .ready }
    else if r.top.flags.verbose && c = '#' then .ok { r with mode := .comment }
    else .ok (r.literal c.toNat)
  | .set items negated => .ok (r.set items negated)
  | .dot => .ok (r.push (.one (if r.top.flags.dotAll then .all else .notLineFeed)))
  | .place which => .ok (r.place (which r.top.flags.multiline r.top.flags.ascii))
  | .refer index => r.refer index
  | .referNamed name => r.referNamed name
  | .capture => .ok r.openCapture
  | .named name => r.openNamed name
  | .plain => .ok (r.enter .plain r.top.flags)
  | .atomic => .ok (r.enter .atomic r.top.flags)
  | .scope on off => .ok (r.enter .scope (r.top.flags.within on off))
  | .look behind negated => .ok (r.openLook behind negated)
  | .condition name => r.openCondition name
  | .branch => r.nextBranch
  | .close => r.close
  | .loop least most => r.repeatLast least most
  | .greed greed => if r.mode = .afterRepeat then .ok (r.setGreed greed) else fail .repeatedRepeat
  | .turnOn on => r.readTurnOn on (.char ')')

theorem act_text (r : Reader) (c : Char) :
    r.act (.text c) =
      if r.top.flags.verbose && isAsciiBlank c then .ok { r with mode := .ready }
      else if r.top.flags.verbose && c = '#' then .ok { r with mode := .comment }
      else .ok (r.literal c.toNat) := rfl

theorem act_greed (r : Reader) (greed : Greed) :
    r.act (.greed greed) =
      if r.mode = .afterRepeat then .ok (r.setGreed greed) else fail .repeatedRepeat := rfl

/-- Does one thing after another. -/
def play (r : Reader) (acts : List Action) : Except Rejection Reader :=
  acts.foldlM act r

theorem play_append (r : Reader) (first second : List Action) :
    r.play (first ++ second) = r.play first >>= (·.play second) :=
  List.foldlM_append ..

theorem play_cons {r r' : Reader} {x : Action} {rest : List Action} :
    r.play (x :: rest) = .ok r' ↔ ∃ middle, r.act x = .ok middle ∧ middle.play rest = .ok r' := by
  rw [play, List.foldlM_cons, bind_eq_ok]
  rfl

/-- What an action keeps, a list of actions keeps. -/
theorem play_induction {P : Reader → Prop}
    (hact : ∀ r x r', P r → r.act x = .ok r' → P r') {r r' : Reader} {acts : List Action}
    (hP : P r) (h : r.play acts = .ok r') : P r' := by
  induction acts generalizing r with
  | nil =>
    cases h
    exact hP
  | cons x rest ih =>
    obtain ⟨middle, hx, h⟩ := play_cons.mp h
    exact ih (hact r x middle hP hx) h

/-- What an action keeps between two readers, a list of actions keeps. -/
theorem play_induction₂ {P : Reader → Reader → Prop}
    (hact : ∀ a r x a' r', P a r → a.act x = .ok a' → r.act x = .ok r' → P a' r')
    {a r a' r' : Reader} {acts : List Action} (hP : P a r) (ha : a.play acts = .ok a')
    (hr : r.play acts = .ok r') : P a' r' := by
  induction acts generalizing a r with
  | nil =>
    cases ha
    cases hr
    exact hP
  | cons x rest ih =>
    obtain ⟨a₁, hax, ha⟩ := play_cons.mp ha
    obtain ⟨r₁, hrx, hr⟩ := play_cons.mp hr
    exact ih (hact a r x a₁ r₁ hP hax hrx) ha hr

/-! ## Functions that are lists of actions -/

/-- The function does the same things to every reader. -/
def IsPlayed (f : Reader → Except Rejection Reader) : Prop :=
  ∃ acts, ∀ r, f r = r.play acts

theorem isPlayed_act (x : Action) : IsPlayed (·.act x) :=
  ⟨[x], fun r => by simp [play]⟩

theorem isPlayed_ok : IsPlayed .ok :=
  ⟨[], fun _ => rfl⟩

theorem isPlayed_fail (fault : Fault) : IsPlayed fun _ => fail fault :=
  isPlayed_act (.reject (.malformed fault))

theorem isPlayed_go (mode : Mode) (free : mode.isFree = true) :
    IsPlayed fun r => .ok { r with mode } :=
  isPlayed_act (.go mode free)

theorem isPlayed_literal (code : Nat) : IsPlayed fun r => .ok (r.literal code) :=
  isPlayed_act (.literal code)

theorem isPlayed_set (items : List ClassItem) (negated : Bool) :
    IsPlayed fun r => .ok (r.set items negated) :=
  isPlayed_act (.set items negated)

theorem isPlayed_place (which : (multiline ascii : Bool) → Place) :
    IsPlayed fun r => .ok (r.place (which r.top.flags.multiline r.top.flags.ascii)) :=
  isPlayed_act (.place which)

theorem IsPlayed.ite {f g : Reader → Except Rejection Reader} (c : Prop) [Decidable c]
    (hf : IsPlayed f) (hg : IsPlayed g) : IsPlayed fun r => if c then f r else g r := by
  by_cases hc : c
  · simpa only [if_pos hc] using hf
  · simpa only [if_neg hc] using hg

theorem IsPlayed.bind {f g : Reader → Except Rejection Reader} (hf : IsPlayed f)
    (hg : IsPlayed g) : IsPlayed fun r => f r >>= g := by
  obtain ⟨first, hf⟩ := hf
  obtain ⟨second, hg⟩ := hg
  refine ⟨first ++ second, fun r => ?_⟩
  rw [play_append, ← hf]
  exact congrArg (f r >>= ·) (funext hg)

/-! ## The parts of a reader -/

theorem isPlayed_literals (cs : List Char) : IsPlayed fun r => .ok (r.literals cs) := by
  induction cs with
  | nil => exact isPlayed_ok
  | cons c rest ih => exact (isPlayed_literal c.toNat).bind ih

/-- Which edge of a word an escape stands for depends on the alphabet in force. -/
theorem escapeItem_of_place {c : Char} {which : Bool → Place}
    (h : ∀ ascii, place? ascii c = some (which ascii)) (r : Reader) :
    r.escapeItem c = .ok (r.place (which r.top.flags.ascii)) := by
  unfold escapeItem
  rw [h]

theorem place?_cases (c : Char) :
    (∃ which : Bool → Place, ∀ ascii, place? ascii c = some (which ascii)) ∨
      ∀ ascii, place? ascii c = none := by
  unfold place?
  split
  · exact Or.inl ⟨fun _ => .textStart, fun _ => rfl⟩
  · exact Or.inl ⟨fun _ => .textEnd, fun _ => rfl⟩
  · exact Or.inl ⟨.wordEdge, fun _ => rfl⟩
  · exact Or.inl ⟨.notWordEdge, fun _ => rfl⟩
  · exact Or.inr fun _ => rfl

theorem isPlayed_escapeItem (c : Char) : IsPlayed (·.escapeItem c) := by
  rcases place?_cases c with ⟨which, h⟩ | h
  · simpa only [escapeItem_of_place h] using isPlayed_place fun _ ascii => which ascii
  · simp only [escapeItem, h]
    split
    · contradiction
    · exact isPlayed_set _ _
    · exact isPlayed_literal _
    · exact isPlayed_go _ rfl
    · exact (isPlayed_go _ rfl).ite _ ((isPlayed_fail _).ite _ (isPlayed_literal _))

/-- The characters that mean something are neither blank nor the start of a comment. -/
theorem readItem_char (r : Reader) (c : Char) :
    r.readItem (.char c) =
      if c = '|' then r.nextBranch
      else if c = ')' then r.close
      else if c = '[' then .ok { r with mode := .inClass {} }
      else if c = '?' then r.repeatLast 0 (some 1)
      else if c = '*' then r.repeatLast 0 none
      else if c = '+' then r.repeatLast 1 none
      else if c = '{' then .ok { r with mode := .brace [] none }
      else if c = '.' then r.act .dot
      else if c = '(' then .ok { r with mode := .groupStart }
      else if c = '^' then r.act (.place fun multiline _ =>
        if multiline then .lineStart else .firstLineStart)
      else if c = '$' then r.act (.place fun multiline _ =>
        if multiline then .lineEnd else .lastLineEnd)
      else r.act (.text c) := by
  by_cases h : isAsciiBlank c = true ∨ c = '#'
  · -- the order of the questions does not matter, since no character answers two of them
    have hne : ∀ d ∈ ['[', '?', '*', '+', '{', '.', '(', '^', '$'], c ≠ d := by
      rintro d hd rfl
      simp only [List.mem_cons, List.not_mem_nil, or_false] at hd
      revert h
      rcases hd with rfl | rfl | rfl | rfl | rfl | rfl | rfl | rfl | rfl <;> decide
    simp only [List.forall_mem_cons, List.not_mem_nil, false_implies, implies_true, and_true] at hne
    simp only [readItem, act, hne, if_false]
  · obtain ⟨hblank, hcomment⟩ := not_or.mp h
    simp [readItem, act, hblank, hcomment]

theorem isPlayed_readItem (t : Token) : IsPlayed (·.readItem t) := by
  cases t with
  | loneBackslash => exact isPlayed_fail _
  | escape c => exact isPlayed_escapeItem c
  | char c =>
    simp only [readItem_char]
    refine (isPlayed_act .branch).ite _ <| (isPlayed_act .close).ite _ <| (isPlayed_go _ rfl).ite _ <|
      (isPlayed_act (.loop _ _)).ite _ <| (isPlayed_act (.loop _ _)).ite _ <|
      (isPlayed_act (.loop _ _)).ite _ <| (isPlayed_go _ rfl).ite _ <| (isPlayed_act _).ite _ <|
      (isPlayed_go _ rfl).ite _ <| (isPlayed_act _).ite _ <| (isPlayed_act _).ite _ (isPlayed_act _)

theorem isPlayed_member (cls : ClassState) (item : ClassItem) : IsPlayed (·.member cls item) := by
  unfold member
  split
  · exact (isPlayed_fail _).ite _ (isPlayed_go _ rfl)
  · exact isPlayed_fail _
  · exact isPlayed_go _ rfl

theorem isPlayed_escapeMember (cls : ClassState) (c : Char) :
    IsPlayed (·.escapeMember cls c) := by
  unfold escapeMember
  split
  · exact isPlayed_member _ _
  · exact isPlayed_member _ _
  · exact isPlayed_go _ rfl
  · refine (isPlayed_member _ _).ite _ ?_
    split
    · exact isPlayed_go _ rfl
    · exact (isPlayed_fail _).ite _ (isPlayed_member _ _)

theorem isPlayed_closeClass (cls : ClassState) (items : List ClassItem) :
    IsPlayed fun r => .ok (r.closeClass cls items) :=
  isPlayed_set _ _

theorem isPlayed_readMember (cls : ClassState) (t : Token) : IsPlayed (·.readMember cls t) := by
  unfold readMember
  split
  · exact isPlayed_fail _
  · exact isPlayed_go _ rfl
  · exact isPlayed_go _ rfl
  · exact isPlayed_closeClass _ _
  · exact isPlayed_member _ _
  · exact isPlayed_escapeMember _ _
  · split
    · exact isPlayed_closeClass _ _
    · exact isPlayed_member _ _
    · exact isPlayed_escapeMember _ _
    · exact isPlayed_fail _
  · exact (isPlayed_closeClass _ _).ite _ (isPlayed_member _ _)
  · exact isPlayed_escapeMember _ _

theorem isPlayed_deliver (cls : Option ClassState) (code : Nat) :
    IsPlayed (·.deliver cls code) := by
  cases cls with
  | none => exact isPlayed_literal code
  | some cls => exact isPlayed_member cls _

theorem isPlayed_endEscape (rest : EscapeRest) (cls : Option ClassState) :
    IsPlayed (·.endEscape rest cls) := by
  unfold endEscape
  split
  · exact (isPlayed_fail _).ite _ (isPlayed_deliver _ _)
  · exact isPlayed_act (.refer _)
  · exact isPlayed_act (.refer _)
  · exact isPlayed_fail _

theorem eq_of_refer {r r' : Reader} {index : Nat} (h : r.refer index = .ok r') :
    r' = r.push (.backref index r.top.rule) := by
  simp only [refer, bind, Except.bind, pure, Except.pure] at h
  by_cases hunknown : r.groupCount < index
  · rw [if_pos hunknown] at h
    cases h
  · by_cases hopen : (!r.isClosed index) = true
    · rw [if_neg hunknown, if_pos hopen] at h
      cases h
    · rw [if_neg hunknown, if_neg hopen] at h
      cases hcheck : r.checkLookbehind index with
      | error cause => rw [hcheck] at h; cases h
      | ok done => rw [hcheck] at h; cases h; rfl

/-- A member of a class leaves the reader in a class that depends on the member alone. -/
theorem member_eq (cls : ClassState) (item : ClassItem) :
    (∃ fault, ∀ r : Reader, r.member cls item = fail fault) ∨
      ∃ cls', ∀ r : Reader, r.member cls item = .ok { r with mode := .inClass cls' } := by
  unfold member
  split
  · rename_i lo hi _
    by_cases h : hi < lo
    · exact Or.inl ⟨_, fun _ => if_pos h⟩
    · exact Or.inr ⟨_, fun _ => if_neg h⟩
  · exact Or.inl ⟨_, fun _ => rfl⟩
  · exact Or.inr ⟨_, fun _ => rfl⟩

/-- What comes after an escape without a fixed length is a member of the class the escape stands
in, or an item. -/
theorem isPlayed_resume (rest : EscapeRest) (cls : Option ClassState) (t : Token) :
    IsPlayed fun r => r.endEscape rest cls >>= (·.resume t) := by
  -- a group number stands outside of classes, so an item comes after it
  have hrefer : ∀ index, IsPlayed fun r => r.refer index >>= (·.resume t) := by
    intro index
    obtain ⟨acts, h⟩ := (isPlayed_act (.refer index)).bind (isPlayed_readItem t)
    refine ⟨acts, fun r => ?_⟩
    rw [← h]
    show r.refer index >>= _ = r.refer index >>= _
    cases hr : r.refer index with
    | error cause => rfl
    | ok r' =>
      show r'.resume t = r'.readItem t
      rw [eq_of_refer hr]
      rfl
  unfold endEscape
  split
  · rename_i value
    by_cases hvalue : value > 255
    · simp only [if_pos hvalue]
      exact isPlayed_fail _
    · simp only [if_neg hvalue]
      cases cls with
      | none =>
        obtain ⟨acts, h⟩ := (isPlayed_literal value).bind (isPlayed_readItem t)
        exact ⟨acts, fun r => h r⟩
      | some cls =>
        rcases member_eq cls (.single value) with ⟨fault, h⟩ | ⟨cls', h⟩
        · simp only [deliver, h]
          exact isPlayed_fail _
        · simp only [deliver, h]
          obtain ⟨acts, h⟩ := (isPlayed_go (.inClass cls') rfl).bind (isPlayed_readMember cls' t)
          exact ⟨acts, fun r => h r⟩
  · exact hrefer _
  · exact hrefer _
  · exact isPlayed_fail _

theorem isPlayed_readEscape (rest : EscapeRest) (cls : Option ClassState) (t : Token) :
    IsPlayed (·.readEscape rest cls t) := by
  unfold readEscape
  split
  · split
    · exact isPlayed_fail _
    · exact ((isPlayed_fail _).ite _ (isPlayed_deliver _ _)).ite _ (isPlayed_go _ rfl)
  · split
    · exact isPlayed_go _ rfl
    · exact isPlayed_resume _ _ _
  · exact (isPlayed_go _ rfl).ite _ (isPlayed_resume _ _ _)
  · split
    · exact ((isPlayed_fail _).ite _ (isPlayed_deliver _ _)).ite _ (isPlayed_resume _ _ _)
    · exact isPlayed_resume _ _ _
  · exact isPlayed_go _ rfl
  · split
    · exact isPlayed_deliver _ _
    · exact isPlayed_fail _
  · exact isPlayed_go _ rfl
  · exact isPlayed_resume _ _ _
  · exact isPlayed_resume _ _ _
  · exact isPlayed_fail _

theorem isPlayed_closeBrace (least : List Char) (most : Option (List Char)) :
    IsPlayed (·.closeBrace least most) := by
  simp only [closeBrace]
  split
  · exact isPlayed_go _ rfl
  · exact (isPlayed_fail _).ite _ (isPlayed_act (.loop _ _))
  · exact isPlayed_act (.loop _ _)

theorem isPlayed_readBrace (least : List Char) (most : Option (List Char)) (t : Token) :
    IsPlayed (·.readBrace least most t) := by
  have htext : IsPlayed fun r => (r.literals (braceText least most)).readItem t :=
    (isPlayed_literals _).bind (isPlayed_readItem t)
  unfold readBrace
  split
  · exact isPlayed_go _ rfl
  · refine IsPlayed.ite _ ?_ ((isPlayed_closeBrace _ _).ite _ htext)
    split
    · exact isPlayed_go _ rfl
    · exact isPlayed_go _ rfl
  · exact htext

theorem isPlayed_readGroupKind (t : Token) : IsPlayed (·.readGroupKind t) := by
  unfold readGroupKind
  split
  · exact isPlayed_go _ rfl
  · exact isPlayed_act .plain
  · exact isPlayed_go _ rfl
  · exact isPlayed_act (.look _ _)
  · exact isPlayed_act (.look _ _)
  · exact isPlayed_go _ rfl
  · exact isPlayed_go _ rfl
  · exact isPlayed_act .atomic
  · exact isPlayed_go _ rfl
  · split
    · exact isPlayed_go _ rfl
    · exact isPlayed_fail _
  · exact isPlayed_fail _

theorem isPlayed_readGroupName (use : NameUse) (read : List Char) (t : Token) :
    IsPlayed (·.readGroupName use read t) := by
  unfold readGroupName
  refine IsPlayed.ite _ ((isPlayed_fail _).ite _ ?_) (isPlayed_go _ rfl)
  cases use with
  | capture => exact isPlayed_act (.named _)
  | backref => exact isPlayed_act (.referNamed _)
  | condition => exact isPlayed_act (.condition _)

theorem isPlayed_readTurnOn (on : Flags) (t : Token) : IsPlayed (·.readTurnOn on t) := by
  by_cases hclose : t = .char ')'
  · subst hclose
    exact isPlayed_act (.turnOn on)
  · unfold readTurnOn
    split
    · contradiction
    · exact (isPlayed_fail _).ite _ (isPlayed_act (.scope _ _))
    · exact (isPlayed_fail _).ite _ (isPlayed_go _ rfl)
    · split
      · exact (isPlayed_fail _).ite _ (isPlayed_go _ rfl)
      · exact isPlayed_fail _
    · exact isPlayed_fail _

theorem isPlayed_readTurnOff (on off : Flags) (isFirst : Bool) (t : Token) :
    IsPlayed (·.readTurnOff on off isFirst t) := by
  unfold readTurnOff
  split
  · refine IsPlayed.ite _ ((isPlayed_fail _).ite _ (isPlayed_act (.scope _ _))) ?_
    split
    · exact (isPlayed_fail _).ite _ (isPlayed_go _ rfl)
    · exact isPlayed_fail _
  · exact isPlayed_fail _

/-! ## A step, and the end of the pattern -/

/-- In a given mode a token does the same things to every reader. -/
theorem step_isPlayed (mode : Mode) (t : Token) :
    ∃ acts, ∀ r : Reader, r.mode = mode → r.step t = r.play acts := by
  -- it is enough to name the part of the reader that the mode leads to
  suffices h : ∃ f, IsPlayed f ∧ ∀ r : Reader, r.mode = mode → r.step t = f r by
    obtain ⟨f, ⟨acts, hf⟩, h⟩ := h
    refine ⟨acts, fun r hr => ?_⟩
    rw [h r hr, hf]
  by_cases ht : t = .loneBackslash
  · exact ⟨_, isPlayed_fail .loneBackslash, fun r _ => by rw [step, if_pos ht]⟩
  have hstay : IsPlayed fun r => .ok (if t = .char ')' then { r with mode := .ready } else r) := by
    simpa only [apply_ite] using (isPlayed_go .ready rfl).ite (t = .char ')') isPlayed_ok
  have hcomment : IsPlayed fun r =>
      .ok (if t = .char '\n' then { r with mode := .ready } else r) := by
    simpa only [apply_ite] using (isPlayed_go .ready rfl).ite (t = .char '\n') isPlayed_ok
  cases mode with
  | ready => exact ⟨_, isPlayed_readItem t, fun r hr => by simp only [step, if_neg ht, hr]⟩
  | afterRepeat =>
    exact ⟨_, (isPlayed_act (.greed .reluctant)).ite (t = .char '?') <|
      (isPlayed_act (.greed .possessive)).ite (t = .char '+') (isPlayed_readItem t),
      fun r hr => by simp only [step, act, if_neg ht, hr, if_true]⟩
  | comment => exact ⟨_, hcomment, fun r hr => by simp only [step, if_neg ht, hr]⟩
  | brace least most =>
    exact ⟨_, isPlayed_readBrace least most t, fun r hr => by simp only [step, if_neg ht, hr]⟩
  | rejected cause =>
    exact ⟨_, isPlayed_act (.reject cause), fun r hr => by simp only [step, if_neg ht, hr]; rfl⟩
  | groupStart =>
    exact ⟨_, (isPlayed_go .groupKind rfl).ite (t = .char '?') <|
      (isPlayed_act .capture).bind (isPlayed_readItem t),
      fun r hr => by simp only [step, if_neg ht, hr]; rfl⟩
  | groupKind =>
    exact ⟨_, isPlayed_readGroupKind t, fun r hr => by simp only [step, if_neg ht, hr]⟩
  | groupComment => exact ⟨_, hstay, fun r hr => by simp only [step, if_neg ht, hr]⟩
  | groupNamed =>
    exact ⟨_, (isPlayed_go (.groupName .capture []) rfl).ite (t = .char '<') <|
      (isPlayed_go (.groupName .backref []) rfl).ite (t = .char '=') (isPlayed_fail .unknownExtension),
      fun r hr => by simp only [step, if_neg ht, hr]⟩
  | lookbehindKind =>
    exact ⟨_, (isPlayed_act (.look true false)).ite (t = .char '=') <|
      (isPlayed_act (.look true true)).ite (t = .char '!') (isPlayed_fail .unknownExtension),
      fun r hr => by simp only [step, if_neg ht, hr]; rfl⟩
  | groupName use read =>
    exact ⟨_, isPlayed_readGroupName use read t, fun r hr => by simp only [step, if_neg ht, hr]⟩
  | turnOn on =>
    exact ⟨_, isPlayed_readTurnOn on t, fun r hr => by simp only [step, if_neg ht, hr]⟩
  | turnOff on off isFirst =>
    exact ⟨_, isPlayed_readTurnOff on off isFirst t,
      fun r hr => by simp only [step, if_neg ht, hr]⟩
  | escape rest cls =>
    exact ⟨_, isPlayed_readEscape rest cls t, fun r hr => by simp only [step, if_neg ht, hr]⟩
  | inClass cls =>
    exact ⟨_, isPlayed_readMember cls t, fun r hr => by simp only [step, if_neg ht, hr]⟩

theorem settle_isPlayed (mode : Mode) :
    ∃ acts, ∀ r : Reader, r.mode = mode → r.settle = r.play acts := by
  suffices h : ∃ f, IsPlayed f ∧ ∀ r : Reader, r.mode = mode → r.settle = f r by
    obtain ⟨f, ⟨acts, hf⟩, h⟩ := h
    refine ⟨acts, fun r hr => ?_⟩
    rw [h r hr, hf]
  cases mode with
  | ready | afterRepeat | comment => exact ⟨_, isPlayed_ok, fun r hr => by rw [settle, hr]⟩
  | brace least most => exact ⟨_, isPlayed_literals _, fun r hr => by rw [settle, hr]⟩
  | rejected cause => exact ⟨_, isPlayed_act (.reject cause), fun r hr => by rw [settle, hr]; rfl⟩
  | escape rest cls =>
    cases cls with
    | none => exact ⟨_, isPlayed_endEscape rest none, fun r hr => by rw [settle, hr]⟩
    | some cls => exact ⟨_, isPlayed_fail .unterminatedGroup, fun r hr => by rw [settle, hr]⟩
  | groupStart | groupKind | groupComment | groupNamed | lookbehindKind | groupName | turnOn
  | turnOff | inClass =>
    exact ⟨_, isPlayed_fail .unterminatedGroup, fun r hr => by rw [settle, hr]⟩

/-- Outside comments an escaped line feed ends what the end of the pattern would end, and is then
an item. -/
theorem step_lineFeed {mode : Mode} (hcomment : mode ≠ .comment) :
    (∃ cause, ∀ r : Reader, r.mode = mode → r.settle = .error cause) ∨
      ∀ r : Reader, r.mode = mode →
        r.step (.escape 'n') = r.settle >>= fun settled => .ok (settled.literal 10) := by
  cases mode with
  | comment => contradiction
  | ready | afterRepeat => exact Or.inr fun r hr => by rw [step, settle, hr]; rfl
  | brace least most => exact Or.inr fun r hr => by rw [step, settle, hr]; rfl
  | rejected cause => exact Or.inl ⟨_, fun r hr => by rw [settle, hr]⟩
  | escape rest cls =>
    cases cls with
    | some cls => exact Or.inl ⟨_, fun r hr => by rw [settle, hr]; rfl⟩
    | none =>
      have hrefer : ∀ (r : Reader) index, r.refer index >>= (·.resume (.escape 'n')) =
          r.refer index >>= fun settled => .ok (settled.literal 10) := by
        intro r index
        cases hr : r.refer index with
        | error cause => rfl
        | ok r' => rw [eq_of_refer hr]; rfl
      cases rest with
      | hex | nameStart | name => exact Or.inl ⟨_, fun r hr => by rw [settle, hr]; rfl⟩
      | octal left value =>
        refine Or.inr fun r hr => ?_
        rw [step, settle, hr]
        have hend : r.endEscape (.octal left value) none =
            if value > 255 then fail .badEscape else .ok (r.literal value) := rfl
        show r.endEscape (.octal left value) none >>= _ = r.endEscape (.octal left value) none >>= _
        rw [hend]
        split_ifs <;> rfl
      | number first second =>
        refine Or.inr fun r hr => ?_
        rw [step, settle, hr]
        cases second with
        | none => exact hrefer r first
        | some second => exact hrefer r (10 * first + second)
  | groupStart | groupKind | groupComment | groupNamed | lookbehindKind | groupName | turnOn
  | turnOff | inClass =>
    exact Or.inl ⟨_, fun r hr => by rw [settle, hr]; rfl⟩

/-! ## A run -/

/-- Takes one token after another. -/
def read (r : Reader) (tokens : List Token) : Except Rejection Reader :=
  tokens.foldlM step r

theorem read_cons {r r' : Reader} {t : Token} {rest : List Token} :
    r.read (t :: rest) = .ok r' ↔ ∃ middle, r.step t = .ok middle ∧ middle.read rest = .ok r' := by
  rw [read, List.foldlM_cons, bind_eq_ok]
  rfl

theorem read_append {r r' : Reader} {first second : List Token} :
    r.read (first ++ second) = .ok r' ↔
      ∃ middle, r.read first = .ok middle ∧ middle.read second = .ok r' := by
  rw [read, List.foldlM_append, bind_eq_ok]
  rfl

section

variable {P : Reader → Prop} (hact : ∀ r x r', P r → r.act x = .ok r' → P r')
include hact

theorem step_induction {r r' : Reader} {t : Token} (hP : P r) (h : r.step t = .ok r') : P r' := by
  obtain ⟨acts, hacts⟩ := step_isPlayed r.mode t
  rw [hacts r rfl] at h
  exact play_induction hact hP h

theorem settle_induction {r r' : Reader} (hP : P r) (h : r.settle = .ok r') : P r' := by
  obtain ⟨acts, hacts⟩ := settle_isPlayed r.mode
  rw [hacts r rfl] at h
  exact play_induction hact hP h

/-- What an action keeps, a run over any tokens keeps. -/
theorem read_induction {r r' : Reader} {tokens : List Token} (hP : P r)
    (h : r.read tokens = .ok r') : P r' := by
  induction tokens generalizing r with
  | nil =>
    cases h
    exact hP
  | cons t rest ih =>
    obtain ⟨middle, ht, h⟩ := read_cons.mp h
    exact ih (step_induction hact hP ht) h

end

end Reader

end ProblemMatcher.Regex
